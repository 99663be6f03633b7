/-
The small parts of a TOML document: blanks, comments, line ends, strings and keys. Each reader
takes its part from the front of a text and leaves the rest.
-/
import TraceExport.Text.Numeral

namespace TraceExport.Toml

/-! ## Blanks, comments and line ends -/

/-- Whether a character is a blank within a line. -/
def isBlank (c : Char) : Bool := c == ' ' || c == '\t'

/-- The text without the blanks in front. -/
def skipBlank (cs : List Char) : List Char := cs.dropWhile isBlank

/-- Whether a character may stand in a comment or in a string: every one but the controls, of which
only the tab may. -/
def isPlain (c : Char) : Bool := c == '\t' || (0x20 ≤ c.toNat && c.toNat ≠ 0x7F)

/-- The text without the line end in front. -/
def newline? : List Char → Option (List Char)
  | '\n' :: rest => some rest
  | '\r' :: '\n' :: rest => some rest
  | _ => none

/-- The text after the end of the line, which may also be the end of the document. -/
def lineEnd? (cs : List Char) : Option (List Char) :=
  if cs.isEmpty then some [] else newline? cs

/-- The text after blanks, a comment where there is one, and the end of the line. -/
def trailing? (cs : List Char) : Option (List Char) :=
  match skipBlank cs with
  | '#' :: rest => lineEnd? (rest.dropWhile isPlain)
  | rest => lineEnd? rest

/-- The text after blanks, comments and line ends. The flag tells whether a comment is open. -/
def gap? : Bool → List Char → Option (List Char)
  | false, ' ' :: cs => gap? false cs
  | false, '\t' :: cs => gap? false cs
  | _, '\n' :: cs => gap? false cs
  | _, '\r' :: '\n' :: cs => gap? false cs
  | false, '#' :: cs => gap? true cs
  | true, c :: cs => if isPlain c then gap? true cs else none
  | true, [] => none
  | false, cs => some cs

/-! ## Escapes -/

/-- The character whose code has these digits, unless the code is a surrogate or too great. -/
def coded? (digits : List Char) : Option Char := do
  let n ← digits.foldlM (fun n c => (Numeral.digit? 16 c).map (n * 16 + ·)) 0
  if n.isValidChar then some (Char.ofNat n) else none

/-- The character that an escape of one letter stands for. -/
def letterEscape? (c : Char) : Option Char :=
  match c with
  | 'b' => some '\x08'
  | 't' => some '\t'
  | 'n' => some '\n'
  | 'f' => some '\x0c'
  | 'r' => some '\r'
  | '"' => some '"'
  | '\\' => some '\\'
  | _ => none

/-! ## Strings -/

/-- Reads a string with escapes after its opening quote. -/
def basic? : List Char → Option (List Char × List Char)
  | [] => none
  | '"' :: rest => some ([], rest)
  | '\\' :: 'u' :: a :: b :: c :: d :: rest => do
    let x ← coded? [a, b, c, d]
    let (s, rest) ← basic? rest
    return (x :: s, rest)
  | '\\' :: 'U' :: a :: b :: c :: d :: e :: f :: g :: h :: rest => do
    let x ← coded? [a, b, c, d, e, f, g, h]
    let (s, rest) ← basic? rest
    return (x :: s, rest)
  | '\\' :: e :: rest => do
    let x ← letterEscape? e
    let (s, rest) ← basic? rest
    return (x :: s, rest)
  | c :: rest =>
    if isPlain c ∧ c ≠ '\\' then do
      let (s, rest) ← basic? rest
      return (c :: s, rest)
    else none

/-- Reads a string without escapes after its opening quote. -/
def literal? : List Char → Option (List Char × List Char)
  | [] => none
  | '\'' :: rest => some ([], rest)
  | c :: rest =>
    if isPlain c then do
      let (s, rest) ← literal? rest
      return (c :: s, rest)
    else none

/-- Reads the end of a string of several lines: three quotes, with up to two before them that
belong to the string. -/
def closing? (q : Char) : List Char → Option (List Char × List Char)
  | a :: b :: c :: rest =>
    if a = q ∧ b = q ∧ c = q then
      match rest with
      | d :: e :: more =>
        if d = q ∧ e = q then some ([q, q], more)
        else if d = q then some ([q], e :: more)
        else some ([], rest)
      | [d] => if d = q then some ([q], []) else some ([], [d])
      | [] => some ([], [])
    else none
  | _ => none

/-- Whether a text starts with blanks and a line end. -/
def endsLine (cs : List Char) : Bool := (newline? (skipBlank cs)).isSome

/-- Reads a string of several lines with escapes, after its opening quotes. The flag tells whether
blanks and line ends are left out, as they are after a backslash that ends a line. -/
def multiBasic? : Bool → List Char → Option (List Char × List Char)
  | _, [] => none
  | skipping, '\n' :: rest =>
    if skipping then multiBasic? true rest
    else do
      let (s, rest) ← multiBasic? false rest
      return ('\n' :: s, rest)
  | skipping, '\r' :: '\n' :: rest =>
    if skipping then multiBasic? true rest
    else do
      let (s, rest) ← multiBasic? false rest
      return ('\n' :: s, rest)
  | _, '\\' :: 'u' :: a :: b :: c :: d :: rest => do
    let x ← coded? [a, b, c, d]
    let (s, rest) ← multiBasic? false rest
    return (x :: s, rest)
  | _, '\\' :: 'U' :: a :: b :: c :: d :: e :: f :: g :: h :: rest => do
    let x ← coded? [a, b, c, d, e, f, g, h]
    let (s, rest) ← multiBasic? false rest
    return (x :: s, rest)
  | _, '\\' :: rest =>
    if endsLine rest then multiBasic? true rest
    else
      match rest with
      | e :: rest => do
        let x ← letterEscape? e
        let (s, rest) ← multiBasic? false rest
        return (x :: s, rest)
      | [] => none
  | skipping, c :: rest =>
    if skipping && isBlank c then multiBasic? true rest
    else
      match closing? '"' (c :: rest) with
      | some found => some found
      | none =>
        if isPlain c then do
          let (s, rest) ← multiBasic? false rest
          return (c :: s, rest)
        else none

/-- Reads a string of several lines without escapes, after its opening quotes. -/
def multiLiteral? : List Char → Option (List Char × List Char)
  | [] => none
  | '\n' :: rest => do
    let (s, rest) ← multiLiteral? rest
    return ('\n' :: s, rest)
  | '\r' :: '\n' :: rest => do
    let (s, rest) ← multiLiteral? rest
    return ('\n' :: s, rest)
  | c :: rest =>
    match closing? '\'' (c :: rest) with
    | some found => some found
    | none =>
      if isPlain c then do
        let (s, rest) ← multiLiteral? rest
        return (c :: s, rest)
      else none

/-- The text without the line end in front, where there is one. -/
def skipNewline (cs : List Char) : List Char := (newline? cs).getD cs

/-- Reads a string of any kind. -/
def string? : List Char → Option (List Char × List Char)
  | '"' :: '"' :: '"' :: rest => multiBasic? false (skipNewline rest)
  | '\'' :: '\'' :: '\'' :: rest => multiLiteral? (skipNewline rest)
  | '"' :: rest => basic? rest
  | '\'' :: rest => literal? rest
  | _ => none

/-! ## Keys -/

/-- Whether a character may stand in a key without quotes. -/
def isBare (c : Char) : Bool := c.isAlphanum || c == '_' || c == '-'

/-- Reads a key without dots. -/
def simpleKey? : List Char → Option (String × List Char)
  | '"' :: rest => (basic? rest).map fun (s, rest) => (String.ofList s, rest)
  | '\'' :: rest => (literal? rest).map fun (s, rest) => (String.ofList s, rest)
  | cs =>
    match cs.span isBare with
    | ([], _) => none
    | (name, rest) => some (String.ofList name, rest)

/-- Reads the parts of a key, with dots and blanks between them. The fuel bounds their number. -/
def keyParts? : Nat → List Char → Option (List String × List Char)
  | 0, _ => none
  | n + 1, cs => do
    let (part, rest) ← simpleKey? (skipBlank cs)
    match skipBlank rest with
    | '.' :: rest => do
      let (parts, rest) ← keyParts? n rest
      return (part :: parts, rest)
    | rest => return ([part], rest)

/-- How many parts a key may have, and how deep values may be nested, plus one. -/
def depthLimit : Nat := 80

/-- Reads a key: the parts before the last one, and the last one. -/
def key? (cs : List Char) : Option ((List String × String) × List Char) := do
  let (parts, rest) ← keyParts? cs.length cs
  let last ← parts.getLast?
  if parts.length < depthLimit then some ((parts.dropLast, last), rest) else none

end TraceExport.Toml
