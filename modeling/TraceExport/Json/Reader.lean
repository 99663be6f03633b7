/-
Reading JSON. The grammar is that of RFC 8259, with its four blanks and nothing more; values may be
nested to any depth.
-/
import TraceExport.Json.Text
import TraceExport.Json.Value

namespace TraceExport.Json

/-- Whether a character may stand between the parts of a text. -/
def isBlank (c : Char) : Bool := c == ' ' || c == '\n' || c == '\r' || c == '\t'

/-- The text without the blanks in front. -/
def skipBlank (cs : List Char) : List Char := cs.dropWhile isBlank

/-! ## Numbers -/

/-- The digits in front of a text, at least one. -/
def digits? (cs : List Char) : Option (List Char × List Char) :=
  match cs.span Char.isDigit with
  | ([], _) => none
  | (ds, rest) => some (ds, rest)

/-- The whole part of a number: a lone zero, or digits that start with none. -/
def whole? : List Char → Option (List Char × List Char)
  | '0' :: rest => some (['0'], rest)
  | cs => digits? cs

/-- The fraction of a number, where there is one. -/
def fraction? : List Char → Option (List Char × List Char)
  | '.' :: rest => do
    let (ds, rest) ← digits? rest
    return ('.' :: ds, rest)
  | cs => some ([], cs)

/-- The exponent of a number, where there is one. -/
def exponent? : List Char → Option (List Char × List Char)
  | e :: rest =>
    if e = 'e' ∨ e = 'E' then
      match rest with
      | s :: more =>
        if s = '+' ∨ s = '-' then do
          let (ds, rest) ← digits? more
          return (e :: s :: ds, rest)
        else do
          let (ds, rest) ← digits? rest
          return (e :: ds, rest)
      | [] => none
    else some ([], e :: rest)
  | [] => some ([], [])

/-- A number in front of a text. -/
def number? (cs : List Char) : Option (List Char × List Char) := do
  let (sign, cs) := match cs with
    | '-' :: rest => (['-'], rest)
    | cs => ([], cs)
  let (w, cs) ← whole? cs
  let (f, cs) ← fraction? cs
  let (e, cs) ← exponent? cs
  return (sign ++ w ++ f ++ e, cs)

/-! ## Values -/

/-- A string after its opening quote, `none` inside for one that is no text. -/
def text? (cs : List Char) : Option (Option String × List Char) := do
  let (ns, rest) ← codes cs
  return ((join ns).map String.ofList, rest)

/-- An object of the members, unless the name of one is no text. -/
def ofMembers (members : List (Option String × Json)) : Json :=
  match members.mapM (fun (k, v) => k.map (·, v)) with
  | some members => .object members
  | none => .unpaired

mutual

/-- A value in front of a text. The fuel bounds the calls. -/
def value : Nat → List Char → Option (Json × List Char)
  | 0, _ => none
  | n + 1, cs =>
    match skipBlank cs with
    | 'n' :: 'u' :: 'l' :: 'l' :: rest => some (.null, rest)
    | 't' :: 'r' :: 'u' :: 'e' :: rest => some (.bool true, rest)
    | 'f' :: 'a' :: 'l' :: 's' :: 'e' :: rest => some (.bool false, rest)
    | '"' :: rest => do
      let (s, rest) ← text? rest
      return (s.elim .unpaired .string, rest)
    | '[' :: rest =>
      match skipBlank rest with
      | ']' :: rest => some (.array [], rest)
      | rest => do
        let (vs, rest) ← items n rest
        return (.array vs, rest)
    | '{' :: rest =>
      match skipBlank rest with
      | '}' :: rest => some (.object [], rest)
      | rest => do
        let (ms, rest) ← members n rest
        return (ofMembers ms, rest)
    | cs => do
      let (ds, rest) ← number? cs
      return (.number (String.ofList ds), rest)

/-- The items of an array up to its closing bracket, at least one. -/
def items : Nat → List Char → Option (List Json × List Char)
  | 0, _ => none
  | n + 1, cs => do
    let (v, rest) ← value n cs
    match skipBlank rest with
    | ']' :: rest => return ([v], rest)
    | ',' :: rest => do
      let (vs, rest) ← items n rest
      return (v :: vs, rest)
    | _ => none

/-- The members of an object up to its closing brace, at least one. -/
def members : Nat → List Char → Option (List (Option String × Json) × List Char)
  | 0, _ => none
  | n + 1, cs =>
    match skipBlank cs with
    | '"' :: rest => do
      let (k, rest) ← text? rest
      match skipBlank rest with
      | ':' :: rest => do
        let (v, rest) ← value n rest
        match skipBlank rest with
        | '}' :: rest => return ([(k, v)], rest)
        | ',' :: rest => do
          let (ms, rest) ← members n rest
          return ((k, v) :: ms, rest)
        | _ => none
      | _ => none
    | _ => none

end

/-- Reads a whole text. A value and the list it stands in each take a character, so two calls for
each character are enough. -/
def read (cs : List Char) : Option Json := do
  let (v, rest) ← value (2 * cs.length + 1) cs
  if (skipBlank rest).isEmpty then some v else none

/-- Reads the JSON text of a value. -/
def parse (s : String) : Option Json := read s.toList

end TraceExport.Json
