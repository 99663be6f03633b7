/-
JSON strings. Written, a quote, a backslash and every control character is an escape, the common
controls by a letter and the others by four digits; every other character stands for itself. Read,
all the escapes of the grammar are known, and two escaped surrogates make one character.
-/
import TraceExport.Text.Numeral

namespace TraceExport.Json

/-! ## Writing -/

/-- The small digit of a value below sixteen. -/
def smallHexDigit (n : Nat) : Char :=
  if n < 10 then Char.ofNat (48 + n) else Char.ofNat (87 + n)

/-- One character inside a string. -/
def escape (c : Char) : List Char :=
  if c = '"' then ['\\', '"']
  else if c = '\\' then ['\\', '\\']
  else if 0x20 ≤ c.toNat then [c]
  else if c = '\n' then ['\\', 'n']
  else if c = '\r' then ['\\', 'r']
  else if c = '\t' then ['\\', 't']
  else if c = '\x08' then ['\\', 'b']
  else if c = '\x0c' then ['\\', 'f']
  else ['\\', 'u', '0', '0', smallHexDigit (c.toNat / 16), smallHexDigit (c.toNat % 16)]

/-- The characters of a string between quotes. -/
def quote (cs : List Char) : List Char :=
  '"' :: (cs.flatMap escape ++ ['"'])

/-- The JSON text of a string. -/
def quoted (s : String) : String := String.ofList (quote s.toList)

/-! ## Reading -/

/-- The value of four digits in base sixteen. -/
def hexValue4? (a b c d : Char) : Option Nat := do
  let a ← Numeral.digit? 16 a
  let b ← Numeral.digit? 16 b
  let c ← Numeral.digit? 16 c
  let d ← Numeral.digit? 16 d
  return ((a * 16 + b) * 16 + c) * 16 + d

/-- The code of an escape of one letter. -/
def letterEscape? (c : Char) : Option Nat :=
  match c with
  | '"' => some 0x22
  | '\\' => some 0x5C
  | '/' => some 0x2F
  | 'b' => some 0x08
  | 'f' => some 0x0C
  | 'n' => some 0x0A
  | 'r' => some 0x0D
  | 't' => some 0x09
  | _ => none

/-- Reads a string after its opening quote: the codes of its characters, surrogates by themselves,
and what follows the closing quote. -/
def codes : List Char → Option (List Nat × List Char)
  | [] => none
  | '"' :: rest => some ([], rest)
  | '\\' :: 'u' :: a :: b :: c :: d :: rest => do
    let n ← hexValue4? a b c d
    let (ns, rest) ← codes rest
    return (n :: ns, rest)
  | '\\' :: e :: rest => do
    let n ← letterEscape? e
    let (ns, rest) ← codes rest
    return (n :: ns, rest)
  | c :: rest =>
    if c.toNat < 0x20 ∨ c = '\\' then none
    else do
      let (ns, rest) ← codes rest
      return (c.toNat :: ns, rest)

/-- Whether a code is the first half of a pair. -/
def isHigh (n : Nat) : Bool := 0xD800 ≤ n && n < 0xDC00

/-- Whether a code is the second half of a pair. -/
def isLow (n : Nat) : Bool := 0xDC00 ≤ n && n < 0xE000

/-- The characters of the codes, unless a surrogate stands alone. -/
def join : List Nat → Option (List Char)
  | [] => some []
  | n :: ns =>
    if isHigh n then
      match ns with
      | [] => none
      | m :: ns =>
        if isLow m then
          (join ns).map (Char.ofNat (0x10000 + (n - 0xD800) * 0x400 + (m - 0xDC00)) :: ·)
        else none
    else if isLow n then none
    else (join ns).map (Char.ofNat n :: ·)

end TraceExport.Json
