/-
Numerals in a base up to 36: the value of a digit, the reading of an unsigned numeral below a
limit, and digits of a fixed count. Reading goes from left to right, and the first position at
which something is wrong decides what is reported.
-/
namespace TraceExport.Numeral

/-- What can be wrong with an unsigned numeral. -/
inductive Fault
  | empty
  | badDigit
  | tooLarge
  deriving DecidableEq, Repr

/-- The wording of a fault. -/
def Fault.message : Fault → String
  | .empty => "cannot parse integer from empty string"
  | .badDigit => "invalid digit found in string"
  | .tooLarge => "number too large to fit in target type"

/-! ## Reading -/

/-- The value of an ASCII digit or letter, in either letter case. -/
def digitValue (c : Char) : Option Nat :=
  if '0' ≤ c ∧ c ≤ '9' then some (c.toNat - 48)
  else if 'a' ≤ c ∧ c ≤ 'z' then some (c.toNat - 87)
  else if 'A' ≤ c ∧ c ≤ 'Z' then some (c.toNat - 55)
  else none

/-- The value of a digit of the base. -/
def digit? (base : Nat) (c : Char) : Option Nat :=
  (digitValue c).filter (· < base)

/-- Reads digits onto a value that the earlier ones gave, and keeps it below the limit. -/
def scan (base limit : Nat) : Nat → List Char → Except Fault Nat
  | value, [] => .ok value
  | value, c :: cs =>
    match digit? base c with
    | none => .error .badDigit
    | some d =>
      if value * base + d < limit then scan base limit (value * base + d) cs
      else .error .tooLarge

/-- Reads an unsigned numeral below the limit. One plus sign may stand before the digits. -/
def read (base limit : Nat) : List Char → Except Fault Nat
  | [] => .error .empty
  | ['+'] => .error .badDigit
  | '+' :: cs => scan base limit 0 cs
  | cs => scan base limit 0 cs

/-! ## Writing -/

/-- The capital digit of a value below sixteen. -/
def hexDigit (n : Nat) : Char :=
  if n < 10 then Char.ofNat (48 + n) else Char.ofNat (55 + n)

/-- The last `width` digits of a number in base sixteen, the highest first. -/
def hexDigits : (width : Nat) → Nat → List Char
  | 0, _ => []
  | w + 1, n => hexDigits w (n / 16) ++ [hexDigit (n % 16)]

/-- A number in decimal, with zeros in front up to a width. -/
def padded (width n : Nat) : List Char :=
  let digits := Nat.toDigits 10 n
  List.replicate (width - digits.length) '0' ++ digits

end TraceExport.Numeral
