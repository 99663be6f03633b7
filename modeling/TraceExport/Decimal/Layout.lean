/-
Texts of floating-point numbers. The digits are the shortest that read back; a layout says for
which exponents they are written positionally and how an exponent is written. Two layouts are in
use: the one of plain arguments and the one of numbers inside structured arguments.
-/
import TraceExport.Decimal.Shortest

namespace TraceExport.Decimal

/-- How the digits of a number are set out. -/
structure Layout where
  /-- The least exponent of the first digit at which the number is written positionally. -/
  least : Int
  /-- The greatest such exponent. -/
  greatest : Int
  /-- Whether a positive exponent has a plus sign. -/
  plus : Bool
  tie : Tie

/-- The layout of a number that is an argument of its own: positional from `0.0001` up to below
`10 ^ 16`, and an exponent without a plus sign. -/
def Layout.plain : Layout := ⟨-4, 15, false, .up⟩

/-- The layout of a number inside a structured argument: positional from `0.00001` up to below
`10 ^ 16`, and an exponent with its sign. -/
def Layout.nested : Layout := ⟨-5, 15, true, .toEven⟩

namespace Layout

/-- The digits of a decimal with its point, and a fraction in any case. -/
def positional (digits : List Char) (exponent : Int) : List Char :=
  let lead : Int := digits.length + exponent
  if 0 ≤ exponent then
    digits ++ List.replicate exponent.toNat '0' ++ ['.', '0']
  else if 0 < lead then
    digits.take lead.toNat ++ '.' :: digits.drop lead.toNat
  else
    '0' :: '.' :: List.replicate (-lead).toNat '0' ++ digits

/-- The digits with the point after the first one, and the exponent of that digit. -/
def scientific (plus : Bool) (digits : List Char) (exponent : Int) : List Char :=
  let mantissa :=
    match digits with
    | d :: e :: ds => d :: '.' :: e :: ds
    | ds => ds
  let sign := if exponent < 0 then ['-'] else if plus then ['+'] else []
  mantissa ++ 'e' :: sign ++ Nat.toDigits 10 exponent.natAbs

/-- A finite number `m * 2 ^ q` without its sign. -/
def finite (l : Layout) (m : Nat) (q : Int) : List Char :=
  if m = 0 then ['0', '.', '0']
  else
    let d := shortest l.tie m q
    let digits := Nat.toDigits 10 d.digits
    let lead : Int := d.exponent + digits.length - 1
    if l.least ≤ lead ∧ lead ≤ l.greatest then positional digits d.exponent
    else scientific l.plus digits lead

/-- The text of a finite number with its sign, and nothing for the others. -/
def text? (l : Layout) (x : Binary64) : Option (List Char) :=
  match x.magnitude with
  | .finite m q => some ((if x.negative then ['-'] else []) ++ l.finite m q)
  | _ => none

end Layout

end TraceExport.Decimal
