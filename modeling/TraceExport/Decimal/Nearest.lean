/-
The binary number nearest to a decimal, a tie going to the even mantissa. Decimals beyond the
greatest finite number give infinity, and those too small to be told from zero give zero.
-/
import TraceExport.Decimal.Shortest

namespace TraceExport.Decimal

/-- The quotient rounded to the nearest natural number, a tie to the even one. -/
def roundDiv (num den : Nat) : Nat :=
  let down := num / den
  let rest := 2 * (num % den)
  if rest > den || (rest == den && down % 2 = 1) then down + 1 else down

/-- The magnitude bits of the number nearest to the positive quotient `num / den`. The exponent is
chosen so that the mantissa has fifty-three bits, or is the least there is. A mantissa that rounds
up to fifty-four bits carries into the exponent by itself. -/
def nearestBits (num den : Nat) : Nat :=
  let guess : Int := (Nat.log2 num : Int) - Nat.log2 den
  let fits : Bool := den * Nat.pow 2 guess.toNat ≤ num * Nat.pow 2 (-guess).toNat
  let q : Int := max (if fits then guess - 52 else guess - 53) (-1074)
  let m := roundDiv (num * Nat.pow 2 (-q).toNat) (den * Nat.pow 2 q.toNat)
  min (if m < Nat.pow 2 52 then m else (q + 1074).toNat * Nat.pow 2 52 + m) Binary64.infinityBits

/-- The binary number nearest to `digits * 10 ^ exponent`. -/
def Binary64.nearest (negative : Bool) (digits : Nat) (exponent : Int) : Binary64 :=
  let order : Int := digitCount digits + exponent
  if digits = 0 ∨ order < -400 then .ofMagnitudeBits negative 0
  else if 400 < order then .infinity negative
  else .ofMagnitudeBits negative
    (nearestBits (digits * Nat.pow 10 exponent.toNat) (Nat.pow 10 (-exponent).toNat))

end TraceExport.Decimal
