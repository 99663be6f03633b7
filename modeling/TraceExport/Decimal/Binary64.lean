/-
Binary floating-point numbers of 64 bits, by their bits: a sign, eleven bits of exponent and
fifty-two of fraction. A finite one is a natural number times a power of two.
-/
namespace TraceExport.Decimal

/-- A binary floating-point number of 64 bits. Numbers are told apart by their bits. -/
structure Binary64 where
  bits : UInt64
  deriving DecidableEq, Repr, Inhabited

/-- What the bits stand for, the sign aside. -/
inductive Magnitude
  | nan
  | infinite
  /-- The number `mantissa * 2 ^ exponent`. -/
  | finite (mantissa : Nat) (exponent : Int)
  deriving DecidableEq, Repr

namespace Binary64

/-- The sign bit. -/
def negative (x : Binary64) : Bool :=
  Nat.pow 2 63 ≤ x.bits.toNat

/-- The eleven bits of the exponent. -/
def exponentField (x : Binary64) : Nat :=
  x.bits.toNat / Nat.pow 2 52 % Nat.pow 2 11

/-- The fifty-two bits of the fraction. -/
def fraction (x : Binary64) : Nat :=
  x.bits.toNat % Nat.pow 2 52

/-- The magnitude. The least exponent belongs to the numbers without a leading bit. -/
def magnitude (x : Binary64) : Magnitude :=
  if x.exponentField = 2047 then
    if x.fraction = 0 then .infinite else .nan
  else if x.exponentField = 0 then .finite x.fraction (-1074)
  else .finite (x.fraction + Nat.pow 2 52) (x.exponentField - 1075)

/-- The number with the given sign and the bits of a magnitude. -/
def ofMagnitudeBits (negative : Bool) (bits : Nat) : Binary64 :=
  ⟨UInt64.ofNat (bits + if negative then Nat.pow 2 63 else 0)⟩

/-- The bits of positive infinity. -/
def infinityBits : Nat := 2047 * Nat.pow 2 52

/-- Infinity with a sign. -/
def infinity (negative : Bool) : Binary64 := ofMagnitudeBits negative infinityBits

/-- The quiet number that is no number, with a sign. -/
def nan (negative : Bool) : Binary64 := ofMagnitudeBits negative (infinityBits + Nat.pow 2 51)

/-- The number with the other sign. -/
def neg (x : Binary64) : Binary64 :=
  ⟨x.bits ^^^ (0x8000000000000000 : UInt64)⟩

end Binary64

end TraceExport.Decimal
