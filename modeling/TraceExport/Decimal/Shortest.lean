/-
The shortest decimal that reads back as a given binary number. The reals that round to
`m * 2 ^ q` form an interval around it, whose ends belong to it when `m` is even. For one, two and
up to seventeen digits the two neighbours of the number on that decimal grid are tried; the first
grid with a neighbour in the interval wins, and of two neighbours the nearer one.
-/
import TraceExport.Decimal.Binary64

namespace TraceExport.Decimal

/-- The positive decimal `digits * 10 ^ exponent`. -/
structure Scaled where
  digits : Nat
  exponent : Int
  deriving DecidableEq, Repr

/-- Which of two neighbours at the same distance is taken. -/
inductive Tie
  | up
  | toEven
  deriving DecidableEq, Repr

/-- The number of decimal digits. -/
def digitCount (n : Nat) : Nat := (Nat.toDigits 10 n).length

/-! ## The interval -/

/-- The reals that round to a number, as numerators over one denominator. -/
structure Interval where
  low : Nat
  mid : Nat
  high : Nat
  /-- The common denominator. -/
  unit : Nat
  closed : Bool

/-- The interval of `m * 2 ^ q`. Below a power of two the numbers lie twice as close, so the
interval is shorter there, save at the least exponent. -/
def Interval.of (m : Nat) (q : Int) : Interval :=
  let scale := Nat.pow 2 (q - 2).toNat
  let below := if m = Nat.pow 2 52 ∧ q ≠ -1074 then 1 else 2
  { low := (4 * m - below) * scale
    mid := 4 * m * scale
    high := (4 * m + 2) * scale
    unit := Nat.pow 2 (2 - q).toNat
    closed := m % 2 = 0 }

/-- The exponent `k` with `10 ^ (k - 1) ≤ x < 10 ^ k`, for a positive number at least
`10 ^ (-400)`. -/
def Interval.order (i : Interval) : Int :=
  (digitCount (i.mid * Nat.pow 10 400 / i.unit) : Int) - 400

/-! ## The grids -/

/-- The neighbour of the number on the grid of the multiples of `10 ^ p` that lies in the interval
and is nearer, if one does. -/
def Interval.onGrid (i : Interval) (tie : Tie) (p : Int) : Option Scaled :=
  let den := i.unit * Nat.pow 10 p.toNat
  let num := Nat.pow 10 (-p).toNat
  let down := i.mid * num / den
  let up := down + 1
  let fits (c : Nat) : Bool :=
    if i.closed then i.low * num ≤ c * den && c * den ≤ i.high * num
    else i.low * num < c * den && c * den < i.high * num
  let rest := 2 * (i.mid * num % den)
  let upper : Bool :=
    rest > den || (rest == den && (tie = .up || down % 2 = 1))
  match fits down, fits up with
  | true, true => some ⟨if upper then up else down, p⟩
  | true, false => some ⟨down, p⟩
  | false, true => some ⟨up, p⟩
  | false, false => none

/-- The decimal without zeros at its end. The fuel bounds their number. -/
def Scaled.strip : Nat → Scaled → Scaled
  | 0, d => d
  | n + 1, d => if d.digits % 10 = 0 then strip n ⟨d.digits / 10, d.exponent + 1⟩ else d

/-- The shortest decimal that reads back as the positive number `m * 2 ^ q`. Seventeen digits
always do. -/
def shortest (tie : Tie) (m : Nat) (q : Int) : Scaled :=
  let i := Interval.of m q
  let k := i.order
  let found := (List.range 17).findSome? fun n => i.onGrid tie (k - (n + 1 : Nat))
  (found.getD ⟨i.mid * Nat.pow 10 (17 - k).toNat / (i.unit * Nat.pow 10 (k - 17).toNat), k - 17⟩).strip 18

end TraceExport.Decimal
