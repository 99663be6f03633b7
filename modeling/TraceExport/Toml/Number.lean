/-
Numbers of TOML: integers of 64 bits in four bases, and floating-point numbers. Single underscores
may stand between digits.
-/
import TraceExport.Decimal.Nearest
import TraceExport.Toml.Lexical
import TraceExport.Toml.Value

namespace TraceExport.Toml

open TraceExport.Decimal

/-! ## Digits -/

/-- Reads further digits. -/
def moreDigits (isDigit : Char → Bool) : List Char → List Char × List Char
  | [] => ([], [])
  | '_' :: c :: rest =>
    if isDigit c then
      let (ds, rest) := moreDigits isDigit rest
      (c :: ds, rest)
    else ([], '_' :: c :: rest)
  | c :: rest =>
    if isDigit c then
      let (ds, rest) := moreDigits isDigit rest
      (c :: ds, rest)
    else ([], c :: rest)

/-- Reads digits, at least one. -/
def digits? (isDigit : Char → Bool) : List Char → Option (List Char × List Char)
  | [] => none
  | c :: rest =>
    if isDigit c then
      let (ds, rest) := moreDigits isDigit rest
      some (c :: ds, rest)
    else none

/-- Reads a sign, where there is one, and tells whether it is a minus. -/
def sign : List Char → Bool × List Char
  | '-' :: rest => (true, rest)
  | '+' :: rest => (false, rest)
  | cs => (false, cs)

/-- The number that digits of a base stand for. -/
def valueIn (base : Nat) (digits : List Char) : Nat :=
  digits.foldl (fun n c => n * base + (Numeral.digitValue c).getD 0) 0

/-- The integer, if it has a place in 64 bits. -/
def int64? (n : Int) : Option Value :=
  if -0x8000000000000000 ≤ n ∧ n < 0x8000000000000000 then some (.int (Int64.ofInt n)) else none

/-! ## Numbers -/

/-- Whether a character is a digit of a base up to sixteen. -/
def isDigitOf (base : Nat) (c : Char) : Bool := (Numeral.digit? base c).isSome

/-- Reads an integer in a base, after the mark of the base. -/
def based? (base : Nat) (cs : List Char) : Option (Value × List Char) := do
  let (ds, rest) ← digits? (isDigitOf base) cs
  return (← int64? (valueIn base ds), rest)

/-- Reads the whole part of a number: a lone zero, or digits that start with none. -/
def whole? : List Char → Option (List Char × List Char)
  | '0' :: rest => some (['0'], rest)
  | cs => digits? Char.isDigit cs

/-- Reads the fraction of a number, where there is one. -/
def fraction? : List Char → Option (List Char × List Char)
  | '.' :: rest => digits? Char.isDigit rest
  | _ => none

/-- Reads the exponent of a number, where there is one. -/
def exponent? : List Char → Option (Int × List Char)
  | c :: rest =>
    if c = 'e' ∨ c = 'E' then do
      let (negative, rest) := sign rest
      let (ds, rest) ← digits? Char.isDigit rest
      let n : Int := valueIn 10 ds
      return (if negative then -n else n, rest)
    else none
  | [] => none

/-- The floating-point number nearest to a decimal. One that is too great to have a place is
refused, unless it is negative. -/
def float? (negative : Bool) (digits : List Char) (exponent : Int) : Option Value :=
  let x := Binary64.nearest negative (valueIn 10 digits) exponent
  if x = Binary64.infinity false then none else some (.float x)

/-- Reads a number in base ten after its sign. -/
def decimal? (negative : Bool) (cs : List Char) : Option (Value × List Char) := do
  let (whole, rest) ← whole? cs
  match fraction? rest with
  | some (fraction, rest) =>
    match exponent? rest with
    | some (e, rest) => return (← float? negative (whole ++ fraction) (e - fraction.length), rest)
    | none => return (← float? negative (whole ++ fraction) (-fraction.length), rest)
  | none =>
    match exponent? rest with
    | some (e, rest) => return (← float? negative whole e, rest)
    | none =>
      let n : Int := valueIn 10 whole
      return (← int64? (if negative then -n else n), rest)

/-- Reads a number. Only those in base ten have a sign. -/
def number? : List Char → Option (Value × List Char)
  | '0' :: 'x' :: rest => based? 16 rest
  | '0' :: 'o' :: rest => based? 8 rest
  | '0' :: 'b' :: rest => based? 2 rest
  | cs =>
    let (negative, rest) := sign cs
    match rest with
    | 'i' :: 'n' :: 'f' :: rest => some (.float (Binary64.infinity negative), rest)
    | 'n' :: 'a' :: 'n' :: rest => some (.float (Binary64.nan negative), rest)
    | rest => decimal? negative rest

end TraceExport.Toml
