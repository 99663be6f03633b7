/-
Moments of universal time, and how lines show them: JSON lines with date and time, plain lines with
the time alone.
-/
import TraceExport.Sink.Outlet
import TraceExport.Text.Numeral

namespace TraceExport.CommandLine

/-- A moment, in nanoseconds after the start of the year 1970. -/
structure Moment where
  nanoseconds : Nat
  deriving DecidableEq, Repr

namespace Moment

/-- The seconds since the start of the day. -/
def secondOfDay (m : Moment) : Nat := m.nanoseconds / Nat.pow 10 9 % 86400

/-- The nanoseconds since the start of the second. -/
def fraction (m : Moment) : Nat := m.nanoseconds % Nat.pow 10 9

/-- The hour, minute and second with colons between them. -/
def clock (m : Moment) : List Char :=
  Numeral.padded 2 (m.secondOfDay / 3600) ++ ':' :: Numeral.padded 2 (m.secondOfDay / 60 % 60) ++
    ':' :: Numeral.padded 2 (m.secondOfDay % 60)

/-- The year, month and day with hyphens between them. Years are counted from March on, in periods
of 400 years, so that a leap day is the last day of its year. -/
def date (m : Moment) : List Char :=
  let days := m.nanoseconds / Nat.pow 10 9 / 86400 + 719468
  let day := days % 146097
  let year := (day - day / 1460 + day / 36524 - day / 146096) / 365
  let dayOfYear := day - (365 * year + year / 4 - year / 100)
  let month := (5 * dayOfYear + 2) / 153
  let dayOfMonth := dayOfYear - (153 * month + 2) / 5 + 1
  let turned := if month < 10 then 0 else 1
  Numeral.padded 4 (days / 146097 * 400 + year + turned) ++ '-' ::
    Numeral.padded 2 (month + 3 - 12 * turned) ++ '-' :: Numeral.padded 2 dayOfMonth

/-- The fraction of a second in as few groups of three digits as it needs. -/
def groupedFraction (n : Nat) : List Char :=
  if n = 0 then []
  else if n % Nat.pow 10 6 = 0 then '.' :: Numeral.padded 3 (n / Nat.pow 10 6)
  else if n % Nat.pow 10 3 = 0 then '.' :: Numeral.padded 6 (n / Nat.pow 10 3)
  else '.' :: Numeral.padded 9 n

/-- The moment as the lines of a format show it. -/
def stamp (m : Moment) : Sink.Format → String
  | .json =>
    String.ofList (m.date ++ 'T' :: m.clock ++ groupedFraction m.fraction ++ "+00:00".toList)
  | .text => String.ofList (m.clock ++ '.' :: Numeral.padded 6 (m.fraction / Nat.pow 10 3))

end Moment

end TraceExport.CommandLine
