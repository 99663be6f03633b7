/-
Dates and times of TOML, and how they are read and written. A time may have a fraction, of which
nine digits count; a date with a time may have an offset.
-/
import TraceExport.Text.Numeral

namespace TraceExport.Toml

/-! ## Values -/

/-- A day of the calendar. -/
structure Date where
  year : Nat
  month : Nat
  day : Nat
  deriving DecidableEq, Repr

/-- A time of the day. -/
structure Time where
  hour : Nat
  minute : Nat
  second : Nat
  nanosecond : Nat
  deriving DecidableEq, Repr

/-- How far a clock is ahead of universal time. -/
inductive Offset
  | utc
  | minutes (minutes : Int)
  deriving DecidableEq, Repr

/-- A date, a time, or both. -/
inductive Datetime
  | date (date : Date)
  | time (time : Time)
  | both (date : Date) (time : Time) (offset : Option Offset)
  deriving DecidableEq, Repr

/-! ## Writing -/

/-- A date as year, month and day. -/
def Date.chars (d : Date) : List Char :=
  Numeral.padded 4 d.year ++ '-' :: Numeral.padded 2 d.month ++ '-' :: Numeral.padded 2 d.day

/-- A fraction of a second without zeros at its end, and nothing for none. -/
def fractionChars (nanosecond : Nat) : List Char :=
  if nanosecond = 0 then []
  else '.' :: ((Numeral.padded 9 nanosecond).reverse.dropWhile (· = '0')).reverse

/-- A time as hour, minute and second with its fraction. -/
def Time.chars (t : Time) : List Char :=
  Numeral.padded 2 t.hour ++ ':' :: Numeral.padded 2 t.minute ++ ':' ::
    Numeral.padded 2 t.second ++ fractionChars t.nanosecond

/-- An offset as a letter, or as hours and minutes behind a sign. -/
def Offset.chars : Offset → List Char
  | .utc => ['Z']
  | .minutes m =>
    (if m < 0 then '-' else '+') :: Numeral.padded 2 (m.natAbs / 60) ++ ':' ::
      Numeral.padded 2 (m.natAbs % 60)

/-- The characters of a date and time. -/
def Datetime.chars : Datetime → List Char
  | .date d => d.chars
  | .time t => t.chars
  | .both d t offset => d.chars ++ 'T' :: t.chars ++ (offset.map Offset.chars).getD []

/-- The text of a date and time. -/
def Datetime.text (d : Datetime) : String := String.ofList d.chars

/-! ## Reading -/

/-- Reads a number of exactly so many digits. -/
def fixed? : (width : Nat) → (value : Nat) → List Char → Option (Nat × List Char)
  | 0, value, cs => some (value, cs)
  | w + 1, value, c :: cs =>
    if c.isDigit then fixed? w (value * 10 + (c.toNat - 48)) cs else none
  | _ + 1, _, [] => none

/-- Reads two digits of a number between two bounds. -/
def two? (least greatest : Nat) (cs : List Char) : Option (Nat × List Char) := do
  let (n, rest) ← fixed? 2 0 cs
  if least ≤ n ∧ n ≤ greatest then some (n, rest) else none

/-- Reads one given character. -/
def only? (c : Char) : List Char → Option (List Char)
  | d :: rest => if d = c then some rest else none
  | [] => none

/-- Whether a year has a day more. -/
def isLeap (year : Nat) : Bool :=
  year % 4 = 0 && (year % 100 ≠ 0 || year % 400 = 0)

/-- The number of days in a month. -/
def daysIn (year month : Nat) : Nat :=
  if month = 2 then if isLeap year then 29 else 28
  else if month ∈ [4, 6, 9, 11] then 30
  else 31

/-- Reads a date. -/
def date? (cs : List Char) : Option (Date × List Char) := do
  let (year, rest) ← fixed? 4 0 cs
  let (month, rest) ← two? 1 12 (← only? '-' rest)
  let (day, rest) ← two? 1 (daysIn year month) (← only? '-' rest)
  return (⟨year, month, day⟩, rest)

/-- Reads the fraction of a second, where there is one. -/
def fraction (cs : List Char) : Nat × List Char :=
  match cs with
  | '.' :: more =>
    let (digits, rest) := more.span Char.isDigit
    if digits.isEmpty then (0, cs)
    else
      let shown := digits.take 9 ++ List.replicate (9 - digits.length) '0'
      (shown.foldl (fun n c => n * 10 + (c.toNat - 48)) 0, rest)
  | _ => (0, cs)

/-- Reads a time. -/
def time? (cs : List Char) : Option (Time × List Char) := do
  let (hour, rest) ← two? 0 23 cs
  let (minute, rest) ← two? 0 59 (← only? ':' rest)
  let (second, rest) ← two? 0 60 (← only? ':' rest)
  let (nanosecond, rest) := fraction rest
  return (⟨hour, minute, second, nanosecond⟩, rest)

/-- Reads an offset. -/
def offset? : List Char → Option (Offset × List Char)
  | c :: rest =>
    if c = 'Z' ∨ c = 'z' then some (.utc, rest)
    else if c = '+' ∨ c = '-' then do
      let (hours, rest) ← two? 0 23 rest
      let (minutes, rest) ← two? 0 59 (← only? ':' rest)
      let total : Int := hours * 60 + minutes
      return (.minutes (if c = '-' then -total else total), rest)
    else none
  | [] => none

/-- Reads the time behind a date, with the letter or blank that parts them. -/
def timeBehind? : List Char → Option (Time × List Char)
  | c :: rest => if c = 'T' ∨ c = 't' ∨ c = ' ' then time? rest else none
  | [] => none

/-- Reads a date and time in front of a text. -/
def datetime? (cs : List Char) : Option (Datetime × List Char) :=
  match date? cs with
  | some (d, rest) =>
    match timeBehind? rest with
    | some (t, rest) =>
      match offset? rest with
      | some (offset, rest) => some (.both d t (some offset), rest)
      | none => some (.both d t none, rest)
    | none => some (.date d, rest)
  | none => (time? cs).map fun (t, rest) => (.time t, rest)

/-- Reads the text of a date and time. -/
def Datetime.parse (text : String) : Option Datetime :=
  match datetime? text.toList with
  | some (d, []) => some d
  | _ => none

end TraceExport.Toml
