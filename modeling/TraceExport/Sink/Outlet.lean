/-
Where the records of a sink go: into memory, or as lines onto a stream. A line is a JSON object or
a plain text. A stream can break, and while it is broken every write and every flush fails.
-/
import TraceExport.Event.Record
import TraceExport.Json.Printer

namespace TraceExport.Sink

/-! ## Lines -/

/-- How a record is written as a line. -/
inductive Format
  | json
  | text
  deriving DecidableEq, Repr

/-- The format with a name. -/
def Format.ofName? : String → Option Format
  | "json" => some .json
  | "text" => some .text
  | _ => none

/-- A record as a JSON object, its time in front of its eight texts. -/
def jsonLine (stamp : String) (r : Record) : String :=
  Json.compact (.object [
    ("timestamp", .string stamp), ("fields", .array (r.fields.map .string))]) ++ "\n"

/-- A field with a name, behind a blank. A field without a name is left out. -/
def textField (name value : String) : String :=
  if name = "" then "" else " " ++ name ++ "=" ++ value

/-- A record as plain text: its time, phase, name and fields. -/
def textLine (stamp : String) (r : Record) : String :=
  stamp ++ " [" ++ r.phase ++ "] " ++ r.name ++ textField r.first.name r.first.value ++
    textField r.second.name r.second.value ++ textField r.reserved.1 r.reserved.2 ++ "\n"

/-- The line of a record. -/
def Format.line : Format → String → Record → String
  | .json => jsonLine
  | .text => textLine

/-! ## Streams -/

/-- A stream of lines. Each record that it is handed asks for the time. -/
structure Stream where
  format : Format
  /-- What the clock shows to each record, by the number of records before it. -/
  clock : Nat → String
  broken : Bool := false
  lines : Array String := #[]
  /-- The number of records that were written. -/
  written : Nat := 0
  /-- The number of records that were lost. -/
  lost : Nat := 0

/-- The number of records that the stream was handed. -/
def Stream.handed (s : Stream) : Nat := s.written + s.lost

/-- Writes a record. On a broken stream it is lost and counted. -/
def Stream.write (s : Stream) (r : Record) : Stream :=
  if s.broken then { s with lost := s.lost + 1 }
  else { s with lines := s.lines.push (s.format.line (s.clock s.handed) r), written := s.written + 1 }

/-! ## Outlets -/

/-- Where records go. -/
inductive Outlet
  | memory (records : Array Record)
  | stream (stream : Stream)

/-- Writes a record. -/
def Outlet.write : Outlet → Record → Outlet
  | .memory records, r => .memory (records.push r)
  | .stream s, r => .stream (s.write r)

/-- The records in memory. -/
def Outlet.records : Outlet → Array Record
  | .memory records => records
  | .stream _ => #[]

/-- The lines on the stream. -/
def Outlet.lines : Outlet → Array String
  | .memory _ => #[]
  | .stream s => s.lines

end TraceExport.Sink
