/-
Records: what a sink is handed for an event. A record has a name, the label of a phase, two
argument fields and two reserved fields, eight texts in all.
-/
import TraceExport.Json.Printer
import TraceExport.Json.Reader
import TraceExport.Text.Quoted

namespace TraceExport

/-- One argument of a record: its name and its rendered value, both empty where there is none. -/
structure Field where
  name : String
  value : String
  deriving DecidableEq, Repr, Inhabited

/-- The field that holds no argument. -/
def Field.blank : Field := ⟨"", ""⟩

/-- What is written for an event. -/
structure Record where
  name : String
  phase : String
  first : Field
  second : Field
  /-- The two texts at the end. -/
  reserved : String × String
  deriving DecidableEq, Repr, Inhabited

namespace Record

/-- The record of an event, whose reserved texts are empty. -/
def ofEvent (name phase : String) (first second : Field) : Record :=
  ⟨name, phase, first, second, ("", "")⟩

/-- The eight texts in order. -/
def fields (r : Record) : List String :=
  [r.name, r.phase, r.first.name, r.first.value, r.second.name, r.second.value, r.reserved.1,
    r.reserved.2]

/-- The record with these eight texts. -/
def ofFields? : List String → Option Record
  | [name, phase, n0, v0, n1, v1, r0, r1] => some ⟨name, phase, ⟨n0, v0⟩, ⟨n1, v1⟩, (r0, r1)⟩
  | _ => none

/-- A description of a record, the reserved texts left out. -/
def describe (r : Record) : String :=
  "EventRecord \x7b name: " ++ Text.quoted r.name ++ ", phase: " ++ Text.quoted r.phase ++
    ", arg_name_0: " ++ Text.quoted r.first.name ++
    ", arg_value_0: " ++ Text.quoted r.first.value ++
    ", arg_name_1: " ++ Text.quoted r.second.name ++
    ", arg_value_1: " ++ Text.quoted r.second.value ++ " \x7d"

/-! ## JSON -/

/-- The members of a record in order, and last the reserved texts. -/
def memberNames : List String :=
  ["name", "phase", "arg_name_0", "arg_value_0", "arg_name_1", "arg_value_1"]

/-- The name of the member that holds the reserved texts. -/
def reservedName : String := "reserved"

/-- A record as a JSON object. -/
def toJson (r : Record) : Json :=
  .object (memberNames.zip ((r.fields.take 6).map .string) ++
    [(reservedName, .array [.string r.reserved.1, .string r.reserved.2])])

/-- The record of the texts of its members. -/
def ofParts? (texts : List String) (reserved : Json) : Option Record := do
  let [a, b] ← reserved.strings? | none
  ofFields? (texts ++ [a, b])

/-- The value of a member that stands once. -/
def member? (members : List (String × Json)) (name : String) : Option Json :=
  match Json.valuesOf name members with
  | [v] => some v
  | _ => none

/-- Reads a record from an object with each of its members once, other members aside, or from an
array of the members' values in order. -/
def ofJson? : Json → Option Record
  | .object members => do
    let texts ← memberNames.mapM fun name => do (← member? members name).string?
    ofParts? texts (← member? members reservedName)
  | .array items =>
    if items.length = 7 then do
      let texts ← (items.take 6).mapM Json.string?
      ofParts? texts (← items[6]?)
    else none
  | _ => none

/-- Reads the JSON text of a record. -/
def parse (text : String) : Option Record := do ofJson? (← Json.parse text)

end Record

end TraceExport
