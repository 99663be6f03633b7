/-
Values of TOML documents, and the JSON that stands for them.
-/
import TraceExport.Decimal.Layout
import TraceExport.Json.Value
import TraceExport.Toml.Datetime

namespace TraceExport.Toml

open TraceExport.Decimal

/-- A value. The entries of a table have an order, and each key is there once. -/
inductive Value
  | bool (b : Bool)
  | int (n : Int64)
  | float (x : Binary64)
  | string (s : String)
  | datetime (d : Datetime)
  | array (items : List Value)
  | table (entries : List (String × Value))
  deriving Repr, Inhabited

namespace Value

/-- Sorts entries by their keys. -/
def sorted {α : Type} (entries : List (String × α)) : List (String × α) :=
  entries.mergeSort fun a b => a.1 ≤ b.1

/-! ## JSON -/

/-- A floating-point number in JSON, which has none for the infinities and for what is no
number. -/
def floatJson (x : Binary64) : Json :=
  match Layout.nested.text? x with
  | some text => .number (String.ofList text)
  | none => .null

/-- The name of the member that stands for a date and time. -/
def datetimeMember : String := "$__toml_private_datetime"

mutual

/-- The JSON of a value. -/
def toJson : Value → Json
  | .bool b => .bool b
  | .int n => .int n.toInt
  | .float x => floatJson x
  | .string s => .string s
  | .datetime d => .object [(datetimeMember, .string d.text)]
  | .array items => .array (itemsJson items)
  | .table entries => .object (membersJson entries)

/-- The JSON of the items of an array. -/
def itemsJson : List Value → List Json
  | [] => []
  | v :: vs => v.toJson :: itemsJson vs

/-- The JSON of the entries of a table. -/
def membersJson : List (String × Value) → List (String × Json)
  | [] => []
  | (k, v) :: es => (k, v.toJson) :: membersJson es

end

end Value

end TraceExport.Toml
