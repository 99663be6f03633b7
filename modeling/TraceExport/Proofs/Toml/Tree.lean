/-
Values and their JSON. Every value has JSON with a text. A tree of truth values, integers and strings
is read back from its JSON: whole numbers as integers, arrays item by item, and objects that have no
name twice as tables.
-/
import TraceExport.Proofs.Event.Arg
import TraceExport.Toml.Value

namespace TraceExport.Toml.Value

open Decimal (Binary64 Layout)

/-! ## JSON with a text -/

theorem floatJson_readable (x : Binary64) : (floatJson x).Readable := by
  obtain ⟨hfinite, hnone⟩ := Layout.nested.text?_parts x
  by_cases hx : x.exponentField = 2047
  · rw [floatJson, hnone hx]
    exact .null
  · obtain ⟨p, hp⟩ := hfinite hx
    rw [floatJson, hp]
    exact .number (by rw [String.toList_ofList]; exact p.isNumber_signed x.negative)

mutual

/-- The JSON of a value has a text. -/
theorem toJson_readable : ∀ v : Value, v.toJson.Readable
  | .bool b => by rw [toJson]; exact .bool b
  | .int n => by rw [toJson]; exact .int n.toInt
  | .float x => by rw [toJson]; exact floatJson_readable x
  | .string s => by rw [toJson]; exact .string s
  | .datetime d => by
    rw [toJson]
    exact .object (List.forall_mem_singleton.2 (.string d.text))
  | .array items => by rw [toJson]; exact .array (itemsJson_readable items)
  | .table entries => by rw [toJson]; exact .object (membersJson_readable entries)

theorem itemsJson_readable : ∀ vs : List Value, ∀ j ∈ itemsJson vs, j.Readable
  | [] => by rw [itemsJson]; exact List.forall_mem_nil _
  | v :: vs => by
    rw [itemsJson]
    exact List.forall_mem_cons.2 ⟨toJson_readable v, itemsJson_readable vs⟩

theorem membersJson_readable : ∀ es : List (String × Value), ∀ m ∈ membersJson es, m.2.Readable
  | [] => by rw [membersJson]; exact List.forall_mem_nil _
  | (k, v) :: es => by
    rw [membersJson]
    exact List.forall_mem_cons.2 ⟨toJson_readable v, membersJson_readable es⟩

end

/-! ## Reading back -/

/-- A tree of truth values, integers and strings, with arrays and tables for its branches. No table
has a key twice. -/
inductive Plain : Value → Prop
  | bool (b : Bool) : Plain (.bool b)
  | int (n : Int64) : Plain (.int n)
  | string (s : String) : Plain (.string s)
  | array {items : List Value} (h : ∀ v ∈ items, Plain v) : Plain (.array items)
  | table {entries : List (String × Value)} (hkeys : (entries.map (·.1)).Nodup)
      (h : ∀ e ∈ entries, Plain e.2) : Plain (.table entries)

/-- The integer that is a whole number. -/
def ofWhole? (n : ℤ) : Option Value :=
  if (Int64.ofInt n).toInt = n then some (.int (Int64.ofInt n)) else none

mutual

/-- Reads a tree. A fraction, a null and an object with a name twice are none. -/
def ofJson? : Json → Option Value
  | .bool b => some (.bool b)
  | .number text => (Json.number text).int?.bind ofWhole?
  | .string s => some (.string s)
  | .array items => (ofItems? items).map .array
  | .object members => if (members.map (·.1)).Nodup then (ofMembers? members).map .table else none
  | _ => none

/-- Reads the trees of an array. -/
def ofItems? : List Json → Option (List Value)
  | [] => some []
  | j :: js => do return (← ofJson? j) :: (← ofItems? js)

/-- Reads the entries of a table. -/
def ofMembers? : List (String × Json) → Option (List (String × Value))
  | [] => some []
  | (k, j) :: ms => do return (k, ← ofJson? j) :: (← ofMembers? ms)

end

theorem ofWhole?_toInt (n : Int64) : ofWhole? n.toInt = some (.int n) := by
  rw [ofWhole?, Int64.ofInt_toInt, if_pos rfl]

theorem int?_int (n : ℤ) : (Json.int n).int? = some n := Int.toInt?_repr n

theorem membersJson_keys (es : List (String × Value)) : (membersJson es).map (·.1) = es.map (·.1) := by
  induction es with
  | nil => rw [membersJson]; rfl
  | cons e es ih => rw [membersJson, List.map_cons, List.map_cons, ih]

mutual

/-- A tree is read back from its JSON. -/
theorem ofJson?_toJson : ∀ v : Value, v.Plain → ofJson? v.toJson = some v
  | .bool b, _ => by rw [toJson, ofJson?]
  | .int n, _ => by
    rw [toJson, Json.int, ofJson?, ← Json.int, int?_int, Option.bind_some, ofWhole?_toInt]
  | .string s, _ => by rw [toJson, ofJson?]
  | .array items, .array h => by
    rw [toJson, ofJson?, ofItems?_itemsJson items h]
    rfl
  | .table entries, .table hkeys h => by
    rw [toJson, ofJson?, membersJson_keys, if_pos hkeys, ofMembers?_membersJson entries h]
    rfl

theorem ofItems?_itemsJson : ∀ vs : List Value, (∀ v ∈ vs, v.Plain) → ofItems? (itemsJson vs) = some vs
  | [], _ => by rw [itemsJson, ofItems?]
  | v :: vs, h => by
    obtain ⟨hv, hvs⟩ := List.forall_mem_cons.1 h
    rw [itemsJson, ofItems?, ofJson?_toJson v hv, ofItems?_itemsJson vs hvs]
    rfl

theorem ofMembers?_membersJson : ∀ es : List (String × Value), (∀ e ∈ es, e.2.Plain) →
    ofMembers? (membersJson es) = some es
  | [], _ => by rw [membersJson, ofMembers?]
  | (k, v) :: es, h => by
    obtain ⟨hv, hes⟩ := List.forall_mem_cons.1 h
    rw [membersJson, ofMembers?, ofJson?_toJson v hv, ofMembers?_membersJson es hes]
    rfl

end

end TraceExport.Toml.Value
