/-
Profiles: which categories get a bit of their own, and which kinds of arguments are left out of
records. A profile can be checked, and it can be written and read as JSON.
-/
import TraceExport.Category
import TraceExport.Event.Arg
import TraceExport.Event.Record
import TraceExport.Failure
import TraceExport.Json.Printer
import TraceExport.Json.Reader
import TraceExport.Keyword

namespace TraceExport

/-- What an exporter is set up with. -/
structure Profile where
  /-- The categories with a bit of their own, bit 0 first. -/
  filtered : List String := Category.defaults
  /-- The kinds of arguments whose value is left out. -/
  skipped : List Arg.Kind := [.convertable]
  deriving DecidableEq, Repr, Inhabited

namespace Profile

/-! ## Arguments -/

/-- Whether the values of a kind are left out. -/
def skips (p : Profile) (kind : Arg.Kind) : Bool := p.skipped.contains kind

/-- The profile that leaves nothing out. -/
def renderingAll (p : Profile) : Profile := { p with skipped := [] }

/-- The field of an argument. A skipped value leaves the name alone. -/
def field (p : Profile) (a : Arg) : Field :=
  ⟨a.name, if p.skips a.value.kind then "" else a.value.render⟩

/-- The two fields of a list of arguments. Arguments past the second are not exported. -/
def fields (p : Profile) : List Arg → Field × Field
  | [] => (.blank, .blank)
  | [a] => (p.field a, .blank)
  | a :: b :: _ => (p.field a, p.field b)

/-! ## Checking -/

/-- What is wrong with the first name of a list that is not fit, those before it being known. -/
def firstFault (seen : List String) : List String → Option ProfileFault
  | [] => none
  | name :: names =>
    if name = "" ∨ ',' ∈ name.toList then some (.badName name)
    else if name ∈ Category.catchAlls then some (.reserved name)
    else if name ∈ seen then some (.duplicate name)
    else firstFault (name :: seen) names

/-- Checks that the filtered names fit into the keyword and are each a name of one category. -/
def check (p : Profile) : Except Failure Unit :=
  if Keyword.categoryBits < p.filtered.length then
    .error (.profile (.tooMany p.filtered.length))
  else
    match firstFault [] p.filtered with
    | some fault => .error (.profile fault)
    | none => .ok ()

/-! ## JSON -/

/-- The names of the members of a profile. -/
def filteredName : String := "filtered_categories"

/-- The name of the member that holds the skipped kinds. -/
def skippedName : String := "skipped_arg_kinds"

/-- A profile as a JSON object. -/
def toJson (p : Profile) : Json :=
  .object [
    (filteredName, .array (p.filtered.map .string)),
    (skippedName, .array (p.skipped.map fun kind => .string kind.name))]

/-- Reads a kind, from its name or from an object whose one member has that name and is null. -/
def kindOfJson? : Json → Option Arg.Kind
  | .string name => Arg.Kind.ofName? name
  | .object [(name, .null)] => Arg.Kind.ofName? name
  | _ => none

/-- Reads an array of kinds. -/
def kindsOfJson? : Json → Option (List Arg.Kind)
  | .array items => items.mapM kindOfJson?
  | _ => none

/-- Reads the value that a member has at most once, or takes the default. -/
def readOnce? {α : Type} (default : α) (read : Json → Option α) : List Json → Option α
  | [] => some default
  | [v] => read v
  | _ => none

/-- Reads a profile from an object or from an array of the members' values in order. What is
missing is as by default. -/
def ofJson? : Json → Option Profile
  | .object members => do
    let filtered ← readOnce? Category.defaults Json.strings? (Json.valuesOf filteredName members)
    let skipped ← readOnce? [.convertable] kindsOfJson? (Json.valuesOf skippedName members)
    return ⟨filtered, skipped⟩
  | .array items =>
    match items with
    | [] => some {}
    | [filtered] => do return ⟨← filtered.strings?, [.convertable]⟩
    | [filtered, skipped] => do return ⟨← filtered.strings?, ← kindsOfJson? skipped⟩
    | _ => none
  | _ => none

/-- Reads the JSON text of a profile. -/
def parse (text : String) : Option Profile := do ofJson? (← Json.parse text)

end Profile

end TraceExport
