/-
Reading settings from a TOML document. A section is a table, whose unknown keys count for nothing,
or an array of the values of its keys in order. Every key has a type, and some have a default.
-/
import TraceExport.FileFault
import TraceExport.Settings.Basic
import TraceExport.Toml.Reader

namespace TraceExport.Settings

open TraceExport.Toml (Value)

/-! ## Typed values -/

/-- Reads a truth value. -/
def bool? : Value → Option Bool
  | .bool b => some b
  | _ => none

/-- Reads a text. -/
def text? : Value → Option String
  | .string s => some s
  | _ => none

/-- Reads a number that is not negative. -/
def nat? : Value → Option Nat
  | .int n => if 0 ≤ n then some n.toInt.toNat else none
  | _ => none

/-- Reads an array. -/
def list? {α : Type} (read : Value → Option α) : Value → Option (List α)
  | .array items => items.mapM read
  | _ => none

/-- Whether a value holds nothing. -/
def isHollow : Value → Bool
  | .array items => items.isEmpty
  | .table entries => entries.isEmpty
  | _ => false

/-- Reads one of several names, or a table whose one key is such a name and holds nothing. -/
def choice? {α : Type} (ofName? : String → Option α) : Value → Option α
  | .string name => ofName? name
  | .table [(name, v)] => if isHollow v then ofName? name else none
  | _ => none

mutual

/-- A value of any type. A table that starts with the key of a date and time stands for one, and the
entries of any other table are put in the order of their keys. -/
def any? : Value → Option Value
  | .array items => do return .array (← anyItems? items)
  | .table entries =>
    match entries with
    | [] => some (.table [])
    | (key, v) :: rest =>
      if key = Value.datetimeMember then do
        return .datetime (← Toml.Datetime.parse (← text? v))
      else do
        let v ← any? v
        return .table (Value.sorted ((key, v) :: (← anyEntries? rest)))
  | v => some v

/-- The items of an array, each of any type. -/
def anyItems? : List Value → Option (List Value)
  | [] => some []
  | v :: vs => do
    let v ← any? v
    return v :: (← anyItems? vs)

/-- The entries of a table, each of any type. -/
def anyEntries? : List (String × Value) → Option (List (String × Value))
  | [] => some []
  | (key, v) :: es => do
    let v ← any? v
    return (key, v) :: (← anyEntries? es)

end

/-! ## Sections -/

/-- A section, by its keys or by their order. -/
inductive Section
  | keyed (entries : List (String × Value))
  | ordered (items : List Value)

/-- The section of a value. A date and time is a section that sets nothing. -/
def section? : Value → Option Section
  | .table entries => some (.keyed entries)
  | .array items => some (.ordered items)
  | .datetime _ => some (.keyed [])
  | _ => none

namespace Section

/-- The value of a key, which is also known by its place. -/
def find? (s : Section) (place : Nat) (key : String) : Option Value :=
  match s with
  | .keyed entries => entries.lookup key
  | .ordered items => items[place]?

/-- Reads a key that must be there. -/
def required {α : Type} (s : Section) (place : Nat) (key : String) (read : Value → Option α) :
    Option α := do
  read (← s.find? place key)

/-- Reads a key that has a default. -/
def withDefault {α : Type} (s : Section) (place : Nat) (key : String) (default : α)
    (read : Value → Option α) : Option α :=
  match s.find? place key with
  | some v => read v
  | none => some default

/-- Reads a key that may be left out of a table, and has its place in an array. -/
def optional {α : Type} (s : Section) (place : Nat) (key : String) (read : Value → Option α) :
    Option (Option α) :=
  match s.find? place key, s with
  | some v, _ => (read v).map some
  | none, .keyed _ => some none
  | none, .ordered _ => none

end Section

/-- Reads the session. -/
def session? (v : Value) : Option Session := do
  let s ← section? v
  return {
    keyword := ← s.optional 0 "keyword" text?
    categories := ← s.withDefault 1 "categories" [] (list? text?)
    listening := ← s.withDefault 2 "listener_active" true bool? }

/-- Reads the profile. -/
def profile? (v : Value) : Option Profile := do
  let s ← section? v
  return {
    filtered := ← s.withDefault 0 "filtered_categories" Category.defaults (list? text?)
    skipped := ← s.withDefault 1 "skipped_arg_kinds" [.convertable]
      (list? (choice? Arg.Kind.ofName?)) }

/-- Reads the output. -/
def output? (v : Value) : Option Output := do
  let s ← section? v
  return {
    path := ← s.optional 0 "path" text?
    format := ← s.withDefault 1 "format" .json (choice? Sink.Format.ofName?) }

/-- Reads an argument. -/
def argEntry? (v : Value) : Option ArgEntry := do
  let s ← section? v
  return {
    name := ← s.required 0 "name" text?
    value := ← s.required 1 "value" any? }

/-- Reads an event. -/
def eventEntry? (v : Value) : Option EventEntry := do
  let s ← section? v
  return {
    phase := ← s.required 0 "phase" text?
    group := ← s.required 1 "category_group" text?
    name := ← s.required 2 "name" text?
    id := UInt64.ofNat (← s.withDefault 3 "id" 0 nat?)
    args := ← s.withDefault 4 "args" [] (list? argEntry?)
    times := ← s.withDefault 5 "repeat" 1 nat?
    completeEnd := ← s.withDefault 6 "complete_end" false bool? }

/-- Reads all sections. -/
def ofEntries? (entries : List (String × Value)) : Option Settings := do
  let s := Section.keyed entries
  return {
    session := ← s.withDefault 0 "session" {} session?
    profile := ← s.withDefault 1 "export" {} profile?
    output := ← s.withDefault 2 "output" {} output?
    events := ← s.withDefault 3 "events" [] (list? eventEntry?) }

/-- Reads the settings in a document. -/
def parse (document : String) : Option Settings := do ofEntries? (← Toml.parse document)

/-! ## Files -/

/-- Why a file gives no settings. -/
inductive LoadFault
  /-- The file cannot be read. -/
  | unreadable (path : String) (fault : FileFault)
  /-- The file holds no settings. -/
  | malformed (path : String)
  /-- The profile is not fit. -/
  | badProfile (path : String) (error : Failure)
  deriving DecidableEq, Repr

/-- What stands for the place and kind of a mistake in a document. -/
def LoadFault.malformedCause : String := "TOML"

/-- The messages of a fault, the cause last. -/
def LoadFault.chain : LoadFault → List String
  | .unreadable path fault =>
    ["Failed to read config file: " ++ Text.quoted path, fault.message]
  | .malformed path => ["Failed to parse config file: " ++ Text.quoted path, malformedCause]
  | .badProfile path e => ["Invalid [export] section in " ++ Text.quoted path, e.message]

/-- The settings in a file with the given path and content. -/
def load (path content : String) : Except LoadFault Settings :=
  match parse content with
  | none => .error (.malformed path)
  | some s =>
    match s.profile.check with
    | .error e => .error (.badProfile path e)
    | .ok _ => .ok s

end TraceExport.Settings
