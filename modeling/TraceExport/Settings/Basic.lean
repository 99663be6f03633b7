/-
Settings: what a run is set up with. They have four sections: the session of the controller, the
profile of the exporter, the output, and the events of the workload.
-/
import TraceExport.Profile
import TraceExport.Registry.Basic
import TraceExport.Sink.Outlet
import TraceExport.Toml.Value
import TraceExport.Workload.Basic

namespace TraceExport

namespace Settings

/-- The session of the controller. -/
structure Session where
  /-- The text of the keyword. -/
  keyword : Option String := none
  /-- The categories to select where there is no keyword. -/
  categories : List String := []
  /-- Whether anybody listens. -/
  listening : Bool := true
  deriving DecidableEq, Repr

/-- Where lines are written, and how. -/
structure Output where
  /-- The file; without one, the standard output. -/
  path : Option String := none
  format : Sink.Format := .json
  deriving DecidableEq, Repr

/-- An argument of an event. -/
structure ArgEntry where
  name : String
  value : Toml.Value
  deriving Repr

/-- An event. -/
structure EventEntry where
  /-- The character of the phase. -/
  phase : String
  group : String
  name : String
  id : UInt64 := 0
  args : List ArgEntry := []
  times : Nat := 1
  completeEnd : Bool := false
  deriving Repr

end Settings

/-- All settings. -/
structure Settings where
  session : Settings.Session := {}
  profile : Profile := {}
  output : Settings.Output := {}
  events : List Settings.EventEntry := []
  deriving Repr

namespace Settings

/-! ## The keyword -/

/-- Why there is no keyword. -/
inductive KeywordFault
  | text (error : Failure)
  | categories (error : Failure)
  deriving DecidableEq, Repr

/-- The messages of a fault, the cause last. -/
def KeywordFault.chain : KeywordFault → List String
  | .text e => [e.message]
  | .categories e => ["Failed to build keyword from session categories", e.message]

/-- The keyword of a session. A text counts before categories; without either there is none. -/
def Session.resolve (s : Session) (r : Registry) : Except KeywordFault (Option Keyword) :=
  match s.keyword with
  | some text =>
    match Keyword.parse text with
    | .ok k => .ok (some k)
    | .error e => .error (.text e)
  | none =>
    if s.categories.isEmpty then .ok none
    else
      match r.select s.categories with
      | .ok k => .ok (some k)
      | .error e => .error (.categories e)

/-! ## The workload -/

/-- Why an entry is no event. -/
inductive EventFault
  /-- The phase is not one ASCII character. -/
  | badPhase (name phase : String)
  | emptyGroup (name : String)
  deriving DecidableEq, Repr

/-- The message of a fault. -/
def EventFault.message : EventFault → String
  | .badPhase name phase =>
    "Event " ++ Text.quoted name ++ ": phase must be a single ASCII character, got " ++
      Text.quoted phase
  | .emptyGroup name => "Event " ++ Text.quoted name ++ ": category_group must not be empty"

/-- The value of an argument. Structured values are rendered here, and dates and times are texts. -/
def argValue : Toml.Value → Arg.Value
  | .bool b => .bool b
  | .int n => if 0 ≤ n then .uint n.toUInt64 else .int n
  | .float x => .double x
  | .string s => .copyString s
  | .datetime d => .copyString d.text
  | v => .convertable (Json.compact v.toJson)

/-- The argument of an entry. -/
def ArgEntry.toArg (a : ArgEntry) : Arg := ⟨a.name, argValue a.value⟩

/-- The code of a phase that is one ASCII character. -/
def phaseCode? (phase : String) : Option UInt8 :=
  match phase.toList with
  | [c] => if c.toNat < 128 then some (UInt8.ofNat c.toNat) else none
  | _ => none

/-- The event of an entry. -/
def EventEntry.toEvent (e : EventEntry) : Except EventFault Workload.Event :=
  match phaseCode? e.phase with
  | none => .error (.badPhase e.name e.phase)
  | some phase =>
    if e.group = "" then .error (.emptyGroup e.name)
    else .ok {
      phase, group := e.group, name := e.name, id := e.id, args := e.args.map ArgEntry.toArg,
      times := e.times, completeEnd := e.completeEnd }

/-- The workload of the entries, or what is wrong with the first that is no event. -/
def workloadOf (entries : List EventEntry) : Except EventFault Workload :=
  entries.mapM EventEntry.toEvent

/-- The workload of the settings. Without entries it is the built-in one. -/
def workload (s : Settings) : Except EventFault Workload :=
  if s.events.isEmpty then .ok Workload.builtIn else workloadOf s.events

end Settings

end TraceExport
