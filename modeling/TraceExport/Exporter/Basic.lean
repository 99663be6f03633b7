/-
Exporters: what stands between a source of events and a sink. An exporter has a profile, a registry
that follows the sink's keyword, a lifecycle, and possibly an observer that is called after each
change of the keyword. This module holds what one exporter does by itself.
-/
import TraceExport.Event.Phase
import TraceExport.Lifecycle
import TraceExport.Profile
import TraceExport.Registry.Basic
import TraceExport.Sink.Basic

namespace TraceExport

/-- How an observer behaves. Either way it notes first which categories are on. -/
inductive Observer
  | returning
  | panicking
  deriving DecidableEq, Repr

/-- An exporter. -/
structure Exporter where
  profile : Profile
  registry : Registry
  lifecycle : Lifecycle
  observer : Option Observer := none
  /-- What the observer noted, in order. -/
  noted : List (List String) := []
  deriving Repr

namespace Exporter

/-! ## Updates -/

/-- Calls the observer. -/
def observe (e : Exporter) : Except Panic Unit × Exporter :=
  match e.observer with
  | none => (.ok (), e)
  | some observer =>
    let e := { e with noted := e.noted ++ [e.registry.enabled] }
    match observer with
    | .returning => (.ok (), e)
    | .panicking => (.error .observer, e)

/-- Applies a keyword, and calls the observer when it is a new one. -/
def update (e : Exporter) (k : Keyword) : Except Panic Registry.Change × Exporter :=
  match e.registry.apply k with
  | (.unchanged, _) => (.ok .unchanged, e)
  | (.changed, registry) =>
    match { e with registry }.observe with
    | (.ok _, e) => (.ok .changed, e)
    | (.error p, e) => (.error p, e)

/-! ## Events -/

/-- Whether events reach anybody. -/
def isActive (e : Exporter) (sink : Sink) : Bool :=
  e.lifecycle.isRegistered && sink.listening

/-- Whether a category of the group is on. There is no empty group. -/
def isGroupOn (e : Exporter) (sink : Sink) (group : String) : Except Panic Bool :=
  if group = "" then .error .emptyGroup
  else .ok (e.isActive sink && (Category.ofGroup group).any e.registry.isOn)

/-- The record of an event. -/
def eventRecord (e : Exporter) (phase : UInt8) (name : String) (args : List Arg) : Record :=
  let (first, second) := e.profile.fields args
  .ofEvent name (Phase.label phase) first second

/-- The record that closes a complete event. -/
def completeEndRecord (name : String) : Record :=
  .ofEvent name Phase.completeEnd .blank .blank

/-- Writes a record, if it reaches anybody. -/
def send (e : Exporter) (sink : Sink) (r : Record) : Sink :=
  if e.isActive sink then sink.write r else sink

end Exporter

end TraceExport
