/-
Hosts: a sink together with the exporters that are alive, each under a number of its own, and the
names under which they are kept. A sink's callbacks find an exporter by its number, and do nothing
once it is gone.

Whatever may run a callback ends with an answer or with a panic, and leaves the host as it is at
that moment.
-/
import TraceExport.Exporter.Basic

namespace TraceExport

/-- A sink and its exporters. -/
structure Host where
  sink : Sink
  /-- The exporters that are alive, by their numbers. -/
  exporters : List (Nat × Exporter) := []
  /-- The names that are bound, each to the number of an exporter. -/
  names : List (String × Nat) := []
  /-- The number of the next exporter. -/
  next : Nat := 0

namespace Host

/-! ## Exporters by number and by name -/

/-- The exporter with a number. -/
def exporter? (h : Host) (id : Nat) : Option Exporter := h.exporters.lookup id

/-- Replaces an exporter. -/
def put (h : Host) (id : Nat) (e : Exporter) : Host :=
  { h with exporters := h.exporters.map fun (i, old) => if i = id then (i, e) else (i, old) }

/-- Moves an exporter in its lifecycle. -/
def move (h : Host) (id : Nat) (lifecycle : Lifecycle) : Host :=
  match h.exporter? id with
  | some e => h.put id { e with lifecycle }
  | none => h

/-- Lets an exporter go. -/
def forget (h : Host) (id : Nat) : Host :=
  { h with exporters := h.exporters.filter (·.1 ≠ id) }

/-- The number that a name is bound to. -/
def id? (h : Host) (name : String) : Option Nat := h.names.lookup name

/-- Leaves a name unbound. -/
def unbind (h : Host) (name : String) : Host :=
  { h with names := h.names.filter (·.1 ≠ name) }

/-- Binds a name, in place of what it was bound to. -/
def bind (h : Host) (name : String) (id : Nat) : Host :=
  { h with names := (name, id) :: (h.unbind name).names }

/-- The exporters that have a name. -/
def named (h : Host) : List (String × Nat × Exporter) :=
  h.names.filterMap fun (name, id) => (h.exporter? id).map fun e => (name, id, e)

/-! ## Callbacks -/

/-- Reads the sink's keyword and applies it to an exporter. -/
def sync (h : Host) (id : Nat) (e : Exporter) : Except Panic Registry.Change × Host :=
  let (change, e) := e.update h.sink.keyword
  (change, { h.put id e with sink := h.sink.afterRead })

/-- Runs a callback. Only an exporter that is registered takes notice of it. -/
def deliver (h : Host) : Sink.Callback → Except Panic Unit × Host
  | .idle => (.ok (), h)
  | .exporter id =>
    match h.exporter? id with
    | none => (.ok (), h)
    | some e =>
      if e.lifecycle.isRegistered then
        match h.sync id e with
        | (.ok _, h) => (.ok (), h)
        | (.error p, h) => (.error p, h)
      else (.ok (), h)

/-- Runs callbacks up to the first that panics. -/
def deliverAll (h : Host) : List Sink.Callback → Except Panic Unit × Host
  | [] => (.ok (), h)
  | c :: cs =>
    match h.deliver c with
    | (.ok _, h) => h.deliverAll cs
    | (.error p, h) => (.error p, h)

/-- Carries out an exchange with the sink. Its reply counts if no callback panics. -/
def settle {α : Type} (h : Host) (x : Sink.Exchange α) : Except Panic α × Host :=
  match { h with sink := x.sink }.deliverAll x.calls with
  | (.ok _, h) => (.ok x.reply, h)
  | (.error p, h) => (.error p, h)

/-! ## Registering and unregistering -/

/-- How an exporter is registered. -/
inductive Setup
  | plain
  /-- The sink's keyword is applied at once. -/
  | syncing
  | observed (observer : Observer)
  deriving DecidableEq, Repr

/-- The observer of an exporter that is registered so. -/
def Setup.observer? : Setup → Option Observer
  | .observed observer => some observer
  | _ => none

/-- Registers a new exporter and gives its number. One that the sink does not take is gone. -/
def register (h : Host) (setup : Setup) (profile : Profile) :
    Except Panic (Except Failure Nat) × Host :=
  match profile.check with
  | .error e => (.ok (.error e), h)
  | .ok _ =>
    match Registry.ofNames profile.filtered with
    | .error p => (.error p, h)
    | .ok registry =>
      let id := h.next
      let e : Exporter :=
        { profile, registry, lifecycle := .registering, observer := setup.observer? }
      let started := { h with exporters := (id, e) :: h.exporters }
      match started.settle (h.sink.register (.exporter id)) with
      | (.error p, h) => (.error p, h.forget id)
      | (.ok (.error e), h) => (.ok (.error e), h.forget id)
      | (.ok (.ok handle), h) =>
        let e := { e with lifecycle := .registered handle }
        let h := { h.put id e with next := id + 1 }
        match setup with
        | .syncing =>
          match h.sync id e with
          | (.ok _, h) => (.ok (.ok id), h)
          | (.error p, h) => (.error p, h)
        | _ => (.ok (.ok id), h)

/-- Unregisters an exporter. There is no way back, whatever the sink says. -/
def unregister (h : Host) (id : Nat) (e : Exporter) :
    Except Panic (Except Failure Unit) × Host :=
  match e.lifecycle with
  | .registered handle =>
    let h := h.put id { e with lifecycle := .unregistering }
    match h.settle (h.sink.unregister handle) with
    | (.ok reply, h) => (.ok reply, h.move id .unregistered)
    | (.error p, h) => (.error p, h)
  | _ => (.ok (.error .notRegistered), h)

/-- Lets an exporter go for good. One that is registered is unregistered on the way, and what the
sink says to that is lost. -/
def dispose (h : Host) (id : Nat) : Except Panic Unit × Host :=
  match h.exporter? id with
  | none => (.ok (), h)
  | some e =>
    let h := h.forget id
    match e.lifecycle with
    | .registered handle =>
      match h.settle (h.sink.unregister handle) with
      | (.ok _, h) => (.ok (), h)
      | (.error p, h) => (.error p, h)
    | _ => (.ok (), h)

end Host

end TraceExport
