/-
Scripts for a host: operations on its sink and on its exporters, carried out one after the other.
A panic ends the operation it happens in and no other.
-/
import TraceExport.Exporter.Host
import TraceExport.Registry.Query

namespace TraceExport.Host

/-! ## Operations -/

/-- What an exporter can be asked to do. -/
inductive Call
  | sync
  | notified
  | group (group : String)
  | event (phase flags : UInt8) (name : String) (id : UInt64) (args : List Arg)
  | completeEnd (name : String)
  | unregister
  | profile
  | registry (query : Registry.Query)
  deriving Repr

/-- An operation on a host. -/
inductive Op
  | enable (keyword : Keyword)
  | disable
  /-- Registers a callback that does nothing. -/
  | sinkRegister
  | sinkUnregister (handle : Nat)
  | write (record : Record)
  /-- Lets a manual sink call its callback. -/
  | fire (times : Nat)
  | failRegister (on : Bool)
  | failUnregister (on : Bool)
  /-- Breaks the stream of the sink, or mends it. -/
  | breakStream (on : Bool)
  | flush
  /-- Registers an exporter and binds a name to it. -/
  | register (name : String) (setup : Setup) (profile : Profile)
  /-- Lets the exporter go that a name is bound to. -/
  | drop (name : String)
  | call (name : String) (call : Call)
  deriving Repr

/-- What an operation answers. -/
inductive Reply
  | done
  | flag (on : Bool)
  | handle (handle : Nat)
  | change (change : Registry.Change)
  | profile (profile : Profile)
  | registry (answer : Registry.Answer)
  | failed (error : Failure)
  | panicked (panic : Panic)
  /-- The name is not bound. -/
  | missing
  /-- The stream is broken. -/
  | closed
  /-- The sink is of another kind. -/
  | unsupported
  deriving DecidableEq, Repr

/-! ## Answers -/

/-- The reply to what may panic. -/
def Reply.ofOutcome {α : Type} (reply : α → Reply) : Except Panic α → Reply
  | .ok a => reply a
  | .error p => .panicked p

/-- The reply to what may fail. -/
def Reply.ofResult {α : Type} (reply : α → Reply) : Except Failure α → Reply
  | .ok a => reply a
  | .error e => .failed e

/-- Carries out an exchange with the sink and replies. -/
def exchange {α : Type} (h : Host) (reply : α → Reply) (x : Sink.Exchange α) : Reply × Host :=
  let (outcome, h) := h.settle x
  (.ofOutcome reply outcome, h)

/-- Changes the sink, if it is of the kind. -/
def adjust (h : Host) : Option Sink → Reply × Host
  | some sink => (.done, { h with sink })
  | none => (.unsupported, h)

/-- Asks an exporter to do something. -/
def runCall (h : Host) (id : Nat) (e : Exporter) : Call → Reply × Host
  | .sync =>
    if e.lifecycle.isRegistered then
      let (outcome, h) := h.sync id e
      (.ofOutcome .change outcome, h)
    else (.failed .notRegistered, h)
  | .notified =>
    let (outcome, h) := h.deliver (.exporter id)
    (.ofOutcome (fun _ => .done) outcome, h)
  | .group group => (.ofOutcome .flag (e.isGroupOn h.sink group), h)
  | .event phase _ name _ args =>
    (.done, { h with sink := e.send h.sink (e.eventRecord phase name args) })
  | .completeEnd name => (.done, { h with sink := e.send h.sink (Exporter.completeEndRecord name) })
  | .unregister =>
    let (outcome, h) := h.unregister id e
    (.ofOutcome (.ofResult fun _ => .done) outcome, h)
  | .profile => (.profile e.profile, h)
  | .registry query =>
    let (answer, registry) := e.registry.ask query
    (.registry answer, h.put id { e with registry })

/-- Registers an exporter under a name. The exporter that had the name is let go after that. -/
def registerAs (h : Host) (name : String) (setup : Setup) (profile : Profile) : Reply × Host :=
  match h.register setup profile with
  | (.error p, h) => (.panicked p, h)
  | (.ok (.error e), h) => (.failed e, h)
  | (.ok (.ok id), h) =>
    match h.id? name with
    | none => (.done, h.bind name id)
    | some old =>
      let (outcome, h) := (h.bind name id).dispose old
      (.ofOutcome (fun _ => .done) outcome, h)

/-- Carries out an operation. -/
def run (h : Host) : Op → Reply × Host
  | .enable k => h.exchange (fun _ => .done) (h.sink.enable k)
  | .disable => h.exchange (fun _ => .done) h.sink.disable
  | .sinkRegister => h.exchange (.ofResult .handle) (h.sink.register .idle)
  | .sinkUnregister handle =>
    h.exchange (.ofResult fun _ => .done) (h.sink.unregister handle)
  | .write record => (.done, { h with sink := h.sink.write record })
  | .fire times =>
    match h.sink.fire? times with
    | some x => h.exchange .flag x
    | none => (.unsupported, h)
  | .failRegister on => h.adjust (h.sink.failRegister? on)
  | .failUnregister on => h.adjust (h.sink.failUnregister? on)
  | .breakStream on => h.adjust (h.sink.breakStream? on)
  | .flush =>
    match h.sink.stream? with
    | some s => (if s.broken then .closed else .done, h)
    | none => (.unsupported, h)
  | .register name setup profile => h.registerAs name setup profile
  | .drop name =>
    match h.id? name with
    | none => (.flag false, h)
    | some id =>
      let (outcome, h) := (h.unbind name).dispose id
      (.ofOutcome (fun _ => .flag true) outcome, h)
  | .call name call =>
    match h.id? name with
    | none => (.missing, h)
    | some id =>
      match h.exporter? id with
      | none => (.missing, h)
      | some e => h.runCall id e call

/-! ## Runs -/

/-- A step of a run: the host before, the reply, and the host after. -/
structure Step where
  before : Host
  reply : Reply
  after : Host

/-- The steps of a script. -/
def runScript (h : Host) : List Op → List Step
  | [] => []
  | op :: ops =>
    let (reply, after) := h.run op
    ⟨h, reply, after⟩ :: after.runScript ops

namespace Step

/-- The records that were kept in the step. -/
def records (s : Step) : List Record :=
  s.after.sink.records.toList.drop s.before.sink.records.size

/-- The lines that were written in the step. -/
def lines (s : Step) : List String :=
  s.after.sink.lines.toList.drop s.before.sink.lines.size

/-- What the observer of an exporter noted in the step. -/
def noted (s : Step) (id : Nat) (e : Exporter) : List (List String) :=
  e.noted.drop ((s.before.exporter? id).elim 0 (·.noted.length))

end Step

end TraceExport.Host
