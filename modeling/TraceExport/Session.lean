/-
Sessions: a whole run from the settings. An exporter registers with a sink that writes lines, a
controller starts a session if anybody is to listen, the workload is replayed, and the exporter
unregisters. What the sink wrote stays, also where the run ends early.
-/
import TraceExport.Exporter.Host
import TraceExport.Report
import TraceExport.Settings.Basic

namespace TraceExport.Session

/-! ## Faults -/

/-- Why a run ends early. -/
inductive Fault
  | register (error : Failure)
  | keyword (fault : Settings.KeywordFault)
  | event (fault : Settings.EventFault)
  /-- There are no workers. -/
  | pool (fault : Workload.PoolFault)
  /-- The exporter does not do what it is asked. -/
  | exporter (error : Failure)
  /-- The stream does not take what it is still to take at the end. -/
  | unflushed (cause : String)
  | panicked (panic : Panic)
  deriving DecidableEq, Repr

/-- The messages of a fault, the cause last. -/
def Fault.chain : Fault → List String
  | .register e => ["Failed to register exporter", e.message]
  | .keyword fault => fault.chain
  | .event fault => [fault.message]
  | .pool fault => fault.chain
  | .exporter e => [e.message]
  | .unflushed cause => ["Failed to flush exported events", cause]
  | .panicked p => [p.message]

/-! ## Steps of a run -/

/-- A part of a run, which works on a host and may end the run. -/
abbrev Part (α : Type) := ExceptT Fault (StateM Host) α

namespace Part

/-- What may panic. -/
def guarded {α : Type} (f : Host → Except Panic α × Host) : Part α := fun h =>
  match f h with
  | (.ok a, h) => (.ok a, h)
  | (.error p, h) => (.error (.panicked p), h)

/-- What may panic, and may also fail. -/
def attempt {ε α : Type} (fault : ε → Fault)
    (f : Host → Except Panic (Except ε α) × Host) : Part α := fun h =>
  match f h with
  | (.ok (.ok a), h) => (.ok a, h)
  | (.ok (.error e), h) => (.error (fault e), h)
  | (.error p, h) => (.error (.panicked p), h)

/-- A result that does not depend on the host. -/
def result {ε α : Type} (fault : ε → Fault) : Except ε α → Part α
  | .ok a => pure a
  | .error e => throw (fault e)

/-- The exporter with a number. -/
def exporter (id : Nat) : Part Exporter := do
  match (← get).exporter? id with
  | some e => pure e
  | none => throw (.exporter .notRegistered)

/-- Carries out an exchange with the sink. -/
def exchange (f : Sink → Sink.Exchange Unit) : Part Unit :=
  guarded fun h => h.settle (f h.sink)

/-- Has an exporter apply the sink's keyword. -/
def sync (id : Nat) : Part Registry.Change := do
  let e ← exporter id
  guarded fun h => h.sync id e

/-- Has a workload replayed by a number of threads. -/
def replay (build : Workload.PoolBuilder) (threads id : Nat) (w : Workload) : Part Workload.Tally := do
  let e ← exporter id
  attempt .pool fun h =>
    let (stats, sink) := w.run build threads e h.sink
    (stats, { h with sink })

/-- Unregisters an exporter. -/
def unregister (id : Nat) : Part Unit := do
  let e ← exporter id
  attempt .exporter fun h => h.unregister id e

/-- What ends a run on a stream that is broken. -/
def closed : Fault := .unflushed "closed"

/-- The stream of the sink, which must not be broken. -/
def stream : Part Sink.Stream := do
  match (← get).sink.stream? with
  | some s => if s.broken then throw closed else pure s
  | none => throw closed

end Part

/-! ## Runs -/

/-- Begins a session: the exporter registers, and applies the keyword if somebody is to listen. Gives
the number of the exporter, and the keyword. -/
def opening (s : Settings) : Part (Nat × Option Keyword) := do
  let id ← Part.attempt .register fun h => h.register (.observed .returning) s.profile
  let keyword ← Part.result .keyword (s.session.resolve (← Part.exporter id).registry)
  if s.session.listening then Part.exchange (·.enable (keyword.getD 0))
  discard (Part.sync id)
  return (id, keyword)

/-- Ends a session: the exporter unregisters. Gives what was written. -/
def closing (s : Settings) (id : Nat) : Part Sink.Stream := do
  if s.session.listening then Part.exchange (·.disable)
  Part.unregister id
  Part.stream

/-- The parts of a run, one after the other. -/
def parts (build : Workload.PoolBuilder) (threads : Nat) (s : Settings) : Part Report := do
  let (id, keyword) ← opening s
  let workload ← Part.result .event s.workload
  let report := Report.ofExporter (← Part.exporter id) (keyword.filter fun _ => s.session.listening)
  let stats ← Part.replay build threads id workload
  let stream ← closing s id
  return { report with stats, written := stream.written, lost := stream.lost }

/-- Runs a session on a sink. -/
def runOn (build : Workload.PoolBuilder) (threads : Nat) (s : Settings) (sink : Sink) :
    Except Fault Report × Host :=
  (parts build threads s).run { sink }

/-- Runs a session by a clock, and gives its report and the lines that were written. -/
def run (build : Workload.PoolBuilder) (threads : Nat) (s : Settings) (clock : Nat → String) :
    Except Fault Report × List String :=
  let (report, h) := runOn build threads s (Sink.stream s.output.format clock)
  (report, h.sink.lines.toList)

end TraceExport.Session
