/-
Workloads: lists of events that are put to an exporter, each a number of times. An event whose
category group is off is offered and not exported. A replay puts the events in their order, as one
worker does; several workers leave the same records and counts, with the records in another order.
The workers come from a pool, which is built for each replay, and it may be that none can be built.
-/
import TraceExport.Exporter.Basic

namespace TraceExport

/-- An event of a workload. -/
structure Workload.Event where
  phase : UInt8
  group : String
  name : String
  id : UInt64 := 0
  args : List Arg := []
  /-- How often the event is put. -/
  times : Nat := 1
  /-- Whether each of them is closed by an event of its own. -/
  completeEnd : Bool := false
  deriving DecidableEq, Repr

/-- A list of events. -/
abbrev Workload := List Workload.Event

namespace Workload

/-! ## Counts -/

/-- What is counted during a replay. -/
structure Tally where
  offered : Nat := 0
  exported : Nat := 0
  completeEnds : Nat := 0
  deriving DecidableEq, Repr

/-- The counts of two replays. -/
def Tally.add (a b : Tally) : Tally :=
  ⟨a.offered + b.offered, a.exported + b.exported, a.completeEnds + b.completeEnds⟩

instance : Add Tally := ⟨Tally.add⟩

/-! ## Replay -/

/-- The records that an event leaves where its group is on. -/
def Event.records (ev : Event) (e : Exporter) : List Record :=
  e.eventRecord ev.phase ev.name ev.args ::
    if ev.completeEnd then [Exporter.completeEndRecord ev.name] else []

/-- Puts an event to an exporter once. -/
def Event.put (ev : Event) (e : Exporter) (sink : Sink) : Except Panic Tally × Sink :=
  match e.isGroupOn sink ev.group with
  | .error p => (.error p, sink)
  | .ok false => (.ok { offered := 1 }, sink)
  | .ok true =>
    (.ok ⟨1, 1, if ev.completeEnd then 1 else 0⟩, (ev.records e).foldl e.send sink)

/-- Puts an event a number of times. -/
def Event.putTimes (ev : Event) (e : Exporter) : Nat → Tally → Sink → Except Panic Tally × Sink
  | 0, stats, sink => (.ok stats, sink)
  | n + 1, stats, sink =>
    match ev.put e sink with
    | (.error p, sink) => (.error p, sink)
    | (.ok more, sink) => putTimes ev e n (stats + more) sink

/-- Puts the events in their order, onto the counts so far. -/
def replayFrom (e : Exporter) : Workload → Tally → Sink → Except Panic Tally × Sink
  | [], stats, sink => (.ok stats, sink)
  | ev :: evs, stats, sink =>
    match ev.putTimes e ev.times stats sink with
    | (.error p, sink) => (.error p, sink)
    | (.ok stats, sink) => replayFrom e evs stats sink

/-- Replays a workload. -/
def replay (w : Workload) (e : Exporter) (sink : Sink) : Except Panic Tally × Sink :=
  replayFrom e w {} sink

/-! ## Pools of workers -/

/-- How a pool of workers replays a workload. -/
abbrev Replayer := Workload → Exporter → Sink → Except Panic Tally × Sink

/-- What builds a pool with a number of threads: the pool replays workloads. Where none can be built
there are messages that say why, the cause last. -/
abbrev PoolBuilder := Nat → Except (List String) Replayer

/-- The builder of pools in which one worker does it all. -/
def PoolBuilder.single : PoolBuilder := fun _ => .ok replay

/-- That there is no pool for a replay. -/
structure PoolFault where
  causes : List String
  deriving DecidableEq, Repr

/-- The messages of a fault, the cause last. -/
def PoolFault.chain (fault : PoolFault) : List String := "Failed to build worker pool" :: fault.causes

/-- Builds a pool with a number of threads, one at least, and has it replay a workload. -/
def run (build : PoolBuilder) (threads : Nat) (w : Workload) (e : Exporter) (sink : Sink) :
    Except Panic (Except PoolFault Tally) × Sink :=
  match build (max threads 1) with
  | .error causes => (.ok (.error ⟨causes⟩), sink)
  | .ok replayer =>
    match replayer w e sink with
    | (.ok stats, sink) => (.ok (.ok stats), sink)
    | (.error p, sink) => (.error p, sink)

/-! ## The built-in workload -/

/-- The code of a phase by its character. -/
def phaseCode (c : Char) : UInt8 := UInt8.ofNat c.toNat

/-- A workload that touches categories with a bit of their own and both catch-alls. -/
def builtIn : Workload := [
  { phase := phaseCode 'B', group := "benchmark", name := "RunBenchmark",
    args := [⟨"iteration", .uint 1⟩] },
  { phase := phaseCode 'E', group := "benchmark", name := "RunBenchmark" },
  { phase := phaseCode 'X', group := "cc,disabled-by-default-cc.debug", name := "DrawFrame",
    args := [⟨"layers", .convertable "\x7b\"count\":4\x7d"⟩, ⟨"frame", .uint 12⟩],
    completeEnd := true },
  { phase := phaseCode 'I', group := "gpu", name := "SwapBuffers",
    args := [⟨"vsync", .bool true⟩] },
  { phase := phaseCode 'S', group := "netlog", name := "URLRequest",
    args := [⟨"url", .string "https://example.org/"⟩] },
  { phase := phaseCode 'C', group := "renderer", name := "HeapSize",
    args := [⟨"bytes", .double ⟨0x4136e36000000000⟩⟩] },
  { phase := phaseCode 'I', group := "disabled-by-default-memory-infra", name := "Dump" }]

end Workload

end TraceExport
