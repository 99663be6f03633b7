/-
Replays by several workers. The events that are put make up a stretch of work. A worker takes the
events of its stretch one after the other, and sends the records of each one by one. A stretch may be
divided, so that other workers have a part of it; when both parts have ended, their counts are added
up. A worker that is alone ends the first part before it begins with the second.
-/
import Mathlib.Logic.Relation
import TraceExport.Workload.Basic

namespace TraceExport.Workload

/-- The events in their order, each as often as it is put. -/
def puts (w : Workload) : List Event := w.flatMap fun ev => List.replicate ev.times ev

/-- How far a replay has come. -/
inductive Work
  /-- A stretch: the counts so far, the records of the last event that are still to be sent, and the
  events that wait. -/
  | stretch (stats : Tally) (sending : List Record) (waiting : List Event)
  /-- Two parts, in the order of their events. -/
  | both (first second : Work)
  | ended (outcome : Except Panic Tally)
  deriving Repr

namespace Work

/-- What all workers have before them. -/
def start (w : Workload) : Work := .stretch {} [] w.puts

/-- The outcome of two parts. A panic in one of them is that of the whole, the first before the
second. -/
def joined (first second : Except Panic Tally) : Except Panic Tally := do
  let a ← first
  let b ← second
  return a + b

/-- What one worker can do next, for an exporter and with a number of threads. Parts that have no
events are not set apart. -/
inductive Step (e : Exporter) (threads : Nat) : Work × Sink → Work × Sink → Prop
  | send {stats : Tally} {r : Record} {sending : List Record} {waiting : List Event} {sink : Sink} :
    Step e threads (.stretch stats (r :: sending) waiting, sink) (.stretch stats sending waiting, e.send sink r)
  | skip {stats : Tally} {ev : Event} {waiting : List Event} {sink : Sink} :
    e.isGroupOn sink ev.group = .ok false →
    Step e threads (.stretch stats [] (ev :: waiting), sink) (.stretch (stats + ⟨1, 0, 0⟩) [] waiting, sink)
  | take {stats : Tally} {ev : Event} {waiting : List Event} {sink : Sink} :
    e.isGroupOn sink ev.group = .ok true →
    Step e threads (.stretch stats [] (ev :: waiting), sink)
      (.stretch (stats + ⟨1, 1, if ev.completeEnd then 1 else 0⟩) (ev.records e) waiting, sink)
  | panic {stats : Tally} {ev : Event} {waiting : List Event} {sink : Sink} {p : Panic} :
    e.isGroupOn sink ev.group = .error p →
    Step e threads (.stretch stats [] (ev :: waiting), sink) (.ended (.error p), sink)
  | finish {stats : Tally} {sink : Sink} :
    Step e threads (.stretch stats [] [], sink) (.ended (.ok stats), sink)
  | divide {stats : Tally} {front rest : List Event} {sink : Sink} : front ≠ [] → rest ≠ [] →
    Step e threads (.stretch stats [] (front ++ rest), sink)
      (.both (.stretch stats [] front) (.stretch {} [] rest), sink)
  | first {a a' b : Work} {sink sink' : Sink} : Step e threads (a, sink) (a', sink') →
    Step e threads (.both a b, sink) (.both a' b, sink')
  | second {a b b' : Work} {sink sink' : Sink} : 1 < threads ∨ (∃ outcome, a = .ended outcome) →
    Step e threads (b, sink) (b', sink') → Step e threads (.both a b, sink) (.both a b', sink')
  | join {a b : Except Panic Tally} {sink : Sink} :
    Step e threads (.both (.ended a) (.ended b), sink) (.ended (joined a b), sink)

/-- What the workers can come to. -/
abbrev Reaches (e : Exporter) (threads : Nat) : Work × Sink → Work × Sink → Prop :=
  Relation.ReflTransGen (Step e threads)

end Work

/-- Workers with a number of threads, and what they come to with each workload. -/
structure Crew (threads : Nat) where
  replay : Replayer
  /-- The workers can come to this. -/
  able : ∀ w e sink, Work.Reaches e threads (.start w, sink) (.ended (replay w e sink).1, (replay w e sink).2)

/-! ## Pools -/

/-- Whether the pools that are built work as crews of their number of threads do. -/
def PoolBuilder.Sound (build : PoolBuilder) : Prop :=
  ∀ threads replayer, build threads = .ok replayer → ∃ crew : Crew threads, crew.replay = replayer

/-- Whether a pool can be built for a replay with a number of threads. -/
def PoolBuilder.Builds (build : PoolBuilder) (threads : Nat) : Prop := ∃ replayer, build (max threads 1) = .ok replayer

end TraceExport.Workload
