/-
Sinks: what exporters register with and write to. A sink holds a keyword, knows whether anybody
listens, and calls a provider back when either changes.

There are two kinds. A controlled sink accepts one provider and notifies it of every change. A
manual sink keeps the callback of its last provider and calls it when it is told to, also in the
middle of registering and unregistering. A sink does not run callbacks itself; an exchange with it
says which are to be run before its reply counts.
-/
import TraceExport.Keyword
import TraceExport.Provider.Seat
import TraceExport.Sink.Outlet

namespace TraceExport

namespace Sink

/-- What a sink calls when its keyword changes. -/
inductive Callback
  /-- A callback that does nothing. -/
  | idle
  /-- The callback of the exporter with this number. -/
  | exporter (id : Nat)
  deriving DecidableEq, Repr

/-- A sink under a controller. -/
structure Controlled where
  seat : Provider.Seat Callback := {}
  listening : Bool := false
  keyword : Keyword := 0
  /-- Whether every provider is rejected. -/
  rejecting : Bool := false
  outlet : Outlet

/-- A sink that calls back by hand. -/
structure Manual where
  /-- The callback of the provider that registered last. -/
  callback : Option Callback := none
  /-- The number of handles given out. -/
  issued : Nat := 0
  listening : Bool := false
  keyword : Keyword := 0
  /-- How often the callback is called before a registration is answered. -/
  callsInRegister : Nat := 0
  /-- How often the callback is called before an unregistration is answered. -/
  callsInUnregister : Nat := 0
  /-- Whether registrations are refused. -/
  failRegister : Bool := false
  /-- Whether unregistrations are refused. -/
  failUnregister : Bool := false
  /-- How often the keyword was read. -/
  reads : Nat := 0
  records : Array Record := #[]
  deriving Repr

end Sink

/-- A sink. -/
inductive Sink
  | controlled (sink : Sink.Controlled)
  | manual (sink : Sink.Manual)

namespace Sink

/-- A sink that keeps records in memory. -/
def memory : Sink := .controlled { outlet := .memory #[] }

/-- A sink that keeps records in memory and rejects every provider. -/
def rejecting : Sink := .controlled { outlet := .memory #[], rejecting := true }

/-- A sink that writes lines. -/
def stream (format : Format) (clock : Nat → String) : Sink :=
  .controlled { outlet := .stream { format, clock } }

/-! ## What an exporter sees -/

/-- Whether anybody listens. -/
def listening : Sink → Bool
  | .controlled s => s.listening
  | .manual s => s.listening

/-- The keyword. -/
def keyword : Sink → Keyword
  | .controlled s => s.keyword
  | .manual s => s.keyword

/-- The sink after its keyword was read. -/
def afterRead : Sink → Sink
  | .controlled s => .controlled s
  | .manual s => .manual { s with reads := s.reads + 1 }

/-- Writes a record. -/
def write : Sink → Record → Sink
  | .controlled s, r => .controlled { s with outlet := s.outlet.write r }
  | .manual s, r => .manual { s with records := s.records.push r }

/-- The records that the sink keeps. -/
def records : Sink → Array Record
  | .controlled s => s.outlet.records
  | .manual s => s.records

/-- The lines that the sink wrote. -/
def lines : Sink → Array String
  | .controlled s => s.outlet.lines
  | .manual _ => #[]

/-! ## Exchanges -/

/-- What comes of asking a sink for something: the calls that it makes, then its reply. -/
structure Exchange (α : Type) where
  sink : Sink
  calls : List Callback
  reply : α

/-- Notifies the provider of a controlled sink. -/
def Controlled.notify (s : Controlled) : Exchange Unit :=
  let (callback, seat) := s.seat.notify
  ⟨.controlled { s with seat }, callback.toList, ()⟩

/-- Registers a provider. Where somebody listens already, a controlled sink notifies it before it
replies. -/
def register (s : Sink) (callback : Callback) : Exchange (Except Failure Nat) :=
  match s with
  | .controlled s =>
    if s.rejecting then ⟨.controlled s, [], .error (.registration .rejected)⟩
    else
      match s.seat.install callback with
      | (.error e, _) => ⟨.controlled s, [], .error e⟩
      | (.ok handle, seat) =>
        let s := { s with seat }
        if s.listening then { s.notify with reply := .ok handle }
        else ⟨.controlled s, [], .ok handle⟩
  | .manual s =>
    let calls := List.replicate s.callsInRegister callback
    let s := { s with callback := some callback }
    if s.failRegister then ⟨.manual s, calls, .error (.registration .refused)⟩
    else ⟨.manual { s with issued := s.issued + 1 }, calls, .ok (s.issued + 1)⟩

/-- Unregisters the provider with the handle. A manual sink keeps its callback. -/
def unregister (s : Sink) (handle : Nat) : Exchange (Except Failure Unit) :=
  match s with
  | .controlled s =>
    let (reply, seat) := s.seat.remove handle
    ⟨.controlled { s with seat }, [], reply⟩
  | .manual s =>
    let calls := s.callback.toList.flatMap (List.replicate s.callsInUnregister)
    ⟨.manual s, calls,
      if s.failUnregister then .error (.unregistration (.kept handle)) else .ok ()⟩

/-- Starts a session with a keyword, or changes its keyword. -/
def enable (s : Sink) (k : Keyword) : Exchange Unit :=
  match s with
  | .controlled s => { s with keyword := k, listening := true }.notify
  | .manual s => ⟨.manual { s with keyword := k, listening := true }, [], ()⟩

/-- Ends the session. A controlled sink clears its keyword. -/
def disable (s : Sink) : Exchange Unit :=
  match s with
  | .controlled s => { s with keyword := 0, listening := false }.notify
  | .manual s => ⟨.manual { s with listening := false }, [], ()⟩

/-! ## Working a manual sink and a stream -/

/-- Calls the stored callback a number of times, and tells whether there is one. -/
def fire? (s : Sink) (times : Nat) : Option (Exchange Bool) :=
  match s with
  | .manual m => some ⟨s, m.callback.toList.flatMap (List.replicate times), m.callback.isSome⟩
  | .controlled _ => none

/-- Lets registrations be refused, or accepted again. -/
def failRegister? (s : Sink) (on : Bool) : Option Sink :=
  match s with
  | .manual m => some (.manual { m with failRegister := on })
  | .controlled _ => none

/-- Lets unregistrations be refused, or accepted again. -/
def failUnregister? (s : Sink) (on : Bool) : Option Sink :=
  match s with
  | .manual m => some (.manual { m with failUnregister := on })
  | .controlled _ => none

/-- The stream of a sink that writes lines. -/
def stream? : Sink → Option Stream
  | .controlled { outlet := .stream s, .. } => some s
  | _ => none

/-- Breaks the stream, or mends it. -/
def breakStream? (s : Sink) (on : Bool) : Option Sink :=
  match s with
  | .controlled c =>
    match c.outlet with
    | .stream o => some (.controlled { c with outlet := .stream { o with broken := on } })
    | .memory _ => none
  | .manual _ => none

end Sink

end TraceExport
