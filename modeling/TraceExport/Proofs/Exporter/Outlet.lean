/-
One script on two sinks. Two controlled sinks that differ in their outlets only answer alike and
call alike, and so do two hosts that differ in such sinks only: what an operation does to one it does to
the other, and both outlets are handed the same records. A sink that keeps records in memory and one
that writes JSON are a case of this, and each line of the second reads back as a record of the first.
-/
import TraceExport.Proofs.Exporter.Effect
import TraceExport.Proofs.Json.RoundTrip

namespace TraceExport

namespace Sink

/-! ## Lines -/

/-- A line that holds one JSON object, whose fields are the eight texts of a record. -/
def IsLineOf (r : Record) (line : String) : Prop :=
  ∃ text members, line = text ++ "\n" ∧ '\n' ∉ text.toList ∧ Json.parse text = some (.object members) ∧
    Json.valuesOf "fields" members = [.array (r.fields.map .string)]

/-- A line that holds one JSON object, of the time and the eight texts of a record. -/
def IsJsonLine (stamp : String) (r : Record) (line : String) : Prop :=
  ∃ text, line = text ++ "\n" ∧ '\n' ∉ text.toList ∧
    Json.parse text = some (.object [("timestamp", .string stamp), ("fields", .array (r.fields.map .string))])

theorem jsonLine_isJsonLine (stamp : String) (r : Record) : IsJsonLine stamp r (jsonLine stamp r) := by
  have hr : (Json.object [("timestamp", .string stamp), ("fields", .array (r.fields.map .string))]).Readable := by
    refine .object fun m hm => ?_
    rcases List.mem_cons.1 hm with rfl | hm
    · exact .string stamp
    · rw [List.mem_singleton.1 hm]
      exact .strings r.fields
  refine ⟨_, rfl, fun hn => ?_, Json.parse_compact hr⟩
  rw [Json.compact, String.toList_ofList] at hn
  exact absurd (Json.chars_visible _ hr _ hn) (by decide)

theorem IsJsonLine.isLineOf {stamp : String} {r : Record} {line : String} (h : IsJsonLine stamp r line) :
    IsLineOf r line := by
  obtain ⟨text, hline, hone, hparse⟩ := h
  exact ⟨text, _, hline, hone, hparse, by simp [Json.valuesOf]⟩

/-- The entry of a record in plain text: its time, phase and name, and its fields that have a name. -/
def textEntry (stamp : String) (r : Record) : String :=
  stamp ++ " [" ++ r.phase ++ "] " ++ r.name ++
    String.join (([r.first, r.second, ⟨r.reserved.1, r.reserved.2⟩].filter (·.name ≠ "")).map fun f =>
      " " ++ f.name ++ "=" ++ f.value)

theorem join_named (fs : List Field) :
    String.join ((fs.filter (·.name ≠ "")).map fun f => " " ++ f.name ++ "=" ++ f.value) =
      String.join (fs.map fun f => textField f.name f.value) := by
  induction fs with
  | nil => rfl
  | cons f fs ih =>
    rw [List.map_cons, String.join_cons, ← ih, textField, List.filter_cons]
    by_cases hf : f.name = ""
    · simp [hf]
    · simp [hf, String.join_cons]

theorem textEntry_eq (stamp : String) (r : Record) : textEntry stamp r =
    stamp ++ " [" ++ r.phase ++ "] " ++ r.name ++ textField r.first.name r.first.value ++
      textField r.second.name r.second.value ++ textField r.reserved.1 r.reserved.2 := by
  rw [textEntry, join_named]
  simp [String.join_cons, String.append_assoc]

theorem textLine_eq (stamp : String) (r : Record) : textLine stamp r = textEntry stamp r ++ "\n" := by
  rw [textEntry_eq, textLine]

/-- Whether a line is all that a record at some time is written as: the end of a line behind a JSON object,
or behind an entry in plain text. -/
def Format.IsLine (format : Format) (stamp : String) (r : Record) (line : String) : Prop :=
  match format with
  | .json => IsJsonLine stamp r line
  | .text => line = textEntry stamp r ++ "\n"

theorem Format.isLine_line (format : Format) (stamp : String) (r : Record) :
    format.IsLine stamp r (format.line stamp r) := by
  cases format with
  | json => exact jsonLine_isJsonLine stamp r
  | text => exact textLine_eq stamp r

/-- The lines of records by a clock, each record with its place. -/
def Format.lines (format : Format) (clock : Nat → String) (rs : List (Record × Nat)) : List String :=
  rs.map fun x => format.line (clock x.2) x.1

theorem Format.forall₂_lines (format : Format) (clock : Nat → String) (rs : List (Record × Nat)) :
    List.Forall₂ (fun x line => format.IsLine (clock x.2) x.1 line) rs (format.lines clock rs) := by
  rw [lines, List.forall₂_map_right_iff, List.forall₂_same]
  exact fun x _ => format.isLine_line (clock x.2) x.1

/-! ## Outlets -/

/-- Writes records one after the other. -/
def Outlet.writeAll (o : Outlet) (rs : List Record) : Outlet := rs.foldl Outlet.write o

theorem Outlet.writeAll_memory (a : Array Record) (rs : List Record) :
    (Outlet.memory a).writeAll rs = .memory (a ++ rs.toArray) := by
  induction rs generalizing a with
  | nil => simp [writeAll]
  | cons r rs ih =>
    refine (ih (a.push r)).trans ?_
    simp [← Array.append_singleton, Array.append_assoc]

theorem Outlet.writeAll_stream {s : Stream} (hb : s.broken = false) (rs : List Record) :
    (Outlet.stream s).writeAll rs = .stream { s with
      lines := s.lines ++ (s.format.lines s.clock (rs.zipIdx s.handed)).toArray
      written := s.written + rs.length } := by
  induction rs generalizing s with
  | nil => simp [writeAll, Format.lines]
  | cons r rs ih =>
    let s' : Stream := { s with lines := s.lines.push (s.format.line (s.clock s.handed) r), written := s.written + 1 }
    have hw : (Outlet.stream s).write r = .stream s' := by simp [write, Stream.write, hb, s']
    have hhanded : s'.handed = s.handed + 1 := Nat.add_right_comm s.written 1 s.lost
    rw [writeAll, List.foldl_cons, hw, ← writeAll, ih (s := s') hb, hhanded]
    simp [s', Format.lines, ← Array.append_singleton, Array.append_assoc, Nat.add_assoc, Nat.add_comm 1]

/-! ## Exchanges -/

variable {α : Type} {a b : Outlet}

/-- Two exchanges that differ in the outlets of their sinks only. -/
def Exchange.Paired (a b : Outlet) (x y : Exchange α) : Prop :=
  ∃ c : Controlled, x.sink = .controlled { c with outlet := a } ∧
    y = ⟨.controlled { c with outlet := b }, x.calls, x.reply⟩

theorem paired_notify (a b : Outlet) (c : Controlled) :
    Exchange.Paired a b ({ c with outlet := a } : Controlled).notify ({ c with outlet := b } : Controlled).notify :=
  ⟨{ c with seat := c.seat.notify.2 }, rfl, rfl⟩

theorem paired_register (a b : Outlet) (c : Controlled) (callback : Callback) :
    Exchange.Paired a b (register (.controlled { c with outlet := a }) callback)
      (register (.controlled { c with outlet := b }) callback) := by
  simp only [register]
  split
  · exact ⟨c, rfl, rfl⟩
  · split
    · exact ⟨c, rfl, rfl⟩
    · next handle seat _ =>
      split
      · exact ⟨{ c with seat := seat.notify.2 }, rfl, rfl⟩
      · exact ⟨{ c with seat }, rfl, rfl⟩

theorem paired_unregister (a b : Outlet) (c : Controlled) (handle : Nat) :
    Exchange.Paired a b (unregister (.controlled { c with outlet := a }) handle)
      (unregister (.controlled { c with outlet := b }) handle) :=
  ⟨{ c with seat := (c.seat.remove handle).2 }, rfl, rfl⟩

end Sink

namespace Host

/-! ## Hosts -/

variable {α : Type} {a b : Sink.Outlet} {h g : Host}

/-- Two hosts that differ in the outlets of their sinks only. -/
def Paired (a b : Sink.Outlet) (h g : Host) : Prop :=
  ∃ c : Sink.Controlled, h.sink = .controlled { c with outlet := a } ∧
    g = { h with sink := .controlled { c with outlet := b } }

/-- Two ends of one operation: the outcomes are equal and the hosts paired. -/
def Agree (a b : Sink.Outlet) (x y : α × Host) : Prop :=
  ∃ r h g, x = (r, h) ∧ y = (r, g) ∧ Paired a b h g

theorem Paired.exporter? (hp : Paired a b h g) (id : Nat) : g.exporter? id = h.exporter? id := by
  obtain ⟨c, hs, rfl⟩ := hp
  rfl

/-- What leaves the sink aside and does not look at it keeps hosts paired. -/
theorem Paired.map (hp : Paired a b h g) (f : Host → Host)
    (hf : ∀ (h : Host) (s : Sink), f { h with sink := s } = { f h with sink := s }) : Paired a b (f h) (f g) := by
  obtain ⟨c, hs, rfl⟩ := hp
  have hsink := congrArg Host.sink (hf h h.sink)
  exact ⟨c, hsink.trans hs, hf h _⟩

theorem Paired.next (hp : Paired a b h g) (n : Nat) : Paired a b { h with next := n } { g with next := n } :=
  hp.map (fun h => { h with next := n }) fun _ _ => rfl

theorem Paired.cons (hp : Paired a b h g) (p : Nat × Exporter) :
    Paired a b { h with exporters := p :: h.exporters } { g with exporters := p :: g.exporters } :=
  hp.map (fun h => { h with exporters := p :: h.exporters }) fun _ _ => rfl

theorem Paired.put (hp : Paired a b h g) (id : Nat) (e : Exporter) : Paired a b (h.put id e) (g.put id e) :=
  hp.map (·.put id e) fun _ _ => rfl

theorem Paired.forget (hp : Paired a b h g) (id : Nat) : Paired a b (h.forget id) (g.forget id) :=
  hp.map (·.forget id) fun _ _ => rfl

theorem Paired.bind (hp : Paired a b h g) (name : String) (id : Nat) :
    Paired a b (h.bind name id) (g.bind name id) :=
  hp.map (·.bind name id) fun _ _ => rfl

theorem Paired.move (hp : Paired a b h g) (id : Nat) (l : Lifecycle) : Paired a b (h.move id l) (g.move id l) := by
  unfold Host.move
  rw [hp.exporter?]
  split
  · exact hp.put id _
  · exact hp

theorem Paired.sync (hp : Paired a b h g) (id : Nat) (e : Exporter) : Agree a b (h.sync id e) (g.sync id e) := by
  obtain ⟨c, hs, rfl⟩ := hp
  simp only [sync_eq, hs]
  exact ⟨_, _, _, rfl, rfl, c, rfl, rfl⟩

/-! ## Callbacks -/

theorem Paired.deliver (hp : Paired a b h g) (call : Sink.Callback) :
    Agree a b (h.deliver call) (g.deliver call) := by
  cases call with
  | idle => exact ⟨_, _, _, rfl, rfl, hp⟩
  | exporter id =>
    simp only [Host.deliver, hp.exporter?]
    split
    · exact ⟨_, _, _, rfl, rfl, hp⟩
    · next e _ =>
      split
      · obtain ⟨r, h', g', hx, hy, hs⟩ := hp.sync id e
        rw [hx, hy]
        cases r <;> exact ⟨_, _, _, rfl, rfl, hs⟩
      · exact ⟨_, _, _, rfl, rfl, hp⟩

theorem Paired.deliverAll (hp : Paired a b h g) (calls : List Sink.Callback) :
    Agree a b (h.deliverAll calls) (g.deliverAll calls) := by
  induction calls generalizing h g with
  | nil => exact ⟨_, _, _, rfl, rfl, hp⟩
  | cons call calls ih =>
    obtain ⟨r, h', g', hx, hy, hs⟩ := hp.deliver call
    simp only [Host.deliverAll, hx, hy]
    cases r with
    | error p => exact ⟨_, _, _, rfl, rfl, hs⟩
    | ok u => exact ih hs

theorem Paired.settle (hp : Paired a b h g) {x y : Sink.Exchange α} (hx : x.Paired a b y) :
    Agree a b (h.settle x) (g.settle y) := by
  obtain ⟨c, _, rfl⟩ := hp
  obtain ⟨d, hd, rfl⟩ := hx
  have hs : Paired a b { h with sink := x.sink } { h with sink := .controlled { d with outlet := b } } :=
    ⟨d, hd, rfl⟩
  obtain ⟨r, h', g', hx, hy, hs⟩ := hs.deliverAll x.calls
  simp only [Host.settle, hx, hy]
  cases r <;> exact ⟨_, _, _, rfl, rfl, hs⟩

/-! ## Registering and unregistering -/

theorem Paired.register (hp : Paired a b h g) (setup : Setup) (profile : Profile) :
    Agree a b (h.register setup profile) (g.register setup profile) := by
  have hn : g.next = h.next := by obtain ⟨c, hs, rfl⟩ := hp; rfl
  simp only [Host.register, hn]
  split
  · exact ⟨_, _, _, rfl, rfl, hp⟩
  split
  · exact ⟨_, _, _, rfl, rfl, hp⟩
  next registry _ =>
  have hx : (h.sink.register (.exporter h.next)).Paired a b (g.sink.register (.exporter h.next)) := by
    obtain ⟨c, hs, rfl⟩ := hp
    rw [hs]
    exact Sink.paired_register a b c _
  have hs := hp.cons (h.next, { profile, registry, lifecycle := .registering, observer := setup.observer? })
  obtain ⟨r, h', g', hx, hy, hs⟩ := hs.settle hx
  rw [hn] at hy
  simp only [hx, hy]
  -- the answers are equal, so both hosts let the exporter go or both keep it
  rcases r with p | f | handle
  · exact ⟨_, _, _, rfl, rfl, hs.forget h.next⟩
  · exact ⟨_, _, _, rfl, rfl, hs.forget h.next⟩
  let e : Exporter := { profile, registry, lifecycle := .registered handle, observer := setup.observer? }
  have hs := (hs.put h.next e).next (h.next + 1)
  cases setup with
  | plain => exact ⟨_, _, _, rfl, rfl, hs⟩
  | observed o => exact ⟨_, _, _, rfl, rfl, hs⟩
  | syncing =>
    obtain ⟨r, h', g', hx, hy, hs⟩ := hs.sync h.next e
    simp only [e, Setup.observer?] at hx hy
    simp only [Setup.observer?, hx, hy]
    cases r <;> exact ⟨_, _, _, rfl, rfl, hs⟩

theorem Paired.unregisterSink (hp : Paired a b h g) (handle : Nat) :
    (h.sink.unregister handle).Paired a b (g.sink.unregister handle) := by
  obtain ⟨c, hs, rfl⟩ := hp
  rw [hs]
  exact Sink.paired_unregister a b c handle

theorem Paired.unregister (hp : Paired a b h g) (id : Nat) (e : Exporter) :
    Agree a b (h.unregister id e) (g.unregister id e) := by
  unfold Host.unregister
  split
  · next handle _ =>
    have hs := hp.put id { e with lifecycle := .unregistering }
    obtain ⟨r, h', g', hx, hy, hs⟩ := hs.settle (hs.unregisterSink handle)
    simp only [hx, hy]
    cases r with
    | error p => exact ⟨_, _, _, rfl, rfl, hs⟩
    | ok reply => exact ⟨_, _, _, rfl, rfl, hs.move id .unregistered⟩
  · exact ⟨_, _, _, rfl, rfl, hp⟩

theorem Paired.dispose (hp : Paired a b h g) (id : Nat) : Agree a b (h.dispose id) (g.dispose id) := by
  simp only [Host.dispose, hp.exporter?]
  split
  · exact ⟨_, _, _, rfl, rfl, hp⟩
  · next e _ =>
    have hs := hp.forget id
    split
    · next handle _ =>
      obtain ⟨r, h', g', hx, hy, hs⟩ := hs.settle (hs.unregisterSink handle)
      rw [hx, hy]
      cases r <;> exact ⟨_, _, _, rfl, rfl, hs⟩
    · exact ⟨_, _, _, rfl, rfl, hs⟩

/-! ## Operations -/

/-- Whether an operation works on a sink of either kind. The others are about the stream itself. -/
def Op.isShared : Op → Bool
  | .breakStream _ | .flush => false
  | _ => true

theorem Paired.exchange (hp : Paired a b h g) {x y : Sink.Exchange α} (hx : x.Paired a b y) (reply : α → Reply) :
    Agree a b (h.exchange reply x) (g.exchange reply y) := by
  obtain ⟨r, h', g', hx, hy, hs⟩ := hp.settle hx
  simp only [Host.exchange, hx, hy]
  exact ⟨_, _, _, rfl, rfl, hs⟩

theorem Paired.write (hp : Paired a b h g) (r : Record) :
    Paired (a.writeAll [r]) (b.writeAll [r]) { h with sink := h.sink.write r } { g with sink := g.sink.write r } := by
  obtain ⟨c, hs, rfl⟩ := hp
  rw [hs]
  exact ⟨c, rfl, rfl⟩

/-- What an exporter hands to one sink it hands to the other. -/
theorem Paired.send (hp : Paired a b h g) (e : Exporter) (r : Record) :
    let rs := if e.isActive h.sink then [r] else []
    Paired (a.writeAll rs) (b.writeAll rs) { h with sink := e.send h.sink r }
      { g with sink := e.send g.sink r } := by
  have ha : e.isActive g.sink = e.isActive h.sink := by
    obtain ⟨c, hs, rfl⟩ := hp
    rw [hs]
    rfl
  unfold Exporter.send
  rw [ha]
  cases e.isActive h.sink with
  | true => exact hp.write r
  | false => exact hp

theorem Paired.runCall (hp : Paired a b h g) (id : Nat) (e : Exporter) (call : Call) :
    let rs := call.handed e h.sink
    Agree (a.writeAll rs) (b.writeAll rs) (h.runCall id e call) (g.runCall id e call) := by
  cases call with
  | sync =>
    simp only [Host.runCall]
    split
    · obtain ⟨r, h', g', hx, hy, hs⟩ := hp.sync id e
      rw [hx, hy]
      exact ⟨_, _, _, rfl, rfl, hs⟩
    · exact ⟨_, _, _, rfl, rfl, hp⟩
  | notified =>
    obtain ⟨r, h', g', hx, hy, hs⟩ := hp.deliver (.exporter id)
    simp only [Host.runCall, hx, hy]
    exact ⟨_, _, _, rfl, rfl, hs⟩
  | group group =>
    have hg : e.isGroupOn g.sink group = e.isGroupOn h.sink group := by
      obtain ⟨c, hs, rfl⟩ := hp
      rw [hs]
      rfl
    simp only [Host.runCall, hg]
    exact ⟨_, _, _, rfl, rfl, hp⟩
  | event phase flags name number args =>
    exact ⟨_, _, _, rfl, rfl, hp.send e (e.eventRecord phase name args)⟩
  | completeEnd name => exact ⟨_, _, _, rfl, rfl, hp.send e (Exporter.completeEndRecord name)⟩
  | unregister =>
    obtain ⟨r, h', g', hx, hy, hs⟩ := hp.unregister id e
    simp only [Host.runCall, hx, hy]
    exact ⟨_, _, _, rfl, rfl, hs⟩
  | profile => exact ⟨_, _, _, rfl, rfl, hp⟩
  | registry query => exact ⟨_, _, _, rfl, rfl, hp.put id _⟩

theorem Paired.registerAs (hp : Paired a b h g) (name : String) (setup : Setup) (profile : Profile) :
    Agree a b (h.registerAs name setup profile) (g.registerAs name setup profile) := by
  obtain ⟨r, h', g', hx, hy, hs⟩ := hp.register setup profile
  unfold Host.registerAs
  rw [hx, hy]
  rcases r with p | f | id
  · exact ⟨_, _, _, rfl, rfl, hs⟩
  · exact ⟨_, _, _, rfl, rfl, hs⟩
  have hid : g'.id? name = h'.id? name := by obtain ⟨c, hs, rfl⟩ := hs; rfl
  simp only [hid]
  cases h'.id? name with
  | none => exact ⟨_, _, _, rfl, rfl, hs.bind name id⟩
  | some old =>
    obtain ⟨r, h', g', hx, hy, hs⟩ := (hs.bind name id).dispose old
    simp only [hx, hy]
    exact ⟨_, _, _, rfl, rfl, hs⟩

/-- What an operation does to one host it does to the other, and both outlets get the same records. -/
theorem Paired.run (hp : Paired a b h g) {op : Op} (ho : op.isShared) :
    let rs := h.handed op
    Agree (a.writeAll rs) (b.writeAll rs) (h.run op) (g.run op) := by
  intro rs
  have hid (name : String) : g.id? name = h.id? name := by obtain ⟨c, hs, rfl⟩ := hp; rfl
  obtain ⟨c, hc, hg⟩ := id hp
  have hd : g.sink = .controlled { c with outlet := b } := by rw [hg]
  have hmanual {op : Op} (ho : op.isManual = true) : Agree a b (h.run op) (g.run op) := by
    rw [run_of_isManual hc ho, run_of_isManual hd ho]
    exact ⟨_, _, _, rfl, rfl, hp⟩
  cases op with
  | enable k =>
    refine hp.exchange ?_ _
    rw [hc, hd]
    exact Sink.paired_notify a b { c with keyword := k, listening := true }
  | disable =>
    refine hp.exchange ?_ _
    rw [hc, hd]
    exact Sink.paired_notify a b { c with keyword := 0, listening := false }
  | sinkRegister =>
    refine hp.exchange ?_ _
    rw [hc, hd]
    exact Sink.paired_register a b c .idle
  | sinkUnregister handle => exact hp.exchange (hp.unregisterSink handle) _
  | write r => exact ⟨_, _, _, rfl, rfl, hp.write r⟩
  | fire times => exact hmanual rfl
  | failRegister on => exact hmanual rfl
  | failUnregister on => exact hmanual rfl
  | breakStream on => cases ho
  | flush => cases ho
  | register name setup profile => exact hp.registerAs name setup profile
  | drop name =>
    simp only [Host.run, hid]
    cases h.id? name with
    | none => exact ⟨_, _, _, rfl, rfl, hp⟩
    | some id =>
      obtain ⟨r, h', g', hx, hy, hs⟩ := (hp.map (·.unbind name) fun _ _ => rfl).dispose id
      simp only [hx, hy]
      exact ⟨_, _, _, rfl, rfl, hs⟩
  | call name call =>
    simp only [rs, handed, Host.run, hid]
    cases h.id? name with
    | none => exact ⟨_, _, _, rfl, rfl, hp⟩
    | some id =>
      simp only [hp.exporter?, Option.bind_some]
      cases h.exporter? id with
      | none => exact ⟨_, _, _, rfl, rfl, hp⟩
      | some e => exact hp.runCall id e call

/-! ## Scripts -/

/-- What two steps have in common, the first on a sink that keeps records and the second on one that
writes lines. -/
structure Step.Twins (s t : Step) : Prop where
  reply : t.reply = s.reply
  listening : t.after.sink.listening = s.after.sink.listening
  keyword : t.after.sink.keyword = s.after.sink.keyword
  names : t.after.names = s.after.names
  views : t.after.views = s.after.views
  /-- There is one line for each record, in their order. -/
  lines : List.Forall₂ Sink.IsLineOf s.records t.lines

theorem Paired.twins {x : Array Record} {s : Sink.Stream} {rs : List Record} {h' g' : Host} {reply : Reply}
    (hp : Paired (.memory x) (.stream s) h g) (hb : s.broken = false) (hf : s.format = .json)
    (hs : Paired ((Sink.Outlet.memory x).writeAll rs) ((Sink.Outlet.stream s).writeAll rs) h' g') :
    Step.Twins ⟨h, reply, h'⟩ ⟨g, reply, g'⟩ := by
  rw [Sink.Outlet.writeAll_memory, Sink.Outlet.writeAll_stream hb, hf] at hs
  obtain ⟨c, hc, rfl⟩ := hp
  obtain ⟨d, hd, rfl⟩ := hs
  -- both outlets took the same records, one of them as lines
  have hr : Step.records ⟨h, reply, h'⟩ = rs := by
    simp [Step.records, hc, hd, Sink.records, Sink.Outlet.records]
  have hl : Step.lines ⟨{ h with sink := .controlled { c with outlet := .stream s } }, reply,
      { h' with sink := .controlled { d with outlet := .stream { s with
        format := .json, lines := s.lines ++ (Sink.Format.json.lines s.clock (rs.zipIdx s.handed)).toArray
        written := s.written + rs.length } } }⟩ = Sink.Format.json.lines s.clock (rs.zipIdx s.handed) := by
    simp [Step.lines, Sink.lines, Sink.Outlet.lines]
  refine ⟨rfl, by rw [hd]; rfl, by rw [hd]; rfl, rfl, ?_, ?_⟩
  · refine List.map_congr_left fun p _ => ?_
    simp only [Exporter.view, Exporter.isActive, Sink.listening, hd]
  · have hlines := (Sink.Format.json.forall₂_lines s.clock (rs.zipIdx s.handed)).imp fun _ _ h => h.isLineOf
    rw [hr, hl]
    rwa [← List.forall₂_map_left_iff (f := Prod.fst), List.zipIdx_map_fst] at hlines

/-- Hosts that are paired stay so along a script, whose steps are twins. -/
theorem Paired.runScript {x : Array Record} {s : Sink.Stream} (hp : Paired (.memory x) (.stream s) h g)
    (hb : s.broken = false) (hf : s.format = .json) {ops : List Op} (ho : ∀ op ∈ ops, op.isShared) :
    List.Forall₂ Step.Twins (h.runScript ops) (g.runScript ops) := by
  induction ops generalizing h g x s with
  | nil => exact .nil
  | cons op ops ih =>
    obtain ⟨r, h', g', hx, hy, hs⟩ := hp.run (ho op (List.mem_cons_self ..))
    simp only [Host.runScript, hx, hy]
    refine .cons (hp.twins hb hf hs) ?_
    -- a stream that is not broken is not broken by writing, so the rest goes on the same way
    rw [Sink.Outlet.writeAll_memory, Sink.Outlet.writeAll_stream hb] at hs
    exact ih hs hb hf fun op hm => ho op (List.mem_cons_of_mem _ hm)

/-- A sink that keeps records and one that writes JSON are interchangeable: on either a script has
the same replies and leaves the same to be seen, and each line of the one reads back as a record of
the other. -/
theorem twins_memory_stream (clock : Nat → String) {ops : List Op} (ho : ∀ op ∈ ops, op.isShared) :
    List.Forall₂ Step.Twins (runScript { sink := .memory } ops)
      (runScript { sink := .stream .json clock } ops) := by
  have hp : Paired (.memory #[]) (.stream { format := .json, clock }) { sink := .memory }
      { sink := .stream .json clock } := ⟨{ outlet := .memory #[] }, rfl, rfl⟩
  exact hp.runScript rfl rfl ho

theorem twins_quoted_event :
    let ops : List Op := [.register "a" (.observed .panicking) ⟨["gpu"], []⟩, .enable 1#64, .sinkUnregister 7,
      .call "a" (.event 66 0 "say \"hi\"\n" 0 [⟨"path", .string "C:\\tmp"⟩]), .drop "a", .disable]
    (∀ op ∈ ops, op.isShared) ∧ List.Forall₂ Step.Twins (runScript { sink := .memory } ops)
      (runScript { sink := .stream .json Nat.repr } ops) := by
  intro ops
  have ho : ∀ op ∈ ops, op.isShared := by decide
  exact ⟨ho, twins_memory_stream Nat.repr ho⟩

end Host

end TraceExport
