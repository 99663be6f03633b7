/-
The records that a sink keeps. Only writing adds one: a script writes a record directly, and an exporter
writes one for an event, and for the end of a complete event, if it is registered while somebody
listens. Everything else leaves the records as they are, callbacks included. The record of an event has
the texts of the event and of its first two arguments, as the profile of the exporter lets them show.
-/
import TraceExport.Proofs.Exporter.Standing

namespace TraceExport

namespace Sink

/-! ## The log of a sink -/

/-- The records of an outlet that keeps them. -/
def Outlet.log? : Outlet → Option (Array Record)
  | .memory records => some records
  | .stream _ => none

/-- The records of a sink that keeps them, which one that writes lines does not. -/
def log? : Sink → Option (Array Record)
  | .controlled c => c.outlet.log?
  | .manual m => some m.records

theorem log?_eq_some_iff (s : Sink) (records : Array Record) :
    s.log? = some records ↔ s.stream? = none ∧ s.records = records := by
  cases s with
  | manual m => simp [log?, stream?, Sink.records]
  | controlled c =>
    obtain ⟨_, _, _, _, outlet⟩ := c
    cases outlet <;> simp [log?, Outlet.log?, stream?, Sink.records, Outlet.records]

theorem log?_afterRead (s : Sink) : s.afterRead.log? = s.log? := by cases s <;> rfl

theorem log?_write (s : Sink) (r : Record) : (s.write r).log? = s.log?.map (·.push r) := by
  cases s with
  | manual m => rfl
  | controlled c => obtain ⟨_, _, _, _, outlet⟩ := c; cases outlet <;> rfl

theorem log?_notify (c : Controlled) : c.notify.sink.log? = c.outlet.log? := rfl

theorem log?_register (s : Sink) (callback : Callback) : (s.register callback).sink.log? = s.log? := by
  cases s with
  | manual m =>
    simp only [register]
    split <;> rfl
  | controlled c =>
    simp only [register]
    split
    · rfl
    split
    · rfl
    split <;> rfl

theorem log?_unregister (s : Sink) (handle : Nat) : (s.unregister handle).sink.log? = s.log? := by cases s <;> rfl

theorem log?_enable (s : Sink) (k : Keyword) : (s.enable k).sink.log? = s.log? := by cases s <;> rfl

theorem log?_disable (s : Sink) : s.disable.sink.log? = s.log? := by cases s <;> rfl

theorem log?_fire {s : Sink} {times : Nat} {x : Exchange Bool} (hx : s.fire? times = some x) : x.sink.log? = s.log? := by
  cases s with
  | controlled c => cases hx
  | manual m => cases hx; rfl

end Sink

namespace Host

variable {h : Host}

/-! ## Operations that write nothing -/

theorem log?_sync (h : Host) (id : Nat) (e : Exporter) : (h.sync id e).2.sink.log? = h.sink.log? := by
  rw [sync_eq]
  exact Sink.log?_afterRead h.sink

theorem log?_settle {α : Type} (h : Host) (x : Sink.Exchange α) : (h.settle x).2.sink.log? = x.sink.log? :=
  view_settle Sink.log?_afterRead h x

theorem log?_register (h : Host) (setup : Setup) (profile : Profile) :
    (h.register setup profile).2.sink.log? = h.sink.log? := by
  unfold register
  split
  · rfl
  split
  · rfl
  next registry _ =>
  have hs := (log?_settle { h with exporters := (h.next,
    { profile, registry, lifecycle := .registering, observer := setup.observer? }) :: h.exporters }
    (h.sink.register (.exporter h.next))).trans (h.sink.log?_register _)
  dsimp only
  generalize settle _ (h.sink.register (.exporter h.next)) = y at hs
  obtain ⟨p | f | handle, g⟩ := y
  · exact hs
  · exact hs
  cases setup with
  | plain => exact hs
  | observed o => exact hs
  | syncing =>
    let e : Exporter := { profile, registry, lifecycle := .registered handle, observer := Setup.syncing.observer? }
    have hsync := (log?_sync { g.put h.next e with next := h.next + 1 } h.next e).trans hs
    dsimp only [e] at hsync ⊢
    generalize sync _ h.next _ = y at hsync
    obtain ⟨p | change, k⟩ := y <;> exact hsync

theorem log?_dispose (h : Host) (id : Nat) : (h.dispose id).2.sink.log? = h.sink.log? := by
  unfold dispose
  split
  · rfl
  next e _ =>
  dsimp only
  split
  · next handle _ =>
    have hs := (log?_settle (h.forget id) ((h.forget id).sink.unregister handle)).trans (h.sink.log?_unregister handle)
    generalize (h.forget id).settle ((h.forget id).sink.unregister handle) = y at hs
    obtain ⟨p | u, g⟩ := y <;> exact hs
  · rfl

theorem log?_unregister (h : Host) (id : Nat) (e : Exporter) : (h.unregister id e).2.sink.log? = h.sink.log? := by
  unfold unregister
  split
  · next handle _ =>
    have hs := (log?_settle (h.put id { e with lifecycle := .unregistering }) (h.sink.unregister handle)).trans
      (h.sink.log?_unregister handle)
    dsimp only [put_sink]
    generalize (h.put id { e with lifecycle := .unregistering }).settle (h.sink.unregister handle) = y at hs
    obtain ⟨p | reply, g⟩ := y
    · exact hs
    · exact (congrArg Sink.log? (move_frame g id .unregistered).1).trans hs
  · rfl

theorem log?_registerAs (h : Host) (name : String) (setup : Setup) (profile : Profile) :
    (h.registerAs name setup profile).2.sink.log? = h.sink.log? := by
  have hr := log?_register h setup profile
  unfold registerAs
  generalize h.register setup profile = y at hr
  obtain ⟨p | f | id, g⟩ := y
  · exact hr
  · exact hr
  dsimp only
  split
  · exact hr
  · next old _ => exact (log?_dispose (g.bind name id) old).trans hr

/-! ## Records -/

/-- What a host adds to the records of its sink. -/
def Adds (h g : Host) (rs : List Record) : Prop := g.sink.log? = h.sink.log?.map (· ++ rs.toArray)

theorem adds_nil {g : Host} (hg : g.sink.log? = h.sink.log?) : Adds h g [] := by
  unfold Adds
  rw [hg]
  cases h.sink.log? <;> simp

theorem exchange_adds {α : Type} (h : Host) (reply : α → Reply) {x : Sink.Exchange α} (hx : x.sink.log? = h.sink.log?) :
    Adds h (h.exchange reply x).2 [] :=
  adds_nil ((log?_settle h x).trans hx)

theorem adjust_adds {s : Option Sink} (hs : ∀ s', s = some s' → s'.log? = h.sink.log?) : Adds h (h.adjust s).2 [] := by
  cases s with
  | none => exact adds_nil rfl
  | some s => exact adds_nil (hs s rfl)

theorem write_adds (h : Host) (r : Record) : Adds h { h with sink := h.sink.write r } [r] := by
  unfold Adds
  rw [Sink.log?_write]
  cases h.sink.log? <;> simp [← Array.append_singleton]

theorem send_adds (h : Host) (e : Exporter) (r : Record) :
    Adds h { h with sink := e.send h.sink r } (if e.isActive h.sink then [r] else []) := by
  unfold Exporter.send
  split
  · exact write_adds h r
  · exact adds_nil rfl

theorem runCall_adds (h : Host) (id : Nat) (e : Exporter) (call : Call) :
    Adds h (h.runCall id e call).2 (call.handed e h.sink) := by
  cases call with
  | sync =>
    refine adds_nil ?_
    simp only [runCall]
    split
    · exact log?_sync h id e
    · rfl
  | notified => exact adds_nil (view_deliver Sink.log?_afterRead h (.exporter id))
  | event phase flags label number args => exact send_adds h e _
  | completeEnd label => exact send_adds h e _
  | unregister => exact adds_nil (log?_unregister h id e)
  | _ => exact adds_nil rfl

/-- An operation adds the record that it hands to the sink, and no other. -/
theorem run_adds (h : Host) (op : Op) : Adds h (h.run op).2 (h.handed op) := by
  cases op with
  | enable k => exact exchange_adds h _ (h.sink.log?_enable k)
  | disable => exact exchange_adds h _ h.sink.log?_disable
  | sinkRegister => exact exchange_adds h _ (h.sink.log?_register .idle)
  | sinkUnregister handle => exact exchange_adds h _ (h.sink.log?_unregister handle)
  | write r => exact write_adds h r
  | fire times =>
    simp only [run]
    split
    · next x hx => exact exchange_adds h _ (Sink.log?_fire hx)
    · exact adds_nil rfl
  | failRegister on =>
    refine adjust_adds fun s hf => ?_
    cases hs : h.sink <;> rw [hs] at hf <;> cases hf
    rfl
  | failUnregister on =>
    refine adjust_adds fun s hf => ?_
    cases hs : h.sink <;> rw [hs] at hf <;> cases hf
    rfl
  | breakStream on =>
    refine adjust_adds fun s hf => ?_
    cases hs : h.sink with
    | manual m => rw [hs] at hf; cases hf
    | controlled c =>
      rw [hs] at hf
      obtain ⟨_, _, _, _, outlet⟩ := c
      cases outlet <;> cases hf
      rfl
  | flush =>
    simp only [run]
    split <;> exact adds_nil rfl
  | register name setup profile => exact adds_nil (log?_registerAs h name setup profile)
  | drop name =>
    simp only [run]
    split
    · exact adds_nil rfl
    · next id _ => exact adds_nil (log?_dispose (h.unbind name) id)
  | call name call =>
    simp only [run, handed]
    cases h.id? name with
    | none => exact adds_nil rfl
    | some id =>
      cases he : h.exporter? id with
      | none => simp only [Option.bind_some, he]; exact adds_nil rfl
      | some e => simp only [Option.bind_some, he]; exact runCall_adds h id e call

theorem Adds.trans {g k : Host} {rs more : List Record} (hg : Adds h g rs) (hk : Adds g k more) : Adds h k (rs ++ more) := by
  unfold Adds at *
  rw [hk, hg]
  cases h.sink.log? <;> simp

/-- Records stay, so what a script leaves are those from before it and more. -/
theorem after_adds (h : Host) (ops : List Op) : ∃ rs, Adds h (h.after ops) rs := by
  induction ops generalizing h with
  | nil => exact ⟨[], adds_nil rfl⟩
  | cons op ops ih =>
    obtain ⟨rs, hrs⟩ := ih (h.run op).2
    exact ⟨_, (run_adds h op).trans hrs⟩

/-- On a sink that keeps its records nothing else is said by them. -/
theorem Adds.records {g : Host} {rs : List Record} (ha : Adds h g rs) (hs : h.sink.stream? = none) :
    g.sink.stream? = none ∧ g.sink.records = h.sink.records ++ rs.toArray := by
  have hlog : h.sink.log? = some h.sink.records := (Sink.log?_eq_some_iff _ _).2 ⟨hs, rfl⟩
  refine (Sink.log?_eq_some_iff _ _).1 ?_
  rw [ha, hlog]
  rfl

end Host

/-! ## The record of an event -/

/-- What a profile lets an argument show, where there is one: its name, and its rendering unless the
kind of the value is left out. -/
inductive Profile.Shows (p : Profile) : Option Arg → Field → Prop
  | absent : Shows p none ⟨"", ""⟩
  | skipped {a : Arg} (h : a.value.kind ∈ p.skipped) : Shows p (some a) ⟨a.name, ""⟩
  | rendered {a : Arg} (h : a.value.kind ∉ p.skipped) : Shows p (some a) ⟨a.name, a.value.render⟩

/-- The field of an argument, where there is one. -/
def Profile.fieldAt (p : Profile) (a : Option Arg) : Field := a.elim .blank p.field

theorem Profile.shows_fieldAt (p : Profile) (a : Option Arg) : p.Shows a (p.fieldAt a) := by
  cases a with
  | none => exact .absent
  | some a =>
    by_cases hk : a.value.kind ∈ p.skipped
    · have hf : p.fieldAt (some a) = ⟨a.name, ""⟩ := by simp [fieldAt, field, skips, hk]
      rw [hf]
      exact .skipped hk
    · have hf : p.fieldAt (some a) = ⟨a.name, a.value.render⟩ := by simp [fieldAt, field, skips, hk]
      rw [hf]
      exact .rendered hk

theorem Profile.Shows.eq_fieldAt {p : Profile} {a : Option Arg} {f : Field} (h : p.Shows a f) : f = p.fieldAt a := by
  cases h with
  | absent => rfl
  | skipped hk => simp [fieldAt, field, skips, hk]
  | rendered hk => simp [fieldAt, field, skips, hk]

/-- Of a profile an argument needs only whether its own kind is left out. -/
theorem Profile.fieldAt_congr {p q : Profile} {a : Option Arg}
    (h : ∀ b, a = some b → (b.value.kind ∈ q.skipped ↔ b.value.kind ∈ p.skipped)) : q.fieldAt a = p.fieldAt a := by
  cases a with
  | none => rfl
  | some a => simp [fieldAt, field, skips, h a rfl]

theorem Exporter.eventRecord_eq (e : Exporter) (phase : UInt8) (label : String) (args : List Arg) :
    e.eventRecord phase label args =
      .ofEvent label (Phase.label phase) (e.profile.fieldAt args[0]?) (e.profile.fieldAt args[1]?) := by
  match args with
  | [] => rfl
  | [_] => rfl
  | _ :: _ :: _ => rfl

/-- Each of the first two arguments has two texts of its own. -/
theorem Exporter.eventRecord_texts (e : Exporter) (phase : UInt8) (label : String) (args : List Arg) {i : Nat} (hi : i < 2) :
    (e.eventRecord phase label args).fields[2 * i + 2]? = some (e.profile.fieldAt args[i]?).name ∧
      (e.eventRecord phase label args).fields[2 * i + 3]? = some (e.profile.fieldAt args[i]?).value := by
  rw [eventRecord_eq]
  obtain rfl | rfl : i = 0 ∨ i = 1 := by omega
  · exact ⟨rfl, rfl⟩
  · exact ⟨rfl, rfl⟩

namespace Host

variable {h : Host}

/-- Whether the exporter with a name is registered while somebody listens. -/
def Active (h : Host) (name : String) : Prop := h.sink.listening = true ∧
  ∃ id e, h.id? name = some id ∧ h.exporter? id = some e ∧ e.lifecycle.isRegistered = true

/-- Whether an operation reaches the records: it writes one, or it is an event or the end of one, of an
active exporter. -/
def Reaches (h : Host) : Op → Prop
  | .write _ => True
  | .call name (.event ..) => h.Active name
  | .call name (.completeEnd _) => h.Active name
  | _ => False

/-- Whether a record is the one of an operation. -/
inductive Emits (h : Host) : Op → Record → Prop
  | write (r : Record) : Emits h (.write r) r
  | event {name label : String} {id : Nat} {e : Exporter} {phase flags : UInt8} {number : UInt64}
      {args : List Arg} {first second : Field} {r : Record} (hid : h.id? name = some id)
      (he : h.exporter? id = some e) (hfirst : e.profile.Shows args[0]? first)
      (hsecond : e.profile.Shows args[1]? second)
      (hr : r.fields = [label, Phase.label phase, first.name, first.value, second.name, second.value, "", ""]) :
      Emits h (.call name (.event phase flags label number args)) r
  | completeEnd {name label : String} {r : Record}
      (hr : r.fields = [label, "Complete End", "", "", "", "", "", ""]) :
      Emits h (.call name (.completeEnd label)) r

/-- There is one record for an event, which the exporter with the name makes. -/
theorem Emits.fields_of_event {name label : String} {phase flags : UInt8} {number : UInt64} {args : List Arg}
    {r : Record} {id : Nat} {e : Exporter} (hr : h.Emits (.call name (.event phase flags label number args)) r)
    (hid : h.id? name = some id) (he : h.exporter? id = some e) :
    r.fields = [label, Phase.label phase, (e.profile.fieldAt args[0]?).name, (e.profile.fieldAt args[0]?).value,
      (e.profile.fieldAt args[1]?).name, (e.profile.fieldAt args[1]?).value, "", ""] := by
  cases hr with
  | event hid' he' hfirst hsecond hfields =>
    cases hid'.symm.trans hid
    cases he'.symm.trans he
    rw [hfields, hfirst.eq_fieldAt, hsecond.eq_fieldAt]

/-- A call that hands over a record does so for an active exporter. -/
theorem handed_call (h : Host) (name : String) (call : Call) (record : Exporter → Record)
    (hc : ∀ (e : Exporter) s, call.handed e s = if e.isActive s then [record e] else []) :
    (h.Active name → ∃ id e, h.id? name = some id ∧ h.exporter? id = some e ∧
      h.handed (.call name call) = [record e]) ∧
    (¬ h.Active name → h.handed (.call name call) = []) := by
  constructor
  · rintro ⟨hl, id, e, hid, he, hr⟩
    refine ⟨id, e, hid, he, ?_⟩
    simp [handed, hid, he, hc, Exporter.isActive, hl, hr]
  · intro hn
    cases hid : h.id? name with
    | none => simp [handed, hid]
    | some id =>
      cases he : h.exporter? id with
      | none => simp [handed, hid, he]
      | some e =>
        have hactive : e.isActive h.sink = false := by
          cases ha : e.isActive h.sink with
          | false => rfl
          | true =>
            rw [Exporter.isActive, Bool.and_eq_true] at ha
            exact absurd ⟨ha.2, id, e, hid, he, ha.1⟩ hn
        simp [handed, hid, he, hc, hactive]

/-- An operation that reaches the records hands over its one record, and any other hands over none. -/
theorem handed_cases (h : Host) (op : Op) :
    (h.Reaches op → ∃ r, h.Emits op r ∧ h.handed op = [r]) ∧ (¬ h.Reaches op → h.handed op = []) := by
  cases op with
  | write r => exact ⟨fun _ => ⟨r, .write r, rfl⟩, fun hn => absurd trivial hn⟩
  | call name call =>
    cases call with
    | event phase flags label number args =>
      obtain ⟨hyes, hno⟩ := handed_call h name (.event phase flags label number args)
        (·.eventRecord phase label args) fun _ _ => rfl
      refine ⟨fun ha => ?_, hno⟩
      obtain ⟨id, e, hid, he, hr⟩ := hyes ha
      refine ⟨_, .event hid he (e.profile.shows_fieldAt _) (e.profile.shows_fieldAt _) ?_, hr⟩
      rw [Exporter.eventRecord_eq]
      rfl
    | completeEnd label =>
      obtain ⟨hyes, hno⟩ := handed_call h name (.completeEnd label)
        (fun _ => Exporter.completeEndRecord label) fun _ _ => rfl
      refine ⟨fun ha => ?_, hno⟩
      obtain ⟨-, -, -, -, hr⟩ := hyes ha
      exact ⟨_, .completeEnd rfl, hr⟩
    | _ =>
      refine ⟨fun ha => ha.elim, fun _ => ?_⟩
      cases hx : (h.id? name).bind h.exporter? <;> simp [handed, hx, Call.handed]
  | _ => exact ⟨fun ha => ha.elim, fun _ => rfl⟩

/-- What is kept is what was handed over. After any script on a sink that keeps its records, an operation
adds one record if it writes one, or if it is an event or the end of one and the exporter is
registered while somebody listens, and no operation adds anything else. The record of an event has the
texts of the event and what the profile lets its first two arguments show; its number and its flags
are not in it, and neither argument has anything to do with the texts of the other. -/
theorem records_exact {sink : Sink} (hs : sink.stream? = none) (ops : List Op) :
    let h : Host := Host.after { sink } ops
    (∀ op, (h.Reaches op → ∃ r, h.Emits op r ∧ (h.run op).2.sink.records = h.sink.records.push r) ∧
      (¬ h.Reaches op → (h.run op).2.sink.records = h.sink.records)) ∧
    (∀ name phase label args flags flags' number number',
      h.run (.call name (.event phase flags' label number' args)) = h.run (.call name (.event phase flags label number args))) ∧
    ∀ (e e' : Exporter) phase phase' label label' args args', ∀ i < 2, args'[i]? = args[i]? →
      (∀ a, args[i]? = some a → (a.value.kind ∈ e'.profile.skipped ↔ a.value.kind ∈ e.profile.skipped)) →
      ∀ j ∈ [2 * i + 2, 2 * i + 3],
        (e'.eventRecord phase' label' args').fields[j]? = (e.eventRecord phase label args).fields[j]? := by
  intro h
  obtain ⟨rs, hrs⟩ := after_adds { sink } ops
  have hkeeps : h.sink.stream? = none := (hrs.records hs).1
  refine ⟨fun op => ?_, fun _ _ _ _ _ _ _ _ => rfl, ?_⟩
  · obtain ⟨hyes, hno⟩ := handed_cases h op
    have hadds := ((run_adds h op).records hkeeps).2
    refine ⟨fun hr => ?_, fun hr => ?_⟩
    · obtain ⟨r, hemits, hone⟩ := hyes hr
      refine ⟨r, hemits, ?_⟩
      rw [hadds, hone, Array.push_eq_append]
    · rw [hadds, hno hr, Array.append_empty]
  · intro e e' phase phase' label label' args args' i hi hargs hskip j hj
    have hfield : e'.profile.fieldAt args'[i]? = e.profile.fieldAt args[i]? := by
      rw [hargs]
      exact Profile.fieldAt_congr hskip
    obtain ⟨hname, hvalue⟩ := e.eventRecord_texts phase label args hi
    obtain ⟨hname', hvalue'⟩ := e'.eventRecord_texts phase' label' args' hi
    obtain rfl | rfl := List.mem_pair.1 hj
    · rw [hname, hname', hfield]
    · rw [hvalue, hvalue', hfield]

/-- An event with three arguments, the first of a kind that its profile leaves out, and a call that is
none. -/
theorem records_exact_draw :
    let sink : Sink := .manual { callsInRegister := 1 }
    let profile : Profile := ⟨["gpu"], [.string]⟩
    let h : Host := Host.after { sink } [.register "a" .plain profile, .enable 1#64]
    let args : List Arg := [⟨"url", .string "x"⟩, ⟨"count", .uint 3⟩, ⟨"rest", .bool true⟩]
    let op : Op := .call "a" (.event 66 0 "draw" 7 args)
    let e : Exporter := { profile, registry := ⟨[("gpu", false)], false, false, 0⟩, lifecycle := .registered 1 }
    sink.stream? = none ∧
    (h.Reaches op ∧ ∃ r, r.fields = ["draw", "Begin", "url", "", "count", "3", "", ""] ∧
      (h.run op).2.sink.records = h.sink.records.push r) ∧
    (¬ h.Reaches (.call "a" .sync) ∧ (h.run (.call "a" .sync)).2.sink.records = h.sink.records) ∧
    (e.eventRecord 69 "other" (args.take 2)).fields[5]? = ({ e with profile := {} }.eventRecord 66 "draw" args).fields[5]? := by
  intro sink profile h args op e
  have hs : sink.stream? = none := rfl
  obtain ⟨hops, -, htexts⟩ := records_exact hs [.register "a" .plain profile, .enable 1#64]
  have hreaches : h.Reaches op := ⟨rfl, 0, _, rfl, rfl, rfl⟩
  have hnot : ¬ h.Reaches (.call "a" .sync) := fun ha => ha
  have hlabel : Phase.label 66 = "Begin" := Phase.label_of_mem_table (66, "Begin") (List.mem_cons_self ..)
  refine ⟨hs, ⟨hreaches, ?_⟩, ⟨hnot, (hops _).2 hnot⟩, ?_⟩
  · obtain ⟨r, hemits, hpush⟩ := (hops op).1 hreaches
    refine ⟨r, ?_, hpush⟩
    rw [hemits.fields_of_event rfl rfl, hlabel]
    decide
  · refine htexts _ _ _ _ _ _ args (args.take 2) 1 (by decide) rfl (fun a ha => ?_) 5 (by decide)
    obtain rfl := Option.some.inj ha
    decide

end Host

end TraceExport
