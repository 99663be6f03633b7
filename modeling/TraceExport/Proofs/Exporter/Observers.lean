/-
Observers that panic. An exporter has finished an update when it calls its observer, and a sink has
finished when it calls an exporter, so a script leaves the same hosts whether observers return or
panic. Only the replies of those operations differ that called one, and these are seen by what it
noted.
-/
import TraceExport.Proofs.Exporter.Sound

namespace TraceExport

/-! ## Observers of one kind -/

namespace Exporter

/-- The exporter with an observer of this kind, if it has one. -/
def behaving (o : Observer) (e : Exporter) : Exporter := { e with observer := e.observer.map fun _ => o }

variable (o : Observer) (e : Exporter) (k : Keyword)

theorem observes_behaving : (e.behaving o).observes k = e.observes k := by
  simp [observes, behaving]

theorem updated_behaving : (e.behaving o).updated k = (e.updated k).behaving o := by
  unfold updated
  rw [observes_behaving]
  rfl

theorem outcome_behaving : (e.behaving o).outcome k =
    if e.observes k = true ∧ o = .panicking then .error .observer else .ok (e.registry.apply k).1 := by
  unfold outcome
  rw [observes_behaving]
  by_cases ho : e.observes k = true
  -- there is an observer to be called, and its kind alone decides how the update ends
  · obtain ⟨_, hi⟩ : (e.registry.last != k) = true ∧ e.observer.isSome = true := by
      simpa [observes] using ho
    obtain ⟨o', ho'⟩ := Option.isSome_iff_exists.1 hi
    have hb : (e.behaving o).observer = some .panicking ↔ o = .panicking := by simp [behaving, ho']
    simp only [hb]
    rfl
  · simp only [ho, false_and, if_false, Bool.false_eq_true]
    rfl

end Exporter

namespace Host

/-- The setup with an observer of this kind, if it has one. -/
def Setup.behaving (o : Observer) : Setup → Setup
  | .observed _ => .observed o
  | setup => setup

/-- The operation with an observer of this kind, if it brings one. -/
def Op.behaving (o : Observer) : Op → Op
  | .register name setup profile => .register name (setup.behaving o) profile
  | op => op

/-- The host with observers of this kind only. -/
def behaving (o : Observer) (h : Host) : Host :=
  { h with exporters := h.exporters.map fun (id, e) => (id, e.behaving o) }

section

variable (o : Observer) (h : Host) (c : Sink.Controlled) (id : Nat) (e : Exporter)

theorem exporter?_behaving : (h.behaving o).exporter? id = (h.exporter? id).map (·.behaving o) := by
  unfold exporter? behaving
  induction h.exporters with
  | nil => rfl
  | cons p l ih =>
    rw [List.map_cons, List.lookup_cons, List.lookup_cons, ih]
    split <;> rfl

theorem put_behaving : (h.behaving o).put id (e.behaving o) = (h.put id e).behaving o := by
  simp only [put, behaving, List.map_map, Host.mk.injEq, true_and, and_true]
  refine List.map_congr_left fun p _ => ?_
  by_cases hp : p.1 = id <;> simp [hp]

theorem put_updated_behaving (hc : h.sink = .controlled c) (k : Keyword) :
    { (h.behaving o).put id ((e.behaving o).updated k) with sink := .controlled c } =
      (h.put id (e.updated k)).behaving o := by
  rw [Exporter.updated_behaving, put_behaving, ← hc]
  rfl

theorem forget_behaving : (h.behaving o).forget id = (h.forget id).behaving o := by
  simp only [forget, behaving, List.filter_map, Function.comp_def]

theorem without_behaving : (h.behaving o).without c id = (h.without c id).behaving o := by
  have hs : ((h.behaving o).exporter? id).elim c.seat (·.lifecycle.leave c.seat) =
      (h.exporter? id).elim c.seat (·.lifecycle.leave c.seat) := by
    rw [exporter?_behaving]
    cases h.exporter? id <;> rfl
  unfold without
  rw [hs, forget_behaving]
  rfl

theorem joined_behaving (setup : Setup) (profile : Profile) (registry : Registry) :
    (h.behaving o).joined c (setup.behaving o) profile registry =
      (h.joined c setup profile registry).behaving o := by
  have hn : newcomer c (setup.behaving o) profile registry = (newcomer c setup profile registry).behaving o := by
    cases setup <;> simp [newcomer, Setup.behaving, Setup.observer?, Exporter.behaving, Exporter.updated,
      Exporter.observes]
  unfold joined
  rw [hn]
  rfl

theorem welcomed_behaving (name : String) (setup : Setup) (profile : Profile) (registry : Registry) :
    (h.behaving o).welcomed c name (setup.behaving o) profile registry =
      (h.welcomed c name setup profile registry).behaving o := by
  have hid : (h.behaving o).id? name = h.id? name := rfl
  simp only [welcomed, hid, joined_behaving]
  cases h.id? name with
  | none => rfl
  | some old =>
    exact without_behaving o ((h.joined c setup profile registry).bind name h.next)
      (c.withProvider (.exporter h.next)) old

end

/-! ## What observers hear -/

/-- Whether an observer noted something in the step. -/
def Step.Heard (s : Step) : Prop := ∃ id e, s.after.exporter? id = some e ∧ s.noted id e ≠ []

/-- No exporter of the second host has notes that it does not have in the first. -/
def Quiet (h g : Host) : Prop :=
  ∀ id e, g.exporter? id = some e → e.noted = [] ∨ ∃ e₀, h.exporter? id = some e₀ ∧ e.noted = e₀.noted

variable {h g : Host} {c : Sink.Controlled}

theorem Quiet.not_heard (hq : h.Quiet g) (r : Reply) : ¬ Step.Heard ⟨h, r, g⟩ := by
  rintro ⟨id, e, he, hne⟩
  refine hne ?_
  rcases hq id e he with hn | ⟨e₀, he₀, hn⟩
  · simp [Step.noted, hn]
  · simp [Step.noted, he₀, hn]

theorem quiet_of_exporters (hx : g.exporters = h.exporters) : h.Quiet g := by
  intro id e he
  refine .inr ⟨e, ?_, rfl⟩
  rw [← he, exporter?, exporter?, hx]

theorem quiet_put {id : Nat} {e₀ e : Exporter} (he : h.exporter? id = some e₀) (hn : e.noted = e₀.noted) :
    h.Quiet (h.put id e) := by
  intro j f hf
  rw [exporter?_put] at hf
  by_cases hj : j = id
  · subst hj
    rw [if_pos rfl, he] at hf
    cases hf
    exact .inr ⟨e₀, he, hn⟩
  · rw [if_neg hj] at hf
    exact .inr ⟨f, hf, rfl⟩

theorem Quiet.without (hq : h.Quiet g) (c : Sink.Controlled) (id : Nat) : h.Quiet (g.without c id) := by
  intro j f hf
  change (g.forget id).exporter? j = some f at hf
  rw [exporter?_forget] at hf
  split at hf
  · cases hf
  · exact hq j f hf

theorem newcomer_noted (c : Sink.Controlled) (setup : Setup) (profile : Profile) (registry : Registry) :
    (newcomer c setup profile registry).noted = [] := by
  cases setup <;> simp [newcomer, Setup.observer?, Exporter.updated, Exporter.observes]

theorem quiet_welcomed (h : Host) (c : Sink.Controlled) (name : String) (setup : Setup) (profile : Profile)
    (registry : Registry) : h.Quiet (h.welcomed c name setup profile registry) := by
  have hj : h.Quiet ((h.joined c setup profile registry).bind name h.next) := by
    intro id e he
    change (h.joined c setup profile registry).exporter? id = some e at he
    rw [exporter?_joined] at he
    split at he
    · cases he
      exact .inl (newcomer_noted ..)
    · exact .inr ⟨e, he, rfl⟩
  unfold welcomed
  cases h.id? name with
  | none => exact hj
  | some old => exact hj.without _ old

/-- An exporter that calls its observer has one note more. -/
theorem heard_put {id : Nat} {e : Exporter} (he : h.exporter? id = some e) (k : Keyword) (r : Reply) :
    Step.Heard ⟨h, r, h.put id (e.updated k)⟩ ↔ e.observes k = true := by
  cases ho : e.observes k with
  | true =>
    refine iff_of_true ⟨id, e.updated k, ?_, ?_⟩ rfl
    · show (h.put id (e.updated k)).exporter? id = _
      rw [exporter?_put, if_pos rfl, he]
      rfl
    · simp [Step.noted, he, Exporter.updated, ho]
  | false =>
    refine iff_of_false (Quiet.not_heard (quiet_put he ?_) r) (by decide)
    simp [Exporter.updated, ho]

/-! ## Operations -/

/-- How an operation ends when an observer of this kind is called in it, or none is. -/
def ending {α : Type} (panicked : α) (called : Bool) (r : α) : Observer → α
  | .returning => r
  | .panicking => if called then panicked else r

/-- What is run with observers of either kind: it leaves one host apart from their kind, and only
the panic of an observer that noted something tells the two apart. -/
def Impartial (h : Host) (x : Observer → Reply × Host) : Prop :=
  ∃ called r g, (∀ o, x o = (ending (.panicked .observer) called r o, g.behaving o)) ∧
    r ≠ .panicked .observer ∧ (called = true ↔ Step.Heard ⟨h, r, g⟩)

theorem Quiet.impartial (hq : h.Quiet g) {x : Observer → Reply × Host} {r : Reply}
    (hx : ∀ o, x o = (r, g.behaving o)) (hr : r ≠ .panicked .observer) : h.Impartial x := by
  refine ⟨false, r, g, fun o => ?_, hr, iff_of_false (by decide) (hq.not_heard r)⟩
  rw [hx o]
  cases o <;> rfl

theorem ending_ofOutcome {α : Type} (reply : α → Reply) (called : Bool) (a : α) (o : Observer) :
    Reply.ofOutcome reply (if called = true ∧ o = .panicking then .error .observer else .ok a) =
      ending (.panicked .observer) called (reply a) o := by
  cases o <;> cases called <;> rfl

/-- A callback reaches one exporter or none, and the same with either kind of observers. -/
theorem deliver_behaving (hc : h.sink = .controlled c) (callback : Sink.Callback) :
    ∃ called g, (∀ o, (h.behaving o).deliver callback =
        (if called = true ∧ o = .panicking then .error .observer else .ok (), g.behaving o)) ∧
      ∀ r, called = true ↔ Step.Heard ⟨h, r, g⟩ := by
  have hnone (hn : ∀ o, (h.behaving o).deliver callback = (.ok (), h.behaving o)) :
      ∃ called g, (∀ o, (h.behaving o).deliver callback =
          (if called = true ∧ o = .panicking then .error .observer else .ok (), g.behaving o)) ∧
        ∀ r, called = true ↔ Step.Heard ⟨h, r, g⟩ := by
    refine ⟨false, h, fun o => ?_, fun r => ?_⟩
    · rw [hn o]
      rfl
    · exact iff_of_false (by decide) ((quiet_of_exporters rfl).not_heard r)
  cases callback with
  | idle => exact hnone fun o => rfl
  | exporter id =>
    cases he : h.exporter? id with
    | none =>
      refine hnone fun o => deliver_of_not_registered fun e' he' => ?_
      rw [exporter?_behaving, he] at he'
      cases he'
    | some e =>
      have hb (o : Observer) : (h.behaving o).exporter? id = some (e.behaving o) := by
        rw [exporter?_behaving, he]
        rfl
      cases hr : e.lifecycle.isRegistered with
      | false =>
        refine hnone fun o => deliver_of_not_registered fun e' he' => ?_
        rw [hb o] at he'
        cases he'
        exact hr
      | true =>
        -- the one case in which an observer may be called
        have hk (o : Observer) : (h.behaving o).sink = .controlled c := hc
        refine ⟨e.observes c.keyword, h.put id (e.updated c.keyword), fun o => ?_, fun r => ?_⟩
        · rw [deliver_of_registered (hb o) hr, hk]
          refine Prod.ext ?_ (put_updated_behaving o h c id e hc c.keyword)
          simp only [Sink.keyword, Exporter.outcome_behaving]
          split <;> rfl
        · exact (heard_put he c.keyword r).symm

theorem impartial_notified (h : Host) (d : Sink.Controlled) : h.Impartial fun o =>
    (.ofOutcome (fun _ => .done) ((h.behaving o).notified d).1, ((h.behaving o).notified d).2) := by
  unfold notified
  cases d.seat.installed with
  | none =>
    have hq : h.Quiet { h with sink := .controlled d } := quiet_of_exporters rfl
    exact hq.impartial (fun o => rfl) (by decide)
  | some p =>
    obtain ⟨called, g, hx, hcalled⟩ :=
      deliver_behaving (h := { h with sink := .controlled d.counted }) (c := d.counted) rfl p.2
    refine ⟨called, .done, g, fun o => ?_, by decide, hcalled .done⟩
    have ho := hx o
    change { h.behaving o with sink := .controlled d.counted }.deliver p.2 = _ at ho
    simp only [ho, ending_ofOutcome]

theorem impartial_runCall (hc : h.sink = .controlled c) {id : Nat} {e : Exporter}
    (he : h.exporter? id = some e) (call : Call) :
    h.Impartial fun o => (h.behaving o).runCall id (e.behaving o) call := by
  have hk (o : Observer) : (h.behaving o).sink = .controlled c := hc
  cases call with
  | sync =>
    cases hr : e.lifecycle.isRegistered with
    | false =>
      refine Quiet.impartial (g := h) (quiet_of_exporters rfl) (r := .failed .notRegistered) (fun o => ?_) (by decide)
      have hb : (e.behaving o).lifecycle.isRegistered = false := hr
      simp [runCall, hb]
    | true =>
      refine ⟨e.observes c.keyword, .change (e.registry.apply c.keyword).1, h.put id (e.updated c.keyword),
        fun o => ?_, by simp, (heard_put he c.keyword _).symm⟩
      have hb : (e.behaving o).lifecycle.isRegistered = true := hr
      simp only [runCall, hb, if_true, sync_eq, hk]
      refine Prod.ext ?_ (put_updated_behaving o h c id e hc c.keyword)
      simp only [Sink.keyword, Exporter.outcome_behaving, ending_ofOutcome]
  | notified =>
    obtain ⟨called, g, hx, hcalled⟩ := deliver_behaving hc (.exporter id)
    refine ⟨called, .done, g, fun o => ?_, by decide, hcalled .done⟩
    simp only [runCall, hx o, ending_ofOutcome]
  | group group =>
    refine Quiet.impartial (g := h) (quiet_of_exporters rfl) (r := .ofOutcome .flag (e.isGroupOn h.sink group))
      (fun o => rfl) ?_
    unfold Exporter.isGroupOn
    split <;> simp [Reply.ofOutcome]
  | event phase flags name number args =>
    exact Quiet.impartial (g := { h with sink := e.send h.sink (e.eventRecord phase name args) })
      (quiet_of_exporters rfl) (fun o => rfl) (by decide)
  | completeEnd name =>
    exact Quiet.impartial (g := { h with sink := e.send h.sink (Exporter.completeEndRecord name) })
      (quiet_of_exporters rfl) (fun o => rfl) (by decide)
  | unregister =>
    cases hl : e.lifecycle with
    | registered handle =>
      refine Quiet.impartial (g := { h.put id { e with lifecycle := .unregistered } with
          sink := .controlled { c with seat := (c.seat.remove handle).2 } })
        (quiet_put (e := { e with lifecycle := .unregistered }) he rfl)
        (r := .ofResult (fun _ => .done) (c.seat.remove handle).1) (fun o => ?_) ?_
      · have hb : (e.behaving o).lifecycle = .registered handle := hl
        rw [runCall_unregister (hk o), hb]
        have hp := put_behaving o h id { e with lifecycle := .unregistered }
        exact Prod.ext rfl (congrArg (fun g : Host => { g with
          sink := .controlled { c with seat := (c.seat.remove handle).2 } }) hp)
      · cases (c.seat.remove handle).1 <;> simp [Reply.ofResult]
    | _ =>
      refine Quiet.impartial (g := h) (quiet_of_exporters rfl) (r := .failed .notRegistered) (fun o => ?_) (by decide)
      rw [runCall_unregister (hk o)]
      simp [Exporter.behaving, hl]
  | profile =>
    exact Quiet.impartial (g := h) (quiet_of_exporters rfl) (r := .profile e.profile) (fun o => rfl) (by simp)
  | registry query =>
    refine Quiet.impartial (g := h.put id { e with registry := (e.registry.ask query).2 })
      (quiet_put he rfl) (r := .registry (e.registry.ask query).1) (fun o => ?_) (by simp)
    have hp := put_behaving o h id { e with registry := (e.registry.ask query).2 }
    exact Prod.ext rfl hp

theorem accept_ne_observer {profile : Profile} {p : Panic} (hp : c.accept profile = .error p) : p ≠ .observer := by
  have hsize {r : Registry} {q : Panic} (hq : r.checkSize = .error q) : q ≠ .observer := by
    unfold Registry.checkSize at hq
    dsimp only at hq
    split at hq <;> cases hq
    simp
  have hnames {q : Panic} (hq : Registry.ofNames profile.filtered = .error q) : q ≠ .observer := by
    unfold Registry.ofNames at hq
    split at hq
    · cases hq; simp
    · dsimp only at hq
      split at hq
      · cases hq
      · next he => cases hq; exact hsize he
  unfold Sink.Controlled.accept at hp
  split at hp
  · cases hp
  · split at hp
    · next hq => cases hp; exact hnames hq
    · split at hp
      · cases hp
      · split at hp <;> cases hp

/-- No operation tells observers that return from observers that panic, but for its own reply. -/
theorem impartial_run (hs : h.Sound c) (op : Op) : h.Impartial fun o => (h.behaving o).run (op.behaving o) := by
  have hk (o : Observer) : (h.behaving o).sink = .controlled c := hs.sink
  have hself : h.Quiet h := quiet_of_exporters rfl
  have hset (d : Sink.Controlled) : h.Quiet { h with sink := .controlled d } := quiet_of_exporters rfl
  have hfree (o : Observer) : (h.behaving o).exporter? (h.behaving o).next = none := by
    rw [exporter?_behaving]
    show (h.exporter? h.next).map _ = none
    rw [hs.fresh h.next (Nat.le_refl _)]
    rfl
  cases op with
  | enable k =>
    simp only [Op.behaving, run_enable (hk _)]
    exact impartial_notified h _
  | disable =>
    simp only [Op.behaving, run_disable (hk _)]
    exact impartial_notified h _
  | sinkRegister =>
    simp only [Op.behaving, run_sinkRegister (hk _)]
    split
    · exact hself.impartial (fun o => rfl) (by simp)
    · split
      · exact hself.impartial (fun o => rfl) (by simp)
      · exact (hset _).impartial (fun o => rfl) (by simp)
  | sinkUnregister handle =>
    simp only [Op.behaving, run_sinkUnregister (hk _)]
    refine (hset _).impartial (fun o => rfl) ?_
    cases (c.seat.remove handle).1 <;> simp [Reply.ofResult]
  | write r =>
    have hw : h.Quiet { h with sink := h.sink.write r } := quiet_of_exporters rfl
    exact hw.impartial (r := .done) (fun o => rfl) (by simp)
  | fire times => exact hself.impartial (fun o => run_of_isManual (hk o) rfl) (by simp)
  | failRegister on => exact hself.impartial (fun o => run_of_isManual (hk o) rfl) (by simp)
  | failUnregister on => exact hself.impartial (fun o => run_of_isManual (hk o) rfl) (by simp)
  | breakStream on =>
    simp only [Op.behaving, run, hk, Sink.breakStream?]
    cases c.outlet with
    | memory records => exact hself.impartial (r := .unsupported) (fun o => rfl) (by simp)
    | stream s => exact (hset _).impartial (r := .done) (fun o => rfl) (by simp)
  | flush =>
    simp only [Op.behaving, run, hk]
    split
    · refine hself.impartial (fun o => rfl) ?_
      split <;> simp
    · exact hself.impartial (fun o => rfl) (by simp)
  | register name setup profile =>
    simp only [Op.behaving, run_register (hk _) (hfree _), welcomed_behaving]
    split
    · next p hp =>
      refine hself.impartial (fun o => rfl) fun he => ?_
      exact accept_ne_observer hp (Reply.panicked.inj he)
    · exact hself.impartial (fun o => rfl) (by simp)
    · exact (quiet_welcomed h c name setup profile _).impartial (fun o => rfl) (by simp)
  | drop name =>
    have hid (o : Observer) : (h.behaving o).id? name = h.id? name := rfl
    simp only [Op.behaving, run_drop (hk _), hid]
    split
    · exact hself.impartial (fun o => rfl) (by simp)
    · next id _ =>
      have hu : h.Quiet (h.unbind name) := quiet_of_exporters rfl
      refine (hu.without c id).impartial (r := .flag true) (fun o => ?_) (by simp)
      exact congrArg (Prod.mk _) (without_behaving o (h.unbind name) c id)
  | call name call =>
    have hid (o : Observer) : (h.behaving o).id? name = h.id? name := rfl
    simp only [Op.behaving, run, hid]
    split
    · exact hself.impartial (fun o => rfl) (by simp)
    · next id _ =>
      simp only [exporter?_behaving]
      cases he : h.exporter? id with
      | none => exact hself.impartial (fun o => rfl) (by simp)
      | some e => exact impartial_runCall hs.sink he call

/-! ## Scripts -/

theorem sound_behaving_iff (o : Observer) : (h.behaving o).Sound c ↔ h.Sound c := by
  constructor
  · intro hs
    refine hs.mono hs.sink rfl (fun _ _ hid => hid) ?_ rfl (fun _ hp => hp) hs.silent
    intro id e he
    exact ⟨e.behaving o, by rw [exporter?_behaving, he]; rfl, fun _ hl => hl⟩
  · intro hs
    refine hs.mono hs.sink rfl (fun _ _ hid => hid) ?_ rfl (fun _ hp => hp) hs.silent
    intro id e he
    rw [exporter?_behaving] at he
    obtain ⟨e₀, he₀, rfl⟩ := Option.map_eq_some_iff.1 he
    exact ⟨e₀, he₀, fun _ hl => hl⟩

theorem heard_behaving (o : Observer) (r r' : Reply) :
    Step.Heard ⟨h.behaving o, r', g.behaving o⟩ ↔ Step.Heard ⟨h, r, g⟩ := by
  have hn (id : Nat) (e : Exporter) : Step.noted ⟨h.behaving o, r', g.behaving o⟩ id (e.behaving o) =
      Step.noted ⟨h, r, g⟩ id e := by
    unfold Step.noted
    rw [exporter?_behaving]
    cases h.exporter? id <;> rfl
  constructor
  · rintro ⟨id, e, he, hne⟩
    dsimp only at he
    rw [exporter?_behaving] at he
    obtain ⟨e₀, he₀, rfl⟩ := Option.map_eq_some_iff.1 he
    exact ⟨id, e₀, he₀, hn id e₀ ▸ hne⟩
  · rintro ⟨id, e, he, hne⟩
    refine ⟨id, e.behaving o, ?_, (hn id e).symm ▸ hne⟩
    dsimp only at he ⊢
    rw [exporter?_behaving, he]
    rfl

theorem views_behaving (o : Observer) (h : Host) : (h.behaving o).views = h.views := by
  simp only [views, behaving, List.map_map]
  rfl

/-- What a step has in common with the same step when observers panic. -/
structure Step.Compared (s t : Step) : Prop where
  sink : t.after.sink = s.after.sink
  names : t.after.names = s.after.names
  views : t.after.views = s.after.views
  /-- The panic of an observer comes in place of the reply. -/
  heard : s.Heard → t.reply = .panicked .observer
  not_heard : ¬ s.Heard → t.reply = s.reply
  returned : s.reply ≠ .panicked .observer

theorem compared_runScript (hs : h.Sound c) (ops : List Op) : List.Forall₂ Step.Compared
    ((h.behaving .returning).runScript (ops.map (Op.behaving .returning)))
    ((h.behaving .panicking).runScript (ops.map (Op.behaving .panicking))) := by
  induction ops generalizing h c with
  | nil => exact .nil
  | cons op ops ih =>
    obtain ⟨called, r, g, hx, hr, hcalled⟩ := impartial_run hs op
    dsimp only at hx
    -- the next operations start from the common host, which is sound as either of the two is
    have hg : ∃ d, g.Sound d := by
      obtain ⟨d, hd⟩ := ((sound_behaving_iff .returning).2 hs).run (op.behaving .returning)
      rw [hx .returning] at hd
      exact ⟨d, (sound_behaving_iff .returning).1 hd⟩
    obtain ⟨d, hd⟩ := hg
    simp only [List.map_cons, runScript, hx]
    refine .cons ⟨rfl, rfl, ?_, ?_, ?_, hr⟩ (ih hd)
    · exact (views_behaving .panicking g).trans (views_behaving .returning g).symm
    · intro hh
      rw [hcalled.2 ((heard_behaving .returning r _).1 hh)]
      rfl
    · intro hh
      have hq : called = false := by
        cases called with
        | false => rfl
        | true => exact absurd ((heard_behaving .returning r _).2 (hcalled.1 rfl)) hh
      rw [hq]
      rfl

/-- A panicking observer corrupts nothing: on a new sink that notifies one provider, every step of a
script leaves the sink, the names and what can be seen of the exporters as it does with observers
that return, and replies as it does there unless it called an observer. -/
theorem panicking_observers_compared (outlet : Sink.Outlet) (rejecting : Bool) (ops : List Op) :
    List.Forall₂ Step.Compared
      (runScript { sink := .controlled { outlet, rejecting } } (ops.map (Op.behaving .returning)))
      (runScript { sink := .controlled { outlet, rejecting } } (ops.map (Op.behaving .panicking))) :=
  compared_runScript (sound_start outlet rejecting) ops

end Host

end TraceExport
