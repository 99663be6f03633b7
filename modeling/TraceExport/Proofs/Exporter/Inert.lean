/-
Exporters that have left their sink, over a sink of any kind. A host with such an exporter and the
same host without it go through a script side by side: what the one answers the other does, their
sinks are the same at every step, and the exporter itself stays as it is. So it reads no keyword,
writes no record and calls no observer, whoever still has its callback.
-/
import TraceExport.Proofs.Exporter.Standing

namespace TraceExport

namespace Host

variable {α : Type} {h g : Host} {id : Nat} {e : Exporter}

/-! ## With and without an exporter -/

/-- A host with an exporter, and the same host without it. -/
structure Beside (id : Nat) (e : Exporter) (h g : Host) : Prop where
  without : g = h.forget id
  same : ∀ e', h.exporter? id = some e' → e' = e
  old : id < h.next

/-- Two ends of one operation: the outcomes are equal, and the hosts differ by an exporter only. -/
def Alike (id : Nat) (e : Exporter) (x y : α × Host) : Prop := ∃ r h g, x = (r, h) ∧ y = (r, g) ∧ Beside id e h g

theorem Beside.alike (hb : Beside id e h g) (r : α) : Alike id e (r, h) (r, g) := ⟨r, h, g, rfl, rfl, hb⟩

theorem Beside.exporter? (hb : Beside id e h g) {j : Nat} (hj : j ≠ id) : g.exporter? j = h.exporter? j := by
  rw [hb.without, exporter?_forget, if_neg hj]

theorem Beside.absent (hb : Beside id e h g) : g.exporter? id = none := by
  rw [hb.without, exporter?_forget, if_pos rfl]

theorem Beside.withSink (hb : Beside id e h g) (s : Sink) : Beside id e { h with sink := s } { g with sink := s } := by
  obtain ⟨rfl, hs, ho⟩ := hb
  exact ⟨rfl, hs, ho⟩

theorem forget_put (h : Host) (id j : Nat) (e : Exporter) : (h.put j e).forget id = (h.forget id).put j e := by
  simp only [Host.forget, Host.put, List.filter_map, Host.mk.injEq, true_and, and_true]
  refine congrArg _ (List.filter_congr fun p _ => ?_)
  by_cases hp : p.1 = j <;> simp [hp]

theorem Beside.put (hb : Beside id e h g) {j : Nat} (hj : j ≠ id) (f : Exporter) : Beside id e (h.put j f) (g.put j f) := by
  obtain ⟨rfl, hs, ho⟩ := hb
  refine ⟨(forget_put h id j f).symm, fun e' he => hs e' ?_, ho⟩
  rwa [exporter?_put, if_neg (Ne.symm hj)] at he

theorem Beside.forget (hb : Beside id e h g) (j : Nat) : Beside id e (h.forget j) (g.forget j) := by
  obtain ⟨rfl, hs, ho⟩ := hb
  refine ⟨?_, fun e' he => hs e' ?_, ho⟩
  · simp only [Host.forget, List.filter_filter, Host.mk.injEq, true_and, and_true]
    exact List.filter_congr fun p _ => Bool.and_comm _ _
  · rw [exporter?_forget] at he
    split at he
    · cases he
    · exact he

theorem Beside.move (hb : Beside id e h g) {j : Nat} (hj : j ≠ id) (l : Lifecycle) :
    Beside id e (h.move j l) (g.move j l) := by
  unfold Host.move
  rw [hb.exporter? hj]
  split
  · exact hb.put hj _
  · exact hb

theorem Beside.sync (hb : Beside id e h g) {j : Nat} (hj : j ≠ id) (f : Exporter) :
    Alike id e (h.sync j f) (g.sync j f) := by
  have hsink : g.sink = h.sink := by rw [hb.without]; rfl
  rw [sync_eq, sync_eq, hsink]
  exact ((hb.put hj _).withSink _).alike _

/-! ## Callbacks -/

/-- The callback of an exporter that is not registered does nothing. -/
theorem Beside.deliver (hb : Beside id e h g) (he : e.lifecycle.isRegistered = false) (call : Sink.Callback) :
    Alike id e (h.deliver call) (g.deliver call) := by
  cases call with
  | idle => exact hb.alike _
  | exporter j =>
    by_cases hj : j = id
    · subst hj
      rw [deliver_of_not_registered (fun e' he' => hb.same e' he' ▸ he),
        deliver_of_not_registered (fun e' he' => by rw [hb.absent] at he'; cases he')]
      exact hb.alike _
    · simp only [Host.deliver, hb.exporter? hj]
      split
      · exact hb.alike _
      next f _ =>
      split
      · obtain ⟨r, h', g', hx, hy, hs⟩ := hb.sync hj f
        rw [hx, hy]
        cases r <;> exact hs.alike _
      · exact hb.alike _

theorem Beside.deliverAll (hb : Beside id e h g) (he : e.lifecycle.isRegistered = false) (calls : List Sink.Callback) :
    Alike id e (h.deliverAll calls) (g.deliverAll calls) := by
  induction calls generalizing h g with
  | nil => exact hb.alike _
  | cons call calls ih =>
    obtain ⟨r, h', g', hx, hy, hs⟩ := hb.deliver he call
    simp only [Host.deliverAll, hx, hy]
    cases r with
    | error p => exact hs.alike _
    | ok u => exact ih hs

theorem Beside.settle (hb : Beside id e h g) (he : e.lifecycle.isRegistered = false) (x : Sink.Exchange α) :
    Alike id e (h.settle x) (g.settle x) := by
  obtain ⟨r, h', g', hx, hy, hs⟩ := (hb.withSink x.sink).deliverAll he x.calls
  simp only [Host.settle, hx, hy]
  cases r <;> exact hs.alike _

/-! ## Registering and unregistering -/

theorem Beside.cons (hb : Beside id e h g) {j : Nat} (hj : j ≠ id) (f : Exporter) :
    Beside id e { h with exporters := (j, f) :: h.exporters } { g with exporters := (j, f) :: g.exporters } := by
  obtain ⟨rfl, hs, ho⟩ := hb
  refine ⟨?_, fun e' he => hs e' ?_, ho⟩
  · simp only [Host.forget, Host.mk.injEq, true_and, and_true]
    rw [List.filter_cons, if_pos (by simpa using hj)]
  · unfold Host.exporter? at he ⊢
    rwa [List.lookup_cons, beq_eq_false_iff_ne.2 (Ne.symm hj)] at he

theorem Beside.next (hb : Beside id e h g) {n : Nat} (hn : id < n) :
    Beside id e { h with next := n } { g with next := n } := by
  obtain ⟨rfl, hs, ho⟩ := hb
  exact ⟨rfl, hs, hn⟩

theorem Beside.register (hb : Beside id e h g) (he : e.lifecycle.isRegistered = false) (setup : Setup)
    (profile : Profile) : Alike id e (h.register setup profile) (g.register setup profile) := by
  have hn : g.next = h.next := by rw [hb.without]; rfl
  have hsink : g.sink = h.sink := by rw [hb.without]; rfl
  have hj : h.next ≠ id := Nat.ne_of_gt hb.old
  simp only [Host.register, hn, hsink]
  split
  · exact hb.alike _
  split
  · exact hb.alike _
  next registry _ =>
  have hs := hb.cons hj { profile, registry, lifecycle := .registering, observer := setup.observer? }
  obtain ⟨r, h', g', hx, hy, hs⟩ := hs.settle he (h.sink.register (.exporter h.next))
  rw [hsink, hn] at hy
  rw [hx, hy]
  rcases r with p | f | handle
  · exact (hs.forget h.next).alike _
  · exact (hs.forget h.next).alike _
  let f : Exporter := { profile, registry, lifecycle := .registered handle, observer := setup.observer? }
  have hs := (hs.put hj f).next (Nat.lt_succ_of_lt hb.old)
  cases setup with
  | plain => exact hs.alike _
  | observed o => exact hs.alike _
  | syncing =>
    obtain ⟨r, h', g', hx, hy, hs⟩ := hs.sync hj f
    simp only [f, Setup.observer?] at hx hy
    simp only [Setup.observer?, hx, hy]
    cases r <;> exact hs.alike _

theorem Beside.unregister (hb : Beside id e h g) (he : e.lifecycle.isRegistered = false) {j : Nat} (hj : j ≠ id)
    (f : Exporter) : Alike id e (h.unregister j f) (g.unregister j f) := by
  have hsink : g.sink = h.sink := by rw [hb.without]; rfl
  unfold Host.unregister
  split
  · next handle _ =>
    obtain ⟨r, h', g', hx, hy, hs⟩ := (hb.put hj { f with lifecycle := .unregistering }).settle he (h.sink.unregister handle)
    simp only [put_sink, hsink, hx, hy]
    cases r with
    | error p => exact hs.alike _
    | ok reply => exact (hs.move hj .unregistered).alike _
  · exact hb.alike _

theorem Beside.dispose (hb : Beside id e h g) (he : e.lifecycle.isRegistered = false) (j : Nat) :
    Alike id e (h.dispose j) (g.dispose j) := by
  have hsink : g.sink = h.sink := by rw [hb.without]; rfl
  by_cases hj : j = id
  · subst hj
    -- it takes no provider along, so the host is then the one without it
    have hg : g.dispose j = (.ok (), g.forget j) := by
      rw [Host.dispose, hb.absent, forget_eq_self g j hb.absent]
    have hh : h.dispose j = (.ok (), h.forget j) := by
      rw [Host.dispose]
      split
      · next hn => rw [forget_eq_self h j hn]
      · next e' he' =>
        obtain rfl := hb.same e' he'
        split
        · next handle hl => rw [hl] at he; cases he
        · rfl
    rw [hg, hh]
    exact (hb.forget j).alike _
  · have hs := hb.forget j
    simp only [Host.dispose, hb.exporter? hj, forget_sink, hsink]
    split
    · exact hb.alike _
    split
    · next handle _ =>
      obtain ⟨r, h', g', hx, hy, hs⟩ := hs.settle he (h.sink.unregister handle)
      rw [hx, hy]
      cases r <;> exact hs.alike _
    · exact hs.alike _

/-! ## Operations -/

theorem Beside.exchange (hb : Beside id e h g) (he : e.lifecycle.isRegistered = false) (reply : α → Reply)
    (x : Sink.Exchange α) : Alike id e (h.exchange reply x) (g.exchange reply x) := by
  obtain ⟨r, h', g', hx, hy, hs⟩ := hb.settle he x
  simp only [Host.exchange, hx, hy]
  exact hs.alike _

theorem Beside.adjust (hb : Beside id e h g) (s : Option Sink) : Alike id e (h.adjust s) (g.adjust s) := by
  cases s with
  | none => exact hb.alike _
  | some s => exact (hb.withSink s).alike _

theorem Beside.unbind (hb : Beside id e h g) (name : String) : Beside id e (h.unbind name) (g.unbind name) := by
  obtain ⟨rfl, hs, ho⟩ := hb
  exact ⟨rfl, hs, ho⟩

theorem Beside.bind (hb : Beside id e h g) (name : String) (j : Nat) : Beside id e (h.bind name j) (g.bind name j) := by
  obtain ⟨rfl, hs, ho⟩ := hb
  exact ⟨rfl, hs, ho⟩

theorem Beside.registerAs (hb : Beside id e h g) (he : e.lifecycle.isRegistered = false) (name : String)
    (setup : Setup) (profile : Profile) :
    Alike id e (h.registerAs name setup profile) (g.registerAs name setup profile) := by
  obtain ⟨r, h', g', hx, hy, hs⟩ := hb.register he setup profile
  unfold Host.registerAs
  rw [hx, hy]
  rcases r with p | f | j
  · exact hs.alike _
  · exact hs.alike _
  have hid : g'.id? name = h'.id? name := by rw [hs.without]; rfl
  simp only [hid]
  cases h'.id? name with
  | none => exact (hs.bind name j).alike _
  | some old =>
    obtain ⟨r, h', g', hx, hy, hs⟩ := (hs.bind name j).dispose he old
    simp only [hx, hy]
    exact hs.alike _

/-- What another exporter is asked to do. -/
theorem Beside.runCall (hb : Beside id e h g) (he : e.lifecycle.isRegistered = false) {j : Nat} (hj : j ≠ id)
    (f : Exporter) (call : Call) : Alike id e (h.runCall j f call) (g.runCall j f call) := by
  have hsink : g.sink = h.sink := by rw [hb.without]; rfl
  cases call with
  | sync =>
    simp only [Host.runCall]
    split
    · obtain ⟨r, h', g', hx, hy, hs⟩ := hb.sync hj f
      rw [hx, hy]
      exact hs.alike _
    · exact hb.alike _
  | notified =>
    obtain ⟨r, h', g', hx, hy, hs⟩ := hb.deliver he (.exporter j)
    simp only [Host.runCall, hx, hy]
    exact hs.alike _
  | group group =>
    simp only [Host.runCall, hsink]
    exact hb.alike _
  | event phase flags name number args =>
    simp only [Host.runCall, hsink]
    exact (hb.withSink _).alike _
  | completeEnd name =>
    simp only [Host.runCall, hsink]
    exact (hb.withSink _).alike _
  | unregister =>
    obtain ⟨r, h', g', hx, hy, hs⟩ := hb.unregister he hj f
    simp only [Host.runCall, hx, hy]
    exact hs.alike _
  | profile => exact hb.alike _
  | registry query => exact (hb.put hj _).alike _

/-- Whether an operation is a call to the exporter with this number. -/
def Op.IsTo (h : Host) (id : Nat) : Op → Prop
  | .call name _ => h.id? name = some id
  | _ => False

/-- An operation that is not a call to the exporter goes the same way with it and without it. -/
theorem Beside.run (hb : Beside id e h g) (he : e.lifecycle.isRegistered = false) {op : Op} (ho : ¬ op.IsTo h id) :
    Alike id e (h.run op) (g.run op) := by
  have hsink : g.sink = h.sink := by rw [hb.without]; rfl
  have hid (name : String) : g.id? name = h.id? name := by rw [hb.without]; rfl
  cases op with
  | enable k =>
    simp only [Host.run, hsink]
    exact hb.exchange he _ _
  | disable =>
    simp only [Host.run, hsink]
    exact hb.exchange he _ _
  | sinkRegister =>
    simp only [Host.run, hsink]
    exact hb.exchange he _ _
  | sinkUnregister handle =>
    simp only [Host.run, hsink]
    exact hb.exchange he _ _
  | write r =>
    simp only [Host.run, hsink]
    exact (hb.withSink _).alike _
  | fire times =>
    simp only [Host.run, hsink]
    split
    · exact hb.exchange he _ _
    · exact hb.alike _
  | failRegister on =>
    simp only [Host.run, hsink]
    exact hb.adjust _
  | failUnregister on =>
    simp only [Host.run, hsink]
    exact hb.adjust _
  | breakStream on =>
    simp only [Host.run, hsink]
    exact hb.adjust _
  | flush =>
    simp only [Host.run, hsink]
    split <;> exact hb.alike _
  | register name setup profile => exact hb.registerAs he name setup profile
  | drop name =>
    simp only [Host.run, hid]
    split
    · exact hb.alike _
    · next j _ =>
      obtain ⟨r, h', g', hx, hy, hs⟩ := (hb.unbind name).dispose he j
      rw [hx, hy]
      exact hs.alike _
  | call name call =>
    simp only [Host.run, hid]
    split
    · exact hb.alike _
    next j hj =>
    have hne : j ≠ id := fun hj' => ho (hj' ▸ hj)
    rw [hb.exporter? hne]
    split
    · exact hb.alike _
    · next f _ => exact hb.runCall he hne f call

/-! ## The exporter itself -/

/-- What an exporter answers that is not registered, and what that changes. -/
theorem runCall_of_not_registered (hx : h.exporter? id = some e) (he : e.lifecycle.isRegistered = false) :
    h.runCall id e .sync = (.failed .notRegistered, h) ∧ h.runCall id e .notified = (.done, h) ∧
    h.runCall id e .unregister = (.failed .notRegistered, h) ∧
    (∀ phase flags name n args, h.runCall id e (.event phase flags name n args) = (.done, h)) ∧
    (∀ name, h.runCall id e (.completeEnd name) = (.done, h)) ∧
    ∀ group, group ≠ "" → h.runCall id e (.group group) = (.flag false, h) := by
  have hactive : e.isActive h.sink = false := by rw [Exporter.isActive, he, Bool.false_and]
  refine ⟨?_, ?_, ?_, fun phase flags name n args => ?_, fun name => ?_, fun group hg => ?_⟩
  · rw [runCall, he]
    rfl
  · rw [runCall, deliver_of_not_registered fun e' he' => by rw [hx] at he'; cases he'; exact he]
    rfl
  · cases hl : e.lifecycle with
    | registered handle => rw [hl] at he; cases he
    | _ => simp only [runCall, Host.unregister, hl]; rfl
  · rw [runCall, Exporter.send, hactive]
    rfl
  · rw [runCall, Exporter.send, hactive]
    rfl
  · rw [runCall, Exporter.isGroupOn, if_neg hg, hactive, Bool.false_and]
    rfl

theorem Beside.put_self (hb : Beside id e h g) (f : Exporter) (hx : h.exporter? id = some e) : Beside id f (h.put id f) g := by
  refine ⟨?_, fun e' he' => ?_, hb.old⟩
  · rw [forget_put, hb.without.symm, put_eq_self g id f hb.absent]
  · rw [exporter?_put, if_pos rfl, hx] at he'
    exact (Option.some.inj he').symm

/-- An operation leaves an exporter that is not registered as it is, but for its registry, which
only a keyword changes that is applied to it directly. -/
theorem Beside.step (hb : Beside id e h g) (he : e.lifecycle.isRegistered = false) (op : Op) :
    ∃ r, Beside id { e with registry := r } (h.run op).2 (g.run op).2 ∧
      ((∀ name k, h.id? name = some id → op ≠ .call name (.registry (.apply k))) → r = e.registry) := by
  by_cases ho : op.IsTo h id
  · cases op with
    | call name call =>
      have hid : h.id? name = some id := ho
      have hid' : g.id? name = some id := by rw [hb.without]; exact ho
      have hg : g.run (.call name call) = (.missing, g) := by simp only [Host.run, hid', hb.absent]
      rw [hg]
      cases hx : h.exporter? id with
      | none =>
        have hh : h.run (.call name call) = (.missing, h) := by simp only [Host.run, hid, hx]
        rw [hh]
        exact ⟨e.registry, hb, fun _ => rfl⟩
      | some e' =>
        obtain rfl := hb.same e' hx
        have hh : h.run (.call name call) = h.runCall id e' call := by simp only [Host.run, hid, hx]
        obtain ⟨hsync, hnotified, hunregister, hevent, hend, -⟩ := runCall_of_not_registered hx he
        rw [hh]
        have hstay {reply : Reply} (hr : h.runCall id e' call = (reply, h)) :
            ∃ r, Beside id { e' with registry := r } (h.runCall id e' call).2 g ∧
              ((∀ n k, h.id? n = some id → Op.call name call ≠ .call n (.registry (.apply k))) → r = e'.registry) :=
          ⟨e'.registry, by rw [hr]; exact hb, fun _ => rfl⟩
        cases call with
        | sync => exact hstay hsync
        | notified => exact hstay hnotified
        | group group => exact hstay rfl
        | event phase flags n number args => exact hstay (hevent ..)
        | completeEnd n => exact hstay (hend n)
        | unregister => exact hstay hunregister
        | profile => exact hstay rfl
        | registry query =>
          refine ⟨(e'.registry.ask query).2, hb.put_self _ hx, fun hq => Registry.ask_snd _ fun k hk => ?_⟩
          exact hq name k hid (by rw [hk])
    | _ => cases ho
  · obtain ⟨r, h', g', hx, hy, hs⟩ := hb.run he ho
    rw [hx, hy]
    exact ⟨e.registry, hs, fun _ => rfl⟩

theorem Beside.after (hb : Beside id e h g) (he : e.lifecycle.isRegistered = false) (ops : List Op) :
    ∃ r, Beside id { e with registry := r } (h.after ops) (g.after ops) ∧
      (∀ name, (h.after ops).id? name = some id → h.id? name = some id) ∧
      ((∀ name k, h.id? name = some id → .call name (.registry (.apply k)) ∉ ops) → r = e.registry) := by
  induction ops using List.reverseRecOn with
  | nil => exact ⟨e.registry, hb, fun _ hid => hid, fun _ => rfl⟩
  | append_singleton ops op ih =>
    obtain ⟨r, hs, hnames, hr⟩ := ih
    obtain ⟨r', hs', hr'⟩ := hs.step he op
    rw [after_concat, after_concat]
    refine ⟨r', hs', fun name hid => ?_, fun hq => ?_⟩
    · rcases (run_course (h.after ops) op).names name id hid with hold | hnew
      · exact hnames name hold
      · exact absurd hs.old (by omega)
    · rw [hr' fun name k hid ho => hq name k (hnames name hid) (by simp [ho])]
      exact hr fun name k hid hm => hq name k hid (List.mem_append_left _ hm)

/-- Leaving a sink is for good, whether the sink agreed, refused or let a panic out on the way. Take
any run over a sink of any kind, an exporter that is not registered any more, and any script from
there on. The script goes the same way as it would if the exporter were gone: what is not asked of it
has the same answers and leaves the same sink, so it reads no keyword and writes no record. As long
as it is alive it is not registered, not active, its observer has heard nothing, and its registry is
as it was, if no keyword was applied to it directly. And whatever it is asked to do does nothing. -/
theorem inert_after_leaving (sink : Sink) (before later : List Op) {id : Nat} {e : Exporter} :
    let h := Host.after { sink } before
    let g := h.after later
    h.exporter? id = some e → e.lifecycle.isRegistered = false →
    (h.forget id).after later = g.forget id ∧
    (∀ op, ¬ op.IsTo g id → ((g.forget id).run op).1 = (g.run op).1) ∧
    ∀ e', g.exporter? id = some e' →
      e'.lifecycle = e.lifecycle ∧ e'.isActive g.sink = false ∧ e'.noted = e.noted ∧
      ((∀ name k, h.id? name = some id → .call name (.registry (.apply k)) ∉ later) → e'.registry = e.registry) ∧
      ∀ name, g.id? name = some id →
        g.run (.call name .sync) = (.failed .notRegistered, g) ∧
        g.run (.call name .notified) = (.done, g) ∧
        g.run (.call name .unregister) = (.failed .notRegistered, g) ∧
        (∀ phase flags event n args, g.run (.call name (.event phase flags event n args)) = (.done, g)) ∧
        (∀ event, g.run (.call name (.completeEnd event)) = (.done, g)) ∧
        ∀ group, group ≠ "" → g.run (.call name (.group group)) = (.flag false, g) := by
  intro h g hx he
  have hold : id < h.next := by
    by_contra hle
    have hn := lifecycle?_of_next_le sink before id (Nat.le_of_not_lt hle)
    rw [lifecycle?, hx] at hn
    cases hn
  have hb : Beside id e h (h.forget id) := ⟨rfl, fun e' he' => by rw [hx] at he'; exact (Option.some.inj he').symm, hold⟩
  obtain ⟨r, hs, -, hr⟩ := hb.after he later
  refine ⟨hs.without, fun op ho => ?_, fun e' hx' => ?_⟩
  · obtain ⟨reply, h', g', hy, hz, -⟩ := hs.run he ho
    rw [hs.without] at hz
    rw [hy, hz]
  · obtain rfl := hs.same e' hx'
    refine ⟨rfl, by rw [Exporter.isActive, he, Bool.false_and], rfl, hr, fun name hid => ?_⟩
    have hrun (call : Call) : g.run (.call name call) = g.runCall id { e with registry := r } call := by
      simp only [Host.run, hid, hx']
    simp only [hrun]
    exact runCall_of_not_registered hx' he

theorem inert_after_panic :
    let h := Host.after { sink := .manual { callsInUnregister := 1 } } [.register "a" .plain ⟨["gpu"], []⟩,
      .register "b" (.observed .panicking) ⟨["gpu"], []⟩, .enable 1#64, .call "a" .unregister]
    let later : List Op := [.enable 3#64, .fire 2, .call "a" .sync, .call "b" .unregister]
    let g := h.after later
    ∃ e, h.exporter? 0 = some e ∧ e.lifecycle = .unregistering ∧ (h.forget 0).after later = g.forget 0 ∧
      ∀ e', g.exporter? 0 = some e' → e'.lifecycle = .unregistering ∧ e'.isActive g.sink = false ∧
        e'.noted = e.noted ∧ e'.registry = e.registry ∧
        ∀ name, g.id? name = some 0 → g.run (.call name .sync) = (.failed .notRegistered, g) := by
  intro h later g
  have hl : h.lifecycle? 0 = some .unregistering := rfl
  obtain ⟨e, he, hu⟩ := Option.map_eq_some_iff.1 hl
  have hr : e.lifecycle.isRegistered = false := by rw [hu]; rfl
  obtain ⟨hsame, -, hinert⟩ := inert_after_leaving (.manual { callsInUnregister := 1 })
    [.register "a" .plain ⟨["gpu"], []⟩, .register "b" (.observed .panicking) ⟨["gpu"], []⟩, .enable 1#64,
      .call "a" .unregister] later he hr
  refine ⟨e, he, hu, hsame, fun e' he' => ?_⟩
  obtain ⟨hlife, hactive, hnoted, hregistry, hcalls⟩ := hinert e' he'
  exact ⟨hlife.trans hu, hactive, hnoted, hregistry (by simp [later]), fun name hid => (hcalls name hid).1⟩

end Host

end TraceExport
