/-
Callbacks in the middle of a registration or an unregistration. A sink may call back before it has
answered, as often as it likes; the exporter that it calls is then not registered yet, or not any more,
and does nothing. So it reads no keyword, calls no observer and keeps its registry, and what a sink
keeps of an exporter that it refused is good for nothing.
-/
import TraceExport.Proofs.Exporter.Admission
import TraceExport.Proofs.Exporter.Inert

namespace TraceExport

/-- The callback that a manual sink has stored. -/
def Sink.stored? : Sink → Option Callback
  | .manual m => m.callback
  | .controlled _ => none

namespace Host

variable {h g : Host} {m : Sink.Manual} {setup : Setup} {profile : Profile} {name : String}

/-! ## New exporters -/

/-- A new exporter that its sink knows by a handle: it has heard of nothing, but for the keyword if it
was synced. -/
structure Starts (setup : Setup) (handle : Nat) (k : Keyword) (e : Exporter) : Prop where
  lifecycle : e.lifecycle = .registered handle
  noted : e.noted = []
  last : e.registry.last = if setup = .syncing then k else 0
  enabled : setup ≠ .syncing → e.registry.enabled = []

theorem enabled_showing_zero (names : List String) : (Registry.showing names 0).enabled = [] := by
  rw [Registry.showing_zero, Registry.enabled, Registry.slots]
  simp

theorem starts_entrant (setup : Setup) (profile : Profile) (handle : Nat) (k : Keyword) :
    Starts setup handle k (entrant setup profile (.showing profile.filtered 0) handle k) := by
  cases setup with
  | syncing =>
    -- it has no observer to tell
    have hnoted : (entrant .syncing profile (.showing profile.filtered 0) handle k).noted = [] := by
      simp [entrant, Exporter.updated, Exporter.observes, Setup.observer?]
    exact ⟨rfl, hnoted, by simp [entrant], by simp⟩
  | _ => exact ⟨rfl, rfl, rfl, fun _ => enabled_showing_zero _⟩

/-! ## Registering with a manual sink -/

/-- A manual sink that keeps the callback of a provider. -/
def keeping (m : Sink.Manual) (callback : Sink.Callback) : Sink.Manual := { m with callback := some callback }

/-- A manual sink that takes a provider. -/
def taking (m : Sink.Manual) (callback : Sink.Callback) : Sink.Manual :=
  { m with callback := some callback, issued := m.issued + 1 }

theorem register_manual (hm : h.sink = .manual m) (hp : profile.check = .ok ()) (hf : h.exporter? h.next = none) :
    h.register setup profile = if m.failRegister
      then (.ok (.error (.registration .refused)), { h with sink := .manual (keeping m (.exporter h.next)) })
      else (.ok (.ok h.next), h.admitting setup profile (.showing profile.filtered 0) (m.issued + 1) (.manual (taking m (.exporter h.next)))) := by
  rw [register_eq hp (Profile.ofNames_of_check hp) hf, hm]
  cases hr : m.failRegister <;> simp [Sink.register, keeping, taking, hr]

theorem run_register_manual (hm : h.sink = .manual m) (hp : profile.check = .ok ()) (hf : h.exporter? h.next = none)
    (hn : h.id? name = none) (setup : Setup) :
    h.run (.register name setup profile) = if m.failRegister
      then (.failed (.registration .refused), { h with sink := .manual (keeping m (.exporter h.next)) })
      else (.done, (h.admitting setup profile (.showing profile.filtered 0) (m.issued + 1) (.manual (taking m (.exporter h.next)))).bind name h.next) := by
  have hid (s : Sink) : (h.admitting setup profile (.showing profile.filtered 0) (m.issued + 1) s).id? name = none := hn
  simp only [run, registerAs, register_manual hm hp hf]
  cases m.failRegister with
  | true => rfl
  | false => simp only [Bool.false_eq_true, if_false, hid]

/-! ## Leaving a manual sink -/

/-- All that a manual sink calls while it unregisters a provider is the callback it has stored. -/
theorem calls_unregister (hm : h.sink = .manual m) (handle : Nat) :
    ∀ call ∈ (h.sink.unregister handle).calls, m.callback = some call := by
  intro call hc
  rw [hm] at hc
  obtain ⟨stored, hs, hr⟩ := List.mem_flatMap.1 hc
  rw [(List.mem_replicate.1 hr).2]
  exact Option.mem_toList.1 hs

/-- An exchange with a manual sink that unregisters a provider, while the exporter that it has the
callback of is not registered. -/
theorem settle_unregister_manual (hm : h.sink = .manual m) {id : Nat} (hc : m.callback = some (.exporter id))
    (handle : Nat) (hg : g.sink = h.sink) (hx : ∀ e, g.exporter? id = some e → e.lifecycle.isRegistered = false) :
    g.settle (h.sink.unregister handle) =
      (.ok (if m.failUnregister then .error (.unregistration (.kept handle)) else .ok ()), g) := by
  have hd : ∀ call ∈ (h.sink.unregister handle).calls, g.Deaf call := by
    rintro call hcall j e rfl hj
    have hs := calls_unregister hm handle _ hcall
    obtain rfl : id = j := Sink.Callback.exporter.inj (Option.some.inj (hc.symm.trans hs))
    exact hx e hj
  rw [settle_of_deaf hd, hm, Sink.unregister, ← hm, ← hg]

theorem runCall_unregister_manual (hm : h.sink = .manual m) {id : Nat} {e : Exporter} (hx : h.exporter? id = some e)
    (hc : m.callback = some (.exporter id)) {handle : Nat} (hl : e.lifecycle = .registered handle) :
    h.runCall id e .unregister = (if m.failUnregister then .failed (.unregistration (.kept handle)) else .done,
      h.put id { e with lifecycle := .unregistered }) := by
  have hs := settle_unregister_manual (g := h.put id { e with lifecycle := .unregistering }) hm hc handle rfl
    fun f hf => by
      rw [exporter?_put, if_pos rfl, hx, Option.map_some] at hf
      rw [← Option.some.inj hf]
      rfl
  simp only [runCall, unregister, hl, put_sink, hs, move_put]
  cases m.failUnregister <;> rfl

theorem dispose_manual (hm : h.sink = .manual m) {id : Nat} (hc : m.callback = some (.exporter id)) :
    h.dispose id = (.ok (), h.forget id) := by
  unfold dispose
  split
  · next hn => rw [forget_eq_self h id hn]
  next e he =>
  split
  · next handle _ =>
    have hs := settle_unregister_manual (g := h.forget id) hm hc handle rfl fun f hf => by
      rw [exporter?_forget, if_pos rfl] at hf
      cases hf
    simp only [forget_sink, hs]
  · rfl

/-! ## What a manual sink keeps -/

theorem stored?_of_controlled {s : Sink} (hs : s.isManual = false) : s.stored? = none := by
  cases s with
  | controlled c => rfl
  | manual m => cases hs

theorem stored?_afterRead (s : Sink) : s.afterRead.stored? = s.stored? := by cases s <;> rfl

theorem stored?_settle {α : Type} (h : Host) (x : Sink.Exchange α) : (h.settle x).2.sink.stored? = x.sink.stored? :=
  view_settle stored?_afterRead h x

/-- What an operation leaves that registers no provider: the sink keeps its callback, and no exporter
comes in. -/
structure Bides (h g : Host) : Prop where
  stored : g.sink.stored? = h.sink.stored?
  absent : ∀ id, h.lifecycle? id = none → g.lifecycle? id = none

theorem Calm.bides (hc : Calm h g) (hs : g.sink.stored? = h.sink.stored?) : Bides h g :=
  ⟨hs, fun id hn => (hc.stands id).trans hn⟩

theorem exchange_bides {α : Type} (h : Host) (reply : α → Reply) {x : Sink.Exchange α}
    (hk : x.sink.isManual = h.sink.isManual) (hs : x.sink.stored? = h.sink.stored?) :
    Bides h (h.exchange reply x).2 :=
  (settle_calm h hk).1.bides ((stored?_settle h x).trans hs)

theorem adjust_bides (h : Host) {s : Option Sink} (hk : ∀ s', s = some s' → s'.isManual = h.sink.isManual)
    (hs : ∀ s', s = some s' → s'.stored? = h.sink.stored?) : Bides h (h.adjust s).2 := by
  cases s with
  | none => exact (Calm.refl h).bides rfl
  | some s => exact (calm_sink (hk s rfl)).bides (hs s rfl)

theorem dispose_bides (h : Host) (id : Nat) : Bides h (h.dispose id).2 := by
  refine ⟨?_, fun j hn => ?_⟩
  · unfold dispose
    split
    · rfl
    next e _ =>
    split
    · next handle _ =>
      have hs := stored?_settle (h.forget id) (h.sink.unregister handle)
      dsimp only [forget_sink]
      generalize (h.forget id).settle (h.sink.unregister handle) = y at hs
      have hsame : (h.sink.unregister handle).sink.stored? = h.sink.stored? := by cases h.sink <;> rfl
      obtain ⟨p | u, g⟩ := y <;> exact hs.trans hsame
    · rfl
  · rw [(dispose_disposed h id).stands]
    split
    · rfl
    · exact hn

theorem runCall_bides {id : Nat} {e : Exporter} (he : h.exporter? id = some e) (call : Call) :
    Bides h (h.runCall id e call).2 := by
  have hsend (r : Record) : (e.send h.sink r).stored? = h.sink.stored? := by
    unfold Exporter.send
    split
    · cases h.sink <;> rfl
    · rfl
  by_cases hcall : call = .unregister
  · subst hcall
    cases hl : e.lifecycle with
    | registered handle =>
      refine ⟨?_, fun j hn => ?_⟩
      · have hs := stored?_settle (h.put id { e with lifecycle := .unregistering }) (h.sink.unregister handle)
        have hsame : (h.sink.unregister handle).sink.stored? = h.sink.stored? := by cases h.sink <;> rfl
        simp only [runCall, unregister, hl, put_sink]
        generalize (h.put id { e with lifecycle := .unregistering }).settle (h.sink.unregister handle) = y at hs
        obtain ⟨p | r, g⟩ := y
        · exact hs.trans hsame
        · exact (congrArg _ (move_frame g id .unregistered).1).trans (hs.trans hsame)
      · rw [(unregister_departed he hl).stands, if_neg]
        · exact hn
        · rintro rfl
          rw [lifecycle?, he] at hn
          cases hn
    | _ =>
      simp only [runCall, unregister, hl]
      exact (Calm.refl h).bides rfl
  · refine (runCall_calm he hcall).bides ?_
    cases call with
    | sync =>
      simp only [runCall]
      split
      · rw [sync_eq]
        exact stored?_afterRead h.sink
      · rfl
    | notified => exact view_deliver stored?_afterRead h (.exporter id)
    | event phase flags n number args => exact hsend _
    | completeEnd n => exact hsend _
    | unregister => exact absurd rfl hcall
    | _ => rfl

/-- Whether an operation registers a provider. -/
def Op.registers : Op → Bool
  | .sinkRegister | .register .. => true
  | _ => false

theorem run_bides (h : Host) {op : Op} (ho : op.registers = false) : Bides h (h.run op).2 := by
  have hstay : Bides h h := (Calm.refl h).bides rfl
  cases op with
  | sinkRegister => cases ho
  | register name setup profile => cases ho
  | enable k =>
    cases hs : h.sink with
    | controlled c =>
      refine exchange_bides h _ ?_ ?_ <;> rw [hs]
      · exact isManual_notify _
      · exact stored?_of_controlled (isManual_notify _)
    | manual m => refine exchange_bides h _ ?_ ?_ <;> rw [hs] <;> rfl
  | disable =>
    cases hs : h.sink with
    | controlled c =>
      refine exchange_bides h _ ?_ ?_ <;> rw [hs]
      · exact isManual_notify _
      · exact stored?_of_controlled (isManual_notify _)
    | manual m => refine exchange_bides h _ ?_ ?_ <;> rw [hs] <;> rfl
  | sinkUnregister handle =>
    refine exchange_bides h _ (isManual_unregister ..) ?_
    cases h.sink <;> rfl
  | write r =>
    refine (calm_sink (isManual_write ..)).bides ?_
    show (h.sink.write r).stored? = _
    cases h.sink <;> rfl
  | fire times =>
    simp only [run]
    cases hs : h.sink with
    | controlled c => exact hstay
    | manual m => exact exchange_bides h _ (by rw [hs]) (by rw [hs])
  | failRegister on =>
    refine adjust_bides h (fun s hf => ?_) (fun s hf => ?_) <;>
      cases hs : h.sink <;> rw [hs] at hf <;> cases hf <;> rfl
  | failUnregister on =>
    refine adjust_bides h (fun s hf => ?_) (fun s hf => ?_) <;>
      cases hs : h.sink <;> rw [hs] at hf <;> cases hf <;> rfl
  | breakStream on =>
    cases hs : h.sink with
    | manual m =>
      simp only [run, hs, Sink.breakStream?]
      exact hstay
    | controlled c =>
      simp only [run, hs, Sink.breakStream?]
      cases c.outlet with
      | memory records => exact hstay
      | stream s => exact (calm_sink (by rw [hs]; rfl)).bides (by rw [hs]; rfl)
  | flush =>
    simp only [run]
    split <;> exact hstay
  | drop name =>
    simp only [run]
    split
    · exact hstay
    · next id _ =>
      have hd := dispose_bides (h.unbind name) id
      exact ⟨hd.stored, hd.absent⟩
  | call name call =>
    simp only [run]
    split
    · exact hstay
    split
    · exact hstay
    · next he => exact runCall_bides he call

theorem after_bides (h : Host) {ops : List Op} (ho : ∀ op ∈ ops, op.registers = false) : Bides h (h.after ops) := by
  induction ops generalizing h with
  | nil => exact (Calm.refl h).bides rfl
  | cons op ops ih =>
    rw [List.forall_mem_cons] at ho
    have hop := run_bides h ho.1
    have hops := ih (h.run op).2 ho.2
    exact ⟨hops.stored.trans hop.stored, fun id hn => hops.absent id (hop.absent id hn)⟩

/-- The callback of an exporter that is not alive does nothing, however often it is called. -/
theorem run_fire_absent {id : Nat} (hs : h.sink.stored? = some (.exporter id)) (hn : h.lifecycle? id = none)
    (times : Nat) : h.run (.fire times) = (.flag true, h) := by
  cases hm : h.sink with
  | controlled c => rw [hm] at hs; cases hs
  | manual m =>
    have hc : m.callback = some (.exporter id) := by rw [hm] at hs; exact hs
    have hd : ∀ call ∈ List.replicate times (Sink.Callback.exporter id), h.Deaf call := by
      rintro call hcall j e rfl he
      obtain rfl : j = id := Sink.Callback.exporter.inj (List.mem_replicate.1 hcall).2
      rw [lifecycle?, he] at hn
      cases hn
    simp only [run, hm, Sink.fire?, exchange, hc, Option.toList_some, List.flatMap_cons, List.flatMap_nil,
      List.append_nil, Option.isSome_some]
    rw [settle_of_deaf hd, ← hm]
    rfl

/-- A registration that syncs is one that does not, and a sync after it. -/
theorem run_register_syncing (hm : h.sink = .manual m) (hp : profile.check = .ok ()) (hf : h.exporter? h.next = none)
    (hn : h.id? name = none) (hr : m.failRegister = false) :
    (h.run (.register name .syncing profile)).2 =
      ((h.run (.register name .plain profile)).2.run (.call name .sync)).2 := by
  let e := entrant .plain profile (.showing profile.filtered 0) (m.issued + 1) m.keyword
  let plain : Host := {
    sink := .manual (taking m (.exporter h.next)), exporters := (h.next, e) :: h.exporters
    names := (name, h.next) :: (h.unbind name).names, next := h.next + 1 }
  have hid : plain.id? name = some h.next := by simp [plain, id?]
  have hx : plain.exporter? h.next = some e := by simp [plain, exporter?]
  have hput : plain.put h.next (e.updated m.keyword) =
      { plain with exporters := (h.next, e.updated m.keyword) :: h.exporters } :=
    put_cons { plain with exporters := h.exporters } h.next _ e hf
  have hplain : (h.run (.register name .plain profile)).2 = plain := by
    rw [run_register_manual hm hp hf hn .plain, hr]
    rfl
  have hsync : (plain.run (.call name .sync)).2 =
      { plain.put h.next (e.updated m.keyword) with sink := plain.sink.afterRead } := by
    have hreg : e.lifecycle.isRegistered = true := rfl
    simp only [run, hid, hx, runCall, hreg, if_true, sync_eq]
    rfl
  rw [hplain, hsync, hput, run_register_manual hm hp hf hn .syncing, hr]
  rfl

/-! ## In the middle of an operation -/

/-- A manual sink that refuses an exporter has its callback, which does nothing until another provider
takes its place. -/
theorem refused_manual (hm : h.sink = .manual m) (hp : profile.check = .ok ()) (hf : h.exporter? h.next = none)
    (hn : h.id? name = none) (hr : m.failRegister = true) :
    let s := h.run (.register name setup profile)
    s = (.failed (.registration .refused), { h with sink := .manual (keeping m (.exporter h.next)) }) ∧
      ∀ later, (∀ op ∈ later, op.registers = false) →
        let g := s.2.after later
        g.exporter? h.next = none ∧ ∀ times, g.run (.fire times) = (.flag true, g) := by
  intro s
  have hs : s = _ := run_register_manual hm hp hf hn setup
  rw [hr, if_pos rfl] at hs
  refine ⟨hs, fun later hlater => ?_⟩
  have hb := after_bides s.2 hlater
  have hgone : (s.2.after later).lifecycle? h.next = none := by
    refine hb.absent _ ?_
    rw [hs]
    exact Option.map_eq_none_iff.2 hf
  refine ⟨Option.map_eq_none_iff.1 hgone, fun times => run_fire_absent ?_ hgone times⟩
  rw [hb.stored, hs]
  rfl

/-- A manual sink that takes an exporter has called it for nothing. -/
theorem taken_manual (hm : h.sink = .manual m) (hp : profile.check = .ok ()) (hf : h.exporter? h.next = none)
    (hn : h.id? name = none) (hr : m.failRegister = false) :
    let s := h.run (.register name setup profile)
    s.1 = .done ∧ s.2.id? name = some h.next ∧
      s.2.sink = .manual { taking m (.exporter h.next) with reads := m.reads + if setup = .syncing then 1 else 0 } ∧
      (∃ e, s.2.exporter? h.next = some e ∧ Starts setup (m.issued + 1) m.keyword e) ∧
      (∀ id, id ≠ h.next → s.2.exporter? id = h.exporter? id) ∧
      (setup = .syncing → s.2 = ((h.run (.register name .plain profile)).2.run (.call name .sync)).2) := by
  intro s
  have hs : s = _ := run_register_manual hm hp hf hn setup
  rw [hr, if_neg (by simp)] at hs
  refine ⟨by rw [hs], ?_, ?_, ⟨_, ?_, starts_entrant setup profile (m.issued + 1) m.keyword⟩, fun id hid => ?_,
    fun hsync => ?_⟩
  · rw [hs, id?_bind, if_pos rfl]
  · rw [hs]
    cases setup <;> rfl
  · rw [hs]
    exact (exporter?_admitting ..).trans (if_pos rfl)
  · rw [hs]
    exact (exporter?_admitting ..).trans (if_neg hid)
  · subst hsync
    exact run_register_syncing hm hp hf hn hr

/-- An exporter that has its callback stored in a manual sink leaves without hearing of anything. -/
theorem left_manual (hm : h.sink = .manual m) {id : Nat} {e : Exporter} (hid : h.id? name = some id)
    (he : h.exporter? id = some e) (hc : m.callback = some (.exporter id)) :
    (∀ handle, e.lifecycle = .registered handle → h.run (.call name .unregister) =
      (if m.failUnregister then .failed (.unregistration (.kept handle)) else .done,
        h.put id { e with lifecycle := .unregistered })) ∧
    (e.lifecycle.isRegistered = false → h.run (.call name .unregister) = (.failed .notRegistered, h)) ∧
    h.run (.drop name) = (.flag true, (h.unbind name).forget id) := by
  have hcall : h.run (.call name .unregister) = h.runCall id e .unregister := by simp only [run, hid, he]
  refine ⟨fun handle hl => ?_, fun hl => ?_, ?_⟩
  · rw [hcall]
    exact runCall_unregister_manual hm he hc hl
  · rw [hcall]
    exact (runCall_of_not_registered he hl).2.2.1
  · have hd := dispose_manual (h := h.unbind name) hm hc
    simp only [run, hid, hd]
    rfl

/-- A controlled sink that takes an exporter has called it for nothing. -/
theorem taken_controlled {c : Sink.Controlled} (hs : h.Sound c)
    (hdone : (h.run (.register name setup profile)).1 = .done) :
    let g := (h.run (.register name setup profile)).2
    g.sink = .controlled (c.withProvider (.exporter h.next)) ∧
      ∃ e, g.exporter? h.next = some e ∧ Starts setup (c.seat.issued + 1) c.keyword e := by
  have hrun := run_register hs.sink (hs.fresh _ (Nat.le_refl _)) name setup profile
  rw [hrun] at hdone ⊢
  cases ha : c.accept profile with
  | error p => rw [ha] at hdone; cases hdone
  | ok answer =>
    cases answer with
    | error f => rw [ha] at hdone; cases hdone
    | ok registry =>
      have hr : registry = .showing profile.filtered 0 :=
        ((Registry.ofNames_eq_ok_iff _ _).1 (Sink.Controlled.accept_eq_ok ha).2.1).2.2
      refine ⟨welcomed_sink hs .., _, exporter?_welcomed hs .., ?_⟩
      rw [hr]
      exact starts_entrant setup profile (c.seat.issued + 1) c.keyword

/-- What a sink calls in the middle of a registration or an unregistration does nothing.

Take any run over a manual sink, in whatever state that sink began, and register a fit profile under a
name that is not bound. If the sink refuses, no exporter comes of it, the sink has its callback, and
however often that is called until another provider is registered, nothing happens. If the sink takes
it, the keyword is read only where that was asked for, once and after the registration; the new
exporter has nothing on but for that, its observer heard nothing, and the others are as they were. An
exporter whose callback the sink has stored asks to leave or is dropped without any reading, and its
registry and observer are left alone, whatever the sink answers.

Over a controlled sink a new exporter begins in the same way, and one notification counts as delivered
if somebody listens. -/
theorem callbacks_ignored_midway (start : Sink.Manual) (outlet : Sink.Outlet) (rejecting : Bool) (ops : List Op)
    (name : String) (setup : Setup) (profile : Profile) :
    (let h := Host.after { sink := .manual start } ops
      ∃ m, h.sink = .manual m ∧
        (profile.check = .ok () → h.id? name = none →
          let s := h.run (.register name setup profile)
          let stored : Sink.Manual := { m with callback := some (.exporter h.next) }
          (m.failRegister = true →
            s = (.failed (.registration .refused), { h with sink := .manual stored }) ∧
            ∀ later, (∀ op ∈ later, op.registers = false) →
              let g := s.2.after later
              g.exporter? h.next = none ∧ ∀ times, g.run (.fire times) = (.flag true, g)) ∧
          (m.failRegister = false →
            s.1 = .done ∧ s.2.id? name = some h.next ∧
            s.2.sink = .manual { stored with
              issued := m.issued + 1, reads := m.reads + if setup = .syncing then 1 else 0 } ∧
            (∃ e, s.2.exporter? h.next = some e ∧ Starts setup (m.issued + 1) m.keyword e) ∧
            (∀ id, id ≠ h.next → s.2.exporter? id = h.exporter? id) ∧
            (setup = .syncing → s.2 = ((h.run (.register name .plain profile)).2.run (.call name .sync)).2))) ∧
        ∀ n id e, h.id? n = some id → h.exporter? id = some e → m.callback = some (.exporter id) →
          (∀ handle, e.lifecycle = .registered handle → h.run (.call n .unregister) =
            (if m.failUnregister then .failed (.unregistration (.kept handle)) else .done,
              h.put id { e with lifecycle := .unregistered })) ∧
          (e.lifecycle.isRegistered = false → h.run (.call n .unregister) = (.failed .notRegistered, h)) ∧
          h.run (.drop n) = (.flag true, (h.unbind n).forget id)) ∧
    (let h := Host.after { sink := .controlled { outlet, rejecting } } ops
      ∃ c, h.sink = .controlled c ∧
        let s := h.run (.register name setup profile)
        s.1 = .done →
          (∃ e, s.2.exporter? h.next = some e ∧ Starts setup (c.seat.issued + 1) c.keyword e) ∧
          s.2.sink = .controlled { c with seat := {
            issued := c.seat.issued + 1
            installed := some (c.seat.issued + 1, .exporter h.next)
            delivered := c.seat.delivered + if c.listening then 1 else 0 } }) := by
  constructor
  · intro h
    obtain ⟨m, hm⟩ : ∃ m, h.sink = .manual m := by
      have hk : h.sink.isManual = true := isManual_after { sink := .manual start } ops
      cases hs : h.sink with
      | manual m => exact ⟨m, rfl⟩
      | controlled c => rw [hs] at hk; cases hk
    have hf : h.exporter? h.next = none := exporter?_next_after (.manual start) ops
    exact ⟨m, hm, fun hp hn => ⟨refused_manual hm hp hf hn, taken_manual hm hp hf hn⟩,
      fun n id e hid he hc => left_manual hm hid he hc⟩
  · intro h
    obtain ⟨c, hs⟩ : ∃ c, h.Sound c := (sound_start outlet rejecting).after ops
    refine ⟨c, hs.sink, fun hdone => ?_⟩
    obtain ⟨hsink, hnew⟩ := taken_controlled hs hdone
    refine ⟨hnew, hsink.trans ?_⟩
    rw [Sink.Controlled.withProvider]
    cases c.listening <;> rfl

/-- A sink that calls in the middle of everything takes an exporter that would panic if it heard, refuses it
the second time, and lets it go; and a sink on which somebody listens takes one. -/
theorem callbacks_ignored_midway_panicking :
    let start : Sink.Manual := { keyword := 1#64, callsInRegister := 2, callsInUnregister := 3 }
    let profile : Profile := ⟨["gpu"], []⟩
    let setup : Setup := .observed .panicking
    let register : Op := .register "a" setup profile
    let fresh : Host := { sink := .manual start }
    let refusing : Host := Host.after fresh [.failRegister true]
    let taken : Host := Host.after fresh [register]
    let listening : Host := Host.after { sink := .memory } [.enable 1#64]
    profile.check = .ok () ∧
    ((fresh.run register).1 = .done ∧ ∃ e, (fresh.run register).2.exporter? 0 = some e ∧ Starts setup 1 1#64 e) ∧
    ((refusing.run register).1 = .failed (.registration .refused) ∧
      ∀ times, let g := (refusing.run register).2.after [.enable 2#64]; g.run (.fire times) = (.flag true, g)) ∧
    (∃ e, taken.exporter? 0 = some e ∧ e.lifecycle = .registered 1 ∧
      taken.run (.call "a" .unregister) = (.done, taken.put 0 { e with lifecycle := .unregistered }) ∧
      taken.run (.drop "a") = (.flag true, (taken.unbind "a").forget 0)) ∧
    ((listening.run register).1 = .done ∧
      ∃ e, (listening.run register).2.exporter? 0 = some e ∧ Starts setup 1 1#64 e) := by
  intro start profile setup register fresh refusing taken listening
  have hp : profile.check = .ok () := by decide
  obtain ⟨⟨m, hm, hregister, -⟩, -⟩ := callbacks_ignored_midway start (.memory #[]) false [] "a" setup profile
  cases hm
  obtain ⟨hdone, -, -, hnew, -⟩ := (hregister hp rfl).2 rfl
  obtain ⟨⟨m, hm, hregister, -⟩, -⟩ :=
    callbacks_ignored_midway start (.memory #[]) false [.failRegister true] "a" setup profile
  cases hm
  obtain ⟨hrefused, hlater⟩ := (hregister hp rfl).1 rfl
  obtain ⟨⟨m, hm, -, hleaves⟩, -⟩ := callbacks_ignored_midway start (.memory #[]) false [register] "a" setup profile
  cases hm
  obtain ⟨hunregister, -, hdrop⟩ := hleaves "a" 0 _ rfl rfl rfl
  obtain ⟨-, c, hc, hcontrolled⟩ :=
    callbacks_ignored_midway start (.memory #[]) false [.enable 1#64] "a" setup profile
  cases hc
  refine ⟨hp, ⟨hdone, hnew⟩, ⟨congrArg Prod.fst hrefused, fun times => ?_⟩, ⟨_, rfl, rfl, hunregister 1 rfl, hdrop⟩,
    rfl, (hcontrolled rfl).1⟩
  exact (hlater [.enable 2#64] (by decide)).2 times

end Host

end TraceExport
