/-
Exporters that follow their sink. Once an exporter has caught up with the keyword of its sink it
stays there, whatever is done to the sink and to other exporters, until its provider is taken away
or a keyword is applied to its registry past the sink. So a group of categories is on for it when
the keyword of the sink selects one of them.
-/
import TraceExport.Proofs.Exporter.Run
import TraceExport.Proofs.Registry.History

namespace TraceExport

namespace Host

variable {h g : Host} {c d : Sink.Controlled}

/-! ## An exporter and its sink -/

/-- What is settled when an exporter is registered: its number, its name, its profile and its
handle. -/
structure Ticket where
  id : Nat
  name : String
  profile : Profile
  handle : Nat

/-- What holds of an exporter that is alive, by its ticket. If it is registered it is the provider
of its sink, and has applied the keyword of the sink once it has caught up. -/
structure Follows (t : Ticket) (caught : Prop) (h : Host) (c : Sink.Controlled) (e : Exporter) : Prop where
  named : ∀ name, h.id? name = some t.id ↔ name = t.name
  profile : e.profile = t.profile
  registry : e.registry = .showing t.profile.filtered e.registry.last
  seated : ∀ n, e.lifecycle = .registered n → n = t.handle ∧ c.seat.installed = some (t.handle, .exporter t.id)
  last : e.lifecycle.isRegistered = true → caught → e.registry.last = c.keyword

/-- The exporter of a ticket follows its sink as long as it is alive. -/
structure Keeps (t : Ticket) (caught : Prop) (h : Host) : Prop where
  old : t.id < h.next
  follows : ∀ e c, h.exporter? t.id = some e → h.sink = .controlled c → Follows t caught h c e

variable {t : Ticket} {caught : Prop}

theorem Keeps.dead (ho : t.id < h.next) (hn : h.exporter? t.id = none) : Keeps t caught h := by
  refine ⟨ho, fun e c he => ?_⟩
  rw [hn] at he
  cases he

/-- An exporter goes on following its sink if it is left as it is or leaves the sink, and keeps its
name, the keyword and its provider. -/
theorem Keeps.mono (hk : Keeps t caught h) (hc : h.sink = .controlled c) (hd : g.sink = .controlled d)
    (hn : h.next ≤ g.next) (hkey : d.keyword = c.keyword)
    (hex : ∀ e', g.exporter? t.id = some e' → ∃ e, h.exporter? t.id = some e ∧ e'.profile = e.profile ∧
      e'.registry = e.registry ∧ ∀ n, e'.lifecycle = .registered n → e.lifecycle = .registered n)
    (hid : ∀ e', g.exporter? t.id = some e' → ∀ name, g.id? name = some t.id ↔ h.id? name = some t.id)
    (hseat : ∀ e', g.exporter? t.id = some e' → e'.lifecycle = .registered t.handle →
      c.seat.installed = some (t.handle, .exporter t.id) → d.seat.installed = some (t.handle, .exporter t.id)) :
    Keeps t caught g := by
  refine ⟨Nat.lt_of_lt_of_le hk.old hn, fun e' d' he' hd' => ?_⟩
  rw [hd] at hd'
  cases hd'
  obtain ⟨e, he, hp, hr, hl⟩ := hex e' he'
  have hf := hk.follows e c he hc
  refine ⟨fun name => (hid e' he' name).trans (hf.named name), hp.trans hf.profile, ?_, ?_, ?_⟩
  · rw [hr]
    exact hf.registry
  · intro n hn'
    obtain ⟨hh, hi⟩ := hf.seated n (hl n hn')
    refine ⟨hh, hseat e' he' ?_ hi⟩
    rw [hn', hh]
  · intro hreg hcaught
    obtain ⟨n, hn'⟩ : ∃ n, e'.lifecycle = .registered n := by
      cases hl' : e'.lifecycle with
      | registered n => exact ⟨n, rfl⟩
      | _ => rw [hl'] at hreg; cases hreg
    rw [hr, hkey]
    exact hf.last (by rw [hl n hn']; rfl) hcaught

/-- An exporter that is updated with the keyword of its sink has caught up. -/
theorem Keeps.updated (hk : Keeps t caught h) (hc : h.sink = .controlled c) (hd : g.sink = .controlled d)
    (hn : g.next = h.next) (hnames : g.names = h.names) (hseat : d.seat.installed = c.seat.installed)
    (hex : ∀ e', g.exporter? t.id = some e' → ∃ e, h.exporter? t.id = some e ∧
      e' = if e.lifecycle.isRegistered then e.updated d.keyword else e) (caught' : Prop) : Keeps t caught' g := by
  refine ⟨hn ▸ hk.old, fun e' d' he' hd' => ?_⟩
  rw [hd] at hd'
  cases hd'
  obtain ⟨e, he, rfl⟩ := hex e' he'
  have hf := hk.follows e c he hc
  have hname (name : String) : g.id? name = h.id? name := by rw [id?, id?, hnames]
  split
  · refine ⟨fun name => hname name ▸ hf.named name, hf.profile, ?_, ?_, fun _ _ => e.updated_last _⟩
    · rw [Exporter.updated_registry, hf.registry, Registry.apply_showing]
      rfl
    · rw [hseat]
      exact hf.seated
  · next hr =>
    refine ⟨fun name => hname name ▸ hf.named name, hf.profile, hf.registry, ?_, fun hr' => absurd hr' hr⟩
    rw [hseat]
    exact hf.seated

/-! ## Operations on the sink -/

/-- A session that starts, changes its keyword or ends takes the exporter along. -/
theorem Keeps.notified (hk : Keeps t caught h) (hc : h.sink = .controlled c) (hd : d.seat = c.seat)
    (caught' : Prop) : Keeps t caught' (h.notified d).2 := by
  rw [notified_called]
  cases hi : d.seat.installed with
  | none =>
    -- without a provider the exporter cannot be registered
    refine hk.updated (g := { h with sink := .controlled d }) hc rfl rfl rfl (by rw [hd])
      (fun e he => ⟨e, he, ?_⟩) caught'
    cases hr : e.lifecycle with
    | registered n =>
      have hs := ((hk.follows e c he hc).seated n hr).2
      rw [← hd, hi] at hs
      cases hs
    | _ => rfl
  | some p =>
    obtain ⟨hs, hn, hx⟩ := called_frame { h with sink := .controlled d.counted } d.keyword p.2
    refine hk.updated hc (d := d.counted) hs hx hn (by rw [Sink.Controlled.counted, hd]) (fun e' he' => ?_) caught'
    rw [exporter?_called] at he'
    obtain ⟨e, he, rfl⟩ := Option.map_eq_some_iff.1 he'
    refine ⟨e, he, ?_⟩
    cases hr : e.lifecycle with
    | registered n =>
      -- the provider that is notified is that of this exporter
      have hp : p = (t.handle, .exporter t.id) := by
        have hs := ((hk.follows e c he hc).seated n hr).2
        rw [← hd, hi] at hs
        exact Option.some.inj hs
      simp [hp, Lifecycle.isRegistered]
      rfl
    | _ => simp [Lifecycle.isRegistered]

/-- What is done to other exporters and to the outlet leaves the exporter alone. -/
theorem Keeps.alone (hk : Keeps t caught h) (hc : h.sink = .controlled c) (hd : g.sink = .controlled d)
    (hn : h.next ≤ g.next) (hkey : d.keyword = c.keyword)
    (hex : ∀ e, g.exporter? t.id = some e → h.exporter? t.id = some e)
    (hid : ∀ e, g.exporter? t.id = some e → ∀ name, g.id? name = some t.id ↔ h.id? name = some t.id)
    (hseat : ∀ e, g.exporter? t.id = some e → e.lifecycle = .registered t.handle →
      c.seat.installed = some (t.handle, .exporter t.id) → d.seat.installed = some (t.handle, .exporter t.id)) :
    Keeps t caught g :=
  hk.mono hc hd hn hkey (fun e he => ⟨e, hex e he, rfl, rfl, fun _ hl => hl⟩) hid hseat

/-- A sink that changes neither its keyword nor its provider. -/
theorem Keeps.withSink (hk : Keeps t caught h) (hc : h.sink = .controlled c) (hkey : d.keyword = c.keyword)
    (hseat : ∀ e, h.exporter? t.id = some e → e.lifecycle = .registered t.handle →
      c.seat.installed = some (t.handle, .exporter t.id) → d.seat.installed = some (t.handle, .exporter t.id)) :
    Keeps t caught { h with sink := .controlled d } :=
  hk.alone hc rfl (Nat.le_refl _) hkey (fun _ he => he) (fun _ _ _ => Iff.rfl) hseat

/-- An exporter that goes takes only its own provider along. -/
theorem Keeps.without (hs : h.Sound c) (hk : Keeps t caught h) {id : Nat} (hne : id ≠ t.id) :
    Keeps t caught (h.without c id) := by
  have hex (e : Exporter) (he : (h.without c id).exporter? t.id = some e) : h.exporter? t.id = some e := by
    change (h.forget id).exporter? t.id = some e at he
    rwa [exporter?_forget, if_neg (Ne.symm hne)] at he
  refine hk.alone hs.sink rfl (Nat.le_refl _) rfl hex (fun _ _ _ => Iff.rfl) fun e he hl hi => ?_
  cases ho : h.exporter? id with
  | none => exact hi
  | some other =>
    -- a second exporter under this handle would be the owner of the provider
    refine leave_installed.2 ⟨hi, fun hl' => hne ?_⟩
    have howner := hs.owner id other t.handle _ ho hl' hi
    cases howner
    rfl

theorem Keeps.drop (hs : h.Sound c) (hk : Keeps t caught h) (name : String) :
    Keeps t caught (h.run (.drop name)).2 := by
  rw [run_drop hs.sink]
  cases hid : h.id? name with
  | none => exact hk
  | some id =>
    by_cases hne : id = t.id
    · refine Keeps.dead hk.old ?_
      show ((h.unbind name).forget id).exporter? t.id = none
      rw [exporter?_forget, if_pos hne.symm]
    · have hu : Keeps t caught (h.unbind name) := by
        refine hk.alone hs.sink hs.sink (Nat.le_refl _) rfl (fun _ he => he) (fun e _ n => ?_) (fun _ _ _ hi => hi)
        rw [id?_unbind]
        by_cases hn : n = name
        · rw [if_pos hn, hn, hid]
          simp [hne]
        · rw [if_neg hn]
      exact hu.without (hs.unbind name) hne

/-- Another exporter is taken only where no provider is, and goes by another name unless it takes
the place of this one. -/
theorem Keeps.register (hs : h.Sound c) (hk : Keeps t caught h) (name : String) (setup : Setup)
    (profile : Profile) : Keeps t caught (h.run (.register name setup profile)).2 := by
  rw [run_register hs.sink (hs.fresh h.next (Nat.le_refl _))]
  split
  · exact hk
  · exact hk
  next registry ha =>
  have hfree := (Sink.Controlled.accept_eq_ok ha).2.2.2
  have hne : t.id ≠ h.next := Nat.ne_of_lt hk.old
  have hex (e : Exporter) (he : (h.joined c setup profile registry).exporter? t.id = some e) :
      h.exporter? t.id = some e := by
    rwa [exporter?_joined, if_neg hne] at he
  have hjoin (hold : h.id? name ≠ some t.id) :
      Keeps t caught ((h.joined c setup profile registry).bind name h.next) := by
    refine hk.alone hs.sink (d := c.withProvider (.exporter h.next)) rfl (Nat.le_succ _) rfl hex
      (fun e _ n => ?_) (fun e _ _ hi => ?_)
    · rw [id?_bind]
      by_cases hn : n = name
      · rw [if_pos hn, hn]
        exact iff_of_false (fun he => hne (Option.some.inj he).symm) hold
      · rw [if_neg hn]
        exact Iff.rfl
    -- a provider was installed, so this exporter is not registered
    · rw [hfree] at hi
      cases hi
  unfold welcomed
  cases hid : h.id? name with
  | none => exact hjoin (by simp [hid])
  | some old =>
    by_cases ho : old = t.id
    -- the newcomer has taken its name, and it is gone
    · refine Keeps.dead (Nat.lt_succ_of_lt hk.old) ?_
      show (((h.joined c setup profile registry).bind name h.next).forget old).exporter? t.id = none
      rw [exporter?_forget, if_pos ho.symm]
    · exact (hjoin (by simp [hid, ho])).without (hs.joined_bind name setup profile registry) ho

/-! ## Operations on exporters -/

/-- Whether a call makes an exporter apply the keyword of its sink. -/
def Call.catchesUp : Call → Bool
  | .sync | .notified => true
  | _ => false

/-- Whether an operation makes the exporter with this name apply the keyword of its sink. -/
def Op.catchesUp (name : String) : Op → Bool
  | .enable _ | .disable => true
  | .call n asked => n = name && asked.catchesUp
  | _ => false

theorem Keeps.put_other (hk : Keeps t caught h) (hc : h.sink = .controlled c) {id : Nat} (hne : id ≠ t.id)
    (e : Exporter) : Keeps t caught (h.put id e) := by
  refine hk.alone hc hc (Nat.le_refl _) rfl (fun f hf => ?_) (fun _ _ _ => Iff.rfl) (fun _ _ _ hi => hi)
  rwa [exporter?_put, if_neg (Ne.symm hne)] at hf

theorem Keeps.send (hk : Keeps t caught h) (hc : h.sink = .controlled c) (e : Exporter) (r : Record) :
    Keeps t caught { h with sink := e.send h.sink r } := by
  unfold Exporter.send
  rw [hc]
  split
  · exact hk.withSink hc rfl fun _ _ _ hi => hi
  · exact hk.withSink hc rfl fun _ _ _ hi => hi

/-- What another exporter is asked to do leaves the exporter alone. -/
theorem Keeps.runCall_other (hs : h.Sound c) (hk : Keeps t caught h) {id : Nat} {e : Exporter}
    (he : h.exporter? id = some e) (hne : id ≠ t.id) (call : Call) :
    Keeps t caught (h.runCall id e call).2 := by
  cases call with
  | sync =>
    simp only [Host.runCall]
    split
    · rw [sync_eq, hs.sink]
      exact (hk.put_other hs.sink hne (e.updated c.keyword)).withSink hs.sink rfl fun _ _ _ hi => hi
    · exact hk
  | notified =>
    show Keeps t caught (h.deliver (.exporter id)).2
    simp only [deliver_called hs.sink, called, he]
    split
    · exact hk.put_other hs.sink hne _
    · exact hk
  | group group => exact hk
  | event phase flags name number args => exact hk.send hs.sink e _
  | completeEnd name => exact hk.send hs.sink e _
  | unregister =>
    rw [runCall_unregister hs.sink]
    split
    · next n hl =>
      refine (hk.put_other hs.sink hne { e with lifecycle := .unregistered }).withSink hs.sink rfl
        fun f _ _ hi => remove_installed.2 ⟨hi, fun hn => hne ?_⟩
      have howner := hs.owner id e t.handle _ he (hl.trans (congrArg _ hn.symm)) hi
      cases howner
      rfl
    · exact hk
  | profile => exact hk
  | registry query => exact hk.put_other hs.sink hne _

/-- The exporter itself goes on following its sink, and has caught up when it was synced or
notified. -/
theorem Keeps.runCall_self (hs : h.Sound c) (hk : Keeps t caught h) {e : Exporter}
    (he : h.exporter? t.id = some e) {call : Call} (ha : ∀ k, call ≠ .registry (.apply k)) :
    Keeps t (caught ∨ call.catchesUp = true) (h.runCall t.id e call).2 := by
  have hself {e' : Exporter} {f : Exporter} (hf : (h.put t.id f).exporter? t.id = some e') : e' = f := by
    rw [exporter?_put, if_pos rfl, he] at hf
    exact (Option.some.inj hf).symm
  have hquiet (hq : call.catchesUp = false) {g : Host} (hg : Keeps t caught g) :
      Keeps t (caught ∨ call.catchesUp = true) g := by
    simpa [hq] using hg
  cases call with
  | sync =>
    simp only [Host.runCall]
    cases hr : e.lifecycle.isRegistered with
    | true =>
      simp only [if_true, sync_eq, hs.sink]
      refine hk.updated (g := { h.put t.id (e.updated c.keyword) with sink := .controlled c })
        hs.sink rfl rfl rfl rfl (fun e' he' => ⟨e, he, ?_⟩) _
      rw [hself he', hr]
      rfl
    | false =>
      refine hk.updated hs.sink hs.sink rfl rfl rfl (fun e' he' => ⟨e', he', ?_⟩) _
      change h.exporter? t.id = some e' at he'
      rw [he] at he'
      cases he'
      simp [hr]
  | notified =>
    show Keeps t _ (h.deliver (.exporter t.id)).2
    rw [deliver_called hs.sink]
    obtain ⟨hx, hnames, hnext⟩ := called_frame h c.keyword (.exporter t.id)
    refine hk.updated hs.sink (hx.trans hs.sink) hnext hnames rfl (fun e' he' => ⟨e, he, ?_⟩) _
    rw [exporter?_called, he] at he'
    simpa using (Option.some.inj he').symm
  | group group => exact hquiet rfl hk
  | event phase flags name number args => exact hquiet rfl (hk.send hs.sink e _)
  | completeEnd name => exact hquiet rfl (hk.send hs.sink e _)
  | unregister =>
    refine hquiet rfl ?_
    rw [runCall_unregister hs.sink]
    split
    · refine hk.mono (c := c) hs.sink rfl (Nat.le_refl _) rfl (fun e' he' => ⟨e, he, ?_⟩) (fun _ _ _ => Iff.rfl)
        (fun e' he' hl => ?_)
      · rw [hself he']
        exact ⟨rfl, rfl, fun _ hl => by cases hl⟩
      · rw [hself he'] at hl
        cases hl
    · exact hk
  | profile => exact hquiet rfl hk
  | registry query =>
    refine hquiet rfl ?_
    have hq : (e.registry.ask query).2 = e.registry := Registry.ask_snd _ fun k hk => ha k (by rw [hk])
    have hput : (h.runCall t.id e (.registry query)).2 = h.put t.id e := by
      show h.put t.id { e with registry := (e.registry.ask query).2 } = h.put t.id e
      rw [hq]
    rw [hput]
    refine hk.alone hs.sink hs.sink (Nat.le_refl _) rfl (fun e' he' => ?_) (fun _ _ _ => Iff.rfl) (fun _ _ _ hi => hi)
    rw [hself he', he]

theorem Keeps.call_other (hs : h.Sound c) (hk : Keeps t caught h) {name : String}
    (hne : ∀ id e, h.id? name = some id → h.exporter? id = some e → id ≠ t.id) (call : Call) :
    Keeps t caught (h.run (.call name call)).2 := by
  simp only [Host.run]
  split
  · exact hk
  · next id hid =>
    split
    · exact hk
    · next e he => exact hk.runCall_other hs he (hne id e hid he) call

theorem Keeps.call (hs : h.Sound c) (hk : Keeps t caught h) {name : String} {call : Call}
    (ha : name = t.name → ∀ k, call ≠ .registry (.apply k)) :
    Keeps t (caught ∨ (Op.call name call).catchesUp t.name = true) (h.run (.call name call)).2 := by
  cases ht : h.exporter? t.id with
  | none =>
    refine (Keeps.dead hk.old ht).call_other hs (fun id e _ he hid => ?_) call
    rw [hid, ht] at he
    cases he
  | some e =>
    have hnamed := (hk.follows e c ht hs.sink).named
    by_cases hn : name = t.name
    · have hid : h.id? name = some t.id := (hnamed name).2 hn
      have hrun : h.run (.call name call) = h.runCall t.id e call := by simp only [Host.run, hid, ht]
      rw [hrun]
      simpa [Op.catchesUp, hn] using hk.runCall_self hs ht (ha hn)
    · have hq : (Op.call name call).catchesUp t.name = false := by simp [Op.catchesUp, hn]
      simp only [hq, Bool.false_eq_true, or_false]
      exact hk.call_other hs (fun id _ hid _ he => hn ((hnamed name).1 (he ▸ hid))) call

/-! ## Scripts -/

/-- An operation that neither takes the provider of the exporter away nor applies a keyword to its
registry past the sink. -/
def Op.Spares (t : Ticket) (op : Op) : Prop :=
  op ≠ .sinkUnregister t.handle ∧ ∀ k, op ≠ .call t.name (.registry (.apply k))

theorem Keeps.run (hs : h.Sound c) (hk : Keeps t caught h) {op : Op} (ho : op.Spares t) :
    Keeps t (caught ∨ op.catchesUp t.name = true) (h.run op).2 := by
  have hquiet (hq : op.catchesUp t.name = false) {g : Host} (hg : Keeps t caught g) :
      Keeps t (caught ∨ op.catchesUp t.name = true) g := by
    simpa [hq] using hg
  cases op with
  | enable k =>
    rw [run_enable hs.sink]
    exact hk.notified (d := { c with keyword := k, listening := true }) hs.sink rfl _
  | disable =>
    rw [run_disable hs.sink]
    exact hk.notified (d := { c with keyword := 0, listening := false }) hs.sink rfl _
  | sinkRegister =>
    refine hquiet rfl ?_
    rw [run_sinkRegister hs.sink]
    split
    · exact hk
    · split
      · exact hk
      · next hi =>
        refine hk.withSink hs.sink rfl fun _ _ _ hi' => ?_
        rw [hi'] at hi
        exact absurd rfl hi
  | sinkUnregister n =>
    refine hquiet rfl ?_
    rw [run_sinkUnregister hs.sink]
    exact hk.withSink hs.sink rfl fun _ _ _ hi =>
      remove_installed.2 ⟨hi, fun hn => ho.1 (congrArg Op.sinkUnregister hn.symm)⟩
  | write r =>
    refine hquiet rfl ?_
    rw [Host.run, hs.sink]
    exact hk.withSink hs.sink rfl fun _ _ _ hi => hi
  | fire times => exact hquiet rfl (by rwa [run_of_isManual hs.sink rfl])
  | failRegister on => exact hquiet rfl (by rwa [run_of_isManual hs.sink rfl])
  | failUnregister on => exact hquiet rfl (by rwa [run_of_isManual hs.sink rfl])
  | breakStream on =>
    refine hquiet rfl ?_
    simp only [Host.run, hs.sink, Sink.breakStream?]
    cases c.outlet with
    | memory records => exact hk
    | stream s => exact hk.withSink hs.sink rfl fun _ _ _ hi => hi
  | flush =>
    refine hquiet rfl ?_
    simp only [Host.run]
    split <;> exact hk
  | register name setup profile => exact hquiet rfl (hk.register hs name setup profile)
  | drop name => exact hquiet rfl (hk.drop hs name)
  | call name call =>
    refine hk.call hs fun hn k hc => ho.2 k ?_
    rw [hn, hc]

theorem Keeps.after (hs : h.Sound c) (hk : Keeps t caught h) {ops : List Op} (ho : ∀ op ∈ ops, op.Spares t) :
    Keeps t (caught ∨ ∃ op ∈ ops, op.catchesUp t.name = true) (h.after ops) := by
  induction ops generalizing h c caught with
  | nil => simpa [Host.after] using hk
  | cons op ops ih =>
    obtain ⟨d, hd⟩ := hs.run op
    have hk' := ih hd (hk.run hs (ho op (List.mem_cons_self ..))) fun op hm => ho op (List.mem_cons_of_mem _ hm)
    simpa [Host.after, or_assoc] using hk'

theorem newcomer_registry (c : Sink.Controlled) (setup : Setup) (profile : Profile) :
    (newcomer c setup profile (.showing profile.filtered 0)).registry =
      .showing profile.filtered (if setup = .syncing then c.keyword else 0) := by
  unfold newcomer
  split
  · rw [Exporter.updated_registry, Registry.apply_showing]
  · rfl

/-- A new exporter follows its sink, and has caught up if it was synced or nobody listens. -/
theorem keeps_welcomed (hs : h.Sound c) (name : String) (setup : Setup) {profile : Profile}
    {registry : Registry} (ha : c.accept profile = .ok (.ok registry)) :
    Keeps ⟨h.next, name, profile, c.seat.issued + 1⟩ (c.listening = false ∨ setup = .syncing)
      (h.welcomed c name setup profile registry) := by
  have hr : registry = .showing profile.filtered 0 :=
    ((Registry.ofNames_eq_ok_iff _ _).1 (Sink.Controlled.accept_eq_ok ha).2.1).2.2
  have hb : Keeps ⟨h.next, name, profile, c.seat.issued + 1⟩ (c.listening = false ∨ setup = .syncing)
      ((h.joined c setup profile registry).bind name h.next) := by
    refine ⟨Nat.lt_succ_self h.next, fun e d he hd => ?_⟩
    change (h.joined c setup profile registry).exporter? h.next = some e at he
    rw [exporter?_joined, if_pos rfl, hr] at he
    cases he
    cases hd
    have hlast := congrArg Registry.last (newcomer_registry c setup profile)
    rw [Registry.last_showing] at hlast
    refine ⟨fun n => ?_, ?_, ?_, ?_, fun _ hcaught => ?_⟩
    · rw [id?_bind]
      by_cases hn : n = name
      · simp [hn]
      · rw [if_neg hn]
        exact iff_of_false (fun hid => Nat.lt_irrefl _ (hs.bound n h.next hid)) hn
    · unfold newcomer
      split <;> rfl
    · rw [hlast, newcomer_registry]
    · intro n hn
      rw [newcomer_lifecycle] at hn
      cases hn
      exact ⟨rfl, rfl⟩
    -- a keyword that was not read is zero where nobody listens
    · rw [hlast]
      show (if setup = .syncing then c.keyword else 0) = c.keyword
      rcases hcaught with hl | hsync
      · rw [hs.silent hl, ite_self]
      · rw [if_pos hsync]
  unfold welcomed
  cases hid : h.id? name with
  | none => exact hb
  | some old =>
    exact hb.without (hs.joined_bind name setup profile registry) (Nat.ne_of_lt (hs.bound name old hid))

theorem exporter?_welcomed (hs : h.Sound c) (name : String) (setup : Setup) (profile : Profile)
    (registry : Registry) : (h.welcomed c name setup profile registry).exporter? h.next =
      some (newcomer c setup profile registry) := by
  have hj : (h.joined c setup profile registry).exporter? h.next = some (newcomer c setup profile registry) := by
    rw [exporter?_joined, if_pos rfl]
  unfold welcomed
  cases hid : h.id? name with
  | none => exact hj
  | some old =>
    show (((h.joined c setup profile registry).bind name h.next).forget old).exporter? h.next = _
    rw [exporter?_forget, if_neg (Nat.ne_of_gt (hs.bound name old hid))]
    exact hj

/-! ## Groups -/

theorem isGroupOn_of_follows {e : Exporter} (hc : h.sink = .controlled c) (hf : Follows t caught h c e)
    (hr : e.lifecycle.isRegistered = true) (hcaught : caught) {group : String} (hg : group ≠ "") :
    ∃ on, e.isGroupOn h.sink group = .ok on ∧ (on = true ↔ h.sink.listening = true ∧
      ∃ token ∈ Text.splitCommas group, token ≠ "" ∧
        h.sink.keyword.getLsbD (Registry.bitOf t.profile.filtered token) = true) := by
  have hk : e.registry = .showing t.profile.filtered h.sink.keyword := by
    rw [hf.registry, hf.last hr hcaught, hc]
    rfl
  refine ⟨e.isActive h.sink && (Category.ofGroup group).any e.registry.isOn, ?_, ?_⟩
  · rw [Exporter.isGroupOn, if_neg hg]
  rw [hk, Bool.and_eq_true, Exporter.isActive, hr, Bool.true_and, List.any_eq_true]
  simp only [Category.ofGroup, List.mem_filter, decide_eq_true_eq, Registry.isOn_showing, and_assoc]

end Host

end TraceExport
