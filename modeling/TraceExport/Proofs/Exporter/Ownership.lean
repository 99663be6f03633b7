/-
Whose provider it is, over a controlled sink. Handles are never used again, and an exporter gives the
sink back no handle but the one that its own registration gave out; so it takes away its own provider
or none. What an operation does to the provider is said once, by the exporter that the provider
belongs to, and what a run does follows from it.
-/
import TraceExport.Proofs.Exporter.Follow
import TraceExport.Proofs.Exporter.Standing

namespace TraceExport

namespace Provider.Seat

variable {κ : Type} (s : Seat κ) (handle : Nat)

/-- The handle of the provider. -/
def handle? : Option Nat := s.installed.map (·.1)

/-- The seat without the provider that has this handle. -/
def vacated : Seat κ := if s.handle? = some handle then { s with installed := none } else s

theorem remove_eq_vacated : s.remove handle =
    (if s.handle? = some handle then .ok () else .error (.unregistration (.unknownHandle handle)), s.vacated handle) := by
  unfold vacated
  by_cases hn : s.handle? = some handle
  · obtain ⟨p, hp, rfl⟩ := Option.map_eq_some_iff.1 hn
    rw [if_pos hn, if_pos hn, remove_of_installed hp]
  · have hother : ∀ p, s.installed = some p → p.1 ≠ handle := fun p hp he => hn (by rw [handle?, hp, ← he]; rfl)
    rw [if_neg hn, if_neg hn, remove_of_other hother]

theorem vacated_of_other (hn : s.handle? ≠ some handle) : s.vacated handle = s := if_neg hn

theorem vacated_issued : (s.vacated handle).issued = s.issued := by
  unfold vacated
  split <;> rfl

theorem vacated_handle : (s.vacated handle).handle? = if s.handle? = some handle then none else s.handle? := by
  unfold vacated
  split <;> rfl

end Provider.Seat

namespace Host

variable {h g : Host} {c d : Sink.Controlled}

/-! ## What an operation does to the provider -/

/-- What an operation may do to the provider of a controlled sink. -/
inductive Seating (h : Host) (c : Sink.Controlled) (op : Op) (g : Host) (d : Sink.Controlled) : Prop
  /-- The provider stays, and so does the exporter it belongs to. -/
  | kept (hissued : d.seat.issued = c.seat.issued) (hd : d.seat.handle? = c.seat.handle?)
    (hex : ∀ id n, h.lifecycle? id = some (.registered n) → c.seat.handle? = some n →
      g.lifecycle? id = some (.registered n))
  /-- A provider comes where none was, under a handle of its own. -/
  | filled (hissued : d.seat.issued = c.seat.issued + 1) (hc : c.seat.handle? = none)
    (hd : d.seat.handle? = some (c.seat.issued + 1))
  /-- The provider is taken away past its exporter. -/
  | taken (n : Nat) (hop : op = .sinkUnregister n) (hissued : d.seat.issued = c.seat.issued)
    (hc : c.seat.handle? = some n) (hd : d.seat.handle? = none)
  /-- The exporter it belongs to goes, and takes it along. -/
  | left (id n : Nat) (hissued : d.seat.issued = c.seat.issued) (hl : h.lifecycle? id = some (.registered n))
    (hc : c.seat.handle? = some n) (hd : d.seat.handle? = none) (hg : g.lifecycle? id ≠ some (.registered n))

theorem Calm.seating (hc : Calm h g) (op : Op) (hissued : d.seat.issued = c.seat.issued)
    (hd : d.seat.handle? = c.seat.handle?) : Seating h c op g d :=
  .kept hissued hd fun id n hl _ => by rw [hc.stands, hl]

/-- An exporter goes, and takes along what is its own. -/
theorem seating_of_leave (op : Op) {id : Nat} {l : Lifecycle} (hl : h.lifecycle? id = some l)
    (hd : d.seat = l.leave c.seat) (hg : ∀ n, g.lifecycle? id ≠ some (.registered n))
    (hother : ∀ j, j ≠ id → g.lifecycle? j = h.lifecycle? j) : Seating h c op g d := by
  have hissued : d.seat.issued = c.seat.issued := by rw [hd, leave_issued]
  by_cases hown : ∃ n, l = .registered n ∧ c.seat.handle? = some n
  · obtain ⟨n, rfl, hc⟩ := hown
    refine .left id n hissued hl hc ?_ (hg n)
    rw [hd, Lifecycle.leave, Provider.Seat.remove_eq_vacated, Provider.Seat.vacated_handle, if_pos hc]
  · have hstay : l.leave c.seat = c.seat := by
      cases l with
      | registered n =>
        have hne : c.seat.handle? ≠ some n := fun hc => hown ⟨n, rfl, hc⟩
        rw [Lifecycle.leave, Provider.Seat.remove_eq_vacated, Provider.Seat.vacated_of_other _ _ hne]
      | _ => rfl
    refine .kept hissued (by rw [hd, hstay]) fun j n hj hc => ?_
    by_cases hne : j = id
    · subst hne
      rw [hl] at hj
      cases hj
      exact absurd ⟨n, rfl, hc⟩ hown
    · rw [hother j hne, hj]

theorem notified_seat (h : Host) (c : Sink.Controlled) : ∃ d, (h.notified c).2.sink = .controlled d ∧
    d.seat.issued = c.seat.issued ∧ d.seat.installed = c.seat.installed := by
  rw [notified_called]
  split
  · exact ⟨c, rfl, rfl, rfl⟩
  · exact ⟨c.counted, (called_frame ..).1, rfl, rfl⟩

/-- A new exporter's provider stays, though another exporter may have to give its name to it. -/
theorem welcomed_sink (hs : h.Sound c) (name : String) (setup : Setup) (profile : Profile) (registry : Registry) :
    (h.welcomed c name setup profile registry).sink = .controlled (c.withProvider (.exporter h.next)) := by
  unfold welcomed
  cases hid : h.id? name with
  | none => rfl
  | some old =>
    have hex : ((h.joined c setup profile registry).bind name h.next).exporter? old = h.exporter? old := by
      show (h.joined c setup profile registry).exporter? old = _
      rw [exporter?_joined, if_neg (Nat.ne_of_lt (hs.bound name old hid))]
    simp only [without, hex]
    cases he : h.exporter? old with
    | none => rfl
    | some e =>
      cases hl : e.lifecycle with
      | registered n =>
        -- the old exporter's handle was given out before
        have hle := hs.handles old e n he hl
        have hother : ∀ p, (c.withProvider (.exporter h.next)).seat.installed = some p → p.1 ≠ n := by
          rintro p hp rfl
          cases hp
          exact Nat.not_succ_le_self _ hle
        simp only [Option.elim, Lifecycle.leave, hl, Provider.Seat.remove_of_other hother]
      | _ => simp only [Option.elim, Lifecycle.leave, hl]

theorem welcomed_seat (hs : h.Sound c) (name : String) (setup : Setup) (profile : Profile) (registry : Registry) :
    ∃ d, (h.welcomed c name setup profile registry).sink = .controlled d ∧ d.seat.issued = c.seat.issued + 1 ∧
      d.seat.installed = some (c.seat.issued + 1, .exporter h.next) :=
  ⟨_, welcomed_sink hs name setup profile registry, rfl, rfl⟩

/-- A call other than that to leave does not touch the provider. -/
theorem runCall_seat (hc : h.sink = .controlled c) (id : Nat) (e : Exporter) {call : Call}
    (hcall : call ≠ .unregister) : ∃ d, (h.runCall id e call).2.sink = .controlled d ∧ d.seat = c.seat := by
  have hsend (r : Record) : ∃ d, e.send h.sink r = .controlled d ∧ d.seat = c.seat := by
    unfold Exporter.send
    rw [hc]
    split
    · exact ⟨_, rfl, rfl⟩
    · exact ⟨c, rfl, rfl⟩
  cases call with
  | sync =>
    simp only [runCall]
    split
    · rw [sync_eq, hc]
      exact ⟨c, rfl, rfl⟩
    · exact ⟨c, hc, rfl⟩
  | notified =>
    refine ⟨c, ?_, rfl⟩
    show (h.deliver (.exporter id)).2.sink = _
    rw [deliver_called hc, (called_frame ..).1, hc]
  | event phase flags name number args => exact hsend _
  | completeEnd name => exact hsend _
  | unregister => exact absurd rfl hcall
  | _ => exact ⟨c, hc, rfl⟩

/-- What an operation does to the provider of a controlled sink. -/
theorem run_seating (hs : h.Sound c) (op : Op) :
    ∃ d, (h.run op).2.sink = .controlled d ∧ Seating h c op (h.run op).2 d := by
  have hsame (op : Op) : ∃ d, h.sink = .controlled d ∧ Seating h c op h d :=
    ⟨c, hs.sink, (Calm.refl h).seating op rfl rfl⟩
  have hnotified (op : Op) (c' : Sink.Controlled) (hc' : c'.seat = c.seat) :
      ∃ d, (h.notified c').2.sink = .controlled d ∧ Seating h c op (h.notified c').2 d := by
    have hkind : c'.notify.sink.isManual = h.sink.isManual := by rw [isManual_notify, hs.sink]; rfl
    have hcalm := (settle_calm h hkind).1
    rw [settle_notify] at hcalm
    obtain ⟨d, hd, hissued, hinst⟩ := notified_seat h c'
    have hhandle : d.seat.handle? = c'.seat.handle? := by rw [Provider.Seat.handle?, hinst]; rfl
    exact ⟨d, hd, hcalm.seating op (hissued.trans (by rw [hc'])) (hhandle.trans (by rw [hc']))⟩
  cases op with
  | enable k =>
    rw [run_enable hs.sink]
    exact hnotified _ { c with keyword := k, listening := true } rfl
  | disable =>
    rw [run_disable hs.sink]
    exact hnotified _ { c with keyword := 0, listening := false } rfl
  | sinkRegister =>
    rw [run_sinkRegister hs.sink]
    split
    · exact hsame _
    split
    · exact hsame _
    · next hi =>
      refine ⟨_, rfl, .filled rfl ?_ rfl⟩
      rw [Provider.Seat.handle?, Option.not_isSome_iff_eq_none.1 hi]
      rfl
  | sinkUnregister n =>
    rw [run_sinkUnregister hs.sink, Provider.Seat.remove_eq_vacated]
    refine ⟨_, rfl, ?_⟩
    by_cases hn : c.seat.handle? = some n
    · exact .taken n rfl (Provider.Seat.vacated_issued ..) hn ((Provider.Seat.vacated_handle ..).trans (if_pos hn))
    · have hstay := Provider.Seat.vacated_of_other c.seat n hn
      exact .kept (by rw [hstay]) (by rw [hstay]) fun _ _ hl _ => hl
  | write r =>
    have hw : (h.run (.write r)).2.sink = .controlled { c with outlet := c.outlet.write r } := by
      rw [Host.run, hs.sink]
      rfl
    exact ⟨_, hw, (calm_sink (isManual_write ..)).seating _ rfl rfl⟩
  | fire times => rw [run_of_isManual hs.sink rfl]; exact hsame _
  | failRegister on => rw [run_of_isManual hs.sink rfl]; exact hsame _
  | failUnregister on => rw [run_of_isManual hs.sink rfl]; exact hsame _
  | breakStream on =>
    simp only [Host.run, hs.sink, Sink.breakStream?]
    cases c.outlet with
    | memory records => exact hsame _
    | stream s => exact ⟨_, rfl, .kept rfl rfl fun _ _ hl _ => hl⟩
  | flush =>
    simp only [Host.run]
    split <;> exact hsame _
  | register name setup profile =>
    rw [run_register hs.sink (hs.fresh h.next (Nat.le_refl _))]
    split
    · exact hsame _
    · exact hsame _
    next registry ha =>
    obtain ⟨d, hd, hissued, hinst⟩ := welcomed_seat hs name setup profile registry
    refine ⟨d, hd, .filled hissued ?_ ?_⟩
    · rw [Provider.Seat.handle?, (Sink.Controlled.accept_eq_ok ha).2.2.2]
      rfl
    · rw [Provider.Seat.handle?, hinst]
      rfl
  | drop name =>
    rw [run_drop hs.sink]
    split
    · exact hsame _
    next id _ =>
    refine ⟨_, rfl, ?_⟩
    have hg (j : Nat) : ((h.unbind name).without c id).lifecycle? j = if j = id then none else h.lifecycle? j :=
      lifecycle?_forget h id j
    have hu : (h.unbind name).exporter? id = h.exporter? id := rfl
    cases he : h.exporter? id with
    | none =>
      refine .kept (by rw [hu, he]; rfl) (by rw [hu, he]; rfl) fun j n hl _ => ?_
      have hne : j ≠ id := by
        rintro rfl
        rw [lifecycle?, he] at hl
        cases hl
      rw [hg, if_neg hne, hl]
    | some e =>
      refine seating_of_leave _ (l := e.lifecycle) (by rw [lifecycle?, he]; rfl) ?_ ?_ ?_
      · rw [hu, he]
        rfl
      · intro n hn
        rw [hg, if_pos rfl] at hn
        cases hn
      · intro j hj
        rw [hg, if_neg hj]
  | call name call =>
    simp only [Host.run]
    split
    · exact hsame _
    next id _ =>
    split
    · exact hsame _
    next e he =>
    by_cases hcall : call = .unregister
    · subst hcall
      have hl : h.lifecycle? id = some e.lifecycle := by rw [lifecycle?, he]; rfl
      rw [runCall_unregister hs.sink]
      split
      · next handle hr =>
        have hput (j : Nat) : (h.put id { e with lifecycle := .unregistered }).lifecycle? j =
            if j = id then some .unregistered else h.lifecycle? j := by
          rw [lifecycle?_put, hl]
          rfl
        refine ⟨_, rfl, seating_of_leave _ hl (by rw [hr]; rfl) (fun n hn => ?_) fun j hj => ?_⟩
        · change (h.put id _).lifecycle? id = _ at hn
          rw [hput, if_pos rfl] at hn
          cases hn
        · exact (hput j).trans (if_neg hj)
      · exact hsame _
    · obtain ⟨d, hd, hseat⟩ := runCall_seat hs.sink id e hcall
      exact ⟨d, hd, (runCall_calm he hcall).seating _ (by rw [hseat]) (by rw [hseat])⟩

/-! ## An exporter and its handle -/

/-- What holds of an exporter and the handle that it was registered under, whether it is alive or
not. The handle is the provider's only while the exporter is registered under it, and no other; and
it is that all the time, unless it is taken away directly. -/
structure Tenant (t : Ticket) (spared : Prop) (h : Host) (c : Sink.Controlled) : Prop where
  old : t.id < h.next
  issued : t.handle ≤ c.seat.issued
  bound : h.lifecycle? t.id ≠ none → h.id? t.name = some t.id
  handle : ∀ n, h.lifecycle? t.id = some (.registered n) → n = t.handle
  own : c.seat.handle? = some t.handle → h.lifecycle? t.id = some (.registered t.handle)
  seated : spared → h.lifecycle? t.id = some (.registered t.handle) → c.seat.handle? = some t.handle

variable {t : Ticket} {spared : Prop}

/-- Where an exporter stands does not change but by its going. -/
theorem Tenant.turn (ht : Tenant t spared h c) {op : Op} {reply : Reply} (hc : Course h op reply g) :
    g.lifecycle? t.id = h.lifecycle? t.id ∨ ∀ n, g.lifecycle? t.id ≠ some (.registered n) := by
  cases hc.turn t.id with
  | stay hl => exact .inl hl
  | gone hl => exact .inr fun n hn => by rw [hl] at hn; cases hn
  | enter handle hid hn hl => exact absurd ht.old (by omega)
  | leave name handle hop hid hl hm hg =>
    refine .inr fun n hn => ?_
    rw [hg] at hn
    split at hn <;> cases hn

theorem Tenant.alive (ht : Tenant t spared h c) {op : Op} {reply : Reply} (hc : Course h op reply g)
    (hg : g.lifecycle? t.id ≠ none) : h.lifecycle? t.id ≠ none := by
  cases hc.turn t.id with
  | stay hl => rwa [← hl]
  | gone hl => exact absurd hl hg
  | enter handle hid hn hl => exact absurd ht.old (by omega)
  | leave name handle hop hid hl hm hg => rw [hl]; exact fun h => by cases h

/-- Two exporters are not registered under the handle of one provider. -/
theorem Sound.owner_unique (hs : h.Sound c) {i j n : Nat} (hn : c.seat.handle? = some n)
    (hi : h.lifecycle? i = some (.registered n)) (hj : h.lifecycle? j = some (.registered n)) : i = j := by
  obtain ⟨p, hp, rfl⟩ := Option.map_eq_some_iff.1 hn
  obtain ⟨e, he, hl⟩ := Option.map_eq_some_iff.1 hi
  obtain ⟨f, hf, hl'⟩ := Option.map_eq_some_iff.1 hj
  have howner := hs.owner i e p.1 p.2 he hl hp
  rw [hs.owner j f p.1 p.2 hf hl' hp] at howner
  cases howner
  rfl

theorem Tenant.run (hs : h.Sound c) (ht : Tenant t spared h c) (op : Op) (hd : (h.run op).2.sink = .controlled d) :
    Tenant t (spared ∧ op ≠ .sinkUnregister t.handle) (h.run op).2 d := by
  have hc := run_course h op
  obtain ⟨d', hd', hseat⟩ := run_seating hs op
  rw [hd] at hd'
  cases hd'
  have hissued : c.seat.issued ≤ d.seat.issued := by
    cases hseat with
    | kept hi _ _ => omega
    | filled hi _ _ => omega
    | taken n _ hi _ _ => omega
    | left id n hi _ _ _ _ => omega
  refine ⟨Nat.lt_of_lt_of_le ht.old hc.next, Nat.le_trans ht.issued hissued, fun hl => ?_, fun n hl => ?_, fun hn => ?_,
    fun hsp hl => ?_⟩
  · rcases hc.kept t.name t.id (ht.bound (ht.alive hc hl)) with hb | hb
    · exact hb
    · exact absurd hb hl
  · rcases ht.turn hc with hsame | hnone
    · exact ht.handle n (hsame ▸ hl)
    · exact absurd hl (hnone n)
  -- the provider with this handle was there before, and its exporter with it
  · cases hseat with
    | kept _ hsame hex => exact hex t.id t.handle (ht.own (hsame ▸ hn)) (hsame ▸ hn)
    | filled _ _ hnew =>
      have hle := ht.issued
      rw [hnew] at hn
      have heq := Option.some.inj hn
      omega
    | taken n _ _ _ hnone => rw [hnone] at hn; cases hn
    | left id n _ _ _ hnone _ => rw [hnone] at hn; cases hn
  -- an exporter that is registered was so before, and only its own going takes its provider away
  · have hold : h.lifecycle? t.id = some (.registered t.handle) := by
      rcases ht.turn hc with hsame | hnone
      · exact hsame ▸ hl
      · exact absurd hl (hnone _)
    have hseated := ht.seated hsp.1 hold
    cases hseat with
    | kept _ hsame _ => rw [hsame, hseated]
    | filled _ hnone _ => rw [hnone] at hseated; cases hseated
    | taken n hop _ hn _ =>
      rw [hseated] at hn
      cases hn
      exact absurd hop hsp.2
    | left id n _ hl' hn _ hg =>
      rw [hseated] at hn
      cases hn
      obtain rfl := hs.owner_unique hseated hold hl'
      exact absurd hl hg

theorem Tenant.after (hs : h.Sound c) (ht : Tenant t spared h c) (ops : List Op) :
    ∃ d, (h.after ops).Sound d ∧ Tenant t (spared ∧ .sinkUnregister t.handle ∉ ops) (h.after ops) d := by
  induction ops generalizing h c spared with
  | nil => exact ⟨c, hs, by simpa [Host.after] using ht⟩
  | cons op ops ih =>
    obtain ⟨d, hd⟩ := hs.run op
    obtain ⟨d', hs', ht'⟩ := ih hd (ht.run hs op hd.sink)
    refine ⟨d', hs', ?_⟩
    simpa [Host.after, and_assoc, eq_comm] using ht'

/-! ## Registrations -/

/-- The script registers an exporter, whose ticket this is, and goes on. -/
def Registers (h : Host) (ops : List Op) (t : Ticket) (later : List Op) : Prop :=
  ∃ before setup, ops = before ++ .register t.name setup t.profile :: later ∧ (h.after before).next = t.id ∧
    ((h.after before).run (.register t.name setup t.profile)).1 = .done ∧
    ((h.after before).run (.register t.name setup t.profile)).2.lifecycle? t.id = some (.registered t.handle)

theorem tenant_register (hs : h.Sound c) {setup : Setup} (hid : h.next = t.id)
    (hdone : (h.run (.register t.name setup t.profile)).1 = .done)
    (hl : (h.run (.register t.name setup t.profile)).2.lifecycle? t.id = some (.registered t.handle)) :
    ∃ d, (h.run (.register t.name setup t.profile)).2.Sound d ∧
      Tenant t True (h.run (.register t.name setup t.profile)).2 d := by
  have hrun := run_register hs.sink (hs.fresh _ (Nat.le_refl _)) t.name setup t.profile
  rw [hrun] at hdone hl ⊢
  split at hdone
  · cases hdone
  · cases hdone
  next registry ha =>
  simp only [ha] at hl ⊢
  have hhandle : t.handle = c.seat.issued + 1 := by
    rw [lifecycle?, ← hid, exporter?_welcomed hs, Option.map_some, newcomer_lifecycle] at hl
    exact (Lifecycle.registered.inj (Option.some.inj hl)).symm
  have hname : (h.welcomed c t.name setup t.profile registry).id? t.name = some t.id := by
    have hb : ((h.joined c setup t.profile registry).bind t.name h.next).id? t.name = some t.id := by
      rw [id?_bind, if_pos rfl, hid]
    unfold welcomed
    split <;> exact hb
  have hnext : (h.welcomed c t.name setup t.profile registry).next = h.next + 1 := by
    unfold welcomed
    split <;> rfl
  obtain ⟨d, hd, hissued, hinst⟩ := welcomed_seat hs t.name setup t.profile registry
  obtain ⟨d', hs'⟩ := hs.welcomed t.name setup t.profile registry
  have hdd : d = d' := by
    have hsink := hs'.sink
    rw [hd] at hsink
    cases hsink
    rfl
  subst hdd
  refine ⟨d, hs', by omega, by omega, fun _ => hname, fun n hn => ?_, fun _ => hl, fun _ _ => ?_⟩
  · rw [hl] at hn
    cases hn
    rfl
  · rw [Provider.Seat.handle?, hinst, hhandle]
    rfl

/-- What a run leaves of a registration. -/
theorem Registers.tenant (hs : h.Sound c) {ops later : List Op} (hr : h.Registers ops t later) :
    ∃ d, (h.after ops).Sound d ∧ Tenant t (.sinkUnregister t.handle ∉ later) (h.after ops) d := by
  obtain ⟨before, setup, rfl, hid, hdone, hl⟩ := hr
  obtain ⟨c₀, hs₀⟩ := hs.after before
  obtain ⟨c₁, hs₁, ht₁⟩ := tenant_register hs₀ hid hdone hl
  obtain ⟨d, hs₂, ht₂⟩ := ht₁.after hs₁ later
  have ha : h.after (before ++ .register t.name setup t.profile :: later) =
      ((h.after before).run (.register t.name setup t.profile)).2.after later := by
    rw [Host.after, List.foldl_append]
    rfl
  rw [ha]
  exact ⟨d, hs₂, by simpa using ht₂⟩

/-- Every exporter that is alive was registered by the script. -/
theorem exists_registers (hs : h.Sound c) {ops : List Op} {id : Nat} {e : Exporter} (hle : h.next ≤ id)
    (he : (h.after ops).exporter? id = some e) : ∃ t later, t.id = id ∧ h.Registers ops t later := by
  obtain ⟨before, name, setup, profile, later, hops, hid, hdone⟩ := exists_registration hs ops hle he
  obtain ⟨c₀, hs₀⟩ := hs.after before
  have hrun := run_register hs₀.sink (hs₀.fresh _ (Nat.le_refl _)) name setup profile
  have hl : ((h.after before).run (.register name setup profile)).2.lifecycle? id =
      some (.registered (c₀.seat.issued + 1)) := by
    rw [hrun] at hdone ⊢
    split at hdone
    · cases hdone
    · cases hdone
    next registry ha =>
    rw [lifecycle?, ← hid, exporter?_welcomed hs₀, Option.map_some, newcomer_lifecycle]
  exact ⟨⟨id, name, profile, c₀.seat.issued + 1⟩, later, rfl, before, setup, hops, hid, hdone, hl⟩

/-! ## Going -/

/-- Whether an exporter is alive and registered. -/
def IsRegistered (h : Host) (id : Nat) : Prop := ∃ handle, h.lifecycle? id = some (.registered handle)

theorem Tenant.leave (ht : Tenant t spared h c) {e : Exporter} (he : h.exporter? t.id = some e) :
    e.lifecycle.leave c.seat = c.seat.vacated t.handle := by
  have hl : h.lifecycle? t.id = some e.lifecycle := by rw [lifecycle?, he]; rfl
  have hother (hne : ∀ n, e.lifecycle ≠ .registered n) : c.seat.vacated t.handle = c.seat := by
    refine Provider.Seat.vacated_of_other _ _ fun hn => hne t.handle ?_
    rw [ht.own hn] at hl
    exact (Option.some.inj hl).symm
  cases hr : e.lifecycle with
  | registered n =>
    obtain rfl := ht.handle n (by rw [hl, hr])
    rw [Lifecycle.leave, Provider.Seat.remove_eq_vacated]
  -- one that is not registered has no provider to take along
  | unregistered => exact (hother fun n h => by rw [hr] at h; cases h).symm
  | registering => exact (hother fun n h => by rw [hr] at h; cases h).symm
  | unregistering => exact (hother fun n h => by rw [hr] at h; cases h).symm

theorem Tenant.id? (ht : Tenant t spared h c) {e : Exporter} (he : h.exporter? t.id = some e) :
    h.id? t.name = some t.id :=
  ht.bound (by rw [lifecycle?, he]; exact fun h => by cases h)

theorem Tenant.unregister (hs : h.Sound c) (ht : Tenant t spared h c) {e : Exporter} (he : h.exporter? t.id = some e)
    (hl : e.lifecycle.isRegistered = true ∨ e.lifecycle = .unregistered) :
    ∃ g, h.run (.call t.name .unregister) = (if e.lifecycle.isRegistered = false then .failed .notRegistered
        else if c.seat.handle? = some t.handle then .done
        else .failed (.unregistration (.unknownHandle t.handle)), g) ∧
      g.sink = .controlled { c with seat := c.seat.vacated t.handle } ∧ g.lifecycle? t.id = some .unregistered := by
  have hrun : h.run (.call t.name .unregister) = h.runCall t.id e .unregister := by
    simp only [Host.run, ht.id? he, he]
  have hleave := ht.leave he
  have hstands : h.lifecycle? t.id = some e.lifecycle := by rw [Host.lifecycle?, he]; rfl
  rw [hrun, runCall_unregister hs.sink]
  cases hr : e.lifecycle with
  | registered n =>
    obtain rfl := ht.handle n (by rw [hstands, hr])
    refine ⟨_, Prod.ext ?_ rfl, ?_, ?_⟩
    · show Reply.ofResult _ (c.seat.remove t.handle).1 = _
      rw [Provider.Seat.remove_eq_vacated]
      by_cases hn : c.seat.handle? = some t.handle
      · simp [hn, Lifecycle.isRegistered, Reply.ofResult]
      · simp [hn, Lifecycle.isRegistered, Reply.ofResult]
    · show Sink.controlled { c with seat := (c.seat.remove t.handle).2 } = _
      rw [Provider.Seat.remove_eq_vacated]
    · show (h.put t.id { e with lifecycle := .unregistered }).lifecycle? t.id = _
      rw [lifecycle?_put, if_pos rfl, hstands]
      rfl
  | unregistered =>
    rw [hr] at hleave hstands
    exact ⟨h, rfl, by rw [hs.sink, ← hleave]; rfl, hstands⟩
  | registering => rw [hr] at hl; rcases hl with hl | hl <;> cases hl
  | unregistering => rw [hr] at hl; rcases hl with hl | hl <;> cases hl

theorem Tenant.drop (hs : h.Sound c) (ht : Tenant t spared h c) {e : Exporter} (he : h.exporter? t.id = some e) :
    ∃ g, h.run (.drop t.name) = (.flag true, g) ∧
      g.sink = .controlled { c with seat := c.seat.vacated t.handle } ∧ g.lifecycle? t.id = none := by
  rw [run_drop hs.sink, ht.id? he]
  refine ⟨_, rfl, ?_, ?_⟩
  · have hu : (h.unbind t.name).exporter? t.id = some e := he
    rw [without, hu, ← ht.leave he]
    rfl
  · exact (lifecycle?_forget h t.id t.id).trans (if_pos rfl)

/-- A name is taken over only where there is no provider, and the new provider stays. -/
theorem Tenant.rebind (hs : h.Sound c) (ht : Tenant t spared h c) {e : Exporter} (he : h.exporter? t.id = some e)
    (setup : Setup) (profile : Profile) (hdone : (h.run (.register t.name setup profile)).1 = .done) :
    c.seat.handle? = none ∧ (h.run (.register t.name setup profile)).2.lifecycle? t.id = none ∧
      ∃ d, (h.run (.register t.name setup profile)).2.sink = .controlled d ∧
        d.seat.installed = some (c.seat.issued + 1, .exporter h.next) := by
  have hrun := run_register hs.sink (hs.fresh _ (Nat.le_refl _)) t.name setup profile
  rw [hrun] at hdone ⊢
  split at hdone
  · cases hdone
  · cases hdone
  next registry ha =>
  obtain ⟨d, hd, -, hinst⟩ := welcomed_seat hs t.name setup profile registry
  refine ⟨by rw [Provider.Seat.handle?, (Sink.Controlled.accept_eq_ok ha).2.2.2]; rfl, ?_, d, hd, hinst⟩
  show (h.welcomed c t.name setup profile registry).lifecycle? t.id = none
  unfold welcomed
  rw [ht.id? he]
  exact (lifecycle?_forget _ t.id t.id).trans (if_pos rfl)

/-- An exporter takes no provider away but its own. Take any run over a controlled sink, with any
number of exporters and with providers that come and go past them, and any exporter that was
registered in it. As long as it is alive, its asking to leave or its being dropped empties the seat
if the provider has the handle that the exporter was registered under, and leaves the seat as it is
if not; then its asking fails, and it is unregistered all the same. If its handle was not taken away
directly, it is registered as long as the provider has this handle and no longer. So two such
exporters are not registered at one time, and the provider of one that is gone is gone. -/
theorem own_provider_only (outlet : Sink.Outlet) (rejecting : Bool) (ops : List Op) :
    let start : Host := { sink := .controlled { outlet, rejecting } }
    let h := start.after ops
    ∃ c, h.sink = .controlled c ∧
      (∀ id e, h.exporter? id = some e → ∃ t later, t.id = id ∧ start.Registers ops t later) ∧
      (∀ t later, start.Registers ops t later →
        (∀ e, h.exporter? t.id = some e →
          (∃ g, h.run (.call t.name .unregister) = (if e.lifecycle.isRegistered = false then .failed .notRegistered
              else if c.seat.handle? = some t.handle then .done
              else .failed (.unregistration (.unknownHandle t.handle)), g) ∧
            g.sink = .controlled { c with seat := c.seat.vacated t.handle } ∧
            g.lifecycle? t.id = some .unregistered) ∧
          (∃ g, h.run (.drop t.name) = (.flag true, g) ∧
            g.sink = .controlled { c with seat := c.seat.vacated t.handle } ∧ g.lifecycle? t.id = none) ∧
          ∀ setup profile, let s := h.run (.register t.name setup profile)
            s.1 = .done → c.seat.handle? = none ∧ s.2.lifecycle? t.id = none ∧ ∃ d, s.2.sink = .controlled d ∧
              d.seat.installed = some (c.seat.issued + 1, .exporter h.next)) ∧
        (.sinkUnregister t.handle ∉ later → (h.IsRegistered t.id ↔ c.seat.handle? = some t.handle)) ∧
        (h.exporter? t.id = none → c.seat.handle? ≠ some t.handle)) ∧
      ∀ t later t' later', start.Registers ops t later → start.Registers ops t' later' →
        .sinkUnregister t.handle ∉ later → .sinkUnregister t'.handle ∉ later' →
        h.IsRegistered t.id → h.IsRegistered t'.id → t.id = t'.id := by
  intro start h
  have hs₀ : start.Sound { outlet, rejecting } := sound_start outlet rejecting
  obtain ⟨c, hs⟩ : ∃ c, h.Sound c := hs₀.after ops
  have htenant {t : Ticket} {later : List Op} (hr : start.Registers ops t later) :
      Tenant t (.sinkUnregister t.handle ∉ later) h c := by
    obtain ⟨d, hs', ht⟩ := hr.tenant hs₀
    have hsink := hs'.sink
    rw [hs.sink] at hsink
    cases hsink
    exact ht
  have hiff {t : Ticket} {later : List Op} (hr : start.Registers ops t later) (hsp : .sinkUnregister t.handle ∉ later) :
      h.IsRegistered t.id ↔ c.seat.handle? = some t.handle := by
    have ht := htenant hr
    refine ⟨fun ⟨n, hn⟩ => ht.seated hsp ?_, fun hn => ⟨t.handle, ht.own hn⟩⟩
    rw [hn, ht.handle n hn]
  refine ⟨c, hs.sink, fun id e he => exists_registers hs₀ (Nat.zero_le id) he, fun t later hr => ?_, ?_⟩
  · have ht := htenant hr
    refine ⟨fun e he => ⟨ht.unregister hs he ?_, ht.drop hs he, ht.rebind hs he⟩, hiff hr, fun hnone hn => ?_⟩
    · rcases stands_after _ ops t.id (by rw [Host.lifecycle?, he]; rfl) with hl | hl | ⟨-, hm, -⟩
      · exact .inl hl
      · exact .inr hl
      · cases hm
    · have hown := ht.own hn
      rw [Host.lifecycle?, hnone] at hown
      cases hown
  · intro t later t' later' hr hr' hsp hsp' hreg hreg'
    have hn := (hiff hr hsp).1 hreg
    have hn' := (hiff hr' hsp').1 hreg'
    have hown := (htenant hr).own hn
    have hown' := (htenant hr').own hn'
    rw [← Option.some.inj (hn.symm.trans hn')] at hown'
    exact hs.owner_unique hn hown hown'

/-- An exporter whose provider was taken away, and another one put in its place. -/
example :
    let h := Host.after { sink := .memory } [.register "a" .plain ⟨["gpu"], []⟩, .sinkUnregister 1, .sinkRegister]
    (h.run (.call "a" .unregister)).1 = .failed (.unregistration (.unknownHandle 1)) := rfl

end Host

end TraceExport
