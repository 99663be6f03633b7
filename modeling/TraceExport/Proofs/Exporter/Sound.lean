/-
What holds of a host over a controlled sink between operations, and what each operation does there.
Numbers and handles are never used again, a name is bound to at most one exporter and an exporter
has at most one name, and the provider that an exporter is registered under is its own.
-/
import TraceExport.Proofs.Exporter.Effect

namespace TraceExport

namespace Host

variable {h : Host} {c : Sink.Controlled}

/-! ## What the operations do -/

/-- The host when a callback has run that applied a keyword. -/
def called (h : Host) (k : Keyword) : Sink.Callback → Host
  | .idle => h
  | .exporter id =>
    match h.exporter? id with
    | some e => if e.lifecycle.isRegistered then h.put id (e.updated k) else h
    | none => h

/-- How notifying the provider ends, and the host after it. -/
def notified (h : Host) (c : Sink.Controlled) : Except Panic Unit × Host :=
  match c.seat.installed with
  | none => (.ok (), { h with sink := .controlled c })
  | some p => { h with sink := .controlled c.counted }.deliver p.2

/-- The host without an exporter, which takes its provider along. -/
def without (h : Host) (c : Sink.Controlled) (id : Nat) : Host :=
  { h.forget id with
    sink := .controlled { c with seat := (h.exporter? id).elim c.seat (·.lifecycle.leave c.seat) } }

/-- The host when the name of a new exporter is bound, and the exporter gone that had the name. -/
def welcomed (h : Host) (c : Sink.Controlled) (name : String) (setup : Setup) (profile : Profile)
    (registry : Registry) : Host :=
  let g := (h.joined c setup profile registry).bind name h.next
  match h.id? name with
  | none => g
  | some old => g.without (c.withProvider (.exporter h.next)) old

theorem deliver_called (hc : h.sink = .controlled c) (callback : Sink.Callback) :
    (h.deliver callback).2 = h.called c.keyword callback := by
  cases callback with
  | idle => rfl
  | exporter id =>
    simp only [called]
    cases he : h.exporter? id with
    | none => rw [deliver_of_not_registered (by rw [he]; intro e he; cases he)]
    | some e =>
      cases hr : e.lifecycle.isRegistered with
      | false =>
        rw [deliver_of_not_registered (by rw [he]; intro f hf; cases hf; exact hr)]
        simp [hr]
      | true =>
        have hread : h.sink.afterRead = h.sink := by rw [hc]; rfl
        have hkey : h.sink.keyword = c.keyword := by rw [hc]; rfl
        rw [deliver_of_registered he hr, hread, hkey]
        simp only [hr, if_true]
        rfl

theorem settle_notify (h : Host) (c : Sink.Controlled) : h.settle c.notify = h.notified c := by
  unfold notified
  cases hi : c.seat.installed with
  | none => rw [Sink.Controlled.notify_of_free hi, settle_nil _ rfl]
  | some p =>
    rw [Sink.Controlled.notify_of_taken hi, settle_single _ rfl]
    dsimp only
    generalize { h with sink := .controlled c.counted }.deliver p.2 = x
    obtain ⟨r, g⟩ := x
    cases r <;> rfl

theorem dispose_eq (hc : h.sink = .controlled c) (id : Nat) : h.dispose id = (.ok (), h.without c id) := by
  cases he : h.exporter? id with
  | some e => rw [dispose_controlled hc he, without, he]; rfl
  | none =>
    -- letting go of an exporter that is not there changes nothing
    have hw : h.without c id = h := by
      rw [without, he, forget_eq_self h id he]
      obtain ⟨s, es, ns, n⟩ := h
      subst hc
      rfl
    rw [hw, dispose, he]

theorem run_enable (hc : h.sink = .controlled c) (k : Keyword) : h.run (.enable k) =
    (.ofOutcome (fun _ => .done) (h.notified { c with keyword := k, listening := true }).1,
      (h.notified { c with keyword := k, listening := true }).2) := by
  rw [← settle_notify, run, hc]
  rfl

theorem run_disable (hc : h.sink = .controlled c) : h.run .disable =
    (.ofOutcome (fun _ => .done) (h.notified { c with keyword := 0, listening := false }).1,
      (h.notified { c with keyword := 0, listening := false }).2) := by
  rw [← settle_notify, run, hc]
  rfl

/-- A provider that does nothing is taken as any other. -/
theorem run_sinkRegister (hc : h.sink = .controlled c) : h.run .sinkRegister =
    if c.rejecting then (.failed (.registration .rejected), h)
    else if c.seat.installed.isSome then (.failed (.registration .seatTaken), h)
    else (.handle (c.seat.issued + 1), { h with sink := .controlled (c.withProvider .idle) }) := by
  obtain ⟨s, es, ns, n⟩ := h
  subst hc
  cases hj : c.rejecting with
  | true =>
    have hx : Sink.register (.controlled c) .idle = ⟨.controlled c, [], .error (.registration .rejected)⟩ := by
      simp [Sink.register, hj]
    rw [run, exchange, hx, settle_nil _ rfl]
    rfl
  | false =>
    cases hi : c.seat.installed with
    | some p =>
      have hx : Sink.register (.controlled c) .idle = ⟨.controlled c, [], .error (.registration .seatTaken)⟩ := by
        simp [Sink.register, hj, Provider.Seat.install_of_taken hi]
      rw [run, exchange, hx, settle_nil _ rfl]
      rfl
    | none =>
      simp only [run, exchange, Sink.Controlled.register_of_free hj hi]
      cases hl : c.listening with
      | false => rw [settle_nil _ (by simp)]; rfl
      | true => rw [settle_single _ (by simp; rfl)]; rfl

theorem run_sinkUnregister (hc : h.sink = .controlled c) (handle : Nat) : h.run (.sinkUnregister handle) =
    (.ofResult (fun _ => .done) (c.seat.remove handle).1,
      { h with sink := .controlled { c with seat := (c.seat.remove handle).2 } }) := by
  have hx : h.sink.unregister handle =
      ⟨.controlled { c with seat := (c.seat.remove handle).2 }, [], (c.seat.remove handle).1⟩ := by
    rw [hc]; rfl
  simp only [run, exchange, hx]
  rw [settle_nil _ rfl]
  rfl

theorem run_register (hc : h.sink = .controlled c) (hf : h.exporter? h.next = none)
    (name : String) (setup : Setup) (profile : Profile) :
    h.run (.register name setup profile) = match c.accept profile with
      | .error p => (.panicked p, h)
      | .ok (.error f) => (.failed f, h)
      | .ok (.ok registry) => (.done, h.welcomed c name setup profile registry) := by
  simp only [run, registerAs, register_controlled hc hf]
  rcases c.accept profile with p | f | registry
  · rfl
  · rfl
  simp only [welcomed]
  have hid : (h.joined c setup profile registry).id? name = h.id? name := rfl
  rw [hid]
  cases h.id? name with
  | none => rfl
  | some old =>
    have hg : ((h.joined c setup profile registry).bind name h.next).sink =
      .controlled (c.withProvider (.exporter h.next)) := rfl
    simp only [dispose_eq hg]
    rfl

theorem run_drop (hc : h.sink = .controlled c) (name : String) : h.run (.drop name) =
    match h.id? name with
    | none => (.flag false, h)
    | some id => (.flag true, (h.unbind name).without c id) := by
  have hu : (h.unbind name).sink = .controlled c := hc
  simp only [run, dispose_eq hu]
  cases h.id? name <;> rfl

theorem runCall_unregister (hc : h.sink = .controlled c) (id : Nat) (e : Exporter) :
    h.runCall id e .unregister = match e.lifecycle with
      | .registered handle => (.ofResult (fun _ => .done) (c.seat.remove handle).1,
          { h.put id { e with lifecycle := .unregistered } with
            sink := .controlled { c with seat := (c.seat.remove handle).2 } })
      | _ => (.failed .notRegistered, h) := by
  cases hl : e.lifecycle with
  | registered handle => simp only [runCall, unregister_controlled hc hl]; rfl
  | _ => simp only [runCall, unregister, hl]; rfl

/-! ## What holds between operations -/

/-- What holds of a host over a controlled sink between operations. -/
structure Sound (h : Host) (c : Sink.Controlled) : Prop where
  sink : h.sink = .controlled c
  /-- The numbers to come are free. -/
  fresh : ∀ id, h.next ≤ id → h.exporter? id = none
  bound : ∀ name id, h.id? name = some id → id < h.next
  named_once : ∀ m n id, h.id? m = some id → h.id? n = some id → m = n
  /-- The handles to come are free. -/
  handles : ∀ id e n, h.exporter? id = some e → e.lifecycle = .registered n → n ≤ c.seat.issued
  /-- A provider under the handle of an exporter calls this exporter. -/
  owner : ∀ id e n callback, h.exporter? id = some e → e.lifecycle = .registered n →
    c.seat.installed = some (n, callback) → callback = .exporter id
  /-- Where nobody listens there is no keyword. -/
  silent : c.listening = false → c.keyword = 0

/-- A host without exporters on a new sink. -/
theorem sound_start (outlet : Sink.Outlet) (rejecting : Bool) :
    ({ sink := .controlled { outlet, rejecting } } : Host).Sound { outlet, rejecting } := by
  refine ⟨rfl, fun _ _ => rfl, ?_, ?_, ?_, ?_, fun _ => rfl⟩
  · intro _ _ hid; cases hid
  · intro _ _ _ hid; cases hid
  · intro _ _ _ he; cases he
  · intro _ _ _ _ he; cases he

/-- Names, exporters and providers may go, exporters may leave their providers, and the sink may
change in any way that keeps its handles. -/
theorem Sound.mono (hs : h.Sound c) {g : Host} {d : Sink.Controlled} (hd : g.sink = .controlled d)
    (hn : g.next = h.next) (hid : ∀ name id, g.id? name = some id → h.id? name = some id)
    (hex : ∀ id e, g.exporter? id = some e → ∃ e₀, h.exporter? id = some e₀ ∧
      ∀ n, e.lifecycle = .registered n → e₀.lifecycle = .registered n)
    (hissued : d.seat.issued = c.seat.issued)
    (hseat : ∀ p, d.seat.installed = some p → c.seat.installed = some p)
    (hsil : d.listening = false → d.keyword = 0) : g.Sound d := by
  refine ⟨hd, ?_, ?_, ?_, ?_, ?_, hsil⟩
  · intro id hle
    rw [hn] at hle
    cases he : g.exporter? id with
    | none => rfl
    | some e =>
      obtain ⟨e₀, he₀, _⟩ := hex id e he
      rw [hs.fresh id hle] at he₀
      cases he₀
  · intro name id hname
    rw [hn]
    exact hs.bound name id (hid name id hname)
  · intro m n id hm hn'
    exact hs.named_once m n id (hid m id hm) (hid n id hn')
  · intro id e n he hl
    obtain ⟨e₀, he₀, hl₀⟩ := hex id e he
    rw [hissued]
    exact hs.handles id e₀ n he₀ (hl₀ n hl)
  · intro id e n callback he hl hi
    obtain ⟨e₀, he₀, hl₀⟩ := hex id e he
    exact hs.owner id e₀ n callback he₀ (hl₀ n hl) (hseat _ hi)

theorem Sound.withSink (hs : h.Sound c) {d : Sink.Controlled} (hissued : d.seat.issued = c.seat.issued)
    (hseat : ∀ p, d.seat.installed = some p → c.seat.installed = some p)
    (hsil : d.listening = false → d.keyword = 0) : ({ h with sink := .controlled d } : Host).Sound d :=
  hs.mono rfl rfl (fun _ _ hid => hid) (fun _ e he => ⟨e, he, fun _ hl => hl⟩) hissued hseat hsil

theorem Sound.put (hs : h.Sound c) {id : Nat} {e₀ e : Exporter} (he : h.exporter? id = some e₀)
    (hl : ∀ n, e.lifecycle = .registered n → e₀.lifecycle = .registered n) : (h.put id e).Sound c := by
  refine hs.mono hs.sink rfl (fun _ _ hid => hid) ?_ rfl (fun _ hp => hp) hs.silent
  intro j f hf
  rw [exporter?_put] at hf
  by_cases hj : j = id
  · subst hj
    rw [if_pos rfl, he] at hf
    cases hf
    exact ⟨e₀, he, hl⟩
  · rw [if_neg hj] at hf
    exact ⟨f, hf, fun _ hl => hl⟩

theorem Sound.unbind (hs : h.Sound c) (name : String) : (h.unbind name).Sound c := by
  refine hs.mono hs.sink rfl ?_ (fun _ e he => ⟨e, he, fun _ hl => hl⟩) rfl (fun _ hp => hp) hs.silent
  intro n id hid
  rw [id?_unbind] at hid
  split at hid
  · cases hid
  · exact hid

theorem Sound.bind (hs : h.Sound c) {id : Nat} (hlt : id < h.next) (hfree : ∀ n, h.id? n ≠ some id)
    (name : String) : (h.bind name id).Sound c := by
  refine ⟨hs.sink, hs.fresh, ?_, ?_, hs.handles, hs.owner, hs.silent⟩
  · intro n j hj
    rw [id?_bind] at hj
    split at hj
    · cases hj; exact hlt
    · exact hs.bound n j hj
  · intro m n j hm hn
    -- no other name has the number, so binding it cannot make a second name for it
    rw [id?_bind] at hm hn
    by_cases em : m = name <;> by_cases en : n = name
    · rw [em, en]
    · rw [if_pos em] at hm
      rw [if_neg en] at hn
      cases hm
      exact absurd hn (hfree n)
    · rw [if_neg em] at hm
      rw [if_pos en] at hn
      cases hn
      exact absurd hm (hfree m)
    · rw [if_neg em] at hm
      rw [if_neg en] at hn
      exact hs.named_once m n j hm hn

/-! ## Seats -/

theorem remove_issued {κ : Type} (s : Provider.Seat κ) (handle : Nat) : (s.remove handle).2.issued = s.issued := by
  unfold Provider.Seat.remove
  split
  · split <;> rfl
  · rfl

theorem remove_installed {κ : Type} {s : Provider.Seat κ} {handle : Nat} {p : Nat × κ} :
    (s.remove handle).2.installed = some p ↔ s.installed = some p ∧ p.1 ≠ handle := by
  unfold Provider.Seat.remove
  split
  · next n callback hi =>
    split
    · next hn =>
      constructor
      · intro hp; cases hp
      · rintro ⟨hp, hne⟩
        rw [hi] at hp
        cases hp
        exact absurd hn hne
    · next hn =>
      rw [hi]
      constructor
      · intro hp; cases hp; exact ⟨rfl, hn⟩
      · exact fun hp => hp.1
  · next hi => simp [hi]

theorem leave_issued {κ : Type} (l : Lifecycle) (s : Provider.Seat κ) : (l.leave s).issued = s.issued := by
  cases l with
  | registered handle => exact remove_issued s handle
  | _ => rfl

theorem leave_installed {κ : Type} {l : Lifecycle} {s : Provider.Seat κ} {p : Nat × κ} :
    (l.leave s).installed = some p ↔ s.installed = some p ∧ l ≠ .registered p.1 := by
  cases l with
  | registered handle =>
    refine remove_installed.trans (and_congr_right fun _ => ?_)
    simp [eq_comm]
  | _ => simp [Lifecycle.leave]

/-! ## Every operation keeps it -/

theorem Sound.deliver (hs : h.Sound c) (callback : Sink.Callback) : (h.deliver callback).2.Sound c := by
  rw [deliver_called hs.sink]
  cases callback with
  | idle => exact hs
  | exporter id =>
    simp only [called]
    split
    · next he =>
      split
      · exact hs.put he fun _ hl => hl
      · exact hs
    · exact hs

theorem Sound.notified (hs : h.Sound c) {d : Sink.Controlled} (hd : d.seat = c.seat)
    (hsil : d.listening = false → d.keyword = 0) : ∃ d', (h.notified d).2.Sound d' := by
  unfold Host.notified
  split
  · exact ⟨d, hs.withSink (by rw [hd]) (fun _ hp => hd ▸ hp) hsil⟩
  · next p _ =>
    have hg : ({ h with sink := .controlled d.counted } : Host).Sound d.counted :=
      hs.withSink (by rw [Sink.Controlled.counted, hd]) (fun _ hp => hd ▸ hp) hsil
    exact ⟨d.counted, hg.deliver p.2⟩

theorem Sound.without (hs : h.Sound c) (id : Nat) : ∃ d, (h.without c id).Sound d := by
  refine ⟨_, hs.mono rfl rfl (fun _ _ hid => hid) ?_ ?_ ?_ hs.silent⟩
  · intro j e he
    have hf := exporter?_forget h id j
    change (h.forget id).exporter? j = some e at he
    rw [he] at hf
    split at hf
    · cases hf
    · exact ⟨e, hf.symm, fun _ hl => hl⟩
  · cases h.exporter? id with
    | none => rfl
    | some e => exact leave_issued ..
  · intro p hp
    cases he : h.exporter? id with
    | none => rw [he] at hp; exact hp
    | some e => rw [he] at hp; exact (leave_installed.1 hp).1

theorem Sound.withProvider (hs : h.Sound c) (callback : Sink.Callback) :
    ({ h with sink := .controlled (c.withProvider callback) } : Host).Sound (c.withProvider callback) := by
  refine ⟨rfl, hs.fresh, hs.bound, hs.named_once, ?_, ?_, hs.silent⟩
  · intro id e n he hl
    exact Nat.le_succ_of_le (hs.handles id e n he hl)
  · intro id e n callback he hl hi
    -- the new handle is above all that were given out before
    have hle := hs.handles id e n he hl
    have hn : c.seat.issued + 1 = n := congrArg Prod.fst (Option.some.inj hi)
    omega

theorem newcomer_lifecycle (c : Sink.Controlled) (setup : Setup) (profile : Profile) (registry : Registry) :
    (newcomer c setup profile registry).lifecycle = .registered (c.seat.issued + 1) := by
  unfold newcomer
  split <;> rfl

theorem exporter?_joined (h : Host) (c : Sink.Controlled) (setup : Setup) (profile : Profile)
    (registry : Registry) (id : Nat) : (h.joined c setup profile registry).exporter? id =
      if id = h.next then some (newcomer c setup profile registry) else h.exporter? id := by
  unfold exporter? joined
  rw [List.lookup_cons]
  by_cases hid : id = h.next
  · simp [hid]
  · rw [beq_eq_false_iff_ne.2 hid, if_neg hid]

theorem Sound.joined (hs : h.Sound c) (setup : Setup) (profile : Profile) (registry : Registry) :
    (h.joined c setup profile registry).Sound (c.withProvider (.exporter h.next)) := by
  have hp := hs.withProvider (.exporter h.next)
  refine ⟨rfl, ?_, ?_, hs.named_once, ?_, ?_, hs.silent⟩
  · intro id hle
    have hlt : h.next < id := hle
    rw [exporter?_joined, if_neg (by omega)]
    exact hs.fresh id (by omega)
  · intro name id hid
    exact Nat.lt_succ_of_lt (hs.bound name id hid)
  -- the newcomer has the handle just given out, and the others have older ones
  · intro id e n he hl
    rw [exporter?_joined] at he
    split at he
    · cases he
      rw [newcomer_lifecycle] at hl
      cases hl
      exact Nat.le_refl _
    · exact hp.handles id e n he hl
  · intro id e n callback he hl hi
    rw [exporter?_joined] at he
    split at he
    · next hid =>
      rw [hid]
      exact (congrArg Prod.snd (Option.some.inj hi)).symm
    · exact hp.owner id e n callback he hl hi

theorem Sound.joined_bind (hs : h.Sound c) (name : String) (setup : Setup) (profile : Profile)
    (registry : Registry) :
    ((h.joined c setup profile registry).bind name h.next).Sound (c.withProvider (.exporter h.next)) := by
  refine (hs.joined setup profile registry).bind (Nat.lt_succ_self h.next) (fun n hid => ?_) name
  exact Nat.lt_irrefl _ (hs.bound n h.next hid)

theorem Sound.welcomed (hs : h.Sound c) (name : String) (setup : Setup) (profile : Profile)
    (registry : Registry) : ∃ d, (h.welcomed c name setup profile registry).Sound d := by
  have hb := hs.joined_bind name setup profile registry
  unfold Host.welcomed
  cases h.id? name with
  | none => exact ⟨_, hb⟩
  | some old => exact hb.without old

theorem Sound.runCall (hs : h.Sound c) {id : Nat} {e : Exporter} (he : h.exporter? id = some e) (call : Call) :
    ∃ d, (h.runCall id e call).2.Sound d := by
  have hsend (r : Record) : ∃ d, ({ h with sink := e.send h.sink r } : Host).Sound d := by
    unfold Exporter.send
    rw [hs.sink]
    split
    · exact ⟨_, hs.withSink rfl (fun _ hp => hp) hs.silent⟩
    · exact ⟨c, hs.withSink rfl (fun _ hp => hp) hs.silent⟩
  cases call with
  | sync =>
    simp only [Host.runCall]
    split
    · rw [sync_eq, hs.sink]
      exact ⟨c, (hs.put (e := e.updated c.keyword) he fun _ hl => hl).withSink rfl (fun _ hp => hp) hs.silent⟩
    · exact ⟨c, hs⟩
  | notified => exact ⟨c, hs.deliver (.exporter id)⟩
  | group group => exact ⟨c, hs⟩
  | event phase flags name number args => exact hsend _
  | completeEnd name => exact hsend _
  | unregister =>
    rw [runCall_unregister hs.sink]
    split
    · next handle _ =>
      have hp := hs.put he (e := { e with lifecycle := .unregistered }) (fun _ hl => by cases hl)
      exact ⟨_, hp.withSink (remove_issued ..) (fun _ hi => (remove_installed.1 hi).1) hs.silent⟩
    · exact ⟨c, hs⟩
  | profile => exact ⟨c, hs⟩
  | registry query => exact ⟨c, hs.put he fun _ hl => hl⟩

theorem Sound.run (hs : h.Sound c) (op : Op) : ∃ d, (h.run op).2.Sound d := by
  have hf : h.exporter? h.next = none := hs.fresh h.next (Nat.le_refl _)
  cases op with
  | enable k =>
    rw [run_enable hs.sink]
    exact hs.notified rfl fun hl => by cases hl
  | disable =>
    rw [run_disable hs.sink]
    exact hs.notified rfl fun _ => rfl
  | sinkRegister =>
    rw [run_sinkRegister hs.sink]
    split
    · exact ⟨c, hs⟩
    · split
      · exact ⟨c, hs⟩
      · exact ⟨_, hs.withProvider .idle⟩
  | sinkUnregister handle =>
    rw [run_sinkUnregister hs.sink]
    exact ⟨_, hs.withSink (remove_issued ..) (fun _ hi => (remove_installed.1 hi).1) hs.silent⟩
  | write r =>
    rw [Host.run, hs.sink]
    exact ⟨_, hs.withSink rfl (fun _ hp => hp) hs.silent⟩
  | fire times => exact ⟨c, by rwa [run_of_isManual hs.sink rfl]⟩
  | failRegister on => exact ⟨c, by rwa [run_of_isManual hs.sink rfl]⟩
  | failUnregister on => exact ⟨c, by rwa [run_of_isManual hs.sink rfl]⟩
  | breakStream on =>
    simp only [Host.run, hs.sink, Sink.breakStream?]
    cases c.outlet with
    | memory records => exact ⟨c, hs⟩
    | stream s => exact ⟨_, hs.withSink rfl (fun _ hp => hp) hs.silent⟩
  | flush =>
    simp only [Host.run]
    split <;> exact ⟨c, hs⟩
  | register name setup profile =>
    rw [run_register hs.sink hf]
    split
    · exact ⟨c, hs⟩
    · exact ⟨c, hs⟩
    · exact hs.welcomed name setup profile _
  | drop name =>
    rw [run_drop hs.sink]
    split
    · exact ⟨c, hs⟩
    · exact (hs.unbind name).without _
  | call name call =>
    simp only [Host.run]
    split
    · exact ⟨c, hs⟩
    · split
      · exact ⟨c, hs⟩
      · next he => exact hs.runCall he call

end Host

end TraceExport
