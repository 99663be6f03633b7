/-
What exporters read from their sinks. An update of an exporter reads the keyword of the sink once, and
nothing else does; in between exporters come and go, and those that stay keep their registries. A sink
that counts how often it is read sees just these readings, and each is of an exporter that is
registered.
-/
import TraceExport.Proofs.Exporter.Admission
import TraceExport.Proofs.Exporter.Follow

namespace TraceExport

namespace Sink

/-- How often the keyword was read of a sink that counts that. -/
def reads? : Sink → Option Nat
  | .manual m => some m.reads
  | .controlled _ => none

theorem reads?_afterRead (s : Sink) : s.afterRead.reads? = s.reads?.map (· + 1) := by cases s <;> rfl

theorem keyword_afterRead (s : Sink) : s.afterRead.keyword = s.keyword := by cases s <;> rfl

theorem register_unread (s : Sink) (callback : Callback) :
    (s.register callback).sink.keyword = s.keyword ∧ (s.register callback).sink.reads? = s.reads? := by
  cases s with
  | manual m =>
    simp only [register]
    split <;> exact ⟨rfl, rfl⟩
  | controlled c =>
    cases hj : c.rejecting with
    | true => simp [register, hj]
    | false =>
      cases hi : c.seat.installed with
      | some p => simp [register, hj, Provider.Seat.install_of_taken hi, keyword, reads?]
      | none =>
        rw [Controlled.register_of_free hj hi]
        split <;> exact ⟨rfl, rfl⟩

theorem unregister_unread (s : Sink) (handle : Nat) :
    (s.unregister handle).sink.keyword = s.keyword ∧ (s.unregister handle).sink.reads? = s.reads? := by
  cases s <;> exact ⟨rfl, rfl⟩

theorem write_unread (s : Sink) (r : Record) : (s.write r).keyword = s.keyword ∧ (s.write r).reads? = s.reads? := by
  cases s <;> exact ⟨rfl, rfl⟩

theorem reads?_enable (s : Sink) (k : Keyword) : (s.enable k).sink.reads? = s.reads? := by cases s <;> rfl

theorem reads?_disable (s : Sink) : s.disable.sink.reads? = s.reads? := by cases s <;> rfl

theorem reads?_fire {s : Sink} {times : Nat} {x : Exchange Bool} (hf : s.fire? times = some x) :
    x.sink.reads? = s.reads? := by
  cases s <;> cases hf
  rfl

end Sink

namespace Host

/-! ## Readings -/

/-- A keyword that an exporter read for an update, and how the update ended. -/
structure Reading where
  id : Nat
  keyword : Keyword
  answer : Except Panic Registry.Change

section

variable (h : Host)

/-- The reading of an exporter that is updated now. -/
def reading (id : Nat) (e : Exporter) : Reading := ⟨id, h.sink.keyword, (h.sync id e).1⟩

/-- The readings of a callback. -/
def deliverReadings : Sink.Callback → List Reading
  | .idle => []
  | .exporter id =>
    match h.exporter? id with
    | none => []
    | some e => if e.lifecycle.isRegistered then [h.reading id e] else []

/-- The readings of callbacks, up to the first that panics. -/
def deliverAllReadings (h : Host) : List Sink.Callback → List Reading
  | [] => []
  | call :: calls => h.deliverReadings call ++ match h.deliver call with
    | (.ok _, h) => h.deliverAllReadings calls
    | (.error _, _) => []

/-- The readings of an exchange with the sink. -/
def settleReadings {α : Type} (x : Sink.Exchange α) : List Reading :=
  { h with sink := x.sink }.deliverAllReadings x.calls

/-- The readings of a registration. -/
def registerReadings (setup : Setup) (profile : Profile) : List Reading :=
  match profile.check with
  | .error _ => []
  | .ok _ =>
    match Registry.ofNames profile.filtered with
    | .error _ => []
    | .ok registry =>
      let started := h.applying setup profile registry
      let x := h.sink.register (.exporter h.next)
      started.settleReadings x ++ match started.settle x with
        | (.ok (.ok handle), g) =>
          match setup with
          | .syncing =>
            let e : Exporter := { profile, registry, lifecycle := .registered handle }
            [{ g.put h.next e with next := h.next + 1 }.reading h.next e]
          | _ => []
        | _ => []

/-- The readings of an unregistration. -/
def unregisterReadings (id : Nat) (e : Exporter) : List Reading :=
  match e.lifecycle with
  | .registered handle => (h.put id { e with lifecycle := .unregistering }).settleReadings (h.sink.unregister handle)
  | _ => []

/-- The readings on the way of an exporter that is let go. -/
def disposeReadings (id : Nat) : List Reading :=
  match h.exporter? id with
  | none => []
  | some e =>
    match e.lifecycle with
    | .registered handle => (h.forget id).settleReadings (h.sink.unregister handle)
    | _ => []

/-- The readings of what an exporter is asked to do. -/
def callReadings (id : Nat) (e : Exporter) : Call → List Reading
  | .sync => if e.lifecycle.isRegistered then [h.reading id e] else []
  | .notified => h.deliverReadings (.exporter id)
  | .unregister => h.unregisterReadings id e
  | _ => []

/-- The readings when a name is bound, on the way of the exporter that had it. -/
def bindReadings (name : String) (id : Nat) : List Reading :=
  match h.id? name with
  | none => []
  | some old => (h.bind name id).disposeReadings old

/-- The readings of a registration under a name. -/
def registerAsReadings (name : String) (setup : Setup) (profile : Profile) : List Reading :=
  h.registerReadings setup profile ++ match h.register setup profile with
    | (.ok (.ok id), g) => g.bindReadings name id
    | _ => []

/-- The readings of an operation. -/
def readings : Op → List Reading
  | .enable k => h.settleReadings (h.sink.enable k)
  | .disable => h.settleReadings h.sink.disable
  | .sinkRegister => h.settleReadings (h.sink.register .idle)
  | .sinkUnregister handle => h.settleReadings (h.sink.unregister handle)
  | .fire times =>
    match h.sink.fire? times with
    | some x => h.settleReadings x
    | none => []
  | .register name setup profile => h.registerAsReadings name setup profile
  | .drop name =>
    match h.id? name with
    | none => []
    | some id => (h.unbind name).disposeReadings id
  | .call name call =>
    match h.id? name with
    | none => []
    | some id =>
      match h.exporter? id with
      | none => []
      | some e => h.callReadings id e call
  | _ => []

/-- The readings of a script. -/
def scriptReadings (h : Host) : List Op → List Reading
  | [] => []
  | op :: ops => h.readings op ++ (h.run op).2.scriptReadings ops

end

/-! ## Readings of one exporter -/

/-- The readings of one exporter. -/
def own (id : Nat) (log : List Reading) : List Reading := log.filter (·.id = id)

theorem own_append (id : Nat) (log more : List Reading) : own id (log ++ more) = own id log ++ own id more :=
  List.filter_append ..

theorem own_single {id : Nat} {r : Reading} (hr : r.id = id) : own id [r] = [r] := by
  simp [own, hr]

theorem own_single_of_ne {id : Nat} {r : Reading} (hr : r.id ≠ id) : own id [r] = [] := by
  simp [own, hr]

/-! ## What goes on between readings -/

/-- What an exporter keeps as long as it reads nothing. It is not registered anew either. -/
structure Kept (e f : Exporter) : Prop where
  observer : f.observer = e.observer
  registry : f.registry = e.registry
  noted : f.noted = e.noted
  registered : f.lifecycle.isRegistered = true → e.lifecycle.isRegistered = true

theorem Kept.refl (e : Exporter) : Kept e e := ⟨rfl, rfl, rfl, id⟩

/-- What goes on in a host without a reading. Exporters may come in. -/
structure Silent (h g : Host) : Prop where
  next : h.next ≤ g.next
  keyword : g.sink.keyword = h.sink.keyword
  reads : g.sink.reads? = h.sink.reads?
  kept : ∀ id f, id < h.next → g.exporter? id = some f → ∃ e, h.exporter? id = some e ∧ Kept e f

variable {α : Type} {id j : Nat} {log : List Reading} {h g : Host} {e f : Exporter}

/-- Exporters that were there are left alone. -/
theorem silent_of_exporters (hn : h.next ≤ g.next) (hk : g.sink.keyword = h.sink.keyword)
    (hr : g.sink.reads? = h.sink.reads?)
    (hx : ∀ id f, id < h.next → g.exporter? id = some f → h.exporter? id = some f) : Silent h g :=
  ⟨hn, hk, hr, fun id f hid hf => ⟨f, hx id f hid hf, .refl f⟩⟩

theorem Silent.refl (h : Host) : Silent h h :=
  silent_of_exporters (Nat.le_refl _) rfl rfl fun _ _ _ hf => hf

theorem silent_sink {s : Sink} (hk : s.keyword = h.sink.keyword) (hr : s.reads? = h.sink.reads?) :
    Silent h { h with sink := s } :=
  silent_of_exporters (Nat.le_refl _) hk hr fun _ _ _ hf => hf

theorem silent_names (h : Host) (names : List (String × Nat)) : Silent h { h with names } :=
  silent_of_exporters (Nat.le_refl _) rfl rfl fun _ _ _ hf => hf

theorem silent_put (he : h.exporter? j = some e) (hf : Kept e f) : Silent h (h.put j f) := by
  refine ⟨Nat.le_refl _, rfl, rfl, fun id f' _ hf' => ?_⟩
  rw [exporter?_put] at hf'
  split at hf'
  · next hid =>
    rw [he, Option.map_some, Option.some.injEq] at hf'
    exact ⟨e, hid ▸ he, hf' ▸ hf⟩
  · exact ⟨f', hf', .refl f'⟩

theorem silent_move (h : Host) (j : Nat) {l : Lifecycle} (hl : l.isRegistered = false) : Silent h (h.move j l) := by
  unfold Host.move
  split
  · next e he => exact silent_put he ⟨rfl, rfl, rfl, fun hr => by rw [hl] at hr; cases hr⟩
  · exact .refl h

theorem silent_forget (h : Host) (j : Nat) : Silent h (h.forget j) := by
  refine silent_of_exporters (Nat.le_refl _) rfl rfl fun id f _ hf => ?_
  rw [exporter?_forget] at hf
  split at hf
  · cases hf
  · exact hf

/-- What goes on in a host with these readings, each by an exporter that is registered. -/
inductive Traced : Host → List Reading → Host → Prop
  | silent {h g : Host} (hs : Silent h g) : Traced h [] g
  | read {h : Host} {id : Nat} {e : Exporter} (he : h.exporter? id = some e) (hr : e.lifecycle.isRegistered = true) :
    Traced h [h.reading id e] (h.sync id e).2
  | trans {h g k : Host} {log more : List Reading} (first : Traced h log g) (then_ : Traced g more k) :
    Traced h (log ++ more) k

theorem Traced.refl (h : Host) : Traced h [] h := .silent (.refl h)

theorem Traced.of_silent {k : Host} (hs : Silent h g) (ht : Traced g log k) : Traced h log k := .trans (.silent hs) ht

theorem Traced.then_silent {k : Host} (ht : Traced h log g) (hs : Silent g k) : Traced h log k :=
  log.append_nil ▸ .trans ht (.silent hs)

/-! ## What goes on in an operation -/

theorem deliver_traced (h : Host) (call : Sink.Callback) : Traced h (h.deliverReadings call) (h.deliver call).2 := by
  cases call with
  | idle => exact .refl h
  | exporter id =>
    cases he : h.exporter? id with
    | none =>
      simp only [deliver, deliverReadings, he]
      exact .refl h
    | some e =>
      simp only [deliver, deliverReadings, he]
      split
      · next hr =>
        have ht : Traced h [h.reading id e] (h.sync id e).2 := .read he hr
        generalize h.sync id e = y at ht
        obtain ⟨p | change, g⟩ := y <;> exact ht
      · exact .refl h

theorem deliverAll_traced (h : Host) (calls : List Sink.Callback) :
    Traced h (h.deliverAllReadings calls) (h.deliverAll calls).2 := by
  induction calls generalizing h with
  | nil => exact .refl h
  | cons call calls ih =>
    have ht := deliver_traced h call
    simp only [deliverAll, deliverAllReadings]
    generalize h.deliver call = y at ht ⊢
    obtain ⟨p | u, g⟩ := y
    · exact .trans ht (.refl g)
    · exact .trans ht (ih g)

theorem settle_traced (h : Host) (x : Sink.Exchange α) :
    Traced { h with sink := x.sink } (h.settleReadings x) (h.settle x).2 := by
  have ht := deliverAll_traced { h with sink := x.sink } x.calls
  unfold settle settleReadings
  generalize { h with sink := x.sink }.deliverAll x.calls = y at ht ⊢
  obtain ⟨p | u, g⟩ := y <;> exact ht

theorem Deaf.deliverReadings {call : Sink.Callback} (hd : h.Deaf call) : h.deliverReadings call = [] := by
  cases call with
  | idle => rfl
  | exporter id =>
    simp only [Host.deliverReadings]
    split
    · rfl
    · next e he => rw [hd id e rfl he]; rfl

theorem deliverAllReadings_of_deaf {calls : List Sink.Callback} (hd : ∀ call ∈ calls, h.Deaf call) :
    h.deliverAllReadings calls = [] := by
  induction calls with
  | nil => rfl
  | cons call calls ih =>
    rw [List.forall_mem_cons] at hd
    simp only [deliverAllReadings, hd.1.deliverReadings, hd.1.deliver, List.nil_append]
    exact ih hd.2

theorem settleReadings_of_deaf {x : Sink.Exchange α} (hd : ∀ call ∈ x.calls, h.Deaf call) : h.settleReadings x = [] :=
  deliverAllReadings_of_deaf (h := { h with sink := x.sink }) hd

/-- An exchange in which a provider is unregistered. -/
theorem settle_unregister_traced (h : Host) (handle : Nat) :
    Traced h (h.settleReadings (h.sink.unregister handle)) (h.settle (h.sink.unregister handle)).2 :=
  have hu := h.sink.unregister_unread handle
  .of_silent (silent_sink hu.1 hu.2) (settle_traced h _)

theorem register_traced (h : Host) (setup : Setup) (profile : Profile) :
    Traced h (h.registerReadings setup profile) (h.register setup profile).2 := by
  unfold Host.register registerReadings
  cases profile.check with
  | error f => exact .refl h
  | ok u =>
  cases Registry.ofNames profile.filtered with
  | error p => exact .refl h
  | ok registry =>
  have hdeaf := h.deaf_applying setup profile registry
  have hs := settle_of_deaf hdeaf
  have hr := settleReadings_of_deaf hdeaf
  obtain ⟨hkeyword, hreads⟩ := h.sink.register_unread (.exporter h.next)
  simp only [applying] at hs hr
  simp only [applying, hs, hr, List.nil_append]
  generalize h.sink.register (.exporter h.next) = x at hkeyword hreads
  obtain ⟨s, calls, reply⟩ := x
  let e : Exporter := { profile, registry, lifecycle := .registering, observer := setup.observer? }
  let g : Host := { h with sink := s, exporters := (h.next, e) :: h.exporters }
  -- whoever was there before is there still
  have hold (id : Nat) (hid : id < h.next) : g.exporter? id = h.exporter? id := by
    unfold exporter?
    rw [List.lookup_cons, beq_eq_false_iff_ne.2 (Nat.ne_of_lt hid)]
  have hsilent (f : Exporter) : Silent h { g.put h.next f with next := h.next + 1 } := by
    refine silent_of_exporters (Nat.le_succ _) hkeyword hreads fun id f' hid hf => ?_
    change (g.put h.next f).exporter? id = some f' at hf
    rwa [exporter?_put, if_neg (Nat.ne_of_lt hid), hold id hid] at hf
  cases reply with
  | error f =>
    refine .silent (silent_of_exporters (Nat.le_refl _) hkeyword hreads fun id f' hid hf => ?_)
    change (g.forget h.next).exporter? id = some f' at hf
    rwa [exporter?_forget, if_neg (Nat.ne_of_lt hid), hold id hid] at hf
  | ok handle =>
    cases setup with
    | plain => exact .silent (hsilent _)
    | observed o => exact .silent (hsilent _)
    | syncing =>
      let f : Exporter := { profile, registry, lifecycle := .registered handle }
      let k : Host := { g.put h.next f with next := h.next + 1 }
      have hf : k.exporter? h.next = some f := by
        show (g.put h.next f).exporter? h.next = some f
        rw [exporter?_put, if_pos rfl]
        simp [g, exporter?]
      have ht : Traced h [k.reading h.next f] (k.sync h.next f).2 := .of_silent (hsilent f) (.read hf rfl)
      dsimp only [k, g, f, e, Setup.observer?] at ht ⊢
      generalize sync _ h.next _ = y at ht ⊢
      obtain ⟨p | change, g'⟩ := y <;> exact ht

theorem unregister_traced (he : h.exporter? id = some e) :
    Traced h (h.unregisterReadings id e) (h.unregister id e).2 := by
  unfold unregisterReadings Host.unregister
  cases hl : e.lifecycle with
  | registered handle =>
    have hput : Silent h (h.put id { e with lifecycle := .unregistering }) :=
      silent_put he ⟨rfl, rfl, rfl, fun hr => by cases hr⟩
    have ht := Traced.of_silent hput (settle_unregister_traced _ handle)
    simp only [put_sink] at ht ⊢
    generalize (h.put id { e with lifecycle := .unregistering }).settle (h.sink.unregister handle) = y at ht ⊢
    obtain ⟨p | reply, g⟩ := y
    · exact ht
    · exact ht.then_silent (silent_move g id rfl)
  | _ => exact .refl h

theorem dispose_traced (h : Host) (id : Nat) : Traced h (h.disposeReadings id) (h.dispose id).2 := by
  unfold disposeReadings Host.dispose
  cases h.exporter? id with
  | none => exact .refl h
  | some e =>
    cases hl : e.lifecycle with
    | registered handle =>
      have ht := Traced.of_silent (silent_forget h id) (settle_unregister_traced (h.forget id) handle)
      simp only [hl, forget_sink] at ht ⊢
      generalize (h.forget id).settle (h.sink.unregister handle) = y at ht ⊢
      obtain ⟨p | reply, g⟩ := y <;> exact ht
    | _ =>
      simp only [hl]
      exact .silent (silent_forget h id)

theorem bind_traced {setup : Setup} {profile : Profile} (hr : h.register setup profile = (.ok (.ok id), g))
    (name : String) : Traced g (g.bindReadings name id) (h.registerAs name setup profile).2 := by
  have hbind : Silent g (g.bind name id) := silent_names g _
  unfold bindReadings registerAs
  simp only [hr]
  cases g.id? name with
  | none => exact .silent hbind
  | some old => exact .of_silent hbind (dispose_traced _ old)

theorem registerAs_traced (h : Host) (name : String) (setup : Setup) (profile : Profile) :
    Traced h (h.registerAsReadings name setup profile) (h.registerAs name setup profile).2 := by
  have ht := register_traced h setup profile
  unfold registerAsReadings
  cases hr : h.register setup profile with
  | mk answer g =>
    rw [hr] at ht
    refine .trans ht ?_
    rcases answer with p | f | id
    · simp only [registerAs, hr]
      exact .refl g
    · simp only [registerAs, hr]
      exact .refl g
    · exact bind_traced hr name

/-- What an exporter is asked to do, but for applying a keyword directly. -/
theorem runCall_traced (he : h.exporter? id = some e) {call : Call} (ha : ∀ k, call ≠ .registry (.apply k)) :
    Traced h (h.callReadings id e call) (h.runCall id e call).2 := by
  have hsend (r : Record) : Traced h [] { h with sink := e.send h.sink r } := by
    unfold Exporter.send
    split
    · have hw := h.sink.write_unread r
      exact .silent (silent_sink hw.1 hw.2)
    · exact .refl h
  cases call with
  | sync =>
    simp only [callReadings, runCall]
    split
    · next hr => exact .read he hr
    · exact .refl h
  | notified => exact deliver_traced h (.exporter id)
  | group group => exact .refl h
  | event phase flags name number args => exact hsend _
  | completeEnd name => exact hsend _
  | unregister => exact unregister_traced he
  | profile => exact .refl h
  | registry query =>
    refine .silent (silent_put he ⟨rfl, Registry.ask_snd _ fun k hk => ha k (by rw [hk]), rfl, fun hr => hr⟩)

/-- What goes on in an operation by its readings. A session that starts or ends changes the keyword
first. -/
def RunsBy (h : Host) (log : List Reading) (g : Host) : Prop :=
  ∃ s : Sink, s.reads? = h.sink.reads? ∧ Traced { h with sink := s } log g

theorem Traced.runsBy (ht : Traced h log g) : RunsBy h log g := ⟨h.sink, rfl, ht⟩

theorem exchange_runsBy (h : Host) (reply : α → Reply) {x : Sink.Exchange α} (hr : x.sink.reads? = h.sink.reads?) :
    RunsBy h (h.settleReadings x) (h.exchange reply x).2 :=
  ⟨x.sink, hr, settle_traced h x⟩

theorem adjust_traced {s : Option Sink}
    (hs : ∀ s', s = some s' → s'.keyword = h.sink.keyword ∧ s'.reads? = h.sink.reads?) : Traced h [] (h.adjust s).2 := by
  cases s with
  | none => exact .refl h
  | some s => exact .silent (silent_sink (hs s rfl).1 (hs s rfl).2)

/-- What an operation does, it does by its readings, or it applies a keyword directly to one exporter and
reads nothing. -/
theorem run_reads (h : Host) (op : Op) : RunsBy h (h.readings op) (h.run op).2 ∨
    ∃ name k id f, op = .call name (.registry (.apply k)) ∧ h.id? name = some id ∧ h.readings op = [] ∧
      (h.run op).2 = h.put id f := by
  cases op with
  | enable k => exact .inl (exchange_runsBy h _ (h.sink.reads?_enable k))
  | disable => exact .inl (exchange_runsBy h _ h.sink.reads?_disable)
  | sinkRegister => exact .inl (exchange_runsBy h _ (h.sink.register_unread .idle).2)
  | sinkUnregister handle => exact .inl (exchange_runsBy h _ (h.sink.unregister_unread handle).2)
  | write r =>
    have hw := h.sink.write_unread r
    exact .inl (Traced.silent (silent_sink hw.1 hw.2)).runsBy
  | fire times =>
    simp only [readings, run]
    cases hf : h.sink.fire? times with
    | none => exact .inl (Traced.refl h).runsBy
    | some x => exact .inl (exchange_runsBy h _ (Sink.reads?_fire hf))
  | failRegister on =>
    refine .inl (adjust_traced fun s hf => ?_).runsBy
    cases hs : h.sink <;> rw [hs] at hf <;> cases hf
    exact ⟨rfl, rfl⟩
  | failUnregister on =>
    refine .inl (adjust_traced fun s hf => ?_).runsBy
    cases hs : h.sink <;> rw [hs] at hf <;> cases hf
    exact ⟨rfl, rfl⟩
  | breakStream on =>
    refine .inl (adjust_traced fun s hf => ?_).runsBy
    cases hs : h.sink with
    | manual m => rw [hs] at hf; cases hf
    | controlled c =>
      rw [hs] at hf
      simp only [Sink.breakStream?] at hf
      split at hf <;> cases hf
      exact ⟨rfl, rfl⟩
  | flush =>
    simp only [run]
    split <;> exact .inl (Traced.refl h).runsBy
  | register name setup profile => exact .inl (registerAs_traced h name setup profile).runsBy
  | drop name =>
    simp only [readings, run]
    cases h.id? name with
    | none => exact .inl (Traced.refl h).runsBy
    | some id =>
      have hunbind : Silent h (h.unbind name) := silent_names h _
      exact .inl (Traced.of_silent hunbind (dispose_traced _ id)).runsBy
  | call name call =>
    simp only [readings, run]
    cases hid : h.id? name with
    | none => exact .inl (Traced.refl h).runsBy
    | some id =>
      cases he : h.exporter? id with
      | none =>
        simp only [he]
        exact .inl (Traced.refl h).runsBy
      | some e =>
        simp only [he]
        by_cases ha : ∃ k, call = .registry (.apply k)
        · obtain ⟨k, rfl⟩ := ha
          exact .inr ⟨name, k, id, _, rfl, hid, rfl, rfl⟩
        · exact .inl (runCall_traced he fun k hk => ha ⟨k, hk⟩).runsBy

/-! ## Who reads, and how often -/

/-- Whether an exporter is alive and registered. -/
def HasRegistered (h : Host) (id : Nat) : Prop := ∃ e, h.exporter? id = some e ∧ e.lifecycle.isRegistered = true

/-- What readings show of the sink and of the exporters. -/
structure Metered (h : Host) (log : List Reading) (g : Host) : Prop where
  next : h.next ≤ g.next
  keyword : g.sink.keyword = h.sink.keyword
  reads : g.sink.reads? = h.sink.reads?.map (· + log.length)
  each : ∀ r ∈ log, r.keyword = h.sink.keyword
  registered : ∀ r ∈ log, r.id < h.next → h.HasRegistered r.id
  old : ∀ id, id < h.next → g.HasRegistered id → h.HasRegistered id

theorem Traced.metered (ht : Traced h log g) : Metered h log g := by
  induction ht with
  | @silent h g hs =>
    refine ⟨hs.next, hs.keyword, ?_, by simp, by simp, fun id hid hg => ?_⟩
    · rw [hs.reads]
      cases h.sink.reads? <;> rfl
    · obtain ⟨f, hf, hr⟩ := hg
      obtain ⟨e, he, hkept⟩ := hs.kept id f hid hf
      exact ⟨e, he, hkept.registered hr⟩
  | @read h id e he hr =>
    rw [sync_eq]
    refine ⟨Nat.le_refl _, h.sink.keyword_afterRead, h.sink.reads?_afterRead, fun r hm => ?_, fun r hm _ => ?_,
      fun j _ hg => ?_⟩
    · rw [List.mem_singleton.1 hm]
      rfl
    · rw [List.mem_singleton.1 hm]
      exact ⟨e, he, hr⟩
    · obtain ⟨f, hf, hf'⟩ := hg
      change (h.put id _).exporter? j = some f at hf
      rw [exporter?_put] at hf
      split at hf
      · next hj => exact ⟨e, hj ▸ he, hr⟩
      · exact ⟨f, hf, hf'⟩
  | @trans h g k log more _ _ hh hg =>
    refine ⟨Nat.le_trans hh.next hg.next, hg.keyword.trans hh.keyword, ?_, fun r hm => ?_, fun r hm hid => ?_,
      fun id hid hk => hh.old id hid (hg.old id (Nat.lt_of_lt_of_le hid hh.next) hk)⟩
    · rw [hg.reads, hh.reads, Option.map_map, List.length_append]
      refine congrArg (Option.map · _) (funext fun n => ?_)
      exact Nat.add_assoc ..
    · rcases List.mem_append.1 hm with hm | hm
      · exact hh.each r hm
      · exact (hg.each r hm).trans hh.keyword
    · rcases List.mem_append.1 hm with hm | hm
      · exact hh.registered r hm hid
      · exact hh.old _ hid (hg.registered r hm (Nat.lt_of_lt_of_le hid hh.next))

/-- An exporter that is not registered reads nothing. -/
theorem Traced.own_of_not_registered (ht : Traced h log g) (hid : id < h.next) (hn : ¬ h.HasRegistered id) :
    own id log = [] := by
  refine List.filter_eq_nil_iff.2 fun r hm => ?_
  rw [decide_eq_true_eq]
  rintro rfl
  exact hn (ht.metered.registered r hm hid)

/-- What an exporter reads for what it is asked to do. -/
theorem own_callReadings (he : h.exporter? id = some e) (hid : id < h.next) (call : Call) :
    own id (h.callReadings id e call) = if call.catchesUp && e.lifecycle.isRegistered then [h.reading id e] else [] := by
  have hown : own id [h.reading id e] = [h.reading id e] := own_single rfl
  cases call with
  | sync =>
    simp only [callReadings, Call.catchesUp, Bool.true_and]
    split
    · exact hown
    · rfl
  | notified =>
    simp only [callReadings, deliverReadings, he, Call.catchesUp, Bool.true_and]
    split
    · exact hown
    · rfl
  | unregister =>
    simp only [callReadings, unregisterReadings, Call.catchesUp]
    cases e.lifecycle with
    | registered handle =>
      have ht := settle_unregister_traced (h.put id { e with lifecycle := .unregistering }) handle
      refine ht.own_of_not_registered hid fun ⟨f, hf, hr⟩ => ?_
      rw [exporter?_put, if_pos rfl, he, Option.map_some] at hf
      cases hf
      cases hr
    | _ => rfl
  | _ => rfl

theorem own_disposeReadings (hid : id < h.next) : own id (h.disposeReadings id) = [] := by
  unfold disposeReadings
  split
  · rfl
  split
  · refine (settle_unregister_traced (h.forget id) _).own_of_not_registered hid fun ⟨f, hf, _⟩ => ?_
    rw [exporter?_forget, if_pos rfl] at hf
    cases hf
  · rfl

/-- The sink sees the readings of an operation: it is read as often, each time with the keyword that it
has then. An exporter that was there before is registered when it reads. -/
theorem run_metered (h : Host) (op : Op) :
    (h.run op).2.sink.reads? = h.sink.reads?.map (· + (h.readings op).length) ∧
      ∀ r ∈ h.readings op, r.keyword = (h.run op).2.sink.keyword ∧ (r.id < h.next → h.HasRegistered r.id) := by
  rcases h.run_reads op with ⟨s, hs, ht⟩ | ⟨name, k, id, f, -, -, hnone, hrun⟩
  · have hm := ht.metered
    exact ⟨hm.reads.trans (by rw [hs]), fun r hr => ⟨(hm.each r hr).trans hm.keyword.symm, hm.registered r hr⟩⟩
  · rw [hnone, hrun, put_sink]
    refine ⟨?_, by simp⟩
    cases h.sink.reads? <;> rfl

end Host

end TraceExport
