/-
Where exporters stand between operations, over a sink of any kind. Callbacks move no exporter in its
lifecycle, so an operation brings in at most one exporter, which is registered when it is over, and
takes at most one off the sink. One that is taken off by its own request ends unregistered, unless
the sink runs the callback of another exporter on the way whose observer panics: then nothing is
left that would move it on, and it is unregistering from then on.
-/
import TraceExport.Proofs.Exporter.Run

namespace TraceExport

/-- Whether a sink is worked by hand. -/
def Sink.isManual : Sink → Bool
  | .manual _ => true
  | .controlled _ => false

namespace Host

variable {h g : Host} {id : Nat} {e : Exporter}

/-- Where an exporter stands, if it is alive. -/
def lifecycle? (h : Host) (id : Nat) : Option Lifecycle := (h.exporter? id).map (·.lifecycle)

theorem lifecycle?_put (h : Host) (id j : Nat) (e : Exporter) :
    (h.put id e).lifecycle? j = if j = id then (h.lifecycle? id).map fun _ => e.lifecycle else h.lifecycle? j := by
  unfold lifecycle?
  rw [exporter?_put]
  split
  · rw [Option.map_map, Option.map_map]
    rfl
  · rfl

theorem lifecycle?_forget (h : Host) (id j : Nat) :
    (h.forget id).lifecycle? j = if j = id then none else h.lifecycle? j := by
  unfold lifecycle?
  rw [exporter?_forget]
  split <;> rfl

theorem lifecycle?_move (h : Host) (id j : Nat) (l : Lifecycle) :
    (h.move id l).lifecycle? j = if j = id then (h.lifecycle? id).map fun _ => l else h.lifecycle? j := by
  unfold move
  split
  · exact lifecycle?_put ..
  · next hn =>
    have hl : h.lifecycle? id = none := by rw [lifecycle?, hn]; rfl
    by_cases hj : j = id
    · rw [hj, if_pos rfl, hl]
      rfl
    · rw [if_neg hj]

/-- An exporter that is changed in other things stands where it stood. -/
theorem lifecycle?_put_of_eq {e' : Exporter} (he : h.exporter? id = some e) (hl : e'.lifecycle = e.lifecycle) (j : Nat) :
    (h.put id e').lifecycle? j = h.lifecycle? j := by
  rw [lifecycle?_put]
  split
  · next hj => rw [hj, lifecycle?, he, hl]; rfl
  · rfl

/-! ## Callbacks -/

/-- What callbacks leave as it is. -/
structure Calm (h g : Host) : Prop where
  kind : g.sink.isManual = h.sink.isManual
  names : g.names = h.names
  next : g.next = h.next
  stands : ∀ id, g.lifecycle? id = h.lifecycle? id

theorem Calm.refl (h : Host) : Calm h h := ⟨rfl, rfl, rfl, fun _ => rfl⟩

theorem Calm.trans {k : Host} (hg : Calm h g) (hk : Calm g k) : Calm h k :=
  ⟨hk.kind.trans hg.kind, hk.names.trans hg.names, hk.next.trans hg.next, fun id => (hk.stands id).trans (hg.stands id)⟩

theorem calm_sink {s : Sink} (hs : s.isManual = h.sink.isManual) : Calm h { h with sink := s } :=
  ⟨hs, rfl, rfl, fun _ => rfl⟩

theorem isManual_afterRead (s : Sink) : s.afterRead.isManual = s.isManual := by cases s <;> rfl

theorem isManual_write (s : Sink) (r : Record) : (s.write r).isManual = s.isManual := by cases s <;> rfl

theorem isManual_notify (c : Sink.Controlled) : c.notify.sink.isManual = false := by
  cases hi : c.seat.installed with
  | none => rw [Sink.Controlled.notify_of_free hi]; rfl
  | some p => rw [Sink.Controlled.notify_of_taken hi]; rfl

theorem isManual_register (s : Sink) (callback : Sink.Callback) : (s.register callback).sink.isManual = s.isManual := by
  cases s with
  | controlled c =>
    simp only [Sink.register]
    split
    · rfl
    split
    · rfl
    split
    · exact isManual_notify _
    · rfl
  | manual m =>
    simp only [Sink.register]
    split <;> rfl

theorem isManual_unregister (s : Sink) (handle : Nat) : (s.unregister handle).sink.isManual = s.isManual := by
  cases s <;> rfl

theorem sync_calm (he : h.exporter? id = some e) : Calm h (h.sync id e).2 := by
  rw [sync_eq]
  exact ⟨isManual_afterRead _, rfl, rfl, lifecycle?_put_of_eq he rfl⟩

/-- Only an observer makes an update panic. -/
theorem sync_panic {p : Panic} (hp : (h.sync id e).1 = .error p) : p = .observer := by
  rw [sync_eq] at hp
  dsimp only [Exporter.outcome] at hp
  split at hp <;> cases hp
  rfl

theorem deliver_calm (h : Host) (callback : Sink.Callback) : Calm h (h.deliver callback).2 ∧
    ∀ p, (h.deliver callback).1 = .error p → p = .observer := by
  have hidle : Calm h h ∧ ∀ p, (.ok () : Except Panic Unit) = .error p → p = .observer :=
    ⟨Calm.refl h, fun _ hp => by cases hp⟩
  cases callback with
  | idle => exact hidle
  | exporter id =>
    simp only [deliver]
    split
    · exact hidle
    next e he =>
    split
    · have hc := sync_calm he
      have hp : ∀ p, (h.sync id e).1 = .error p → p = .observer := fun _ => sync_panic
      generalize h.sync id e = x at hc hp
      obtain ⟨r | r, g⟩ := x
      · exact ⟨hc, fun p he => hp p (by cases he; rfl)⟩
      · exact ⟨hc, fun _ he => by cases he⟩
    · exact hidle

theorem deliverAll_calm (h : Host) (calls : List Sink.Callback) : Calm h (h.deliverAll calls).2 ∧
    ∀ p, (h.deliverAll calls).1 = .error p → p = .observer := by
  induction calls generalizing h with
  | nil => exact ⟨Calm.refl h, fun _ hp => by cases hp⟩
  | cons c calls ih =>
    obtain ⟨hc, hp⟩ := deliver_calm h c
    simp only [deliverAll]
    generalize h.deliver c = x at hc hp
    obtain ⟨p | r, g⟩ := x
    · exact ⟨hc, fun q hq => hp q (by cases hq; rfl)⟩
    · exact ⟨hc.trans (ih g).1, (ih g).2⟩

theorem settle_calm {α : Type} (h : Host) {x : Sink.Exchange α} (hx : x.sink.isManual = h.sink.isManual) :
    Calm h (h.settle x).2 ∧ ∀ p, (h.settle x).1 = .error p → p = .observer := by
  obtain ⟨hc, hp⟩ := deliverAll_calm { h with sink := x.sink } x.calls
  have hc := (calm_sink hx).trans hc
  unfold settle
  generalize { h with sink := x.sink }.deliverAll x.calls = y at hc hp
  obtain ⟨p | r, g⟩ := y
  · exact ⟨hc, fun q hq => hp q (by cases hq; rfl)⟩
  · exact ⟨hc, fun _ hq => by cases hq⟩

/-! ## Coming and going -/

/-- What a registration may do: one exporter is new, and registered, or nothing is. -/
structure Entered (h g : Host) : Prop where
  kind : g.sink.isManual = h.sink.isManual
  names : g.names = h.names
  next : h.next ≤ g.next
  others : ∀ id, id ≠ h.next → g.lifecycle? id = h.lifecycle? id
  newcomer : g.lifecycle? h.next = h.lifecycle? h.next ∨ g.lifecycle? h.next = none ∨
    h.next < g.next ∧ ∃ handle, g.lifecycle? h.next = some (.registered handle)

theorem Calm.entered (hc : Calm h g) : Entered h g :=
  ⟨hc.kind, hc.names, Nat.le_of_eq hc.next.symm, fun id _ => hc.stands id, .inl (hc.stands _)⟩

theorem Entered.calm {k : Host} (he : Entered h g) (hc : Calm g k) : Entered h k := by
  refine ⟨hc.kind.trans he.kind, hc.names.trans he.names, hc.next ▸ he.next, fun id hid => ?_, ?_⟩
  · rw [hc.stands, he.others id hid]
  · rw [hc.stands, hc.next]
    exact he.newcomer

theorem register_entered (h : Host) (setup : Setup) (profile : Profile) :
    Entered h (h.register setup profile).2 ∧ ∀ id, (h.register setup profile).1 = .ok (.ok id) → id = h.next := by
  have hnone {r : Except Panic (Except Failure Nat)} (hr : ∀ id, r ≠ .ok (.ok id)) :
      Entered h (r, h).2 ∧ ∀ id, (r, h).1 = .ok (.ok id) → id = h.next :=
    ⟨(Calm.refl h).entered, fun id hid => absurd hid (hr id)⟩
  unfold register
  split
  · exact hnone (fun _ hr => by cases hr)
  split
  · exact hnone (fun _ hr => by cases hr)
  next registry _ =>
  let e : Exporter := { profile, registry, lifecycle := .registering, observer := setup.observer? }
  let started : Host := { h with exporters := (h.next, e) :: h.exporters }
  have hstarted (id : Nat) : started.exporter? id = if id = h.next then some e else h.exporter? id := by
    show List.lookup id ((h.next, e) :: h.exporters) = _
    rw [List.lookup_cons]
    by_cases hid : id = h.next
    · simp [hid]
    · simp [hid, beq_eq_false_iff_ne.2 hid]
      rfl
  have hothers (id : Nat) (hid : id ≠ h.next) : started.lifecycle? id = h.lifecycle? id := by
    rw [lifecycle?, hstarted, if_neg hid, lifecycle?]
  have hc := (settle_calm started (x := h.sink.register (.exporter h.next)) (isManual_register ..)).1
  dsimp only
  generalize started.settle (h.sink.register (.exporter h.next)) = y at hc
  obtain ⟨r, g⟩ := y
  -- an exporter that was not taken is let go, and leaves the others where they stood
  have hforget : Entered h (g.forget h.next) := by
    refine ⟨hc.kind, hc.names, Nat.le_of_eq hc.next.symm, fun id hid => ?_, .inr (.inl ?_)⟩
    · rw [lifecycle?_forget, if_neg hid, hc.stands, hothers id hid]
    · rw [lifecycle?_forget, if_pos rfl]
  rcases r with p | f | handle
  · exact ⟨hforget, fun _ hid => by cases hid⟩
  · exact ⟨hforget, fun _ hid => by cases hid⟩
  have hnew : Entered h { g.put h.next { e with lifecycle := .registered handle } with next := h.next + 1 } := by
    refine ⟨hc.kind, hc.names, Nat.le_succ _, fun id hid => ?_, .inr (.inr ⟨Nat.lt_succ_self _, handle, ?_⟩)⟩
    · show (g.put h.next _).lifecycle? id = _
      rw [lifecycle?_put, if_neg hid, hc.stands, hothers id hid]
    · show (g.put h.next _).lifecycle? h.next = _
      rw [lifecycle?_put, if_pos rfl, hc.stands, lifecycle?, hstarted, if_pos rfl]
      rfl
  cases setup with
  | plain => exact ⟨hnew, fun _ hid => by cases hid; rfl⟩
  | observed o => exact ⟨hnew, fun _ hid => by cases hid; rfl⟩
  | syncing =>
    have hnow : ({ g.put h.next { e with lifecycle := .registered handle } with next := h.next + 1 } :
        Host).exporter? h.next = some { e with lifecycle := .registered handle } := by
      have hg := hc.stands h.next
      rw [lifecycle?, lifecycle?, hstarted, if_pos rfl] at hg
      obtain ⟨e', he', _⟩ := Option.map_eq_some_iff.1 hg
      show (g.put h.next _).exporter? h.next = _
      rw [exporter?_put, if_pos rfl, he']
      rfl
    have hsync := hnew.calm (sync_calm hnow)
    dsimp only [e] at hsync
    dsimp only
    generalize sync _ h.next _ = y at hsync ⊢
    obtain ⟨r | r, k⟩ := y
    · exact ⟨hsync, fun _ hid => by cases hid⟩
    · exact ⟨hsync, fun _ hid => by cases hid; rfl⟩

/-- One that is let go is gone, in whatever way that ends. -/
structure Disposed (h : Host) (id : Nat) (g : Host) : Prop where
  kind : g.sink.isManual = h.sink.isManual
  names : g.names = h.names
  next : g.next = h.next
  stands : ∀ j, g.lifecycle? j = if j = id then none else h.lifecycle? j

theorem dispose_disposed (h : Host) (id : Nat) : Disposed h id (h.dispose id).2 := by
  have hforget {g : Host} (hc : Calm (h.forget id) g) : Disposed h id g :=
    ⟨hc.kind, hc.names, hc.next, fun j => by rw [hc.stands, lifecycle?_forget]⟩
  unfold dispose
  split
  · next hn =>
    have hf := hforget (Calm.refl (h.forget id))
    rwa [forget_eq_self h id hn] at hf
  · next e _ =>
    split
    · next handle _ =>
      have hc := (settle_calm (h.forget id) (x := h.sink.unregister handle) (isManual_unregister ..)).1
      dsimp only [forget_sink]
      generalize (h.forget id).settle (h.sink.unregister handle) = y at hc
      obtain ⟨r | r, g⟩ := y <;> exact hforget hc
    · exact hforget (Calm.refl _)

/-! ## Operations -/

/-- What an operation may make of where an exporter stands. -/
inductive Turn (h : Host) (op : Op) (reply : Reply) (g : Host) (id : Nat) : Prop
  | stay (hl : g.lifecycle? id = h.lifecycle? id)
  | gone (hl : g.lifecycle? id = none)
  | enter (handle : Nat) (hid : id = h.next) (hn : id < g.next) (hl : g.lifecycle? id = some (.registered handle))
  /-- It asked to leave. A panic that comes out of the sink leaves it half-way. -/
  | leave (name : String) (handle : Nat) (hop : op = .call name .unregister) (hid : h.id? name = some id)
    (hl : h.lifecycle? id = some (.registered handle)) (hm : reply = .panicked .observer → h.sink.isManual = true)
    (hg : g.lifecycle? id = some (if reply = .panicked .observer then .unregistering else .unregistered))

/-- What an operation may do on its way, over a sink of any kind. -/
structure Drift (h : Host) (op : Op) (reply : Reply) (g : Host) : Prop where
  kind : g.sink.isManual = h.sink.isManual
  next : h.next ≤ g.next
  names : ∀ name id, g.id? name = some id → h.id? name = some id ∨ id = h.next
  turn : ∀ id, Turn h op reply g id

/-- What an operation may do. An exporter keeps its name as long as it is alive. -/
structure Course (h : Host) (op : Op) (reply : Reply) (g : Host) : Prop extends Drift h op reply g where
  kept : ∀ name id, h.id? name = some id → g.id? name = some id ∨ g.lifecycle? id = none

theorem Calm.course (hc : Calm h g) (op : Op) (reply : Reply) : Course h op reply g := by
  have hid (name : String) : g.id? name = h.id? name := by rw [id?, id?, hc.names]
  exact ⟨⟨hc.kind, Nat.le_of_eq hc.next.symm, fun name _ hj => .inl (hid name ▸ hj),
    fun id => .stay (hc.stands id)⟩, fun name _ hj => .inl ((hid name).trans hj)⟩

theorem exchange_course {α : Type} (h : Host) (op : Op) (reply : α → Reply) {x : Sink.Exchange α}
    (hx : x.sink.isManual = h.sink.isManual) : Course h op (h.exchange reply x).1 (h.exchange reply x).2 :=
  (settle_calm h hx).1.course op _

theorem adjust_course (h : Host) (op : Op) {s : Option Sink} (hs : ∀ s', s = some s' → s'.isManual = h.sink.isManual) :
    Course h op (h.adjust s).1 (h.adjust s).2 := by
  cases s with
  | none => exact (Calm.refl h).course op _
  | some s => exact (calm_sink (hs s rfl)).course op _

/-- An exporter that had to give its name away is let go. -/
theorem dispose_course {op : Op} {reply : Reply} (hc : Drift h op reply g) {k : Host} (hd : Disposed g id k)
    (hkept : ∀ name j, j ≠ id → h.id? name = some j → g.id? name = some j) : Course h op reply k := by
  have hid (name : String) : k.id? name = g.id? name := by rw [id?, id?, hd.names]
  refine ⟨⟨hd.kind.trans hc.kind, hd.next ▸ hc.next, fun name j hj => hc.names name j (hid name ▸ hj), fun j => ?_⟩,
    fun name j hj => ?_⟩
  · have hs := hd.stands j
    by_cases hj : j = id
    · exact .gone (by rw [hs, if_pos hj])
    · rw [if_neg hj] at hs
      cases hc.turn j with
      | stay hl => exact .stay (hs.trans hl)
      | gone hl => exact .gone (hs.trans hl)
      | enter handle hid hn hl => exact .enter handle hid (hd.next ▸ hn) (hs.trans hl)
      | leave name handle hop hid hl hm hg => exact .leave name handle hop hid hl hm (hs.trans hg)
  · by_cases hne : j = id
    · exact .inr (by rw [hd.stands, if_pos hne])
    · exact .inl ((hid name).trans (hkept name j hne hj))

theorem registerAs_course (h : Host) (op : Op) (name : String) (setup : Setup) (profile : Profile) :
    Course h op (h.registerAs name setup profile).1 (h.registerAs name setup profile).2 := by
  obtain ⟨he, hid⟩ := register_entered h setup profile
  unfold registerAs
  generalize h.register setup profile = y at he hid
  obtain ⟨r, g⟩ := y
  have hturn (reply : Reply) (k : Host) (hk : k.next = g.next) (hl : ∀ id, k.lifecycle? id = g.lifecycle? id) (id : Nat) :
      Turn h op reply k id := by
    by_cases hj : id = h.next
    · subst hj
      rcases he.newcomer with hs | hs | ⟨hn, handle, hs⟩
      · exact .stay ((hl _).trans hs)
      · exact .gone ((hl _).trans hs)
      · exact .enter handle rfl (hk ▸ hn) ((hl _).trans hs)
    · exact .stay ((hl id).trans (he.others id hj))
  have hg (n : String) : g.id? n = h.id? n := by rw [id?, id?, he.names]
  have hrefused (reply : Reply) : Course h op reply g :=
    ⟨⟨he.kind, he.next, fun n _ hn => .inl (hg n ▸ hn), hturn reply g rfl fun _ => rfl⟩,
      fun n _ hn => .inl ((hg n).trans hn)⟩
  rcases r with p | f | id
  · exact hrefused _
  · exact hrefused _
  have hbound (reply : Reply) : Drift h op reply (g.bind name id) := by
    refine ⟨he.kind, he.next, fun n j hn => ?_, hturn reply _ rfl fun _ => rfl⟩
    rw [id?_bind] at hn
    split at hn
    · cases hn
      exact .inr (hid id rfl)
    · exact .inl (hg n ▸ hn)
  -- all names but the new exporter's are bound as before
  have hother (n : String) (j : Nat) (hne : h.id? name ≠ some j) (hn : h.id? n = some j) : (g.bind name id).id? n = some j := by
    have hnn : n ≠ name := fun he => hne (by rw [← he, hn])
    rw [id?_bind, if_neg hnn, hg, hn]
  dsimp only
  split
  · next hnone =>
    refine ⟨hbound _, fun n j hn => .inl (hother n j ?_ hn)⟩
    rw [← hg, hnone]
    exact fun h => by cases h
  · next old hold =>
    have hd := dispose_disposed (g.bind name id) old
    refine dispose_course (hbound _) hd fun n j hne hn => hother n j ?_ hn
    rw [← hg, hold]
    exact fun he => hne (Option.some.inj he).symm

theorem ofResult_ne_panicked (r : Except Failure Unit) (p : Panic) :
    Reply.ofResult (fun _ => .done) r ≠ .panicked p := by
  cases r <;> exact fun h => by cases h

theorem move_frame (h : Host) (id : Nat) (l : Lifecycle) :
    (h.move id l).sink = h.sink ∧ (h.move id l).names = h.names ∧ (h.move id l).next = h.next := by
  unfold move
  split <;> exact ⟨rfl, rfl, rfl⟩

/-- One that asks to leave is unregistered after that, unless a panic comes out of the sink, which
only a manual sink lets happen. -/
structure Departed (h : Host) (id : Nat) (reply : Reply) (g : Host) : Prop where
  kind : g.sink.isManual = h.sink.isManual
  names : g.names = h.names
  next : g.next = h.next
  manual : reply = .panicked .observer → h.sink.isManual = true
  stands : ∀ j, g.lifecycle? j =
    if j = id then some (if reply = .panicked .observer then .unregistering else .unregistered) else h.lifecycle? j

theorem unregister_departed (he : h.exporter? id = some e) {handle : Nat} (hl : e.lifecycle = .registered handle) :
    Departed h id (h.runCall id e .unregister).1 (h.runCall id e .unregister).2 := by
  have hmanual : (h.runCall id e .unregister).1 = .panicked .observer → h.sink.isManual = true := by
    cases hs : h.sink with
    | manual m => exact fun _ => rfl
    | controlled c =>
      -- a controlled sink calls nobody back while it lets a provider go
      rw [runCall_unregister hs, hl]
      exact fun hp => absurd hp (ofResult_ne_panicked _ _)
  have hleaving (j : Nat) : (h.put id { e with lifecycle := .unregistering }).lifecycle? j =
      if j = id then some .unregistering else h.lifecycle? j := by
    rw [lifecycle?_put, lifecycle?, he]
    rfl
  obtain ⟨hc, hp⟩ := settle_calm (h.put id { e with lifecycle := .unregistering })
    (x := h.sink.unregister handle) (isManual_unregister ..)
  simp only [runCall, unregister, hl, put_sink] at hmanual ⊢
  generalize (h.put id { e with lifecycle := .unregistering }).settle (h.sink.unregister handle) = y at hc hp hmanual ⊢
  obtain ⟨p | reply, g⟩ := y
  · obtain rfl := hp p rfl
    refine ⟨hc.kind, hc.names, hc.next, hmanual, fun j => ?_⟩
    rw [hc.stands, hleaving]
    rfl
  · obtain ⟨hs, hn, hx⟩ := move_frame g id .unregistered
    have hne : Reply.ofOutcome (.ofResult fun _ => .done) (.ok reply) ≠ .panicked .observer :=
      ofResult_ne_panicked reply _
    refine ⟨(congrArg _ hs).trans hc.kind, hn.trans hc.names, hx.trans hc.next, hmanual, fun j => ?_⟩
    rw [if_neg hne, lifecycle?_move, hc.stands, hc.stands, hleaving, hleaving, if_pos rfl]
    by_cases hj : j = id
    · rw [if_pos hj, if_pos hj]
      rfl
    · rw [if_neg hj, if_neg hj, if_neg hj]

theorem unregister_course (he : h.exporter? id = some e) {name : String} (hid : h.id? name = some id) :
    Course h (.call name .unregister) (h.runCall id e .unregister).1 (h.runCall id e .unregister).2 := by
  cases hl : e.lifecycle with
  | registered handle =>
    have hd := unregister_departed he hl
    have hnames (n : String) : (h.runCall id e .unregister).2.id? n = h.id? n := by rw [id?, id?, hd.names]
    refine ⟨⟨hd.kind, Nat.le_of_eq hd.next.symm, fun n _ hn => .inl (hnames n ▸ hn), fun j => ?_⟩,
      fun n _ hn => .inl ((hnames n).trans hn)⟩
    by_cases hj : j = id
    · subst hj
      have hstands : h.lifecycle? j = some (.registered handle) := by rw [lifecycle?, he, ← hl]; rfl
      exact .leave name handle rfl hid hstands hd.manual (by rw [hd.stands, if_pos rfl])
    · exact .stay (by rw [hd.stands, if_neg hj])
  | _ =>
    simp only [runCall, unregister, hl]
    exact (Calm.refl h).course _ _

theorem runCall_calm (he : h.exporter? id = some e) {call : Call} (hcall : call ≠ .unregister) :
    Calm h (h.runCall id e call).2 := by
  have hsend (r : Record) : Calm h { h with sink := e.send h.sink r } := by
    refine calm_sink ?_
    unfold Exporter.send
    split
    · exact isManual_write ..
    · rfl
  cases call with
  | sync =>
    simp only [runCall]
    split
    · exact sync_calm he
    · exact Calm.refl h
  | notified => exact (deliver_calm h (.exporter id)).1
  | group group => exact Calm.refl h
  | event phase flags name number args => exact hsend _
  | completeEnd name => exact hsend _
  | unregister => exact absurd rfl hcall
  | profile => exact Calm.refl h
  | registry query => exact ⟨rfl, rfl, rfl, lifecycle?_put_of_eq he rfl⟩

theorem run_course (h : Host) (op : Op) : Course h op (h.run op).1 (h.run op).2 := by
  cases op with
  | enable k =>
    refine exchange_course h _ _ ?_
    cases h.sink with
    | controlled c => exact isManual_notify _
    | manual m => rfl
  | disable =>
    refine exchange_course h _ _ ?_
    cases h.sink with
    | controlled c => exact isManual_notify _
    | manual m => rfl
  | sinkRegister => exact exchange_course h _ _ (isManual_register ..)
  | sinkUnregister handle => exact exchange_course h _ _ (isManual_unregister ..)
  | write r => exact (calm_sink (isManual_write ..)).course _ _
  | fire times =>
    simp only [run]
    split
    · next x hx =>
      refine exchange_course h _ _ ?_
      cases hs : h.sink with
      | controlled c => rw [hs] at hx; cases hx
      | manual m => rw [hs] at hx; cases hx; rfl
    · exact (Calm.refl h).course _ _
  | failRegister on =>
    refine adjust_course h _ fun s hs => ?_
    cases hk : h.sink <;> rw [hk] at hs <;> cases hs
    rfl
  | failUnregister on =>
    refine adjust_course h _ fun s hs => ?_
    cases hk : h.sink <;> rw [hk] at hs <;> cases hs
    rfl
  | breakStream on =>
    refine adjust_course h _ fun s hs => ?_
    cases hk : h.sink with
    | manual m => rw [hk] at hs; cases hs
    | controlled c =>
      rw [hk] at hs
      simp only [Sink.breakStream?] at hs
      split at hs <;> cases hs
      rfl
  | flush =>
    simp only [run]
    split <;> exact (Calm.refl h).course _ _
  | register name setup profile => exact registerAs_course h _ name setup profile
  | drop name =>
    simp only [run]
    split
    · exact (Calm.refl h).course _ _
    · next id hid =>
      have hu (op : Op) (reply : Reply) : Drift h op reply (h.unbind name) := by
        refine ⟨rfl, Nat.le_refl _, fun n j hn => .inl ?_, fun _ => .stay rfl⟩
        rw [id?_unbind] at hn
        split at hn
        · cases hn
        · exact hn
      refine dispose_course (hu _ _) (dispose_disposed (h.unbind name) id) fun n j hne hn => ?_
      have hnn : n ≠ name := fun he => hne (by rw [he, hid] at hn; exact (Option.some.inj hn).symm)
      rw [id?_unbind, if_neg hnn, hn]
  | call name call =>
    simp only [run]
    split
    · exact (Calm.refl h).course _ _
    next id hid =>
    split
    · exact (Calm.refl h).course _ _
    next e he =>
    by_cases hcall : call = .unregister
    · subst hcall
      exact unregister_course he hid
    · exact (runCall_calm he hcall).course _ _

/-! ## Runs -/

theorem after_concat (h : Host) (ops : List Op) (op : Op) : h.after (ops ++ [op]) = ((h.after ops).run op).2 := by
  rw [after, List.foldl_append]
  rfl

/-- The numbers to come are free. -/
theorem lifecycle?_of_next_le (sink : Sink) (ops : List Op) :
    ∀ id, (Host.after { sink } ops).next ≤ id → (Host.after { sink } ops).lifecycle? id = none := by
  induction ops using List.reverseRecOn with
  | nil => exact fun _ _ => rfl
  | append_singleton ops op ih =>
    intro id hle
    rw [after_concat] at hle ⊢
    have hc := run_course (Host.after { sink } ops) op
    have hnone := ih id (Nat.le_trans hc.next hle)
    cases hc.turn id with
    | stay hl => exact hl.trans hnone
    | gone hl => exact hl
    | enter handle hid hn hl => omega
    | leave name handle hop hid hl hm hg => rw [hnone] at hl; cases hl

theorem isManual_after (h : Host) (ops : List Op) : (h.after ops).sink.isManual = h.sink.isManual := by
  induction ops using List.reverseRecOn with
  | nil => rfl
  | append_singleton ops op ih => rw [after_concat, (run_course _ op).kind, ih]

/-- Where an exporter may stand after a script: it is unregistering only if it asked to leave and the
panic of an observer came back. -/
theorem stands_after (sink : Sink) (ops : List Op) (id : Nat) {l : Lifecycle} :
    let start : Host := { sink }
    (start.after ops).lifecycle? id = some l → l.isRegistered = true ∨ l = .unregistered ∨
      l = .unregistering ∧ sink.isManual = true ∧ ∃ before name later,
        ops = before ++ .call name .unregister :: later ∧ (start.after before).id? name = some id ∧
        ((start.after before).run (.call name .unregister)).1 = .panicked .observer := by
  intro start
  induction ops using List.reverseRecOn generalizing l with
  | nil => exact fun h => by cases h
  | append_singleton ops op ih =>
    rw [after_concat]
    intro hl
    cases (run_course (start.after ops) op).turn id with
    | stay hs =>
      rcases ih (hs ▸ hl) with hr | hu | ⟨hu, hm, before, name, later, hops, hrest⟩
      · exact .inl hr
      · exact .inr (.inl hu)
      · exact .inr (.inr ⟨hu, hm, before, name, later ++ [op], by rw [hops]; simp, hrest⟩)
    | gone hs => rw [hs] at hl; cases hl
    | enter handle hid hn hs =>
      rw [hs] at hl
      cases hl
      exact .inl rfl
    | leave name handle hop hid hs hm hg =>
      rw [hg] at hl
      by_cases hp : ((start.after ops).run op).1 = .panicked .observer
      · rw [if_pos hp] at hl
        cases hl
        refine .inr (.inr ⟨rfl, ?_, ops, name, [], by rw [hop], hid, hop ▸ hp⟩)
        rw [← hm hp, isManual_after]
      · rw [if_neg hp] at hl
        cases hl
        exact .inr (.inl rfl)

/-- Between operations an exporter is registered or unregistered, over a sink of any kind and
whatever its observers do, but for one that asked to leave a manual sink and was left half-way by
the panic of an observer. So it is unregistered after it asked to leave, whether the sink agrees or
not, unless a panic comes back in place of an answer. -/
theorem settled_unless_panicked (sink : Sink) (ops : List Op) :
    let start : Host := { sink }
    let h := start.after ops
    (∀ id e, h.exporter? id = some e → e.lifecycle.isRegistered = true ∨ e.lifecycle = .unregistered ∨
      e.lifecycle = .unregistering ∧ sink.isManual = true ∧ ∃ before name later,
        ops = before ++ .call name .unregister :: later ∧ (start.after before).id? name = some id ∧
        ((start.after before).run (.call name .unregister)).1 = .panicked .observer) ∧
    ∀ name id e, h.id? name = some id → h.exporter? id = some e → e.lifecycle.isRegistered = true →
      let s := h.run (.call name .unregister)
      (s.1 = .panicked .observer → sink.isManual = true) ∧ ∃ e', s.2.exporter? id = some e' ∧
        e'.lifecycle = if s.1 = .panicked .observer then .unregistering else .unregistered := by
  intro start h
  refine ⟨fun id e he => stands_after sink ops id (by rw [lifecycle?, he]; rfl), fun name id e hid he hr => ?_⟩
  intro s
  obtain ⟨handle, hl⟩ : ∃ handle, e.lifecycle = .registered handle := by
    cases hl : e.lifecycle with
    | registered handle => exact ⟨handle, rfl⟩
    | _ => rw [hl] at hr; cases hr
  have hs : s = h.runCall id e .unregister := by
    show h.run _ = _
    simp only [run, hid, he]
  have hd := unregister_departed he hl
  rw [← hs] at hd
  refine ⟨fun hp => ?_, ?_⟩
  · rw [← hd.manual hp, isManual_after]
  · have hg := hd.stands id
    rw [if_pos rfl] at hg
    exact Option.map_eq_some_iff.1 hg

/-- An exporter asks to leave while the sink has the callback of another one, whose observer panics. -/
theorem unregistering_after_panic :
    let start : Host := { sink := .manual { callsInUnregister := 1 } }
    let h := start.after [.register "a" .plain ⟨["gpu"], []⟩, .register "b" (.observed .panicking) ⟨["gpu"], []⟩,
      .enable 1#64, .call "a" .unregister]
    ¬ ∀ id e, h.exporter? id = some e → e.lifecycle.isRegistered = true ∨ e.lifecycle = .unregistered := by
  intro start h hall
  have hl : h.lifecycle? 0 = some .unregistering := rfl
  obtain ⟨e, he, hu⟩ := Option.map_eq_some_iff.1 hl
  rcases hall 0 e he with hr | hr <;> rw [hu] at hr <;> cases hr

end Host

end TraceExport
