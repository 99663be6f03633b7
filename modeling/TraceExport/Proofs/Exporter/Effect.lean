/-
What each part of a host does, said once. An update of an exporter leaves a state that does not depend
on how its observer ends. Before a sink answers a registration it calls the newcomer and nobody else,
and the newcomer takes no notice of that yet; so the registration comes to what the sink answers. Over a
controlled sink all that comes of registering, unregistering and letting go of an exporter can be
written down.
-/
import TraceExport.Exporter.Script
import Mathlib.Tactic

namespace TraceExport

/-! ## Updates -/

namespace Exporter

/-- Whether an update with this keyword calls an observer. -/
def observes (e : Exporter) (k : Keyword) : Bool := e.registry.last != k && e.observer.isSome

/-- The exporter after an update. -/
def updated (e : Exporter) (k : Keyword) : Exporter :=
  { e with
    registry := (e.registry.apply k).2
    noted := if e.observes k then e.noted ++ [(e.registry.apply k).2.enabled] else e.noted }

/-- How an update ends. -/
def outcome (e : Exporter) (k : Keyword) : Except Panic Registry.Change :=
  if e.observes k ∧ e.observer = some .panicking then .error .observer else .ok (e.registry.apply k).1

theorem update_eq (e : Exporter) (k : Keyword) : e.update k = (e.outcome k, e.updated k) := by
  unfold update outcome updated observes Registry.apply
  by_cases hk : e.registry.last = k
  · simp [hk]
  · obtain ⟨p, r, l, o, n⟩ := e
    cases o with
    | none => simp_all [observe]
    | some o => cases o <;> simp_all [observe]

@[simp]
theorem updated_registry (e : Exporter) (k : Keyword) :
    (e.updated k).registry = (e.registry.apply k).2 := rfl

theorem updated_last (e : Exporter) (k : Keyword) : (e.updated k).registry.last = k := by simp

/-- What can be seen of an exporter: where it stands, what its registry shows, what its observer
noted. -/
structure View where
  lifecycle : Lifecycle
  active : Bool
  last : Keyword
  enabled : List String
  noted : List (List String)

/-- What can be seen of an exporter with a sink. -/
def view (e : Exporter) (sink : Sink) : View :=
  ⟨e.lifecycle, e.isActive sink, e.registry.last, e.registry.enabled, e.noted⟩

end Exporter

/-- What can be seen of the exporters of a host. -/
def Host.views (h : Host) : List (Nat × Exporter.View) := h.exporters.map fun (id, e) => (id, e.view h.sink)

namespace Host

/-! ## Rows by key -/

theorem lookup_filter_ne {α β : Type} [DecidableEq α] (l : List (α × β)) (a b : α) :
    (l.filter (·.1 ≠ a)).lookup b = if b = a then none else l.lookup b := by
  induction l with
  | nil => simp
  | cons p l ih =>
    obtain ⟨k, v⟩ := p
    rw [List.filter_cons, List.lookup_cons]
    by_cases hk : k = a
    · subst hk
      rw [if_neg (by simp), ih]
      by_cases hb : b = k
      · simp [hb]
      · simp [hb, beq_eq_false_iff_ne.2 hb]
    · rw [if_pos (by simpa using hk), List.lookup_cons, ih]
      by_cases hb : b = k
      · subst hb; simp [hk]
      · simp [beq_eq_false_iff_ne.2 hb]

theorem lookup_map_at (l : List (Nat × Exporter)) (id j : Nat) (e : Exporter) :
    (l.map fun (i, old) => if i = id then (i, e) else (i, old)).lookup j =
      if j = id then (l.lookup id).map fun _ => e else l.lookup j := by
  induction l with
  | nil => simp
  | cons p l ih =>
    obtain ⟨k, v⟩ := p
    by_cases hk : k = id
    · subst hk
      by_cases hj : j = k
      · subst hj; simp
      · have hjk : (j == k) = false := beq_eq_false_iff_ne.2 hj
        simp only [List.map_cons, if_true, List.lookup_cons, hjk, ih, hj, if_false]
    · have hki : (id == k) = false := beq_eq_false_iff_ne.2 (Ne.symm hk)
      by_cases hj : j = k
      · subst hj; simp [hk]
      · have hjk : (j == k) = false := beq_eq_false_iff_ne.2 hj
        simp only [List.map_cons, hk, if_false, List.lookup_cons, hjk, hki, ih]

/-! ## Exporters by number, names -/

section

variable (h : Host) (id j : Nat) (e : Exporter) (name : String)

@[simp]
theorem put_sink : (h.put id e).sink = h.sink := rfl

@[simp]
theorem forget_sink : (h.forget id).sink = h.sink := rfl

theorem exporter?_put :
    (h.put id e).exporter? j = if j = id then (h.exporter? id).map fun _ => e else h.exporter? j :=
  lookup_map_at h.exporters id j e

theorem exporter?_forget :
    (h.forget id).exporter? j = if j = id then none else h.exporter? j :=
  lookup_filter_ne h.exporters id j

theorem id?_unbind (n : String) : (h.unbind name).id? n = if n = name then none else h.id? n :=
  lookup_filter_ne h.names name n

theorem id?_bind (n : String) : (h.bind name id).id? n = if n = name then some id else h.id? n := by
  have hu := id?_unbind h name n
  unfold id? bind at *
  rw [List.lookup_cons, hu]
  by_cases hn : n = name
  · simp [hn]
  · have hb : (n == name) = false := by simpa using hn
    simp [hn, hb]

theorem put_put (f : Exporter) : (h.put id e).put id f = h.put id f := by
  simp only [put, List.map_map, Host.mk.injEq, and_self, and_true, true_and]
  refine List.map_congr_left fun p _ => ?_
  by_cases hp : p.1 = id <;> simp [hp]

theorem put_eq_self (hn : h.exporter? id = none) : h.put id e = h := by
  have hk : ∀ p ∈ h.exporters, (if p.1 = id then (p.1, e) else (p.1, p.2)) = p := by
    intro p hp
    have hne : p.1 ≠ id := fun he => by simpa [he] using List.lookup_eq_none_iff.1 hn p hp
    rw [if_neg hne]
  rw [put, List.map_congr_left hk, List.map_id']

theorem forget_eq_self (hn : h.exporter? id = none) : h.forget id = h := by
  have hk : h.exporters.filter (·.1 ≠ id) = h.exporters := by
    refine List.filter_eq_self.2 fun p hp => ?_
    have hne : p.1 ≠ id := fun he => by simpa [he] using List.lookup_eq_none_iff.1 hn p hp
    simpa using hne
  rw [forget, hk]

theorem put_cons (f : Exporter) (hn : h.exporter? id = none) :
    { h with exporters := (id, f) :: h.exporters }.put id e =
      { h with exporters := (id, e) :: h.exporters } := by
  have hp := congrArg Host.exporters (put_eq_self h id e hn)
  simp only [put] at hp ⊢
  rw [List.map_cons, if_pos rfl, hp]

theorem forget_cons (hn : h.exporter? id = none) :
    { h with exporters := (id, e) :: h.exporters }.forget id = h := by
  have hf := congrArg Host.exporters (forget_eq_self h id hn)
  simp only [forget] at hf ⊢
  rw [List.filter_cons, if_neg (by simp), hf]

theorem move_put (l : Lifecycle) : (h.put id e).move id l = h.put id { e with lifecycle := l } := by
  unfold move
  rw [exporter?_put, if_pos rfl]
  cases hn : h.exporter? id with
  | none => simp [put_eq_self, hn]
  | some old => simp [put_put]

/-! ## Callbacks -/

theorem sync_eq : h.sync id e = (e.outcome h.sink.keyword,
    { h.put id (e.updated h.sink.keyword) with sink := h.sink.afterRead }) := by
  unfold sync
  rw [Exporter.update_eq]

variable {h id e} in
theorem deliver_of_registered (he : h.exporter? id = some e) (hr : e.lifecycle.isRegistered = true) :
    h.deliver (.exporter id) = ((e.outcome h.sink.keyword).map fun _ => (),
      { h.put id (e.updated h.sink.keyword) with sink := h.sink.afterRead }) := by
  simp only [deliver, he, hr, if_true, sync_eq]
  cases e.outcome h.sink.keyword <;> rfl

variable {h id} in
theorem deliver_of_not_registered
    (hn : ∀ e, h.exporter? id = some e → e.lifecycle.isRegistered = false) :
    h.deliver (.exporter id) = (.ok (), h) := by
  simp only [deliver]
  cases he : h.exporter? id with
  | none => rfl
  | some e => simp [hn e he]

theorem settle_nil {α : Type} {x : Sink.Exchange α} (hx : x.calls = []) :
    h.settle x = (.ok x.reply, { h with sink := x.sink }) := by
  simp [settle, hx, deliverAll]

theorem settle_single {α : Type} {x : Sink.Exchange α} {c : Sink.Callback} (hx : x.calls = [c]) :
    h.settle x = (({ h with sink := x.sink }.deliver c).1.map fun _ => x.reply,
      ({ h with sink := x.sink }.deliver c).2) := by
  simp only [settle, hx, deliverAll]
  generalize { h with sink := x.sink }.deliver c = r
  obtain ⟨r, g⟩ := r
  cases r <;> rfl

end

section

variable {β : Type} {view : Sink → β} (hv : ∀ s, view s.afterRead = view s) (h : Host)
include hv

/-- A callback leaves all of the sink as it is that reading the keyword does. -/
theorem view_deliver (call : Sink.Callback) : view (h.deliver call).2.sink = view h.sink := by
  cases call with
  | idle => rfl
  | exporter id =>
    cases he : h.exporter? id with
    | none => rw [deliver_of_not_registered fun e hx => by rw [he] at hx; cases hx]
    | some e =>
      cases hr : e.lifecycle.isRegistered with
      | true =>
        rw [deliver_of_registered he hr]
        exact hv h.sink
      | false => rw [deliver_of_not_registered fun f hx => by rw [he] at hx; cases hx; exact hr]

theorem view_deliverAll (calls : List Sink.Callback) : view (h.deliverAll calls).2.sink = view h.sink := by
  induction calls generalizing h with
  | nil => rfl
  | cons call calls ih =>
    have hd := view_deliver hv h call
    simp only [deliverAll]
    generalize h.deliver call = y at hd
    obtain ⟨p | u, g⟩ := y
    · exact hd
    · exact (ih g).trans hd

theorem view_settle {α : Type} (x : Sink.Exchange α) : view (h.settle x).2.sink = view x.sink := by
  have hd := view_deliverAll hv { h with sink := x.sink } x.calls
  unfold settle
  generalize { h with sink := x.sink }.deliverAll x.calls = y at hd
  obtain ⟨p | u, g⟩ := y <;> exact hd

end

end Host

/-! ## Controlled sinks -/

namespace Sink.Controlled

/-- The sink when one more notification has been delivered. -/
def counted (c : Controlled) : Controlled := { c with seat := { c.seat with delivered := c.seat.delivered + 1 } }

theorem notify_of_free {c : Controlled} (h : c.seat.installed = none) : c.notify = ⟨.controlled c, [], ()⟩ := by
  obtain ⟨s, l, k, r, o⟩ := c
  simp_all [notify, Provider.Seat.notify]

theorem notify_of_taken {c : Controlled} {p : Nat × Callback} (h : c.seat.installed = some p) :
    c.notify = ⟨.controlled c.counted, [p.2], ()⟩ := by
  obtain ⟨s, l, k, r, o⟩ := c
  simp_all [notify, counted, Provider.Seat.notify]

/-- What comes of a profile: its registry if the sink takes a provider for it. -/
def accept (c : Controlled) (profile : Profile) : Except Panic (Except Failure Registry) :=
  match profile.check with
  | .error f => .ok (.error f)
  | .ok _ =>
    match Registry.ofNames profile.filtered with
    | .error p => .error p
    | .ok registry =>
      if c.rejecting then .ok (.error (.registration .rejected))
      else if c.seat.installed.isSome then .ok (.error (.registration .seatTaken))
      else .ok (.ok registry)

theorem accept_eq_ok {c : Controlled} {profile : Profile} {registry : Registry}
    (h : c.accept profile = .ok (.ok registry)) :
    profile.check = .ok () ∧ Registry.ofNames profile.filtered = .ok registry ∧
      c.rejecting = false ∧ c.seat.installed = none := by
  unfold accept at h
  split at h
  · cases h
  · next hp =>
    split at h
    · cases h
    · next hr =>
      split at h
      · cases h
      · next hj =>
        split at h
        · cases h
        · next hi =>
          cases h
          exact ⟨hp, hr, by simpa using hj, by simpa using hi⟩

/-- The sink with a provider under the next handle, which it notifies if somebody listens. -/
def withProvider (c : Controlled) (callback : Callback) : Controlled :=
  { c with seat := {
      issued := c.seat.issued + 1
      installed := some (c.seat.issued + 1, callback)
      delivered := if c.listening then c.seat.delivered + 1 else c.seat.delivered } }

theorem register_of_free {c : Controlled} (hr : c.rejecting = false) (hi : c.seat.installed = none)
    (callback : Callback) : Sink.register (.controlled c) callback =
      ⟨.controlled (c.withProvider callback), if c.listening then [callback] else [],
        .ok (c.seat.issued + 1)⟩ := by
  obtain ⟨s, l, k, r, o⟩ := c
  simp only at hr hi
  subst hr
  cases l <;>
    simp [Sink.register, Provider.Seat.install_of_free hi, withProvider, notify, Provider.Seat.notify]

end Sink.Controlled

/-- A sink that registers a provider calls no other. -/
theorem Sink.calls_register (s : Sink) (callback : Callback) :
    ∀ call ∈ (s.register callback).calls, call = callback := by
  cases s with
  | manual m =>
    intro call hc
    simp only [Sink.register] at hc
    split at hc <;> exact (List.mem_replicate.1 hc).2
  | controlled c =>
    cases hj : c.rejecting with
    | true => simp [Sink.register, hj]
    | false =>
      cases hi : c.seat.installed with
      | some p => simp [Sink.register, hj, Provider.Seat.install_of_taken hi]
      | none =>
        rw [Controlled.register_of_free hj hi]
        split <;> simp

/-- The seat that an exporter leaves behind when it goes. -/
def Lifecycle.leave {κ : Type} (l : Lifecycle) (s : Provider.Seat κ) : Provider.Seat κ :=
  match l with
  | .registered handle => (s.remove handle).2
  | _ => s

namespace Host

variable {h : Host} {c : Sink.Controlled}

/-! ## Callbacks that do nothing -/

/-- Whether a callback does nothing. That of an exporter does nothing unless the exporter is
registered. -/
def Deaf (h : Host) (call : Sink.Callback) : Prop :=
  ∀ id e, call = .exporter id → h.exporter? id = some e → e.lifecycle.isRegistered = false

theorem Deaf.deliver {call : Sink.Callback} (hd : h.Deaf call) : h.deliver call = (.ok (), h) := by
  cases call with
  | idle => rfl
  | exporter id => exact deliver_of_not_registered fun e he => hd id e rfl he

theorem deliverAll_of_deaf {calls : List Sink.Callback} (hd : ∀ call ∈ calls, h.Deaf call) :
    h.deliverAll calls = (.ok (), h) := by
  induction calls with
  | nil => rfl
  | cons call calls ih =>
    rw [List.forall_mem_cons] at hd
    simp only [deliverAll, hd.1.deliver, ih hd.2]

/-- An exchange in which nobody takes notice of a call comes to its reply. -/
theorem settle_of_deaf {α : Type} {x : Sink.Exchange α} (hd : ∀ call ∈ x.calls, h.Deaf call) :
    h.settle x = (.ok x.reply, { h with sink := x.sink }) := by
  have hd' : ∀ call ∈ x.calls, Deaf { h with sink := x.sink } call := hd
  rw [settle, deliverAll_of_deaf hd']

/-! ## Registering and unregistering -/

/-- An exporter whose registration has just been answered. -/
def newcomer (c : Sink.Controlled) (setup : Setup) (profile : Profile) (registry : Registry) : Exporter :=
  let e : Exporter := {
    profile, registry, lifecycle := .registered (c.seat.issued + 1), observer := setup.observer? }
  if setup = .syncing then e.updated c.keyword else e

/-- The host with a new exporter as the provider of its sink. -/
def joined (h : Host) (c : Sink.Controlled) (setup : Setup) (profile : Profile) (registry : Registry) : Host where
  sink := .controlled (c.withProvider (.exporter h.next))
  exporters := (h.next, newcomer c setup profile registry) :: h.exporters
  names := h.names
  next := h.next + 1

/-- A host with an exporter whose registration the sink has not answered yet. -/
def applying (h : Host) (setup : Setup) (profile : Profile) (registry : Registry) : Host :=
  { h with exporters :=
      (h.next, { profile, registry, lifecycle := .registering, observer := setup.observer? }) :: h.exporters }

theorem deaf_applying (h : Host) (setup : Setup) (profile : Profile) (registry : Registry) :
    ∀ call ∈ (h.sink.register (.exporter h.next)).calls, (h.applying setup profile registry).Deaf call := by
  rintro call hc id e rfl he
  obtain rfl : id = h.next := Sink.Callback.exporter.inj (h.sink.calls_register _ _ hc)
  simp only [exporter?, applying, List.lookup_cons_self, Option.some.injEq] at he
  rw [← he]
  rfl

/-- A new exporter that its sink knows by a handle. One that syncs has applied the keyword. -/
def entrant (setup : Setup) (profile : Profile) (registry : Registry) (handle : Nat) (k : Keyword) : Exporter :=
  let e : Exporter := { profile, registry, lifecycle := .registered handle, observer := setup.observer? }
  if setup = .syncing then e.updated k else e

/-- The host with a new exporter that a sink has taken under a handle. One that syncs reads the
keyword. -/
def admitting (h : Host) (setup : Setup) (profile : Profile) (registry : Registry) (handle : Nat) (s : Sink) : Host where
  sink := if setup = .syncing then s.afterRead else s
  exporters := (h.next, entrant setup profile registry handle s.keyword) :: h.exporters
  names := h.names
  next := h.next + 1

theorem exporter?_admitting (h : Host) (setup : Setup) (profile : Profile) (registry : Registry) (handle : Nat)
    (s : Sink) (id : Nat) : (h.admitting setup profile registry handle s).exporter? id =
      if id = h.next then some (entrant setup profile registry handle s.keyword) else h.exporter? id := by
  unfold exporter? admitting
  rw [List.lookup_cons]
  by_cases hid : id = h.next
  · simp [hid]
  · rw [beq_eq_false_iff_ne.2 hid, if_neg hid]

theorem joined_eq_admitting (h : Host) (c : Sink.Controlled) (setup : Setup) (profile : Profile)
    (registry : Registry) : h.joined c setup profile registry =
      h.admitting setup profile registry (c.seat.issued + 1) (.controlled (c.withProvider (.exporter h.next))) := by
  cases setup <;> rfl

/-- The registration of a fit profile comes to the answer of the sink, over a sink of any kind. -/
theorem register_eq {profile : Profile} {registry : Registry} (hp : profile.check = .ok ())
    (hr : Registry.ofNames profile.filtered = .ok registry) (hf : h.exporter? h.next = none) (setup : Setup) :
    h.register setup profile = match h.sink.register (.exporter h.next) with
      | ⟨s, _, .error f⟩ => (.ok (.error f), { h with sink := s })
      | ⟨s, _, .ok handle⟩ => (.ok (.ok h.next), h.admitting setup profile registry handle s) := by
  have hs := settle_of_deaf (h.deaf_applying setup profile registry)
  simp only [applying] at hs
  simp only [register, hp, hr]
  generalize h.sink.register (.exporter h.next) = x at hs ⊢
  obtain ⟨s, calls, reply⟩ := x
  simp only [hs]
  cases reply with
  | error f => exact Prod.ext rfl (forget_cons { h with sink := s } h.next _ hf)
  | ok handle =>
    have hput (n : Nat) (e f : Exporter) :
        ({ h with sink := s, exporters := (h.next, e) :: h.exporters, next := n } : Host).put h.next f =
          { h with sink := s, exporters := (h.next, f) :: h.exporters, next := n } :=
      put_cons { h with sink := s, next := n } h.next f e hf
    simp only [hput]
    -- only one that syncs reads the keyword, and it has no observer that could panic
    cases setup with
    | plain => rfl
    | observed o => rfl
    | syncing =>
      simp only [sync_eq, hput, Exporter.outcome, Setup.observer?, reduceCtorEq, and_false, if_false]
      rfl

/-- Over a controlled sink a registration either leaves everything as it is or adds the sink's
provider. -/
theorem register_controlled (hc : h.sink = .controlled c) (hf : h.exporter? h.next = none)
    (setup : Setup) (profile : Profile) :
    h.register setup profile = match c.accept profile with
      | .error p => (.error p, h)
      | .ok (.error f) => (.ok (.error f), h)
      | .ok (.ok registry) => (.ok (.ok h.next), h.joined c setup profile registry) := by
  unfold Sink.Controlled.accept
  cases hp : profile.check with
  | error f => simp only [register, hp]
  | ok u =>
    cases hr : Registry.ofNames profile.filtered with
    | error p => simp only [register, hp, hr]
    | ok registry =>
      rw [register_eq hp hr hf]
      cases hj : c.rejecting with
      | true =>
        have hx : h.sink.register (.exporter h.next) = ⟨h.sink, [], .error (.registration .rejected)⟩ := by
          simp [hc, Sink.register, hj]
        rw [hx]
        rfl
      | false =>
        cases hi : c.seat.installed with
        | some q =>
          have hx : h.sink.register (.exporter h.next) = ⟨h.sink, [], .error (.registration .seatTaken)⟩ := by
            simp [hc, Sink.register, hj, Provider.Seat.install_of_taken hi]
          rw [hx]
          rfl
        | none =>
          have hx := hc ▸ Sink.Controlled.register_of_free hj hi (.exporter h.next)
          rw [hx]
          exact congrArg (Prod.mk _) (joined_eq_admitting h c setup profile registry).symm

theorem unregister_controlled (hc : h.sink = .controlled c) {id handle : Nat} {e : Exporter}
    (hl : e.lifecycle = .registered handle) :
    h.unregister id e = (.ok (c.seat.remove handle).1,
      { h.put id { e with lifecycle := .unregistered } with
        sink := .controlled { c with seat := (c.seat.remove handle).2 } }) := by
  have hx : (h.sink.unregister handle) =
      ⟨.controlled { c with seat := (c.seat.remove handle).2 }, [], (c.seat.remove handle).1⟩ := by
    rw [hc]; rfl
  unfold unregister
  simp only [hl, put_sink, hx]
  rw [settle_nil _ rfl]
  exact Prod.ext rfl (move_put { h with sink := .controlled { c with seat := (c.seat.remove handle).2 } } id _ _)

theorem dispose_controlled (hc : h.sink = .controlled c) {id : Nat} {e : Exporter}
    (he : h.exporter? id = some e) :
    h.dispose id = (.ok (), { h.forget id with
      sink := .controlled { c with seat := e.lifecycle.leave c.seat } }) := by
  unfold dispose
  simp only [he]
  cases hl : e.lifecycle with
  | registered handle =>
    have hx : h.sink.unregister handle =
        ⟨.controlled { c with seat := (c.seat.remove handle).2 }, [], (c.seat.remove handle).1⟩ := by
      rw [hc]; rfl
    simp only [forget_sink, hx]
    rw [settle_nil _ rfl]
    rfl
  | _ => simp only [Lifecycle.leave]; rw [← hc]; rfl

/-! ## Records -/

/-- The records that a call of an exporter hands to the sink. -/
def Call.handed (e : Exporter) (sink : Sink) : Call → List Record
  | .event phase _ name _ args => if e.isActive sink then [e.eventRecord phase name args] else []
  | .completeEnd name => if e.isActive sink then [Exporter.completeEndRecord name] else []
  | _ => []

/-- The records that an operation hands to the sink. -/
def handed (h : Host) : Op → List Record
  | .write r => [r]
  | .call name call => ((h.id? name).bind h.exporter?).elim [] fun e => call.handed e h.sink
  | _ => []

/-! ## Operations on manual sinks -/

/-- Whether an operation is for manual sinks only. -/
def Op.isManual : Op → Bool
  | .fire _ | .failRegister _ | .failUnregister _ => true
  | _ => false

theorem run_of_isManual (hc : h.sink = .controlled c) {op : Op} (ho : op.isManual = true) :
    h.run op = (.unsupported, h) := by
  cases op with
  | fire times => simp only [run, hc, Sink.fire?]
  | failRegister on => simp only [run, hc, Sink.failRegister?, adjust]
  | failUnregister on => simp only [run, hc, Sink.failUnregister?, adjust]
  | _ => cases ho

end Host

end TraceExport
