/-
Profiles that are let in and registrations that are not, over a sink of any kind. A registry can be made
of every profile that passes its check, so a registration refuses the profile or comes to what the sink
answers, and never panics. Over a controlled sink a registration that is refused leaves nothing behind.
-/
import TraceExport.Proofs.Exporter.Ownership
import TraceExport.Proofs.Registry.Check
import TraceExport.Proofs.Registry.Selection

namespace TraceExport

namespace Host

variable {h : Host} {setup : Setup} {profile : Profile}

/-! ## Checking and seeding -/

/-- The numbers to come are free, over a sink of any kind. -/
theorem exporter?_next_after (sink : Sink) (ops : List Op) :
    (Host.after { sink } ops).exporter? (Host.after { sink } ops).next = none :=
  Option.map_eq_none_iff.1 (lifecycle?_of_next_le sink ops _ (Nat.le_refl _))

/-- The check of a profile and the seeding of a registry agree. A registry cannot be made of names that
are too many, repeat or stand for a catch-all; a profile passes its check if one can be made of its
names and each of them is the name of a single category. So a registration, over a sink of any kind,
refuses the profile before the sink hears of it, or seeds a registry whose bits are below those of the
catch-alls and comes to what the sink answers. It never panics. -/
theorem check_agrees_with_seeding (sink : Sink) (ops : List Op) (setup : Setup) (profile : Profile) :
    let h := Host.after { sink } ops
    ((∃ panic, Registry.ofNames profile.filtered = .error panic) ↔ 61 < profile.filtered.length ∨
      ¬ profile.filtered.Nodup ∨ ∃ name ∈ profile.filtered, name ∈ Category.catchAlls) ∧
    (profile.check = .ok () ↔ (∃ registry, Registry.ofNames profile.filtered = .ok registry) ∧
      ∀ name ∈ profile.filtered, name ≠ "" ∧ ',' ∉ name.toList) ∧
    ((∃ fault, profile.check = .error (.profile fault) ∧
        h.register setup profile = (.ok (.error (.profile fault)), h)) ∨
      ∃ registry, profile.check = .ok () ∧ Registry.ofNames profile.filtered = .ok registry ∧
        registry.filteredNames = profile.filtered ∧ registry.filteredCount ≤ 61 ∧
        (∀ i name, profile.filtered[i]? = some name → i < 61 ∧ registry.bit? name = some (1#64 <<< i)) ∧
        (h.register setup profile).1 =
          .ok ((h.sink.register (.exporter h.next)).reply.map fun _ => h.next)) := by
  intro h
  have hf : h.exporter? h.next = none := exporter?_next_after sink ops
  refine ⟨Profile.ofNames_error_iff profile.filtered, ?_, ?_⟩
  · rw [Profile.check_eq_ok_iff]
    constructor
    · rintro ⟨hl, hnames, hn⟩
      exact ⟨⟨_, (Registry.ofNames_eq_ok_iff _ _).2 ⟨hl, hn, rfl⟩⟩, hnames⟩
    · rintro ⟨⟨registry, hr⟩, hnames⟩
      obtain ⟨hl, hn, -⟩ := (Registry.ofNames_eq_ok_iff _ _).1 hr
      exact ⟨hl, hnames, hn⟩
  rcases profile.check_cases with hp | ⟨fault, hp⟩
  · obtain ⟨hl, -, hn⟩ := (Profile.check_eq_ok_iff profile).1 hp
    refine .inr ⟨_, hp, Profile.ofNames_of_check hp, Registry.filteredNames_showing .., ?_, fun i name hi => ?_, ?_⟩
    · rw [Registry.filteredCount_showing]
      exact hl
    · obtain ⟨hlt, rfl⟩ := List.getElem?_eq_some_iff.1 hi
      refine ⟨Nat.lt_of_lt_of_le hlt hl, ?_⟩
      rw [Registry.bit?_showing (List.mem_append_left _ (List.getElem_mem hlt)),
        Registry.bitOf_getElem (List.nodup_append.1 hn).1 hlt]
    · rw [register_eq hp (Profile.ofNames_of_check hp) hf]
      split
      · next hx => rw [hx]; rfl
      · next hx => rw [hx]; rfl
  · exact .inl ⟨fault, hp, by simp only [register, hp]⟩

/-! ## Refused registrations over a controlled sink -/

/-- Why a controlled sink has no place for a profile. -/
def Refuses (c : Sink.Controlled) (profile : Profile) (f : Failure) : Prop :=
  profile.check = .error f ∨ profile.check = .ok () ∧
    (c.rejecting = true ∧ f = .registration .rejected ∨
      c.rejecting = false ∧ c.seat.installed.isSome = true ∧ f = .registration .seatTaken)

theorem accept_refused_iff (c : Sink.Controlled) (profile : Profile) (f : Failure) :
    c.accept profile = .ok (.error f) ↔ Refuses c profile f := by
  unfold Sink.Controlled.accept Refuses
  rcases profile.check_cases with hp | ⟨fault, hp⟩
  · rw [hp, Profile.ofNames_of_check hp]
    cases c.rejecting <;> cases c.seat.installed.isSome <;> simp [eq_comm]
  · rw [hp]
    simp

/-- A refused registration leaves the host as it was. -/
theorem run_register_refused {c : Sink.Controlled} (hs : h.Sound c) {name : String} {f : Failure}
    (hr : (h.run (.register name setup profile)).1 = .failed f) :
    h.run (.register name setup profile) = (.failed f, h) ∧ Refuses c profile f := by
  have hrun := run_register hs.sink (hs.fresh h.next (Nat.le_refl _)) name setup profile
  rw [← accept_refused_iff]
  rw [hrun] at hr ⊢
  cases ha : c.accept profile with
  | error p => rw [ha] at hr; cases hr
  | ok answer =>
    rw [ha] at hr
    cases answer with
    | error f' => cases hr; exact ⟨rfl, rfl⟩
    | ok registry => cases hr

/-- A registered exporter hears of a session that starts or changes its keyword as long as its provider
is there. -/
theorem exporter?_enable {c : Sink.Controlled} (hs : h.Sound c) {id n : Nat} {e : Exporter}
    (he : h.exporter? id = some e) (hl : e.lifecycle = .registered n) (hi : c.seat.handle? = some n) (k : Keyword) :
    (h.run (.enable k)).2.exporter? id = some (e.updated k) := by
  obtain ⟨⟨n', callback⟩, hp, rfl⟩ := Option.map_eq_some_iff.1 hi
  obtain rfl : callback = .exporter id := hs.owner id e n' callback he hl hp
  have hr : e.lifecycle.isRegistered = true := by rw [hl]; rfl
  rw [run_enable hs.sink, notified_called]
  simp only [hp]
  rw [exporter?_called]
  show (h.exporter? id).map _ = _
  rw [he, Option.map_some, if_pos ⟨rfl, hr⟩]

/-- A refused registration is as if it had never been tried. Take any run over a controlled sink and a
registration in it that fails, because the profile is not fit, the sink rejects every provider or has
one already. The host is the same after that step as before it, so the script without the step goes
through the same steps but for this one, to the same end. And an exporter that is registered goes on
applying the keywords of the sink. -/
theorem refused_registration_traceless (outlet : Sink.Outlet) (rejecting : Bool) (before later : List Op)
    (name : String) (setup : Setup) (profile : Profile) {f : Failure} :
    let start : Host := { sink := .controlled { outlet, rejecting } }
    let h := start.after before
    let refused : Op := .register name setup profile
    (h.run refused).1 = .failed f →
    (h.run refused).2 = h ∧
    (start.runScript (before ++ refused :: later))[before.length]? = some ⟨h, .failed f, h⟩ ∧
    start.runScript (before ++ later) = (start.runScript (before ++ refused :: later)).eraseIdx before.length ∧
    start.after (before ++ later) = start.after (before ++ refused :: later) ∧
    ∃ c, h.sink = .controlled c ∧ Refuses c profile f ∧
      ∀ id n e k, h.exporter? id = some e → e.lifecycle = .registered n → c.seat.handle? = some n →
        ((h.run refused).2.run (.enable k)).2.exporter? id = some (e.updated k) := by
  intro start h refused hr
  obtain ⟨c, hs⟩ : ∃ c, h.Sound c := (sound_start outlet rejecting).after before
  obtain ⟨hrun, hwhy⟩ := run_register_refused hs hr
  have hlength : (start.runScript before).length = before.length := length_runScript start before
  have hsteps : start.runScript (before ++ refused :: later) =
      start.runScript before ++ ⟨h, .failed f, h⟩ :: h.runScript later := by
    rw [runScript_append, runScript, hrun]
  refine ⟨by rw [hrun], ?_, ?_, ?_, c, hs.sink, hwhy, fun id n e k he hl hi => ?_⟩
  · rw [hsteps, ← hlength, List.getElem?_append_right (Nat.le_refl _), Nat.sub_self]
    rfl
  · rw [hsteps, ← hlength, List.eraseIdx_append_of_length_le (Nat.le_refl _), Nat.sub_self, runScript_append]
    rfl
  · rw [after_append, after_append]
    show h.after later = (h.run refused).2.after later
    rw [hrun]
  · rw [hrun]
    exact exporter?_enable hs he hl hi k

theorem refused_registration_traceless_taken :
    let start : Host := { sink := .memory }
    let before : List Op := [.register "a" (.observed .returning) ⟨["gpu"], []⟩, .enable 1#64]
    let h := start.after before
    let refused : Op := .register "b" .syncing ⟨["cc"], []⟩
    let later : List Op := [.call "b" .sync, .disable, .call "a" .unregister, .register "b" .syncing ⟨["cc"], []⟩]
    (h.run refused).1 = .failed (.registration .seatTaken) ∧
    start.runScript (before ++ later) = (start.runScript (before ++ refused :: later)).eraseIdx 2 ∧
    ∃ e, h.exporter? 0 = some e ∧ ((h.run refused).2.run (.enable 3#64)).2.exporter? 0 = some (e.updated 3#64) := by
  intro start before h refused later
  have hr : (h.run refused).1 = .failed (.registration .seatTaken) := rfl
  obtain ⟨-, -, hscript, -, c, hc, -, hkeeps⟩ := refused_registration_traceless (.memory #[]) false before later
    "b" .syncing ⟨["cc"], []⟩ hr
  cases hc
  exact ⟨hr, hscript, _, rfl, hkeeps 0 1 _ 3#64 rfl rfl rfl⟩

end Host

end TraceExport
