/-
Entries that are events. An entry makes an event if its phase is one ASCII character and it has a
group, and a list of entries makes a workload if each of them makes an event; then the workload has
one event for each entry, in their order.
-/
import TraceExport.Settings.Basic
import Mathlib.Tactic

namespace TraceExport.Settings

variable {s : Settings} {w : Workload}

theorem phaseCode?_isSome_iff (phase : String) :
    (phaseCode? phase).isSome ↔ ∃ c, phase.toList = [c] ∧ c.toNat < 128 := by
  unfold phaseCode?
  split
  · next c hc =>
    rw [hc]
    split
    · next hlt => exact iff_of_true rfl ⟨c, rfl, hlt⟩
    · next hge =>
      refine iff_of_false (fun h => by cases h) ?_
      rintro ⟨d, hd, hlt⟩
      cases hd
      exact hge hlt
  · next hne =>
    refine iff_of_false (fun h => by cases h) ?_
    rintro ⟨c, hc, -⟩
    exact hne c hc

theorem toEvent_ok_iff (entry : EventEntry) : (∃ ev, entry.toEvent = .ok ev) ↔
    (∃ c, entry.phase.toList = [c] ∧ c.toNat < 128) ∧ entry.group ≠ "" := by
  rw [← phaseCode?_isSome_iff]
  unfold EventEntry.toEvent
  split
  · next hphase =>
    rw [hphase]
    exact iff_of_false (fun ⟨_, h⟩ => by cases h) fun h => by cases h.1
  · next phase hphase =>
    rw [hphase]
    split
    · next hg => exact iff_of_false (fun ⟨_, h⟩ => by cases h) fun h => h.2 hg
    · next hg => exact iff_of_true ⟨_, rfl⟩ ⟨rfl, hg⟩

theorem group_of_toEvent {entry : EventEntry} {ev : Workload.Event} (h : entry.toEvent = .ok ev) :
    ev.group = entry.group ∧ ev.group ≠ "" := by
  have hg := ((toEvent_ok_iff entry).1 ⟨ev, h⟩).2
  unfold EventEntry.toEvent at h
  split at h
  · cases h
  · rw [if_neg hg] at h
    cases h
    exact ⟨rfl, hg⟩

/-- A workload has an event for each entry. -/
theorem workloadOf_eq_ok_iff (entries : List EventEntry) (w : Workload) :
    workloadOf entries = .ok w ↔ List.Forall₂ (fun entry ev => entry.toEvent = .ok ev) entries w := by
  unfold workloadOf
  induction entries generalizing w with
  | nil =>
    rw [List.mapM_nil, List.forall₂_nil_left_iff]
    exact ⟨fun h => (Except.ok.inj h).symm, fun h => by rw [h]; rfl⟩
  | cons entry entries ih =>
    rw [List.mapM_cons, List.forall₂_cons_left_iff]
    constructor
    · intro h
      cases hev : entry.toEvent with
      | error fault => rw [hev] at h; cases h
      | ok ev =>
        cases hrest : entries.mapM EventEntry.toEvent with
        | error fault => rw [hev, hrest] at h; cases h
        | ok evs =>
          rw [hev, hrest] at h
          exact ⟨ev, evs, rfl, (ih evs).1 hrest, (Except.ok.inj h).symm⟩
    · rintro ⟨ev, evs, hev, hrest, rfl⟩
      rw [hev, (ih evs).2 hrest]
      rfl

theorem workloadOf_ok_iff (entries : List EventEntry) :
    (∃ w, workloadOf entries = .ok w) ↔ ∀ entry ∈ entries, ∃ ev, entry.toEvent = .ok ev := by
  simp only [workloadOf_eq_ok_iff]
  induction entries with
  | nil => exact iff_of_true ⟨[], .nil⟩ fun entry hm => by cases hm
  | cons entry entries ih =>
    rw [List.forall_mem_cons, ← ih]
    constructor
    · rintro ⟨w, hw⟩
      obtain ⟨ev, evs, hev, hrest, -⟩ := List.forall₂_cons_left_iff.1 hw
      exact ⟨⟨ev, hev⟩, evs, hrest⟩
    · rintro ⟨⟨ev, hev⟩, evs, hrest⟩
      exact ⟨ev :: evs, .cons hev hrest⟩

/-- Settings have a workload if each of their entries makes an event. -/
theorem workload_ok_iff (s : Settings) : (∃ w, s.workload = .ok w) ↔
    ∀ entry ∈ s.events, (∃ c, entry.phase.toList = [c] ∧ c.toNat < 128) ∧ entry.group ≠ "" := by
  simp only [workload, ← toEvent_ok_iff]
  split
  · next hnone =>
    rw [List.isEmpty_iff.1 hnone]
    exact iff_of_true ⟨_, rfl⟩ fun entry hm => by cases hm
  · exact workloadOf_ok_iff s.events

theorem group_of_workloadOf {entries : List EventEntry} (h : workloadOf entries = .ok w) :
    ∀ ev ∈ w, ev.group ≠ "" := by
  rw [workloadOf_eq_ok_iff] at h
  intro ev hm
  induction h with
  | nil => cases hm
  | cons hev _ ih =>
    rcases List.mem_cons.1 hm with rfl | hm
    · exact (group_of_toEvent hev).2
    · exact ih hm

/-- There is no event without a group. -/
theorem group_of_workload (h : s.workload = .ok w) : ∀ ev ∈ w, ev.group ≠ "" := by
  unfold workload at h
  split at h
  · cases h
    decide
  · exact group_of_workloadOf h

end TraceExport.Settings
