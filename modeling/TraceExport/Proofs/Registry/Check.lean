/-
Profiles that pass their check. The check goes through the filtered names once, remembering those it
has seen; it finds no fault where every name is that of a single category and none stands twice or
for a catch-all. Of such names a registry can always be made.
-/
import TraceExport.Profile
import TraceExport.Proofs.Registry.History

namespace TraceExport.Profile

/-- No fault is found in names that are well-formed, differ from each other, and are neither
catch-alls nor among those that were seen. -/
theorem firstFault_eq_none_iff (seen names : List String) :
    firstFault seen names = none ↔ (∀ name ∈ names, name ≠ "" ∧ ',' ∉ name.toList) ∧
      names.Nodup ∧ ∀ name ∈ names, name ∉ Category.catchAlls ∧ name ∉ seen := by
  induction names generalizing seen with
  | nil => simp [firstFault]
  | cons name names ih =>
    unfold firstFault
    split
    · next hbad =>
      refine iff_of_false (fun h => by cases h) fun h => ?_
      obtain ⟨hname, hcomma⟩ := h.1 name (List.mem_cons_self ..)
      exact hbad.elim hname hcomma
    split
    · next hcatch =>
      exact iff_of_false (fun h => by cases h) fun h => (h.2.2 name (List.mem_cons_self ..)).1 hcatch
    split
    · next hseen =>
      exact iff_of_false (fun h => by cases h) fun h => (h.2.2 name (List.mem_cons_self ..)).2 hseen
    next hbad hcatch hseen =>
    obtain ⟨hname, hcomma⟩ := not_or.1 hbad
    rw [ih, List.forall_mem_cons, List.nodup_cons, List.forall_mem_cons]
    constructor
    · rintro ⟨hok, hn, hfresh⟩
      refine ⟨⟨⟨hname, hcomma⟩, hok⟩, ⟨fun hm => (hfresh name hm).2 (List.mem_cons_self ..), hn⟩,
        ⟨hcatch, hseen⟩, fun other hm => ?_⟩
      exact ⟨(hfresh other hm).1, fun hs => (hfresh other hm).2 (List.mem_cons_of_mem _ hs)⟩
    · rintro ⟨⟨-, hok⟩, ⟨hnot, hn⟩, -, hfresh⟩
      refine ⟨hok, hn, fun other hm => ⟨(hfresh other hm).1, fun hs => ?_⟩⟩
      rcases List.mem_cons.1 hs with rfl | hs
      · exact hnot hm
      · exact (hfresh other hm).2 hs

/-- Slots differ from each other if the names do and none of them is a catch-all. -/
theorem nodup_catchAlls_iff (names : List String) :
    (names ++ Category.catchAlls).Nodup ↔ names.Nodup ∧ ∀ name ∈ names, name ∉ Category.catchAlls := by
  have hcatch : Category.catchAlls.Nodup := by decide
  rw [List.nodup_append']
  simp only [hcatch, List.disjoint_left, true_and]

/-- A profile passes its check if its names fit into the keyword, are names of one category each, and
differ from each other and from the catch-alls. -/
theorem check_eq_ok_iff (p : Profile) :
    p.check = .ok () ↔ p.filtered.length ≤ Keyword.categoryBits ∧
      (∀ name ∈ p.filtered, name ≠ "" ∧ ',' ∉ name.toList) ∧ (p.filtered ++ Category.catchAlls).Nodup := by
  have hnodup : (p.filtered ++ Category.catchAlls).Nodup ↔
      p.filtered.Nodup ∧ ∀ name ∈ p.filtered, name ∉ Category.catchAlls ∧ name ∉ ([] : List String) := by
    simpa using nodup_catchAlls_iff p.filtered
  unfold check
  by_cases hl : Keyword.categoryBits < p.filtered.length
  · rw [if_pos hl]
    refine iff_of_false (fun h => by cases h) fun h => ?_
    have := h.1
    omega
  · rw [if_neg hl, hnodup, ← firstFault_eq_none_iff [] p.filtered]
    cases firstFault [] p.filtered with
    | some fault => exact iff_of_false (fun h => by cases h) fun h => by cases h.2
    | none => exact iff_of_true rfl ⟨Nat.le_of_not_lt hl, rfl⟩

/-- A check that fails says what is wrong with the profile. -/
theorem check_cases (p : Profile) : p.check = .ok () ∨ ∃ fault, p.check = .error (.profile fault) := by
  unfold check
  split
  · exact .inr ⟨_, rfl⟩
  · split
    · exact .inr ⟨_, rfl⟩
    · exact .inl rfl

/-- A registry can be made of the names of a profile that passes its check. -/
theorem ofNames_of_check {p : Profile} (h : p.check = .ok ()) :
    Registry.ofNames p.filtered = .ok (.showing p.filtered 0) := by
  obtain ⟨hl, -, hn⟩ := (check_eq_ok_iff p).1 h
  exact (Registry.ofNames_eq_ok_iff _ _).2 ⟨hl, hn, rfl⟩

/-- No registry can be made of names that are too many, repeat or stand for a catch-all. -/
theorem ofNames_error_iff (names : List String) :
    (∃ panic, Registry.ofNames names = .error panic) ↔
      Keyword.categoryBits < names.length ∨ ¬ names.Nodup ∨ ∃ name ∈ names, name ∈ Category.catchAlls := by
  have hok := Registry.ofNames_eq_ok_iff names
  rw [nodup_catchAlls_iff] at hok
  cases hr : Registry.ofNames names with
  | error p =>
    refine iff_of_true ⟨p, rfl⟩ ?_
    by_contra hall
    simp only [not_or, not_not, not_exists, not_and] at hall
    obtain ⟨hl, hn, hc⟩ := hall
    have h := (hok (.showing names 0)).2 ⟨Nat.le_of_not_lt hl, ⟨hn, hc⟩, rfl⟩
    rw [hr] at h
    cases h
  | ok r =>
    obtain ⟨hl, ⟨hn, hc⟩, -⟩ := (hok r).1 hr
    refine iff_of_false (fun ⟨_, h⟩ => by cases h) ?_
    rintro (hlt | hrep | ⟨name, hm, hcatch⟩)
    · omega
    · exact hrep hn
    · exact hc name hm hcatch

end TraceExport.Profile
