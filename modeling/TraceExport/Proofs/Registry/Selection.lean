/-
Keywords made of names, and names made of keywords. Every slot has a bit of its own, away from the
reserved one, so the keyword of some slots has these bits and no others, and a registry that applies
it has these slots on and no others. The other way round, the slots that a keyword turns on make up
the bits of it that the registry looks at.
-/
import TraceExport.Proofs.Registry.History
import Mathlib.Tactic

namespace TraceExport.Registry

variable {names : List String} {k : Keyword} {name : String}

/-! ## The bits of slots -/

theorem bitOf_of_mem (h : name ∈ names) :
    bitOf names name < names.length ∧ names[bitOf names name]? = some name := by
  obtain ⟨i, hi⟩ := Option.isSome_iff_exists.1 (List.isSome_idxOf?.2 h)
  have hb : bitOf names name = i := by rw [bitOf, hi]
  obtain ⟨hlt, hget, -⟩ := List.idxOf?_eq_some_iff.1 hi
  rw [hb]
  exact ⟨hlt, by rw [List.getElem?_eq_getElem hlt, hget]⟩

theorem bitOf_getElem (hn : names.Nodup) {i : Nat} (hi : i < names.length) : bitOf names names[i] = i := by
  obtain ⟨hlt, hget⟩ := bitOf_of_mem (List.getElem_mem hi)
  rw [List.getElem?_eq_getElem hlt, Option.some.injEq] at hget
  exact (List.Nodup.getElem_inj_iff hn).1 hget

theorem bitOf_catchAll (hn : (names ++ Category.catchAlls).Nodup) :
    bitOf names Category.otherEvents = 61 ∧ bitOf names Category.disabledOtherEvents = 62 := by
  have hfree (name : String) (hm : name ∈ Category.catchAlls) : names.idxOf? name = none :=
    List.idxOf?_eq_none_iff.2 fun hname => (List.nodup_append.1 hn).2.2 name hname name hm rfl
  constructor
  · rw [bitOf, hfree _ (by simp [Category.catchAlls])]
    rfl
  · rw [bitOf, hfree _ (by simp [Category.catchAlls])]
    rfl

/-- No two slots have one bit, and none has that of the reserved one. -/
theorem bitOf_slot (hl : names.length ≤ Keyword.categoryBits) (hn : (names ++ Category.catchAlls).Nodup)
    (h : name ∈ names ++ Category.catchAlls) :
    bitOf names name < 63 ∧ ∀ other ∈ names ++ Category.catchAlls, bitOf names other = bitOf names name → other = name := by
  obtain ⟨hother, hdisabled⟩ := bitOf_catchAll hn
  have hplace (name : String) (h : name ∈ names ++ Category.catchAlls) :
      bitOf names name < 61 ∧ names[bitOf names name]? = some name ∨
      bitOf names name = 61 ∧ name = Category.otherEvents ∨
      bitOf names name = 62 ∧ name = Category.disabledOtherEvents := by
    rcases List.mem_append.1 h with hm | hm
    · obtain ⟨hlt, hget⟩ := bitOf_of_mem hm
      exact .inl ⟨Nat.lt_of_lt_of_le hlt hl, hget⟩
    · rcases List.mem_pair.1 hm with rfl | rfl
      · exact .inr (.inl ⟨hother, rfl⟩)
      · exact .inr (.inr ⟨hdisabled, rfl⟩)
  refine ⟨?_, fun other ho he => ?_⟩
  · rcases hplace name h with h | h | h <;> omega
  · rcases hplace name h with ⟨hb, hg⟩ | ⟨hb, rfl⟩ | ⟨hb, rfl⟩ <;>
      rcases hplace other ho with ⟨hb', hg'⟩ | ⟨hb', rfl⟩ | ⟨hb', rfl⟩ <;> try omega
    · rw [he, hg] at hg'
      exact (Option.some.inj hg').symm
    · rfl
    · rfl

/-! ## The keyword of names -/

theorem bit?_showing (h : name ∈ names ++ Category.catchAlls) :
    (showing names k).bit? name = some (1#64 <<< bitOf names name) := by
  unfold bit? bitOf
  rw [filteredNames_showing]
  cases hi : names.idxOf? name with
  | some i => rfl
  | none =>
    have hc := (List.mem_append.1 h).resolve_left (List.idxOf?_eq_none_iff.1 hi)
    rcases List.mem_pair.1 hc with rfl | rfl <;> rfl

theorem getLsbD_one_shiftLeft (i j : Nat) : (1#64 <<< j).getLsbD i = true ↔ i < 64 ∧ j = i := by
  simp only [BitVec.getLsbD_shiftLeft, BitVec.getLsbD_one, Bool.and_eq_true, Bool.not_eq_true',
    decide_eq_true_eq, decide_eq_false_iff_not]
  omega

/-- The keyword with the bits of some names, added to those it has. -/
def adding (names : List String) (k : Keyword) (list : List String) : Keyword :=
  list.foldl (fun k name => k ||| 1#64 <<< bitOf names name) k

theorem getLsbD_adding (k : Keyword) (list : List String) (i : Nat) :
    (adding names k list).getLsbD i = true ↔
      k.getLsbD i = true ∨ i < 64 ∧ ∃ name ∈ list, bitOf names name = i := by
  induction list generalizing k with
  | nil => simp [adding]
  | cons name list ih =>
    rw [adding, List.foldl_cons, ← adding, ih, List.exists_mem_cons_iff]
    rw [BitVec.getLsbD_or, Bool.or_eq_true, getLsbD_one_shiftLeft, and_or_left, or_assoc]

/-- Slots can always be selected. -/
theorem select_showing {list : List String} (h : ∀ name ∈ list, name ∈ names ++ Category.catchAlls) :
    (showing names k).select list = .ok (adding names Keyword.reserved list) := by
  unfold select adding
  generalize Keyword.reserved = start
  induction list generalizing start with
  | nil => rfl
  | cons name list ih =>
    rw [List.foldlM_cons, bit?_showing (h name (List.mem_cons_self ..)), List.foldl_cons]
    exact ih (fun other hm => h other (List.mem_cons_of_mem _ hm)) _

/-! ## There and back -/

theorem enabled_showing (hn : (names ++ Category.catchAlls).Nodup) (k : Keyword) :
    (showing names k).enabled = (names ++ Category.catchAlls).filter fun name => k.getLsbD (bitOf names name) := by
  rw [(shows_showing hn k).enabled, names_slots_showing]
  exact List.filter_congr fun name _ => isOn_showing names k name

/-- The keyword of some slots has the bit of a slot if it is one of them. -/
theorem getLsbD_selected (hl : names.length ≤ Keyword.categoryBits) (hn : (names ++ Category.catchAlls).Nodup)
    {list : List String} (hlist : ∀ name ∈ list, name ∈ names ++ Category.catchAlls)
    (h : name ∈ names ++ Category.catchAlls) :
    (adding names Keyword.reserved list).getLsbD (bitOf names name) = decide (name ∈ list) := by
  obtain ⟨hlt, hinj⟩ := bitOf_slot hl hn h
  rw [Bool.eq_iff_iff, getLsbD_adding, decide_eq_true_eq]
  constructor
  · rintro (hr | ⟨-, other, hm, he⟩)
    · rw [Keyword.reserved, getLsbD_one_shiftLeft] at hr
      omega
    · rwa [← hinj other (hlist other hm) he]
  · exact fun hm => .inr ⟨by omega, name, hm, rfl⟩

/-- The bits that a registry looks at are those of its slots. -/
theorem exists_slot_iff (hn : (names ++ Category.catchAlls).Nodup) (i : Nat) :
    (∃ name ∈ names ++ Category.catchAlls, bitOf names name = i) ↔ i < names.length ∨ i = 61 ∨ i = 62 := by
  obtain ⟨hother, hdisabled⟩ := bitOf_catchAll hn
  constructor
  · rintro ⟨name, hm, rfl⟩
    rcases List.mem_append.1 hm with hm | hm
    · exact .inl (bitOf_of_mem hm).1
    · rcases List.mem_pair.1 hm with rfl | rfl
      · exact .inr (.inl hother)
      · exact .inr (.inr hdisabled)
  · rintro (hi | rfl | rfl)
    · exact ⟨names[i], List.mem_append_left _ (List.getElem_mem hi), bitOf_getElem (List.nodup_append.1 hn).1 hi⟩
    · exact ⟨_, List.mem_append_right _ (by simp [Category.catchAlls]), hother⟩
    · exact ⟨_, List.mem_append_right _ (by simp [Category.catchAlls]), hdisabled⟩

/-- Selecting and applying undo each other, on any registry that was made of names and has applied any
keywords. Slots can always be selected, and applying their keyword turns on these slots and no
others. The slots that a keyword turns on have a keyword with the bits that it has for slots and the
reserved one, which leaves the slots as they are. -/
theorem select_apply_inverse {seed : Registry} (h : ofNames names = .ok seed) (ks : List Keyword) :
    let r := seed.applyAll ks
    (∀ list, (∀ name ∈ list, name ∈ r.slots.map (·.1)) → ∃ k, r.select list = .ok k ∧
      (r.apply k).2.enabled = (r.slots.map (·.1)).filter (· ∈ list)) ∧
    ∀ k, ∃ k', (r.apply k).2.select (r.apply k).2.enabled = .ok k' ∧
      (∀ i, k'.getLsbD i = true ↔ i = 63 ∨ k.getLsbD i = true ∧ (i < names.length ∨ i = 61 ∨ i = 62)) ∧
      (r.apply k').2.slots = (r.apply k).2.slots ∧ ((r.apply k).2.apply k').2.slots = (r.apply k).2.slots := by
  obtain ⟨hl, hn, rfl⟩ := (ofNames_eq_ok_iff names seed).1 h
  intro r
  have hr : r = showing names (ks.getLastD 0) := applyAll_showing names 0 ks
  simp only [hr, apply_showing, names_slots_showing]
  refine ⟨fun list hlist => ⟨_, select_showing hlist, ?_⟩, fun k => ⟨_, select_showing ?_, ?_⟩⟩
  · rw [enabled_showing hn]
    exact List.filter_congr fun name hm => getLsbD_selected hl hn hlist hm
  · rw [enabled_showing hn]
    exact fun name hm => (List.mem_filter.1 hm).1
  have hbits (i : Nat) : (adding names Keyword.reserved (showing names k).enabled).getLsbD i = true ↔
      i = 63 ∨ k.getLsbD i = true ∧ (i < names.length ∨ i = 61 ∨ i = 62) := by
    rw [getLsbD_adding, Keyword.reserved, getLsbD_one_shiftLeft, enabled_showing hn, ← exists_slot_iff hn]
    constructor
    · rintro (⟨-, hi⟩ | ⟨-, name, hm, rfl⟩)
      · exact .inl hi.symm
      · obtain ⟨hslot, hon⟩ := List.mem_filter.1 hm
        exact .inr ⟨hon, name, hslot, rfl⟩
    · rintro (rfl | ⟨hon, name, hslot, rfl⟩)
      · exact .inl ⟨by decide, rfl⟩
      · exact .inr ⟨BitVec.lt_of_getLsbD hon, name, List.mem_filter.2 ⟨hslot, hon⟩, rfl⟩
  -- the slots look at no other bit, and none of them at the reserved one
  have hsame (i : Nat) (hi : i < names.length ∨ i = 61 ∨ i = 62) :
      k.getLsbD i = (adding names Keyword.reserved (showing names k).enabled).getLsbD i := by
    have hne : i ≠ 63 := by
      rw [Keyword.categoryBits] at hl
      omega
    rw [Bool.eq_iff_iff, hbits]
    simp [hne, hi]
  have hslots := showing_eq_of_bits hsame
  refine ⟨hbits, ?_, ?_⟩
  · rw [hslots]
    rfl
  · rw [hslots]
    rfl

theorem select_apply_inverse_gpu_cc :
    let r := (showing ["gpu", "cc"] 0).applyAll [1#64, 0x4000000000000002#64]
    ofNames ["gpu", "cc"] = .ok (showing ["gpu", "cc"] 0) ∧
    (∃ k, r.select ["cc", "__OTHER_EVENTS", "cc"] = .ok k ∧ (r.apply k).2.enabled = ["cc", "__OTHER_EVENTS"]) ∧
    ∃ k, (r.apply 0x1000000000000006#64).2.select ["cc"] = .ok k ∧
      (r.apply k).2.slots = (r.apply 0x1000000000000006#64).2.slots := by
  intro r
  have h : ofNames ["gpu", "cc"] = .ok (showing ["gpu", "cc"] 0) := by decide
  obtain ⟨hselect, happly⟩ := select_apply_inverse h [1#64, 0x4000000000000002#64]
  obtain ⟨k, hk, -, hslots, -⟩ := happly 0x1000000000000006#64
  exact ⟨h, hselect ["cc", "__OTHER_EVENTS", "cc"] (by decide), k, hk, hslots⟩

end TraceExport.Registry
