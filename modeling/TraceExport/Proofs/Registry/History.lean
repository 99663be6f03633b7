/-
Registries over time: a registry is a function of its names and of the keyword applied last, and
the keywords before leave no trace. With the names that `ofNames` takes, every slot has a bit of
its own, so after any keywords each question is answered by bits of the last one.
-/
import TraceExport.Registry.Query
import Mathlib.Data.List.Nodup

namespace TraceExport.Registry

/-! ## Names without repetition -/

theorem length_eraseDups_le (l : List String) : l.eraseDups.length ≤ l.length := by
  match l with
  | [] => simp
  | a :: as =>
    have hf := List.length_filter_le (fun b => !b == a) as
    have ih := length_eraseDups_le (as.filter fun b => !b == a)
    rw [List.eraseDups_cons, List.length_cons, List.length_cons]
    omega
termination_by l.length
decreasing_by exact Nat.lt_succ_of_le (List.length_filter_le ..)

/-- Counting different names finds every repetition. -/
theorem length_eraseDups_eq_iff (l : List String) : l.eraseDups.length = l.length ↔ l.Nodup := by
  induction l with
  | nil => simp
  | cons a as ih =>
    rw [List.eraseDups_cons, List.length_cons, List.length_cons, List.nodup_cons]
    have hf := List.length_filter_le (fun b => !b == a) as
    have hd := length_eraseDups_le (as.filter fun b => !b == a)
    constructor
    · intro h
      have hkeep : as.filter (fun b => !b == a) = as := List.filter_eq_self.2
        (List.length_filter_eq_length_iff.1 (by omega))
      have hmem : a ∉ as := fun ha => by simpa using List.filter_eq_self.1 hkeep a ha
      rw [hkeep] at h
      exact ⟨hmem, ih.1 (by omega)⟩
    · rintro ⟨ha, hn⟩
      have hkeep : as.filter (fun b => !b == a) = as :=
        List.filter_eq_self.2 fun b hb => by simpa using fun e : b = a => ha (e ▸ hb)
      rw [hkeep, ih.2 hn]

/-! ## The registry of a keyword -/

/-- The registry with these names whose last keyword is `k`. -/
def showing (names : List String) (k : Keyword) : Registry where
  filtered := names.mapIdx fun i name => (name, k.getLsbD i)
  other := k.getLsbD 61
  disabledOther := k.getLsbD 62
  last := k

/-- The bit that a category goes by: its own, or that of a catch-all. -/
def bitOf (names : List String) (name : String) : Nat :=
  match names.idxOf? name with
  | some i => i
  | none =>
    if name = Category.otherEvents then 61
    else if name = Category.disabledOtherEvents then 62
    else if Category.isDisabledByDefault name then 62 else 61

section

variable (names : List String) (k : Keyword)

@[simp]
theorem last_showing : (showing names k).last = k := rfl

@[simp]
theorem filteredNames_showing : (showing names k).filteredNames = names :=
  List.ext_getElem (by simp [filteredNames, showing]) (by simp [filteredNames, showing])

@[simp]
theorem filteredCount_showing : (showing names k).filteredCount = names.length := by
  simp [filteredCount, showing]

@[simp]
theorem count_showing : (showing names k).count = names.length + 2 := by simp [count]

theorem slots_showing : (showing names k).slots =
    names.mapIdx (fun i name => (name, k.getLsbD i)) ++
      [(Category.otherEvents, k.getLsbD 61), (Category.disabledOtherEvents, k.getLsbD 62)] := rfl

theorem names_slots_showing :
    (showing names k).slots.map (·.1) = names ++ Category.catchAlls := by
  have h : (showing names k).filtered.map (·.1) = names := filteredNames_showing names k
  rw [slots, List.map_append, h]
  rfl

/-- A keyword says all there is to say of the states. -/
theorem apply_showing (k' : Keyword) : (showing names k).apply k' =
    (if k = k' then .unchanged else .changed, showing names k') := by
  unfold apply
  by_cases h : k = k'
  · simp [h]
  · simp [h, showing, List.mapIdx_mapIdx, Function.comp_def]

theorem checkSize_showing_eq_ok_iff :
    (showing names k).checkSize = .ok () ↔ (names ++ Category.catchAlls).Nodup := by
  have hlen : (names ++ Category.catchAlls).length = names.length + 2 := by simp [Category.catchAlls]
  unfold checkSize
  simp only [names_slots_showing, count_showing]
  rw [← length_eraseDups_eq_iff, hlen]
  split <;> simp_all

theorem showing_zero : showing names 0 = ⟨names.map (·, false), false, false, 0⟩ := by
  have h : (showing names 0).filtered = names.map (·, false) :=
    List.ext_getElem (by simp [showing]) (by simp [showing])
  rw [← h]
  rfl

end

/-- A registry is made of names that fit below the catch-all bits and do not repeat. -/
theorem ofNames_eq_ok_iff (names : List String) (r : Registry) : ofNames names = .ok r ↔
    names.length ≤ Keyword.categoryBits ∧ (names ++ Category.catchAlls).Nodup ∧
      r = showing names 0 := by
  unfold ofNames
  rw [← showing_zero, ← checkSize_showing_eq_ok_iff names 0]
  generalize showing names 0 = s
  by_cases hl : Keyword.categoryBits < names.length
  · simp only [hl, if_true, reduceCtorEq, false_iff, not_and]
    intro hle
    omega
  · rw [if_neg hl]
    dsimp only
    cases s.checkSize with
    | error p => simp
    | ok u => simp [Nat.not_lt.1 hl, eq_comm]

/-! ## What a registry shows -/

theorem lookup_mapIdx (f : Nat → Bool) (name : String) (names : List String) :
    (names.mapIdx fun i n => (n, f i)).lookup name = (names.idxOf? name).map f := by
  induction names generalizing f with
  | nil => rfl
  | cons n names ih =>
    rw [List.mapIdx_cons, List.lookup_cons, List.idxOf?_cons, ih fun i => f (i + 1)]
    by_cases h : n = name
    · simp [h]
    · have hb : (name == n) = false := by simpa using Ne.symm h
      simp [h, hb, Function.comp_def]

/-- Every category goes by one bit. -/
theorem isOn_showing (names : List String) (k : Keyword) (name : String) :
    (showing names k).isOn name = k.getLsbD (bitOf names name) := by
  unfold isOn bitOf
  rw [slots_showing, List.lookup_append, lookup_mapIdx]
  cases names.idxOf? name with
  | some i => rfl
  | none =>
    by_cases ho : name = Category.otherEvents
    · simp [ho]
    have hbo : (name == Category.otherEvents) = false := by simpa using ho
    by_cases hd : name = Category.disabledOtherEvents
    · rw [if_neg ho, if_pos hd, List.lookup_cons, hbo]
      simp [hd]
    have hbd : (name == Category.disabledOtherEvents) = false := by simpa using hd
    rw [if_neg ho, if_neg hd, List.lookup_cons, hbo, List.lookup_cons, hbd]
    cases Category.isDisabledByDefault name <;> rfl

theorem bitOf_of_notMem {names : List String} {name : String} (h : name ∉ names ++ Category.catchAlls) :
    bitOf names name = if Category.isDisabledByDefault name then 62 else 61 := by
  have hn : name ∉ names := fun hm => h (List.mem_append_left _ hm)
  have hc : name ∉ Category.catchAlls := fun hm => h (List.mem_append_right _ hm)
  simp only [Category.catchAlls, List.mem_cons, List.not_mem_nil, or_false, not_or] at hc
  simp [bitOf, List.idxOf?_eq_none_iff.2 hn, hc.1, hc.2]

theorem lookup_of_mem {l : List (String × Bool)} (hn : (l.map (·.1)).Nodup) {name : String} {on : Bool}
    (hm : (name, on) ∈ l) : l.lookup name = some on := by
  induction l with
  | nil => cases hm
  | cons p l ih =>
    obtain ⟨n, b⟩ := p
    rw [List.map_cons, List.nodup_cons] at hn
    rw [List.lookup_cons]
    rcases List.mem_cons.1 hm with h | h
    · cases h; simp
    · have hne : (name == n) = false := by
        have : name ≠ n := fun e => hn.1 (e ▸ List.mem_map_of_mem (f := (·.1)) h)
        simpa using this
      rw [hne]
      exact ih hn.2 h

/-- What a registry with these names shows when its last keyword is `k`. -/
structure Shows (names : List String) (k : Keyword) (r : Registry) : Prop where
  last : r.last = k
  /-- The check of the size passes. -/
  size : r.checkSize = .ok ()
  filteredNames : r.filteredNames = names
  filteredCount : r.filteredCount = names.length
  count : r.count = names.length + 2
  /-- The slots bear the bits of the keyword. -/
  slots : r.slots = names.mapIdx (fun i name => (name, k.getLsbD i)) ++
    [(Category.otherEvents, k.getLsbD 61), (Category.disabledOtherEvents, k.getLsbD 62)]
  isOn_slot : ∀ name on, (name, on) ∈ r.slots → r.isOn name = on
  isOn_rest : ∀ name, name ∉ r.slots.map (·.1) →
    r.isOn name = k.getLsbD (if Category.isDisabledByDefault name then 62 else 61)
  enabled : r.enabled = (r.slots.map (·.1)).filter r.isOn

theorem shows_showing {names : List String} (hn : (names ++ Category.catchAlls).Nodup) (k : Keyword) :
    (showing names k).Shows names k := by
  have hslot : ∀ name on, (name, on) ∈ (showing names k).slots → (showing names k).isOn name = on := by
    intro name on hm
    rw [← names_slots_showing names k] at hn
    rw [isOn, lookup_of_mem hn hm]
  refine ⟨rfl, (checkSize_showing_eq_ok_iff names k).2 hn, filteredNames_showing names k,
    filteredCount_showing names k, count_showing names k, slots_showing names k, hslot, ?_, ?_⟩
  · intro name hm
    rw [names_slots_showing] at hm
    rw [isOn_showing, bitOf_of_notMem hm]
  · rw [Registry.enabled, List.filter_map]
    congr 1
    exact List.filter_congr fun slot hm => (hslot slot.1 slot.2 hm).symm

/-! ## Keywords one after the other -/

/-- The registry after keywords. -/
def applyAll (r : Registry) (ks : List Keyword) : Registry := ks.foldl (fun r k => (r.apply k).2) r

theorem applyAll_showing (names : List String) (k : Keyword) (ks : List Keyword) :
    (showing names k).applyAll ks = showing names (ks.getLastD k) := by
  induction ks generalizing k with
  | nil => rfl
  | cons k' ks ih =>
    rw [applyAll, List.foldl_cons, apply_showing, List.getLastD_cons]
    exact ih k'

/-- Whether a question leaves the registry as it is and asks for something other than the last
keyword. -/
def Query.readsStates : Query → Bool
  | .apply _ | .last => false
  | _ => true

/-- Two registries that differ in the last keyword only answer such questions alike. -/
theorem ask_eq_of_readsStates {r s : Registry} (h : s = { r with last := s.last }) {q : Query}
    (hq : q.readsStates) : (s.ask q).1 = (r.ask q).1 ∧ (s.ask q).2 = s ∧ (r.ask q).2 = r := by
  cases q with
  | apply k => cases hq
  | last => cases hq
  | select names =>
    have hs : s.select names = r.select names := by rw [h]; rfl
    simp only [ask, hs]
    cases r.select names <;> exact ⟨rfl, rfl, rfl⟩
  | _ => rw [h]; exact ⟨rfl, rfl, rfl⟩

theorem askAll_eq_of_readsStates {r s : Registry} (h : s = { r with last := s.last }) {qs : List Query}
    (hq : ∀ q ∈ qs, q.readsStates) : s.askAll qs = r.askAll qs := by
  induction qs with
  | nil => rfl
  | cons q qs ih =>
    obtain ⟨ha, hs, hr⟩ := ask_eq_of_readsStates h (hq q (List.mem_cons_self ..))
    rw [askAll, askAll, ha, hs, hr, ih fun q hm => hq q (List.mem_cons_of_mem _ hm)]

theorem showing_eq_of_bits {names : List String} {k k' : Keyword}
    (h : ∀ i, i < names.length ∨ i = 61 ∨ i = 62 → k.getLsbD i = k'.getLsbD i) :
    showing names k' = { showing names k with last := k' } := by
  have hf : names.mapIdx (fun i name => (name, k'.getLsbD i)) =
      names.mapIdx (fun i name => (name, k.getLsbD i)) :=
    List.ext_getElem (by simp) fun i hi _ => by
      simp only [List.length_mapIdx] at hi
      simp [h i (.inl hi)]
  have h61 := h 61 (.inr (.inl rfl))
  have h62 := h 62 (.inr (.inr rfl))
  simp only [showing, hf, h61, h62]

/-- The state of a registry is a function of the keyword applied last. After any keywords it shows
the last one, each keyword is a change if it differs from the one before, and no question about
the states tells two histories apart that end in the same bits of the slots. -/
theorem shows_applyAll_of_ofNames {names : List String} {r : Registry} (h : ofNames names = .ok r) :
    names.length ≤ Keyword.categoryBits ∧
    (∀ ks, (r.applyAll ks).Shows names (ks.getLastD 0)) ∧
    (∀ ks k, ((r.applyAll ks).apply k).1 = if k = ks.getLastD 0 then .unchanged else .changed) ∧
    ∀ ks ks' : List Keyword, (∀ i, i < names.length ∨ i = 61 ∨ i = 62 →
        (ks.getLastD 0).getLsbD i = (ks'.getLastD 0).getLsbD i) →
      ∀ qs : List Query, (∀ q ∈ qs, q.readsStates) → (r.applyAll ks).askAll qs = (r.applyAll ks').askAll qs := by
  obtain ⟨hl, hn, rfl⟩ := (ofNames_eq_ok_iff names r).1 h
  refine ⟨hl, fun ks => ?_, fun ks k => ?_, fun ks ks' hk qs hq => ?_⟩
  · rw [applyAll_showing]
    exact shows_showing hn _
  · rw [applyAll_showing, apply_showing]
    simp only [eq_comm]
  · rw [applyAll_showing, applyAll_showing]
    exact askAll_eq_of_readsStates (showing_eq_of_bits fun i hi => (hk i hi).symm) hq

theorem shows_applyAll_gpu_cc : ofNames ["gpu", "cc"] = .ok (showing ["gpu", "cc"] 0) ∧
    ((showing ["gpu", "cc"] 0).applyAll [3#64, 0#64, 2#64]).Shows ["gpu", "cc"] 2#64 := by
  have h : ofNames ["gpu", "cc"] = .ok (showing ["gpu", "cc"] 0) := by decide
  exact ⟨h, (shows_applyAll_of_ofNames h).2.1 [3#64, 0#64, 2#64]⟩

end TraceExport.Registry
