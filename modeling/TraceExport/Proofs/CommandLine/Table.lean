/-
The table of categories. It has a row for each slot of a registry, and the keyword of a row has the
bit of its slot and the reserved one. Whatever a registry of the profile has applied before, the
keyword of a row turns on the slot of the row alone, and the keywords of several rows together turn on
the slots of these rows.
-/
import TraceExport.CommandLine.Command
import TraceExport.Proofs.Keyword.Spelling
import TraceExport.Proofs.Registry.Check
import TraceExport.Proofs.Registry.Selection

namespace TraceExport.CommandLine

/-! ## Rows -/

/-- A row of the table: a category, and its keyword as it is written and as it is read. -/
structure Row where
  category : String
  text : String
  keyword : Keyword

/-- The line of a row. -/
def Row.line (row : Row) : String := row.text ++ "  " ++ row.category ++ "\n"

/-- The row of a category, by the names of a registry. -/
def Row.of (names : List String) (category : String) : Row :=
  let keyword := Registry.adding names Keyword.reserved [category]
  ⟨category, keyword.format, keyword⟩

/-- The keyword that rows make up together. -/
def combined (rows : List Row) : Keyword := rows.foldl (fun k row => k ||| row.keyword) 0

variable {names : List String} {category : String}

/-- A slot has its line. -/
theorem tableLine_showing (k : Keyword) (h : category ∈ names ++ Category.catchAlls) :
    tableLine (.showing names k) category = .ok (Row.of names category).line := by
  have hslot : ∀ name ∈ [category], name ∈ names ++ Category.catchAlls := by
    simpa only [List.forall_mem_singleton] using h
  rw [tableLine, Registry.select_showing hslot]
  rfl

theorem tableLines_showing (k : Keyword) {slots : List String} (h : ∀ name ∈ slots, name ∈ names ++ Category.catchAlls) :
    slots.mapM (tableLine (.showing names k)) = .ok ((slots.map (Row.of names)).map Row.line) := by
  induction slots with
  | nil => rfl
  | cons name slots ih =>
    rw [List.forall_mem_cons] at h
    rw [List.mapM_cons, tableLine_showing k h.1, ih h.2]
    rfl

/-! ## Keywords together -/

theorem getLsbD_combined (rows : List Row) (i : Nat) :
    (combined rows).getLsbD i = true ↔ ∃ row ∈ rows, row.keyword.getLsbD i = true := by
  have hfold (k : Keyword) : (rows.foldl (fun k row => k ||| row.keyword) k).getLsbD i = true ↔
      k.getLsbD i = true ∨ ∃ row ∈ rows, row.keyword.getLsbD i = true := by
    induction rows generalizing k with
    | nil => simp
    | cons row rows ih =>
      rw [List.foldl_cons, ih, BitVec.getLsbD_or, Bool.or_eq_true, List.exists_mem_cons_iff, or_assoc]
  have hzero : (0 : Keyword).getLsbD i = false := BitVec.getLsbD_zero
  rw [combined, hfold, hzero]
  simp

theorem combined_singleton (row : Row) : combined [row] = row.keyword := BitVec.zero_or

section

variable (hl : names.length ≤ Keyword.categoryBits) (hn : (names ++ Category.catchAlls).Nodup)
include hl hn

/-- The keyword of rows has the bit of a slot if one of the rows is for it. -/
theorem combined_bitOf {slots : List String} (hslots : ∀ name ∈ slots, name ∈ names ++ Category.catchAlls)
    (h : category ∈ names ++ Category.catchAlls) :
    (combined (slots.map (Row.of names))).getLsbD (Registry.bitOf names category) = decide (category ∈ slots) := by
  have hrow (name : String) (hm : name ∈ slots) :
      (Row.of names name).keyword.getLsbD (Registry.bitOf names category) = decide (category ∈ [name]) :=
    Registry.getLsbD_selected hl hn (by simpa only [List.forall_mem_singleton] using hslots name hm) h
  rw [Bool.eq_iff_iff, getLsbD_combined, decide_eq_true_eq]
  constructor
  · rintro ⟨_, hm, hbit⟩
    obtain ⟨name, hname, rfl⟩ := List.mem_map.1 hm
    rw [hrow name hname, decide_eq_true_eq, List.mem_singleton] at hbit
    rwa [hbit]
  · intro hm
    refine ⟨_, List.mem_map_of_mem hm, ?_⟩
    rw [hrow category hm]
    exact decide_eq_true (List.mem_singleton_self category)

/-- Rows together turn on their slots and no others. -/
theorem enabled_combined (k : Keyword) {slots : List String} (hslots : ∀ name ∈ slots, name ∈ names ++ Category.catchAlls) :
    ((Registry.showing names k).apply (combined (slots.map (Row.of names)))).2.enabled =
      (names ++ Category.catchAlls).filter (· ∈ slots) := by
  rw [Registry.apply_showing, Registry.enabled_showing hn]
  exact List.filter_congr fun name hm => combined_bitOf hl hn hslots hm

end

/-- Only one of the slots is a given one. -/
theorem filter_mem_singleton {slots : List String} (hn : slots.Nodup) (h : category ∈ slots) :
    slots.filter (· ∈ [category]) = [category] := by
  have hcount : slots.count category = 1 := List.count_eq_one_of_mem hn h
  have heq : slots.filter (· ∈ [category]) = slots.filter (· == category) :=
    List.filter_congr fun name _ => by simp only [List.mem_singleton, beq_eq_decide]
  rw [heq, List.filter_beq, hcount]
  rfl

/-! ## The table -/

/-- There is a table exactly for the profiles that pass their check. It has a line for each filtered
category, in the order of the profile, and for the catch-alls after these. The text of a line is read
as a keyword that turns on the category of the line alone, on each registry of the profile and after
any keywords, and the keywords of any choice of lines together turn on the categories of these
lines. -/
theorem keywordTable_selects (p : Profile) :
    (∀ f, p.check = .error f → keywordTable p = .error (.badProfile f)) ∧
    (p.check = .ok () → ∃ (rows : List Row) (seed : Registry),
      keywordTable p = .ok (String.join (rows.map Row.line)) ∧
      rows.map (·.category) = p.filtered ++ Category.catchAlls ∧
      (∀ row ∈ rows, Keyword.parse row.text = .ok row.keyword) ∧
      Registry.ofNames p.filtered = .ok seed ∧ ∀ ks,
        (∀ row ∈ rows, ((seed.applyAll ks).apply row.keyword).2.enabled = [row.category]) ∧
        ∀ chosen, (∀ row ∈ chosen, row ∈ rows) → ((seed.applyAll ks).apply (combined chosen)).2.enabled =
          (p.filtered ++ Category.catchAlls).filter (· ∈ chosen.map (·.category))) := by
  refine ⟨fun f hf => by simp only [keywordTable, hf], fun hp => ?_⟩
  obtain ⟨hl, -, hn⟩ := (Profile.check_eq_ok_iff p).1 hp
  have hseed := Profile.ofNames_of_check hp
  have hcategory (slots : List String) : (slots.map (Row.of p.filtered)).map (·.category) = slots := by
    rw [List.map_map]
    exact List.map_id slots
  refine ⟨(p.filtered ++ Category.catchAlls).map (Row.of p.filtered), _, ?_, hcategory _, ?_, hseed, fun ks => ⟨?_, ?_⟩⟩
  · simp only [keywordTable, hp, hseed, Registry.filteredNames_showing, tableLines_showing 0 fun _ h => h]
  · intro row hrow
    obtain ⟨name, -, rfl⟩ := List.mem_map.1 hrow
    exact Keyword.parse_of_isSpelling (Keyword.isSpelling_format _)
  · intro row hrow
    obtain ⟨name, hname, rfl⟩ := List.mem_map.1 hrow
    have hslots : ∀ slot ∈ [name], slot ∈ p.filtered ++ Category.catchAlls := List.forall_mem_singleton.2 hname
    have hone := enabled_combined hl hn (ks.getLastD 0) hslots
    rw [filter_mem_singleton hn hname] at hone
    rw [Registry.applyAll_showing, ← combined_singleton]
    exact hone
  · intro chosen hchosen
    -- a choice of rows is the rows of a choice of slots
    have hrows : (chosen.map (·.category)).map (Row.of p.filtered) = chosen := by
      rw [List.map_map]
      refine (List.map_congr_left fun row hrow => ?_).trans (List.map_id chosen)
      obtain ⟨name, -, rfl⟩ := List.mem_map.1 (hchosen row hrow)
      rfl
    have hslots : ∀ name ∈ chosen.map (·.category), name ∈ p.filtered ++ Category.catchAlls := by
      intro name hname
      obtain ⟨row, hrow, rfl⟩ := List.mem_map.1 hname
      obtain ⟨slot, hslot, rfl⟩ := List.mem_map.1 (hchosen row hrow)
      exact hslot
    rw [Registry.applyAll_showing, ← enabled_combined hl hn _ hslots, hrows]

theorem keywordTable_selects_gpu_cc :
    let p : Profile := ⟨["gpu", "cc"], []⟩
    let twice : Profile := ⟨["gpu", "cc", "gpu"], []⟩
    (twice.check = .error (.profile (.duplicate "gpu")) ∧
      keywordTable twice = .error (.badProfile (.profile (.duplicate "gpu")))) ∧
    p.check = .ok () ∧ ∃ (rows : List Row) (seed : Registry),
      keywordTable p = .ok (String.join (rows.map Row.line)) ∧
      rows.map (·.category) = ["gpu", "cc", "__OTHER_EVENTS", "__DISABLED_OTHER_EVENTS"] ∧
      Registry.ofNames p.filtered = .ok seed ∧
      ∀ row ∈ rows, ((seed.applyAll [1#64, 3#64]).apply row.keyword).2.enabled = [row.category] := by
  intro p twice
  have hp : p.check = .ok () := by decide
  have ht : twice.check = .error (.profile (.duplicate "gpu")) := by decide
  obtain ⟨rows, seed, htable, hrows, -, hseed, hall⟩ := (keywordTable_selects p).2 hp
  exact ⟨⟨ht, (keywordTable_selects twice).1 _ ht⟩, hp, rows, seed, htable, hrows, hseed, (hall [1#64, 3#64]).1⟩

example : keywordTable ⟨["gpu"], []⟩ = .ok ("0x8000000000000001  gpu\n" ++
    "0xA000000000000000  __OTHER_EVENTS\n" ++ "0xC000000000000000  __DISABLED_OTHER_EVENTS\n") := by decide

end TraceExport.CommandLine
