/-
Phases of events. A phase is a code of eight bits, and a consumer is shown a label for it.
-/
namespace TraceExport.Phase

/-- The codes with a label of their own, by the character of each code. -/
def labels : List (Char × String) := [
  ('B', "Begin"), ('E', "End"), ('X', "Complete"), ('I', "Instant"),
  ('S', "Async Begin"), ('T', "Async Step Into"), ('p', "Async Step Past"), ('F', "Async End"),
  ('b', "Nestable Async Begin"), ('e', "Nestable Async End"), ('n', "Nestable Async Instant"),
  ('s', "Phase Flow Begin"), ('t', "Phase Flow Step"), ('f', "Phase Flow End"),
  ('M', "Phase Metadata"), ('C', "Phase Counter"), ('P', "Phase Sample"),
  ('N', "Phase Create Object"), ('O', "Phase Snapshot Object"), ('D', "Phase Delete Object")]

/-- The label of a phase. A code without one is shown as its character, and code 0 not at all. -/
def label (code : UInt8) : String :=
  if code = 0 then ""
  else
    let c := Char.ofNat code.toNat
    (labels.lookup c).getD (String.singleton c)

/-- The codes with a label of their own, as numbers. -/
def table : List (UInt8 × String) := [
  (66, "Begin"), (69, "End"), (88, "Complete"), (73, "Instant"),
  (83, "Async Begin"), (84, "Async Step Into"), (112, "Async Step Past"), (70, "Async End"),
  (98, "Nestable Async Begin"), (101, "Nestable Async End"), (110, "Nestable Async Instant"),
  (115, "Phase Flow Begin"), (116, "Phase Flow Step"), (102, "Phase Flow End"),
  (77, "Phase Metadata"), (67, "Phase Counter"), (80, "Phase Sample"),
  (78, "Phase Create Object"), (79, "Phase Snapshot Object"), (68, "Phase Delete Object")]

theorem label_zero : label 0 = "" := rfl

theorem label_of_mem_table : ∀ row ∈ table, label row.1 = row.2 := by decide

theorem toNat_char (code : UInt8) : (Char.ofNat code.toNat).toNat = code.toNat := by
  have hvalid : code.toNat.isValidChar := .inl (Nat.lt_trans code.toNat_lt (by decide))
  rw [Char.ofNat, dif_pos hvalid]
  rfl

/-- Any other code but 0 is shown as its character. -/
theorem label_of_notMem_table {code : UInt8} (hzero : code ≠ 0) (h : ∀ row ∈ table, row.1 ≠ code) :
    label code = String.singleton (Char.ofNat code.toNat) := by
  have hrows : ∀ entry ∈ labels, ∃ row ∈ table, row.1 = UInt8.ofNat entry.1.toNat := by decide
  have hnone : labels.lookup (Char.ofNat code.toNat) = none := by
    refine List.lookup_eq_none_iff.2 fun entry hm => bne_iff_ne.2 fun hchar => ?_
    obtain ⟨row, hrow, hcode⟩ := hrows entry hm
    rw [← hchar, toNat_char, UInt8.ofNat_toNat] at hcode
    exact h row hrow hcode
  unfold label
  rw [if_neg hzero]
  dsimp only
  rw [hnone, Option.getD_none]

/-- The label of the event that closes a complete event. -/
def completeEnd : String := "Complete End"

end TraceExport.Phase
