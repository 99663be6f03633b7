/-
Which texts are keywords. Of a text count neither the blanks at its two ends nor the underscores.
What is left is a numeral in base sixteen behind a mark of that base, and in base ten otherwise. The
text is a keyword if the numeral stands for a number of sixty-four bits. If not, the error has the
text and the first fault of the numeral.
-/
import TraceExport.Keyword
import TraceExport.Proofs.Text.Numeral
import Mathlib.Data.List.DropRight

namespace TraceExport

namespace Text

variable {cs core : List Char}

/-! ## Blanks at the ends -/

/-- What is left of a text without the blanks at its two ends. -/
structure IsCore (cs core : List Char) : Prop where
  parts : ∃ before after, cs = before ++ core ++ after ∧
    (∀ c ∈ before, isBlank c = true) ∧ ∀ c ∈ after, isBlank c = true
  first : ∀ c ∈ core.head?, isBlank c = false
  last : ∀ c ∈ core.getLast?, isBlank c = false

theorem trim_eq_rdropWhile (cs : List Char) : trim cs = (cs.dropWhile isBlank).rdropWhile isBlank := rfl

theorem isCore_trim (cs : List Char) : IsCore cs (trim cs) := by
  rw [trim_eq_rdropWhile]
  generalize hl : cs.dropWhile isBlank = l
  refine ⟨⟨cs.takeWhile isBlank, l.rtakeWhile isBlank, ?_, ?_, ?_⟩, ?_, ?_⟩
  · rw [List.append_assoc, List.rdropWhile_append_rtakeWhile, ← hl, List.takeWhile_append_dropWhile]
  · exact fun c hc => List.mem_takeWhile_imp hc
  · exact fun c hc => List.mem_rtakeWhile_imp hc
  · intro c hc
    have hhead := List.head?_dropWhile_not isBlank cs
    rw [hl] at hhead
    have hc : l.head? = some c := by
      obtain ⟨more, hmore⟩ := List.rdropWhile_prefix isBlank l
      rw [← hmore, List.head?_append, Option.mem_def.1 hc, Option.some_or]
    rw [hc] at hhead
    exact hhead
  · intro c hc
    obtain ⟨hne, rfl⟩ := List.mem_getLast?_eq_getLast hc
    exact Bool.eq_false_iff.2 (List.rdropWhile_last_not isBlank l hne)

theorem dropWhile_isBlank_core (h : ∀ c ∈ core.head?, isBlank c = false) : core.dropWhile isBlank = core := by
  cases core with
  | nil => rfl
  | cons c core => rw [List.dropWhile_cons_of_neg (by rw [h c rfl]; decide)]

/-- Trimming gives what is left without the blanks. -/
theorem trim_of_isCore (h : IsCore cs core) : trim cs = core := by
  obtain ⟨⟨before, after, rfl, hbefore, hafter⟩, hfirst, hlast⟩ := h
  have hreverse : ∀ c ∈ core.reverse.head?, isBlank c = false := by rwa [List.head?_reverse]
  have hfront : (core ++ after).dropWhile isBlank = core ++ after ∨ core = [] := by
    cases core with
    | nil => exact .inr rfl
    | cons c core => exact .inl (@dropWhile_isBlank_core (c :: core ++ after) hfirst)
  rw [trim, List.append_assoc, List.dropWhile_append_of_pos hbefore]
  -- where nothing is left, the blanks behind go with those in front
  obtain hfront | rfl := hfront
  · rw [hfront, List.reverse_append,
      List.dropWhile_append_of_pos fun c hc => hafter c (List.mem_reverse.1 hc),
      dropWhile_isBlank_core hreverse, List.reverse_reverse]
  · have hnil : after.dropWhile isBlank = [] := List.dropWhile_eq_nil_iff.2 hafter
    rw [List.nil_append, hnil]
    rfl

end Text

namespace Keyword

open Numeral (unsigned Denotes IsFault)

variable {text : String} {cs numeral : List Char} {base : Nat}

/-! ## Spellings -/

/-- The base of a text without blanks and underscores, and the numeral in it. -/
inductive Marked : List Char → Nat → List Char → Prop
  | small (numeral : List Char) : Marked ('0' :: 'x' :: numeral) 16 numeral
  | capital (numeral : List Char) : Marked ('0' :: 'X' :: numeral) 16 numeral
  | unmarked {numeral : List Char} (hx : ∀ rest, numeral ≠ '0' :: 'x' :: rest)
      (hX : ∀ rest, numeral ≠ '0' :: 'X' :: rest) : Marked numeral 10 numeral

/-- Whether a text spells a numeral in a base. -/
def Spells (text : String) (base : Nat) (numeral : List Char) : Prop :=
  ∃ core, Text.IsCore text.toList core ∧ Marked (core.filter (· ≠ '_')) base numeral

theorem Marked.base_le (h : Marked cs base numeral) : base ≤ 16 := by
  cases h <;> decide

theorem exists_marked (cs : List Char) : ∃ base numeral, Marked cs base numeral := by
  by_cases hx : ∃ rest, cs = '0' :: 'x' :: rest
  · obtain ⟨rest, rfl⟩ := hx
    exact ⟨_, _, .small rest⟩
  by_cases hX : ∃ rest, cs = '0' :: 'X' :: rest
  · obtain ⟨rest, rfl⟩ := hX
    exact ⟨_, _, .capital rest⟩
  · exact ⟨_, _, .unmarked (not_exists.1 hx) (not_exists.1 hX)⟩

theorem Marked.unique {base' : Nat} {numeral' : List Char} (h : Marked cs base numeral)
    (h' : Marked cs base' numeral') : base' = base ∧ numeral' = numeral := by
  cases h with
  | small =>
    cases h' with
    | small => exact ⟨rfl, rfl⟩
    | unmarked hx _ => exact absurd rfl (hx _)
  | capital =>
    cases h' with
    | capital => exact ⟨rfl, rfl⟩
    | unmarked _ hX => exact absurd rfl (hX _)
  | unmarked hx hX =>
    cases h' with
    | small => exact absurd rfl (hx _)
    | capital => exact absurd rfl (hX _)
    | unmarked => exact ⟨rfl, rfl⟩

/-- A text spells one numeral. -/
theorem existsUnique_spells (text : String) : ∃! p : Nat × List Char, Spells text p.1 p.2 := by
  obtain ⟨base, numeral, h⟩ := exists_marked ((Text.trim text.toList).filter (· ≠ '_'))
  refine ⟨(base, numeral), ⟨_, Text.isCore_trim _, h⟩, ?_⟩
  rintro ⟨base', numeral'⟩ ⟨core, hcore, h'⟩
  rw [← Text.trim_of_isCore hcore] at h'
  exact Prod.ext_iff.2 (h.unique h')

theorem readCleaned_of_marked (h : Marked cs base numeral) :
    readCleaned cs = Numeral.read base (2 ^ 64) numeral := by
  cases h with
  | small => rfl
  | capital => rfl
  | unmarked hx hX =>
    rw [readCleaned]
    · rfl
    · exact hx
    · exact hX

theorem Spells.base_le (h : Spells text base numeral) : base ≤ 16 := by
  obtain ⟨_, _, hmark⟩ := h
  exact hmark.base_le

/-! ## Reading -/

/-- What is read of a text is what is read of the numeral it spells. -/
theorem parse_of_spells (h : Spells text base numeral) :
    (parse text).map BitVec.toNat = (Numeral.read base (2 ^ 64) numeral).mapError (.keyword text) := by
  have hb := h.base_le
  obtain ⟨core, hcore, hmark⟩ := h
  rw [parse, cleaned, Text.trim_of_isCore hcore, readCleaned_of_marked hmark]
  cases hr : Numeral.read base (2 ^ 64) numeral with
  | ok n =>
    have hn := ((Numeral.read_eq_ok_iff hb (by decide)).1 hr).2.2
    simpa [Except.map, Except.mapError] using hn
  | error fault => rfl

/-- A text is read as the number that it spells with digits. -/
theorem parse_eq_ok_iff (text : String) (n : Nat) : (parse text).map BitVec.toNat = .ok n ↔
    n < 2 ^ 64 ∧ ∃ base numeral, Spells text base numeral ∧ unsigned numeral ≠ [] ∧
      Denotes base (unsigned numeral) n := by
  have hread : ∀ {base numeral}, Spells text base numeral → ((parse text).map BitVec.toNat = .ok n ↔
      unsigned numeral ≠ [] ∧ Denotes base (unsigned numeral) n ∧ n < 2 ^ 64) := by
    intro base numeral h
    rw [parse_of_spells h, ← Numeral.read_eq_ok_iff h.base_le (by decide)]
    cases Numeral.read base (2 ^ 64) numeral <;> simp [Except.mapError]
  constructor
  · intro hp
    obtain ⟨⟨base, numeral⟩, h, -⟩ := existsUnique_spells text
    obtain ⟨hne, hd, hn⟩ := (hread h).1 hp
    exact ⟨hn, base, numeral, h, hne, hd⟩
  · rintro ⟨hn, base, numeral, h, hne, hd⟩
    exact (hread h).2 ⟨hne, hd, hn⟩

/-- A text is not read if the numeral that it spells has a fault. -/
theorem parse_eq_error_iff (text : String) (failure : Failure) : parse text = .error failure ↔
    ∃ fault base numeral, failure = .keyword text fault ∧ Spells text base numeral ∧
      IsFault base (2 ^ 64) numeral fault := by
  have hread : ∀ {base numeral}, Spells text base numeral → (parse text = .error failure ↔
      ∃ fault, failure = .keyword text fault ∧ IsFault base (2 ^ 64) numeral fault) := by
    intro base numeral h
    have hmap : parse text = .error failure ↔ (parse text).map BitVec.toNat = .error failure := by
      cases parse text <;> simp [Except.map]
    rw [hmap, parse_of_spells h]
    simp only [← Numeral.read_eq_error_iff h.base_le (by decide : 0 < 2 ^ 64)]
    cases Numeral.read base (2 ^ 64) numeral <;> simp [Except.mapError, eq_comm]
  constructor
  · intro hp
    obtain ⟨⟨base, numeral⟩, h, -⟩ := existsUnique_spells text
    obtain ⟨fault, rfl, hf⟩ := (hread h).1 hp
    exact ⟨fault, base, numeral, rfl, h, hf⟩
  · rintro ⟨fault, base, numeral, rfl, h, hf⟩
    exact (hread h).2 ⟨fault, rfl, hf⟩

/-- A text spells one numeral. Reading gives its number, if it has one of sixty-four bits, and else its
first fault, in a message that quotes the text. -/
theorem parse_exact (text : String) :
    (∃! p : Nat × List Char, Spells text p.1 p.2) ∧
    (∀ n, (parse text).map BitVec.toNat = .ok n ↔
      n < 2 ^ 64 ∧ ∃ base numeral, Spells text base numeral ∧ unsigned numeral ≠ [] ∧
        Denotes base (unsigned numeral) n) ∧
    (∀ failure, parse text = .error failure ↔
      ∃ fault base numeral, failure = .keyword text fault ∧ Spells text base numeral ∧
        IsFault base (2 ^ 64) numeral fault) ∧
    ∀ fault, (Failure.keyword text fault).message =
      "Invalid keyword: " ++ Text.quoted text ++ ": " ++ fault.message :=
  ⟨existsUnique_spells text, parse_eq_ok_iff text, parse_eq_error_iff text, fun _ => rfl⟩

example : parse " 0_x+0_0f " = .ok 15#64 := by decide

example : parse "0x1_0000_0000_0000_000g" = .error (.keyword "0x1_0000_0000_0000_000g" .badDigit) ∧
    parse "0x1_0000_0000_0000_0000g" = .error (.keyword "0x1_0000_0000_0000_0000g" .tooLarge) := by decide

end Keyword

end TraceExport
