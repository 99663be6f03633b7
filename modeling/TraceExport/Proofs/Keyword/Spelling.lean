/-
The spellings of a keyword. It is printed as sixteen capital digits behind a mark. The letters may
be small or capital, underscores may stand anywhere in the text and blanks around it: all these texts
are read as the keyword, and a session that has one of them runs with the keyword.
-/
import TraceExport.Proofs.Keyword.Grammar
import TraceExport.Settings.Basic

namespace TraceExport.Keyword

open Numeral (Denotes IsDigit)

variable {k : Keyword} {text : String} {c d : Char} {cs ds : List Char}

/-! ## Letter case and underscores -/

/-- A text with letters in the other case and with underscores put in. -/
inductive Respelled : List Char → List Char → Prop
  | nil : Respelled [] []
  | underscore {cs ds : List Char} (h : Respelled cs ds) : Respelled cs ('_' :: ds)
  | char {c d : Char} {cs ds : List Char} (hc : c.toLower = d.toLower) (h : Respelled cs ds) :
      Respelled (c :: cs) (d :: ds)

/-- A text between blanks that is the printed keyword, but for letter case and underscores. -/
def IsSpelling (k : Keyword) (text : String) : Prop :=
  ∃ before body after, text.toList = before ++ body ++ after ∧
    (∀ c ∈ before, Text.isBlank c = true) ∧ (∀ c ∈ after, Text.isBlank c = true) ∧
    Respelled k.format.toList body

theorem Respelled.refl : ∀ cs, Respelled cs cs
  | [] => .nil
  | _ :: cs => .char rfl (.refl cs)

theorem isSpelling_format (k : Keyword) : IsSpelling k k.format :=
  ⟨[], _, [], by simp, by simp, by simp, .refl _⟩

theorem Respelled.of_mem (h : Respelled cs ds) : ∀ d ∈ ds, d = '_' ∨ ∃ c ∈ cs, c.toLower = d.toLower := by
  induction h with
  | nil => intro d hd; cases hd
  | underscore _ ih =>
    intro d hd
    rcases List.mem_cons.1 hd with rfl | hd
    · exact .inl rfl
    · exact ih d hd
  | @char c d' cs ds hc _ ih =>
    intro d hd
    rcases List.mem_cons.1 hd with rfl | hd
    · exact .inr ⟨c, List.mem_cons_self .., hc⟩
    · exact (ih d hd).imp_right fun ⟨c', hc', heq⟩ => ⟨c', List.mem_cons_of_mem _ hc', heq⟩

/-- Without the underscores only the letter case differs. -/
theorem Respelled.filter (h : Respelled cs ds) (hcs : ∀ c ∈ cs, c.toLower ≠ '_') :
    List.Forall₂ (fun c d : Char => c.toLower = d.toLower) cs (ds.filter (· ≠ '_')) := by
  induction h with
  | nil => exact .nil
  | underscore _ ih => exact ih hcs
  | @char c d cs ds hc _ ih =>
    have hd : d ≠ '_' := by
      rintro rfl
      exact hcs c (List.mem_cons_self ..) hc
    rw [List.filter_cons_of_pos (by simpa using hd)]
    exact .cons hc (ih fun c hm => hcs c (List.mem_cons_of_mem _ hm))

/-- Making a letter small changes only the capitals. -/
theorem toLower_eq_or (c : Char) : c.toLower = c ∨ ∃ i < 26, c = Char.ofNat (65 + i) := by
  by_cases h : 65 ≤ c.toNat ∧ c.toNat ≤ 90
  · exact .inr ⟨c.toNat - 65, by omega, by rw [Nat.add_sub_cancel' h.1, Char.ofNat_toNat]⟩
  · exact .inl (dif_neg h)

theorem toLower_of_isBlank (h : Text.isBlank c = true) : c.toLower = c := by
  have capital : ∀ i < 26, Text.isBlank (Char.ofNat (65 + i)) = false := by decide
  obtain heq | ⟨i, hi, rfl⟩ := toLower_eq_or c
  · exact heq
  · rw [capital i hi] at h
    cases h

/-- A character is its small letter or the capital of that letter. -/
theorem eq_or_eq_toUpper (c : Char) : c = c.toLower ∨ c = c.toLower.toUpper := by
  have capital : ∀ i < 26, Char.ofNat (65 + i) = (Char.ofNat (65 + i)).toLower.toUpper := by decide
  obtain heq | ⟨i, hi, rfl⟩ := toLower_eq_or c
  · exact .inl heq.symm
  · exact .inr (capital i hi)

/-- A blank is its own small letter. -/
theorem not_blank_of_toLower (h : Text.isBlank c.toLower = false) : Text.isBlank c = false := by
  cases hb : Text.isBlank c with
  | false => rfl
  | true => rwa [toLower_of_isBlank hb, hb] at h

/-! ## Reading spellings -/

theorem toLower_digit_ne {value : Nat} (h : IsDigit 16 c value) :
    c.toLower ≠ '_' ∧ Text.isBlank c.toLower = false := by
  have digit : ∀ d < 16, Nat.digitChar d ≠ '_' ∧ Text.isBlank (Nat.digitChar d) = false := by decide
  rw [h.2]
  exact digit value h.1

theorem toLower_format_ne (hc : c ∈ k.format.toList) : c.toLower ≠ '_' ∧ Text.isBlank c.toLower = false := by
  rw [format, String.toList_ofList, List.mem_cons, List.mem_cons] at hc
  rcases hc with rfl | rfl | hc
  · decide
  · decide
  · obtain ⟨d, hd⟩ := (Numeral.denotes_hexDigits 16 k.isLt).isDigit c hc
    exact toLower_digit_ne hd

theorem Respelled.not_blank (h : Respelled k.format.toList ds) : ∀ d ∈ ds, Text.isBlank d = false := by
  intro d hd
  rcases h.of_mem d hd with rfl | ⟨c, hc, heq⟩
  · decide
  · exact not_blank_of_toLower (heq ▸ (toLower_format_ne hc).2)

/-- A spelling of a keyword spells its digits in base sixteen. -/
theorem spells_of_isSpelling (h : IsSpelling k text) :
    ∃ numeral, Spells text 16 numeral ∧ numeral ≠ [] ∧ Denotes 16 numeral k.toNat := by
  obtain ⟨before, body, after, htext, hbefore, hafter, hbody⟩ := h
  have hcore : Text.IsCore text.toList body :=
    ⟨⟨before, after, htext, hbefore, hafter⟩, fun c hc => hbody.not_blank c (List.mem_of_head? hc),
      fun c hc => hbody.not_blank c (List.mem_of_getLast? hc)⟩
  have hcase := hbody.filter fun c hc => (toLower_format_ne hc).1
  rw [format, String.toList_ofList] at hcase
  obtain ⟨zero, rest, hzero, hrest, heq⟩ := List.forall₂_cons_left_iff.1 hcase
  obtain ⟨mark, numeral, hmark, hdigits, rfl⟩ := List.forall₂_cons_left_iff.1 hrest
  have hzero : zero = '0' := by
    obtain h | h := eq_or_eq_toUpper zero <;> exact h.trans (by rw [← hzero]; rfl)
  have hmark : mark = 'x' ∨ mark = 'X' :=
    (eq_or_eq_toUpper mark).imp (fun h => h.trans (by rw [← hmark]; rfl)) fun h => h.trans (by rw [← hmark]; rfl)
  refine ⟨numeral, ⟨body, hcore, ?_⟩, ?_, (Numeral.denotes_hexDigits 16 k.isLt).of_toLower hdigits⟩
  · rw [heq, hzero]
    obtain rfl | rfl := hmark
    · exact .small numeral
    · exact .capital numeral
  · rintro rfl
    have hlength := hdigits.length_eq
    rw [Numeral.length_hexDigits] at hlength
    cases hlength

/-- Digits are read as the keyword they stand for. -/
theorem parse_of_denotes {base : Nat} {numeral : List Char} (h : Spells text base numeral) (hne : numeral ≠ [])
    (hd : Denotes base numeral k.toNat) : parse text = .ok k := by
  have hu := Numeral.unsigned_of_denotes h.base_le hd
  have hp := (parse_eq_ok_iff text k.toNat).2 ⟨k.isLt, base, numeral, h, by rwa [hu], by rwa [hu]⟩
  cases hr : parse text with
  | ok k' =>
    rw [hr] at hp
    rw [BitVec.eq_of_toNat_eq (Except.ok.inj hp)]
  | error failure => rw [hr] at hp; cases hp

theorem parse_of_isSpelling (h : IsSpelling k text) : parse text = .ok k := by
  obtain ⟨numeral, hspells, hne, hd⟩ := spells_of_isSpelling h
  exact parse_of_denotes hspells hne hd

/-- The small digits of a keyword behind a mark, as few as there are, are read as the keyword. -/
theorem parse_of_toDigits (htext : text.toList = '0' :: 'x' :: Nat.toDigits 16 k.toNat) : parse text = .ok k := by
  have hd : Denotes 16 (Nat.toDigits 16 k.toNat) k.toNat := Numeral.denotes_toDigits (by decide) (by decide) _
  have hplain : ∀ c ∈ text.toList, c ≠ '_' ∧ Text.isBlank c = false := by
    rw [htext]
    refine List.forall_mem_cons.2 ⟨by decide, List.forall_mem_cons.2 ⟨by decide, fun c hc => ?_⟩⟩
    obtain ⟨d, hdigit⟩ := hd.isDigit c hc
    obtain ⟨hne, hblank⟩ := toLower_digit_ne hdigit
    refine ⟨?_, not_blank_of_toLower hblank⟩
    rintro rfl
    exact hne rfl
  have hcore : Text.IsCore text.toList text.toList := ⟨⟨[], [], by simp, by simp, by simp⟩,
    fun c hc => (hplain c (List.mem_of_head? hc)).2, fun c hc => (hplain c (List.mem_of_getLast? hc)).2⟩
  have hfilter : text.toList.filter (· ≠ '_') = text.toList :=
    List.filter_eq_self.2 fun c hc => decide_eq_true (hplain c hc).1
  refine parse_of_denotes ⟨_, hcore, ?_⟩ Nat.toDigits_ne_nil hd
  rw [hfilter, htext]
  exact .small _

/-- A printed keyword is read back, from its text and from all its spellings, and so is the keyword of
a session, whatever else the session has. -/
theorem parse_spelling (k : Keyword) : parse k.format = .ok k ∧ ∀ text, IsSpelling k text →
    parse text = .ok k ∧ ∀ (s : Settings.Session) (r : Registry),
      { s with keyword := some text }.resolve r = .ok (some k) := by
  refine ⟨parse_of_isSpelling (isSpelling_format k), fun text h => ⟨parse_of_isSpelling h, fun s r => ?_⟩⟩
  simp only [Settings.Session.resolve, parse_of_isSpelling h]

/-- A spelling with a small letter for a capital and the other way round, underscores also inside the
mark, and blanks of three kinds. -/
theorem parse_spelling_decorated :
    let text := "\t _0_X8000_0000_0000_000a_\u00a0"
    IsSpelling 0x800000000000000A#64 text ∧ parse text = .ok 0x800000000000000A#64 := by
  intro text
  have hformat : (format 0x800000000000000A#64).toList =
      ['0', 'x', '8', '0', '0', '0', '0', '0', '0', '0', '0', '0', '0', '0', '0', '0', '0', 'A'] := by decide
  have h : IsSpelling 0x800000000000000A#64 text := by
    refine ⟨['\t', ' '], ['_', '0', '_', 'X', '8', '0', '0', '0', '_', '0', '0', '0', '0', '_', '0', '0', '0', '0',
      '_', '0', '0', '0', 'a', '_'], ['\u00a0'], by decide, List.all_eq_true.1 (by decide),
      List.all_eq_true.1 (by decide), ?_⟩
    rw [hformat]
    repeat constructor
  exact ⟨h, ((parse_spelling _).2 _ h).1⟩

end TraceExport.Keyword
