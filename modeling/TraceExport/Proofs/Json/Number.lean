/-
The grammar of JSON numbers: a minus sign or none, a whole part without superfluous zeros in front,
and a fraction and an exponent or none. A text that follows it is read as one number wherever it
stops. The digits of a natural number follow it, and so does every integer.
-/
import TraceExport.Proofs.Json.RoundTrip

namespace TraceExport.Json

variable {cs ds w f e rest : List Char}

/-! ## The parts -/

/-- One digit or more. -/
structure IsDigits (cs : List Char) : Prop where
  ne_nil : cs ≠ []
  digit : ∀ c ∈ cs, c.isDigit = true

/-- Digits that do not start with a zero. -/
structure IsPositive (cs : List Char) : Prop extends IsDigits cs where
  lead : ∀ more, cs ≠ '0' :: more

/-- A whole part: a lone zero, or digits that start with none. -/
inductive IsWhole : List Char → Prop
  | zero : IsWhole ['0']
  | positive {ds : List Char} (h : IsPositive ds) : IsWhole ds

/-- A fraction, where there is one. -/
inductive IsFraction : List Char → Prop
  | none : IsFraction []
  | point {ds : List Char} (h : IsDigits ds) : IsFraction ('.' :: ds)

/-- An exponent, where there is one. -/
inductive IsExponent : List Char → Prop
  | none : IsExponent []
  | mark {c : Char} {sign ds : List Char} (hc : c = 'e' ∨ c = 'E')
      (hs : sign = [] ∨ sign = ['+'] ∨ sign = ['-']) (h : IsDigits ds) : IsExponent (c :: (sign ++ ds))

theorem isDigits_zero : IsDigits ['0'] := ⟨List.cons_ne_nil _ _, List.forall_mem_singleton.2 rfl⟩

theorem IsWhole.isDigits (h : IsWhole w) : IsDigits w := by
  cases h with
  | zero => exact isDigits_zero
  | positive h => exact h.toIsDigits

theorem IsDigits.append_left (h : IsDigits ds) (hcs : ∀ c ∈ cs, c.isDigit = true) : IsDigits (cs ++ ds) :=
  ⟨List.append_ne_nil_of_right_ne_nil cs h.ne_nil, List.forall_mem_append.2 ⟨hcs, h.digit⟩⟩

theorem IsPositive.append (h : IsPositive ds) (hcs : ∀ c ∈ cs, c.isDigit = true) : IsPositive (ds ++ cs) := by
  refine ⟨⟨List.append_ne_nil_of_left_ne_nil h.ne_nil cs, List.forall_mem_append.2 ⟨h.digit, hcs⟩⟩, fun more heq => ?_⟩
  obtain ⟨c, tail, rfl⟩ := List.exists_cons_of_ne_nil h.ne_nil
  rw [List.cons_append] at heq
  exact h.lead tail (by rw [(List.cons.inj heq).1])

theorem IsPositive.take (h : IsPositive ds) {k : ℕ} (hk : 0 < k) : IsPositive (ds.take k) := by
  obtain ⟨c, tail, rfl⟩ := List.exists_cons_of_ne_nil h.ne_nil
  obtain ⟨k, rfl⟩ := Nat.exists_eq_succ_of_ne_zero hk.ne'
  refine ⟨⟨by simp, fun c hc => h.digit c (List.mem_of_mem_take hc)⟩, fun more heq => ?_⟩
  rw [List.take_succ_cons] at heq
  exact h.lead tail (by rw [(List.cons.inj heq).1])

/-- The parts of a number, its sign aside. -/
structure Parts where
  whole : List Char
  fraction : List Char
  exponent : List Char
  isWhole : IsWhole whole
  isFraction : IsFraction fraction
  isExponent : IsExponent exponent

/-- The text of a number without a sign. -/
def Parts.chars (p : Parts) : List Char := p.whole ++ (p.fraction ++ p.exponent)

/-- The text of a number, with a minus sign if it is negative. -/
def Parts.signed (p : Parts) (negative : Bool) : List Char :=
  (if negative then ['-'] else []) ++ p.chars

/-! ## Reading the parts -/

/-- Whether a text does not go on with the digits before it. -/
def NoDigit (rest : List Char) : Prop := ∀ c cs, rest = c :: cs → c.isDigit = false

theorem Stops.noDigit (h : Stops rest) : NoDigit rest := fun c cs hc => (h c cs hc).1

theorem noDigit_cons {c : Char} (h : c.isDigit = false) : NoDigit (c :: cs) := by
  intro c' cs' h'; cases h'; exact h

theorem IsDigits.exists_cons (h : IsDigits cs) : ∃ c tail, cs = c :: tail ∧ c.isDigit = true := by
  obtain ⟨c, tail, rfl⟩ := List.exists_cons_of_ne_nil h.ne_nil
  exact ⟨c, tail, rfl, h.digit c (List.mem_cons_self ..)⟩

theorem digits?_append (h : IsDigits ds) (hr : NoDigit rest) : digits? (ds ++ rest) = some (ds, rest) := by
  have hnone : rest.takeWhile Char.isDigit = [] ∧ rest.dropWhile Char.isDigit = rest := by
    cases rest with
    | nil => exact ⟨rfl, rfl⟩
    | cons c rest => simp [hr c rest rfl]
  obtain ⟨c, tail, rfl, -⟩ := h.exists_cons
  rw [digits?, List.span_eq_takeWhile_dropWhile, List.takeWhile_append_of_pos h.digit,
    List.dropWhile_append_of_pos h.digit, hnone.1, hnone.2, List.append_nil]

theorem whole?_append (h : IsWhole w) (hr : NoDigit rest) : whole? (w ++ rest) = some (w, rest) := by
  cases h with
  | zero => rfl
  | positive h =>
    obtain ⟨c, tail, rfl, -⟩ := h.exists_cons
    rw [whole?, digits?_append h.toIsDigits hr]
    rintro _ ⟨⟩
    exact h.lead tail rfl

theorem fraction?_append (h : IsFraction f) (hr : NoDigit rest) (hp : ∀ cs, rest ≠ '.' :: cs) :
    fraction? (f ++ rest) = some (f, rest) := by
  cases h with
  | none =>
    rw [List.nil_append, fraction?]
    exact hp
  | point h =>
    rw [List.cons_append, fraction?, digits?_append h hr]
    rfl

theorem exponent?_append (h : IsExponent e) (hr : Stops rest) : exponent? (e ++ rest) = some (e, rest) := by
  cases h with
  | none =>
    cases rest with
    | nil => rfl
    | cons c rest =>
      obtain ⟨-, -, hc⟩ := hr c rest rfl
      simp [exponent?, hc]
  | @mark c sign ds hc hs h =>
    have hds := digits?_append h hr.noDigit
    rcases hs with rfl | rfl | rfl
    · obtain ⟨d, tail, rfl, hd⟩ := h.exists_cons
      have hsign : ¬ (d = '+' ∨ d = '-') := not_or.2 ⟨ne_of_isDigit hd rfl, ne_of_isDigit hd rfl⟩
      rw [List.cons_append] at hds
      simp [exponent?, hc, hsign, hds]
    · simp [exponent?, hc, hds]
    · simp [exponent?, hc, hds]

theorem IsFraction.noDigit (h : IsFraction f) (hr : NoDigit rest) : NoDigit (f ++ rest) := by
  cases h with
  | none => exact hr
  | point h => exact noDigit_cons (by decide)

/-- Neither a digit nor a point follows the fraction. -/
theorem IsExponent.stops (h : IsExponent e) (hr : Stops rest) :
    NoDigit (e ++ rest) ∧ ∀ cs, e ++ rest ≠ '.' :: cs := by
  cases h with
  | none => exact ⟨hr.noDigit, fun cs h => (hr '.' cs h).2.1 rfl⟩
  | mark hc hs h => rcases hc with rfl | rfl <;> exact ⟨noDigit_cons (by decide), by rintro _ ⟨⟩⟩

/-! ## No control characters -/

theorem IsDigits.visible (h : IsDigits ds) : ∀ c ∈ ds, 0x20 ≤ c.toNat := by
  intro c hc
  have hd := h.digit c hc
  simp only [Char.isDigit, Bool.and_eq_true, decide_eq_true_eq] at hd
  have h0 : '0'.toNat ≤ c.toNat := hd.1
  exact Nat.le_trans (by decide) h0

theorem IsFraction.visible (h : IsFraction f) : ∀ c ∈ f, 0x20 ≤ c.toNat := by
  cases h with
  | none => simp
  | point h => exact List.forall_mem_cons.2 ⟨by decide, h.visible⟩

theorem IsExponent.visible (h : IsExponent e) : ∀ c ∈ e, 0x20 ≤ c.toNat := by
  cases h with
  | none => simp
  | mark hc hs h =>
    refine List.forall_mem_cons.2 ⟨?_, List.forall_mem_append.2 ⟨?_, h.visible⟩⟩
    · rcases hc with rfl | rfl <;> decide
    · rcases hs with rfl | rfl | rfl <;> exact visible_of_all (by decide)

/-! ## Reading numbers -/

namespace Parts

variable (p : Parts) (negative : Bool)

theorem exists_cons : ∃ c tail, p.chars = c :: tail ∧ c.isDigit = true := by
  obtain ⟨c, tail, hc, hd⟩ := p.isWhole.isDigits.exists_cons
  exact ⟨c, tail ++ (p.fraction ++ p.exponent), by rw [chars, hc, List.cons_append], hd⟩

/-- The minus sign is the first character of a negative number, and of no other. -/
theorem head?_signed : (p.signed negative).head? = some '-' ↔ negative = true := by
  cases negative with
  | true => exact iff_of_true rfl rfl
  | false =>
    obtain ⟨c, tail, hc, hd⟩ := p.exists_cons
    rw [signed, hc]
    exact iff_of_false (fun h => ne_of_isDigit hd rfl (Option.some.inj h)) Bool.false_ne_true

theorem number?_signed (hr : Stops rest) :
    number? (p.signed negative ++ rest) = some (p.signed negative, rest) := by
  obtain ⟨hnext, hpoint⟩ := p.isExponent.stops hr
  have hwhole := whole?_append p.isWhole (p.isFraction.noDigit hnext)
  have hfraction := fraction?_append p.isFraction hnext hpoint
  have hexponent := exponent?_append p.isExponent hr
  cases negative with
  | true => simp [signed, chars, number?, hwhole, hfraction, hexponent]
  | false =>
    obtain ⟨c, tail, hc, hd⟩ := p.isWhole.isDigits.exists_cons
    have hminus : c ≠ '-' := ne_of_isDigit hd rfl
    rw [hc, List.cons_append] at hwhole
    simp [signed, chars, number?, hc, hminus, hwhole, hfraction, hexponent]

theorem visible_signed : ∀ c ∈ p.signed negative, 0x20 ≤ c.toNat := by
  refine List.forall_mem_append.2 ⟨?_, List.forall_mem_append.2 ⟨p.isWhole.isDigits.visible,
    List.forall_mem_append.2 ⟨p.isFraction.visible, p.isExponent.visible⟩⟩⟩
  cases negative <;> exact visible_of_all (by decide)

/-- What follows the grammar is read as one number. -/
theorem isNumber_signed : IsNumber (p.signed negative) := by
  refine ⟨?_, p.visible_signed negative, fun _ hr => p.number?_signed negative hr⟩
  obtain ⟨c, tail, hc, hd⟩ := p.exists_cons
  cases negative with
  | true => exact ⟨'-', p.chars, rfl, .inl rfl⟩
  | false => exact ⟨c, tail, hc, .inr hd⟩

theorem parse_signed {text : String} (h : text.toList = p.signed negative) :
    Json.parse text = some (.number text) := by
  have hread : (Json.number text).Readable := .number (h ▸ p.isNumber_signed negative)
  have hparse := parse_compact hread
  rwa [compact_number] at hparse

end Parts

/-! ## Whole numbers -/

/-- The digits of a natural number. -/
theorem isDigits_toDigits (n : ℕ) : IsDigits (Nat.toDigits 10 n) :=
  ⟨Nat.toDigits_ne_nil, fun _ hc => Nat.isDigit_of_mem_toDigits (by decide) (by decide) hc⟩

/-- The first digit of a positive number is no zero. -/
theorem isPositive_toDigits {n : ℕ} (hn : 0 < n) : IsPositive (Nat.toDigits 10 n) := by
  refine ⟨isDigits_toDigits n, ?_⟩
  induction n using Nat.strong_induction_on with
  | _ n ih =>
    intro more h
    by_cases hlt : n < 10
    · rw [Nat.toDigits_of_lt_base hlt] at h
      have digit : ∀ d < 10, 0 < d → d.digitChar ≠ '0' := by decide
      exact digit n hlt hn (List.cons.inj h).1
    · -- the digits of the quotient come first, and there is one of them at least
      rw [Nat.toDigits_of_base_le (by decide) (Nat.le_of_not_lt hlt)] at h
      obtain ⟨c, tail, hc, -⟩ := (isDigits_toDigits (n / 10)).exists_cons
      rw [hc, List.cons_append] at h
      refine ih (n / 10) (by omega) (by omega) tail ?_
      rw [hc, (List.cons.inj h).1]

theorem isWhole_toDigits (n : ℕ) : IsWhole (Nat.toDigits 10 n) := by
  obtain rfl | hn := Nat.eq_zero_or_pos n
  · exact .zero
  · exact .positive (isPositive_toDigits hn)

/-- The parts of a natural number. -/
def Parts.ofNat (n : ℕ) : Parts where
  whole := Nat.toDigits 10 n
  fraction := []
  exponent := []
  isWhole := isWhole_toDigits n
  isFraction := .none
  isExponent := .none

theorem toList_repr (n : ℤ) : n.repr.toList = (Parts.ofNat n.natAbs).signed (n < 0) := by
  cases n <;> simp [Parts.signed, Parts.chars, Parts.ofNat, Int.repr, Nat.repr]

theorem Readable.int (n : ℤ) : (Json.int n).Readable :=
  .number (toList_repr n ▸ Parts.isNumber_signed ..)

end TraceExport.Json
