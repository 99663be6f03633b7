/-
What the reading of numerals gives. Digits stand for the number with these digits in the base, with
any zeros in front. Reading gives this number while it stays below the limit. Otherwise it ends at
the first character that is no digit, or that brings the number of the digits so far to the limit.
-/
import TraceExport.Text.Numeral
import Mathlib.Tactic

namespace TraceExport.Numeral

variable {base limit n : Nat} {c : Char} {cs : List Char} {fault : Fault}

/-! ## Digits -/

/-- Whether a character is the digit of a value in a base up to sixteen, in either letter case. -/
def IsDigit (base : Nat) (c : Char) (d : Nat) : Prop := d < base ∧ c.toLower = Nat.digitChar d

/-- A property of the ASCII characters, checked for each of them. -/
theorem of_ascii {P : Char → Prop} (h : ∀ n < 128, P (Char.ofNat n)) (hc : c.toNat < 128) : P c := by
  have := h c.toNat hc
  rwa [Char.ofNat_toNat] at this

theorem digitValue_eq_some_iff {d : Nat} (hd : d < 16) :
    digitValue c = some d ↔ c.toLower = Nat.digitChar d := by
  by_cases hc : c.toNat < 128
  · exact of_ascii (P := fun c => ∀ d < 16, digitValue c = some d ↔ c.toLower = Nat.digitChar d)
      (by decide +kernel) hc d hd
  · have hbeyond : ∀ b : Char, b.toNat < 128 → ¬ c ≤ b := fun b hb h =>
      hc (Nat.lt_of_le_of_lt (show c.toNat ≤ b.toNat from h) hb)
    have hnone : digitValue c = none := by
      simp [digitValue, hbeyond '9' (by decide), hbeyond 'z' (by decide), hbeyond 'Z' (by decide)]
    have hlower : c.toLower = c := dif_neg fun h => hbeyond 'Z' (by decide) h.2
    have hascii : ∀ i < 16, (Nat.digitChar i).toNat < 128 := by decide
    rw [hnone, hlower]
    refine iff_of_false (fun h => by cases h) ?_
    rintro rfl
    exact hc (hascii d hd)

theorem digit?_eq_some_iff (hb : base ≤ 16) {d : Nat} : digit? base c = some d ↔ IsDigit base c d := by
  unfold digit? IsDigit
  rw [Option.filter_eq_some_iff, decide_eq_true_eq, and_comm]
  exact and_congr_right fun hd => digitValue_eq_some_iff (by omega)

theorem digit?_eq_none_iff (hb : base ≤ 16) : digit? base c = none ↔ ∀ d, ¬ IsDigit base c d := by
  simp only [Option.eq_none_iff_forall_ne_some, ne_eq, digit?_eq_some_iff hb]

/-! ## The number of digits -/

/-- Whether characters are digits that stand for a number, the highest digit first. -/
def Denotes (base : Nat) (cs : List Char) (n : Nat) : Prop :=
  ∃ ds, List.Forall₂ (IsDigit base) cs.reverse ds ∧ Nat.ofDigits base ds = n

@[simp] theorem denotes_nil : Denotes base [] n ↔ n = 0 := by
  simp [Denotes, eq_comm]

theorem denotes_concat : Denotes base (cs ++ [c]) n ↔
    ∃ m d, Denotes base cs m ∧ IsDigit base c d ∧ n = m * base + d := by
  unfold Denotes
  rw [List.reverse_concat]
  constructor
  · rintro ⟨_, h, rfl⟩
    obtain ⟨d, ds, hd, hds, rfl⟩ := List.forall₂_cons_left_iff.1 h
    refine ⟨_, d, ⟨ds, hds, rfl⟩, hd, ?_⟩
    rw [Nat.ofDigits_cons]
    ring
  · rintro ⟨_, d, ⟨ds, hds, rfl⟩, hd, rfl⟩
    refine ⟨d :: ds, .cons hd hds, ?_⟩
    rw [Nat.ofDigits_cons]
    ring

theorem Denotes.isDigit (h : Denotes base cs n) : ∀ c ∈ cs, ∃ d, IsDigit base c d := by
  induction cs using List.reverseRecOn generalizing n with
  | nil => intro c hc; cases hc
  | append_singleton cs c ih =>
    obtain ⟨m, d, hm, hd, -⟩ := denotes_concat.1 h
    intro c' hc'
    rcases List.mem_append.1 hc' with hc' | hc'
    · exact ih hm c' hc'
    · rw [List.mem_singleton.1 hc']
      exact ⟨d, hd⟩

/-- The letter case of digits does not count. -/
theorem Denotes.of_toLower {cs' : List Char} (h : Denotes base cs n)
    (hcase : List.Forall₂ (fun c c' : Char => c.toLower = c'.toLower) cs cs') : Denotes base cs' n := by
  induction cs using List.reverseRecOn generalizing n cs' with
  | nil =>
    rw [List.forall₂_nil_left_iff.1 hcase]
    exact h
  | append_singleton cs c ih =>
    obtain ⟨m, d, hm, hd, rfl⟩ := denotes_concat.1 h
    rw [← List.forall₂_reverse_iff, List.reverse_concat, List.forall₂_cons_left_iff] at hcase
    obtain ⟨c', rest, hc, hrest, hcs'⟩ := hcase
    rw [← List.forall₂_reverse_iff, List.reverse_reverse] at hrest
    rw [← List.reverse_reverse cs', hcs', List.reverse_cons]
    exact denotes_concat.2 ⟨m, d, ih hm hrest, ⟨hd.1, hc ▸ hd.2⟩, rfl⟩

/-! ## Reading digits -/

/-- What stops the reading of digits below a limit: a character that is no digit, or a digit with
which they reach the limit. Those before it are digits that do not. -/
inductive StopsWith (base limit : Nat) : List Char → Fault → Prop
  | badDigit {pre : List Char} {n : Nat} {c : Char} (post : List Char) (hpre : Denotes base pre n)
      (hn : n < limit) (hc : ∀ d, ¬ IsDigit base c d) : StopsWith base limit (pre ++ c :: post) .badDigit
  | tooLarge {pre : List Char} {n m : Nat} {c : Char} (post : List Char) (hpre : Denotes base pre n)
      (hn : n < limit) (hm : Denotes base (pre ++ [c]) m) (hlimit : limit ≤ m) :
      StopsWith base limit (pre ++ c :: post) .tooLarge

theorem StopsWith.append (h : StopsWith base limit cs fault) (rest : List Char) :
    StopsWith base limit (cs ++ rest) fault := by
  cases h with
  | badDigit post hpre hn hc => rw [List.append_assoc]; exact .badDigit _ hpre hn hc
  | tooLarge post hpre hn hm hlimit => rw [List.append_assoc]; exact .tooLarge _ hpre hn hm hlimit

theorem not_stopsWith_empty : ¬ StopsWith base limit cs .empty := by
  intro h
  cases h

/-- Characters either are digits below the limit, or something stops their reading. -/
theorem denotes_or_stopsWith (base : Nat) (hl : 0 < limit) (cs : List Char) :
    (∃ n < limit, Denotes base cs n) ∨ ∃ fault, StopsWith base limit cs fault := by
  induction cs using List.reverseRecOn with
  | nil => exact .inl ⟨0, hl, denotes_nil.2 rfl⟩
  | append_singleton cs c ih =>
    obtain ⟨n, hn, hcs⟩ | ⟨fault, hf⟩ := ih
    · by_cases hc : ∃ d, IsDigit base c d
      · obtain ⟨d, hd⟩ := hc
        have hm := denotes_concat.2 ⟨n, d, hcs, hd, rfl⟩
        by_cases hlt : n * base + d < limit
        · exact .inl ⟨_, hlt, hm⟩
        · exact .inr ⟨_, .tooLarge [] hcs hn hm (Nat.le_of_not_lt hlt)⟩
      · exact .inr ⟨_, .badDigit [] hcs hn (not_exists.1 hc)⟩
    · exact .inr ⟨fault, hf.append [c]⟩

section

variable (hb : base ≤ 16)
include hb

theorem scan_digit {d : Nat} (hd : IsDigit base c d) (n : Nat) (cs : List Char) :
    scan base limit n (c :: cs) =
      if n * base + d < limit then scan base limit (n * base + d) cs else .error .tooLarge := by
  rw [scan, (digit?_eq_some_iff hb).2 hd]

/-- Digits that stay below the limit are read, and the reading goes on behind them. -/
theorem scan_append {pre : List Char} (hpre : Denotes base pre n) (hn : n < limit) (rest : List Char) :
    scan base limit 0 (pre ++ rest) = scan base limit n rest := by
  induction pre using List.reverseRecOn generalizing n rest with
  | nil => rw [denotes_nil.1 hpre]; rfl
  | append_singleton pre c ih =>
    obtain ⟨m, d, hm, hd, rfl⟩ := denotes_concat.1 hpre
    -- the digits before the last one stay below the limit as well
    have hle : m ≤ m * base := Nat.le_mul_of_pos_right m (by have := hd.1; omega)
    rw [List.append_assoc, List.singleton_append, ih hm (by omega), scan_digit hb hd, if_pos hn]

theorem scan_of_denotes (h : Denotes base cs n) (hn : n < limit) : scan base limit 0 cs = .ok n := by
  have := scan_append hb h hn []
  rwa [List.append_nil] at this

/-- Digits stand for one number. -/
theorem Denotes.unique {m : Nat} (hm : Denotes base cs m) (hn : Denotes base cs n) : m = n := by
  have h : scan base (m + n + 1) 0 cs = .ok m := scan_of_denotes hb hm (by omega)
  rw [scan_of_denotes hb hn (by omega)] at h
  exact (Except.ok.inj h).symm

theorem scan_of_stopsWith (h : StopsWith base limit cs fault) : scan base limit 0 cs = .error fault := by
  cases h with
  | badDigit post hpre hn hc => rw [scan_append hb hpre hn, scan, (digit?_eq_none_iff hb).2 hc]
  | tooLarge post hpre hn hm hlimit =>
    obtain ⟨n', d, hn', hd, rfl⟩ := denotes_concat.1 hm
    rw [scan_append hb hpre hn, scan_digit hb hd, hpre.unique hb hn', if_neg (Nat.not_lt.2 hlimit)]

theorem scan_eq_ok_iff (hl : 0 < limit) : scan base limit 0 cs = .ok n ↔ Denotes base cs n ∧ n < limit := by
  constructor
  · intro h
    obtain ⟨m, hm, hcs⟩ | ⟨fault, hf⟩ := denotes_or_stopsWith base hl cs
    · rw [scan_of_denotes hb hcs hm] at h
      cases h
      exact ⟨hcs, hm⟩
    · rw [scan_of_stopsWith hb hf] at h
      cases h
  · rintro ⟨hcs, hn⟩
    exact scan_of_denotes hb hcs hn

theorem scan_eq_error_iff (hl : 0 < limit) :
    scan base limit 0 cs = .error fault ↔ StopsWith base limit cs fault := by
  refine ⟨fun h => ?_, scan_of_stopsWith hb⟩
  obtain ⟨m, hm, hcs⟩ | ⟨fault', hf⟩ := denotes_or_stopsWith base hl cs
  · rw [scan_of_denotes hb hcs hm] at h
    cases h
  · rw [scan_of_stopsWith hb hf] at h
    cases h
    exact hf

end

/-! ## Reading numerals -/

/-- A numeral without the plus sign in front, where something follows the sign. -/
def unsigned : List Char → List Char
  | '+' :: c :: cs => c :: cs
  | cs => cs

/-- What is wrong with an unsigned numeral: there is none, or something stops the reading of its
digits. -/
def IsFault (base limit : Nat) (cs : List Char) : Fault → Prop
  | .empty => cs = []
  | .badDigit => StopsWith base limit (unsigned cs) .badDigit
  | .tooLarge => StopsWith base limit (unsigned cs) .tooLarge

theorem not_isDigit_plus (hb : base ≤ 16) (d : Nat) : ¬ IsDigit base '+' d := by
  have h : ∀ i < 16, '+'.toLower ≠ Nat.digitChar i := by decide
  exact fun hd => h d (by have := hd.1; omega) hd.2

/-- Digits have no sign. -/
theorem unsigned_of_denotes (hb : base ≤ 16) (h : Denotes base cs n) : unsigned cs = cs := by
  unfold unsigned
  split
  · obtain ⟨d, hd⟩ := h.isDigit '+' (List.mem_cons_self ..)
    exact absurd hd (not_isDigit_plus hb d)
  · rfl

theorem read_of_ne_nil (hb : base ≤ 16) (h : cs ≠ []) :
    read base limit cs = scan base limit 0 (unsigned cs) := by
  unfold read
  split
  · exact absurd rfl h
  -- a sign alone is read as a character that is no digit
  · rw [unsigned, scan, (digit?_eq_none_iff hb).2 (not_isDigit_plus hb)]
    rintro _ _ h
    cases h
  · next cs hne =>
    obtain ⟨c, cs, rfl⟩ := List.exists_cons_of_ne_nil hne
    rfl
  · next hplus =>
    rw [unsigned]
    exact fun c cs => hplus (c :: cs)

/-- A numeral is read as the number its digits stand for. -/
theorem read_eq_ok_iff (hb : base ≤ 16) (hl : 0 < limit) :
    read base limit cs = .ok n ↔ unsigned cs ≠ [] ∧ Denotes base (unsigned cs) n ∧ n < limit := by
  have hnil : unsigned cs = [] ↔ cs = [] := by
    unfold unsigned
    split <;> simp
  by_cases h : cs = []
  · rw [h, read]
    exact iff_of_false (fun h => by cases h) fun h => h.1 rfl
  · rw [read_of_ne_nil hb h, scan_eq_ok_iff hb hl, ne_eq, hnil, and_iff_right h]

/-- A numeral that is not read has a fault. -/
theorem read_eq_error_iff (hb : base ≤ 16) (hl : 0 < limit) :
    read base limit cs = .error fault ↔ IsFault base limit cs fault := by
  by_cases h : cs = []
  · have hstop : ∀ fault, ¬ StopsWith base limit [] fault := fun fault hf => by
      have := scan_of_stopsWith hb hf
      cases this
    subst h
    cases fault <;> simp [read, IsFault, unsigned, hstop]
  · rw [read_of_ne_nil hb h, scan_eq_error_iff hb hl]
    cases fault with
    | empty => exact iff_of_false not_stopsWith_empty h
    | badDigit => rfl
    | tooLarge => rfl

/-! ## Writing -/

theorem isDigit_hexDigit : ∀ d < 16, IsDigit 16 (hexDigit d) d := by
  unfold IsDigit
  decide

theorem isDigit_digitChar (hb : base ≤ 16) {d : Nat} (hd : d < base) : IsDigit base (Nat.digitChar d) d := by
  have hlower : ∀ d < 16, (Nat.digitChar d).toLower = Nat.digitChar d := by decide
  exact ⟨hd, hlower d (by omega)⟩

/-- The digits of a number stand for it. -/
theorem denotes_toDigits (h1 : 1 < base) (hb : base ≤ 16) (n : Nat) : Denotes base (Nat.toDigits base n) n := by
  induction n using Nat.strong_induction_on with
  | _ n ih =>
    by_cases hlt : n < base
    · rw [Nat.toDigits_of_lt_base hlt]
      exact denotes_concat.2 ⟨0, n, denotes_nil.2 rfl, isDigit_digitChar hb hlt, by omega⟩
    · have hle : base ≤ n := Nat.le_of_not_lt hlt
      rw [Nat.toDigits_of_base_le h1 hle]
      refine denotes_concat.2 ⟨n / base, n % base, ih _ (Nat.div_lt_self (by omega) h1),
        isDigit_digitChar hb (Nat.mod_lt _ (by omega)), (Nat.div_add_mod' n base).symm⟩

theorem length_hexDigits (width n : Nat) : (hexDigits width n).length = width := by
  induction width generalizing n with
  | zero => rfl
  | succ width ih => rw [hexDigits, List.length_append, ih, List.length_singleton]

/-- Sixteen-based digits of a fixed count stand for the number, if it has no more. -/
theorem denotes_hexDigits (width : Nat) (h : n < 16 ^ width) : Denotes 16 (hexDigits width n) n := by
  induction width generalizing n with
  | zero => exact denotes_nil.2 (by omega)
  | succ width ih =>
    have hq : n / 16 < 16 ^ width := Nat.div_lt_of_lt_mul (by rwa [← Nat.pow_succ'])
    refine denotes_concat.2 ⟨n / 16, n % 16, ih hq, isDigit_hexDigit _ (Nat.mod_lt _ (by decide)), ?_⟩
    omega

end TraceExport.Numeral
