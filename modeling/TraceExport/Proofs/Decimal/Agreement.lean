/-
Where the two layouts agree. The two ways to break a tie try the same grids, so their decimals have one
exponent before zeros are stripped, and are equal if they have the same value. A positional text stands for
the value of its decimal, and a scientific one for its digits and the exponent of the first; no text is
both. So the layouts set a number out alike if no tie decides its digits and the exponent of the first
is one at which both are positional or both are scientific with a minus sign.
-/
import TraceExport.Proofs.Decimal.Layout

namespace TraceExport.Decimal

open Json (isDigits_toDigits isDigits_zero)

/-! ## Values -/

namespace Scaled

/-- The rational that a decimal stands for. -/
def value (d : Scaled) : ℚ := d.digits * 10 ^ d.exponent

/-- The exponent of the first digit. -/
def lead (d : Scaled) : ℤ := d.exponent + digitCount d.digits - 1

theorem value_strip (fuel : ℕ) (d : Scaled) : (d.strip fuel).value = d.value := by
  induction fuel generalizing d with
  | zero => rfl
  | succ fuel ih =>
    rw [strip]
    split
    · next h =>
      obtain ⟨n, hn⟩ := Nat.dvd_of_mod_eq_zero h
      rw [ih, value, value, hn, Nat.mul_div_cancel_left n (by decide), zpow_add_one₀ (by norm_num)]
      push_cast
      ring
    · rfl

end Scaled

/-! ## Ties -/

/-- Whichever way a tie is broken, the same grids have a neighbour. -/
theorem Interval.onGrid_none_or_some (i : Interval) (p : ℤ) :
    (∀ tie, i.onGrid tie p = none) ∨ ∃ c : Tie → ℕ, ∀ tie, i.onGrid tie p = some ⟨c tie, p⟩ := by
  unfold Interval.onGrid
  dsimp only
  split
  · exact .inr ⟨_, fun _ => rfl⟩
  · exact .inr ⟨_, fun _ => rfl⟩
  · exact .inr ⟨_, fun _ => rfl⟩
  · exact .inl fun _ => rfl

theorem Interval.findSome?_none_or_some (i : Interval) (p : ℕ → ℤ) (ns : List ℕ) :
    (∀ tie, ns.findSome? (fun n => i.onGrid tie (p n)) = none) ∨
      ∃ (c : Tie → ℕ) (k : ℤ), ∀ tie, ns.findSome? (fun n => i.onGrid tie (p n)) = some ⟨c tie, k⟩ := by
  induction ns with
  | nil => exact .inl fun _ => rfl
  | cons n ns ih =>
    obtain hnone | ⟨c, hc⟩ := i.onGrid_none_or_some (p n)
    · simpa only [List.findSome?_cons, hnone] using ih
    · exact .inr ⟨c, p n, fun tie => by rw [List.findSome?_cons, hc]⟩

/-- The decimals of the two ties have one exponent before their zeros are stripped. -/
theorem exists_shortest (m : ℕ) (q : ℤ) :
    ∃ (c : Tie → ℕ) (k : ℤ), ∀ tie, shortest tie m q = (Scaled.mk (c tie) k).strip 18 := by
  unfold shortest
  dsimp only
  obtain hnone | ⟨c, k, hc⟩ := (Interval.of m q).findSome?_none_or_some
    (fun n => (Interval.of m q).order - (n + 1 : ℕ)) (List.range 17)
  · exact ⟨_, _, fun tie => by rw [hnone tie, Option.getD_none]⟩
  · exact ⟨c, k, fun tie => by rw [hc tie, Option.getD_some]⟩

theorem shortest_eq_of_value {tie tie' : Tie} {m : ℕ} {q : ℤ}
    (h : (shortest tie m q).value = (shortest tie' m q).value) : shortest tie m q = shortest tie' m q := by
  obtain ⟨c, k, hc⟩ := exists_shortest m q
  have hten : (10 : ℚ) ^ k ≠ 0 := zpow_ne_zero k (by norm_num)
  rw [hc, hc, Scaled.value_strip, Scaled.value_strip] at h
  have hdigits : c tie = c tie' := Nat.cast_injective (mul_right_cancel₀ hten h)
  rw [hc, hc, hdigits]

/-! ## Texts -/

namespace Layout

variable {w f ds : List Char} {n n' : ℕ} {k k' : ℤ} {d e : Scaled}

theorem toDigits_injective (h : Nat.toDigits 10 n = Nat.toDigits 10 n') : n = n' := by
  rw [← Nat.ofDigitChars_ten_toDigits (n := n), h, Nat.ofDigitChars_ten_toDigits]

theorem not_mem_of_isDigit {c : Char} (h : ∀ d ∈ ds, d.isDigit = true) (hc : c.isDigit = false) : c ∉ ds :=
  fun hm => Json.ne_of_isDigit (h c hm) hc rfl

theorem ne_point_of_isDigit (h : ∀ c ∈ ds, c.isDigit = true) : ∀ c ∈ ds, decide (c ≠ '.') = true :=
  fun c hc => decide_eq_true (Json.ne_of_isDigit (h c hc) rfl)

theorem filter_point (hw : ∀ c ∈ w, c.isDigit = true) (hf : ∀ c ∈ f, c.isDigit = true) :
    (w ++ '.' :: f).filter (· ≠ '.') = w ++ f := by
  rw [List.filter_append, List.filter_cons_of_neg (by decide), List.filter_eq_self.2 (ne_point_of_isDigit hw),
    List.filter_eq_self.2 (ne_point_of_isDigit hf)]

/-- The rational that digits with a point stand for. -/
def pointValue (cs : List Char) : ℚ :=
  Nat.ofDigitChars 10 (cs.filter (· ≠ '.')) 0 / 10 ^ (cs.dropWhile (· ≠ '.')).tail.length

theorem pointValue_append (hw : ∀ c ∈ w, c.isDigit = true) (hf : ∀ c ∈ f, c.isDigit = true) :
    pointValue (w ++ '.' :: f) = Nat.ofDigitChars 10 (w ++ f) 0 / 10 ^ f.length := by
  have hdrop : (w ++ '.' :: f).dropWhile (· ≠ '.') = '.' :: f := by
    rw [List.dropWhile_append_of_pos (ne_point_of_isDigit hw), List.dropWhile_cons_of_neg (by decide)]
  rw [pointValue, filter_point hw hf, hdrop, List.tail_cons]

theorem div_pow_toNat (n : ℕ) (hk : k ≤ 0) : (n : ℚ) / 10 ^ (-k).toNat = n * 10 ^ k := by
  obtain ⟨j, rfl⟩ : ∃ j : ℕ, k = -j := ⟨(-k).toNat, by omega⟩
  rw [neg_neg, Int.toNat_natCast, zpow_neg, zpow_natCast, div_eq_mul_inv]

/-- A positional text stands for the value of its decimal. -/
theorem pointValue_positional (n : ℕ) (k : ℤ) :
    pointValue (positional (Nat.toDigits 10 n) k) = n * 10 ^ k := by
  have hds := (isDigits_toDigits n).digit
  have hzeros := isDigit_replicate
  unfold positional
  dsimp only
  split
  · next hk =>
    obtain ⟨k, rfl⟩ := Int.eq_ofNat_of_zero_le hk
    have hdigits : Nat.ofDigitChars 10 (Nat.toDigits 10 n ++ List.replicate k '0' ++ ['0']) 0 = n * 10 ^ k * 10 := by
      rw [Nat.ofDigitChars_append, Nat.ofDigitChars_append, Nat.ofDigitChars_ten_toDigits,
        Nat.ofDigitChars_replicate_zero, Nat.ofDigitChars_cons, Nat.ofDigitChars_nil, Nat.sub_self]
      ring
    rw [pointValue_append (List.forall_mem_append.2 ⟨hds, hzeros _⟩) isDigits_zero.digit, Int.toNat_natCast,
      hdigits, List.length_singleton, zpow_natCast]
    push_cast
    ring
  split
  · next hk hlead =>
    have hlength : ((Nat.toDigits 10 n).drop ((Nat.toDigits 10 n).length + k).toNat).length = (-k).toNat := by
      rw [List.length_drop]
      omega
    rw [pointValue_append (fun c hc => hds c (List.mem_of_mem_take hc)) (fun c hc => hds c (List.mem_of_mem_drop hc)),
      List.take_append_drop, Nat.ofDigitChars_ten_toDigits, hlength, div_pow_toNat n (by omega)]
  · next hk hlead =>
    have hlength : (List.replicate (-((Nat.toDigits 10 n).length + k)).toNat '0' ++ Nat.toDigits 10 n).length =
        (-k).toNat := by
      rw [List.length_append, List.length_replicate]
      omega
    have hdigits : ∀ j : ℕ, Nat.ofDigitChars 10 (['0'] ++ (List.replicate j '0' ++ Nat.toDigits 10 n)) 0 = n := by
      intro j
      rw [Nat.ofDigitChars_append, Nat.ofDigitChars_append, Nat.ofDigitChars_cons, Nat.ofDigitChars_nil,
        Nat.ofDigitChars_replicate_zero]
      exact Nat.ofDigitChars_ten_toDigits
    rw [List.cons_append, List.cons_append, ← List.singleton_append,
      pointValue_append isDigits_zero.digit (List.forall_mem_append.2 ⟨hzeros _, hds⟩), hdigits, hlength,
      div_pow_toNat n (by omega)]

theorem not_mem_positional (n : ℕ) (k : ℤ) : 'e' ∉ positional (Nat.toDigits 10 n) k := by
  have hds := (isDigits_toDigits n).digit
  have hzeros : ∀ j : ℕ, 'e' ∉ List.replicate j '0' := fun j => not_mem_of_isDigit (isDigit_replicate j) rfl
  have hdigits : 'e' ∉ Nat.toDigits 10 n := not_mem_of_isDigit hds rfl
  unfold positional
  dsimp only
  split
  · simp [hzeros, hdigits]
  split
  · have htake : ∀ j, 'e' ∉ (Nat.toDigits 10 n).take j := fun j hm => hdigits (List.mem_of_mem_take hm)
    have hdrop : ∀ j, 'e' ∉ (Nat.toDigits 10 n).drop j := fun j hm => hdigits (List.mem_of_mem_drop hm)
    simp [htake, hdrop]
  · simp [hzeros, hdigits]

theorem point_mem_positional (ds : List Char) (k : ℤ) : '.' ∈ positional ds k := by
  unfold positional
  dsimp only
  split_ifs <;> simp

/-- A scientific text is its digits, with a point or without, up to the mark of the exponent. -/
theorem scientific_eq (plus : Bool) (n : ℕ) (k : ℤ) : ∃ mantissa,
    scientific plus (Nat.toDigits 10 n) k = mantissa ++ 'e' :: (sign plus k ++ Nat.toDigits 10 k.natAbs) ∧
      'e' ∉ mantissa ∧ mantissa.filter (· ≠ '.') = Nat.toDigits 10 n := by
  have hds := (isDigits_toDigits n).digit
  have he : 'e' ∉ Nat.toDigits 10 n := not_mem_of_isDigit hds rfl
  obtain ⟨c, tail, hc, -⟩ := (isDigits_toDigits n).exists_cons
  rw [hc] at he hds ⊢
  cases tail with
  | nil => exact ⟨[c], rfl, he, List.filter_eq_self.2 (ne_point_of_isDigit hds)⟩
  | cons d tail =>
    obtain ⟨hfirst, hrest⟩ := List.forall_mem_cons.1 hds
    exact ⟨[c] ++ '.' :: d :: tail, by simp [scientific, sign], by simpa using he,
      filter_point (List.forall_mem_singleton.2 hfirst) hrest⟩

/-- Without a plus sign and with one, an exponent is written alike if it is negative. -/
theorem sign_inj (h : sign false k ++ Nat.toDigits 10 k.natAbs = sign true k' ++ Nat.toDigits 10 k'.natAbs) :
    k = k' ∧ k < 0 := by
  obtain ⟨c, tail, hc, hd⟩ := (isDigits_toDigits k.natAbs).exists_cons
  unfold sign at h
  rcases lt_or_ge k 0 with hk | hk <;> rcases lt_or_ge k' 0 with hk' | hk'
  · rw [if_pos hk, if_pos hk', List.append_cancel_left_eq] at h
    have habs := toDigits_injective h
    omega
  · simp [hk, hk'.not_gt] at h
  · simp only [hk.not_gt, hk', hc, if_true, if_false, List.singleton_append] at h
    exact absurd (List.cons.inj h).1 (Json.ne_of_isDigit hd rfl)
  · simp only [hk.not_gt, hk'.not_gt, hc, if_true, if_false, List.singleton_append] at h
    exact absurd (List.cons.inj h).1 (Json.ne_of_isDigit hd rfl)

theorem not_mem_sign (plus : Bool) (k : ℤ) : 'e' ∉ sign plus k ++ Nat.toDigits 10 k.natAbs := by
  have hsign : 'e' ∉ sign plus k := by
    unfold sign
    split_ifs <;> decide
  exact fun hm => (List.mem_append.1 hm).elim hsign (not_mem_of_isDigit (isDigits_toDigits _).digit rfl)

/-- Scientific texts without a plus sign and with one are alike if their digits are, and their exponent
is negative. -/
theorem scientific_inj (h : scientific false (Nat.toDigits 10 n) k = scientific true (Nat.toDigits 10 n') k') :
    n = n' ∧ k = k' ∧ k < 0 := by
  obtain ⟨mantissa, htext, he, hdigits⟩ := scientific_eq false n k
  obtain ⟨mantissa', htext', -, hdigits'⟩ := scientific_eq true n' k'
  rw [htext, htext', List.append_cons_inj_of_notMem he (not_mem_sign false k)] at h
  obtain ⟨rfl, -, hexponent⟩ := h
  exact ⟨toDigits_injective (hdigits.symm.trans hdigits'), sign_inj hexponent⟩

theorem mem_scientific (plus : Bool) (n : ℕ) (k : ℤ) : 'e' ∈ scientific plus (Nat.toDigits 10 n) k := by
  obtain ⟨mantissa, htext, -⟩ := scientific_eq plus n k
  rw [htext]
  exact List.mem_append_right _ (List.mem_cons_self ..)

/-! ## Layouts -/

/-- The text of a decimal. -/
def setOut (l : Layout) (d : Scaled) : List Char :=
  if l.least ≤ d.lead ∧ d.lead ≤ l.greatest then positional (Nat.toDigits 10 d.digits) d.exponent
  else scientific l.plus (Nat.toDigits 10 d.digits) d.lead

theorem finite_eq_setOut (l : Layout) {m : ℕ} (hm : m ≠ 0) (q : ℤ) :
    l.finite m q = l.setOut (shortest l.tie m q) := if_neg hm

/-- The text of a number has a point or an exponent. -/
theorem point_or_mark_mem_finite (l : Layout) (m : ℕ) (q : ℤ) : '.' ∈ l.finite m q ∨ 'e' ∈ l.finite m q := by
  by_cases hm : m = 0
  · rw [finite, if_pos hm]
    exact .inl (by decide)
  · rw [finite_eq_setOut l hm, setOut]
    split
    · exact .inl (point_mem_positional _ _)
    · exact .inr (mem_scientific _ _ _)

/-- Whether both layouts are positional at the exponent of a first digit, or both scientific with a minus
sign. -/
def IsCommon (lead : ℤ) : Prop := -4 ≤ lead ∧ lead ≤ 15 ∨ lead < -5

instance (lead : ℤ) : Decidable (IsCommon lead) := inferInstanceAs (Decidable (_ ∨ _))

theorem setOut_of_isCommon (h : IsCommon d.lead) : plain.setOut d = nested.setOut d := by
  unfold setOut plain nested
  dsimp only
  rcases h with ⟨hleast, hgreatest⟩ | hlow
  · rw [if_pos ⟨hleast, hgreatest⟩, if_pos ⟨by omega, hgreatest⟩]
  · have hneg : d.lead < 0 := by omega
    rw [if_neg (by omega), if_neg (by omega)]
    simp only [scientific, if_pos hneg]

theorem isCommon_of_setOut (hvalue : d.value = e.value → d = e) (h : plain.setOut d = nested.setOut e) :
    d = e ∧ IsCommon d.lead := by
  unfold setOut plain nested at h
  dsimp only at h
  split at h <;> split at h
  · next hd he =>
    -- both texts stand for the values of their decimals
    have hpoint := congrArg pointValue h
    rw [pointValue_positional, pointValue_positional] at hpoint
    exact ⟨hvalue hpoint, .inl hd⟩
  · exact absurd (h ▸ mem_scientific ..) (not_mem_positional d.digits d.exponent)
  · exact absurd (h ▸ mem_scientific ..) (not_mem_positional e.digits e.exponent)
  · next hd he =>
    obtain ⟨hdigits, hlead, hneg⟩ := scientific_inj h
    have hexponent : d.exponent = e.exponent := by
      unfold Scaled.lead at hlead
      rw [hdigits] at hlead
      omega
    refine ⟨?_, .inr ?_⟩
    · cases d
      cases e
      cases hdigits
      cases hexponent
      rfl
    · omega

end Layout

/-! ## Numbers -/

/-- Whether both layouts set a number out alike: it is zero, or both ties give the same digits and the
exponent of the first is common to the layouts. -/
def Magnitude.IsUniform : Magnitude → Prop
  | .finite m q => m = 0 ∨ shortest .up m q = shortest .toEven m q ∧ Layout.IsCommon (shortest .up m q).lead
  | _ => False

instance : DecidablePred Magnitude.IsUniform
  | .finite _ _ => inferInstanceAs (Decidable (_ ∨ _))
  | .infinite => .isFalse id
  | .nan => .isFalse id

theorem exponentField_of_isUniform {x : Binary64} (h : x.magnitude.IsUniform) : x.exponentField ≠ 2047 := by
  intro hx
  unfold Binary64.magnitude at h
  rw [if_pos hx] at h
  split at h
  · exact h
  · exact h

theorem Layout.finite_plain_eq_nested_iff (m : ℕ) (q : ℤ) :
    plain.finite m q = nested.finite m q ↔ (Magnitude.finite m q).IsUniform := by
  by_cases hm : m = 0
  · have hzero : ∀ l : Layout, l.finite m q = ['0', '.', '0'] := fun _ => if_pos hm
    exact iff_of_true (by rw [hzero, hzero]) (.inl hm)
  · have hplain : plain.finite m q = plain.setOut (shortest .up m q) := finite_eq_setOut plain hm q
    have hnested : nested.finite m q = nested.setOut (shortest .toEven m q) := finite_eq_setOut nested hm q
    rw [hplain, hnested]
    constructor
    · intro h
      exact .inr (isCommon_of_setOut shortest_eq_of_value h)
    · rintro (hzero | ⟨hties, hcommon⟩)
      · exact absurd hzero hm
      · rw [← hties]
        exact setOut_of_isCommon hcommon

/-- Of the finite numbers, the layouts set out those alike that are uniform. -/
theorem Layout.text?_plain_eq_nested_iff {x : Binary64} (hx : x.exponentField ≠ 2047) :
    plain.text? x = nested.text? x ↔ x.magnitude.IsUniform := by
  obtain ⟨p, hp⟩ := (plain.text?_parts x).1 hx
  unfold text? at hp ⊢
  split at hp
  · next m q hmag =>
    rw [hmag, ← finite_plain_eq_nested_iff, Option.some.injEq, List.append_cancel_left_eq]
  · cases hp

end TraceExport.Decimal
