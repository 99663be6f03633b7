/-
The texts of floating-point numbers follow the grammar of JSON numbers. The shortest decimal of a
positive number is positive: zero lies below the interval of the number, and where no grid has a
neighbour in the interval there are digits enough for the number itself. Its first digit is no zero
then, so no layout writes a superfluous one.
-/
import TraceExport.Decimal.Layout
import TraceExport.Proofs.Json.Number

namespace TraceExport.Decimal

open Json (IsDigits IsPositive IsExponent Parts isDigits_zero isDigits_toDigits isPositive_toDigits)

variable {m : ℕ} {q : ℤ}

/-! ## The shortest decimal -/

theorem Interval.low_pos (hm : 0 < m) (q : ℤ) : 0 < (Interval.of m q).low := by
  have hscale : 0 < Nat.pow 2 (q - 2).toNat := Nat.pow_pos (by decide)
  refine Nat.mul_pos ?_ hscale
  split <;> omega

theorem pos_of_fits {closed : Bool} {low high den c : ℕ} (hlow : 0 < low)
    (h : (if closed = true then decide (low ≤ c * den) && decide (c * den ≤ high)
      else decide (low < c * den) && decide (c * den < high)) = true) : 0 < c := by
  obtain rfl | hc := Nat.eq_zero_or_pos c
  · simp [Nat.ne_of_gt hlow] at h
  · exact hc

/-- A neighbour in an interval above zero is positive. -/
theorem Interval.onGrid_pos {i : Interval} (hi : 0 < i.low) {tie : Tie} {p : ℤ} {d : Scaled}
    (h : i.onGrid tie p = some d) : 0 < d.digits := by
  have hlow : 0 < i.low * Nat.pow 10 (-p).toNat := Nat.mul_pos hi (Nat.pow_pos (by decide))
  unfold Interval.onGrid at h
  simp only at h
  split at h
  · next hdown _ =>
    cases h
    dsimp only
    split
    · exact Nat.succ_pos _
    · exact pos_of_fits hlow hdown
  · next hdown _ =>
    cases h
    exact pos_of_fits hlow hdown
  · cases h
    exact Nat.succ_pos _
  · cases h

theorem Scaled.strip_pos (fuel : ℕ) {d : Scaled} (hd : 0 < d.digits) : 0 < (d.strip fuel).digits := by
  induction fuel generalizing d with
  | zero => exact hd
  | succ fuel ih =>
    rw [Scaled.strip]
    split
    · next h10 => exact ih (by dsimp only; omega)
    · exact hd

theorem digitCount_pos (n : ℕ) : 0 < digitCount n := List.length_pos_of_ne_nil Nat.toDigits_ne_nil

/-- A positive number has the power of ten of its first digit below it. -/
theorem pow_digitCount_le {n : ℕ} (hn : 0 < n) : 10 ^ (digitCount n - 1) ≤ n := by
  obtain h | h := Nat.eq_zero_or_pos (digitCount n - 1)
  · rw [h]
    exact hn
  · refine Nat.le_of_not_lt fun hlt => ?_
    have hle := (Nat.length_toDigits_le_iff (by decide) h).2 hlt
    unfold digitCount at h hle
    omega

theorem two_pow_le_ten_pow (n : ℕ) : 2 ^ (3 * n) ≤ 10 ^ n := by
  rw [Nat.pow_mul]
  exact Nat.pow_le_pow_left (by decide) n

theorem Interval.unit_le {q : ℤ} (hq : -1074 ≤ q) (m : ℕ) : (Interval.of m q).unit ≤ 10 ^ 400 :=
  calc 2 ^ (2 - q).toNat ≤ 2 ^ (3 * 400) := Nat.pow_le_pow_right (by decide) (by omega)
    _ ≤ 10 ^ 400 := two_pow_le_ten_pow 400

/-- The order of a number is that of a power of ten below it. -/
theorem Interval.exists_order (hm : 0 < m) (hq : -1074 ≤ q) : ∃ n : ℕ, (Interval.of m q).order = (n : ℤ) - 399 ∧
    10 ^ n * (Interval.of m q).unit ≤ (Interval.of m q).mid * 10 ^ 400 := by
  have hmid : 0 < (Interval.of m q).mid := Nat.mul_pos (by omega) (Nat.pow_pos (by decide))
  have hunit : 0 < (Interval.of m q).unit := Nat.pow_pos (by decide)
  have hpos : 0 < (Interval.of m q).mid * 10 ^ 400 / (Interval.of m q).unit :=
    Nat.div_pos ((Interval.unit_le hq m).trans (Nat.le_mul_of_pos_left _ hmid)) hunit
  obtain ⟨n, hn⟩ := Nat.exists_eq_succ_of_ne_zero
    (digitCount_pos ((Interval.of m q).mid * 10 ^ 400 / (Interval.of m q).unit)).ne'
  refine ⟨n, ?_, ?_⟩
  · simp only [Interval.order, Nat.pow_eq, hn]
    omega
  · have hle := pow_digitCount_le hpos
    rw [hn, Nat.succ_sub_one] at hle
    exact (Nat.le_div_iff_mul_le hunit).1 hle

theorem mul_pow_le {unit mid n c d : ℕ} (hle : 10 ^ n * unit ≤ mid * 10 ^ c) (hcd : c ≤ d) :
    unit * 10 ^ (n - d) ≤ mid * 10 ^ (d - n) := by
  have hsum : n - d + d = d - n + n := by omega
  have hten : 10 ^ c ≤ 10 ^ d := Nat.pow_le_pow_right (by decide) hcd
  refine Nat.le_of_mul_le_mul_right ?_ (Nat.pow_pos (n := d) (show 0 < 10 by decide))
  calc unit * 10 ^ (n - d) * 10 ^ d
      = 10 ^ (d - n) * (10 ^ n * unit) := by rw [mul_assoc, ← pow_add, hsum, pow_add]; ring
    _ ≤ 10 ^ (d - n) * (mid * 10 ^ c) := Nat.mul_le_mul_left _ hle
    _ ≤ 10 ^ (d - n) * (mid * 10 ^ d) := Nat.mul_le_mul_left _ (Nat.mul_le_mul_left _ hten)
    _ = mid * 10 ^ (d - n) * 10 ^ d := by ring

/-- On the grid of seventeen digits the number is not below one. -/
theorem Interval.unit_le_mid (hm : 0 < m) (hq : -1074 ≤ q) :
    (Interval.of m q).unit * 10 ^ ((Interval.of m q).order - 17).toNat ≤
      (Interval.of m q).mid * 10 ^ (17 - (Interval.of m q).order).toNat := by
  obtain ⟨n, hn, hle⟩ := Interval.exists_order hm hq
  have hup : ((Interval.of m q).order - 17).toNat = n - 416 := by omega
  have hdown : (17 - (Interval.of m q).order).toNat = 416 - n := by omega
  rw [hup, hdown]
  exact mul_pow_le hle (by decide)

theorem shortest_pos (tie : Tie) (hm : 0 < m) (hq : -1074 ≤ q) : 0 < (shortest tie m q).digits := by
  refine Scaled.strip_pos 18 ?_
  generalize hfound : (List.range 17).findSome? (fun n =>
    (Interval.of m q).onGrid tie ((Interval.of m q).order - (n + 1 : ℕ))) = found
  cases found with
  | none => exact Nat.div_pos (Interval.unit_le_mid hm hq) (Nat.mul_pos (Nat.pow_pos (by decide)) (Nat.pow_pos (by decide)))
  | some d =>
    obtain ⟨n, -, hn⟩ := List.exists_of_findSome?_eq_some hfound
    exact Interval.onGrid_pos (Interval.low_pos hm q) hn

/-! ## The layouts -/

namespace Layout

variable {ds : List Char}

theorem isDigit_replicate (n : ℕ) : ∀ c ∈ List.replicate n '0', c.isDigit = true := by
  intro c hc
  rw [List.eq_of_mem_replicate hc]
  rfl

theorem positional_parts (h : IsPositive ds) (k : ℤ) : ∃ p : Parts, positional ds k = p.chars := by
  unfold positional
  simp only
  split
  · exact ⟨⟨ds ++ List.replicate k.toNat '0', ['.', '0'], [], .positive (h.append (isDigit_replicate _)),
      .point isDigits_zero, .none⟩, by simp [Parts.chars]⟩
  split
  · next hk hlead =>
    have hdrop : IsDigits (ds.drop (ds.length + k).toNat) := by
      refine ⟨List.ne_nil_of_length_pos ?_, fun c hc => h.digit c (List.mem_of_mem_drop hc)⟩
      rw [List.length_drop]
      omega
    have htake : IsPositive (ds.take (ds.length + k).toNat) := h.take (by omega)
    exact ⟨⟨_, _, [], .positive htake, .point hdrop, .none⟩, by simp [Parts.chars]⟩
  · have hzeros := h.toIsDigits.append_left (isDigit_replicate (-(ds.length + k)).toNat)
    exact ⟨⟨['0'], _, [], .zero, .point hzeros, .none⟩, by simp [Parts.chars]⟩

/-- The sign of an exponent. -/
def sign (plus : Bool) (k : ℤ) : List Char := if k < 0 then ['-'] else if plus then ['+'] else []

theorem isExponent_mark (plus : Bool) (k : ℤ) :
    IsExponent ('e' :: (sign plus k ++ Nat.toDigits 10 k.natAbs)) := by
  refine .mark (.inl rfl) ?_ (isDigits_toDigits _)
  unfold sign
  split_ifs <;> decide

theorem scientific_parts (plus : Bool) (h : IsPositive ds) (k : ℤ) :
    ∃ p : Parts, scientific plus ds k = p.chars := by
  obtain ⟨d, tail, rfl⟩ := List.exists_cons_of_ne_nil h.ne_nil
  have hfirst : IsPositive [d] := h.take Nat.one_pos
  cases tail with
  | nil =>
    exact ⟨⟨[d], [], _, .positive hfirst, .none, isExponent_mark plus k⟩,
      by simp [scientific, sign, Parts.chars]⟩
  | cons e tail =>
    have hrest : IsDigits (e :: tail) := ⟨by simp, fun c hc => h.digit c (List.mem_cons_of_mem d hc)⟩
    exact ⟨⟨[d], _, _, .positive hfirst, .point hrest, isExponent_mark plus k⟩,
      by simp [scientific, sign, Parts.chars]⟩

/-- The text of a number without its sign follows the grammar, whatever the layout is. -/
theorem finite_parts (l : Layout) (m : ℕ) (hq : -1074 ≤ q) : ∃ p : Parts, l.finite m q = p.chars := by
  unfold finite
  split
  · exact ⟨⟨['0'], ['.', '0'], [], .zero, .point isDigits_zero, .none⟩, rfl⟩
  · next hm =>
    have hdigits := isPositive_toDigits (shortest_pos l.tie (Nat.pos_of_ne_zero hm) hq)
    simp only
    split
    · exact positional_parts hdigits _
    · exact scientific_parts _ hdigits _

/-- A number has the text of its magnitude behind its sign, and what is no finite number has none. -/
theorem text?_parts (l : Layout) (x : Binary64) :
    (x.exponentField ≠ 2047 → ∃ p : Parts, l.text? x = some (p.signed x.negative)) ∧
      (x.exponentField = 2047 → l.text? x = none) := by
  constructor
  · intro hx
    have hfinite : ∃ m q, x.magnitude = .finite m q ∧ -1074 ≤ q := by
      unfold Binary64.magnitude
      rw [if_neg hx]
      split
      · exact ⟨_, _, rfl, le_rfl⟩
      · exact ⟨_, _, rfl, by omega⟩
    obtain ⟨m, q, hmag, hq⟩ := hfinite
    obtain ⟨p, hp⟩ := l.finite_parts m hq
    exact ⟨p, by simp only [text?, hmag, hp, Parts.signed]⟩
  · intro hx
    by_cases hf : x.fraction = 0 <;> simp [text?, Binary64.magnitude, hx, hf]

end Layout

end TraceExport.Decimal
