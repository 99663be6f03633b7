/-
The renderings of values. That of a scalar is one JSON text from which the value is read back; within a
kind different values have different renderings. That of a double is a number of the grammar, with the
sign of the double and a fraction or an exponent, or a string where JSON has no number.
-/
import TraceExport.Event.Arg
import TraceExport.Proofs.Decimal.Layout
import TraceExport.Proofs.Keyword.Spelling
import Mathlib

namespace TraceExport

/-- The number of a JSON value, where it is a whole one. -/
def Json.int? : Json → Option ℤ
  | .number text => text.toInt?
  | _ => none

namespace Arg

open Json (Parts)
open Decimal (Binary64)

/-! ## Scalars -/

/-- The kinds of the values that are read back. -/
def Kind.scalars : List Kind := [.bool, .uint, .int, .pointer, .string, .copyString]

/-- Whether a JSON value says a scalar: it is the truth value, the exact number or the exact text, or a
text that is read as the bits of the address. -/
def Value.SaidBy (j : Json) : Value → Prop
  | .bool b => j = .bool b
  | .uint n => j.int? = some (n.toNat : ℤ)
  | .int n => j.int? = some n.toInt
  | .pointer a => ∃ s, j = .string s ∧ Keyword.parse s = .ok a.toBitVec
  | .string s => j = .string s
  | .copyString s => j = .string s
  | .double _ => False
  | .convertable _ => False

variable {v w : Value} {j : Json}

/-- The rendering of a scalar is the compact text of a value that says it. -/
theorem exists_said (hv : v.kind ∈ Kind.scalars) :
    ∃ j : Json, j.Readable ∧ v.render = Json.compact j ∧ v.SaidBy j := by
  cases v with
  | bool b => exact ⟨.bool b, .bool b, by cases b <;> rfl, rfl⟩
  | uint n => exact ⟨.int n.toNat, .int _, (Json.compact_number _).symm, Int.toInt?_repr n.toNat⟩
  | int n => exact ⟨.int n.toInt, .int _, (Json.compact_number _).symm, Int.toInt?_repr n.toInt⟩
  | pointer a =>
    have haddress : (String.ofList (addressChars a)).toList = '0' :: 'x' :: Nat.toDigits 16 a.toBitVec.toNat :=
      String.toList_ofList
    refine ⟨.string (String.ofList (addressChars a)), .string _, ?_, _, rfl, Keyword.parse_of_toDigits haddress⟩
    rw [Json.compact_string, Json.quoted, String.toList_ofList, Value.render]
  | string s => exact ⟨.string s, .string s, (Json.compact_string s).symm, rfl⟩
  | copyString s => exact ⟨.string s, .string s, (Json.compact_string s).symm, rfl⟩
  | double x => exact absurd hv (show Kind.double ∉ Kind.scalars by decide)
  | convertable rendering => exact absurd hv (show Kind.convertable ∉ Kind.scalars by decide)

/-- A JSON value says one value of a kind. -/
theorem Value.SaidBy.unique (hv : v.SaidBy j) (hw : w.SaidBy j) (hk : w.kind = v.kind) : w = v := by
  cases v <;> cases w <;> try cases hk
  case bool b c => cases hv; cases hw; rfl
  case uint n m =>
    have hnat : (m.toNat : ℤ) = n.toNat := Option.some.inj (Eq.trans (Eq.symm hw) hv)
    rw [UInt64.toNat.inj (Int.ofNat.inj hnat)]
  case int n m =>
    have hint : m.toInt = n.toInt := Option.some.inj (Eq.trans (Eq.symm hw) hv)
    rw [Int64.toInt.inj hint]
  case pointer a b =>
    obtain ⟨s, rfl, ha⟩ := hv
    obtain ⟨t, ht, hb⟩ := hw
    cases ht
    rw [ha] at hb
    rw [UInt64.toBitVec_inj.1 (Except.ok.inj hb)]
  case string s t => cases hv; cases hw; rfl
  case copyString s t => cases hv; cases hw; rfl
  case double x y => exact hv.elim
  case convertable s t => exact hv.elim

theorem appendAll_singleton (out : String) (v : Value) : appendAll out [v] = out ++ v.render := rfl

/-- Behind any text, a scalar adds one JSON text, without control characters, from which its value is read
back. Different values of one kind add different texts, and a string adds the same whether it was copied
or not. -/
theorem scalars_read_back :
    (∀ (out : String) (v : Value), v.kind ∈ Kind.scalars → ∃ text j, appendAll out [v] = out ++ text ∧
      Json.parse text = some j ∧ v.SaidBy j ∧ ∀ c ∈ text.toList, 0x20 ≤ c.toNat) ∧
    (∀ (out : String) (v w : Value), v.kind ∈ Kind.scalars → w.kind = v.kind → w ≠ v →
      appendAll out [w] ≠ appendAll out [v]) ∧
    ∀ out s, appendAll out [.copyString s] = appendAll out [.string s] := by
  refine ⟨fun out v hv => ?_, fun out v w hv hk hne heq => hne ?_, fun _ _ => rfl⟩
  · obtain ⟨j, hj, hr, hs⟩ := exists_said hv
    refine ⟨Json.compact j, j, by rw [appendAll_singleton, hr], Json.parse_compact hj, hs, ?_⟩
    rw [Json.compact, String.toList_ofList]
    exact Json.chars_visible j hj
  · rw [appendAll_singleton, appendAll_singleton, String.append_right_inj] at heq
    obtain ⟨j, hj, hr, hs⟩ := exists_said hv
    obtain ⟨i, hi, hr', hs'⟩ := exists_said (hk ▸ hv)
    have hparse := Json.parse_compact hi
    rw [← hr', heq, hr, Json.parse_compact hj] at hparse
    cases hparse
    exact hs.unique hs' hk

theorem scalars_read_back_limits :
    let quoting : Value := .string "\"\\\n\x01\u00e9"
    (∃ text j, appendAll "[" [.int Int64.minValue] = "[" ++ text ∧ Json.parse text = some j ∧
      j.int? = some (-9223372036854775808)) ∧
    (∃ text j, appendAll "" [.pointer 0xFFFFFFFFFFFFFFFF] = "" ++ text ∧ Json.parse text = some j ∧
      ∃ s, j = .string s ∧ Keyword.parse s = .ok 0xFFFFFFFFFFFFFFFF#64) ∧
    (∃ text j, appendAll "" [quoting] = "" ++ text ∧ Json.parse text = some j ∧ quoting.SaidBy j ∧
      ∀ c ∈ text.toList, 0x20 ≤ c.toNat) ∧
    appendAll "" [.uint 18446744073709551615] ≠ appendAll "" [.uint 18446744073709551614] := by
  intro quoting
  obtain ⟨hreads, hdiffer, -⟩ := scalars_read_back
  obtain ⟨text, j, htext, hj, hsaid, -⟩ := hreads "[" (.int Int64.minValue) (by decide)
  obtain ⟨text', j', htext', hj', hsaid', -⟩ := hreads "" (.pointer 0xFFFFFFFFFFFFFFFF) (by decide)
  exact ⟨⟨text, j, htext, hj, hsaid⟩, ⟨text', j', htext', hj', hsaid'⟩, hreads "" quoting (by decide),
    hdiffer "" _ _ (by decide) rfl (by decide)⟩

example : (Value.pointer 0x1F).render = "\"0x1f\"" := by decide

/-! ## Doubles -/

/-- Whether a character stands only in a number with a fraction or an exponent. -/
def IsMark (c : Char) : Prop := c = '.' ∨ c = 'e' ∨ c = 'E'

instance (c : Char) : Decidable (IsMark c) := inferInstanceAs (Decidable (_ ∨ _))

theorem withFraction_of_mark {text : List Char} {c : Char} (hc : c ∈ text) (hm : IsMark c) :
    withFraction text = text :=
  if_pos (List.any_eq_true.2 ⟨c, hc, decide_eq_true hm⟩)

theorem withFraction_of_unmarked {text : List Char} (h : ∀ c ∈ text, ¬ IsMark c) :
    withFraction text = text ++ ['.', '0'] := by
  refine if_neg fun hany => ?_
  obtain ⟨c, hc, hm⟩ := List.any_eq_true.1 hany
  exact h c hc (of_decide_eq_true hm)

theorem not_isMark_of_isDigit {c : Char} (h : c.isDigit = true) : ¬ IsMark c :=
  not_or.2 ⟨Json.ne_of_isDigit h rfl, not_or.2 ⟨Json.ne_of_isDigit h rfl, Json.ne_of_isDigit h rfl⟩⟩

theorem mem_signed {p : Parts} {negative : Bool} {c : Char} (hc : c ∈ p.fraction ++ p.exponent) :
    c ∈ p.signed negative :=
  List.mem_append_right _ (List.mem_append_right _ hc)

/-- A number is given a fraction only where it has neither a fraction nor an exponent. -/
theorem withFraction_signed (p : Parts) (negative : Bool) : ∃ q : Parts,
    withFraction (p.signed negative) = q.signed negative ∧ (q.fraction ≠ [] ∨ q.exponent ≠ []) := by
  obtain ⟨w, f, e, hw, hf, he⟩ := p
  cases hf with
  | @point ds hds =>
    refine ⟨⟨w, '.' :: ds, e, hw, .point hds, he⟩, ?_, .inl (List.cons_ne_nil _ _)⟩
    exact withFraction_of_mark (mem_signed (List.mem_cons_self ..)) (.inl rfl)
  | none =>
    cases he with
    | @mark c sign ds hc hs hds =>
      refine ⟨⟨w, [], c :: (sign ++ ds), hw, .none, .mark hc hs hds⟩, ?_, .inr (List.cons_ne_nil _ _)⟩
      exact withFraction_of_mark (mem_signed (List.mem_cons_self ..)) (.inr hc)
    | none =>
      refine ⟨⟨w, ['.', '0'], [], hw, .point Json.isDigits_zero, .none⟩, ?_, .inl (List.cons_ne_nil _ _)⟩
      rw [withFraction_of_unmarked]
      · simp [Parts.signed, Parts.chars]
      · refine List.forall_mem_append.2 ⟨?_, ?_⟩
        · cases negative <;> simp [IsMark]
        · simpa [Parts.chars] using fun c hc => not_isMark_of_isDigit (hw.isDigits.digit c hc)

/-- A number has a digit before its point already. -/
theorem withLeadingZero_signed (p : Parts) (negative : Bool) :
    withLeadingZero (p.signed negative) = p.signed negative := by
  obtain ⟨c, tail, hc, hd⟩ := p.exists_cons
  have hpoint : c ≠ '.' := Json.ne_of_isDigit hd rfl
  have hminus : c ≠ '-' := Json.ne_of_isDigit hd rfl
  rw [Parts.signed, hc]
  cases negative <;> simp [withLeadingZero, hpoint, hminus]

/-- The infinities and what is no number are strings. Any other double is a number of the grammar: with a
minus sign if the sign bit is set and only then, without superfluous zeros in front, and with a fraction
or an exponent. -/
theorem double_renders_number (x : Binary64) :
    let text := (Value.double x).render
    (x.exponentField = 2047 → x.fraction ≠ 0 → text = "\"NaN\"") ∧
    (x.exponentField = 2047 → x.fraction = 0 → text = if x.negative then "\"-Infinity\"" else "\"Infinity\"") ∧
    (x.exponentField ≠ 2047 → ∃ p : Parts, text.toList = p.signed x.negative ∧
      (p.fraction ≠ [] ∨ p.exponent ≠ []) ∧ (text.toList.head? = some '-' ↔ x.negative = true) ∧
      Json.parse text = some (.number text)) := by
  intro text
  obtain ⟨hfinite, hnone⟩ := Decimal.Layout.plain.text?_parts x
  refine ⟨fun hx hf => ?_, fun hx hf => ?_, fun hx => ?_⟩
  · have hmag : x.magnitude = .nan := by rw [Binary64.magnitude, if_pos hx, if_neg hf]
    simp only [text, Value.render, doubleChars, hnone hx, hmag]
    decide
  · have hmag : x.magnitude = .infinite := by rw [Binary64.magnitude, if_pos hx, if_pos hf]
    simp only [text, Value.render, doubleChars, hnone hx, hmag]
    cases x.negative <;> decide
  · obtain ⟨p, hp⟩ := hfinite hx
    obtain ⟨q, hq, hreal⟩ := withFraction_signed p x.negative
    have htext : text.toList = q.signed x.negative := by
      simp only [text, Value.render, doubleChars, hp, hq, withLeadingZero_signed, String.toList_ofList]
    exact ⟨q, htext, hreal, by rw [htext, q.head?_signed], q.parse_signed _ htext⟩

/-- What is no number with a sign and one bit of payload, negative infinity, and the negative number nearest
to zero. -/
theorem double_renders_number_negative :
    let nan : Binary64 := ⟨0xFFF0000000000001⟩
    let infinite : Binary64 := ⟨0xFFF0000000000000⟩
    let least : Binary64 := ⟨0x8000000000000001⟩
    (nan.exponentField = 2047 ∧ nan.fraction ≠ 0 ∧ (Value.double nan).render = "\"NaN\"") ∧
    (infinite.exponentField = 2047 ∧ infinite.fraction = 0 ∧ (Value.double infinite).render = "\"-Infinity\"") ∧
    least.exponentField ≠ 2047 ∧ ∃ p : Parts, (Value.double least).render.toList = p.signed true ∧
      (p.fraction ≠ [] ∨ p.exponent ≠ []) := by
  intro nan infinite least
  have hnan : nan.exponentField = 2047 ∧ nan.fraction ≠ 0 := by decide
  have hinfinite : infinite.exponentField = 2047 ∧ infinite.fraction = 0 := by decide
  have hleast : least.exponentField ≠ 2047 := by decide
  obtain ⟨p, hp, hreal, -⟩ := (double_renders_number least).2.2 hleast
  exact ⟨⟨hnan.1, hnan.2, (double_renders_number nan).1 hnan.1 hnan.2⟩,
    ⟨hinfinite.1, hinfinite.2, (double_renders_number infinite).2.1 hinfinite.1 hinfinite.2⟩, hleast, p, hp, hreal⟩

example : (Value.double ⟨0x8000000000000000⟩).render = "-0.0" := by decide

end Arg

end TraceExport
