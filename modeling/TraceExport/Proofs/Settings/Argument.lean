/-
Arguments of entries. The text of an array or a table is its compact JSON, and so is that of a truth value,
an integer or a string, so a tree of these is read back from the text of its argument. An array is its items
between brackets, each with the text it has as an argument of its own; of the finite numbers this holds for
those that both layouts set out alike.
-/
import TraceExport.Proofs.Decimal.Agreement
import TraceExport.Proofs.Toml.Tree
import TraceExport.Settings.Basic

namespace TraceExport

open Decimal (Binary64 Layout)

/-! ## Renderings -/

/-- A finite double is rendered as its text, which has a digit in front and a point or an exponent. -/
theorem Arg.doubleChars_of_text? {x : Binary64} {text : List Char} (h : Layout.plain.text? x = some text) :
    doubleChars x = text := by
  obtain ⟨hfinite, hnone⟩ := Layout.plain.text?_parts x
  by_cases hx : x.exponentField = 2047
  · rw [hnone hx] at h
    cases h
  · obtain ⟨p, hp⟩ := hfinite hx
    have hmark : ∃ c ∈ text, IsMark c := by
      unfold Layout.text? at h
      split at h
      · next m q _ =>
        cases h
        obtain hpoint | he := Layout.plain.point_or_mark_mem_finite m q
        · exact ⟨'.', List.mem_append_right _ hpoint, .inl rfl⟩
        · exact ⟨'e', List.mem_append_right _ he, .inr (.inl rfl)⟩
      · cases h
    obtain ⟨c, hc, hm⟩ := hmark
    have htext : text = p.signed x.negative := Option.some.inj (h.symm.trans hp)
    unfold doubleChars
    rw [h]
    dsimp only
    rw [withFraction_of_mark hc hm, htext, withLeadingZero_signed]

/-! ## Scalars -/

namespace Toml.Value

/-- Whether a value is neither an array nor a table. -/
def IsScalar : Value → Prop
  | .array _ => False
  | .table _ => False
  | _ => True

/-- Whether a value is a scalar that JSON has, and a number among these one that the layouts set out
alike. -/
def IsUniform : Value → Prop
  | .bool _ => True
  | .int _ => True
  | .float x => x.magnitude.IsUniform
  | .string _ => True
  | _ => False

instance : DecidablePred IsUniform
  | .bool _ => .isTrue trivial
  | .int _ => .isTrue trivial
  | .float x => inferInstanceAs (Decidable x.magnitude.IsUniform)
  | .string _ => .isTrue trivial
  | .datetime _ => .isFalse id
  | .array _ => .isFalse id
  | .table _ => .isFalse id

end Toml.Value

namespace Settings

variable {v : Toml.Value} {p : Profile}

theorem render_bool (b : Bool) : (argValue (.bool b)).render = Json.compact (Toml.Value.bool b).toJson := by
  rw [Toml.Value.toJson]
  cases b <;> rfl

/-- An integer is rendered alike whether it is negative or not. -/
theorem render_int (n : Int64) : (argValue (.int n)).render = Json.compact (Toml.Value.int n).toJson := by
  rw [Toml.Value.toJson, Json.int, Json.compact_number, argValue]
  split
  · next hn =>
    rw [Arg.Value.render, Int64.toNat_toUInt64_of_le hn, Int64.toInt_eq_toNatClampNeg hn]
    rfl
  · rfl

theorem render_string (s : String) : (argValue (.string s)).render = Json.compact (Toml.Value.string s).toJson := by
  rw [Toml.Value.toJson, Json.compact_string]
  rfl

theorem render_of_plain (h : v.Plain) : (argValue v).render = Json.compact v.toJson := by
  cases h with
  | bool b => exact render_bool b
  | int n => exact render_int n
  | string s => exact render_string s
  | array h => rfl
  | table hkeys h => rfl

theorem field_value (hp : ∀ kind, p.skips kind = false) (a : Arg) : (p.field a).value = a.value.render := by
  rw [Profile.field, hp]
  rfl

/-! ## Trees -/

/-- A profile that skips no kind renders a tree as one JSON text without control characters, from which the
tree is read back. -/
theorem structured_reads_back (hp : ∀ kind, p.skips kind = false) {a : ArgEntry} (ha : a.value.Plain) :
    let field := p.field a.toArg
    field.name = a.name ∧ (∃ j, Json.parse field.value = some j ∧ Toml.Value.ofJson? j = some a.value) ∧
      ∀ c ∈ field.value.toList, 0x20 ≤ c.toNat := by
  intro field
  have htext : field.value = Json.compact a.value.toJson :=
    (field_value hp a.toArg).trans (render_of_plain ha)
  have hread := a.value.toJson_readable
  refine ⟨rfl, ⟨a.value.toJson, ?_, a.value.ofJson?_toJson ha⟩, ?_⟩
  · rw [htext, Json.parse_compact hread]
  · rw [htext, Json.compact, String.toList_ofList]
    exact Json.chars_visible _ hread

/-- Keys and texts to be escaped, both ends of the integers, and containers without items. -/
theorem structured_reads_back_nested :
    let p := ({} : Profile).renderingAll
    let least : Toml.Value := .int Int64.minValue
    let greatest : Toml.Value := .int Int64.maxValue
    let a : ArgEntry := ⟨"tree", .table [
      ("", .array [.bool true, least, .array [], .table [("\"", .string "a\nb\x01")]]),
      ("n", greatest)]⟩
    let field := p.field a.toArg
    (∀ kind, p.skips kind = false) ∧ a.value.Plain ∧
      (∃ j, Json.parse field.value = some j ∧ Toml.Value.ofJson? j = some a.value) ∧
      ∀ c ∈ field.value.toList, 0x20 ≤ c.toNat := by
  intro p least greatest a field
  have hp : ∀ kind, p.skips kind = false := fun _ => rfl
  have ha : a.value.Plain := by
    refine .table (by decide) (List.forall_mem_cons.2 ⟨.array ?_, List.forall_mem_singleton.2 (.int _)⟩)
    intro v hv
    simp only [List.mem_cons, List.not_mem_nil, or_false] at hv
    rcases hv with rfl | rfl | rfl | rfl
    · exact .bool true
    · exact .int Int64.minValue
    · exact .array (List.forall_mem_nil _)
    · exact .table (by decide) (List.forall_mem_singleton.2 (.string _))
  exact ⟨hp, ha, (structured_reads_back hp ha).2⟩

/-! ## Items -/

theorem render_float_iff {x : Binary64} (hx : x.exponentField ≠ 2047) :
    (argValue (.float x)).render = Json.compact (Toml.Value.float x).toJson ↔ x.magnitude.IsUniform := by
  obtain ⟨p, hp⟩ := (Layout.plain.text?_parts x).1 hx
  obtain ⟨p', hp'⟩ := (Layout.nested.text?_parts x).1 hx
  have hrender : (argValue (.float x)).render = String.ofList (p.signed x.negative) :=
    congrArg String.ofList (Arg.doubleChars_of_text? hp)
  rw [hrender, Toml.Value.toJson, Toml.Value.floatJson, hp', ← Layout.text?_plain_eq_nested_iff hx, hp, hp',
    Option.some.injEq]
  dsimp only
  rw [Json.compact_number, String.ofList_inj]

theorem render_of_isUniform (h : v.IsUniform) : (argValue v).render = Json.compact v.toJson := by
  cases v with
  | bool b => exact render_bool b
  | int n => exact render_int n
  | float x => exact (render_float_iff (Decimal.exponentField_of_isUniform h)).2 h
  | string s => exact render_string s
  | datetime d => exact h.elim
  | array items => exact h.elim
  | table entries => exact h.elim

theorem field_array (hp : ∀ kind, p.skips kind = false) (name : String) (vs : List Toml.Value) :
    (p.field (ArgEntry.toArg ⟨name, .array vs⟩)).value =
      "[" ++ ",".intercalate (vs.map fun v => Json.compact v.toJson) ++ "]" := by
  have hitems : (Toml.Value.itemsJson vs).map Json.compact = vs.map fun v => Json.compact v.toJson := by
    induction vs with
    | nil => rw [Toml.Value.itemsJson]; rfl
    | cons v vs ih => rw [Toml.Value.itemsJson, List.map_cons, List.map_cons, ih]
  rw [field_value hp, ← hitems, ← Json.compact_array]
  rfl

/-- A profile that skips no kind renders an array of uniform scalars as the texts that these have as
arguments of their own. Of the finite numbers, only the uniform ones have the same text in an array. -/
theorem uniform_scalars_alike_in_arrays (hp : ∀ kind, p.skips kind = false) (name : String) :
    let text := fun v => (p.field (ArgEntry.toArg ⟨name, v⟩)).value
    (∀ vs : List Toml.Value, (∀ v ∈ vs, v.IsUniform) →
      text (.array vs) = "[" ++ ",".intercalate (vs.map text) ++ "]") ∧
    ∀ x : Binary64, x.exponentField ≠ 2047 →
      (text (.array [.float x]) = "[" ++ text (.float x) ++ "]" ↔ x.magnitude.IsUniform) := by
  intro text
  have htext : ∀ v, text v = (argValue v).render := fun v => field_value hp _
  constructor
  · intro vs hvs
    have hitems : vs.map text = vs.map fun v => Json.compact v.toJson :=
      List.map_congr_left fun v hv => (htext v).trans (render_of_isUniform (hvs v hv))
    rw [hitems]
    exact field_array hp name vs
  · intro x hx
    have harray : text (.array [.float x]) = "[" ++ Json.compact (Toml.Value.float x).toJson ++ "]" :=
      field_array hp name [.float x]
    rw [harray, htext, String.append_left_inj, String.append_right_inj, ← render_float_iff hx, eq_comm]

/-- A number of two digits, the greatest below the sixteenth power of ten, zero with a sign, the least above
zero, and a text with a comma and quotes. -/
theorem uniform_scalars_alike_in_arrays_mixed :
    let p := ({} : Profile).renderingAll
    let text := fun v => (p.field (ArgEntry.toArg ⟨"n", v⟩)).value
    let vs : List Toml.Value := [.bool false, .int (-7), .float ⟨0x3FF8000000000000⟩,
      .float ⟨0x4341C37937E07FFF⟩, .float ⟨0x8000000000000000⟩, .float ⟨1⟩, .string "a,\"b\""]
    (∀ kind, p.skips kind = false) ∧ (∀ v ∈ vs, v.IsUniform) ∧
      text (.array vs) = "[" ++ ",".intercalate (vs.map text) ++ "]" := by
  intro p text vs
  have hp : ∀ kind, p.skips kind = false := fun _ => rfl
  have hvs : ∀ v ∈ vs, v.IsUniform := by
    unfold vs
    decide +kernel
  exact ⟨hp, hvs, (uniform_scalars_alike_in_arrays hp "n").1 vs hvs⟩

/-- The sixteenth power of ten has an exponent, with a plus sign in an array and without one by itself. -/
theorem not_scalars_alike_in_arrays :
    ¬ ∀ (p : Profile) (name : String) (vs : List Toml.Value), (∀ kind, p.skips kind = false) →
      (∀ v ∈ vs, v.IsScalar) →
      (p.field (ArgEntry.toArg ⟨name, .array vs⟩)).value =
        "[" ++ ",".intercalate (vs.map fun v => (p.field (ArgEntry.toArg ⟨name, v⟩)).value) ++ "]" := by
  intro h
  have halike := h ({} : Profile).renderingAll "n" [.float ⟨0x4341C37937E08000⟩] (fun _ => rfl)
    (List.forall_mem_singleton.2 trivial)
  revert halike
  decide +kernel

end Settings

end TraceExport
