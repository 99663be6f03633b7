/-
Reading the members of objects. A member that stands once has its value, one that does not stand has
none, and leaving a member out touches no other. Arrays are read item by item.
-/
import TraceExport.Json.Value
import Mathlib.Tactic

namespace TraceExport.Json

variable {v : Json} {name other : String} {members : List (String × Json)}

/-! ## Arrays -/

/-- A list is read if each of its items is. -/
theorem mapM_eq_some_iff {α β : Type} {f : α → Option β} {xs : List α} {ys : List β} :
    xs.mapM f = some ys ↔ List.Forall₂ (fun x y => f x = some y) xs ys := by
  induction xs generalizing ys with
  | nil => rw [List.mapM_nil, List.forall₂_nil_left_iff, Option.pure_def, Option.some.injEq, eq_comm]
  | cons x xs ih =>
    rw [List.mapM_cons, List.forall₂_cons_left_iff]
    simp only [Option.bind_eq_bind, Option.bind_eq_some_iff, ih, Option.pure_def, Option.some.injEq]
    constructor
    · rintro ⟨y, hy, rest, hrest, rfl⟩
      exact ⟨y, rest, hy, hrest, rfl⟩
    · rintro ⟨y, rest, hy, hrest, rfl⟩
      exact ⟨y, hy, rest, hrest, rfl⟩

theorem string?_eq_some_iff {s : String} : v.string? = some s ↔ v = .string s := by
  cases v <;> simp [string?]

/-- Texts are read from the array of their strings, and from nothing else. -/
theorem strings?_eq_some_iff {ss : List String} : v.strings? = some ss ↔ v = .array (ss.map .string) := by
  cases v with
  | array items =>
    rw [strings?, mapM_eq_some_iff, array.injEq, ← List.forall₂_eq_eq_eq, List.forall₂_map_right_iff]
    simp only [string?_eq_some_iff]
  | _ => simp [strings?]

/-! ## Members -/

/-- The members but for those of a name. -/
def without (name : String) (members : List (String × Json)) : List (String × Json) :=
  members.filter (·.1 ≠ name)

theorem valuesOf_without (name : String) (members : List (String × Json)) :
    valuesOf name (without name members) = [] := by
  simp [valuesOf, without, List.filter_filter]

theorem valuesOf_without_of_ne (h : other ≠ name) (members : List (String × Json)) :
    valuesOf other (without name members) = valuesOf other members := by
  have hboth : ∀ m : String × Json, (decide (m.1 = other) && decide (m.1 ≠ name)) = decide (m.1 = other) := by
    intro m
    by_cases hm : m.1 = other
    · simp [hm, h]
    · simp [hm]
  simp only [valuesOf, without, List.filter_filter, hboth]

end TraceExport.Json
