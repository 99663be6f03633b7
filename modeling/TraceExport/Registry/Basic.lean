/-
The registry of categories: which categories have a bit of the keyword, and which of them the last
keyword selects. The names are fixed when the registry is made; a keyword changes states only.
-/
import TraceExport.Category
import TraceExport.Keyword

namespace TraceExport

/-- Whether a keyword differs from the last one. -/
inductive Registry.Change
  | unchanged
  | changed
  deriving DecidableEq, Repr

/-- The categories and their states. -/
structure Registry where
  /-- The categories with a bit of their own, bit 0 first, each with its state. -/
  filtered : List (String × Bool)
  /-- The state of every other category. -/
  other : Bool
  /-- The state of every other category that is disabled by default. -/
  disabledOther : Bool
  /-- The keyword that was applied last, 0 before the first. -/
  last : Keyword
  deriving DecidableEq, Repr

namespace Registry

/-! ## What a registry shows -/

/-- The slots: the filtered categories in the order of their bits, then the catch-alls. -/
def slots (r : Registry) : List (String × Bool) :=
  r.filtered ++ [(Category.otherEvents, r.other), (Category.disabledOtherEvents, r.disabledOther)]

/-- The names of the categories with a bit of their own. -/
def filteredNames (r : Registry) : List String := r.filtered.map (·.1)

/-- The number of categories with a bit of their own. -/
def filteredCount (r : Registry) : Nat := r.filtered.length

/-- The number of slots. -/
def count (r : Registry) : Nat := r.filteredCount + 2

/-- The names of the slots that are on, in their order. -/
def enabled (r : Registry) : List String := (r.slots.filter (·.2)).map (·.1)

/-- Whether a category is on. One without a slot goes with one of the catch-alls. -/
def isOn (r : Registry) (name : String) : Bool :=
  match r.slots.lookup name with
  | some state => state
  | none => if Category.isDisabledByDefault name then r.disabledOther else r.other

/-! ## Making a registry -/

/-- Checks that no two slots have one name. -/
def checkSize (r : Registry) : Except Panic Unit :=
  let distinct := (r.slots.map (·.1)).eraseDups.length
  if distinct = r.count then .ok () else .error (.sizeChanged distinct r.count)

/-- A registry with every category off. There is a bit for each name, and no two slots have one
name. -/
def ofNames (names : List String) : Except Panic Registry :=
  if Keyword.categoryBits < names.length then .error (.tooManyFiltered names.length)
  else
    let r : Registry := ⟨names.map (·, false), false, false, 0⟩
    match r.checkSize with
    | .ok _ => .ok r
    | .error p => .error p

/-! ## Keywords -/

/-- Applies a keyword. The keyword that was applied last leaves everything as it is. -/
def apply (r : Registry) (k : Keyword) : Change × Registry :=
  if r.last = k then (.unchanged, r)
  else (.changed, {
    filtered := r.filtered.mapIdx fun i (name, _) => (name, k.getLsbD i)
    other := k.getLsbD 61
    disabledOther := k.getLsbD 62
    last := k })

/-- The bit of a slot. -/
def bit? (r : Registry) (name : String) : Option Keyword :=
  match r.filteredNames.idxOf? name with
  | some i => some (1#64 <<< i)
  | none =>
    if name = Category.otherEvents then some Keyword.otherEvents
    else if name = Category.disabledOtherEvents then some Keyword.disabledOtherEvents
    else none

/-- The keyword that a controller must set to have these categories on. -/
def select (r : Registry) (names : List String) : Except Failure Keyword :=
  names.foldlM (fun k name =>
    match r.bit? name with
    | some b => .ok (k ||| b)
    | none => .error (.unknownCategory name)) Keyword.reserved

/-! ## What a keyword changes -/

@[simp]
theorem apply_last (r : Registry) (k : Keyword) : (r.apply k).2.last = k := by
  unfold apply; split <;> simp_all

theorem apply_eq_unchanged_iff (r : Registry) (k : Keyword) :
    (r.apply k).1 = .unchanged ↔ r.last = k := by
  unfold apply; split <;> simp_all

@[simp]
theorem filteredNames_apply (r : Registry) (k : Keyword) :
    (r.apply k).2.filteredNames = r.filteredNames := by
  unfold apply; split
  · rfl
  · exact List.ext_getElem (by simp [filteredNames]) (by simp [filteredNames])

theorem filteredNames_ofNames {names : List String} {r : Registry} (h : ofNames names = .ok r) :
    r.filteredNames = names := by
  simp only [ofNames] at h
  split at h
  · cases h
  · split at h
    · cases h; simp [filteredNames, Function.comp_def]
    · cases h

end Registry

end TraceExport
