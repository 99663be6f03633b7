/-
Questions to a registry as values, so that a list of them can be put one after the other. Only
applying a keyword changes the registry.
-/
import TraceExport.Registry.Basic

namespace TraceExport.Registry

/-- A question to a registry. -/
inductive Query
  | apply (keyword : Keyword)
  | isOn (category : String)
  | slots
  | enabled
  | filtered
  | counts
  | last
  | select (categories : List String)
  deriving Repr

/-- The answer to a question. -/
inductive Answer
  | change (change : Change)
  | flag (on : Bool)
  | slots (slots : List (String × Bool))
  | names (names : List String)
  | counts (slots filtered : Nat)
  | keyword (keyword : Keyword)
  | failed (error : Failure)
  deriving DecidableEq, Repr

/-- Answers a question. -/
def ask (r : Registry) : Query → Answer × Registry
  | .apply k => (.change (r.apply k).1, (r.apply k).2)
  | .isOn category => (.flag (r.isOn category), r)
  | .slots => (.slots r.slots, r)
  | .enabled => (.names r.enabled, r)
  | .filtered => (.names r.filteredNames, r)
  | .counts => (.counts r.count r.filteredCount, r)
  | .last => (.keyword r.last, r)
  | .select categories =>
    match r.select categories with
    | .ok k => (.keyword k, r)
    | .error e => (.failed e, r)

theorem ask_snd (r : Registry) {q : Query} (hq : ∀ k, q ≠ .apply k) : (r.ask q).2 = r := by
  cases q with
  | apply k => exact absurd rfl (hq k)
  | select categories =>
    simp only [ask]
    split <;> rfl
  | _ => rfl

/-- Answers questions one after the other. -/
def askAll (r : Registry) : List Query → List Answer
  | [] => []
  | q :: qs => (r.ask q).1 :: askAll (r.ask q).2 qs

end TraceExport.Registry
