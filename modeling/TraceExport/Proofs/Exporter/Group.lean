/-
Category groups. An active exporter has a group on when it has one of the names in it on, and these
are the texts between the commas, empty ones aside. So of two groups put together it is enough that
one is on; the order of the names and their number make no difference, nor do commas with no name
between them. A filtered category of a profile that passes its check is a group by itself, and goes
by its own slot.
-/
import TraceExport.Exporter.Basic
import TraceExport.Proofs.Registry.Check

namespace TraceExport

/-! ## The names in a group -/

namespace Category

theorem ofGroup_empty : ofGroup "" = [] := by decide

theorem ofGroup_join (a b : String) : ofGroup (a ++ "," ++ b) = ofGroup a ++ ofGroup b := by
  rw [ofGroup, Text.splitCommas_append, List.filter_append, ← ofGroup, ← ofGroup]

theorem ofGroup_leading (g : String) : ofGroup ("," ++ g) = ofGroup g := by
  have h := ofGroup_join "" g
  rwa [String.empty_append, ofGroup_empty, List.nil_append] at h

theorem ofGroup_trailing (g : String) : ofGroup (g ++ ",") = ofGroup g := by
  have h := ofGroup_join g ""
  rwa [String.append_empty, ofGroup_empty, List.append_nil] at h

theorem ofGroup_doubled (a b : String) : ofGroup (a ++ ",," ++ b) = ofGroup (a ++ "," ++ b) := by
  have hcommas : a ++ ",," ++ b = a ++ "," ++ ("," ++ b) := by
    rw [show ",," = "," ++ "," from rfl]
    simp only [String.append_assoc]
  rw [hcommas, ofGroup_join, ofGroup_leading, ofGroup_join]

theorem ofGroup_intercalate (groups : List String) :
    ofGroup (",".intercalate groups) = groups.flatMap ofGroup := by
  induction groups with
  | nil => rw [String.intercalate_nil, ofGroup_empty, List.flatMap_nil]
  | cons g groups ih =>
    cases groups with
    | nil => rw [String.intercalate_singleton, List.flatMap_singleton]
    | cons g' groups =>
      rw [String.intercalate_cons_cons, ofGroup_join, ih]
      rfl

theorem commaParts_of_no_comma (part : List Char) {cs : List Char} (h : ',' ∉ cs) :
    Text.commaParts part cs = [String.ofList (part.reverse ++ cs)] := by
  induction cs generalizing part with
  | nil => rw [Text.commaParts, List.append_nil]
  | cons c cs ih =>
    rw [List.mem_cons, not_or] at h
    rw [Text.commaParts, ih _ h.2, List.reverse_cons, List.append_assoc, List.singleton_append]
    exact fun hc => h.1 hc.symm

/-- A name without a comma is a group of itself. -/
theorem ofGroup_of_no_comma {name : String} (hn : name ≠ "") (hc : ',' ∉ name.toList) : ofGroup name = [name] := by
  rw [ofGroup, Text.splitCommas, commaParts_of_no_comma [] hc]
  simp [hn]

theorem ofGroup_commas {g : String} (h : ∀ c ∈ g.toList, c = ',') : ofGroup g = [] := by
  have hcommas (n : Nat) : ofGroup (String.ofList (List.replicate n ',')) = [] := by
    induction n with
    | zero => exact ofGroup_empty
    | succ n ih =>
      have hfirst : String.ofList (List.replicate (n + 1) ',') = "," ++ String.ofList (List.replicate n ',') := by
        rw [List.replicate_succ, ← List.singleton_append, String.ofList_append]
      rw [hfirst, ofGroup_leading, ih]
  rw [← String.ofList_toList (s := g), List.eq_replicate_of_mem h]
  exact hcommas _

/-- Texts put together are a group of the same names if the same texts but for empty ones are. -/
theorem mem_ofGroup_intercalate_congr {tokens tokens' : List String}
    (h : ∀ t, t ≠ "" → (t ∈ tokens ↔ t ∈ tokens')) (name : String) :
    name ∈ ofGroup (",".intercalate tokens) ↔ name ∈ ofGroup (",".intercalate tokens') := by
  have hne (t : String) (hm : name ∈ ofGroup t) : t ≠ "" := by
    rintro rfl
    rw [ofGroup_empty] at hm
    cases hm
  rw [ofGroup_intercalate, ofGroup_intercalate, List.mem_flatMap, List.mem_flatMap]
  constructor
  · rintro ⟨t, ht, hm⟩
    exact ⟨t, (h t (hne t hm)).1 ht, hm⟩
  · rintro ⟨t, ht, hm⟩
    exact ⟨t, (h t (hne t hm)).2 ht, hm⟩

end Category

/-! ## Slots -/

/-- A registry answers by the slot of a name, whatever states its slots are in. -/
theorem Registry.isOn_of_mem_slots {r : Registry} (hn : (r.filteredNames ++ Category.catchAlls).Nodup)
    {name : String} {on : Bool} (h : (name, on) ∈ r.slots) : r.isOn name = on := by
  have hnames : r.slots.map (·.1) = r.filteredNames ++ Category.catchAlls := by
    rw [slots, List.map_append]
    rfl
  rw [isOn, lookup_of_mem (hnames ▸ hn) h]

/-! ## Groups that are on -/

namespace Exporter

variable {e : Exporter} {sink : Sink} {g g' : String}

theorem isGroupOn_eq (hg : g ≠ "") :
    e.isGroupOn sink g = .ok (e.isActive sink && (Category.ofGroup g).any e.registry.isOn) := by
  rw [isGroupOn, if_neg hg]

/-- Only the names in a group count. -/
theorem isGroupOn_of_names (hg : g ≠ "") (hg' : g' ≠ "")
    (h : ∀ name, name ∈ Category.ofGroup g ↔ name ∈ Category.ofGroup g') :
    e.isGroupOn sink g = e.isGroupOn sink g' := by
  have hany : (Category.ofGroup g).any e.registry.isOn = (Category.ofGroup g').any e.registry.isOn := by
    rw [Bool.eq_iff_iff, List.any_eq_true, List.any_eq_true]
    simp only [h]
  rw [isGroupOn_eq hg, isGroupOn_eq hg', hany]

/-- Groups combine by or, for every exporter and sink. Two groups put together are on if one of them is.
Texts put together are on alike if they are the same texts, in any order, each any number of times, and
with any number of empty ones; so a comma in front of a group, behind it or beside another one changes
nothing, and commas alone are never on. If the registry has the names of a profile that passes its
check, then a filtered category alone goes by the slot at its own bit, which is none of the
catch-alls. -/
theorem groups_combine (e : Exporter) (sink : Sink) :
    (∀ a b, a ≠ "" → b ≠ "" → ∃ x y, e.isGroupOn sink a = .ok x ∧ e.isGroupOn sink b = .ok y ∧
      e.isGroupOn sink (a ++ "," ++ b) = .ok (x || y)) ∧
    (∀ tokens tokens' : List String, ",".intercalate tokens ≠ "" → ",".intercalate tokens' ≠ "" →
      (∀ t, t ≠ "" → (t ∈ tokens ↔ t ∈ tokens')) →
      e.isGroupOn sink (",".intercalate tokens) = e.isGroupOn sink (",".intercalate tokens')) ∧
    (∀ g, g ≠ "" → e.isGroupOn sink ("," ++ g) = e.isGroupOn sink g ∧
      e.isGroupOn sink (g ++ ",") = e.isGroupOn sink g) ∧
    (∀ a b, e.isGroupOn sink (a ++ ",," ++ b) = e.isGroupOn sink (a ++ "," ++ b)) ∧
    (∀ g, g ≠ "" → (∀ c ∈ g.toList, c = ',') → e.isGroupOn sink g = .ok false) ∧
    ∀ p : Profile, p.check = .ok () → e.registry.filteredNames = p.filtered →
      ∀ i name, p.filtered[i]? = some name → i < e.registry.filteredCount ∧
        ∃ on, e.registry.slots[i]? = some (name, on) ∧ e.isGroupOn sink name = .ok (e.isActive sink && on) := by
  refine ⟨fun a b ha hb => ?_, fun tokens tokens' hne hne' h => ?_, fun g hg => ⟨?_, ?_⟩, fun a b => ?_,
    fun g hg h => ?_, fun p hp hnames i name hi => ?_⟩
  · refine ⟨_, _, isGroupOn_eq ha, isGroupOn_eq hb, ?_⟩
    rw [isGroupOn_eq (by simp), Category.ofGroup_join, List.any_append, Bool.and_or_distrib_left]
  · exact isGroupOn_of_names hne hne' (Category.mem_ofGroup_intercalate_congr h)
  · exact isGroupOn_of_names (by simp) hg fun name => by rw [Category.ofGroup_leading]
  · exact isGroupOn_of_names (by simp) hg fun name => by rw [Category.ofGroup_trailing]
  · exact isGroupOn_of_names (by simp) (by simp) fun name => by rw [Category.ofGroup_doubled]
  · rw [isGroupOn_eq hg, Category.ofGroup_commas h, List.any_nil, Bool.and_false]
  · obtain ⟨-, hfit, hn⟩ := (Profile.check_eq_ok_iff p).1 hp
    rw [← hnames] at hi hfit hn
    -- the slot of a filtered name stands where the name does
    rw [Registry.filteredNames, List.getElem?_map, Option.map_eq_some_iff] at hi
    obtain ⟨⟨slot, on⟩, hslot, rfl⟩ := hi
    have hi : i < e.registry.filteredCount := (List.getElem?_eq_some_iff.1 hslot).1
    have hslots : e.registry.slots[i]? = some (slot, on) := by
      rw [Registry.slots, List.getElem?_append_left hi, hslot]
    obtain ⟨hne, hcomma⟩ := hfit _ (List.mem_map_of_mem (List.mem_of_getElem? hslot))
    refine ⟨hi, on, hslots, ?_⟩
    rw [isGroupOn_eq hne, Category.ofGroup_of_no_comma hne hcomma, List.any_cons, List.any_nil, Bool.or_false,
      Registry.isOn_of_mem_slots hn (List.mem_of_getElem? hslots)]

/-- The exporter has `gpu` and the catch-all of what is disabled by default on. -/
theorem groups_combine_gpu_cc :
    let e : Exporter := {
      profile := {}, registry := ⟨[("gpu", true), ("disabled-by-default-cc", false)], false, true, 5⟩
      lifecycle := .registered 1 }
    let sink : Sink := .controlled { listening := true, keyword := 1, outlet := .memory #[] }
    let p : Profile := ⟨["gpu", "disabled-by-default-cc"], []⟩
    (",cc" ≠ "" ∧ "gpu," ≠ "" ∧ ∃ x y, e.isGroupOn sink ",cc" = .ok x ∧ e.isGroupOn sink "gpu," = .ok y ∧
      e.isGroupOn sink ",cc,gpu," = .ok (x || y)) ∧
    (",".intercalate ["cc", "gpu"] ≠ "" ∧ e.isGroupOn sink ",gpu,,cc,gpu" = e.isGroupOn sink "cc,gpu") ∧
    e.isGroupOn sink ",,cc" = e.isGroupOn sink ",cc" ∧
    e.isGroupOn sink ",," = .ok false ∧
    p.check = .ok () ∧ e.registry.filteredNames = p.filtered ∧
      ∃ on, e.registry.slots[1]? = some ("disabled-by-default-cc", on) ∧
        e.isGroupOn sink "disabled-by-default-cc" = .ok (e.isActive sink && on) := by
  intro e sink p
  have hp : p.check = .ok () := by decide
  have hnames : e.registry.filteredNames = p.filtered := by decide
  have htokens : ∀ t, t ≠ "" → (t ∈ ["", "gpu", "", "cc", "gpu"] ↔ t ∈ ["cc", "gpu"]) := by
    intro t ht
    simp only [List.mem_cons, List.not_mem_nil, or_false]
    tauto
  obtain ⟨hor, hsame, hcomma, -, halone, hslot⟩ := groups_combine e sink
  exact ⟨⟨by decide, by decide, hor ",cc" "gpu," (by decide) (by decide)⟩,
    ⟨by decide, hsame _ _ (by decide) (by decide) htokens⟩, (hcomma ",cc" (by decide)).1,
    halone ",," (by decide) (by simp), hp, hnames, (hslot p hp hnames 1 _ rfl).2⟩

end Exporter

end TraceExport
