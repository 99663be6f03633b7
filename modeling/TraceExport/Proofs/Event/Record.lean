/-
Records and JSON. A record is read from an object in which each of its members stands once, whatever
else is in it and in whatever order. The text of a record is such an object, so it is read back.
-/
import TraceExport.Event.Record
import TraceExport.Proofs.Json.Members
import TraceExport.Proofs.Json.RoundTrip

namespace TraceExport.Record

variable {members : List (String × Json)} {r : Record}

/-! ## Reading -/

theorem ofFields?_eq_some_iff {texts : List String} : ofFields? texts = some r ↔ texts = r.fields := by
  constructor
  · intro h
    unfold ofFields? at h
    split at h
    · cases h
      rfl
    · cases h
  · rintro rfl
    rfl

theorem fields_injective : Function.Injective fields := by
  intro a b h
  have ha : ofFields? a.fields = some a := ofFields?_eq_some_iff.2 rfl
  rw [h, ofFields?_eq_some_iff.2 rfl] at ha
  exact (Option.some.inj ha).symm

theorem ofParts?_eq_some_iff {texts : List String} {reserved : Json} : ofParts? texts reserved = some r ↔
    texts = r.fields.take 6 ∧ reserved = .array [.string r.reserved.1, .string r.reserved.2] := by
  have hfields : r.fields = r.fields.take 6 ++ [r.reserved.1, r.reserved.2] := rfl
  unfold ofParts?
  simp only [Option.bind_eq_bind, Option.bind_eq_some_iff, Json.strings?_eq_some_iff]
  constructor
  · rintro ⟨ss, rfl, h⟩
    split at h
    · next a b =>
      rw [ofFields?_eq_some_iff, hfields] at h
      obtain ⟨htexts, hreserved⟩ := List.append_inj' h rfl
      cases hreserved
      exact ⟨htexts, rfl⟩
    · cases h
  · rintro ⟨rfl, rfl⟩
    exact ⟨[r.reserved.1, r.reserved.2], rfl, ofFields?_eq_some_iff.2 hfields.symm⟩

theorem member?_eq_some_iff {name : String} {v : Json} :
    member? members name = some v ↔ Json.valuesOf name members = [v] := by
  unfold member?
  split
  · next w h => rw [h, Option.some.injEq, List.singleton_inj]
  · next h =>
    refine iff_of_false (fun h' => by cases h') fun h' => h v h'

/-- A record is read from an object that has each of its texts and the two reserved ones once. -/
theorem ofJson?_object_eq_some_iff : ofJson? (.object members) = some r ↔
    List.Forall₂ (fun name text => Json.valuesOf name members = [.string text]) memberNames (r.fields.take 6) ∧
      Json.valuesOf reservedName members = [.array [.string r.reserved.1, .string r.reserved.2]] := by
  unfold ofJson?
  simp only [Option.bind_eq_bind, Option.bind_eq_some_iff, Json.mapM_eq_some_iff, member?_eq_some_iff,
    Json.string?_eq_some_iff, ofParts?_eq_some_iff]
  constructor
  · rintro ⟨texts, htexts, reserved, hreserved, rfl, rfl⟩
    refine ⟨htexts.imp ?_, hreserved⟩
    rintro name text ⟨_, h, rfl⟩
    exact h
  · rintro ⟨htexts, hreserved⟩
    exact ⟨_, htexts.imp fun _ _ h => ⟨_, h, rfl⟩, _, hreserved, rfl, rfl⟩

/-! ## The text of a record -/

theorem toJson_readable (r : Record) : r.toJson.Readable := by
  refine .object fun m hm => ?_
  rcases List.mem_append.1 hm with hm | hm
  · obtain ⟨s, _, hs⟩ := List.mem_map.1 (List.of_mem_zip hm).2
    rw [← hs]
    exact .string s
  · rw [List.mem_singleton.1 hm]
    exact .strings [r.reserved.1, r.reserved.2]

theorem ofJson?_toJson (r : Record) : ofJson? r.toJson = some r := by
  refine ofJson?_object_eq_some_iff.2 ⟨?_, ?_⟩
  · simp [memberNames, fields, Json.valuesOf, reservedName]
  · simp [memberNames, fields, Json.valuesOf, reservedName]

theorem parse_compact (r : Record) : parse (Json.compact r.toJson) = some r := by
  rw [parse, Json.parse_compact r.toJson_readable]
  exact ofJson?_toJson r

/-- The text of a record is read back as the record. That of an event has its name, the label of its
phase, two fields, and nothing in the reserved texts. -/
theorem fields_survive_text :
    (∀ r : Record, parse (Json.compact r.toJson) = some r) ∧
    ∀ (name phase : String) (first second : Field),
      ∃ q, parse (Json.compact (ofEvent name phase first second).toJson) = some q ∧
        q.fields = [name, phase, first.name, first.value, second.name, second.value, "", ""] :=
  ⟨parse_compact, fun _ _ _ _ => ⟨_, parse_compact _, rfl⟩⟩

end TraceExport.Record
