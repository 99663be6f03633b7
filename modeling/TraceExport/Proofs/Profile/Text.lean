/-
Profiles and JSON. Each part of a profile is read from its own member and from nothing else, and is as
by default where the member is left out. The text of a profile has both, so it is read back.
-/
import TraceExport.Profile
import TraceExport.Proofs.Json.Members
import TraceExport.Proofs.Json.RoundTrip

namespace TraceExport.Profile

variable {ms : List (String × Json)} {p : Profile} {text : String}

/-! ## Kinds -/

theorem ofName?_name (kind : Arg.Kind) : Arg.Kind.ofName? kind.name = some kind := by
  cases kind <;> decide

/-- Kinds are read from the array of their names. -/
theorem kindsOfJson?_names (kinds : List Arg.Kind) :
    kindsOfJson? (.array (kinds.map fun kind => .string kind.name)) = some kinds := by
  rw [kindsOfJson?, Json.mapM_eq_some_iff, List.forall₂_map_left_iff, List.forall₂_same]
  exact fun kind _ => ofName?_name kind

/-! ## Members -/

/-- The members of a profile. -/
def members (p : Profile) : List (String × Json) :=
  [(filteredName, .array (p.filtered.map .string)),
    (skippedName, .array (p.skipped.map fun kind => .string kind.name))]

theorem toJson_eq (p : Profile) : p.toJson = .object p.members := rfl

/-- A profile is read from an object part by part. -/
theorem ofJson?_object_eq_some_iff : ofJson? (.object ms) = some p ↔
    readOnce? Category.defaults Json.strings? (Json.valuesOf filteredName ms) = some p.filtered ∧
      readOnce? [.convertable] kindsOfJson? (Json.valuesOf skippedName ms) = some p.skipped := by
  simp only [ofJson?, Option.bind_eq_bind, Option.bind_eq_some_iff, Option.pure_def, Option.some.injEq]
  constructor
  · rintro ⟨filtered, hf, skipped, hs, rfl⟩
    exact ⟨hf, hs⟩
  · rintro ⟨hf, hs⟩
    exact ⟨_, hf, _, hs, rfl⟩

theorem ofJson?_toJson (p : Profile) : ofJson? p.toJson = some p := by
  refine ofJson?_object_eq_some_iff.2 ⟨?_, ?_⟩
  · exact Json.strings?_eq_some_iff.2 rfl
  · exact kindsOfJson?_names p.skipped

/-! ## Members left out -/

/-- Without the member of the filtered names these are as by default, and nothing else changes. -/
theorem ofJson?_without_filtered (h : ofJson? (.object ms) = some p) :
    ofJson? (.object (Json.without filteredName ms)) =
      some { p with filtered := ({} : Profile).filtered } := by
  obtain ⟨-, hs⟩ := ofJson?_object_eq_some_iff.1 h
  refine ofJson?_object_eq_some_iff.2 ⟨?_, ?_⟩
  · rw [Json.valuesOf_without]
    rfl
  · rwa [Json.valuesOf_without_of_ne (by decide)]

/-- Without the member of the skipped kinds these are as by default, and nothing else changes. -/
theorem ofJson?_without_skipped (h : ofJson? (.object ms) = some p) :
    ofJson? (.object (Json.without skippedName ms)) =
      some { p with skipped := ({} : Profile).skipped } := by
  obtain ⟨hf, -⟩ := ofJson?_object_eq_some_iff.1 h
  refine ofJson?_object_eq_some_iff.2 ⟨?_, ?_⟩
  · rwa [Json.valuesOf_without_of_ne (by decide)]
  · rw [Json.valuesOf_without]
    rfl

/-! ## Texts -/

theorem parse_of_object (h : Json.parse text = some (.object ms)) :
    parse text = ofJson? (.object ms) := by
  rw [parse, h]
  rfl

theorem members_readable (p : Profile) : ∀ m ∈ p.members, m.2.Readable := by
  intro m hm
  simp only [Profile.members, List.mem_cons, List.not_mem_nil, or_false] at hm
  rcases hm with rfl | rfl
  · exact .strings p.filtered
  · have := Json.Readable.strings (p.skipped.map Arg.Kind.name)
    rwa [List.map_map] at this

theorem parse_compact (p : Profile) : parse (Json.compact p.toJson) = some p := by
  rw [toJson_eq, parse_of_object (Json.parse_compact (.object p.members_readable))]
  exact ofJson?_toJson p

theorem parse_compact_without (h : ∀ m ∈ ms, m.2.Readable) (name : String) :
    Json.parse (Json.compact (.object (Json.without name ms))) = some (.object (Json.without name ms)) :=
  Json.parse_compact (.object fun m hm => h m (List.mem_filter.1 hm).1)

/-- A text without one of the two members is read as the whole object, but for the default in the place
of what is left out. -/
theorem parse_without (h : ofJson? (.object ms) = some p) :
    (Json.parse text = some (.object (Json.without filteredName ms)) →
      parse text = some { p with filtered := ({} : Profile).filtered }) ∧
    (Json.parse text = some (.object (Json.without skippedName ms)) →
      parse text = some { p with skipped := ({} : Profile).skipped }) := by
  constructor
  · intro ht
    rw [parse_of_object ht]
    exact ofJson?_without_filtered h
  · intro ht
    rw [parse_of_object ht]
    exact ofJson?_without_skipped h

/-- The text of a profile is read back as the profile, which passes the same check and leaves out the
same kinds. From an object that is read as the profile either member may be left out: what is read
then has the default in its place, and is the profile otherwise. -/
theorem parts_survive_text (p : Profile) :
    (∃ q, parse (Json.compact p.toJson) = some q ∧ q = p ∧ q.check = p.check ∧
      ∀ kind, q.skips kind = p.skips kind) ∧
    parse (Json.compact (.object (Json.without filteredName p.members))) =
      some { p with filtered := ({} : Profile).filtered } ∧
    parse (Json.compact (.object (Json.without skippedName p.members))) =
      some { p with skipped := ({} : Profile).skipped } ∧
    ∀ ms text, ofJson? (.object ms) = some p →
      (Json.parse text = some (.object (Json.without filteredName ms)) →
        parse text = some { p with filtered := ({} : Profile).filtered }) ∧
      (Json.parse text = some (.object (Json.without skippedName ms)) →
        parse text = some { p with skipped := ({} : Profile).skipped }) := by
  refine ⟨⟨p, parse_compact p, rfl, rfl, fun _ => rfl⟩, ?_, ?_, fun ms text h => parse_without h⟩
  · exact (parse_without (ofJson?_toJson p)).1 (parse_compact_without p.members_readable _)
  · exact (parse_without (ofJson?_toJson p)).2 (parse_compact_without p.members_readable _)

/-- A profile that is not fit, from an object with a member more, in another order, and with a kind in
the form of an object. -/
theorem parts_survive_text_unfit :
    let ms : List (String × Json) := [("note", .bool true),
      ("skipped_arg_kinds", .array [.object [("int", .null)], .string "bool", .string "int"]),
      ("filtered_categories", .array [.string "a,b", .string "", .string ""])]
    let kinds := Json.compact (.object (Json.without filteredName ms))
    let names := Json.compact (.object (Json.without skippedName ms))
    ofJson? (.object ms) = some ⟨["a,b", "", ""], [.int, .bool, .int]⟩ ∧
      Json.parse kinds = some (.object (Json.without filteredName ms)) ∧
      parse kinds = some ⟨Category.defaults, [.int, .bool, .int]⟩ ∧
      Json.parse names = some (.object (Json.without skippedName ms)) ∧
      parse names = some ⟨["a,b", "", ""], [.convertable]⟩ := by
  intro ms kinds names
  have hms : ofJson? (.object ms) = some ⟨["a,b", "", ""], [.int, .bool, .int]⟩ := by decide
  have hint : (Json.object [("int", .null)]).Readable := .object (List.forall_mem_singleton.2 .null)
  have hkinds : (Json.array [.object [("int", .null)], .string "bool", .string "int"]).Readable :=
    .array (List.forall_mem_cons.2 ⟨hint,
      List.forall_mem_cons.2 ⟨.string _, List.forall_mem_singleton.2 (.string _)⟩⟩)
  have hread : ∀ m ∈ ms, m.2.Readable := List.forall_mem_cons.2 ⟨.bool true,
    List.forall_mem_cons.2 ⟨hkinds, List.forall_mem_singleton.2 (.strings ["a,b", "", ""])⟩⟩
  have htext := parse_compact_without hread
  have hparse (text : String) := (parts_survive_text _).2.2.2 ms text hms
  exact ⟨hms, htext _, (hparse kinds).1 (htext _), htext _, (hparse names).2 (htext _)⟩

end TraceExport.Profile
