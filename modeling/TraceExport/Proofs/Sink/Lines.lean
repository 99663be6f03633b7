/-
Plain text on a stream. Every record is written as an entry and the end of a line, but the entry has the
texts of the record as they are. So the output has a line for each record, and for each line end in a text
that is shown one more: it consists of the entries, each on its line, exactly if no text that is shown has
a line end. Of an event that can be its phase, its name, the names of its first two arguments, and a
structured value; all other values are rendered without.
-/
import TraceExport.CommandLine.Moment
import TraceExport.Proofs.Session.Parts
import TraceExport.Proofs.Settings.Argument

namespace TraceExport

/-! ## Texts with line ends -/

namespace Text

/-- The number of line ends in a text. -/
def lineEnds (s : String) : Nat := s.toList.count '\n'

/-- What a text has before its first line end, between any two, and behind the last one. -/
def segments (s : String) : List String := (s.toList.splitOn '\n').map String.ofList

theorem lineEnds_append (s t : String) : lineEnds (s ++ t) = lineEnds s + lineEnds t := by
  unfold lineEnds
  rw [String.toList_append, List.count_append]

theorem lineEnds_eq_zero_iff {s : String} : lineEnds s = 0 ↔ '\n' ∉ s.toList := List.count_eq_zero

theorem join_lines_cons (s : String) (entries : List String) :
    String.join ((s :: entries).map (· ++ "\n")) = s ++ "\n" ++ String.join (entries.map (· ++ "\n")) := by
  rw [List.map_cons, String.join_cons]

/-- Texts that are each ended as a line have a line end each, and their own. -/
theorem lineEnds_join_lines (entries : List String) :
    lineEnds (String.join (entries.map (· ++ "\n"))) = entries.length + (entries.map lineEnds).sum := by
  induction entries with
  | nil => rfl
  | cons s entries ih =>
    have hend : lineEnds "\n" = 1 := by decide
    rw [join_lines_cons, lineEnds_append, lineEnds_append, hend, ih, List.length_cons, List.map_cons, List.sum_cons]
    omega

theorem segments_append_line (s t : String) : segments (s ++ "\n" ++ t) = segments s ++ segments t := by
  unfold segments
  have htext : (s ++ "\n" ++ t).toList = s.toList ++ '\n' :: t.toList := by
    rw [String.toList_append, String.toList_append, List.append_assoc]
    rfl
  rw [htext, List.splitOn_append_cons_self, List.map_append]

theorem segments_of_no_lineEnd {s : String} (h : '\n' ∉ s.toList) : segments s = [s] := by
  unfold segments
  rw [List.splitOn_eq_singleton h, List.map_singleton, String.ofList_toList]

theorem length_segments (s : String) : (segments s).length = lineEnds s + 1 := by
  unfold segments lineEnds
  rw [List.length_map]
  induction s.toList with
  | nil => rfl
  | cons c cs ih =>
    rw [List.splitOn_cons_eq_if_modifyHead, List.count_cons]
    split
    · rw [List.length_cons, ih]
    · rw [List.length_modifyHead, ih, Nat.add_zero]

/-- Texts that are each ended as a line, one after the other. -/
theorem segments_join (entries : List String) :
    segments (String.join (entries.map (· ++ "\n"))) = entries.flatMap segments ++ [""] := by
  induction entries with
  | nil => rfl
  | cons s entries ih =>
    rw [join_lines_cons, segments_append_line, ih, List.flatMap_cons, List.append_assoc]

/-- Texts are the lines that they are ended as if none of them has a line end of its own, and only then, since
a line end makes one line more. -/
theorem segments_join_eq_iff (entries : List String) :
    segments (String.join (entries.map (· ++ "\n"))) = entries ++ [""] ↔ ∀ s ∈ entries, '\n' ∉ s.toList := by
  constructor
  · intro h s hs
    have hlength := length_segments (String.join (entries.map (· ++ "\n")))
    rw [h, lineEnds_join_lines, List.length_append, List.length_singleton] at hlength
    have hzero : (entries.map lineEnds).sum = 0 := by omega
    exact lineEnds_eq_zero_iff.1 (List.sum_eq_zero_iff.1 hzero _ (List.mem_map_of_mem hs))
  · intro h
    rw [segments_join, List.flatMap_congr fun s hs => segments_of_no_lineEnd (h s hs)]
    exact congrArg (· ++ [""]) (List.flatMap_singleton' entries)

end Text

/-! ## Entries -/

/-- The texts of a field that a line shows. -/
def Field.shown (f : Field) : List String := if f.name = "" then [] else [f.name, f.value]

namespace Record

/-- The texts of a record that a line shows. -/
def shown (r : Record) : List String :=
  [r.phase, r.name] ++ [r.first, r.second, ⟨r.reserved.1, r.reserved.2⟩].flatMap Field.shown

/-- The number of line ends that the texts of a record bring into its line. -/
def lineEnds (r : Record) : Nat := (r.shown.map Text.lineEnds).sum

/-- No text that the line of a record shows has a line end. -/
def StaysOnLine (r : Record) : Prop := ∀ text ∈ r.shown, '\n' ∉ text.toList

instance (r : Record) : Decidable r.StaysOnLine := inferInstanceAs (Decidable (∀ text ∈ r.shown, _))

theorem lineEnds_eq_zero_iff {r : Record} : r.lineEnds = 0 ↔ r.StaysOnLine := by
  unfold lineEnds StaysOnLine
  rw [List.sum_eq_zero_iff, List.forall_mem_map]
  exact forall₂_congr fun text _ => Text.lineEnds_eq_zero_iff

end Record

namespace Sink

theorem lineEnds_textField (f : Field) :
    Text.lineEnds (textField f.name f.value) = (f.shown.map Text.lineEnds).sum := by
  unfold textField Field.shown
  split
  · rfl
  · have hmarks : Text.lineEnds " " = 0 ∧ Text.lineEnds "=" = 0 := by decide
    simp [Text.lineEnds_append, hmarks]

theorem lineEnds_textEntry (stamp : String) (r : Record) :
    Text.lineEnds (textEntry stamp r) = Text.lineEnds stamp + r.lineEnds := by
  have hmarks : Text.lineEnds " [" = 0 ∧ Text.lineEnds "] " = 0 := by decide
  have hreserved := lineEnds_textField ⟨r.reserved.1, r.reserved.2⟩
  rw [textEntry_eq]
  unfold Record.lineEnds Record.shown
  simp only [Text.lineEnds_append, lineEnds_textField r.first, lineEnds_textField r.second, hreserved, hmarks,
    List.flatMap_cons, List.flatMap_nil, List.map_append, List.sum_append, List.map_cons, List.map_nil, List.sum_cons,
    List.sum_nil]
  omega

/-- The entry of a record has no line end exactly if the record brings none. -/
theorem no_lineEnd_textEntry_iff {stamp : String} (hs : '\n' ∉ stamp.toList) (r : Record) :
    '\n' ∉ (textEntry stamp r).toList ↔ r.StaysOnLine := by
  rw [← Text.lineEnds_eq_zero_iff, lineEnds_textEntry, Text.lineEnds_eq_zero_iff.2 hs, Nat.zero_add,
    Record.lineEnds_eq_zero_iff]

end Sink

/-! ## Times -/

theorem Numeral.isDigit_padded {width n : Nat} {c : Char} (hc : c ∈ padded width n) : c.isDigit = true := by
  rcases List.mem_append.1 hc with hc | hc
  · rw [List.eq_of_mem_replicate hc]
    rfl
  · exact (Json.isDigits_toDigits n).digit c hc

/-- The time in front of an entry has no line end. -/
theorem CommandLine.Moment.no_lineEnd_stamp (m : Moment) : '\n' ∉ (m.stamp .text).toList := by
  have hdigits (width n : Nat) : '\n' ∉ Numeral.padded width n := fun h =>
    absurd (Numeral.isDigit_padded h) (by decide)
  unfold stamp clock
  simp [hdigits]

/-! ## Output -/

namespace Sink

/-- All that was written to a stream. -/
def Stream.output (s : Stream) : String := String.join s.lines.toList

/-- Records that are written one after the other, to a stream that works. -/
theorem stream?_foldl_write (format : Format) (clock : Nat → String) (rs : List Record) :
    (rs.foldl write (stream format clock)).stream? =
      some { format, clock, lines := (format.lines clock rs.zipIdx).toArray, written := rs.length } := by
  unfold stream
  rw [foldl_write_controlled, Outlet.writeAll_stream rfl]
  simp [stream?, Stream.handed]

/-- The entries of records by a clock, in their order. -/
def textEntries (clock : Nat → String) (rs : List Record) : List String :=
  rs.zipIdx.map fun x => textEntry (clock x.2) x.1

theorem lines_text (clock : Nat → String) (rs : List Record) :
    Format.text.lines clock rs.zipIdx = (textEntries clock rs).map (· ++ "\n") := by
  rw [Format.lines, textEntries, List.map_map]
  exact List.map_congr_left fun x _ => textLine_eq (clock x.2) x.1

theorem map_lineEnds_textEntries {clock : Nat → String} (hclock : ∀ n, '\n' ∉ (clock n).toList) (rs : List Record) :
    (textEntries clock rs).map Text.lineEnds = rs.map Record.lineEnds := by
  rw [textEntries, List.map_map]
  conv_rhs => rw [← List.zipIdx_map_fst 0 rs, List.map_map]
  refine List.map_congr_left fun x _ => ?_
  rw [Function.comp_apply, lineEnds_textEntry, Text.lineEnds_eq_zero_iff.2 (hclock x.2), Nat.zero_add]
  rfl

theorem forall_mem_textEntries_iff {clock : Nat → String} (hclock : ∀ n, '\n' ∉ (clock n).toList) (rs : List Record) :
    (∀ entry ∈ textEntries clock rs, '\n' ∉ entry.toList) ↔ ∀ r ∈ rs, r.StaysOnLine := by
  rw [textEntries, List.forall_mem_map]
  conv_rhs => rw [← List.zipIdx_map_fst 0 rs, List.forall_mem_map]
  exact forall₂_congr fun x _ => no_lineEnd_textEntry_iff (hclock x.2) x.1

/-- Every record that is written to a plain stream that works counts as written, and the output has a line for
each of them and one for each line end that they bring. It has as many lines as records were written if no
record brings a line end, and only then; and then only the lines are the entries of the records in their
order, with nothing behind the last. -/
theorem text_lines_exact {clock : Nat → String} (hclock : ∀ n, '\n' ∉ (clock n).toList) (rs : List Record) :
    ∃ s, (rs.foldl write (stream .text clock)).stream? = some s ∧ s.written = rs.length ∧ s.lost = 0 ∧
      Text.lineEnds s.output = s.written + (rs.map Record.lineEnds).sum ∧
      (Text.lineEnds s.output = s.written ↔ ∀ r ∈ rs, r.StaysOnLine) ∧
      (Text.segments s.output = textEntries clock rs ++ [""] ↔ ∀ r ∈ rs, r.StaysOnLine) := by
  refine ⟨_, stream?_foldl_write .text clock rs, rfl, rfl, ?_⟩
  have hcount : Text.lineEnds (String.join ((textEntries clock rs).map (· ++ "\n"))) =
      rs.length + (rs.map Record.lineEnds).sum := by
    rw [Text.lineEnds_join_lines, map_lineEnds_textEntries hclock, textEntries, List.length_map, List.length_zipIdx]
  simp only [Stream.output, lines_text]
  refine ⟨hcount, ?_, ?_⟩
  · rw [hcount, Nat.add_eq_left, List.sum_eq_zero_iff, List.forall_mem_map]
    exact forall₂_congr fun r _ => Record.lineEnds_eq_zero_iff
  · rw [Text.segments_join_eq_iff]
    exact forall_mem_textEntries_iff hclock rs

/-- Line ends in texts that are not shown, and in the value of an argument, where they are escaped; a second
record one second later. -/
theorem text_lines_exact_draw :
    let clock (n : Nat) : String := (CommandLine.Moment.mk (1714567890123456789 + n * 1000000000)).stamp .text
    let value := (Arg.Value.string "a\nb").render
    let rs : List Record := [.ofEvent "Draw" "Begin" ⟨"url", value⟩ ⟨"", "\n"⟩, .ofEvent "" "" .blank .blank]
    (∀ n, '\n' ∉ (clock n).toList) ∧ (∀ r ∈ rs, r.StaysOnLine) ∧
      ∃ s, (rs.foldl write (stream .text clock)).stream? = some s ∧ Text.lineEnds s.output = 2 ∧
        Text.segments s.output =
          ["12:51:30.123456 [Begin] Draw url=\"a\\nb\"", "12:51:31.123456 [] ", ""] := by
  intro clock value rs
  have hclock (n : Nat) : '\n' ∉ (clock n).toList := CommandLine.Moment.no_lineEnd_stamp _
  have hrs : ∀ r ∈ rs, r.StaysOnLine := by decide
  obtain ⟨s, hstream, hwritten, -, -, hends, hlines⟩ := text_lines_exact hclock rs
  refine ⟨hclock, hrs, s, hstream, (hends.2 hrs).trans hwritten, (hlines.2 hrs).trans ?_⟩
  decide

/-- A line end in a name makes a line of what follows it, so one record can be written as two others are. -/
theorem forged_line :
    let clock : Nat → String := fun _ => "T"
    let forging : Record := .ofEvent "Draw\nT [Begin] Swap" "Instant" .blank .blank
    let draw : Record := .ofEvent "Draw" "Instant" .blank .blank
    let swap : Record := .ofEvent "Swap" "Begin" .blank .blank
    (∃ s t, ([forging].foldl write (stream .text clock)).stream? = some s ∧
      ([draw, swap].foldl write (stream .text clock)).stream? = some t ∧ s.written = 1 ∧ t.written = 2 ∧
      s.output = t.output) ∧
    ¬ ∃ s, ([forging].foldl write (stream .text clock)).stream? = some s ∧ Text.lineEnds s.output = s.written ∧
      Text.segments s.output = textEntries clock [forging] ++ [""] := by
  intro clock forging draw swap
  refine ⟨⟨_, _, rfl, rfl, rfl, rfl, by decide⟩, ?_⟩
  rintro ⟨s, hstream, hends, -⟩
  cases hstream
  revert hends
  decide

end Sink

/-! ## Events -/

/-- Of the codes of phases only the one of the line end has it in its label. -/
theorem Phase.lineEnd_mem_label_iff (phase : UInt8) : '\n' ∈ (label phase).toList ↔ phase = 10 := by
  have htable : ∀ row ∈ table, '\n' ∉ row.2.toList ∧ row.1 ≠ 10 := by decide
  by_cases hzero : phase = 0
  · rw [hzero, label_zero]
    decide
  by_cases hother : ∀ row ∈ table, row.1 ≠ phase
  · rw [label_of_notMem_table hzero hother, String.toList_singleton, List.mem_singleton, ← Char.toNat_inj, toNat_char,
      ← UInt8.toNat_inj, eq_comm]
    rfl
  · push Not at hother
    obtain ⟨row, hm, rfl⟩ := hother
    rw [label_of_mem_table row hm]
    exact iff_of_false (htable row hm).1 (htable row hm).2

namespace Arg

theorem doubleChars_visible (x : Decimal.Binary64) : ∀ c ∈ doubleChars x, 0x20 ≤ c.toNat := by
  obtain ⟨hfinite, hnone⟩ := Decimal.Layout.plain.text?_parts x
  by_cases hx : x.exponentField = 2047
  · unfold doubleChars
    rw [hnone hx]
    dsimp only
    split <;> exact Json.quote_visible _
  · obtain ⟨p, hp⟩ := hfinite hx
    rw [doubleChars_of_text? hp]
    exact p.visible_signed x.negative

/-- The rendering of a value that is no structured one has no control characters. -/
theorem Value.render_visible {v : Value} (hv : v.kind ≠ .convertable) : ∀ c ∈ v.render.toList, 0x20 ≤ c.toNat := by
  by_cases hscalar : v.kind ∈ Kind.scalars
  · obtain ⟨j, hj, hr, -⟩ := exists_said hscalar
    rw [hr, Json.compact, String.toList_ofList]
    exact Json.chars_visible j hj
  · cases v with
    | double x =>
      rw [render, String.toList_ofList]
      exact doubleChars_visible x
    | convertable rendering => exact absurd rfl hv
    | _ => exact absurd (by simp [kind, Kind.scalars]) hscalar

/-- Whether an argument brings no line end into a line: neither its name has one, nor a structured value that
is shown. -/
def StaysOnLine (p : Profile) (a : Arg) : Prop :=
  '\n' ∉ a.name.toList ∧
    (a.name ≠ "" → .convertable ∉ p.skipped → ∀ text, a.value = .convertable text → '\n' ∉ text.toList)

theorem forall_shown_field_iff (p : Profile) (a : Arg) :
    (∀ text ∈ (p.field a).shown, '\n' ∉ text.toList) ↔ a.StaysOnLine p := by
  unfold StaysOnLine
  by_cases hname : a.name = ""
  · -- without a name nothing is shown
    have hshown : (p.field a).shown = [] := if_pos hname
    simp [hshown, hname]
  have hshown : (p.field a).shown = [a.name, (p.field a).value] := if_neg hname
  rw [hshown, List.forall_mem_cons, List.forall_mem_singleton]
  refine and_congr_right fun _ => ?_
  by_cases hskip : a.value.kind ∈ p.skipped
  · have hvalue : (p.field a).value = "" := by simp [Profile.field, Profile.skips, hskip]
    refine iff_of_true (by simp [hvalue]) fun _ hconvertable text htext => ?_
    rw [htext] at hskip
    exact absurd hskip hconvertable
  have hvalue : (p.field a).value = a.value.render := by simp [Profile.field, Profile.skips, hskip]
  rw [hvalue]
  constructor
  · intro h _ _ text htext
    rwa [htext] at h
  · intro h hn
    by_cases hk : a.value.kind = .convertable
    · obtain ⟨text, htext⟩ : ∃ text, a.value = .convertable text := by
        cases hv : a.value with
        | convertable text => exact ⟨text, rfl⟩
        | _ => rw [hv] at hk; cases hk
      rw [hk] at hskip
      refine h hname hskip text htext ?_
      rwa [htext] at hn
    · exact absurd (Value.render_visible hk _ hn) (by decide)

end Arg

theorem Record.staysOnLine_ofEvent_iff (name phase : String) (first second : Field) :
    (ofEvent name phase first second).StaysOnLine ↔ '\n' ∉ phase.toList ∧ '\n' ∉ name.toList ∧
      (∀ text ∈ first.shown, '\n' ∉ text.toList) ∧ ∀ text ∈ second.shown, '\n' ∉ text.toList := by
  have hshown : (ofEvent name phase first second).shown = phase :: name :: (first.shown ++ second.shown) := by
    simp [shown, ofEvent, Field.shown]
  unfold StaysOnLine
  rw [hshown, List.forall_mem_cons, List.forall_mem_cons, List.forall_mem_append]

namespace Exporter

/-- The record of an event stays on its line exactly if neither the phase is a line end, nor the name has one,
nor one of the first two arguments brings one. -/
theorem staysOnLine_eventRecord_iff (e : Exporter) (phase : UInt8) (name : String) (args : List Arg) :
    (e.eventRecord phase name args).StaysOnLine ↔
      phase ≠ 10 ∧ '\n' ∉ name.toList ∧ ∀ a ∈ args.take 2, a.StaysOnLine e.profile := by
  have hblank : ∀ text ∈ Field.blank.shown, '\n' ∉ text.toList := by decide
  unfold eventRecord
  dsimp only
  rw [Record.staysOnLine_ofEvent_iff, Phase.lineEnd_mem_label_iff]
  refine and_congr_right fun _ => and_congr_right fun _ => ?_
  match args with
  | [] => exact iff_of_true ⟨hblank, hblank⟩ (List.forall_mem_nil _)
  | [a] =>
    rw [List.take_succ_cons, List.take_nil, List.forall_mem_singleton, ← Arg.forall_shown_field_iff]
    exact and_iff_left hblank
  | a :: b :: _ =>
    rw [List.take_succ_cons, List.take_succ_cons, List.take_zero, List.forall_mem_cons, List.forall_mem_singleton,
      ← Arg.forall_shown_field_iff, ← Arg.forall_shown_field_iff]
    rfl

end Exporter

namespace Settings

/-- A structured value of an argument is JSON. -/
theorem eq_compact_of_argValue {v : Toml.Value} {text : String} (h : argValue v = .convertable text) :
    text = Json.compact v.toJson := by
  cases v with
  | int n => by_cases hn : 0 ≤ n <;> simp [argValue, hn] at h
  | array items => cases h; rfl
  | table entries => cases h; rfl
  | _ => cases h

/-- An argument of an entry brings a line end into a line with its name only. -/
theorem staysOnLine_toArg_iff (p : Profile) (a : ArgEntry) : a.toArg.StaysOnLine p ↔ '\n' ∉ a.name.toList := by
  unfold ArgEntry.toArg Arg.StaysOnLine
  refine and_iff_left_of_imp fun _ _ _ text htext hn => ?_
  rw [eq_compact_of_argValue htext, Json.compact, String.toList_ofList] at hn
  exact absurd (Json.chars_visible _ a.value.toJson_readable _ hn) (by decide)

theorem phaseCode?_eq_lineEnd_iff {phase : String} {code : UInt8} (h : phaseCode? phase = some code) :
    code = 10 ↔ '\n' ∈ phase.toList := by
  unfold phaseCode? at h
  split at h
  · next c hc =>
    rw [hc, List.mem_singleton]
    split at h
    · next hlt =>
      cases h
      rw [← UInt8.toNat_inj, UInt8.toNat_ofNat_of_lt' (Nat.lt_trans hlt (by decide)), eq_comm, ← Char.toNat_inj]
      rfl
    · cases h
  · cases h

/-- The event of an entry stays on its line exactly if neither its phase nor its name nor one of the names of its
first two arguments has a line end. -/
theorem staysOnLine_of_toEvent_iff {entry : EventEntry} {ev : Workload.Event} (h : entry.toEvent = .ok ev)
    (e : Exporter) : (e.eventRecord ev.phase ev.name ev.args).StaysOnLine ↔
      '\n' ∉ entry.phase.toList ∧ '\n' ∉ entry.name.toList ∧
        ∀ a ∈ entry.args.take 2, '\n' ∉ a.name.toList := by
  unfold EventEntry.toEvent at h
  split at h
  · cases h
  · next code hcode =>
    split at h
    · cases h
    · cases h
      dsimp only
      rw [Exporter.staysOnLine_eventRecord_iff, ne_eq, phaseCode?_eq_lineEnd_iff hcode, ← List.map_take,
        List.forall_mem_map]
      simp only [staysOnLine_toArg_iff]

end Settings

end TraceExport
