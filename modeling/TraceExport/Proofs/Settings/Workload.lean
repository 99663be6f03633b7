/-
Workloads of entries. All entries are taken or none: they make a workload if the phase of each is one
byte and none is without a group, and otherwise the first that is not fit says what is wrong. Each
event of a workload carries what its entry says. As none of them is without a group, no worker that
replays them panics, whatever the exporter and the sink are and however they change meanwhile.
-/
import TraceExport.Proofs.Settings.Entries
import TraceExport.Proofs.Workload.Replay

namespace TraceExport

/-! ## Replays without a panic -/

namespace Workload

variable {w : Workload} {threads : Nat}

namespace Work

/-- Whether some part has ended in a panic. -/
def Panicked : Work → Prop
  | .stretch _ _ _ => False
  | .both first second => first.Panicked ∨ second.Panicked
  | .ended outcome => ∃ p, outcome = .error p

/-- Whether no event that waits is without a group, and no part has ended in a panic. -/
def Grouped : Work → Prop
  | .stretch _ _ waiting => ∀ ev ∈ waiting, ev.group ≠ ""
  | .both first second => first.Grouped ∧ second.Grouped
  | .ended outcome => ∃ stats, outcome = .ok stats

/-- What can happen while workers replay: one of them does what it can do next, or the exporter and the
sink are changed by others. -/
inductive Happens (threads : Nat) : Work × Exporter × Sink → Work × Exporter × Sink → Prop
  | step {work work' : Work} {e : Exporter} {sink sink' : Sink} : Step e threads (work, sink) (work', sink') →
    Happens threads (work, e, sink) (work', e, sink')
  | change {work : Work} {e e' : Exporter} {sink sink' : Sink} : Happens threads (work, e, sink) (work, e', sink')

theorem Grouped.not_panicked {work : Work} (h : work.Grouped) : ¬ work.Panicked := by
  induction work with
  | stretch => exact id
  | both first second ihf ihs => exact not_or.2 ⟨ihf h.1, ihs h.2⟩
  | ended outcome =>
    obtain ⟨stats, rfl⟩ := h
    rintro ⟨p, hp⟩
    cases hp

/-- A step asks for the group of an event that waits, and leaves the groups as they are. -/
theorem Step.grouped {e : Exporter} {x y : Work × Sink} (h : Step e threads x y) (hx : x.1.Grouped) : y.1.Grouped := by
  induction h with
  | send => exact hx
  | skip _ => exact fun ev hm => hx ev (List.mem_cons_of_mem _ hm)
  | take _ => exact fun ev hm => hx ev (List.mem_cons_of_mem _ hm)
  | @panic stats ev waiting sink p hp => exact absurd hp (isGroupOn_ne_error (hx ev (List.mem_cons_self ..)) p)
  | finish => exact ⟨_, rfl⟩
  | divide _ _ =>
    exact ⟨fun ev hm => hx ev (List.mem_append_left _ hm), fun ev hm => hx ev (List.mem_append_right _ hm)⟩
  | first _ ih => exact ⟨ih hx.1, hx.2⟩
  | second _ _ ih => exact ⟨hx.1, ih hx.2⟩
  | join =>
    obtain ⟨⟨s, rfl⟩, ⟨t, rfl⟩⟩ := hx
    exact ⟨s + t, rfl⟩

theorem grouped_of_happens {x y : Work × Exporter × Sink} (h : Relation.ReflTransGen (Happens threads) x y)
    (hx : x.1.Grouped) : y.1.Grouped := by
  induction h with
  | refl => exact hx
  | tail _ hnext ih =>
    cases hnext with
    | step hstep => exact hstep.grouped ih
    | change => exact ih

theorem Reaches.happens {e : Exporter} {x y : Work × Sink} (h : Reaches e threads x y) :
    Relation.ReflTransGen (Happens threads) (x.1, e, x.2) (y.1, e, y.2) := by
  induction h with
  | refl => exact .refl
  | tail _ hstep ih => exact ih.tail (.step hstep)

theorem grouped_start (h : ∀ ev ∈ w, ev.group ≠ "") : (start w).Grouped := by
  intro ev hm
  obtain ⟨ev', hm', hrep⟩ := List.mem_flatMap.1 hm
  rw [List.eq_of_mem_replicate hrep]
  exact h ev' hm'

end Work

theorem Crew.replay_ok (crew : Crew threads) (h : ∀ ev ∈ w, ev.group ≠ "") (e : Exporter) (sink : Sink) :
    ∃ stats, (crew.replay w e sink).1 = .ok stats :=
  Work.grouped_of_happens (crew.able w e sink).happens (Work.grouped_start h)

end Workload

namespace Settings

open Workload (Event Work Crew)

/-! ## Phases -/

/-- The bytes of a text in UTF-8. -/
def bytes (text : String) : List UInt8 := text.toUTF8.data.toList

theorem bytes_eq_flatMap (text : String) : bytes text = text.toList.flatMap String.utf8EncodeChar := by
  rw [bytes, String.toUTF8, ← String.utf8Encode_toList, List.utf8Encode, List.data_toByteArray]

theorem length_utf8EncodeChar_pos (c : Char) : 0 < (String.utf8EncodeChar c).length := by
  rw [String.length_utf8EncodeChar]
  exact c.utf8Size_pos

/-- A character is one byte if it is ASCII. -/
theorem length_utf8EncodeChar_eq_one_iff (c : Char) : (String.utf8EncodeChar c).length = 1 ↔ c.toNat < 128 := by
  rw [String.length_utf8EncodeChar, Char.utf8Size_eq_one_iff, UInt32.le_iff_toNat_le]
  exact Nat.lt_succ_iff.symm

/-- A phase has a code if it is one byte, and this is the code. -/
theorem phaseCode?_eq_some_iff (phase : String) (code : UInt8) :
    phaseCode? phase = some code ↔ bytes phase = [code] := by
  rw [bytes_eq_flatMap, phaseCode?]
  cases phase.toList with
  | nil => exact iff_of_false (fun h => by cases h) fun h => by cases h
  | cons c cs =>
    cases cs with
    | nil =>
      rw [List.flatMap_singleton]
      dsimp only
      split
      · next hc =>
        have hsize : c.utf8Size = 1 := by
          rw [← String.length_utf8EncodeChar, length_utf8EncodeChar_eq_one_iff]
          exact hc
        rw [String.utf8EncodeChar_eq_singleton hsize, Option.some.injEq, List.singleton_inj]
        rfl
      · next hc =>
        refine iff_of_false (fun h => by cases h) fun h => hc ?_
        rw [← length_utf8EncodeChar_eq_one_iff, h, List.length_singleton]
    | cons d cs =>
      refine iff_of_false (fun h => by cases h) fun h => ?_
      have hlength := congrArg List.length h
      have hc := length_utf8EncodeChar_pos c
      have hd := length_utf8EncodeChar_pos d
      simp only [List.flatMap_cons, List.length_append, List.length_singleton] at hlength
      omega

theorem phaseCode?_eq_none_iff (phase : String) : phaseCode? phase = none ↔ (bytes phase).length ≠ 1 := by
  rw [Option.eq_none_iff_forall_ne_some, ne_eq, List.length_eq_one_iff]
  simp only [ne_eq, phaseCode?_eq_some_iff, not_exists]

/-! ## Entries -/

/-- Whether an entry makes an event: its phase is one byte, and it has a group. -/
structure EventEntry.IsFit (entry : EventEntry) : Prop where
  phase : (bytes entry.phase).length = 1
  group : entry.group ≠ ""

/-- What is wrong with an entry. A bad phase comes before a group that is not there. -/
inductive EventEntry.Fails (entry : EventEntry) : EventFault → Prop
  | phase : (bytes entry.phase).length ≠ 1 → entry.Fails (.badPhase entry.name entry.phase)
  | group : (bytes entry.phase).length = 1 → entry.group = "" → entry.Fails (.emptyGroup entry.name)

/-- Whether an event carries what an entry says. -/
structure EventEntry.CarriedBy (entry : EventEntry) (ev : Event) : Prop where
  phase : bytes entry.phase = [ev.phase]
  group : ev.group = entry.group
  name : ev.name = entry.name
  id : ev.id = entry.id
  times : ev.times = entry.times
  completeEnd : ev.completeEnd = entry.completeEnd
  /-- There is an argument for each of the entry, in their order. -/
  args : List.Forall₂ (fun a arg => arg.name = a.name ∧ arg.value = argValue a.value) entry.args ev.args

theorem EventEntry.IsFit.toEvent {entry : EventEntry} (h : entry.IsFit) :
    ∃ ev, entry.toEvent = .ok ev ∧ entry.CarriedBy ev := by
  obtain ⟨code, hbytes⟩ := List.length_eq_one_iff.1 h.phase
  unfold EventEntry.toEvent
  rw [(phaseCode?_eq_some_iff _ _).2 hbytes]
  dsimp only
  rw [if_neg h.group]
  exact ⟨_, rfl, hbytes, rfl, rfl, rfl, rfl, rfl,
    List.forall₂_map_right_iff.2 (List.forall₂_same.2 fun a _ => ⟨rfl, rfl⟩)⟩

theorem EventEntry.Fails.toEvent {entry : EventEntry} {fault : EventFault} (h : entry.Fails fault) :
    entry.toEvent = .error fault := by
  unfold EventEntry.toEvent
  cases h with
  | phase hphase => rw [(phaseCode?_eq_none_iff _).2 hphase]
  | group hphase hgroup =>
    obtain ⟨code, hbytes⟩ := List.length_eq_one_iff.1 hphase
    rw [(phaseCode?_eq_some_iff _ _).2 hbytes]
    exact if_pos hgroup

theorem EventEntry.fit_or_fails (entry : EventEntry) : entry.IsFit ∨ ∃ fault, entry.Fails fault := by
  by_cases hphase : (bytes entry.phase).length = 1
  · by_cases hgroup : entry.group = ""
    · exact .inr ⟨_, .group hphase hgroup⟩
    · exact .inl ⟨hphase, hgroup⟩
  · exact .inr ⟨_, .phase hphase⟩

/-! ## Lists of entries -/

/-- The first entry that is not fit decides, whatever stands behind it. -/
theorem workloadOf_of_fails {before after : List EventEntry} {entry : EventEntry} {fault : EventFault}
    (hbefore : ∀ other ∈ before, other.IsFit) (h : entry.Fails fault) :
    workloadOf (before ++ entry :: after) = .error fault := by
  unfold workloadOf
  induction before with
  | nil =>
    rw [List.nil_append, List.mapM_cons, h.toEvent]
    rfl
  | cons first before ih =>
    rw [List.forall_mem_cons] at hbefore
    obtain ⟨ev, hev, -⟩ := hbefore.1.toEvent
    rw [List.cons_append, List.mapM_cons, hev, ih hbefore.2]
    rfl

/-- Fit entries make a workload. -/
theorem workloadOf_of_fit {entries : List EventEntry} (h : ∀ entry ∈ entries, entry.IsFit) :
    ∃ w, workloadOf entries = .ok w ∧ List.Forall₂ EventEntry.CarriedBy entries w := by
  simp only [workloadOf_eq_ok_iff]
  induction entries with
  | nil => exact ⟨[], .nil, .nil⟩
  | cons entry entries ih =>
    rw [List.forall_mem_cons] at h
    obtain ⟨ev, hev, hcarried⟩ := h.1.toEvent
    obtain ⟨w, hw, hall⟩ := ih h.2
    exact ⟨ev :: w, .cons hev hw, .cons hcarried hall⟩

/-- Either all entries are fit, or there is a first that is not. -/
theorem fit_or_first (entries : List EventEntry) : (∀ entry ∈ entries, entry.IsFit) ∨
    ∃ before entry after fault, entries = before ++ entry :: after ∧ (∀ other ∈ before, other.IsFit) ∧
      entry.Fails fault := by
  induction entries with
  | nil => exact .inl (List.forall_mem_nil _)
  | cons entry entries ih =>
    rcases entry.fit_or_fails with hfit | ⟨fault, hfails⟩
    · rcases ih with hall | ⟨before, other, after, fault, rfl, hbefore, hfails⟩
      · exact .inl (List.forall_mem_cons.2 ⟨hfit, hall⟩)
      · exact .inr ⟨entry :: before, other, after, fault, rfl, List.forall_mem_cons.2 ⟨hfit, hbefore⟩, hfails⟩
    · exact .inr ⟨[], entry, entries, fault, rfl, List.forall_mem_nil _, hfails⟩

theorem fit_of_workloadOf {entries : List EventEntry} {w : Workload} (h : workloadOf entries = .ok w) :
    ∀ entry ∈ entries, entry.IsFit := by
  rcases fit_or_first entries with hall | ⟨before, entry, after, fault, rfl, hbefore, hfails⟩
  · exact hall
  · rw [workloadOf_of_fails hbefore hfails] at h
    cases h

/-- Entries are taken all or none. They make a workload if each phase is one byte and no group is empty,
whatever the arguments are, and else there is the fault of the first entry that is not fit. The workload
has one event for each entry, in their order, that carries what the entry says. No worker that replays
it ever panics, with any number of threads, whatever exporter and sink there are at first and whatever
becomes of them meanwhile; so every crew replays it to its end. -/
theorem entries_all_or_nothing (entries : List EventEntry) :
    ((∃ w, workloadOf entries = .ok w) ↔ ∀ entry ∈ entries, (bytes entry.phase).length = 1 ∧ entry.group ≠ "") ∧
    (∀ fault, workloadOf entries = .error fault ↔ ∃ before entry after, entries = before ++ entry :: after ∧
      (∀ other ∈ before, (bytes other.phase).length = 1 ∧ other.group ≠ "") ∧ entry.Fails fault) ∧
    ∀ w, workloadOf entries = .ok w → List.Forall₂ EventEntry.CarriedBy entries w ∧ ∀ threads e sink,
      (∀ work e' sink', Relation.ReflTransGen (Work.Happens threads) (.start w, e, sink) (work, e', sink') →
        ¬ work.Panicked) ∧
      ∀ crew : Crew threads, ∃ stats, (crew.replay w e sink).1 = .ok stats := by
  have hfit (entry : EventEntry) : (bytes entry.phase).length = 1 ∧ entry.group ≠ "" ↔ entry.IsFit :=
    ⟨fun h => ⟨h.1, h.2⟩, fun h => ⟨h.phase, h.group⟩⟩
  simp only [hfit]
  refine ⟨⟨fun ⟨w, hw⟩ => fit_of_workloadOf hw, fun hall => ?_⟩, fun fault => ⟨fun herror => ?_, ?_⟩,
    fun w hw => ?_⟩
  · obtain ⟨w, hw, -⟩ := workloadOf_of_fit hall
    exact ⟨w, hw⟩
  · rcases fit_or_first entries with hall | ⟨before, entry, after, fault', rfl, hbefore, hfails⟩
    · obtain ⟨w, hw, -⟩ := workloadOf_of_fit hall
      rw [hw] at herror
      cases herror
    · rw [workloadOf_of_fails hbefore hfails] at herror
      cases herror
      exact ⟨before, entry, after, rfl, hbefore, hfails⟩
  · rintro ⟨before, entry, after, rfl, hbefore, hfails⟩
    exact workloadOf_of_fails hbefore hfails
  · obtain ⟨w', hw', hcarried⟩ := workloadOf_of_fit (fit_of_workloadOf hw)
    obtain rfl : w' = w := Except.ok.inj (hw'.symm.trans hw)
    have hgroups := group_of_workloadOf hw
    refine ⟨hcarried, fun threads e sink => ⟨fun work e' sink' h => ?_, fun crew => crew.replay_ok hgroups e sink⟩⟩
    exact (Work.grouped_of_happens h (Work.grouped_start hgroups)).not_panicked

/-- The second entry of the other list has a phase of two bytes, and no group either. -/
theorem entries_all_or_nothing_accent :
    let swap : EventEntry := {
      phase := "X", group := ",gpu", name := "Swap", args := [⟨"n", .int (-3)⟩, ⟨"t", .array [.bool true]⟩]
      times := 2, completeEnd := true }
    let accent : EventEntry := { phase := "\u00e9", group := "", name := "Accent" }
    (∃ w, workloadOf [swap, swap] = .ok w ∧ List.Forall₂ EventEntry.CarriedBy [swap, swap] w ∧
      ∀ e sink work e' sink', Relation.ReflTransGen (Work.Happens 4) (.start w, e, sink) (work, e', sink') →
        ¬ work.Panicked) ∧
    workloadOf [swap, accent, swap] = .error (.badPhase "Accent" "\u00e9") := by
  intro swap accent
  have hswap : (bytes swap.phase).length = 1 ∧ swap.group ≠ "" := by decide
  have haccent : (bytes accent.phase).length ≠ 1 := by decide
  obtain ⟨w, hw⟩ := (entries_all_or_nothing [swap, swap]).1.2 (by simpa using hswap)
  obtain ⟨hcarried, hreplay⟩ := (entries_all_or_nothing [swap, swap]).2.2 w hw
  refine ⟨⟨w, hw, hcarried, fun e sink => (hreplay 4 e sink).1⟩, ?_⟩
  exact ((entries_all_or_nothing [swap, accent, swap]).2.1 _).2
    ⟨[swap], accent, [swap], rfl, List.forall_mem_singleton.2 hswap, .phase haccent⟩

end Settings

end TraceExport
