/-
What a replay leaves. However the workers share the events among them, each event is counted and its
records are sent as often as it is put, or it is only counted where its group is off. The records
come in the order of the events if a worker is alone, and in some order otherwise. Replaying the
events one after the other is what a worker does that divides nothing. A replay for which no pool can
be built does nothing.
-/
import TraceExport.Workload.Crew
import Mathlib.Tactic

namespace TraceExport

variable {e : Exporter} {sink sink' : Sink}

/-! ## Sinks that are written to -/

namespace Sink

@[simp]
theorem listening_write (sink : Sink) (r : Record) : (sink.write r).listening = sink.listening := by
  cases sink <;> rfl

@[simp]
theorem listening_foldl_write (sink : Sink) (rs : List Record) :
    (rs.foldl write sink).listening = sink.listening := by
  induction rs generalizing sink with
  | nil => rfl
  | cons r rs ih => rw [List.foldl_cons, ih, listening_write]

/-- A sink that is no stream keeps the records. -/
theorem records_foldl_write (h : sink.stream? = none) (rs : List Record) :
    (rs.foldl write sink).records.toList = sink.records.toList ++ rs := by
  induction rs generalizing sink with
  | nil => rw [List.foldl_nil, List.append_nil]
  | cons r rs ih =>
    have hkept : (sink.write r).stream? = none ∧ (sink.write r).records = sink.records.push r := by
      rcases sink with ⟨_, _, _, _, records | s⟩ | m
      · exact ⟨rfl, rfl⟩
      · cases h
      · exact ⟨rfl, rfl⟩
    rw [List.foldl_cons, ih hkept.1, hkept.2, Array.toList_push, List.append_assoc, List.singleton_append]

end Sink

namespace Exporter

theorem isActive_congr (h : sink'.listening = sink.listening) : e.isActive sink' = e.isActive sink := by
  rw [isActive, isActive, h]

theorem isGroupOn_congr (h : sink'.listening = sink.listening) (group : String) :
    e.isGroupOn sink' group = e.isGroupOn sink group := by
  rw [isGroupOn, isGroupOn, isActive_congr h]

end Exporter

namespace Workload

variable {w : Workload} {threads : Nat} {ev : Event} {waiting : List Event} {stats s : Tally} {rs : List Record}

/-! ## Counts that are added up -/

namespace Tally

instance : Zero Tally := ⟨{}⟩

theorem add_def (a b : Tally) :
    a + b = ⟨a.offered + b.offered, a.exported + b.exported, a.completeEnds + b.completeEnds⟩ := rfl

theorem zero_def : (0 : Tally) = ⟨0, 0, 0⟩ := rfl

instance : AddCommMonoid Tally where
  add_assoc a b c := by simp only [add_def, Nat.add_assoc]
  zero_add a := by simp only [add_def, zero_def, Nat.zero_add]
  add_zero a := by simp only [add_def, zero_def, Nat.add_zero]
  add_comm a b := by simp only [add_def, Nat.add_comm]
  nsmul := nsmulRec

theorem nsmul_def (n : Nat) (a : Tally) : n • a = ⟨n * a.offered, n * a.exported, n * a.completeEnds⟩ := by
  induction n with
  | zero => rw [zero_nsmul, zero_def, Nat.zero_mul, Nat.zero_mul, Nat.zero_mul]
  | succ n ih => rw [succ_nsmul, ih, add_def]; simp only [Nat.succ_mul]

end Tally

/-! ## What an event calls for -/

/-- Whether the group of an event is on. -/
def Event.isOn (ev : Event) (e : Exporter) (sink : Sink) : Bool :=
  decide (e.isGroupOn sink ev.group = .ok true)

/-- What is counted when an event is put. -/
def Event.tally (ev : Event) (e : Exporter) (sink : Sink) : Tally :=
  if ev.isOn e sink then ⟨1, 1, if ev.completeEnd then 1 else 0⟩ else ⟨1, 0, 0⟩

/-- The records that are sent when an event is put. -/
def Event.due (ev : Event) (e : Exporter) (sink : Sink) : List Record :=
  if ev.isOn e sink then ev.records e else []

/-- The two texts of an argument, if there is one: its name, and its rendering unless it is of a kind that is
left out. -/
def Event.argTexts (p : Profile) : Option Arg → List String
  | none => ["", ""]
  | some a => [a.name, if a.value.kind ∈ p.skipped then "" else a.value.render]

/-- The texts of the records that an event leaves where its group is on, those of the event itself and then
those of its end. -/
def Event.texts (ev : Event) (p : Profile) : List (List String) :=
  ([ev.name, Phase.label ev.phase] ++ argTexts p ev.args[0]? ++ argTexts p ev.args[1]? ++ ["", ""]) ::
    if ev.completeEnd then [[ev.name, "Complete End", "", "", "", "", "", ""]] else []

theorem Event.fields_records (ev : Event) (e : Exporter) : (ev.records e).map Record.fields = ev.texts e.profile := by
  have hfield (a : Arg) : [(e.profile.field a).name, (e.profile.field a).value] = argTexts e.profile (some a) := by
    simp [Profile.field, Profile.skips, argTexts]
  have hevent : (e.eventRecord ev.phase ev.name ev.args).fields =
      [ev.name, Phase.label ev.phase] ++ argTexts e.profile ev.args[0]? ++ argTexts e.profile ev.args[1]? ++
        ["", ""] := by
    match ev.args with
    | [] => rfl
    | [a] => exact congrArg (fun texts => [ev.name, Phase.label ev.phase] ++ texts ++ ["", "", "", ""]) (hfield a)
    | a :: b :: _ =>
      show _ = [ev.name, Phase.label ev.phase] ++ argTexts e.profile (some a) ++ argTexts e.profile (some b) ++ ["", ""]
      rw [← hfield a, ← hfield b]
      rfl
  unfold records texts
  rw [List.map_cons, hevent]
  cases ev.completeEnd <;> rfl

theorem Event.tally_of_on (h : e.isGroupOn sink ev.group = .ok true) :
    ev.tally e sink = ⟨1, 1, if ev.completeEnd then 1 else 0⟩ := by
  rw [tally, isOn, h]
  rfl

theorem Event.due_of_on (h : e.isGroupOn sink ev.group = .ok true) : ev.due e sink = ev.records e := by
  rw [due, isOn, h]
  rfl

theorem Event.tally_of_off (h : e.isGroupOn sink ev.group = .ok false) : ev.tally e sink = ⟨1, 0, 0⟩ := by
  rw [tally, isOn, h]
  rfl

theorem Event.due_of_off (h : e.isGroupOn sink ev.group = .ok false) : ev.due e sink = [] := by
  rw [due, isOn, h]
  rfl

theorem Event.length_due (ev : Event) :
    (ev.due e sink).length = (ev.tally e sink).exported + (ev.tally e sink).completeEnds := by
  unfold due tally records
  cases ev.isOn e sink <;> cases ev.completeEnd <;> rfl

theorem isActive_of_isGroupOn {group : String} (h : e.isGroupOn sink group = .ok true) :
    e.isActive sink = true := by
  unfold Exporter.isGroupOn at h
  split at h
  · cases h
  · exact (Bool.and_eq_true_iff.1 (Except.ok.inj h)).1

theorem isGroupOn_ne_error {group : String} (h : group ≠ "") (p : Panic) : e.isGroupOn sink group ≠ .error p := by
  rw [Exporter.isGroupOn, if_neg h]
  exact fun he => by cases he

/-! ## What is owed -/

namespace Work

/-- What a replay is still to come to: the counts in the end, and the records that are not sent yet.
Only an active exporter has taken an event, and no event has an empty group. -/
inductive Owes (e : Exporter) (sink : Sink) : Work → Tally → List Record → Prop
  | stretch {stats : Tally} {sending : List Record} {waiting : List Event} :
    (sending ≠ [] → e.isActive sink = true) → (∀ ev ∈ waiting, ev.group ≠ "") →
    Owes e sink (.stretch stats sending waiting) (stats + (waiting.map (·.tally e sink)).sum)
      (sending ++ waiting.flatMap (·.due e sink))
  | both {a b : Work} {s t : Tally} {rs qs : List Record} :
    Owes e sink a s rs → Owes e sink b t qs → Owes e sink (.both a b) (s + t) (rs ++ qs)
  | ended {s : Tally} : Owes e sink (.ended (.ok s)) s []

theorem Owes.fresh (h : ∀ ev ∈ waiting, ev.group ≠ "") :
    Owes e sink (.stretch stats [] waiting) (stats + (waiting.map (·.tally e sink)).sum)
      (waiting.flatMap (·.due e sink)) :=
  .stretch (fun hs => absurd rfl hs) h

/-- An event that is taken goes from those that wait to the counts and the records to be sent. -/
theorem Owes.put (h : Owes e sink (.stretch stats [] (ev :: waiting)) s rs)
    (ha : ev.due e sink ≠ [] → e.isActive sink = true) :
    Owes e sink (.stretch (stats + ev.tally e sink) (ev.due e sink) waiting) s rs := by
  cases h with
  | stretch _ hg =>
    rw [List.map_cons, List.sum_cons, List.nil_append, List.flatMap_cons, ← add_assoc]
    exact .stretch ha fun other hm => hg other (List.mem_cons_of_mem _ hm)

/-- A step sends what is no longer owed. A worker that is alone sends it in the order of the events. -/
theorem Step.owes {x y : Work × Sink} (h : Step e threads x y) (hl : x.2.listening = sink.listening)
    (ho : Owes e sink x.1 s rs) :
    ∃ now rest, y.2 = now.foldl Sink.write x.2 ∧ Owes e sink y.1 s rest ∧
      (now ++ rest).Perm rs ∧ (threads ≤ 1 → now ++ rest = rs) := by
  induction h generalizing s rs with
  | @send stats r sending waiting now =>
    cases ho with
    | stretch ha hg =>
      have hactive := ha (List.cons_ne_nil _ _)
      refine ⟨[r], _, ?_, .stretch (fun _ => hactive) hg, .refl _, fun _ => rfl⟩
      show e.send now r = now.write r
      rw [Exporter.send, if_pos ((Exporter.isActive_congr hl).trans hactive)]
  | @skip stats ev waiting now hoff =>
    rw [Exporter.isGroupOn_congr hl] at hoff
    have hput := ho.put fun hd => absurd (Event.due_of_off hoff) hd
    rw [Event.tally_of_off hoff, Event.due_of_off hoff] at hput
    exact ⟨[], rs, rfl, hput, .refl _, fun _ => rfl⟩
  | @take stats ev waiting now hon =>
    rw [Exporter.isGroupOn_congr hl] at hon
    have hput := ho.put fun _ => isActive_of_isGroupOn hon
    rw [Event.tally_of_on hon, Event.due_of_on hon] at hput
    exact ⟨[], rs, rfl, hput, .refl _, fun _ => rfl⟩
  | @panic stats ev waiting now p hp =>
    cases ho with
    | stretch _ hg => exact absurd hp (isGroupOn_ne_error (hg ev (List.mem_cons_self ..)) p)
  | finish =>
    cases ho with
    | stretch =>
      rw [List.map_nil, List.sum_nil, add_zero]
      exact ⟨[], [], rfl, .ended, .refl _, fun _ => rfl⟩
  | @divide stats front rest now _ _ =>
    cases ho with
    | stretch _ hg =>
      refine ⟨[], _, rfl, ?_, .refl _, fun _ => rfl⟩
      rw [List.map_append, List.sum_append, List.flatMap_append, ← add_assoc, ← zero_add (List.sum (rest.map _))]
      refine .both (.fresh fun ev hm => ?_) (.fresh fun ev hm => ?_)
      · exact hg ev (List.mem_append_left _ hm)
      · exact hg ev (List.mem_append_right _ hm)
  | first _ ih =>
    cases ho with
    | both ha hb =>
      obtain ⟨now, rest, hsink, howes, hperm, horder⟩ := ih hl ha
      refine ⟨now, _, hsink, .both howes hb, ?_, fun ht => ?_⟩
      · rw [← List.append_assoc]
        exact hperm.append_right _
      · rw [← List.append_assoc, horder ht]
  | @second a b b' _ _ hmay _ ih =>
    cases ho with
    | @both _ _ _ _ rs qs ha hb =>
      obtain ⟨now, rest, hsink, howes, hperm, horder⟩ := ih hl hb
      refine ⟨now, _, hsink, .both ha howes, ?_, fun ht => ?_⟩
      · exact (List.perm_append_comm_assoc now rs rest).trans (hperm.append_left rs)
      -- a worker that is alone has ended the first part, so nothing of it is left
      · obtain ⟨outcome, rfl⟩ := hmay.resolve_left (Nat.not_lt.2 ht)
        cases ha
        exact horder ht
  | join =>
    cases ho with
    | both ha hb =>
      cases ha
      cases hb
      exact ⟨[], [], rfl, .ended, .refl _, fun _ => rfl⟩

theorem Reaches.owes {x y : Work × Sink} (h : Reaches e threads x y) (hl : x.2.listening = sink.listening)
    (ho : Owes e sink x.1 s rs) :
    ∃ now rest, y.2 = now.foldl Sink.write x.2 ∧ Owes e sink y.1 s rest ∧
      (now ++ rest).Perm rs ∧ (threads ≤ 1 → now ++ rest = rs) := by
  induction h with
  | refl => exact ⟨[], rs, rfl, ho, .refl _, fun _ => rfl⟩
  | @tail y z _ hstep ih =>
    obtain ⟨now, rest, hsink, howes, hperm, horder⟩ := ih
    have hl' : y.2.listening = sink.listening := by rw [hsink, Sink.listening_foldl_write, hl]
    obtain ⟨more, last, hsink', howes', hperm', horder'⟩ := hstep.owes hl' howes
    refine ⟨now ++ more, last, ?_, howes', ?_, fun ht => ?_⟩
    · rw [hsink', hsink, List.foldl_append]
    · rw [List.append_assoc]
      exact (hperm'.append_left now).trans hperm
    · rw [List.append_assoc, horder' ht, horder ht]

/-! ## No worker is stuck, and none goes on for ever -/

/-- Where no worker can do anything, the replay has ended. -/
theorem ended_of_stuck (work : Work) (h : ∀ next, ¬ Step e threads (work, sink) next) :
    ∃ outcome, work = .ended outcome := by
  induction work with
  | ended outcome => exact ⟨outcome, rfl⟩
  | stretch stats sending waiting =>
    exfalso
    cases sending with
    | cons r sending => exact h _ .send
    | nil =>
      cases waiting with
      | nil => exact h _ .finish
      | cons ev waiting =>
        cases hg : e.isGroupOn sink ev.group with
        | error p => exact h _ (.panic hg)
        | ok on =>
          cases on with
          | false => exact h _ (.skip hg)
          | true => exact h _ (.take hg)
  | both a b iha ihb =>
    exfalso
    obtain ⟨x, rfl⟩ := iha fun next hs => h (.both next.1 b, next.2) (.first hs)
    obtain ⟨y, rfl⟩ := ihb fun next hs => h (.both (.ended x) next.1, next.2) (.second (.inr ⟨x, rfl⟩) hs)
    exact h _ .join

/-- A bound on the number of steps that are left. -/
def weight : Work → Nat
  | .stretch _ sending waiting => sending.length + (6 * waiting.length - 3) + 1
  | .both a b => weight a + weight b + 1
  | .ended _ => 0

theorem Step.weight_lt {x y : Work × Sink} (h : Step e threads x y) : weight y.1 < weight x.1 := by
  induction h with
  | @divide stats front rest now hf hr =>
    have := List.length_pos_iff.2 hf
    have := List.length_pos_iff.2 hr
    simp only [weight, List.length_append, List.length_nil]
    omega
  | @take stats ev waiting now _ =>
    have : (ev.records e).length ≤ 2 := by
      unfold Event.records
      split <;> simp
    simp only [weight, List.length_cons, List.length_nil]
    omega
  | first _ ih => simpa only [weight, Nat.add_lt_add_iff_right] using ih
  | second _ _ ih => simpa only [weight, Nat.add_lt_add_iff_right, Nat.add_lt_add_iff_left] using ih
  | _ =>
    simp only [weight, List.length_cons, List.length_nil]
    omega

theorem no_endless (run : Nat → Work × Sink) : ∃ n, ¬ Step e threads (run n) (run (n + 1)) := by
  by_contra! h
  have hbound (n : Nat) : weight (run n).1 + n ≤ weight (run 0).1 := by
    induction n with
    | zero => exact Nat.le_refl _
    | succ n ih =>
      have := (h n).weight_lt
      omega
  have := hbound (weight (run 0).1 + 1)
  omega

/-! ## The events one after the other -/

theorem reaches_sent (rs : List Record) :
    Reaches e threads (.stretch stats rs waiting, sink) (.stretch stats [] waiting, rs.foldl e.send sink) := by
  induction rs generalizing sink with
  | nil => exact .refl
  | cons r rs ih => exact .head .send ih

/-- Where a worker is that has put some events, if it has not panicked. -/
def onward (waiting : List Event) : Except Panic Tally × Sink → Work × Sink
  | (.ok stats, sink) => (.stretch stats [] waiting, sink)
  | (.error p, sink) => (.ended (.error p), sink)

theorem reaches_putTimes (ev : Event) (n : Nat) :
    Reaches e threads (.stretch stats [] (List.replicate n ev ++ waiting), sink)
      (onward waiting (ev.putTimes e n stats sink)) := by
  induction n generalizing stats sink with
  | zero => exact .refl
  | succ n ih =>
    rw [List.replicate_succ, List.cons_append, Event.putTimes, Event.put]
    cases hg : e.isGroupOn sink ev.group with
    | error p => exact .single (.panic hg)
    | ok on =>
      cases on with
      | false => exact .head (.skip hg) ih
      | true => exact .head (.take hg) ((reaches_sent _).trans ih)

theorem reaches_replayFrom (w : Workload) :
    Reaches e threads (.stretch stats [] w.puts, sink)
      (.ended (replayFrom e w stats sink).1, (replayFrom e w stats sink).2) := by
  induction w generalizing stats sink with
  | nil => exact .single .finish
  | cons ev w ih =>
    have hev : Reaches e threads (.stretch stats [] (List.replicate ev.times ev ++ puts w), sink)
        (onward (puts w) (ev.putTimes e ev.times stats sink)) := reaches_putTimes ev ev.times
    rw [replayFrom]
    rcases hput : ev.putTimes e ev.times stats sink with ⟨_ | stats', sink'⟩
    · rw [hput] at hev
      exact hev
    · rw [hput] at hev
      exact hev.trans ih

end Work

/-! ## What the whole workload calls for -/

/-- The records that a workload leaves, in the order of its events. -/
def due (w : Workload) (e : Exporter) (sink : Sink) : List Record :=
  w.flatMap fun ev => (List.replicate ev.times (ev.due e sink)).flatten

/-- What is counted when a workload is replayed. -/
def tally (w : Workload) (e : Exporter) (sink : Sink) : Tally where
  offered := (w.map (·.times)).sum
  exported := ((w.filter (·.isOn e sink)).map (·.times)).sum
  completeEnds := ((w.filter fun ev => ev.isOn e sink && ev.completeEnd).map (·.times)).sum

/-- The texts of the records that a workload leaves, in the order of its events: those of an event as often
as it is put, if its group is on. -/
def texts (w : Workload) (e : Exporter) (sink : Sink) : List (List String) :=
  w.flatMap fun ev => if ev.isOn e sink then (List.replicate ev.times (ev.texts e.profile)).flatten else []

theorem fields_due (w : Workload) : (w.due e sink).map Record.fields = w.texts e sink := by
  rw [due, texts, List.map_flatMap]
  refine List.flatMap_congr fun ev _ => ?_
  rw [List.map_flatten, List.map_replicate, Event.due]
  split
  · rw [Event.fields_records]
  · simp

theorem due_puts (w : Workload) : w.puts.flatMap (·.due e sink) = w.due e sink := by
  rw [puts, List.flatMap_assoc]
  simp only [List.flatMap_replicate]
  rfl

theorem tally_cons (ev : Event) (w : Workload) :
    tally (ev :: w) e sink = ev.times • ev.tally e sink + w.tally e sink := by
  rw [Tally.nsmul_def, Tally.add_def]
  unfold tally Event.tally
  cases hon : ev.isOn e sink <;> cases hc : ev.completeEnd <;> simp [hon, hc]

theorem tally_puts (w : Workload) : (w.puts.map (·.tally e sink)).sum = w.tally e sink := by
  induction w with
  | nil => rfl
  | cons ev w ih =>
    rw [tally_cons, ← ih, puts, List.flatMap_cons, List.map_append, List.map_replicate, List.sum_append,
      List.sum_replicate]
    rfl

/-- Every record that is due was counted once. -/
theorem length_due (w : Workload) :
    (w.due e sink).length = (w.tally e sink).exported + (w.tally e sink).completeEnds := by
  induction w with
  | nil => rfl
  | cons ev w ih =>
    rw [due, List.flatMap_cons, List.length_append, ← due, ih, tally_cons, Tally.nsmul_def, Tally.add_def]
    rw [List.length_flatten, List.map_replicate, List.sum_replicate, Event.length_due, smul_eq_mul]
    ring

/-! ## Replays that have ended -/

theorem Work.owes_start (hw : ∀ ev ∈ w, ev.group ≠ "") :
    Work.Owes e sink (.start w) (w.tally e sink) (w.due e sink) := by
  rw [← tally_puts, ← due_puts, ← zero_add (List.sum _)]
  refine .fresh fun ev hm => ?_
  obtain ⟨ev', hm', hrep⟩ := List.mem_flatMap.1 hm
  rw [List.eq_of_mem_replicate hrep]
  exact hw ev' hm'

/-- Once a replay has ended nothing is owed. -/
theorem Work.Reaches.exact {outcome : Except Panic Tally} (hw : ∀ ev ∈ w, ev.group ≠ "")
    (h : Work.Reaches e threads (.start w, sink) (.ended outcome, sink')) :
    outcome = .ok (w.tally e sink) ∧ ∃ added, sink' = added.foldl Sink.write sink ∧
      added.Perm (w.due e sink) ∧ (threads ≤ 1 → added = w.due e sink) := by
  obtain ⟨added, rest, hsink, howes, hperm, horder⟩ := h.owes rfl (owes_start hw)
  cases howes
  rw [List.append_nil] at hperm horder
  exact ⟨rfl, added, hsink, hperm, horder⟩

/-- Workers who leave the events in one stretch, whatever their number. -/
def Crew.undivided (threads : Nat) : Crew threads := ⟨Workload.replay, fun w _ _ => Work.reaches_replayFrom w⟩

theorem Crew.replay_eq (crew : Crew threads) (hw : ∀ ev ∈ w, ev.group ≠ "") (e : Exporter) (sink : Sink) :
    ∃ added, crew.replay w e sink = (.ok (w.tally e sink), added.foldl Sink.write sink) ∧
      added.Perm (w.due e sink) ∧ (threads ≤ 1 → added = w.due e sink) := by
  obtain ⟨hok, added, hsink, hperm, horder⟩ := (crew.able w e sink).exact hw
  exact ⟨added, Prod.ext hok hsink, hperm, horder⟩

/-- What a replay with a number of threads makes of a sink. The records that are added have the texts that are
called for, in their order if there is one thread only. There are as many as events and ends that were
exported, and a sink that keeps its records has them behind those from before. -/
def Leaves (w : Workload) (e : Exporter) (sink : Sink) (threads : Nat) (now : Sink) : Prop :=
  ∃ added : List Record, now = added.foldl Sink.write sink ∧ (added.map Record.fields).Perm (w.texts e sink) ∧
    (threads ≤ 1 → added.map Record.fields = w.texts e sink) ∧
    added.length = (w.tally e sink).exported + (w.tally e sink).completeEnds ∧
    (sink.stream? = none → now.records.toList = sink.records.toList ++ added)

theorem leaves_of_due {added : List Record} (hperm : added.Perm (w.due e sink))
    (horder : threads ≤ 1 → added = w.due e sink) :
    w.Leaves e sink threads (added.foldl Sink.write sink) := by
  refine ⟨added, rfl, ?_, fun ht => ?_, ?_, fun hkept => Sink.records_foldl_write hkept added⟩
  · rw [← fields_due]
    exact hperm.map _
  · rw [horder ht, fields_due]
  · rw [hperm.length_eq, length_due]

/-- With a pool that can be built a replay gives the counts. -/
theorem run_of_builds {build : PoolBuilder} (hsound : build.Sound) (hbuilt : build.Builds threads)
    (hw : ∀ ev ∈ w, ev.group ≠ "") (e : Exporter) (sink : Sink) :
    ∃ now, w.run build threads e sink = (.ok (.ok (w.tally e sink)), now) ∧ w.Leaves e sink threads now := by
  obtain ⟨replayer, hreplayer⟩ := hbuilt
  obtain ⟨crew, rfl⟩ := hsound _ _ hreplayer
  obtain ⟨added, heq, hperm, horder⟩ := crew.replay_eq hw e sink
  refine ⟨_, ?_, leaves_of_due hperm fun ht => horder (max_le ht (Nat.le_refl 1))⟩
  unfold run
  rw [hreplayer]
  dsimp only
  rw [heq]

theorem run_of_unbuilt {build : PoolBuilder} {causes : List String} (h : build (max threads 1) = .error causes)
    (w : Workload) (e : Exporter) (sink : Sink) : w.run build threads e sink = (.ok (.error ⟨causes⟩), sink) := by
  unfold run
  rw [h]

theorem PoolBuilder.single_sound : single.Sound := by
  intro threads replayer h
  exact ⟨Crew.undivided threads, Except.ok.inj h⟩

theorem PoolBuilder.single_builds (threads : Nat) : single.Builds threads := ⟨replay, rfl⟩

/-- A replay is exact, for every exporter and sink, every number of threads and all events that have a
group. It always ends, and then each event was offered as often as it is put; where its group is on it
was exported as often, and its end too where it is closed. The records that were added are those that
are called for, in their order if there is one thread only, as many as events and ends that were
exported. With a pool that can be built, that is what a replay gives. -/
theorem replay_exact (hw : ∀ ev ∈ w, ev.group ≠ "") (e : Exporter) (sink : Sink) (threads : Nat)
    {build : PoolBuilder} (hsound : build.Sound) (hbuilt : build.Builds threads) :
    (∀ run : Nat → Work × Sink, ∃ n, ¬ Work.Step e threads (run n) (run (n + 1))) ∧
    (∀ work now, Work.Reaches e threads (.start w, sink) (work, now) →
      (∀ next, ¬ Work.Step e threads (work, now) next) →
      work = .ended (.ok (w.tally e sink)) ∧ w.Leaves e sink threads now) ∧
    ∃ now, w.run build threads e sink = (.ok (.ok (w.tally e sink)), now) ∧ w.Leaves e sink threads now := by
  refine ⟨Work.no_endless, fun work now hreach hstuck => ?_, run_of_builds hsound hbuilt hw e sink⟩
  obtain ⟨outcome, rfl⟩ := Work.ended_of_stuck work hstuck
  obtain ⟨rfl, added, rfl, hperm, horder⟩ := hreach.exact hw
  exact ⟨rfl, leaves_of_due hperm horder⟩

/-- An event that is closed is put twice and one whose group is off once, by four workers and by one, who is
there also if none was asked for. -/
theorem replay_exact_gpu :
    let e : Exporter := { profile := {}, registry := ⟨[("gpu", true)], false, false, 1⟩, lifecycle := .registered 1 }
    let sink : Sink := .controlled { listening := true, keyword := 1, outlet := .memory #[] }
    let w : Workload := [
      { phase := phaseCode 'X', group := "cc,gpu", name := "Swap", args := [⟨"vsync", .bool true⟩], times := 2,
        completeEnd := true },
      { phase := phaseCode 'I', group := "netlog", name := "Request" }]
    let swap := ["Swap", "Complete", "vsync", "true", "", "", "", ""]
    let swapped := ["Swap", "Complete End", "", "", "", "", "", ""]
    (∀ ev ∈ w, ev.group ≠ "") ∧ PoolBuilder.single.Sound ∧ PoolBuilder.single.Builds 0 ∧
    (∃ now, w.run .single 0 e sink = (.ok (.ok ⟨3, 2, 2⟩), now) ∧
      now.records.toList.map Record.fields = [swap, swapped, swap, swapped]) ∧
    ∀ work now, Work.Reaches e 4 (.start w, sink) (work, now) →
      (∀ next, ¬ Work.Step e 4 (work, now) next) →
      work = .ended (.ok ⟨3, 2, 2⟩) ∧
        (now.records.toList.map Record.fields).Perm [swap, swapped, swap, swapped] := by
  intro e sink w swap swapped
  have hw : ∀ ev ∈ w, ev.group ≠ "" := by decide
  have htally : w.tally e sink = ⟨3, 2, 2⟩ := by decide
  have htexts : w.texts e sink = [swap, swapped, swap, swapped] := by decide
  have hsound := PoolBuilder.single_sound
  obtain ⟨-, -, now, hrun, added, -, -, horder, -, hkept⟩ :=
    replay_exact hw e sink 0 hsound (PoolBuilder.single_builds 0)
  obtain ⟨-, hcrew, -⟩ := replay_exact hw e sink 4 hsound (PoolBuilder.single_builds 4)
  refine ⟨hw, hsound, PoolBuilder.single_builds 0, ⟨now, htally ▸ hrun, ?_⟩, fun work now hreach hstuck => ?_⟩
  · rw [hkept rfl, ← htexts]
    exact horder (Nat.zero_le 1)
  · obtain ⟨hwork, added, -, hperm, -, -, hkept⟩ := hcrew work now hreach hstuck
    refine ⟨htally ▸ hwork, ?_⟩
    rw [hkept rfl, ← htexts]
    exact hperm

end Workload

end TraceExport
