/-
What observers note of the keywords that are read. The readings of an exporter, in their order, tell all
that its updates answer and its observer notes: a reading is a change if it is not of the keyword that
was read before, and each change is noted by the categories that the keyword has on.
-/
import TraceExport.Proofs.Exporter.Readings

namespace TraceExport

namespace Host

/-! ## Changes -/

/-- The keyword that was read last, 0 before the first. -/
def lastRead (log : List Reading) : Keyword := (log.map (·.keyword)).getLastD 0

/-- Whether a reading was a change. -/
def Reading.isChange (r : Reading) : Bool :=
  match r.answer with
  | .ok .changed => true
  | _ => false

/-- What is noted of readings: for each change the categories that it has on. -/
def notes (names : List String) (log : List Reading) : List (List String) :=
  (log.filter (·.isChange)).map fun r => (Registry.showing names r.keyword).enabled

/-- Readings that are answered each by the one before it. -/
inductive Answered : List Reading → Prop
  | nil : Answered []
  | concat {log : List Reading} {r : Reading} (earlier : Answered log)
    (answer : r.answer = .ok (if lastRead log = r.keyword then .unchanged else .changed)) : Answered (log ++ [r])

theorem Answered.answer {log earlier rest : List Reading} {r : Reading} (ha : Answered log)
    (hlog : log = earlier ++ r :: rest) :
    r.answer = .ok (if lastRead earlier = r.keyword then .unchanged else .changed) := by
  induction ha generalizing rest with
  | nil => cases earlier <;> cases hlog
  | @concat log last _ hlast ih =>
    rcases List.eq_nil_or_concat rest with rfl | ⟨rest, last', rfl⟩
    · obtain ⟨rfl, hr⟩ := List.append_inj' hlog rfl
      cases hr
      exact hlast
    · have hlog' : log ++ [last] = (earlier ++ r :: rest) ++ [last'] := by rw [hlog]; simp
      exact ih (List.append_inj' hlog' rfl).1

theorem lastRead_concat (log : List Reading) (r : Reading) : lastRead (log ++ [r]) = r.keyword := by
  simp [lastRead]

theorem notes_concat (names : List String) (log : List Reading) (r : Reading) :
    notes names (log ++ [r]) =
      notes names log ++ if r.isChange then [(Registry.showing names r.keyword).enabled] else [] := by
  cases hr : r.isChange <;> simp [notes, hr]

/-! ## What an observer makes of readings -/

variable {id j : Nat} {names : List String} {log more : List Reading} {h g : Host} {e : Exporter}

/-- What holds of an exporter with an observer that returns, by the readings since it was registered. It
shows the keyword that it read last, and its observer has noted every change. -/
structure Heeds (id : Nat) (names : List String) (log : List Reading) (h : Host) : Prop where
  old : id < h.next
  answered : Answered (own id log)
  exporter : ∀ e, h.exporter? id = some e → e.observer = some .returning ∧
    e.registry = .showing names (lastRead (own id log)) ∧ e.noted = notes names (own id log)

theorem Heeds.silent (hh : Heeds id names log h) (hs : Silent h g) : Heeds id names log g := by
  refine ⟨Nat.lt_of_lt_of_le hh.old hs.next, hh.answered, fun f hf => ?_⟩
  obtain ⟨e, he, hk⟩ := hs.kept id f hh.old hf
  rw [hk.observer, hk.registry, hk.noted]
  exact hh.exporter e he

/-- What another exporter does leaves the exporter alone. -/
theorem Heeds.other (hh : Heeds id names log h) (hn : g.next = h.next) (hx : g.exporter? id = h.exporter? id)
    (hown : own id more = []) : Heeds id names (log ++ more) g := by
  refine ⟨hn ▸ hh.old, ?_, fun f hf => ?_⟩
  · rw [own_append, hown, List.append_nil]
    exact hh.answered
  · rw [own_append, hown, List.append_nil]
    exact hh.exporter f (hx ▸ hf)

/-- An update is the next reading of the exporter, and changes nothing for another one. -/
theorem Heeds.sync (hh : Heeds id names log h) (he : h.exporter? j = some e) :
    Heeds id names (log ++ [h.reading j e]) (h.sync j e).2 := by
  by_cases hj : j = id
  · subst hj
    obtain ⟨ho, hr, hn⟩ := hh.exporter e he
    have hown : own j (log ++ [h.reading j e]) = own j log ++ [h.reading j e] :=
      (own_append ..).trans (congrArg _ (own_single rfl))
    have hanswer : (h.reading j e).answer =
        .ok (if lastRead (own j log) = h.sink.keyword then .unchanged else .changed) := by
      have hnot : ¬ (e.observes h.sink.keyword ∧ e.observer = some .panicking) := fun hp => by
        rw [ho] at hp
        cases hp.2
      rw [reading, sync_eq, Exporter.outcome, if_neg hnot, hr, Registry.apply_showing]
    rw [sync_eq]
    refine ⟨hh.old, hown ▸ .concat hh.answered hanswer, fun f hf => ?_⟩
    change (h.put j _).exporter? j = some f at hf
    rw [exporter?_put, if_pos rfl, he, Option.map_some] at hf
    obtain rfl := Option.some.inj hf
    rw [hown, lastRead_concat, notes_concat]
    refine ⟨ho, by rw [Exporter.updated_registry, hr, Registry.apply_showing]; rfl, ?_⟩
    -- a keyword that is the same as before is no change, and nobody is told of it
    by_cases hk : lastRead (own j log) = h.sink.keyword
    · have hc : (h.reading j e).isChange = false := by rw [Reading.isChange, hanswer, if_pos hk]
      have hq : e.observes h.sink.keyword = false := by simp [Exporter.observes, hr, hk]
      simp [Exporter.updated, hq, hc, hn]
    · have hc : (h.reading j e).isChange = true := by rw [Reading.isChange, hanswer, if_neg hk]
      have hq : e.observes h.sink.keyword = true := by simp [Exporter.observes, hr, ho, hk]
      rw [hc]
      simp [Exporter.updated, hq, hn, hr, Registry.apply_showing, reading]
  · have hown : own id [h.reading j e] = [] := own_single_of_ne hj
    rw [sync_eq]
    refine hh.other rfl ?_ hown
    show (h.put j _).exporter? id = _
    rw [exporter?_put, if_neg (Ne.symm hj)]

theorem Heeds.traced (hh : Heeds id names log h) (ht : Traced h more g) : Heeds id names (log ++ more) g := by
  induction ht generalizing log with
  | silent hs => simpa using hh.silent hs
  | read he _ => exact hh.sync he
  | trans _ _ ih ih' =>
    rw [← List.append_assoc]
    exact ih' (ih hh)

/-- Whether an operation applies a keyword directly to the exporter with this number. -/
def Op.AppliesTo (h : Host) (id : Nat) : Op → Prop
  | .call name (.registry (.apply _)) => h.id? name = some id
  | _ => False

theorem Heeds.run (hh : Heeds id names log h) {op : Op} (ho : ¬ op.AppliesTo h id) :
    Heeds id names (log ++ h.readings op) (h.run op).2 := by
  rcases h.run_reads op with ⟨s, -, ht⟩ | ⟨name, k, j, f, rfl, hj, hnone, hrun⟩
  · have hs : Heeds id names log { h with sink := s } := ⟨hh.old, hh.answered, hh.exporter⟩
    exact hs.traced ht
  · have hne : j ≠ id := fun hji => ho (hji ▸ hj)
    rw [hnone, hrun]
    refine hh.other rfl ?_ rfl
    rw [exporter?_put, if_neg (Ne.symm hne)]

theorem Heeds.after (hh : Heeds id names log h) {ops : List Op}
    (ho : ∀ first op rest, ops = first ++ op :: rest → ¬ op.AppliesTo (h.after first) id) :
    Heeds id names (log ++ h.scriptReadings ops) (h.after ops) := by
  induction ops generalizing h log with
  | nil =>
    show Heeds id names (log ++ []) h
    rwa [List.append_nil]
  | cons op ops ih =>
    rw [scriptReadings, ← List.append_assoc]
    refine ih (hh.run (ho [] op ops rfl)) fun first op' rest hops => ?_
    exact ho (op :: first) op' rest (by rw [hops]; rfl)

/-- A registration that does not sync reads nothing. -/
theorem registerReadings_of_ne_syncing (h : Host) {setup : Setup} (hs : setup ≠ .syncing) (profile : Profile) :
    h.registerReadings setup profile = [] := by
  unfold registerReadings
  split
  · rfl
  split
  · rfl
  · next registry _ =>
    dsimp only
    rw [settleReadings_of_deaf (h.deaf_applying setup profile registry), List.nil_append]
    split
    · split
      · exact absurd rfl hs
      · rfl
    · rfl

/-- An exporter with an observer that returns heeds its readings from its registration on. -/
theorem heeds_registered (hf : h.exporter? h.next = none) {name : String} {profile : Profile}
    (hdone : (h.run (.register name (.observed .returning) profile)).1 = .done) :
    (profile.filtered ++ Category.catchAlls).Nodup ∧
      Heeds h.next profile.filtered (h.readings (.register name (.observed .returning) profile))
        (h.run (.register name (.observed .returning) profile)).2 := by
  rcases profile.check_cases with hp | ⟨fault, hp⟩
  · have hr := register_eq hp (Profile.ofNames_of_check hp) hf (.observed .returning)
    have hne : Setup.observed .returning ≠ .syncing := by simp
    have hn := h.registerReadings_of_ne_syncing hne profile
    have hrun : h.run (.register name (.observed .returning) profile) =
        h.registerAs name (.observed .returning) profile := rfl
    generalize h.sink.register (.exporter h.next) = x at hr
    obtain ⟨s, calls, f | handle⟩ := x
    · rw [hrun, registerAs, hr] at hdone
      cases hdone
    · have hh : Heeds h.next profile.filtered []
          (h.admitting (.observed .returning) profile (.showing profile.filtered 0) handle s) := by
        refine ⟨Nat.lt_succ_self _, .nil, fun e he => ?_⟩
        rw [exporter?_admitting, if_pos rfl, Option.some.injEq] at he
        rw [← he]
        exact ⟨rfl, rfl, rfl⟩
      refine ⟨((Profile.check_eq_ok_iff profile).1 hp).2.2, ?_⟩
      simp only [readings, registerAsReadings, hn, hr]
      exact hh.traced (bind_traced hr name)
  · simp [run, registerAs, register, hp] at hdone

/-- Observers hear of every change of the keyword, once and when it is all there.

Take any run over a sink of any kind, an exporter that was registered in it with an observer that
returns and had no keyword applied to it directly, and what the exporter has read. Each update answers
that there was a change if its keyword is not the one that was read before, which is 0 at first. As long
as the exporter is alive, it shows the keyword that it read last, and its observer has noted for each
change, and for nothing else, the categories that are on by the keyword, in the order of the slots.

The readings are what the sink sees: every operation reads it as often as it has readings, with the
keyword that it has then, and for exporters that are registered. Of all that an exporter is asked to
do, only a sync and a callback let it read, once, if it is registered. -/
theorem observers_note_each_change (sink : Sink) (before later : List Op) (name : String) (profile : Profile) :
    let h₀ := Host.after { sink } before
    let registration : Op := .register name (.observed .returning) profile
    let h₁ := (h₀.run registration).2
    let log := own h₀.next (h₀.readings registration ++ h₁.scriptReadings later)
    (h₀.run registration).1 = .done →
    (∀ first op rest, later = first ++ op :: rest → ¬ op.AppliesTo (h₁.after first) h₀.next) →
    (∀ earlier r rest, log = earlier ++ r :: rest →
      r.answer = .ok (if lastRead earlier = r.keyword then .unchanged else .changed)) ∧
    (∀ e, (h₁.after later).exporter? h₀.next = some e →
      e.registry.last = lastRead log ∧
      e.noted = (log.filter (·.isChange)).map fun r =>
        (profile.filtered ++ Category.catchAlls).filter fun n =>
          r.keyword.getLsbD (Registry.bitOf profile.filtered n)) ∧
    ∀ g : Host,
      (∀ op, (g.run op).2.sink.reads? = g.sink.reads?.map (· + (g.readings op).length) ∧
        ∀ r ∈ g.readings op, r.keyword = (g.run op).2.sink.keyword ∧ (r.id < g.next → g.HasRegistered r.id)) ∧
      ∀ n id e, g.id? n = some id → g.exporter? id = some e → id < g.next →
        (∀ call, own id (g.readings (.call n call)) =
          if call.catchesUp && e.lifecycle.isRegistered then [g.reading id e] else []) ∧
        own id (g.readings (.drop n)) = [] ∧
        (e.lifecycle.isRegistered = true →
          (g.run (.call n .sync)).1 = .ofOutcome .change (g.reading id e).answer) := by
  intro h₀ registration h₁ log hdone happly
  obtain ⟨hn, hstart⟩ := heeds_registered (exporter?_next_after sink before) hdone
  have hh : Heeds h₀.next profile.filtered (h₀.readings registration ++ h₁.scriptReadings later) (h₁.after later) :=
    hstart.after happly
  refine ⟨fun earlier r rest hlog => hh.answered.answer hlog, fun e he => ?_, fun g => ⟨g.run_metered, ?_⟩⟩
  · obtain ⟨-, hr, hnoted⟩ := hh.exporter e he
    refine ⟨by rw [hr]; rfl, ?_⟩
    simp only [hnoted, notes, Registry.enabled_showing hn]
    rfl
  · intro n id e hid he hlt
    refine ⟨fun call => ?_, ?_, fun hr => ?_⟩
    · simp only [readings, hid, he]
      exact own_callReadings he hlt call
    · simp only [readings, hid]
      exact own_disposeReadings (h := g.unbind n) hlt
    · simp only [run, hid, he, runCall, hr, if_true]
      rfl

theorem observers_note_each_change_rebound :
    let h₀ := Host.after { sink := .manual { callsInUnregister := 1 } }
      [.register "a" .plain ⟨["cc"], []⟩, .enable 1#64]
    let registration : Op := .register "a" (.observed .returning) ⟨["gpu", "cc"], []⟩
    let h₁ := (h₀.run registration).2
    let later : List Op := [.fire 2, .enable 3#64, .call "a" .sync, .call "a" (.completeEnd "x"), .enable 0#64,
      .fire 1, .call "a" .unregister, .enable 1#64, .fire 1]
    let log := own 1 (h₀.readings registration ++ h₁.scriptReadings later)
    (h₀.run registration).1 = .done ∧
    (∀ first op rest, later = first ++ op :: rest → ¬ op.AppliesTo (h₁.after first) 1) ∧
    log.map (·.keyword) = [1#64, 1#64, 1#64, 3#64, 0#64] ∧
    log.map (·.isChange) = [true, false, false, true, true] ∧
    ∃ e, (h₁.after later).exporter? 1 = some e ∧ e.registry.last = 0 ∧
      e.noted = [["gpu"], ["gpu", "cc"], []] := by
  intro h₀ registration h₁ later log
  have hdone : (h₀.run registration).1 = .done := rfl
  have happly : ∀ first op rest, later = first ++ op :: rest → ¬ op.AppliesTo (h₁.after first) 1 := by
    intro first op rest hl
    have hm : op ∈ later := by rw [hl]; simp
    simp only [later, List.mem_cons, List.not_mem_nil, or_false] at hm
    rcases hm with rfl | rfl | rfl | rfl | rfl | rfl | rfl | rfl | rfl <;> exact fun ho => ho
  obtain ⟨-, hnoted, -⟩ := observers_note_each_change (.manual { callsInUnregister := 1 })
    [.register "a" .plain ⟨["cc"], []⟩, .enable 1#64] later "a" ⟨["gpu", "cc"], []⟩ hdone happly
  have hk : log.map (·.keyword) = [1#64, 1#64, 1#64, 3#64, 0#64] := by decide +kernel
  have hc : log.map (·.isChange) = [true, false, false, true, true] := by decide +kernel
  have hl : ((h₁.after later).exporter? 1).isSome = true := by decide +kernel
  obtain ⟨e, he⟩ := Option.isSome_iff_exists.1 hl
  obtain ⟨hlast, hn⟩ := hnoted e he
  have hlast' : lastRead log = 0 := by decide +kernel
  refine ⟨hdone, happly, hk, hc, e, he, hlast.trans hlast', hn.trans ?_⟩
  decide +kernel

end Host

end TraceExport
