/-
The moments of a run at a provider seat: every command that is carried out, within a callback or
outside of any, and every start of a callback. The seat at each moment is told by the acts before
it: handles are numbered in the order of the installs, the provider is the one installed last and
not removed since, and every callback that started is counted, however it ended.
-/
import TraceExport.Provider.Script
import Mathlib.Tactic

namespace TraceExport.Provider

/-! ## Acts and moments -/

/-- What happens at a seat. -/
inductive Act
  /-- A command is carried out, other than a notification that reaches a provider. -/
  | call (command : Command) (result : Except Halt Result)
  /-- A notification reaches a provider, whose callback starts. -/
  | start (callback : Notice)

/-- An act, with the seat before and after it. -/
structure Moment where
  before : Seat Notice
  act : Act
  after : Seat Notice

/-- The moment of a command within a callback. -/
def Command.moment (s : Seat Notice) (c : Command) : Moment := ⟨s, .call c (c.inside s).1, (c.inside s).2⟩

/-- The moments of a callback's commands, up to the first command that does not come to its end. -/
def bodyMoments (s : Seat Notice) : List Command → List Moment
  | [] => []
  | c :: cs => c.moment s :: match c.inside s with
    | (.ok _, s) => bodyMoments s cs
    | (.error _, _) => []

/-- The moments of a command outside of any callback. -/
def Command.moments (s : Seat Notice) : Command → List Moment
  | .notify =>
    match s.notify with
    | (none, _) => [Command.notify.moment s]
    | (some callback, t) => ⟨s, .start callback, t⟩ :: bodyMoments t callback.body
  | c => [c.moment s]

/-- The seat after a script. -/
def seatAfter (s : Seat Notice) (cs : List Command) : Seat Notice := cs.foldl (fun s c => (c.run s).seat) s

/-- The moments of a script. -/
def moments (s : Seat Notice) : List Command → List Moment
  | [] => []
  | c :: cs => c.moments s ++ moments (c.run s).seat cs

/-! ## Accounts -/

namespace Act

/-- The handle that an act gives out. -/
def given? : Act → Option Nat
  | .call (.install _ _) (.ok (.handle n)) => some n
  | _ => none

/-- Whether a callback starts. -/
def isStart : Act → Bool
  | .start _ => true
  | _ => false

/-- The provider after an act, by the provider before. -/
def provider (p : Option (Nat × Notice)) : Act → Option (Nat × Notice)
  | .call (.install tag onNotify) (.ok (.handle n)) => some (n, ⟨tag, onNotify⟩)
  | .call (.remove _) (.ok .done) => none
  | _ => p

/-- Whether an act comes to nothing: an error, or no end at all. -/
def isRefused : Act → Bool
  | .call _ (.ok (.failed _)) | .call _ (.error _) => true
  | _ => false

/-- Whether an act is what a seat answers with. -/
def Fits (s : Seat Notice) : Act → Prop
  | .call (.install _ _) r =>
    r = .ok (if s.installed.isSome then .failed (.registration .seatTaken) else .handle (s.issued + 1))
  | .call (.remove n) r =>
    r = .ok (if s.installed.map (·.1) = some n then .done
      else .failed (.unregistration (.unknownHandle n)))
  | .call .notify r => r = if s.installed.isSome then .error .blocked else .ok (.flag false)
  | .call .isInstalled r => r = .ok (.flag s.installed.isSome)
  | .call .delivered r => r = .ok (.count s.delivered)
  | .call .panic r => r = .error (.panic .callback)
  | .start callback => s.installed.map (·.2) = some callback

end Act

/-- The seat as acts tell it that began at an empty one. -/
def account (acts : List Act) : Seat Notice where
  issued := (acts.filterMap Act.given?).length
  installed := acts.foldl Act.provider none
  delivered := acts.countP Act.isStart

/-- The seat after one act. -/
def Act.apply (s : Seat Notice) (a : Act) : Seat Notice where
  issued := s.issued + a.given?.toList.length
  installed := a.provider s.installed
  delivered := s.delivered + if a.isStart then 1 else 0

theorem account_concat (acts : List Act) (a : Act) : account (acts ++ [a]) = a.apply (account acts) := by
  have hgiven : ([a].filterMap Act.given?).length = a.given?.toList.length := by
    cases h : a.given? <;> simp [h]
  simp only [account, Act.apply, List.filterMap_append, List.length_append, hgiven, List.foldl_append,
    List.foldl_cons, List.foldl_nil, List.countP_append, List.countP_singleton]

theorem Act.apply_of_isRefused {a : Act} (h : a.isRefused = true) (s : Seat Notice) : a.apply s = s := by
  cases a with
  | start callback => cases h
  | call c r =>
    rcases r with halt | r
    · cases c <;> rfl
    · cases r with
      | failed e => cases c <;> rfl
      | _ => cases h

/-! ## Each act fits its seat, and tells the next -/

/-- Whether a moment is as its act tells. -/
structure Moment.Sound (m : Moment) : Prop where
  fits : m.act.Fits m.before
  after : m.after = m.act.apply m.before

theorem Command.moment_sound (s : Seat Notice) (c : Command) : (c.moment s).Sound := by
  cases c with
  | install tag onNotify =>
    cases hi : s.installed with
    | none =>
      have hin : (Command.install tag onNotify).inside s = (.ok (.handle (s.issued + 1)),
          { s with issued := s.issued + 1, installed := some (s.issued + 1, ⟨tag, onNotify⟩) }) := by
        simp [Command.inside, Seat.install_of_free hi]
      exact ⟨by simp [Command.moment, hin, Act.Fits, hi], by rw [Command.moment, hin]; rfl⟩
    | some p =>
      have hin : (Command.install tag onNotify).inside s = (.ok (.failed (.registration .seatTaken)), s) := by
        simp [Command.inside, Seat.install_of_taken hi]
      refine ⟨by simp [Command.moment, hin, Act.Fits, hi], ?_⟩
      rw [Command.moment, hin]
      exact (Act.apply_of_isRefused rfl s).symm
  | remove n =>
    by_cases hn : s.installed.map (·.1) = some n
    · obtain ⟨p, hp, rfl⟩ := Option.map_eq_some_iff.1 hn
      have hin : (Command.remove p.1).inside s = (.ok .done, { s with installed := none }) := by
        simp [Command.inside, Seat.remove_of_installed hp]
      exact ⟨by simp [Command.moment, hin, Act.Fits, hp], by rw [Command.moment, hin]; rfl⟩
    · have hother : ∀ p, s.installed = some p → p.1 ≠ n := fun p hp h => hn (by rw [hp, ← h]; rfl)
      have hin : (Command.remove n).inside s = (.ok (.failed (.unregistration (.unknownHandle n))), s) := by
        simp [Command.inside, Seat.remove_of_other hother]
      refine ⟨by simp [Command.moment, hin, Act.Fits, hn], ?_⟩
      rw [Command.moment, hin]
      exact (Act.apply_of_isRefused rfl s).symm
  | notify =>
    cases hi : s.installed with
    | none =>
      have hin : Command.notify.inside s = (.ok (.flag false), s) := by simp [Command.inside, hi]
      exact ⟨by simp [Command.moment, hin, Act.Fits, hi], by rw [Command.moment, hin]; rfl⟩
    | some p =>
      have hin : Command.notify.inside s = (.error .blocked, s) := by simp [Command.inside, hi]
      exact ⟨by simp [Command.moment, hin, Act.Fits, hi], by rw [Command.moment, hin]; rfl⟩
  | isInstalled => exact ⟨rfl, rfl⟩
  | delivered => exact ⟨rfl, rfl⟩
  | panic => exact ⟨rfl, rfl⟩

/-- Sound moments, each of which begins at the seat that the one before it left. -/
def Chained (s : Seat Notice) : List Moment → Seat Notice → Prop
  | [], t => s = t
  | m :: ms, t => m.before = s ∧ m.Sound ∧ Chained m.after ms t

theorem Chained.append {s t u : Seat Notice} {ms ns : List Moment} (hm : Chained s ms t) (hn : Chained t ns u) :
    Chained s (ms ++ ns) u := by
  induction ms generalizing s with
  | nil => rwa [show s = t from hm]
  | cons m ms ih => exact ⟨hm.1, hm.2.1, ih hm.2.2⟩

theorem chained_bodyMoments (s : Seat Notice) (cs : List Command) :
    Chained s (bodyMoments s cs) (runBody s cs).2 := by
  induction cs generalizing s with
  | nil => rfl
  | cons c cs ih =>
    refine ⟨rfl, c.moment_sound s, ?_⟩
    simp only [runBody, Command.moment]
    rcases c.inside s with ⟨halt | r, t⟩
    · rfl
    · have hb := ih t
      dsimp only
      rcases hbody : runBody t cs with ⟨halt | rs, u⟩ <;> rwa [hbody] at hb

theorem chained_command (s : Seat Notice) (c : Command) : Chained s (c.moments s) (c.run s).seat := by
  have hone (c : Command) : Chained s [c.moment s] (c.inside s).2 := ⟨rfl, c.moment_sound s, rfl⟩
  cases c with
  | notify =>
    cases hi : s.installed with
    | none => simpa [Command.moments, Command.run, Command.inside, Seat.notify, hi] using hone .notify
    | some p =>
      have hn : s.notify = (some p.2, { s with delivered := s.delivered + 1 }) := by simp [Seat.notify, hi]
      have hb := chained_bodyMoments { s with delivered := s.delivered + 1 } p.2.body
      simp only [Command.moments, Command.run, hn]
      refine ⟨rfl, ⟨by simp [Act.Fits, hi], rfl⟩, ?_⟩
      dsimp only
      rcases hbody : runBody { s with delivered := s.delivered + 1 } p.2.body with ⟨halt | rs, u⟩ <;>
        rwa [hbody] at hb
  | _ => exact hone _

theorem chained_moments (s : Seat Notice) (cs : List Command) : Chained s (moments s cs) (seatAfter s cs) := by
  induction cs generalizing s with
  | nil => rfl
  | cons c cs ih => exact (chained_command s c).append (ih (c.run s).seat)

/-! ## What a chain keeps -/

section

variable {s t : Seat Notice} {ms : List Moment}

/-- From a seat that is accounted for, moments lead to one that is. -/
theorem Chained.accounted (acts : List Act) (h : Chained (account acts) ms t) :
    t = account (acts ++ ms.map (·.act)) := by
  induction ms generalizing acts with
  | nil => simpa using (show account acts = t from h).symm
  | cons m ms ih =>
    obtain ⟨hb, hm, hrest⟩ := h
    have ha : m.after = account (acts ++ [m.act]) := by rw [hm.after, hb, account_concat]
    rw [ha] at hrest
    simpa using ih _ hrest

theorem Act.Fits.given_eq {a : Act} (h : a.Fits s) {n : Nat} (hn : a.given? = some n) : n = s.issued + 1 := by
  unfold Act.given? at hn
  split at hn
  · cases hn
    simp only [Act.Fits, Except.ok.injEq] at h
    split at h
    · cases h
    · exact Result.handle.inj h
  · cases hn

/-- Handles are given out in their order. -/
theorem Chained.given (h : Chained s ms t) : ∃ k, t.issued = s.issued + k ∧
    (ms.map (·.act)).filterMap Act.given? = List.range' (s.issued + 1) k := by
  induction ms generalizing s with
  | nil => exact ⟨0, by rw [show s = t from h]; rfl, rfl⟩
  | cons m ms ih =>
    obtain ⟨rfl, hm, hrest⟩ := h
    obtain ⟨k, ht, hk⟩ := ih hrest
    have hissued : m.after.issued = m.before.issued + m.act.given?.toList.length := by rw [hm.after]; rfl
    rw [List.map_cons]
    cases hg : m.act.given? with
    | none =>
      have hsame : m.after.issued = m.before.issued := by rw [hissued, hg]; rfl
      exact ⟨k, by rw [ht, hsame], by rw [List.filterMap_cons_none hg, hk, hsame]⟩
    | some n =>
      have hnext : m.after.issued = m.before.issued + 1 := by rw [hissued, hg]; rfl
      have hn := hm.fits.given_eq hg
      refine ⟨k + 1, by omega, ?_⟩
      rw [List.filterMap_cons_some hg, hk, hnext, List.range'_succ, hn]

/-- An act brings in no provider but one under the next handle. -/
theorem Act.Fits.provider_eq {a : Act} (h : a.Fits s) : a.provider s.installed = s.installed ∨
    a.provider s.installed = none ∨
    a.given? = some (s.issued + 1) ∧ ∃ callback, a.provider s.installed = some (s.issued + 1, callback) := by
  unfold Act.provider
  split
  · next tag onNotify n =>
    have hn := h.given_eq rfl
    exact .inr (.inr ⟨by rw [← hn]; rfl, ⟨tag, onNotify⟩, by rw [hn]⟩)
  · exact .inr (.inl rfl)
  · exact .inl rfl

/-- The provider after a moment is the one before it, or none, or one under the next handle. -/
theorem Moment.Sound.handle {m : Moment} (hm : m.Sound) {n : Nat} (hn : m.after.installed.map (·.1) = some n) :
    m.before.installed.map (·.1) = some n ∨ n = m.before.issued + 1 ∧ m.after.issued = m.before.issued + 1 := by
  have hinst : m.after.installed = m.act.provider m.before.installed := by rw [hm.after]; rfl
  rw [hinst] at hn
  rcases hm.fits.provider_eq with hp | hp | ⟨hg, callback, hp⟩ <;> rw [hp] at hn
  · exact .inl hn
  · cases hn
  · cases hn
    exact .inr ⟨rfl, by rw [hm.after, Act.apply, hg]; rfl⟩

theorem Moment.Sound.issued_le {m : Moment} (hm : m.Sound) : m.before.issued ≤ m.after.issued := by
  rw [hm.after]
  exact Nat.le_add_right _ _

theorem Chained.split {seen later : List Moment} {m : Moment} (h : Chained s (seen ++ m :: later) t) :
    Chained s seen m.before ∧ m.Sound ∧ Chained m.after later t := by
  induction seen generalizing s with
  | nil => exact ⟨h.1.symm, h.2⟩
  | cons m₀ seen ih =>
    obtain ⟨hb, hm, hrest⟩ := h
    obtain ⟨hs, hrest⟩ := ih hrest
    exact ⟨⟨hb, hm, hs⟩, hrest⟩

/-- The handle of the provider was given out. -/
theorem Chained.numbered (h : Chained s ms t) (hs : ∀ n, s.installed.map (·.1) = some n → n ≤ s.issued) :
    ∀ n, t.installed.map (·.1) = some n → n ≤ t.issued := by
  induction ms generalizing s with
  | nil => rwa [← show s = t from h]
  | cons m ms ih =>
    obtain ⟨rfl, hm, hrest⟩ := h
    refine ih hrest fun n hn => ?_
    have hle := hm.issued_le
    rcases hm.handle hn with hb | ⟨hb, ha⟩
    · exact Nat.le_trans (hs n hb) hle
    · omega

/-- A handle that was given out and is not the provider's is never the provider's again. -/
theorem Chained.spent {n : Nat} (h : Chained s ms t) (hle : n ≤ s.issued) (hne : s.installed.map (·.1) ≠ some n) :
    ∀ m ∈ ms, m.before.installed.map (·.1) ≠ some n := by
  induction ms generalizing s with
  | nil => simp
  | cons m ms ih =>
    obtain ⟨rfl, hm, hrest⟩ := h
    have hissued := hm.issued_le
    have hafter : m.after.installed.map (·.1) ≠ some n := by
      intro hn
      rcases hm.handle hn with hb | ⟨hb, _⟩
      · exact hne hb
      · omega
    intro m' hm'
    rcases List.mem_cons.1 hm' with rfl | hm'
    · exact hne
    · exact ih hrest (by omega) hafter m' hm'

/-- A handle that was removed is never the provider's again. -/
theorem Chained.removed {seen later : List Moment} {m : Moment} (h : Chained {} (seen ++ m :: later) t) {n : Nat}
    (hr : m.act = .call (.remove n) (.ok .done)) : ∀ m' ∈ later, m'.before.installed.map (·.1) ≠ some n := by
  obtain ⟨hseen, hm, hlater⟩ := h.split
  have hn : m.before.installed.map (·.1) = some n := by
    have hf := hm.fits
    rw [hr] at hf
    by_contra hn
    rw [Act.Fits, if_neg hn] at hf
    cases hf
  have hle : n ≤ m.before.issued := hseen.numbered (fun _ h => by cases h) n hn
  refine hlater.spent (Nat.le_trans hle hm.issued_le) ?_
  rw [hm.after, hr]
  simp [Act.apply, Act.provider]

end

/-! ## What a callback does -/

/-- The acts of commands that came to their ends. -/
def ended (cs : List Command) (results : List Result) : List Act := List.zipWith (fun c r => .call c (.ok r)) cs results

/-- How a notification goes. Without a provider it does nothing. With one, the callback that was
the provider's when the notification was made does all that it is made of, in order, or all up to
the first command that does not come to its end. -/
def Notified (s : Seat Notice) (step : Step) (acts : List Act) : Prop :=
  match s.installed with
  | none => acts = [.call .notify (.ok (.flag false))] ∧ step = ⟨.ok (.flag false), [], s⟩
  | some (_, callback) =>
    (∃ results, results.length = callback.body.length ∧
      acts = .start callback :: ended callback.body results ∧
      step.result = .ok (.flag true) ∧ step.hits = [⟨callback.tag, results⟩]) ∨
    ∃ done c rest results halt, callback.body = done ++ c :: rest ∧ results.length = done.length ∧
      acts = .start callback :: ended done results ++ [.call c (.error halt)] ∧
      step.result = .error halt ∧ step.hits = []

theorem bodyMoments_eq (s : Seat Notice) (cs : List Command) :
    (∃ results, (runBody s cs).1 = .ok results ∧ results.length = cs.length ∧
      (bodyMoments s cs).map (·.act) = ended cs results) ∨
    ∃ done c rest results halt, cs = done ++ c :: rest ∧ (runBody s cs).1 = .error halt ∧
      results.length = done.length ∧ (bodyMoments s cs).map (·.act) = ended done results ++ [.call c (.error halt)] := by
  induction cs generalizing s with
  | nil => exact .inl ⟨[], rfl, rfl, rfl⟩
  | cons c cs ih =>
    simp only [bodyMoments, runBody, Command.moment, List.map_cons]
    rcases c.inside s with ⟨halt | r, t⟩
    · exact .inr ⟨[], c, cs, [], halt, rfl, rfl, rfl, rfl⟩
    dsimp only
    -- the first command came to its end, so the others follow
    rcases ih t with ⟨rs, hr, hlen, hacts⟩ | ⟨done, c', rest, rs, halt, rfl, hr, hlen, hacts⟩
    · refine .inl ⟨r :: rs, ?_, by simp [hlen], by rw [hacts]; rfl⟩
      rcases hb : runBody t cs with ⟨_ | _, u⟩ <;> rw [hb] at hr <;> cases hr
      rfl
    · refine .inr ⟨c :: done, c', rest, r :: rs, halt, rfl, ?_, by simp [hlen], by rw [hacts]; rfl⟩
      rcases hb : runBody t (done ++ c' :: rest) with ⟨_ | _, u⟩ <;> rw [hb] at hr <;> cases hr
      rfl

theorem notified_run (s : Seat Notice) :
    Notified s (Command.notify.run s) ((Command.notify.moments s).map (·.act)) := by
  unfold Notified
  cases hi : s.installed with
  | none =>
    have hn : s.notify = (none, s) := by simp [Seat.notify, hi]
    simp [Command.moments, Command.run, hn, Command.moment, Command.inside, hi]
  | some p =>
    have hn : s.notify = (some p.2, { s with delivered := s.delivered + 1 }) := by simp [Seat.notify, hi]
    simp only [Command.moments, Command.run, hn, List.map_cons]
    have hbody := bodyMoments_eq { s with delivered := s.delivered + 1 } p.2.body
    generalize runBody { s with delivered := s.delivered + 1 } p.2.body = outcome at hbody ⊢
    obtain ⟨r, t⟩ := outcome
    rcases hbody with ⟨rs, rfl, hlen, hacts⟩ | ⟨done, c, rest, rs, halt, hcs, rfl, hlen, hacts⟩
    · exact .inl ⟨rs, hlen, by rw [hacts], rfl, rfl⟩
    · exact .inr ⟨done, c, rest, rs, halt, hcs, hlen, by rw [hacts]; rfl, rfl, rfl⟩

/-! ## Runs -/

theorem moments_append (s : Seat Notice) (cs ds : List Command) :
    moments s (cs ++ ds) = moments s cs ++ moments (seatAfter s cs) ds := by
  induction cs generalizing s with
  | nil => rfl
  | cons c cs ih =>
    simp only [List.cons_append, moments, ih, List.append_assoc]
    rfl

theorem runScript_append (s : Seat Notice) (cs ds : List Command) :
    runScript s (cs ++ ds) = runScript s cs ++ runScript (seatAfter s cs) ds := by
  induction cs generalizing s with
  | nil => rfl
  | cons c cs ih =>
    simp only [List.cons_append, runScript, ih]
    rfl

/-- A run of commands at an empty seat, in which callbacks work on the seat that notifies them and
may panic on the way. At every moment of the run, within callbacks or outside, the seat is as the
acts so far tell, the act is what such a seat answers, and one that is refused or halts changes
nothing; a handle that was removed is never the provider's again. Handles are given out from one on
without a gap. And every step leaves the seat as the acts up to its end tell, in whatever way it
ends; a notification runs the callback that was the provider's when it was made, and no other. -/
theorem moments_accounted (cs : List Command) :
    (∀ seen m later, moments {} cs = seen ++ m :: later →
      m.before = account (seen.map (·.act)) ∧ m.after = account ((seen ++ [m]).map (·.act)) ∧
      m.act.Fits m.before ∧ (m.act.isRefused = true → m.after = m.before) ∧
      ∀ n, m.act = .call (.remove n) (.ok .done) → ∀ m' ∈ later, m'.before.installed.map (·.1) ≠ some n) ∧
    (let given := ((moments {} cs).map (·.act)).filterMap Act.given?;
      given = List.range' 1 given.length) ∧
    ∀ done c rest, cs = done ++ c :: rest → ∃ s, s = account ((moments {} done).map (·.act)) ∧
      runScript {} cs = runScript {} done ++ c.run s :: runScript (c.run s).seat rest ∧
      moments {} cs = moments {} done ++ c.moments s ++ moments (c.run s).seat rest ∧
      (c.run s).seat = account ((moments {} done ++ c.moments s).map (·.act)) ∧
      (c = .notify → Notified s (c.run s) ((c.moments s).map (·.act))) ∧
      (c ≠ .notify → (c.run s).hits = [] ∧ (c.moments s).map (·.act) = [.call c (c.run s).result]) := by
  refine ⟨fun seen m later he => ?_, ?_, fun done c rest he => ?_⟩
  · have hc : Chained {} (seen ++ m :: later) (seatAfter {} cs) := he ▸ chained_moments {} cs
    have hsplit := hc.split
    have hb : m.before = account (seen.map (·.act)) := hsplit.1.accounted []
    refine ⟨hb, ?_, hsplit.2.1.fits, fun hr => ?_, fun n hr => hc.removed hr⟩
    · rw [hsplit.2.1.after, hb, List.map_append, List.map_singleton, account_concat]
    · rw [hsplit.2.1.after, Act.apply_of_isRefused hr]
  · obtain ⟨k, _, hk⟩ := (chained_moments {} cs).given
    have hk : ((moments {} cs).map (·.act)).filterMap Act.given? = List.range' 1 k := hk
    simp only [hk, List.length_range']
  · have hdone : seatAfter {} done = account ((moments {} done).map (·.act)) :=
      (chained_moments {} done).accounted []
    have hstep := (chained_moments {} done).append (chained_command (seatAfter {} done) c)
    refine ⟨seatAfter {} done, hdone, ?_, ?_, hstep.accounted [], ?_, ?_⟩
    · rw [he, runScript_append]
      rfl
    · rw [he, moments_append, List.append_assoc]
      rfl
    · rintro rfl
      exact notified_run _
    · intro hne
      cases c with
      | notify => exact absurd rfl hne
      | _ => exact ⟨rfl, rfl⟩

/-- A callback that puts another provider in its own place and panics. -/
example : (runScript {} [
    .install "a" [.remove 1, .install "b" [], .panic], .notify, .remove 1, .notify, .delivered]).map (·.result) =
      [.ok (.handle 1), .error (.panic .callback), .ok (.failed (.unregistration (.unknownHandle 1))),
        .ok (.flag true), .ok (.count 2)] := rfl

end TraceExport.Provider
