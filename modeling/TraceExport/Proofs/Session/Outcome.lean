/-
What a session comes to. It gives a report if the profile passes its check, the keyword resolves and
every entry makes an event, as long as a pool of workers can be built; otherwise it writes nothing. The
report and the lines follow from the settings: a session with a listener has the keyword that was
resolved, one without has none, and the events that count are those whose group has a category that the
keyword selects.
-/
import TraceExport.Proofs.Event.Record
import TraceExport.Proofs.Session.Parts
import TraceExport.Proofs.Settings.Entries
import TraceExport.Proofs.Sink.Delivery
import TraceExport.CommandLine.Command

namespace TraceExport

variable {s : Settings} {k? : Option Keyword} {k : Keyword} {w : Workload} {e : Exporter} {sink : Sink}

/-! ## What a keyword selects -/

/-- Whether a keyword has the bit of a category in a group. -/
def Registry.selects (names : List String) (k : Keyword) (group : String) : Bool :=
  (Category.ofGroup group).any fun category => k.getLsbD (bitOf names category)

/-- The events whose group a keyword selects. -/
def Workload.selected (w : Workload) (names : List String) (k : Keyword) : Workload :=
  w.filter fun ev => Registry.selects names k ev.group

namespace Session

variable {p : Profile}

/-- The group of an event is on if the keyword selects it. Where nobody listens the keyword is
empty. -/
theorem Serves.isOn (hs : Serves p k e) (hl : sink.listening = false → k = 0) {ev : Workload.Event}
    (hg : ev.group ≠ "") : ev.isOn e sink = Registry.selects p.filtered k ev.group := by
  have hon : e.registry.isOn = fun category => k.getLsbD (Registry.bitOf p.filtered category) := by
    funext category
    rw [hs.registry, Registry.isOn_showing]
  rw [Workload.Event.isOn, Exporter.isGroupOn, if_neg hg, Exporter.isActive, hs.isRegistered, hon, Bool.true_and]
  cases hsink : sink.listening with
  | true => simp only [Bool.true_and, Except.ok.injEq, Bool.decide_eq_true, Registry.selects]
  | false =>
    rw [hl hsink]
    simp [Registry.selects]

theorem Serves.tally (hs : Serves p k e) (hl : sink.listening = false → k = 0) (hw : ∀ ev ∈ w, ev.group ≠ "") :
    w.tally e sink = ⟨(w.map (·.times)).sum, ((w.selected p.filtered k).map (·.times)).sum,
      (((w.selected p.filtered k).filter (·.completeEnd)).map (·.times)).sum⟩ := by
  have hon : w.filter (·.isOn e sink) = w.selected p.filtered k :=
    List.filter_congr fun ev hm => hs.isOn hl (hw ev hm)
  rw [Workload.tally, ← hon, List.filter_filter]
  simp only [Bool.and_comm]

theorem Serves.texts (hs : Serves p k e) (hl : sink.listening = false → k = 0) (hw : ∀ ev ∈ w, ev.group ≠ "") :
    w.texts e sink = (w.selected p.filtered k).flatMap fun ev => (List.replicate ev.times (ev.texts p)).flatten := by
  rw [Workload.texts, Workload.selected, List.flatMap_def, List.flatMap_def, hs.profile]
  induction w with
  | nil => rfl
  | cons ev w ih =>
    have hon := hs.isOn hl (hw ev (List.mem_cons_self ..))
    rw [List.map_cons, List.flatten_cons, ih fun other hm => hw other (List.mem_cons_of_mem _ hm), List.filter_cons,
      hon]
    split
    · rfl
    · simp

/-! ## What a run gives -/

/-- The stream that a session begins with. -/
def blank (s : Settings) (clock : Nat → String) : Sink.Stream := { format := s.output.format, clock }

section

variable {clock : Nat → String} {build : Workload.PoolBuilder} {threads : Nat}

theorem run_of_parts {r : Except Fault Report} {h : Host} {c : Sink.Controlled} {o : Sink.Stream}
    (hrun : parts build threads s (started (.stream (blank s clock))) = (r, h)) (hc : h.sink = .controlled c)
    (ho : c.outlet = .stream o) : run build threads s clock = (r, o.lines.toList) := by
  have hlines : h.sink.lines = o.lines := by
    rw [hc, Sink.lines, ho]
    rfl
  rw [← hlines]
  exact congrArg (fun x : Except Fault Report × Host => (x.1, x.2.sink.lines.toList)) hrun

theorem run_of_bad_profile {fault : Failure} (hp : s.profile.check = .error fault) :
    run build threads s clock = (.error (.register fault), []) := by
  let h := started (.stream (blank s clock))
  have hrun : parts build threads s h = (.error (.register fault), h) := by
    rw [parts, Part.bind_of_error (opening_run_of_bad_profile hp)]
  exact run_of_parts hrun rfl rfl

theorem run_of_bad_keyword (hp : s.profile.check = .ok ()) {fault : Settings.KeywordFault}
    (hk : s.session.resolve (.showing s.profile.filtered 0) = .error fault) :
    run build threads s clock = (.error (.keyword fault), []) := by
  obtain ⟨h, c, hopen, hc, ho⟩ := opening_run_of_bad_keyword (.stream (blank s clock)) hp hk
  have hrun : parts build threads s (started (.stream (blank s clock))) = (.error (.keyword fault), h) := by
    rw [parts, Part.bind_of_error hopen]
  exact run_of_parts hrun hc ho

theorem run_of_bad_event (hp : s.profile.check = .ok ())
    (hk : s.session.resolve (.showing s.profile.filtered 0) = .ok k?) {fault : Settings.EventFault}
    (hw : s.workload = .error fault) : run build threads s clock = (.error (.event fault), []) := by
  obtain ⟨h, c, hopen, ha, ho, -⟩ := opening_run (.stream (blank s clock)) hp hk
  have hrun : parts build threads s (started (.stream (blank s clock))) = (.error (.event fault), h) := by
    rw [parts, Part.bind_of_ok hopen]
    exact Part.bind_of_error (Part.result_of_error hw)
  exact run_of_parts hrun ha.sink ho

/-- Where there are no workers, the stream is left as it was. -/
theorem run_of_unbuilt (hp : s.profile.check = .ok ())
    (hk : s.session.resolve (.showing s.profile.filtered 0) = .ok k?) (hw : s.workload = .ok w) {causes : List String}
    (hbuild : build (max threads 1) = .error causes) :
    run build threads s clock = (.error (.pool ⟨causes⟩), []) := by
  obtain ⟨h, c, hopen, ha, ho, -⟩ := opening_run (.stream (blank s clock)) hp hk
  obtain ⟨e, he, -⟩ := ha.exporter
  have hrun : parts build threads s (started (.stream (blank s clock))) = (.error (.pool ⟨causes⟩), h) := by
    rw [parts, Part.bind_of_ok hopen]
    dsimp only
    rw [Part.bind_of_ok (Part.result_of_ok hw), Part.bind_of_ok (exporter_run he)]
    exact Part.bind_of_error (replay_run_of_unbuilt ha hbuild w)
  exact run_of_parts hrun ha.sink ho

/-- Whether a session is given what it needs: a profile that passes its check, a keyword or none, and
entries that all make events. -/
def Ready (s : Settings) : Prop :=
  s.profile.check = .ok () ∧
  (∃ registry k?, Registry.ofNames s.profile.filtered = .ok registry ∧ s.session.resolve registry = .ok k?) ∧
  ∀ entry ∈ s.events, (∃ c, entry.phase.toList = [c] ∧ c.toNat < 128) ∧ entry.group ≠ ""

/-- What a report says of a session for which this keyword was resolved. -/
structure Tells (s : Settings) (k? : Option Keyword) (w : Workload) (report : Report) : Prop where
  keyword : report.keyword = if s.session.listening then k? else none
  enabled : report.enabled = (s.profile.filtered ++ Category.catchAlls).filter fun name =>
    (inForce s k?).getLsbD (Registry.bitOf s.profile.filtered name)
  offered : report.stats.offered = (w.map (·.times)).sum
  exported : report.stats.exported = ((w.selected s.profile.filtered (inForce s k?)).map (·.times)).sum
  completeEnds : report.stats.completeEnds =
    (((w.selected s.profile.filtered (inForce s k?)).filter (·.completeEnd)).map (·.times)).sum
  written : report.written = report.stats.exported + report.stats.completeEnds
  lost : report.lost = 0

/-- The texts of the records of a session, in the order of its events. -/
def texts (s : Settings) (k? : Option Keyword) (w : Workload) : List (List String) :=
  (w.selected s.profile.filtered (inForce s k?)).flatMap fun ev =>
    (List.replicate ev.times (ev.texts s.profile)).flatten

theorem run_of_ready (clock : Nat → String) (hsound : build.Sound) (hbuilt : build.Builds threads)
    (hp : s.profile.check = .ok ()) (hk : s.session.resolve (.showing s.profile.filtered 0) = .ok k?)
    (hw : s.workload = .ok w) :
    ∃ report, ∃ added : List Record, Tells s k? w report ∧ (added.map Record.fields).Perm (texts s k? w) ∧
      (threads ≤ 1 → added.map Record.fields = texts s k? w) ∧
      run build threads s clock = (.ok report, s.output.format.lines clock added.zipIdx) := by
  obtain ⟨h₁, c₁, hopen, ha₁, ho₁, hl₁⟩ := opening_run (.stream (blank s clock)) hp hk
  obtain ⟨e₁, he₁, hs₁⟩ := ha₁.exporter
  have hgroup := Settings.group_of_workload hw
  obtain ⟨e, h₂, added, hs, hreplay, ha₂, hperm, horder, hcount⟩ := replay_run ha₁ hsound hbuilt hgroup
  have hstream : c₁.outlet.writeAll added = .stream { blank s clock with
      lines := (s.output.format.lines clock added.zipIdx).toArray, written := added.length } := by
    rw [ho₁, Sink.Outlet.writeAll_stream rfl, blank]
    simp [Sink.Stream.handed]
  obtain ⟨h₃, d, hclose, hd, hod⟩ := closing_run (s := s) ha₂ hstream rfl
  let report : Report := {
    keyword := k?.filter fun _ => s.session.listening, enabled := e₁.registry.enabled
    stats := w.tally e h₁.sink, written := added.length }
  have hrun : parts build threads s (started (.stream (blank s clock))) = (.ok report, h₃) := by
    rw [parts, Part.bind_of_ok hopen]
    dsimp only
    rw [Part.bind_of_ok (Part.result_of_ok hw), Part.bind_of_ok (exporter_run he₁), Part.bind_of_ok hreplay,
      Part.bind_of_ok hclose]
    rfl
  have hsilent (hl : h₁.sink.listening = false) : inForce s k? = 0 := by
    rw [ha₁.sink] at hl
    rw [inForce, ← hl₁, show c₁.listening = false from hl]
    rfl
  have htally := hs.tally hsilent hgroup
  have hnames := ((Profile.check_eq_ok_iff _).1 hp).2.2
  rw [hs.texts hsilent hgroup] at hperm horder
  refine ⟨report, added, ?_, hperm, horder, ?_⟩
  · refine ⟨?_, ?_, congrArg (·.offered) htally, congrArg (·.exported) htally,
      congrArg (·.completeEnds) htally, hcount, rfl⟩
    · show (k?.filter fun _ => s.session.listening) = _
      cases s.session.listening <;> cases k? <;> rfl
    · show e₁.registry.enabled = _
      rw [hs₁.registry, Registry.enabled_showing hnames]
  · rw [run_of_parts hrun hd hod, List.toList_toArray]

/-- A run gives a report if it is ready, and otherwise no lines. -/
theorem run_cases (hsound : build.Sound) (hbuilt : build.Builds threads) (s : Settings) (clock : Nat → String) :
    (¬ Ready s ∧ ∃ fault, run build threads s clock = (.error fault, [])) ∨
    (Ready s ∧ ∃ registry k? w report, ∃ added : List Record, Registry.ofNames s.profile.filtered = .ok registry ∧
      s.session.resolve registry = .ok k? ∧ s.workload = .ok w ∧ Tells s k? w report ∧
      (added.map Record.fields).Perm (texts s k? w) ∧ (threads ≤ 1 → added.map Record.fields = texts s k? w) ∧
      run build threads s clock = (.ok report, s.output.format.lines clock added.zipIdx)) := by
  have hevents := Settings.workload_ok_iff s
  cases hp : s.profile.check with
  | error fault =>
    refine .inl ⟨fun hready => ?_, _, run_of_bad_profile hp⟩
    rw [hready.1] at hp
    cases hp
  | ok =>
    have hnames := Profile.ofNames_of_check hp
    cases hk : s.session.resolve (.showing s.profile.filtered 0) with
    | error fault =>
      refine .inl ⟨?_, _, run_of_bad_keyword hp hk⟩
      rintro ⟨-, ⟨registry, k?, hregistry, hresolve⟩, -⟩
      rw [hnames] at hregistry
      cases hregistry
      rw [hk] at hresolve
      cases hresolve
    | ok k? =>
      cases hw : s.workload with
      | error fault =>
        refine .inl ⟨?_, _, run_of_bad_event hp hk hw⟩
        rintro ⟨-, -, hentries⟩
        obtain ⟨w, hw'⟩ := hevents.2 hentries
        rw [hw] at hw'
        cases hw'
      | ok w =>
        obtain ⟨report, added, htells, hperm, horder, hrun⟩ := run_of_ready clock hsound hbuilt hp hk hw
        exact .inr ⟨⟨hp, ⟨_, k?, hnames, hk⟩, hevents.1 ⟨w, hw⟩⟩, _, k?, w, report, added, hnames, hk, rfl,
          htells, hperm, horder, hrun⟩

/-- A run that is ready but has no workers gives their fault and no lines. -/
theorem run_of_ready_unbuilt (hready : Ready s) {causes : List String}
    (hbuild : build (max threads 1) = .error causes) :
    run build threads s clock = (.error (.pool ⟨causes⟩), []) := by
  obtain ⟨hp, ⟨registry, k?, hregistry, hk⟩, hentries⟩ := hready
  obtain ⟨w, hw⟩ := (Settings.workload_ok_iff s).2 hentries
  rw [Profile.ofNames_of_check hp] at hregistry
  cases hregistry
  exact run_of_unbuilt hp hk hw hbuild

end

end Session

/-! ## Sessions whose output takes everything -/

namespace CommandLine

variable {σ File : Type} {sys : System (StateM σ) File} {content : File → σ → String} {threads : Nat}

/-- A system that makes every file that it is asked for, and takes every text for a file, where
`content` is what files hold. -/
structure System.Willing (sys : System (StateM σ) File) (content : File → σ → String) : Prop where
  create : ∀ path state, ∃ file state', sys.create path state = (.ok file, state') ∧ content file state' = ""
  append : ∀ file, Sink.Device.Takes (sys.append file) (content file)
  clock : ∀ format state, (sys.clock format state).2 = state

/-- Whether a session that leaves a state and goes on to the standard output has put out a text. -/
def PutsOut (sys : System (StateM σ) File) (content : File → σ → String) (s : Settings) (state state' : σ)
    (out text : String) : Prop :=
  match s.output.path with
  | some path => out = "" ∧ ∃ file made, sys.create path state = (.ok file, made) ∧ content file state' = text
  | none => out = text

/-- The lines of a session reach its output, all of them. -/
theorem session_run (hsys : sys.Willing content) (threads : Nat) (s : Settings) (state : σ) :
    ∃ made out state', let clock := (sys.clock s.output.format made).1
      session sys threads s state =
        (((Session.run sys.pools threads s clock).1.mapError .session, out), state') ∧
      PutsOut sys content s state state' out (String.join (Session.run sys.pools threads s clock).2) := by
  unfold PutsOut
  cases hpath : s.output.path with
  | none =>
    refine ⟨state, String.join _, (sys.clock s.output.format state).2, ?_, rfl⟩
    simp only [session, hpath]
    rfl
  | some path =>
    obtain ⟨file, made, hcreate, hempty⟩ := hsys.create path state
    let clock := (sys.clock s.output.format made).1
    have hclock : sys.clock s.output.format made = (clock, made) := Prod.ext rfl (hsys.clock s.output.format made)
    let ran := Session.run sys.pools threads s clock
    obtain ⟨state', hdeliver, hcontent⟩ := Sink.deliver_run (hsys.append file) (ran.2.map s.output.format.parts) made
    have hjoin : (ran.2.map s.output.format.parts).map String.join = ran.2 := by
      rw [List.map_map]
      exact (List.map_congr_left fun line _ => s.output.format.join_parts line).trans (List.map_id _)
    refine ⟨made, "", state', ?_, rfl, file, made, hcreate, ?_⟩
    · have hsettled : settled 0 (.ok ()) ran.1 = ran.1 := by cases ran.1 <;> rfl
      simp only [session, hpath]
      rw [Sink.bind_state hcreate]
      dsimp only
      rw [Sink.bind_state hclock, Sink.bind_state hdeliver]
      dsimp only
      rw [hsettled]
      rfl
    · rw [hcontent, hjoin, hempty, String.empty_append]

/-- A session for which no pool can be built fails for that if it is ready, and puts nothing out. -/
theorem session_unbuilt (hsys : sys.Willing content) {s : Settings} (hready : Session.Ready s) {causes : List String}
    (hbuild : sys.pools (max threads 1) = .error causes) (state : σ) :
    ∃ out state', session sys threads s state = ((.error (.session (.pool ⟨causes⟩)), out), state') ∧
      PutsOut sys content s state state' out "" := by
  obtain ⟨made, out, state', hresult, hout⟩ := session_run hsys threads s state
  rw [Session.run_of_ready_unbuilt hready hbuild] at hresult hout
  exact ⟨out, state', hresult, hout⟩

end CommandLine

end TraceExport
