/-
What the parts of a session do. From its registration on the exporter of a session is the provider of
the sink and goes by the sink's keyword; each part leaves it so, up to the one that unregisters it.
-/
import TraceExport.Proofs.Exporter.Outlet
import TraceExport.Proofs.Registry.Check
import TraceExport.Proofs.Registry.Selection
import TraceExport.Proofs.Workload.Replay
import TraceExport.Session

namespace TraceExport

theorem Sink.foldl_write_controlled (c : Sink.Controlled) (rs : List Record) :
    rs.foldl Sink.write (.controlled c) = .controlled { c with outlet := c.outlet.writeAll rs } := by
  induction rs generalizing c with
  | nil => rfl
  | cons r rs ih => exact ih { c with outlet := c.outlet.write r }

namespace Session

variable {p : Profile} {k k' : Keyword} {e : Exporter} {h h' : Host} {c d : Sink.Controlled}

/-! ## Parts one after the other -/

namespace Part

variable {α β : Type} {x : Part α} {f : α → Part β}

theorem bind_of_ok {a : α} (hx : x h = (.ok a, h')) : (x >>= f) h = f a h' := by
  show ExceptT.bindCont f (x h).1 (x h).2 = _
  rw [hx]
  rfl

theorem bind_of_error {fault : Fault} (hx : x h = (.error fault, h')) :
    (x >>= f) h = (.error fault, h') := by
  show ExceptT.bindCont f (x h).1 (x h).2 = _
  rw [hx]
  rfl

/-- A part that is left out under a condition. -/
theorem bind_if {b : Bool} {x : Part Unit} {f : Unit → Part β} (hx : if b then x h = (.ok (), h') else h' = h) :
    (if b then x >>= f else f ()) h = f () h' := by
  cases b with
  | true => exact bind_of_ok hx
  | false => exact congrArg (f ()) hx.symm

theorem result_of_ok {ε : Type} {fault : ε → Fault} {r : Except ε α} {a : α} (hr : r = .ok a) :
    result fault r h = (.ok a, h) := by
  rw [hr]
  rfl

theorem result_of_error {ε : Type} {fault : ε → Fault} {r : Except ε α} {error : ε} (hr : r = .error error) :
    result fault r h = (.error (fault error), h) := by
  rw [hr]
  rfl

theorem discard_of_ok {a : α} (hx : x h = (.ok a, h')) : (discard x) h = (.ok (), h') :=
  bind_of_ok hx

end Part

/-! ## The exporter of a session -/

/-- An exporter that was registered with a profile under the first handle, and has applied a keyword.
Its observer does not panic. -/
structure Serves (p : Profile) (k : Keyword) (e : Exporter) : Prop where
  profile : e.profile = p
  registry : e.registry = .showing p.filtered k
  lifecycle : e.lifecycle = .registered 1
  observer : e.observer = some .returning

theorem Serves.isRegistered (hs : Serves p k e) : e.lifecycle.isRegistered = true := by
  rw [hs.lifecycle]
  rfl

theorem Serves.updated (hs : Serves p k e) (k' : Keyword) : Serves p k' (e.updated k') := by
  refine ⟨hs.profile, ?_, hs.lifecycle, hs.observer⟩
  rw [Exporter.updated_registry, hs.registry, Registry.apply_showing]

theorem Serves.outcome (hs : Serves p k e) (k' : Keyword) :
    e.outcome k' = .ok (e.registry.apply k').1 := by
  rw [Exporter.outcome, hs.observer, if_neg]
  rintro ⟨-, hp⟩
  cases hp

/-- A host whose sink has such an exporter as its provider. -/
structure Attended (p : Profile) (k : Keyword) (h : Host) (c : Sink.Controlled) : Prop where
  sink : h.sink = .controlled c
  seat : c.seat.installed = some (1, .exporter 0)
  exporter : ∃ e, h.exporter? 0 = some e ∧ Serves p k e

theorem Attended.put (ha : Attended p k h c) (hs : Serves p k' e) (hd : d.seat.installed = c.seat.installed) :
    Attended p k' { h.put 0 e with sink := .controlled d } d := by
  obtain ⟨old, hold, -⟩ := ha.exporter
  refine ⟨rfl, hd.trans ha.seat, e, ?_, hs⟩
  show (h.put 0 e).exporter? 0 = some e
  rw [Host.exporter?_put, if_pos rfl, hold]
  rfl

/-! ## What each part does -/

/-- The host that a session begins with. -/
def started (outlet : Sink.Outlet) : Host := { sink := .controlled { outlet } }

theorem register_run (outlet : Sink.Outlet) (hp : p.check = .ok ()) :
    ∃ h' c, Part.attempt .register (fun h => h.register (.observed .returning) p) (started outlet) = (.ok 0, h') ∧
      Attended p 0 h' c ∧ c.outlet = outlet ∧ c.keyword = 0 ∧ c.listening = false := by
  let c : Sink.Controlled := { outlet }
  have haccept : c.accept p = .ok (.ok (.showing p.filtered 0)) := by
    simp only [Sink.Controlled.accept, hp, Profile.ofNames_of_check hp]
    rfl
  have hreg := Host.register_controlled (h := started outlet) (c := c) rfl rfl (.observed .returning) p
  rw [haccept] at hreg
  refine ⟨(started outlet).joined c (.observed .returning) p (.showing p.filtered 0),
    c.withProvider (.exporter 0), ?_, ?_, rfl, rfl, rfl⟩
  · rw [Part.attempt, hreg]
    rfl
  · exact ⟨rfl, rfl, _, rfl, rfl, rfl, rfl, rfl⟩

theorem register_run_of_bad {fault : Failure} (hp : p.check = .error fault) :
    Part.attempt .register (fun h => h.register (.observed .returning) p) h = (.error (.register fault), h) := by
  simp only [Part.attempt, Host.register, hp]

theorem exporter_run (he : h.exporter? 0 = some e) : Part.exporter 0 h = (.ok e, h) := by
  have hget : (get : Part Host) h = (.ok h, h) := rfl
  rw [Part.exporter, Part.bind_of_ok hget, he]
  rfl

theorem sync_run (ha : Attended p k h c) :
    ∃ h', discard (Part.sync 0) h = (.ok (), h') ∧ Attended p c.keyword h' c := by
  obtain ⟨e, he, hs⟩ := ha.exporter
  refine ⟨{ h.put 0 (e.updated c.keyword) with sink := .controlled c }, ?_, ha.put (hs.updated c.keyword) rfl⟩
  have hsync : Part.sync 0 h = (.ok (e.registry.apply c.keyword).1,
      { h.put 0 (e.updated c.keyword) with sink := .controlled c }) := by
    rw [Part.sync, Part.bind_of_ok (exporter_run he), Part.guarded, Host.sync_eq, ha.sink]
    simp only [Sink.keyword, hs.outcome]
    rfl
  exact Part.discard_of_ok hsync

/-- A session that starts or ends takes the exporter along. -/
theorem exchange_run (ha : Attended p k h c) {f : Sink → Sink.Exchange Unit} (hf : f h.sink = d.notify)
    (hd : d.seat = c.seat) :
    ∃ h', Part.exchange f h = (.ok (), h') ∧ Attended p d.keyword h' d.counted := by
  obtain ⟨e, he, hs⟩ := ha.exporter
  have hx := Sink.Controlled.notify_of_taken (hd ▸ ha.seat)
  refine ⟨{ h.put 0 (e.updated d.keyword) with sink := .controlled d.counted }, ?_, ?_⟩
  · have hdeliver := Host.deliver_of_registered (h := { h with sink := .controlled d.counted }) he hs.isRegistered
    rw [hs.outcome] at hdeliver
    rw [Part.exchange, Part.guarded, hf, hx, Host.settle_single _ rfl, hdeliver]
    rfl
  · exact ha.put (hs.updated d.keyword) (show d.seat.installed = c.seat.installed by rw [hd])

theorem exchange_if_run (ha : Attended p k h c) (b : Bool) {f : Sink → Sink.Exchange Unit} (hf : f h.sink = d.notify)
    (hd : d.seat = c.seat) :
    ∃ h' c', (if b then Part.exchange f h = (.ok (), h') else h' = h) ∧
      Attended p (if b then d.keyword else k) h' c' ∧ c' = if b then d.counted else c := by
  cases b with
  | false => exact ⟨h, c, rfl, ha, rfl⟩
  | true =>
    obtain ⟨h', hx, ha'⟩ := exchange_run ha hf hd
    exact ⟨h', d.counted, hx, ha', rfl⟩

variable {build : Workload.PoolBuilder} {threads : Nat}

/-- A replay puts the records that are called for on the outlet. -/
theorem replay_run (ha : Attended p k h c) (hsound : build.Sound) (hbuilt : build.Builds threads) {w : Workload}
    (hw : ∀ ev ∈ w, ev.group ≠ "") :
    ∃ e h' added, Serves p k e ∧ Part.replay build threads 0 w h = (.ok (w.tally e h.sink), h') ∧
      Attended p k h' { c with outlet := c.outlet.writeAll added } ∧
      (added.map Record.fields).Perm (w.texts e h.sink) ∧
      (threads ≤ 1 → added.map Record.fields = w.texts e h.sink) ∧
      added.length = (w.tally e h.sink).exported + (w.tally e h.sink).completeEnds := by
  obtain ⟨e, he, hs⟩ := ha.exporter
  obtain ⟨now, heq, added, rfl, hperm, horder, hcount, -⟩ := Workload.run_of_builds hsound hbuilt hw e h.sink
  refine ⟨e, { h with sink := added.foldl Sink.write h.sink }, added, hs, ?_, ?_, hperm, horder, hcount⟩
  · rw [Part.replay, Part.bind_of_ok (exporter_run he), Part.attempt, heq]
  · refine ⟨?_, ha.seat, e, he, hs⟩
    rw [ha.sink, Sink.foldl_write_controlled]

theorem replay_run_of_unbuilt (ha : Attended p k h c) {causes : List String}
    (hbuild : build (max threads 1) = .error causes) (w : Workload) :
    Part.replay build threads 0 w h = (.error (.pool ⟨causes⟩), h) := by
  obtain ⟨e, he, -⟩ := ha.exporter
  rw [Part.replay, Part.bind_of_ok (exporter_run he), Part.attempt, Workload.run_of_unbuilt hbuild w e h.sink]

theorem unregister_run (ha : Attended p k h c) :
    ∃ h' d, Part.unregister 0 h = (.ok (), h') ∧ h'.sink = .controlled d ∧ d.outlet = c.outlet := by
  obtain ⟨e, he, hs⟩ := ha.exporter
  let left : Host := { h.put 0 { e with lifecycle := .unregistered } with
    sink := .controlled { c with seat := { c.seat with installed := none } } }
  refine ⟨left, _, ?_, rfl, rfl⟩
  rw [Part.unregister, Part.bind_of_ok (exporter_run he), Part.attempt,
    Host.unregister_controlled ha.sink hs.lifecycle, Provider.Seat.remove_of_installed ha.seat]

theorem stream_run {s : Sink.Stream} (hc : h.sink = .controlled c) (ho : c.outlet = .stream s) (hb : s.broken = false) :
    Part.stream h = (.ok s, h) := by
  have hget : (get : Part Host) h = (.ok h, h) := rfl
  have hs : h.sink.stream? = some s := by
    rw [hc]
    obtain ⟨_, _, _, _, o⟩ := c
    cases ho
    rfl
  rw [Part.stream, Part.bind_of_ok hget, hs]
  simp only [hb]
  rfl

/-! ## The beginning and the end -/

/-- The keyword of a session for which one was resolved. Without a listener it is empty. -/
def inForce (s : Settings) (k? : Option Keyword) : Keyword := if s.session.listening then k?.getD 0 else 0

variable {s : Settings} {k? : Option Keyword}

/-- Once a session has begun, the exporter has applied its keyword. -/
theorem opening_run (outlet : Sink.Outlet) (hp : s.profile.check = .ok ())
    (hk : s.session.resolve (.showing s.profile.filtered 0) = .ok k?) :
    ∃ h c, opening s (started outlet) = (.ok (0, k?), h) ∧ Attended s.profile (inForce s k?) h c ∧
      c.outlet = outlet ∧ c.listening = s.session.listening := by
  obtain ⟨h₁, c₁, hreg, ha₁, ho₁, hk₁, hl₁⟩ := register_run outlet hp
  obtain ⟨e, he, hs⟩ := ha₁.exporter
  have hresolve : s.session.resolve e.registry = .ok k? := by rw [hs.registry, hk]
  have hf : h₁.sink.enable (k?.getD 0) =
      Sink.Controlled.notify { c₁ with keyword := k?.getD 0, listening := true } := by
    rw [ha₁.sink]
    rfl
  obtain ⟨h₂, c₂, henable, ha₂, hc₂⟩ :=
    exchange_if_run (f := (·.enable (k?.getD 0))) ha₁ s.session.listening hf rfl
  have hkeep : c₂.keyword = inForce s k? ∧ c₂.outlet = outlet ∧ c₂.listening = s.session.listening := by
    rw [hc₂, inForce]
    cases s.session.listening with
    | false => exact ⟨hk₁, ho₁, hl₁⟩
    | true => exact ⟨rfl, ho₁, rfl⟩
  obtain ⟨h₃, hsync, ha₃⟩ := sync_run ha₂
  rw [hkeep.1] at ha₃
  refine ⟨h₃, c₂, ?_, ha₃, hkeep.2⟩
  rw [opening, Part.bind_of_ok hreg, Part.bind_of_ok (exporter_run he), Part.bind_of_ok (Part.result_of_ok hresolve)]
  dsimp only
  rw [Part.bind_if henable, Part.bind_of_ok hsync]
  rfl

theorem opening_run_of_bad_profile {fault : Failure} (hp : s.profile.check = .error fault) :
    opening s h = (.error (.register fault), h) := by
  rw [opening, Part.bind_of_error (register_run_of_bad hp)]

theorem opening_run_of_bad_keyword (outlet : Sink.Outlet) (hp : s.profile.check = .ok ())
    {fault : Settings.KeywordFault} (hk : s.session.resolve (.showing s.profile.filtered 0) = .error fault) :
    ∃ h c, opening s (started outlet) = (.error (.keyword fault), h) ∧ h.sink = .controlled c ∧ c.outlet = outlet := by
  obtain ⟨h₁, c₁, hreg, ha₁, ho₁, -⟩ := register_run outlet hp
  obtain ⟨e, he, hs⟩ := ha₁.exporter
  have hresolve : s.session.resolve e.registry = .error fault := by rw [hs.registry, hk]
  refine ⟨h₁, c₁, ?_, ha₁.sink, ho₁⟩
  rw [opening, Part.bind_of_ok hreg, Part.bind_of_ok (exporter_run he),
    Part.bind_of_error (Part.result_of_error hresolve)]

/-- The end of a session leaves what was written as it is. -/
theorem closing_run (ha : Attended p k h c) {o : Sink.Stream} (ho : c.outlet = .stream o) (hb : o.broken = false) :
    ∃ h' d, closing s 0 h = (.ok o, h') ∧ h'.sink = .controlled d ∧ d.outlet = .stream o := by
  have hf : h.sink.disable = Sink.Controlled.notify { c with keyword := 0, listening := false } := by
    rw [ha.sink]
    rfl
  obtain ⟨h₁, c₁, hdisable, ha₁, hc₁⟩ := exchange_if_run (f := (·.disable)) ha s.session.listening hf rfl
  obtain ⟨h₂, d, hunregister, hd, hod⟩ := unregister_run ha₁
  have ho₂ : d.outlet = .stream o := by
    rw [hod, hc₁, ← ho]
    cases s.session.listening <;> rfl
  refine ⟨h₂, d, ?_, hd, ho₂⟩
  rw [closing]
  dsimp only
  rw [Part.bind_if hdisable, Part.bind_of_ok hunregister, stream_run hd ho₂ hb]

end Session

end TraceExport
