/-
Streams that break. Nothing but the stream itself knows that it is broken, so a script in which it
breaks and is mended goes on as the script in which it does not, except for what flushing replies.
Every record that is handed to the sink is either written or counted as lost, as the stream is at that
moment, and what has been written are the lines of the records that are not lost, each of them whole.
-/
import TraceExport.Proofs.Exporter.Outlet
import TraceExport.Proofs.Exporter.Run

namespace TraceExport

namespace Sink

/-! ## Accounts of a stream -/

/-- A record that is handed to a stream, and whether the stream is broken then. -/
structure Handover where
  record : Record
  broken : Bool

/-- The records that are handed to a stream while it works, each with its place among all of them. -/
def kept (hs : List Handover) : List (Record × Nat) :=
  (hs.zipIdx.filter (!·.1.broken)).map fun x => (x.1.record, x.2)

/-- The same records handed to a stream that works. -/
def mended (hs : List Handover) : List Handover := hs.map fun x => ⟨x.record, false⟩

theorem kept_concat (hs : List Handover) (x : Handover) :
    kept (hs ++ [x]) = kept hs ++ if x.broken then [] else [(x.record, hs.length)] := by
  unfold kept
  rw [List.zipIdx_append, List.filter_append, List.map_append]
  cases hx : x.broken <;> simp [hx]

theorem kept_mended (hs : List Handover) : kept (mended hs) = (hs.map (·.record)).zipIdx := by
  simp [kept, mended, List.zipIdx_map, List.filter_map, Function.comp_def]

/-- What a stream has to show for the records that were handed to it. -/
structure Stream.Accounts (format : Format) (clock : Nat → String) (hs : List Handover) (s : Stream) : Prop where
  hasFormat : s.format = format
  hasClock : s.clock = clock
  written : s.written = (kept hs).length
  total : s.written + s.lost = hs.length
  lines : s.lines.toList = format.lines clock (kept hs)

variable {format : Format} {clock : Nat → String} {hs : List Handover} {s : Stream}

theorem Stream.Accounts.write (ha : s.Accounts format clock hs) (r : Record) :
    (s.write r).Accounts format clock (hs ++ [⟨r, s.broken⟩]) := by
  obtain ⟨rfl, rfl, hw, ht, hl⟩ := ha
  unfold Stream.write
  cases hb : s.broken with
  | true =>
    have hk : kept (hs ++ [⟨r, true⟩]) = kept hs := by rw [kept_concat, if_pos rfl, List.append_nil]
    refine ⟨rfl, rfl, ?_, ?_, ?_⟩
    · rw [hk]
      exact hw
    · simp only [if_true, List.length_append, List.length_singleton]
      omega
    · rw [hk]
      exact hl
  | false =>
    -- the clock is asked for the record behind all that were handed over
    have hk : kept (hs ++ [⟨r, false⟩]) = kept hs ++ [(r, s.handed)] := by
      rw [kept_concat, if_neg Bool.false_ne_true, Stream.handed, ht]
    refine ⟨rfl, rfl, ?_, ?_, ?_⟩
    · simp [hk, hw]
    · simp only [Bool.false_eq_true, if_false, List.length_append, List.length_singleton]
      omega
    · simp [hk, hl, Format.lines]

theorem Stream.write_broken (s : Stream) (r : Record) : (s.write r).broken = s.broken := by
  unfold Stream.write
  split <;> rfl

/-- All records of one operation find the stream as it is. -/
theorem Stream.Accounts.writeAll (ha : s.Accounts format clock hs) (rs : List Record) :
    ∃ s', (Outlet.stream s).writeAll rs = .stream s' ∧ s'.broken = s.broken ∧
      s'.Accounts format clock (hs ++ rs.map (⟨·, s.broken⟩)) := by
  induction rs generalizing s hs with
  | nil => exact ⟨s, rfl, rfl, by simpa using ha⟩
  | cons r rs ih =>
    obtain ⟨s', hs', hb, ha'⟩ := ih (ha.write r)
    refine ⟨s', hs', hb.trans (s.write_broken r), ?_⟩
    simpa [s.write_broken r] using ha'

theorem Stream.Accounts.switch (ha : s.Accounts format clock hs) (on : Bool) :
    ({ s with broken := on } : Stream).Accounts format clock hs :=
  ⟨ha.hasFormat, ha.hasClock, ha.written, ha.total, ha.lines⟩

end Sink

namespace Host

variable {h g : Host} {a b : Sink.Outlet} {s t : Sink.Stream}

/-! ## Switches -/

/-- Whether an operation breaks the stream or mends it. -/
def Op.isSwitch : Op → Bool
  | .breakStream _ => true
  | _ => false

/-- Whether the stream is broken after an operation, by whether it is before. -/
def Op.breaks (broken : Bool) : Op → Bool
  | .breakStream on => on
  | _ => broken

/-- The operations that do not break the stream or mend it. -/
def steady (ops : List Op) : List Op := ops.filter (!·.isSwitch)

/-- The records that a script hands to the sink, on a stream that is broken from the start or not. -/
def handovers (h : Host) (broken : Bool) : List Op → List Sink.Handover
  | [] => []
  | op :: ops => (h.handed op).map (⟨·, broken⟩) ++ (h.run op).2.handovers (op.breaks broken) ops

theorem Paired.handed (hp : Paired a b h g) (op : Op) : g.handed op = h.handed op := by
  obtain ⟨c, hs, rfl⟩ := hp
  cases op with
  | call name call => cases call <;> simp only [Host.handed, Call.handed, Exporter.isActive, Sink.listening, hs] <;> rfl
  | _ => rfl

theorem Paired.switch (hp : Paired (.stream s) b h g) (on : Bool) :
    Paired (.stream { s with broken := on }) b (h.run (.breakStream on)).2 g := by
  obtain ⟨c, hs, rfl⟩ := hp
  simp only [Host.run, hs, Sink.breakStream?, adjust]
  exact ⟨c, rfl, rfl⟩

theorem run_flush (h : Host) : (h.run .flush).2 = h := by
  simp only [run]
  split <;> rfl

/-! ## A stream that breaks beside one that does not -/

/-- Two hosts after one script, with the switches of the stream and without. -/
structure Weathers (format : Sink.Format) (clock : Nat → String) (broken : Bool) (hs : List Sink.Handover)
    (s t : Sink.Stream) (h g : Host) : Prop where
  paired : Paired (.stream s) (.stream t) h g
  broken : s.broken = broken
  works : t.broken = false
  accounts : s.Accounts format clock hs
  /-- The stream that does not break gets every record. -/
  all : t.Accounts format clock (Sink.mended hs)

variable {format : Sink.Format} {clock : Nat → String} {broken : Bool} {hs : List Sink.Handover}

theorem Weathers.step (hw : Weathers format clock broken hs s t h g) {op : Op} (ho : op.isSwitch = false) :
    (op ≠ .flush → (g.run op).1 = (h.run op).1) ∧
      ∃ s' t', Weathers format clock broken (hs ++ (h.handed op).map (⟨·, broken⟩)) s' t' (h.run op).2 (g.run op).2 := by
  by_cases hf : op = .flush
  · subst hf
    refine ⟨fun hne => absurd rfl hne, s, t, ?_⟩
    simpa [Host.handed, run_flush] using hw
  have hshared : op.isShared = true := by
    cases op with
    | breakStream on => cases ho
    | flush => exact absurd rfl hf
    | _ => rfl
  obtain ⟨hp, rfl, hwork, ha, hall⟩ := hw
  obtain ⟨r, h', g', hx, hy, hp'⟩ := hp.run hshared
  obtain ⟨s', hs', hb', ha'⟩ := ha.writeAll (h.handed op)
  obtain ⟨t', ht', hbt, hall'⟩ := hall.writeAll (h.handed op)
  rw [hx, hy]
  rw [hs', ht'] at hp'
  refine ⟨fun _ => rfl, s', t', hp', hb', hbt.trans hwork, ha', ?_⟩
  simpa [Sink.mended, hwork, Function.comp_def] using hall'

theorem Weathers.switch (hw : Weathers format clock broken hs s t h g) (on : Bool) :
    Weathers format clock on hs { s with broken := on } t (h.run (.breakStream on)).2 g :=
  ⟨hw.paired.switch on, rfl, hw.works, hw.accounts.switch on, hw.all⟩

/-- Two hosts that are alike in everything but the stream. -/
structure SameBeyondStream (h g : Host) : Prop where
  exporters : g.exporters = h.exporters
  names : g.names = h.names
  keyword : g.sink.keyword = h.sink.keyword
  listening : g.sink.listening = h.sink.listening

theorem Paired.sameBeyondStream (hp : Paired a b h g) : SameBeyondStream h g := by
  obtain ⟨c, hs, rfl⟩ := hp
  exact ⟨rfl, rfl, by rw [hs]; rfl, by rw [hs]; rfl⟩

/-! ## Scripts -/

/-- What an operation of a script does alike with the switches of the stream and without. -/
structure Unaffected (x y : Op × Step) : Prop where
  op : y.1 = x.1
  reply : x.1 ≠ .flush → y.2.reply = x.2.reply
  after : SameBeyondStream x.2.after y.2.after

/-- A script and what remains of it without the switches go side by side. -/
theorem Weathers.script (hw : Weathers format clock broken hs s t h g) (ops : List Op) :
    List.Forall₂ Unaffected ((ops.zip (h.runScript ops)).filter (!·.1.isSwitch))
      ((steady ops).zip (g.runScript (steady ops))) ∧
    ∃ s' t' broken', Weathers format clock broken' (hs ++ h.handovers broken ops) s' t' (h.after ops)
      (g.after (steady ops)) := by
  induction ops generalizing h g s t broken hs with
  | nil => exact ⟨.nil, s, t, broken, by simpa [handovers, Host.after, steady] using hw⟩
  | cons op ops ih =>
    cases ho : op.isSwitch with
    | true =>
      -- the switch is not there in the second script, and its host waits
      obtain ⟨on, rfl⟩ : ∃ on, op = .breakStream on := by
        cases op with
        | breakStream on => exact ⟨on, rfl⟩
        | _ => cases ho
      exact ih (hw.switch on)
    | false =>
      obtain ⟨hr, s', t', hw'⟩ := hw.step ho
      obtain ⟨hsteps, hrest⟩ := ih hw'
      have hsteady : steady (op :: ops) = op :: steady ops := by simp [steady, ho]
      have hbreaks : op.breaks broken = broken := by
        cases op with
        | breakStream on => cases ho
        | _ => rfl
      rw [hsteady]
      constructor
      · simp only [Host.runScript, List.zip_cons_cons, List.filter_cons, ho]
        exact .cons ⟨rfl, hr, hw'.paired.sameBeyondStream⟩ hsteps
      · simpa [handovers, hbreaks, Host.after] using hrest

/-- Losses are counted and leave no trace. A script on a new stream replies and leaves its exporters as
it does without the switches of the stream, but for the flushes. Each record that it hands over is
counted once, as written or as lost, and the lines are those of the records handed over while the
stream worked, each of them whole and with the time of its record; without the switches they are those
of all the records. -/
theorem losses_accounted (format : Sink.Format) (clock : Nat → String) (ops : List Op) :
    let start : Host := { sink := .stream format clock }
    let hs := start.handovers false ops
    List.Forall₂ Unaffected ((ops.zip (start.runScript ops)).filter (!·.1.isSwitch))
      ((steady ops).zip (start.runScript (steady ops))) ∧
    SameBeyondStream (start.after ops) (start.after (steady ops)) ∧
    (∃ s, (start.after ops).sink.stream? = some s ∧ s.written + s.lost = hs.length ∧
      s.written = (Sink.kept hs).length ∧ s.lines.toList = format.lines clock (Sink.kept hs) ∧
      List.Forall₂ (fun x line => format.IsLine (clock x.2) x.1 line) (Sink.kept hs) s.lines.toList) ∧
    ∃ t, (start.after (steady ops)).sink.stream? = some t ∧ t.lost = 0 ∧
      t.lines.toList = format.lines clock (hs.map (·.record)).zipIdx ∧
      List.Forall₂ (fun x line => format.IsLine (clock x.2) x.1 line) (hs.map (·.record)).zipIdx t.lines.toList := by
  intro start hs
  let new : Sink.Stream := { format, clock }
  have hnew : new.Accounts format clock [] := ⟨rfl, rfl, rfl, rfl, rfl⟩
  have hstart : Weathers format clock false [] new new start start :=
    ⟨⟨{ outlet := .stream new }, rfl, rfl⟩, rfl, rfl, hnew, hnew⟩
  obtain ⟨hsteps, s, t, broken, hw⟩ := hstart.script ops
  rw [List.nil_append] at hw
  obtain ⟨c, hc, hg⟩ := hw.paired
  have hall : t.lines.toList = format.lines clock (hs.map (·.record)).zipIdx := by
    rw [hw.all.lines, Sink.kept_mended]
  refine ⟨hsteps, hw.paired.sameBeyondStream, ⟨s, ?_, hw.accounts.total, hw.accounts.written, hw.accounts.lines, ?_⟩,
    t, ?_, ?_, hall, ?_⟩
  · rw [hc]
    rfl
  · rw [hw.accounts.lines]
    exact format.forall₂_lines clock (Sink.kept hs)
  · rw [hg]
    rfl
  · have hwritten := hw.all.written
    have htotal := hw.all.total
    rw [Sink.kept_mended, List.length_zipIdx, List.length_map] at hwritten
    rw [Sink.mended, List.length_map] at htotal
    omega
  · rw [hall]
    exact format.forall₂_lines clock (hs.map (·.record)).zipIdx

end Host

end TraceExport
