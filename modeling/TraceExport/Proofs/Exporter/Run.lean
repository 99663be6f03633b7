/-
Runs of a host over a controlled sink: what a script leaves, what a callback changes on the way, and
where the exporters come from that are alive after it.
-/
import TraceExport.Proofs.Exporter.Sound

namespace TraceExport

namespace Host

variable {h : Host} {c : Sink.Controlled}

/-! ## Runs -/

/-- The host after a script. -/
def after (h : Host) (ops : List Op) : Host := ops.foldl (fun h op => (h.run op).2) h

/-- The steps of a script go on from the host after its first part. -/
theorem runScript_append (h : Host) (ops later : List Op) :
    h.runScript (ops ++ later) = h.runScript ops ++ (h.after ops).runScript later := by
  induction ops generalizing h with
  | nil => rfl
  | cons op ops ih => exact congrArg _ (ih _)

theorem length_runScript (h : Host) (ops : List Op) : (h.runScript ops).length = ops.length := by
  induction ops generalizing h with
  | nil => rfl
  | cons op ops ih => exact congrArg (· + 1) (ih _)

theorem after_append (h : Host) (ops later : List Op) : h.after (ops ++ later) = (h.after ops).after later :=
  List.foldl_append

theorem Sound.after (hs : h.Sound c) (ops : List Op) : ∃ d, (h.after ops).Sound d := by
  induction ops generalizing h c with
  | nil => exact ⟨c, hs⟩
  | cons op ops ih =>
    obtain ⟨d, hd⟩ := hs.run op
    exact ih hd

/-! ## What callbacks change -/

theorem called_frame (h : Host) (k : Keyword) (callback : Sink.Callback) :
    (h.called k callback).sink = h.sink ∧ (h.called k callback).names = h.names ∧
      (h.called k callback).next = h.next := by
  cases callback with
  | idle => exact ⟨rfl, rfl, rfl⟩
  | exporter id =>
    simp only [called]
    split
    · split <;> exact ⟨rfl, rfl, rfl⟩
    · exact ⟨rfl, rfl, rfl⟩

/-- A callback updates the exporter that it is of, if that is registered. -/
theorem exporter?_called (h : Host) (k : Keyword) (callback : Sink.Callback) (id : Nat) :
    (h.called k callback).exporter? id = (h.exporter? id).map fun e =>
      if callback = .exporter id ∧ e.lifecycle.isRegistered = true then e.updated k else e := by
  cases callback with
  | idle => simp [called]
  | exporter j =>
    simp only [called, Sink.Callback.exporter.injEq]
    by_cases hj : j = id
    · subst hj
      cases he : h.exporter? j with
      | none => simp [he]
      | some e =>
        cases hr : e.lifecycle.isRegistered with
        | false => simp [he, hr]
        | true => simp [exporter?_put, he, hr]
    · have hput (e : Exporter) : (h.put j e).exporter? id = h.exporter? id := by
        rw [exporter?_put, if_neg (Ne.symm hj)]
      simp only [hj, false_and, if_false, Option.map_id']
      split
      · split
        · exact hput _
        · rfl
      · rfl

theorem notified_called (h : Host) (d : Sink.Controlled) : (h.notified d).2 =
    match d.seat.installed with
    | none => { h with sink := .controlled d }
    | some p => { h with sink := .controlled d.counted }.called d.keyword p.2 := by
  unfold notified
  cases d.seat.installed with
  | none => rfl
  | some p => exact deliver_called (c := d.counted) rfl p.2

/-! ## Where exporters come from -/

theorem runCall_next (hc : h.sink = .controlled c) (id : Nat) (e : Exporter) (call : Call) :
    (h.runCall id e call).2.next = h.next := by
  cases call with
  | sync =>
    simp only [runCall]
    split
    · rw [sync_eq]; rfl
    · rfl
  | notified =>
    show (h.deliver (.exporter id)).2.next = h.next
    rw [deliver_called hc]
    exact (called_frame ..).2.2
  | unregister =>
    rw [runCall_unregister hc]
    split <;> rfl
  | _ => rfl

/-- Only a registration that succeeds gives out a number. -/
theorem run_next (hs : h.Sound c) (op : Op) : (h.run op).2.next = h.next ∨
    (h.run op).2.next = h.next + 1 ∧ (h.run op).1 = .done ∧
      ∃ name setup profile, op = .register name setup profile := by
  have hnotified (d : Sink.Controlled) : (h.notified d).2.next = h.next := by
    rw [notified_called]
    split
    · rfl
    · exact (called_frame ..).2.2
  cases op with
  | enable k =>
    rw [run_enable hs.sink]
    exact .inl (hnotified _)
  | disable =>
    rw [run_disable hs.sink]
    exact .inl (hnotified _)
  | sinkRegister =>
    rw [run_sinkRegister hs.sink]
    refine .inl ?_
    split
    · rfl
    · split <;> rfl
  | sinkUnregister n =>
    rw [run_sinkUnregister hs.sink]
    exact .inl rfl
  | write r => exact .inl rfl
  | fire times => exact .inl (by rw [run_of_isManual hs.sink rfl])
  | failRegister on => exact .inl (by rw [run_of_isManual hs.sink rfl])
  | failUnregister on => exact .inl (by rw [run_of_isManual hs.sink rfl])
  | breakStream on =>
    refine .inl ?_
    simp only [Host.run, adjust]
    split <;> rfl
  | flush =>
    refine .inl ?_
    simp only [Host.run]
    split <;> rfl
  | register name setup profile =>
    rw [run_register hs.sink (hs.fresh h.next (Nat.le_refl _))]
    split
    · exact .inl rfl
    · exact .inl rfl
    · refine .inr ⟨?_, rfl, name, setup, profile, rfl⟩
      unfold welcomed
      split <;> rfl
  | drop name =>
    rw [run_drop hs.sink]
    split <;> exact .inl rfl
  | call name call =>
    refine .inl ?_
    simp only [Host.run]
    split
    · rfl
    · split
      · rfl
      · exact runCall_next hs.sink ..

/-- Every exporter that is alive was registered by one step of the run. -/
theorem exists_registration (hs : h.Sound c) (ops : List Op) {id : Nat} {e : Exporter} (hle : h.next ≤ id)
    (he : (h.after ops).exporter? id = some e) :
    ∃ before name setup profile later, ops = before ++ .register name setup profile :: later ∧
      (h.after before).next = id ∧ ((h.after before).run (.register name setup profile)).1 = .done := by
  induction ops generalizing h c with
  | nil =>
    change h.exporter? id = some e at he
    rw [hs.fresh id hle] at he
    cases he
  | cons op ops ih =>
    obtain ⟨d, hd⟩ := hs.run op
    have hlater (hle' : (h.run op).2.next ≤ id) : ∃ before name setup profile later,
        op :: ops = before ++ .register name setup profile :: later ∧ (h.after before).next = id ∧
          ((h.after before).run (.register name setup profile)).1 = .done := by
      obtain ⟨before, name, setup, profile, later, rfl, hid, hdone⟩ := ih hd hle' he
      exact ⟨op :: before, name, setup, profile, later, rfl, hid, hdone⟩
    -- the number was given out by this operation or is still to come
    rcases run_next hs op with hn | ⟨hn, hdone, name, setup, profile, rfl⟩
    · exact hlater (hn ▸ hle)
    · by_cases hid : h.next = id
      · exact ⟨[], name, setup, profile, ops, rfl, hid, hdone⟩
      · exact hlater (by omega)

end Host

end TraceExport
