/-
Lines that reach their device. Where a device takes every text, no line is lost in the buffer before
it: what the device holds and what the buffer holds back are together what was handed on, and a
flush leaves nothing behind.
-/
import TraceExport.Sink.Buffer
import Mathlib.Tactic

namespace TraceExport.Sink

variable {σ ε : Type} {device : Device (StateM σ) ε} {content : σ → String}

/-- A device that takes every text, after what it holds already. -/
def Device.Takes (device : Device (StateM σ) ε) (content : σ → String) : Prop :=
  ∀ text s, ∃ s', device text s = (.ok (), s') ∧ content s' = content s ++ text

theorem bind_state {α β : Type} {x : StateM σ α} {f : α → StateM σ β} {a : α} {s s' : σ} (h : x s = (a, s')) :
    (x >>= f) s = f a s' := by
  show f (x s).1 (x s).2 = _
  rw [h]

namespace Buffer

theorem bind_buffer {α β : Type} {x : StateT Buffer (StateM σ) α} {f : α → StateT Buffer (StateM σ) β} {a : α}
    {b b' : Buffer} {s s' : σ} (h : x b s = ((a, b'), s')) : (x >>= f) b s = f a b' s' := by
  show f (x b s).1.1 (x b s).1.2 (x b s).2 = _
  rw [h]

theorem bind_of_ok {α β : Type} {x : Action (StateM σ) ε α} {f : α → Action (StateM σ) ε β} {a : α}
    {b b' : Buffer} {s s' : σ} (h : x b s = ((.ok a, b'), s')) : (x >>= f) b s = f a b' s' :=
  bind_buffer (f := ExceptT.bindCont f) h

theorem flush_run (hd : device.Takes content) (b : Buffer) (s : σ) :
    ∃ s', flush device b s = ((.ok (), {}), s') ∧ content s' = content s ++ b.held := by
  obtain ⟨s', hs, hc⟩ := hd b.held s
  have hpass : pass device b.held b s = ((.ok (), b), s') := by
    show (((device b.held s).1, b), (device b.held s).2) = _
    rw [hs]
  have hget : (get : Action (StateM σ) ε Buffer) b s = ((.ok b, b), s) := rfl
  rw [flush, bind_of_ok hget]
  by_cases hb : b.held = ""
  · refine ⟨s, ?_, by rw [hb, String.append_empty]⟩
    rw [if_neg (not_not_intro hb)]
    have : b = {} := by cases b; exact congrArg Buffer.mk hb
    rw [this]
    rfl
  · refine ⟨s', ?_, hc⟩
    rw [if_pos hb, bind_of_ok hpass]
    rfl

/-- A part that goes past the buffer finds it empty. -/
theorem write_run (hd : device.Takes content) (part : String) (b : Buffer) (s : σ) :
    ∃ b' s', write device part b s = ((.ok (), b'), s') ∧
      content s' ++ b'.held = content s ++ b.held ++ part := by
  have hget : (get : Action (StateM σ) ε Buffer) b s = ((.ok b, b), s) := rfl
  have hput (b : Buffer) (s : σ) (hb : part.utf8ByteSize < capacity ∨ b.held = "") :
      ∃ b' s', (if part.utf8ByteSize < capacity then modify fun b => { b with held := b.held ++ part }
        else pass device part : Action (StateM σ) ε Unit) b s = ((.ok (), b'), s') ∧
        content s' ++ b'.held = content s ++ b.held ++ part := by
    by_cases hsize : part.utf8ByteSize < capacity
    · rw [if_pos hsize]
      exact ⟨_, s, rfl, (String.append_assoc ..).symm⟩
    · obtain ⟨s', hs, hc⟩ := hd part s
      have hempty := hb.resolve_left hsize
      rw [if_neg hsize]
      refine ⟨b, s', ?_, by rw [hc, hempty, String.append_empty, String.append_empty]⟩
      show (((device part s).1, b), (device part s).2) = _
      rw [hs]
  dsimp only [write]
  rw [bind_of_ok hget]
  by_cases hfull : part.utf8ByteSize + b.held.utf8ByteSize > capacity
  · obtain ⟨s', hflush, hc⟩ := flush_run hd b s
    obtain ⟨b'', s'', hrest, hc'⟩ := hput {} s' (.inr rfl)
    rw [if_pos hfull, bind_of_ok hflush]
    exact ⟨b'', s'', hrest, by rw [hc', hc]; exact congrArg (· ++ part) (String.append_empty)⟩
  · rw [if_neg hfull]
    refine hput b s ?_
    by_cases hsize : part.utf8ByteSize < capacity
    · exact .inl hsize
    · exact .inr (String.utf8ByteSize_eq_zero_iff.1 (by omega))

theorem forM_write_run (hd : device.Takes content) (parts : List String) (b : Buffer) (s : σ) :
    ∃ b' s', (parts.forM (write device) : Action (StateM σ) ε Unit) b s = ((.ok (), b'), s') ∧
      content s' ++ b'.held = content s ++ b.held ++ String.join parts := by
  induction parts generalizing b s with
  | nil => exact ⟨b, s, rfl, (String.append_empty).symm⟩
  | cons part parts ih =>
    obtain ⟨b', s', hwrite, hc⟩ := write_run hd part b s
    obtain ⟨b'', s'', hrest, hc'⟩ := ih b' s'
    refine ⟨b'', s'', ?_, ?_⟩
    · show (write device part >>= fun _ => parts.forM (write device)) b s = _
      rw [bind_of_ok hwrite, hrest]
    · rw [hc', hc, String.join_cons, String.append_assoc]

/-- No line is lost. -/
theorem writeLines_run (hd : device.Takes content) (lines : List (List String)) (b : Buffer) (s : σ) :
    ∃ b' s', writeLines device lines b s = ((0, b'), s') ∧
      content s' ++ b'.held = content s ++ b.held ++ String.join (lines.map String.join) := by
  induction lines generalizing b s with
  | nil => exact ⟨b, s, rfl, (String.append_empty).symm⟩
  | cons parts lines ih =>
    obtain ⟨b', s', hwrite, hc⟩ := forM_write_run hd parts b s
    obtain ⟨b'', s'', hrest, hc'⟩ := ih b' s'
    refine ⟨b'', s'', ?_, ?_⟩
    · have hrun : ((parts.forM (write device)).run : StateT Buffer (StateM σ) (Except ε Unit)) b s =
          ((.ok (), b'), s') := hwrite
      rw [writeLines, bind_buffer hrun]
      exact hrest
    · rw [hc', hc, List.map_cons, String.join_cons, String.append_assoc]

end Buffer

/-- A device that takes every text comes to hold all that it is given, and no line is lost. -/
theorem deliver_run (hd : device.Takes content) (lines : List (List String)) (s : σ) :
    ∃ s', deliver device lines s = ((0, .ok ()), s') ∧
      content s' = content s ++ String.join (lines.map String.join) := by
  obtain ⟨b', s', hlines, hc⟩ := Buffer.writeLines_run hd lines {} s
  obtain ⟨s'', hflush, hc'⟩ := Buffer.flush_run hd b' s'
  refine ⟨s'', ?_, ?_⟩
  · have hlines' : ((Buffer.writeLines device lines).run {} : StateM σ (Nat × Buffer)) s = ((0, b'), s') := hlines
    have hflush' : (((Buffer.flush device).run).run b' : StateM σ _) s' = ((.ok (), {}), s'') := hflush
    rw [deliver, bind_state hlines']
    dsimp only
    rw [bind_state hflush']
    rfl
  · rw [hc', hc]
    exact congrArg (· ++ _) String.append_empty

/-- The parts of a line make it up. -/
theorem Format.join_parts (f : Format) (line : String) : String.join (f.parts line) = line := by
  have hjoin (a b : String) : String.join [a, b] = a ++ b := by
    rw [String.join_cons, String.join_cons, String.join_nil, String.append_empty]
  cases f with
  | json =>
    rw [parts, hjoin]
    show (line.toSlice.sliceTo _).copy ++ (line.toSlice.sliceFrom _).copy = line
    rw [String.Slice.sliceTo_append_sliceFrom, String.copy_toSlice]
  | text =>
    rw [parts, hjoin]
    show (line.toSlice.sliceTo _).copy ++ (line.toSlice.sliceFrom _).copy = line
    rw [String.Slice.sliceTo_append_sliceFrom, String.copy_toSlice]

end TraceExport.Sink
