/-
The one provider that a sink accepts: its handle and the callback that it is notified by. Handles
are numbered from one and never used again.
-/
import TraceExport.Failure

namespace TraceExport.Provider

/-- The place for a provider, whose callback is a `κ`. -/
structure Seat (κ : Type) where
  /-- The number of handles given out. -/
  issued : Nat := 0
  /-- The provider, by its handle and callback. -/
  installed : Option (Nat × κ) := none
  /-- The number of notifications that reached a provider. -/
  delivered : Nat := 0
  deriving Repr

namespace Seat

variable {κ : Type}

/-- Installs a provider under the next handle, unless one is there. -/
def install (s : Seat κ) (callback : κ) : Except Failure Nat × Seat κ :=
  match s.installed with
  | some _ => (.error (.registration .seatTaken), s)
  | none =>
    let handle := s.issued + 1
    (.ok handle, { s with issued := handle, installed := some (handle, callback) })

/-- Removes the provider with the handle, and no other. -/
def remove (s : Seat κ) (handle : Nat) : Except Failure Unit × Seat κ :=
  match s.installed with
  | some (h, _) =>
    if h = handle then (.ok (), { s with installed := none })
    else (.error (.unregistration (.unknownHandle handle)), s)
  | none => (.error (.unregistration (.unknownHandle handle)), s)

/-- The callback to be run now, if a provider is there. It is counted before it runs. -/
def notify (s : Seat κ) : Option κ × Seat κ :=
  match s.installed with
  | some (_, callback) => (some callback, { s with delivered := s.delivered + 1 })
  | none => (none, s)

/-! ## When a command succeeds -/

theorem install_of_free {s : Seat κ} (h : s.installed = none) (callback : κ) :
    s.install callback = (.ok (s.issued + 1),
      { s with issued := s.issued + 1, installed := some (s.issued + 1, callback) }) := by
  simp [install, h]

theorem install_of_taken {s : Seat κ} {p : Nat × κ} (h : s.installed = some p) (callback : κ) :
    s.install callback = (.error (.registration .seatTaken), s) := by
  simp [install, h]

theorem remove_of_installed {s : Seat κ} {p : Nat × κ} (h : s.installed = some p) :
    s.remove p.1 = (.ok (), { s with installed := none }) := by
  simp [remove, h]

theorem remove_of_other {s : Seat κ} {handle : Nat} (h : ∀ p, s.installed = some p → p.1 ≠ handle) :
    s.remove handle = (.error (.unregistration (.unknownHandle handle)), s) := by
  unfold remove; split
  · next q hq => rw [if_neg (h _ hq)]
  · rfl

end Seat

end TraceExport.Provider
