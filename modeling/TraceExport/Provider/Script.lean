/-
Scripts for a provider seat, in which a callback is a script of its own that works on the seat
while it runs. Notifications are delivered one at a time, so a callback that notifies a provider
waits for its own end; such a step is blocked.
-/
import TraceExport.Provider.Seat

namespace TraceExport.Provider

/-! ## Commands -/

/-- A command to a seat. -/
inductive Command
  /-- Installs a provider whose callback bears a tag and runs commands. -/
  | install (tag : String) (onNotify : List Command)
  | remove (handle : Nat)
  | notify
  | isInstalled
  | delivered
  | panic
  deriving Repr

/-- A callback: what it is recorded by, and what it does. -/
structure Notice where
  tag : String
  body : List Command
  deriving Repr

/-- The result of a command that came to its end. -/
inductive Result
  | done
  | handle (handle : Nat)
  | flag (on : Bool)
  | count (count : Nat)
  | failed (error : Failure)
  deriving DecidableEq, Repr

/-- Why a command did not come to its end. -/
inductive Halt
  | panic (panic : Panic)
  | blocked
  deriving DecidableEq, Repr

/-- What a callback that came to its end leaves behind: its tag and the results of its commands. -/
structure Hit where
  tag : String
  results : List Result
  deriving DecidableEq, Repr

/-! ## Running -/

/-- A command within a callback. -/
def Command.inside (s : Seat Notice) : Command → Except Halt Result × Seat Notice
  | .install tag onNotify =>
    match s.install ⟨tag, onNotify⟩ with
    | (.ok handle, s) => (.ok (.handle handle), s)
    | (.error e, s) => (.ok (.failed e), s)
  | .remove handle =>
    match s.remove handle with
    | (.ok _, s) => (.ok .done, s)
    | (.error e, s) => (.ok (.failed e), s)
  | .notify =>
    match s.installed with
    | some _ => (.error .blocked, s)
    | none => (.ok (.flag false), s)
  | .isInstalled => (.ok (.flag s.installed.isSome), s)
  | .delivered => (.ok (.count s.delivered), s)
  | .panic => (.error (.panic .callback), s)

/-- The commands of a callback up to its end or to the first that does not come to its own. -/
def runBody (s : Seat Notice) : List Command → Except Halt (List Result) × Seat Notice
  | [] => (.ok [], s)
  | c :: cs =>
    match c.inside s with
    | (.error halt, s) => (.error halt, s)
    | (.ok result, s) =>
      match runBody s cs with
      | (.error halt, s) => (.error halt, s)
      | (.ok results, s) => (.ok (result :: results), s)

/-- What a step of a script shows. -/
structure Step where
  result : Except Halt Result
  hits : List Hit
  /-- The seat after the step. -/
  seat : Seat Notice
  deriving Repr

/-- A command outside of any callback. -/
def Command.run (s : Seat Notice) : Command → Step
  | .notify =>
    match s.notify with
    | (none, s) => ⟨.ok (.flag false), [], s⟩
    | (some callback, s) =>
      match runBody s callback.body with
      | (.ok results, s) => ⟨.ok (.flag true), [⟨callback.tag, results⟩], s⟩
      | (.error halt, s) => ⟨.error halt, [], s⟩
  | c =>
    let (result, s) := c.inside s
    ⟨result, [], s⟩

/-- The steps of a script. -/
def runScript (s : Seat Notice) : List Command → List Step
  | [] => []
  | c :: cs =>
    let step := c.run s
    step :: runScript step.seat cs

end TraceExport.Provider
