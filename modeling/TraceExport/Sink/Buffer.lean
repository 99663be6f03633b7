/-
Lines on their way to a device. They are handed on in parts, and a buffer holds the parts back until
it is full or flushed. A part as long as the whole buffer goes past it. Where the device does not
take what it is given, the line at hand is lost, and what the buffer holds stays there.
-/
import TraceExport.Sink.Outlet

namespace TraceExport.Sink

/-- What takes a text, or tells why it does not. -/
abbrev Device (m : Type → Type) (ε : Type) := String → m (Except ε Unit)

/-- The text that is held back. -/
structure Buffer where
  held : String := ""
  deriving DecidableEq, Repr

namespace Buffer

variable {m : Type → Type} {ε : Type} [Monad m]

/-- The number of bytes that a buffer has room for. -/
def capacity : Nat := 8192

/-- What works on a buffer, and leaves it as it is then where it fails. -/
abbrev Action (m : Type → Type) (ε α : Type) := ExceptT ε (StateT Buffer m) α

/-- Gives a text to the device, past the buffer. -/
def pass (device : Device m ε) (text : String) : Action m ε Unit := fun b => do
  return (← device text, b)

/-- Gives what is held to the device. -/
def flush (device : Device m ε) : Action m ε Unit := do
  let b ← get
  if b.held ≠ "" then
    pass device b.held
    set ({} : Buffer)

/-- Hands on a part. -/
def write (device : Device m ε) (part : String) : Action m ε Unit := do
  let size := part.utf8ByteSize
  if size + (← get).held.utf8ByteSize > capacity then flush device
  if size < capacity then modify fun b => { b with held := b.held ++ part }
  else pass device part

/-- Hands on lines, each in its parts, and counts those that are lost. -/
def writeLines (device : Device m ε) : List (List String) → StateT Buffer m Nat
  | [] => return 0
  | parts :: lines => do
    match ← (parts.forM (write device)).run with
    | .ok _ => writeLines device lines
    | .error _ => return (← writeLines device lines) + 1

end Buffer

/-- Hands on lines and flushes the buffer. Gives the number of lines lost and how the flush went. -/
def deliver {m : Type → Type} {ε : Type} [Monad m] (device : Device m ε)
    (lines : List (List String)) : m (Nat × Except ε Unit) := do
  let (lost, b) ← (Buffer.writeLines device lines).run {}
  return (lost, (← ((Buffer.flush device).run).run b).1)

/-- The parts in which a line is handed on: a plain text apart from the end of its line, and a JSON
object from its brace on. -/
def Format.parts : Format → String → List String
  | .text, line => [(line.dropEnd 1).toString, (line.takeEnd 1).toString]
  | .json, line => [(line.take 1).toString, (line.drop 1).toString]

end TraceExport.Sink
