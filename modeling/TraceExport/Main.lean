/-
The command on a real system: files, the clock, and the standard streams.
-/
import Std.Time.DateTime.Timestamp
import TraceExport.CommandLine.Command
import TraceExport.CommandLine.Moment

namespace TraceExport.CommandLine

/-- The fault that an error of the system stands for. -/
def faultOf : IO.Error → FileFault
  | .noFileOrDirectory .. => .missing
  | .permissionDenied .. => .denied
  | .inappropriateType _ code details | .invalidArgument _ code details
  | .resourceExhausted _ code details => .other (FileFault.numbered code.toNat details)
  | e => .other e.toString

/-- Does something, and tells the fault if there is one. -/
def attempt {α : Type} (action : IO α) : IO (Except FileFault α) := do
  try return .ok (← action) catch e => return .error (faultOf e)

/-- Does something with a path, which must hold no NUL. -/
def withPath {α : Type} (path : String) (action : IO (Except FileFault α)) :
    IO (Except FileFault α) :=
  if path.contains '\x00' then return .error .nulInName else action

/-- The text in a file. -/
def readText (path : String) : IO (Except FileFault String) :=
  withPath path do
    match ← attempt (do (← IO.FS.Handle.mk path .read).readBinToEnd) with
    | .ok bytes => return (String.fromUTF8? bytes).elim (.error .notText) .ok
    | .error fault => return .error fault

/-- Makes a file, or empties it. -/
def createFile (path : String) : IO (Except FileFault IO.FS.Handle) :=
  withPath path (attempt (IO.FS.Handle.mk path .write))

/-- Puts a text at the end of a file. -/
def appendText (file : IO.FS.Handle) (text : String) : IO (Except FileFault Unit) :=
  attempt do
    file.putStr text
    file.flush

/-- The clock from now on. A session is worked out in one go, so it finds the same time throughout. -/
def clockNow (format : Sink.Format) : IO (Nat → String) := do
  let now ← Std.Time.Timestamp.now
  let stamp := Moment.stamp ⟨now.toNanosecondsSinceUnixEpoch.val.toNat⟩ format
  return fun _ => stamp

/-- The real system. One worker does it all, so a pool can always be built. -/
def realSystem : System IO IO.FS.Handle := ⟨readText, createFile, appendText, clockNow, .single⟩

/-- Runs the command and passes its outcome on. -/
def runReal (args : List String) : IO UInt32 := do
  let outcome ← run realSystem args
  (← IO.getStdout).putStr outcome.out
  (← IO.getStderr).putStr outcome.err
  return outcome.exit

end TraceExport.CommandLine

/-- Runs the command with the arguments of the process. -/
def main (args : List String) : IO UInt32 := TraceExport.CommandLine.runReal args
