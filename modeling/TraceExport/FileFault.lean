/-
What can go wrong with a file, by its cause, and the wording of each cause.
-/
namespace TraceExport

/-- Why the system does not do what it is asked with a file. -/
inductive FileFault
  | missing
  | denied
  /-- A name on the way to the file is not that of a directory. -/
  | noDirectory
  /-- The file is a directory. -/
  | directory
  | noSpace
  | longName
  | nulInName
  /-- The file holds bytes that are no text. -/
  | notText
  | other (message : String)
  deriving DecidableEq, Repr

namespace FileFault

/-- The wording of an error that the system knows by its number. -/
def numbered (number : Nat) (wording : String) : String :=
  wording ++ " (os error " ++ number.repr ++ ")"

/-- The wording of a fault. -/
def message : FileFault → String
  | .missing => numbered 2 "No such file or directory"
  | .denied => numbered 13 "Permission denied"
  | .noDirectory => numbered 20 "Not a directory"
  | .directory => numbered 21 "Is a directory"
  | .noSpace => numbered 28 "No space left on device"
  | .longName => numbered 36 "File name too long"
  | .nulInName => "file name contained an unexpected NUL byte"
  | .notText => "stream did not contain valid UTF-8"
  | .other message => message

end FileFault

end TraceExport
