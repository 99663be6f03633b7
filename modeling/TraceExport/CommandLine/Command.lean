/-
The command: from its arguments to its exit code and its output. What it needs from the system
comes as functions, so that it can be run on any system, also on one that is made up.
-/
import TraceExport.CommandLine.Help
import TraceExport.CommandLine.Options
import TraceExport.Session
import TraceExport.Settings.Reader
import TraceExport.Sink.Buffer

namespace TraceExport.CommandLine

/-! ## The table of categories -/

/-- A category with the keyword that selects it alone. -/
def tableLine (r : Registry) (category : String) : Except Failure String := do
  return Keyword.format (← r.select [category]) ++ "  " ++ category ++ "\n"

/-- Why there is no table. -/
inductive TableFault
  | badProfile (error : Failure)
  | category (error : Failure)
  | panicked (panic : Panic)
  deriving DecidableEq, Repr

/-- The messages of a fault, the cause last. -/
def TableFault.chain : TableFault → List String
  | .badProfile e => ["Invalid export configuration", e.message]
  | .category e => [e.message]
  | .panicked p => [p.message]

/-- The table of the categories of a profile, the catch-alls last. -/
def keywordTable (p : Profile) : Except TableFault String :=
  match p.check with
  | .error e => .error (.badProfile e)
  | .ok _ =>
    match Registry.ofNames p.filtered with
    | .error panic => .error (.panicked panic)
    | .ok r =>
      match (r.filteredNames ++ Category.catchAlls).mapM (tableLine r) with
      | .ok lines => .ok (String.join lines)
      | .error e => .error (.category e)

/-! ## Outcomes -/

/-- What a run of the command comes to. -/
structure Outcome where
  exit : UInt32
  /-- What goes to the standard output. -/
  out : String := ""
  /-- What goes to the standard error. -/
  err : String := ""
  deriving Repr

/-- Further lines of a message, set in. -/
def indented (first next : String) (message : String) : String :=
  first ++ String.ofList (message.toList.flatMap fun c =>
    if c = '\n' then '\n' :: next.toList else [c])

/-- Causes with their numbers. -/
def numbered (n : Nat) : List String → String
  | [] => ""
  | m :: ms =>
    let digits := n.repr
    let mark := String.ofList (List.replicate (5 - digits.length) ' ') ++ digits ++ ": "
    "\n" ++ indented mark "       " m ++ numbered (n + 1) ms

/-- The error report for messages, the cause last. Causes are numbered if there are several. -/
def errorReport : List String → String
  | [] => ""
  | [m] => "Error: " ++ m ++ "\n"
  | [m, cause] => "Error: " ++ m ++ "\n\nCaused by:\n" ++ indented "    " "    " cause ++ "\n"
  | m :: causes => "Error: " ++ m ++ "\n\nCaused by:" ++ numbered 0 causes ++ "\n"

/-- The outcome of a run that failed. -/
def Outcome.failed (chain : List String) : Outcome :=
  { exit := 1, err := errorReport chain }

/-- The outcome of a run whose arguments end it early. -/
def Outcome.stopped : Stop → Outcome
  | .help => { exit := 0, out := helpText }
  | .version => { exit := 0, out := versionText }
  | .usage => { exit := 2, err := "error: wrong arguments\n\n" ++ usageLine ++ "\n" }

/-- Why a session gives no report. -/
inductive ReportFault
  /-- There is no file for its lines. -/
  | uncreated (path : String) (fault : FileFault)
  | session (fault : Session.Fault)
  deriving DecidableEq, Repr

/-- The messages of a fault, the cause last. -/
def ReportFault.chain : ReportFault → List String
  | .uncreated path fault => ["Failed to create output file: " ++ Text.quoted path, fault.message]
  | .session fault => fault.chain

/-- The outcome of a session that wrote a text to the standard output. -/
def Outcome.ofSession (quiet : Bool) (out : String) : Except ReportFault Report → Outcome
  | .ok r => { exit := 0, out := if quiet then out else out ++ r.text }
  | .error fault => { exit := 1, out, err := errorReport fault.chain }

/-! ## Running -/

/-- What the command needs from the system, which knows an open file in its own way. Where the
command does not get it, it is told why. -/
structure System (m : Type → Type) (File : Type) where
  /-- The text in a file. -/
  readText : String → m (Except FileFault String)
  /-- Makes a file, or empties it. -/
  create : String → m (Except FileFault File)
  /-- Puts a text at the end of a file. -/
  append : File → String → m (Except FileFault Unit)
  /-- The clock, as lines in a format show it: what it shows when it is asked for the first time, the
  second time, and so on. -/
  clock : Sink.Format → m (Nat → String)
  /-- What builds the pools of workers. -/
  pools : Workload.PoolBuilder

variable {m : Type → Type} {File : Type} [Monad m]

/-- The settings that the options name, before the options themselves count. -/
def loadSettings (sys : System m File) : Option String → m (Except Settings.LoadFault Settings)
  | none => return .ok {}
  | some path => do
    match ← sys.readText path with
    | .ok content => return Settings.load path content
    | .error fault => return .error (.unreadable path fault)

/-- What a session comes to when its lines are delivered, and some of them lost. -/
def settled (lost : Nat) (flushed : Except FileFault Unit) (report : Except Session.Fault Report) :
    Except Session.Fault Report := do
  let r ← report
  match flushed with
  | .ok _ => return r.losing lost
  | .error fault => throw (.unflushed fault.message)

/-- Runs a session, with a number of threads, whose lines go where the settings say. A file is there before
the session starts and stays empty if there are no lines. Gives the report, and what goes to the standard
output. -/
def session (sys : System m File) (threads : Nat) (s : Settings) :
    m (Except ReportFault Report × String) := do
  match s.output.path with
  | some path =>
    match ← sys.create path with
    | .error fault => return (.error (.uncreated path fault), "")
    | .ok file =>
      let (report, lines) := Session.run sys.pools threads s (← sys.clock s.output.format)
      let (lost, flushed) ← Sink.deliver (sys.append file) (lines.map s.output.format.parts)
      return ((settled lost flushed report).mapError .session, "")
  | none =>
    let (report, lines) := Session.run sys.pools threads s (← sys.clock s.output.format)
    return (report.mapError .session, String.join lines)

/-- Runs a session. -/
def runSession (sys : System m File) (threads : Nat) (quiet : Bool) (s : Settings) : m Outcome := do
  let (report, out) ← session sys threads s
  return .ofSession quiet out report

/-- Does what the options say. -/
def runOptions (sys : System m File) (o : Options) : m Outcome := do
  match ← loadSettings sys o.config with
  | .error fault => return .failed fault.chain
  | .ok loaded =>
    let s := o.apply loaded
    if o.listCategories then
      match keywordTable s.profile with
      | .ok table => return { exit := 0, out := table }
      | .error fault => return .failed fault.chain
    else runSession sys o.threads o.quiet s

/-- Runs the command. -/
def run (sys : System m File) (args : List String) : m Outcome :=
  match Options.parse args with
  | .error stop => return .stopped stop
  | .ok o => runOptions sys o

end TraceExport.CommandLine
