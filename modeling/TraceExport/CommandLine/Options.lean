/-
Options of the command line: what they are called, whether they take a value, and how they are read
from the arguments. Arguments are taken from left to right, and the first that ends the reading
decides how it ends.
-/
import TraceExport.Settings.Basic
import TraceExport.Text.Commas
import TraceExport.Text.Numeral

namespace TraceExport.CommandLine

/-! ## Options -/

/-- What the options say. -/
structure Options where
  /-- The file with the settings. -/
  config : Option String := none
  keyword : Option String := none
  /-- The categories to enable. -/
  enable : List String := []
  /-- Whether nobody listens. -/
  noListener : Bool := false
  /-- The file that lines go to. -/
  output : Option String := none
  format : Option Sink.Format := none
  /-- Whether every kind of argument is rendered. -/
  renderAll : Bool := false
  /-- Whether the table of categories is all that is wanted. -/
  listCategories : Bool := false
  /-- The number of workers. -/
  threads : Nat := 4
  /-- How much is logged. -/
  verbose : Nat := 0
  /-- Whether there is no report. -/
  quiet : Bool := false
  deriving DecidableEq, Repr

/-- An option. -/
inductive Key
  | config
  | keyword
  | enable
  | noListener
  | output
  | format
  | renderAll
  | listCategories
  | threads
  | verbose
  | quiet
  | help
  | version
  deriving DecidableEq, Repr

namespace Key

/-- The long names. -/
def longNames : List (String × Key) := [
  ("config", .config), ("keyword", .keyword), ("enable", .enable), ("no-listener", .noListener),
  ("output", .output), ("format", .format), ("render-all-args", .renderAll),
  ("list-categories", .listCategories), ("threads", .threads), ("verbose", .verbose),
  ("quiet", .quiet), ("help", .help), ("version", .version)]

/-- The short names. -/
def shortNames : List (Char × Key) := [
  ('c', .config), ('k', .keyword), ('e', .enable), ('o', .output), ('t', .threads),
  ('v', .verbose), ('q', .quiet), ('h', .help), ('V', .version)]

/-- Whether an option takes a value. -/
def takesValue : Key → Bool
  | .config | .keyword | .enable | .output | .format | .threads => true
  | _ => false

/-- Whether an option may be given again. -/
def repeats : Key → Bool
  | .enable | .verbose => true
  | _ => false

end Key

/-! ## Reading -/

/-- How the reading of arguments ends early. -/
inductive Stop
  | help
  | version
  /-- The arguments are wrong. -/
  | usage
  deriving DecidableEq, Repr

/-- What is known after some arguments. -/
structure Progress where
  options : Options := {}
  /-- The options that were given. -/
  given : List Key := []
  /-- The option that waits for its value. -/
  pending : Option Key := none
  deriving Repr

/-- Sets an option to a value, if it is one for it. -/
def Options.set? (o : Options) (key : Key) (value : String) : Option Options :=
  match key with
  | .config => if value = "" then none else some { o with config := value }
  | .keyword => some { o with keyword := value }
  | .enable => some { o with enable := o.enable ++ Text.splitCommas value }
  | .output => if value = "" then none else some { o with output := value }
  | .format => (Sink.Format.ofName? value).map fun f => { o with format := f }
  | .threads =>
    match Numeral.read 10 (Nat.pow 2 64) value.toList with
    | .ok n => some { o with threads := n }
    | .error _ => none
  | _ => none

/-- Sets an option that takes no value. -/
def Options.turnOn (o : Options) : Key → Options
  | .noListener => { o with noListener := true }
  | .renderAll => { o with renderAll := true }
  | .listCategories => { o with listCategories := true }
  | .verbose => { o with verbose := o.verbose + 1 }
  | .quiet => { o with quiet := true }
  | _ => o

namespace Progress

/-- Notes that an option is given, which most are at most once. -/
def note (p : Progress) (key : Key) : Except Stop Progress :=
  if key ∈ p.given ∧ !key.repeats then .error .usage
  else .ok { p with given := key :: p.given }

/-- Gives an option its value. -/
def give (p : Progress) (key : Key) (value : String) : Except Stop Progress := do
  let p ← p.note key
  match p.options.set? key value with
  | some options => .ok { p with options, pending := none }
  | none => .error .usage

/-- An option that waits for its value does so in vain. -/
def settle (p : Progress) : Except Stop Progress :=
  if p.pending.isSome then .error .usage else .ok p

/-- Takes an option that takes no value. -/
def flag (p : Progress) (key : Key) : Except Stop Progress := do
  let p ← p.settle
  match key with
  | .help => .error .help
  | .version => .error .version
  | key =>
    let p ← p.note key
    .ok { p with options := p.options.turnOn key }

/-- Takes an option that takes a value, which may be in the same argument. -/
def valued (p : Progress) (key : Key) : Option String → Except Stop Progress
  | some value => do (← p.settle).give key value
  | none => do return { ← p.settle with pending := some key }

/-- Takes a long option. -/
def long (p : Progress) (name : String) (value : Option String) : Except Stop Progress :=
  match Key.longNames.lookup name with
  | none => .error .usage
  | some key =>
    if key.takesValue then p.valued key value
    else if value.isSome then .error .usage
    else p.flag key

/-- What stands behind a short option as its value, an equals sign in front aside. -/
def attached : List Char → Option String
  | [] => none
  | '=' :: cs => some (String.ofList cs)
  | cs => some (String.ofList cs)

/-- Takes short options. The first that takes a value takes the rest for it. -/
def short (p : Progress) : List Char → Except Stop Progress
  | [] => .ok p
  | c :: cs =>
    match Key.shortNames.lookup c with
    | none => .error .usage
    | some key =>
      if key.takesValue then p.valued key (attached cs)
      else do (← p.flag key).short cs

/-- Takes an argument that is no option, which is the value that an option waits for. -/
def plain (p : Progress) (value : String) : Except Stop Progress :=
  match p.pending with
  | some key => p.give key value
  | none => .error .usage

/-- Takes a long option with what stands behind its first equals sign. -/
def longArgument (p : Progress) (cs : List Char) : Except Stop Progress :=
  match cs.span (· ≠ '=') with
  | (name, []) => p.long (String.ofList name) none
  | (name, _ :: value) => p.long (String.ofList name) (some (String.ofList value))

/-- Takes the arguments. After two hyphens by themselves no option follows, and there is nothing
else to give. -/
def arguments (p : Progress) : List String → Except Stop Progress
  | [] => p.settle
  | arg :: args =>
    match arg.toList with
    | ['-', '-'] => if args.isEmpty then p.settle else .error .usage
    | '-' :: '-' :: cs => do (← p.longArgument cs).arguments args
    | '-' :: c :: cs => do (← p.short (c :: cs)).arguments args
    | _ => do (← p.plain arg).arguments args

end Progress

/-- Reads the options from the arguments. -/
def Options.parse (args : List String) : Except Stop Options := do
  return (← ({} : Progress).arguments args).options

/-! ## Settings -/

/-- The settings with the options in place of what they say. -/
def Options.apply (o : Options) (s : Settings) : Settings :=
  let session :=
    if o.enable.isEmpty then { s.session with keyword := o.keyword.or s.session.keyword }
    else { s.session with keyword := none, categories := o.enable }
  { s with
    session := { session with listening := session.listening && !o.noListener }
    profile := if o.renderAll then s.profile.renderingAll else s.profile
    output := {
      path := o.output.or s.output.path
      format := o.format.getD s.output.format } }

end TraceExport.CommandLine
