/-
Arguments of events: a name and a typed value. A value has a kind, a JSON rendering that goes into
the event's record, and a description that names its kind.
-/
import TraceExport.Decimal.Layout
import TraceExport.Json.Text
import TraceExport.Text.Quoted

namespace TraceExport

namespace Arg

open TraceExport.Decimal

/-! ## Values -/

/-- The kind of a value. -/
inductive Kind
  | bool
  | uint
  | int
  | double
  | pointer
  | string
  | copyString
  | convertable
  deriving DecidableEq, Repr

/-- The value of an argument. -/
inductive Value
  | bool (b : Bool)
  | uint (n : UInt64)
  | int (n : Int64)
  | double (x : Binary64)
  /-- An address. -/
  | pointer (address : UInt64)
  /-- A text that outlives the event. -/
  | string (s : String)
  /-- A text that was copied with the event. -/
  | copyString (s : String)
  /-- A structured value, whose rendering is given. -/
  | convertable (rendering : String)
  deriving DecidableEq, Repr

/-- All kinds. -/
def Kind.all : List Kind :=
  [.bool, .uint, .int, .double, .pointer, .string, .copyString, .convertable]

/-- The name of a kind. -/
def Kind.name : Kind → String
  | .bool => "bool"
  | .uint => "uint"
  | .int => "int"
  | .double => "double"
  | .pointer => "pointer"
  | .string => "string"
  | .copyString => "copy_string"
  | .convertable => "convertable"

/-- The kind with a name. -/
def Kind.ofName? (name : String) : Option Kind :=
  Kind.all.find? (·.name = name)

/-- The kind of a value. -/
def Value.kind : Value → Kind
  | .bool _ => .bool
  | .uint _ => .uint
  | .int _ => .int
  | .double _ => .double
  | .pointer _ => .pointer
  | .string _ => .string
  | .copyString _ => .copyString
  | .convertable _ => .convertable

/-! ## Rendering -/

/-- An address in base sixteen with its mark and small digits. -/
def addressChars (a : UInt64) : List Char :=
  '0' :: 'x' :: Nat.toDigits 16 a.toNat

/-- The text of a number with a fraction, if it has neither a fraction nor an exponent. -/
def withFraction (text : List Char) : List Char :=
  if text.any fun c => c = '.' ∨ c = 'e' ∨ c = 'E' then text else text ++ ['.', '0']

/-- The text of a number with a zero before a point that it starts with. -/
def withLeadingZero : List Char → List Char
  | '.' :: rest => '0' :: '.' :: rest
  | '-' :: '.' :: rest => '-' :: '0' :: '.' :: rest
  | text => text

/-- A double. JSON has no number for the infinities and for what is no number, so they are
strings. -/
def doubleChars (x : Binary64) : List Char :=
  match Layout.plain.text? x with
  | some text => withLeadingZero (withFraction text)
  | none =>
    match x.magnitude with
    | .infinite => Json.quote ((if x.negative then "-Infinity" else "Infinity").toList)
    | _ => Json.quote "NaN".toList

/-- The JSON rendering of a value. -/
def Value.render : Value → String
  | .bool b => if b then "true" else "false"
  | .uint n => n.toNat.repr
  | .int n => n.toInt.repr
  | .double x => String.ofList (doubleChars x)
  | .pointer a => String.ofList (Json.quote (addressChars a))
  | .string s => Json.quoted s
  | .copyString s => Json.quoted s
  | .convertable rendering => rendering

/-- Writes the values one after the other behind a text. -/
def appendAll (text : String) (values : List Value) : String :=
  values.foldl (fun text v => text ++ v.render) text

/-! ## Description -/

/-- A double as descriptions show it. -/
def describeDouble (x : Binary64) : String :=
  match Layout.plain.text? x with
  | some text => String.ofList text
  | none =>
    match x.magnitude with
    | .infinite => if x.negative then "-inf" else "inf"
    | _ => "NaN"

/-- The kind of a value, and the value itself between parentheses. -/
def Value.describe : Value → String
  | .bool b => "Bool(" ++ (if b then "true" else "false") ++ ")"
  | .uint n => "Uint(" ++ n.toNat.repr ++ ")"
  | .int n => "Int(" ++ n.toInt.repr ++ ")"
  | .double x => "Double(" ++ describeDouble x ++ ")"
  | .pointer a => "Pointer(" ++ String.ofList (addressChars a) ++ ")"
  | .string s => "String(" ++ Text.quoted s ++ ")"
  | .copyString s => "CopyString(" ++ Text.quoted s ++ ")"
  | .convertable _ => "Convertable(..)"

end Arg

/-- A named argument of an event. -/
structure Arg where
  name : String
  value : Arg.Value
  deriving DecidableEq, Repr

/-- An argument with its name and the description of its value. -/
def Arg.describe (a : Arg) : String :=
  "TraceArg \x7b name: " ++ Text.quoted a.name ++ ", value: " ++ a.value.describe ++ " \x7d"

end TraceExport
