/-
What can go wrong, by its cause, and the wording of each cause. Errors are answers of an operation;
a panic ends an operation in the middle and leaves the state as it is at that moment.
-/
import TraceExport.Text.Numeral
import TraceExport.Text.Quoted

namespace TraceExport

/-! ## Errors -/

/-- Why a sink registers no provider. -/
inductive RegistrationFault
  /-- Another provider is there. -/
  | seatTaken
  | rejected
  | refused
  deriving DecidableEq, Repr

/-- Why a sink keeps a provider. -/
inductive UnregistrationFault
  | unknownHandle (handle : Nat)
  | kept (handle : Nat)
  deriving DecidableEq, Repr

/-- What is wrong with the filtered categories of a profile. -/
inductive ProfileFault
  | tooMany (count : Nat)
  | badName (name : String)
  | reserved (name : String)
  | duplicate (name : String)
  deriving DecidableEq, Repr

/-- The errors of the exporter and of what it is set up with. Writing events has none. -/
inductive Failure
  | registration (fault : RegistrationFault)
  | unregistration (fault : UnregistrationFault)
  | notRegistered
  | profile (fault : ProfileFault)
  | unknownCategory (name : String)
  | keyword (text : String) (fault : Numeral.Fault)
  deriving DecidableEq, Repr

/-- The wording of a fault. -/
def RegistrationFault.message : RegistrationFault → String
  | .seatTaken => "a provider is already registered"
  | .rejected => "sink rejected the provider"
  | .refused => "manual refused"

/-- The wording of a fault. -/
def UnregistrationFault.message : UnregistrationFault → String
  | .unknownHandle h => "unknown provider handle ProviderHandle(" ++ h.repr ++ ")"
  | .kept h => "manual kept " ++ h.repr

/-- The wording of a fault. -/
def ProfileFault.message : ProfileFault → String
  | .tooMany n => n.repr ++ " filtered categories configured, at most 61 fit in the keyword"
  | .badName name => "Invalid category name: " ++ Text.quoted name
  | .reserved name => "Category name is reserved: " ++ name
  | .duplicate name => "Duplicate category name: " ++ name

/-- The wording of an error. -/
def Failure.message : Failure → String
  | .registration fault => "Provider registration failed: " ++ fault.message
  | .unregistration fault => "Provider unregistration failed: " ++ fault.message
  | .notRegistered => "Exporter is not registered"
  | .profile fault => "Invalid configuration: " ++ fault.message
  | .unknownCategory name => "Unknown category: " ++ name
  | .keyword text fault =>
    "Invalid keyword: " ++ Text.quoted text ++ ": " ++ fault.message

/-! ## Panics -/

/-- Why an operation ends in the middle. -/
inductive Panic
  /-- A registry gets more filtered names than bits. -/
  | tooManyFiltered (count : Nat)
  /-- A registry has fewer different names than slots. -/
  | sizeChanged (names slots : Nat)
  | emptyGroup
  /-- An observer raised it. -/
  | observer
  /-- A callback raised it. -/
  | callback
  deriving DecidableEq, Repr

/-- The wording of a panic. -/
def Panic.message : Panic → String
  | .tooManyFiltered n => "too many filtered categories: " ++ n.repr
  | .sizeChanged names slots =>
    "assertion `left == right` failed: category registry size changed\n  left: " ++ names.repr ++
      "\n right: " ++ slots.repr
  | .emptyGroup => "category group must not be empty"
  | .observer => "observer panicked"
  | .callback => "callback panicked"

end TraceExport
