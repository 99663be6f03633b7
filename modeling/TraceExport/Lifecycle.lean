/-
The lifecycle of an exporter. It goes from unregistered over registering, registered and
unregistering back to unregistered, and only a registered exporter lets events through.
-/
namespace TraceExport

/-- Where an exporter stands with its sink. -/
inductive Lifecycle
  | unregistered
  /-- The sink has not answered yet, and may call back already. -/
  | registering
  /-- The sink knows the exporter by the handle. -/
  | registered (handle : Nat)
  /-- The sink has not answered yet, and may still call back. -/
  | unregistering
  deriving DecidableEq, Repr

namespace Lifecycle

/-- Whether the sink knows the exporter. -/
def isRegistered : Lifecycle → Bool
  | .registered _ => true
  | _ => false

/-- The name of a state. -/
def label : Lifecycle → String
  | .unregistered => "Unregistered"
  | .registering => "Registering"
  | .registered _ => "Registered"
  | .unregistering => "Unregistering"

end Lifecycle

end TraceExport
