/-
JSON values. A number is kept as it is written, and the members of an object in their order, also
where a name is repeated.
-/
namespace TraceExport

/-- A JSON value. -/
inductive Json
  | null
  | bool (b : Bool)
  /-- A number, as it is written. -/
  | number (text : String)
  | string (s : String)
  | array (items : List Json)
  | object (members : List (String × Json))
  /-- A value that follows the grammar but has a string, or the name of a member, in which an
  escaped surrogate stands alone. Such a string is no text. -/
  | unpaired
  deriving Repr, Inhabited

namespace Json

/-- A whole number. -/
def int (n : Int) : Json := .number n.repr

/-- The text of a string. -/
def string? : Json → Option String
  | .string s => some s
  | _ => none

/-- The texts of an array of strings. -/
def strings? : Json → Option (List String)
  | .array items => items.mapM string?
  | _ => none

/-- The values that an object gives a name, in order. -/
def valuesOf (name : String) (members : List (String × Json)) : List Json :=
  (members.filter (·.1 = name)).map (·.2)

end Json

end TraceExport
