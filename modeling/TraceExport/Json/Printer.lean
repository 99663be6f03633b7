/-
The compact text of a JSON value: no blanks, members in their order.
-/
import TraceExport.Json.Text
import TraceExport.Json.Value

namespace TraceExport.Json

mutual

/-- The characters of a value. A value that is no text has none. -/
def chars : Json → List Char
  | .null => ['n', 'u', 'l', 'l']
  | .bool true => ['t', 'r', 'u', 'e']
  | .bool false => ['f', 'a', 'l', 's', 'e']
  | .number text => text.toList
  | .string s => quote s.toList
  | .array items => '[' :: (itemChars items ++ [']'])
  | .object members => '{' :: (memberChars members ++ ['}'])
  | .unpaired => []

/-- The items of an array with commas between them. -/
def itemChars : List Json → List Char
  | [] => []
  | [v] => chars v
  | v :: w :: vs => chars v ++ ',' :: itemChars (w :: vs)

/-- The members of an object with commas between them. -/
def memberChars : List (String × Json) → List Char
  | [] => []
  | [(k, v)] => quote k.toList ++ ':' :: chars v
  | (k, v) :: m :: ms => quote k.toList ++ ':' :: chars v ++ ',' :: memberChars (m :: ms)

end

/-- The compact text of a value. -/
def compact (v : Json) : String := String.ofList (chars v)

end TraceExport.Json
