/-
The tree that a TOML document builds up. A table can be opened by a header, or come into being
because a header or a dotted key goes through it, and this decides by what it may be extended.
Headers and dotted keys go down the tree by the same path, through the last row of an array of
tables.
-/
import TraceExport.Toml.Value

namespace TraceExport.Toml

/-- How a table came into being. -/
inductive Origin
  /-- By a header of its own. -/
  | header
  /-- On the path of a header. -/
  | passed
  /-- On the path of a dotted key. -/
  | dotted
  deriving DecidableEq, Repr

/-- A part of the tree. -/
inductive Node
  | value (value : Value)
  | table (origin : Origin) (entries : List (String × Node))
  /-- An array of tables, one for each of its headers. -/
  | rows (tables : List (List (String × Node)))
  deriving Repr, Inhabited

namespace Node

/-- The entries of a table. -/
abbrev Entries := List (String × Node)

/-- Puts a node in the place of the one with the key. -/
def replace (entries : Entries) (key : String) (node : Node) : Entries :=
  entries.map fun (k, old) => if k = key then (k, node) else (k, old)

/-- Leaves out the entry with the key. -/
def erase (entries : Entries) (key : String) : Entries := entries.filter (·.1 ≠ key)

/-! ## Going down -/

/-- A change of a table, which sees how the table came into being. -/
abbrev Change := Origin → Entries → Option Entries

/-- Changes the table at the end of a path. A table that is missing comes into being on the way. A
dotted key does not go through a table with a header of its own, and no path goes through a
value. -/
def alter (isDotted : Bool) (change : Change) : List String → Change
  | [], origin, entries => change origin entries
  | k :: ks, _, entries =>
    match entries.lookup k with
    | none => do
      let origin := if isDotted then .dotted else .passed
      return entries ++ [(k, .table origin (← alter isDotted change ks origin []))]
    | some (.table origin inner) =>
      if isDotted ∧ origin = .header then none
      else do
        return replace entries k (.table origin (← alter isDotted change ks origin inner))
    | some (.rows tables) => do
      let table ← alter isDotted change ks .header (← tables.getLast?)
      return replace entries k (.rows (tables.dropLast ++ [table]))
    | some (.value _) => none

/-! ## Changes -/

/-- Adds an entry whose key is new. Behind a path of dotted keys, the table is one of theirs. -/
def add (isBehindPath : Bool) (key : String) (node : Node) : Change := fun origin entries =>
  if isBehindPath ∧ origin ≠ .dotted ∨ (entries.lookup key).isSome then none
  else some (entries ++ [(key, node)])

/-- Adds the entry of a line, down the path of its key. -/
def assign (path : List String) (key : String) (node : Node) : Change :=
  alter true (add (!path.isEmpty) key node) path

/-- Opens a table. It is new, or a header went through it before. In both cases it is the last
entry from here on. -/
def openTable (key : String) : Change := fun _ entries =>
  match entries.lookup key with
  | none => some (entries ++ [(key, .table .header [])])
  | some (.table .passed inner) => some (erase entries key ++ [(key, .table .header inner)])
  | some _ => none

/-- Opens a further table in an array of tables. -/
def openRow (key : String) : Change := fun _ entries =>
  match entries.lookup key with
  | none => some (entries ++ [(key, .rows [[]])])
  | some (.rows tables) => some (replace entries key (.rows (tables ++ [[]])))
  | some _ => none

/-! ## Values -/

mutual

/-- The value of a node. Its entries keep their order. -/
def toValue : Node → Value
  | .value v => v
  | .table _ entries => .table (entryValues entries)
  | .rows tables => .array (rowValues tables)

/-- The values of the entries of a table. -/
def entryValues : Entries → List (String × Value)
  | [] => []
  | (k, node) :: es => (k, node.toValue) :: entryValues es

/-- The values of the tables of an array. -/
def rowValues : List Entries → List Value
  | [] => []
  | entries :: tables => .table (entryValues entries) :: rowValues tables

end

end Node

end TraceExport.Toml
