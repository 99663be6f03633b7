/-
Reading TOML documents. A document is a list of lines: entries, headers of tables and of rows of
arrays of tables, comments, and empty lines. Arrays and inline tables may be nested to a depth
below eighty.
-/
import TraceExport.Toml.Node
import TraceExport.Toml.Number

namespace TraceExport.Toml

/-! ## Values -/

/-- Reads a value that holds no other. -/
def scalar? (cs : List Char) : Option (Value × List Char) :=
  match cs with
  | 't' :: 'r' :: 'u' :: 'e' :: rest => some (.bool true, rest)
  | 'f' :: 'a' :: 'l' :: 's' :: 'e' :: rest => some (.bool false, rest)
  | cs =>
    match string? cs with
    | some (s, rest) => some (.string (String.ofList s), rest)
    | none =>
      match datetime? cs with
      | some (d, rest) => some (.datetime d, rest)
      | none => number? cs

/-- Reads the mark between a key and its value. -/
def equals? (cs : List Char) : Option (List Char) :=
  match skipBlank cs with
  | '=' :: rest => some (skipBlank rest)
  | _ => none

/-- An inline table with the entries, if their keys go together. -/
def inlineTable? (entries : List ((List String × String) × Value)) : Option Value := do
  let table ← entries.foldlM (fun table ((path, key), v) =>
    Node.assign path key (.value v) .header table) []
  return (Node.table .header table).toValue

mutual

/-- Reads a value. The depth is what is left for values within it, and the fuel bounds the
calls. -/
def value? : (fuel depth : Nat) → List Char → Option (Value × List Char)
  | 0, _, _ => none
  | fuel + 1, depth, cs =>
    match cs with
    | '[' :: rest =>
      if depth ≤ 1 then none
      else do
        let (items, rest) ← items? fuel (depth - 1) rest
        return (.array items, rest)
    | '{' :: rest =>
      if depth ≤ 1 then none
      else
        match skipBlank rest with
        | '}' :: rest => some (.table [], rest)
        | rest => do
          let (entries, rest) ← entries? fuel (depth - 1) rest
          return (← inlineTable? entries, rest)
    | cs => scalar? cs

/-- Reads the items of an array up to its closing bracket. -/
def items? : (fuel depth : Nat) → List Char → Option (List Value × List Char)
  | 0, _, _ => none
  | fuel + 1, depth, cs => do
    match ← gap? false cs with
    | ']' :: rest => return ([], rest)
    | cs => do
      let (v, rest) ← value? fuel depth cs
      match ← gap? false rest with
      | ']' :: rest => return ([v], rest)
      | ',' :: rest => do
        let (vs, rest) ← items? fuel depth rest
        return (v :: vs, rest)
      | _ => none

/-- Reads the entries of an inline table up to its closing brace, at least one. -/
def entries? : (fuel depth : Nat) → List Char →
    Option (List ((List String × String) × Value) × List Char)
  | 0, _, _ => none
  | fuel + 1, depth, cs => do
    let (key, rest) ← key? cs
    let (v, rest) ← value? fuel depth (← equals? rest)
    match skipBlank rest with
    | '}' :: rest => return ([(key, v)], rest)
    | ',' :: rest => do
      let (es, rest) ← entries? fuel depth rest
      return ((key, v) :: es, rest)
    | _ => none

end

/-! ## Documents -/

/-- A document while it is read: its tree, and the path of the last header. -/
structure Document where
  root : Node.Entries := []
  current : List String := []

namespace Document

/-- Adds the entry of a line to the current table. -/
def assign (d : Document) (path : List String) (key : String) (v : Value) : Option Document := do
  return { d with
    root := ← Node.alter false (Node.assign path key (.value v)) d.current .header d.root }

/-- Opens the table of a header, which is the current one from here on. -/
def openAt (d : Document) (opened : String → Node.Change) (path : List String) (key : String) :
    Option Document := do
  return ⟨← Node.alter false (opened key) path .header d.root, path ++ [key]⟩

/-- Reads a header and opens its table. -/
def header? (d : Document) (cs : List Char) : Option (Document × List Char) :=
  match cs with
  | '[' :: rest => do
    let ((path, key), rest) ← key? rest
    let rest ← match rest with
      | ']' :: ']' :: rest => some rest
      | _ => none
    return (← d.openAt Node.openRow path key, ← trailing? rest)
  | cs => do
    let ((path, key), rest) ← key? cs
    let rest ← match rest with
      | ']' :: rest => some rest
      | _ => none
    return (← d.openAt Node.openTable path key, ← trailing? rest)

/-- Reads the entry of a line. -/
def entry? (d : Document) (cs : List Char) : Option (Document × List Char) := do
  let ((path, key), rest) ← key? cs
  let rest ← equals? rest
  let (v, rest) ← value? (2 * rest.length + 1) depthLimit rest
  return (← d.assign path key v, ← trailing? rest)

/-- Reads one line. -/
def line? (d : Document) (cs : List Char) : Option (Document × List Char) :=
  match skipBlank cs with
  | [] => some (d, [])
  | '[' :: rest => d.header? rest
  | '#' :: rest => (lineEnd? (rest.dropWhile isPlain)).map (d, ·)
  | cs =>
    match newline? cs with
    | some rest => some (d, rest)
    | none => d.entry? cs

/-- Reads the lines. Each takes a character at least, so the fuel bounds their number. -/
def lines? : (fuel : Nat) → Document → List Char → Option Document
  | _, d, [] => some d
  | 0, _, _ :: _ => none
  | fuel + 1, d, cs => do
    let (d, rest) ← d.line? cs
    lines? fuel d rest

end Document

/-- The text without the mark of its encoding in front. -/
def skipMark : List Char → List Char
  | '\uFEFF' :: rest => rest
  | cs => cs

/-- Reads the entries of a document, in their order. -/
def parse (text : String) : Option (List (String × Value)) := do
  let cs := skipMark text.toList
  let d ← Document.lines? cs.length {} cs
  return Node.entryValues d.root

end TraceExport.Toml
