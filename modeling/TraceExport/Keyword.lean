/-
Keywords: the masks with which a tracing controller selects categories. A bit below 61 stands for
one category, bits 61 and 62 for all the others, and bit 63 is always set by a controller.
-/
import TraceExport.Failure
import TraceExport.Text.Blank

namespace TraceExport

/-- A mask of sixty-four bits. -/
abbrev Keyword := BitVec 64

namespace Keyword

/-! ## The bits -/

/-- The bit of every category that has none of its own. -/
def otherEvents : Keyword := 1#64 <<< 61

/-- The bit of every category that has none of its own and is disabled by default. -/
def disabledOtherEvents : Keyword := 1#64 <<< 62

/-- The bit that a controller always sets. -/
def reserved : Keyword := 1#64 <<< 63

/-- The number of bits that stand for one category each. -/
def categoryBits : Nat := 61

/-! ## Text -/

/-- The text of a keyword without blanks at its ends and without underscores. -/
def cleaned (text : String) : List Char :=
  (Text.trim text.toList).filter (· ≠ '_')

/-- Reads the number in a cleaned text: in base sixteen after a base mark, in base ten without. -/
def readCleaned : List Char → Except Numeral.Fault Nat
  | '0' :: 'x' :: cs => Numeral.read 16 (Nat.pow 2 64) cs
  | '0' :: 'X' :: cs => Numeral.read 16 (Nat.pow 2 64) cs
  | cs => Numeral.read 10 (Nat.pow 2 64) cs

/-- Reads a keyword as it is given to a controller. -/
def parse (text : String) : Except Failure Keyword :=
  match readCleaned (cleaned text) with
  | .ok n => .ok (BitVec.ofNat 64 n)
  | .error fault => .error (.keyword text fault)

/-- A keyword as controllers print it: sixteen digits after the base mark. -/
def format (k : Keyword) : String :=
  String.ofList ('0' :: 'x' :: Numeral.hexDigits 16 k.toNat)

end Keyword

end TraceExport
