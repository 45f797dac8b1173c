/-
# Why an operation is rejected

* Every rejection has one cause, and the cause carries what its text mentions.
* A message quotes ranges.  If one of them has no text, there is no message (`message?`): the
  program stops instead of answering.
* A rejected operation leaves the workbook as it was.  The one exception is a formula that reads
  its own cell: it is refused, but the cell gives up what it held.
-/
import Spreadsheet.Formula.Fault
import Spreadsheet.Names

namespace Spreadsheet

open Grid Formula

/-! ## 1. Causes of their own -/

/-- **Why a sheet cannot have a name.** -/
inductive SheetNameFault where
  | empty
  | tooLong
  | forbidden (c : Char)
  | taken (name : String)
deriving DecidableEq, Repr

/-- Characters of the longest sheet name. -/
def maxSheetName : Nat := 31

/-- Characters that no sheet name has, in the order in which they are looked for. -/
def forbiddenInSheetName : List Char := [':', '\\', '/', '?', '*', '[', ']']

/-- What is said about a name that a sheet cannot have. -/
def SheetNameFault.message : SheetNameFault → String
  | .empty => "Invalid sheet name: Sheet name cannot be empty"
  | .tooLong => s!"Invalid sheet name: Sheet name too long (max {maxSheetName} characters)"
  | .forbidden c => s!"Invalid sheet name: Sheet name cannot contain '{c}'"
  | .taken name => s!"Sheet name already exists: {name}"

/-- **Why a formula cannot stand in a cell:** it refers beyond the edge of a sheet, or it reads the
cell itself.  The sheet is given by its name. -/
inductive ReferenceFault where
  | beyondSheet (sheet : String) (range : Range)
  | ownCell (sheet : String) (spot : Spot)
deriving DecidableEq, Repr

/-- What is said about a formula that cannot stand in a cell. -/
def ReferenceFault.message : ReferenceFault → String
  | .beyondSheet sheet range => s!"Reference {sheet}!{range.text} is outside the sheet extents"
  | .ownCell sheet spot =>
    s!"Circular reference detected involving cell {sheet}!{spot.text}"

/-! ## 2. All causes -/

/-- **Why an operation is rejected.** -/
inductive Error where
  | rowBeyond (row last : Nat)
  | columnBeyond (col last : Nat)
  | noSheet (id : SheetId)
  | sheetName (fault : SheetNameFault)
  | name (fault : NameFault)
  | rangeBeyond (range : Range)
  | valueCount (range : Range) (given : Nat)
  | blockCount (range : Range) (given : Nat)
  | overlapsMerged (range : Range)
  | splitsMerged (region target : Range)
  | reference (fault : ReferenceFault)
  | formula (fault : Fault)
  | nothingToCopy (spot : Spot)
  | fillOntoItself (source target : Range)
  | fillAskew (source target : Range)
  | fillRefused (source target : Range)
  | noFormat (format : Nat) (sheet : SheetId)
deriving DecidableEq, Repr

namespace Error

/-- A fault of a formula as it is reported. -/
def faultMessage : Fault → String
  | .parse detail => "Formula parse error: " ++ detail
  | fault => "Formula evaluation error: " ++ fault.message

/-- **What is said about a rejected operation.** -/
def message : Error → String
  | .rowBeyond row last => s!"Row index {row} out of bounds (max: {last})"
  | .columnBeyond col last => s!"Column index {col} out of bounds (max: {last})"
  | .noSheet id => s!"Sheet not found: {id.text}"
  | .sheetName fault => fault.message
  | .name fault => fault.message
  | .rangeBeyond range => s!"Invalid cell range: {range.text}"
  | .valueCount range given =>
    s!"Invalid cell range: {range.text} holds {range.size} cells, got {given} values"
  | .blockCount range given =>
    s!"Invalid cell range: {range.text} holds {range.size} cells, grid has {given}"
  | .overlapsMerged range => s!"Range {range.text} conflicts with a merged region"
  | .splitsMerged region target =>
    s!"Range {region.text} crosses the fill target {target.text} conflicts with a merged region"
  | .reference fault => fault.message
  | .formula fault => faultMessage fault
  | .nothingToCopy spot => s!"Formula parse error: no formula to copy at {spot.text}"
  | .fillOntoItself source target =>
    s!"Invalid auto fill range: {source.text} overlaps {target.text}"
  | .fillAskew source target =>
    s!"Invalid auto fill range: {source.text} and {target.text} share neither rows nor columns"
  | .fillRefused source target =>
    s!"Operation cancelled: auto fill {source.text} -> {target.text}"
  | .noFormat format sheet => s!"no conditional format cf#{format} on {sheet.text}"

/-- The ranges that a message quotes. -/
def ranges : Error → List Range
  | .rangeBeyond range | .valueCount range _ | .blockCount range _ | .overlapsMerged range
  | .reference (.beyondSheet _ range) => [range]
  | .splitsMerged a b | .fillOntoItself a b | .fillAskew a b | .fillRefused a b => [a, b]
  | .reference (.ownCell _ spot) | .nothingToCopy spot => [.single spot]
  | .rowBeyond _ _ | .columnBeyond _ _ | .noSheet _ | .sheetName _ | .name _ | .formula _
  | .noFormat _ _ => []

/-- **What is said about a rejected operation,** unless a range that it quotes has no text. -/
def message? (e : Error) : Option String :=
  if e.ranges.all (·.text?.isSome) then some e.message else none

/-- Whether a formula was refused because it reads its own cell. -/
def isCircular : Error → Bool
  | .reference (.ownCell _ _) => true
  | _ => false

end Error

end Spreadsheet
