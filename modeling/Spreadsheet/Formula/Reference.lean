/-
# References

* A formula refers to one cell or to the rectangle between two positions, on its own sheet or on
  a sheet that it names.
* The two positions of a rectangle are kept in order on each axis separately: the coordinates
  swap places where needed, and each takes its mark along.
* References move with their formula and follow the cells when lines are removed; either may
  leave nothing to refer to.
-/
import Spreadsheet.Grid.Range
import Spreadsheet.Text.Delimited

namespace Spreadsheet.Formula

open Grid

/-! ## 1. The type -/

/-- **What a formula refers to.** -/
inductive Reference where
  | cell (pos : Position)
  | area (first last : Position)
deriving DecidableEq, Repr

/-- Two coordinates in order; equal ones stay as they are. -/
def inOrder (a b : Coordinate) : Coordinate × Coordinate :=
  if a.index ≤ b.index then (a, b) else (b, a)

/-- The rectangle between two positions. -/
def Reference.between (a b : Position) : Reference :=
  let rows := inOrder a.row b.row
  let cols := inOrder a.col b.col
  .area ⟨rows.1, cols.1⟩ ⟨rows.2, cols.2⟩

/-- **The cells referred to.** -/
def Reference.range : Reference → Range
  | .cell pos => .single pos.spot
  | .area first last => .between first.spot last.spot

/-- The first position of a reference. -/
def Reference.first : Reference → Position
  | .cell pos => pos
  | .area first _ => first

/-- The last position of a reference. -/
def Reference.last : Reference → Position
  | .cell pos => pos
  | .area _ last => last

/-! ## 2. Moving with the formula -/

/-- **The reference after its formula moved,** unless it left the grid. -/
def Reference.move? (r : Reference) (rows columns : Int) : Option Reference :=
  match r with
  | .cell pos => (pos.move? rows columns).map .cell
  | .area first last =>
    match first.move? rows columns, last.move? rows columns with
    | some a, some b => some (.between a b)
    | _, _ => none

/-! ## 3. Following the cells -/

/-- A position with another index on an axis; the mark stays. -/
def reindex (p : Position) (axis : Axis) (index : Nat) : Position :=
  p.withAlong axis { p.along axis with index := index }

/-- **The reference after a band of lines was removed,** unless nothing is left of it. -/
def Reference.without? (r : Reference) (axis : Axis) (band : Span) : Option Reference :=
  let stop := band.first + band.count
  match r with
  | .cell pos =>
    let line := (pos.along axis).index
    if line < band.first then some (.cell pos)
    else if stop ≤ line then some (.cell (reindex pos axis (line - band.count)))
    else none
  | .area first last =>
    let firstLine := (first.along axis).index
    let lastLine := (last.along axis).index
    if band.first ≤ firstLine ∧ lastLine < stop then none
    else
      let newFirst :=
        if firstLine < band.first then firstLine
        else if stop ≤ firstLine then firstLine - band.count
        else band.first
      let newLast :=
        if lastLine < band.first then lastLine
        else if stop ≤ lastLine then lastLine - band.count
        else band.first - 1
      some (.area (reindex first axis newFirst) (reindex last axis newLast))

/-! ## 4. Writing -/

/-- Characters that a sheet name written without quotes starts with. -/
def startsPlainName (c : Char) : Bool := c.isAlpha || c == '_'

/-- Characters of a sheet name written without quotes. -/
def inPlainName (c : Char) : Bool := c.isAlphanum || c == '_' || c == '.'

/-- Whether a sheet name is written without quotes. -/
def isPlainName (cs : List Char) : Bool := cs.head?.any startsPlainName && cs.all inPlainName

/-- **A sheet name as formulas write it.** -/
def sheetNameChars (name : String) : List Char :=
  if isPlainName name.toList then name.toList else Text.delimited '\'' name.toList

/-- The characters in front of a reference to a named sheet. -/
def sheetMark : Option String → List Char
  | none => []
  | some name => sheetNameChars name ++ ['!']

/-- **A reference as formulas write it.** -/
def Reference.chars : Reference → List Char
  | .cell pos => pos.chars
  | .area first last => first.chars ++ ':' :: last.chars

end Spreadsheet.Formula
