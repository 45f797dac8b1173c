/-
# Positions in formulas

* A position names a cell by two coordinates.  Each is either *relative*, and moves with the
  formula that holds it, or *fixed* (`$`), and stays.
* Written, a position is its column letters and its row number, counted from one, each behind a
  `$` if it is fixed.  The row behind the last word has no number: `text` goes on with zero there,
  and `text?` has no text, which is how a checked program stops.
* A move keeps the marks, and leads nowhere when it leaves the grid.
-/
import Spreadsheet.Grid.Column
import Spreadsheet.Decimal.Reading
import Spreadsheet.Text.Blank

namespace Spreadsheet.Grid

/-! ## 1. Coordinates -/

/-- **One coordinate of a position.** -/
structure Coordinate where
  index : Nat
  fixed : Bool
deriving DecidableEq, Repr

/-- Where the coordinate is after its formula moved by `delta` lines on an axis with `limit`
lines.  The number of lines is a word of 64 bits with a sign; their sum is taken as it is, also where
it is no such word. -/
def Coordinate.move? (c : Coordinate) (limit : Nat) (delta : Int) : Option Coordinate :=
  let index : Int := if c.fixed then c.index else c.index + delta
  if 0 ≤ index ∧ index < limit then some { c with index := index.toNat } else none

/-! ## 2. Positions -/

/-- **A cell named by a formula.** -/
structure Position where
  row : Coordinate
  col : Coordinate
deriving DecidableEq, Repr

/-- The relative position of a spot. -/
def Position.ofSpot (s : Spot) : Position := ⟨⟨s.row, false⟩, ⟨s.col, false⟩⟩

/-- The fixed position of a spot. -/
def Position.fixedAt (s : Spot) : Position := ⟨⟨s.row, true⟩, ⟨s.col, true⟩⟩

/-- The spot that a position names. -/
def Position.spot (p : Position) : Spot := ⟨p.row.index, p.col.index⟩

/-- The position with the same spot and both coordinates relative. -/
def Position.relative (p : Position) : Position := .ofSpot p.spot

/-- Whether two positions name one cell. -/
def Position.sameSpot (p q : Position) : Bool := p.spot == q.spot

/-- The coordinate of a position on an axis. -/
def Position.along (p : Position) : Axis → Coordinate
  | .rows => p.row
  | .columns => p.col

/-- The position with another coordinate on an axis. -/
def Position.withAlong (p : Position) (axis : Axis) (c : Coordinate) : Position :=
  match axis with
  | .rows => { p with row := c }
  | .columns => { p with col := c }

/-- **Where a position is after its formula moved.** -/
def Position.move? (p : Position) (rows columns : Int) : Option Position :=
  match p.row.move? maxRows rows, p.col.move? maxColumns columns with
  | some row, some col => some ⟨row, col⟩
  | _, _ => none

/-! ## 3. Writing -/

/-- The number of a row as a word of 32 bits, counted from one. -/
def rowNumber (row : Nat) : Nat := (row + 1) % Axis.rows.words

/-- The number of a row, unless it is no word of 32 bits. -/
def rowNumber? (row : Nat) : Option Nat :=
  if row + 1 < Axis.rows.words then some (row + 1) else none

/-- The characters of a mark. -/
def fixedMark (fixed : Bool) : List Char := if fixed then ['$'] else []

/-- **A position as it is written.** -/
def Position.chars (p : Position) : List Char :=
  fixedMark p.col.fixed ++ columnLetters p.col.index ++
    (fixedMark p.row.fixed ++ Nat.toDigits 10 (rowNumber p.row.index))

/-- A position as it is written. -/
def Position.text (p : Position) : String := String.ofList p.chars

/-- A position as it is written, unless the number of its row is no word. -/
def Position.text? (p : Position) : Option String :=
  (rowNumber? p.row.index).map fun number =>
    String.ofList (fixedMark p.col.fixed ++ columnLetters p.col.index ++
      (fixedMark p.row.fixed ++ Nat.toDigits 10 number))

/-- A spot as it is written. -/
def Spot.text (s : Spot) : String := (Position.ofSpot s).text

/-- A spot as it is written, unless the number of its row is no word. -/
def Spot.text? (s : Spot) : Option String := (Position.ofSpot s).text?

/-- A key as it is written in listings. -/
def Key.text (k : Key) : String := k.sheet.text ++ "!" ++ k.spot.text

/-! ## 4. Reading -/

/-- **Why a text names no cell.** -/
inductive AddressFault where
  | empty
  | noColumnLetters (text : String)
  | badRowNumber (text : String)
  | rowNumberZero (text : String)
  | rowBeyond (row : Nat)
  | column (fault : ColumnFault)
deriving DecidableEq, Repr

/-- What is said about a text that names no cell. -/
def AddressFault.message : AddressFault → String
  | .empty => "Invalid cell address: empty address"
  | .noColumnLetters text => s!"Invalid cell address: no column letters in '{text}'"
  | .badRowNumber text => s!"Invalid cell address: invalid row number in '{text}'"
  | .rowNumberZero text => s!"Invalid cell address: row number must be >= 1 in '{text}'"
  | .rowBeyond row => s!"Row index {row} out of bounds (max: {maxRows - 1})"
  | .column .noLetters => "Invalid cell address: empty column letters"
  | .column (.notALetter c) => s!"Invalid cell address: invalid column letter '{c}'"
  | .column .beyondGrid => s!"Column index {Axis.columns.words - 1} out of bounds (max: {maxColumns - 1})"

/-- Takes a `$` off the front. -/
def takeMark : List Char → Bool × List Char
  | '$' :: rest => (true, rest)
  | cs => (false, cs)

/-- The row that digits number; `text` is quoted in complaints. -/
def readRow (text : String) (digits : List Char) : Except AddressFault Nat :=
  if digits.isEmpty || !digits.all Char.isDigit then .error (.badRowNumber text)
  else
    let number := Decimal.digitsValue digits
    if Axis.rows.words ≤ number then .error (.badRowNumber text)
    else if number = 0 then .error (.rowNumberZero text)
    else if maxRows ≤ number - 1 then .error (.rowBeyond (number - 1))
    else .ok (number - 1)

/-- The position that characters without blanks around them name. -/
def readPosition (cs : List Char) : Except AddressFault Position := do
  let text := String.ofList cs
  if cs.isEmpty then throw .empty
  let (colFixed, rest) := takeMark cs
  let letters := rest.takeWhile Char.isAlpha
  if letters.isEmpty then throw (.noColumnLetters text)
  let col ← (readColumn letters).mapError .column
  let (rowFixed, digits) := takeMark (rest.dropWhile Char.isAlpha)
  let row ← readRow text digits
  return ⟨⟨row, rowFixed⟩, ⟨col, colFixed⟩⟩

/-- **The position that a text names.** -/
def Position.read (text : String) : Except AddressFault Position :=
  readPosition (Text.trimChars text.toList)

end Spreadsheet.Grid
