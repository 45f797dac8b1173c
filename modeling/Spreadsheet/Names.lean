/-
# Named ranges

* A sheet gives names to ranges of its own.  A name is found whatever its case and is listed as
  it was written last; names are listed in the order of their small forms.
* A name can be read as nothing else in a formula: it starts with a letter or an underscore, goes
  on with letters, digits, underscores and points, and is neither an address nor a truth value.
-/
import Spreadsheet.Grid.Range
import Spreadsheet.Grid.Table

namespace Spreadsheet

open Grid

/-! ## 1. Names -/

/-- **Why a name cannot be given.** -/
inductive NameFault where
  | notAName (name : String)
  | looksLikeAddress (name : String)
deriving DecidableEq, Repr

/-- What is said about a name that cannot be given. -/
def NameFault.message : NameFault → String
  | .notAName name => s!"Invalid named range: {name}"
  | .looksLikeAddress name => s!"Invalid named range: {name} looks like a cell address"

/-- Characters that a name starts with. -/
def startsName (c : Char) : Bool := c.isAlpha || c == '_'

/-- Characters that a name goes on with. -/
def continuesName (c : Char) : Bool := c.isAlphanum || c == '_' || c == '.'

/-- **Accepts the names that can be given.** -/
def checkName (name : String) : Except NameFault Unit :=
  match name.toList with
  | c :: rest =>
    if !startsName c || !rest.all continuesName then .error (.notAName name)
    else if (Position.read name).isOk then .error (.looksLikeAddress name)
    else if Text.sameLetters name "TRUE" || Text.sameLetters name "FALSE" then
      .error (.notAName name)
    else .ok ()
  | [] => .error (.notAName name)

/-! ## 2. The names of a sheet -/

/-- A name as it was written, and its range. -/
structure NamedRange where
  name : String
  range : Range
deriving DecidableEq, Repr

/-- **Named ranges by the small form of their names.** -/
structure NameTable where
  byKey : Table String NamedRange
deriving DecidableEq

namespace NameTable

/-- No names. -/
def empty : NameTable := ⟨.empty⟩

instance : Inhabited NameTable := ⟨empty⟩

/-- The named range that a name stands for. -/
def find? (t : NameTable) (name : String) : Option NamedRange := t.byKey.get? (Text.small name)

/-- The range that a name stands for. -/
def range? (t : NameTable) (name : String) : Option Range := (t.find? name).map (·.range)

/-- Whether the name is given. -/
def contains (t : NameTable) (name : String) : Bool := (t.find? name).isSome

/-- **Gives a name to a range,** taking it from the range that had it. -/
def define (t : NameTable) (name : String) (range : Range) : Except NameFault NameTable :=
  (checkName name).map fun _ => ⟨t.byKey.put (Text.small name) ⟨name, range⟩⟩

/-- Takes a name back. -/
def remove (t : NameTable) (name : String) : NameTable := ⟨t.byKey.erase (Text.small name)⟩

/-- Moves the named ranges, and takes the names of those back that are left without one. -/
def mapRanges (t : NameTable) (f : Range → Option Range) : NameTable :=
  ⟨t.byKey.filterMap fun _ n => (f n.range).map fun r => { n with range := r }⟩

/-- The named ranges in order. -/
def toList (t : NameTable) : List NamedRange := t.byKey.entries.map (·.2)

/-- Number of names. -/
def size (t : NameTable) : Nat := t.byKey.size

end NameTable

end Spreadsheet
