/-
# Quoted characters and texts in messages

A message about a formula shows the text it stumbled over between quotes, in a form that leaves
no doubt about what it holds: a backslash marks the quote itself, the backslash and the common
controls, and a character without a glyph is written by its number.
-/
import Spreadsheet.Text.Invisible

namespace Spreadsheet.Text

/-- The digits of a number in base sixteen, in small letters. -/
def hexDigits (n : Nat) : List Char := Nat.toDigits 16 n

/-- One character as quoted text shows it; `mark` is the quote around the text. -/
def quotedChar (mark : Char) (c : Char) : List Char :=
  if c = '\x00' then ['\\', '0']
  else if c = '\t' then ['\\', 't']
  else if c = '\r' then ['\\', 'r']
  else if c = '\n' then ['\\', 'n']
  else if c = '\\' ∨ c = mark then ['\\', c]
  else if isInvisible c then ['\\', 'u', '\x7b'] ++ hexDigits c.toNat ++ ['\x7d']
  else [c]

/-- **The text between marks.** -/
def quoted (mark : Char) (cs : List Char) : String :=
  String.ofList (mark :: (cs.flatMap (quotedChar mark) ++ [mark]))

end Spreadsheet.Text
