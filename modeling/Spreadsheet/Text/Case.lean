/-
# Small and capital letters

* Names of sheets and of ranges are found whatever their case, and texts compare by their small
  form, so the mapping covers all of Unicode and not ASCII alone.
* One letter depends on its place: a capital sigma is small `ς` where a word ends and `σ`
  elsewhere.  A word ends there when the nearest character before it that casing does not look
  through is cased and the nearest one after it is not.
* Keywords, functions and error codes are written in ASCII; they fold by ASCII alone.
-/
import Spreadsheet.Text.CaseTable

namespace Spreadsheet.Text

/-! ## 1. One letter -/

/-- Where the run moves a code point, if the code point belongs to it. -/
def CaseRun.image? (run : CaseRun) (code : Nat) : Option Nat :=
  if run.first ≤ code && code ≤ run.last && (code - run.first) % run.stride == 0 then
    some (code + run.shift).toNat
  else
    none

/-- **The counterpart of a letter.**  Letters with several counterparts are looked up first; a
character in no table is its own counterpart. -/
def counterpart (runs : List CaseRun) (spellings : List (Nat × List Nat)) (c : Char) : List Char :=
  match spellings.lookup c.toNat with
  | some codes => codes.map Char.ofNat
  | none =>
    match runs.findSome? (·.image? c.toNat) with
    | some code => [Char.ofNat code]
    | none => [c]

/-- The small form of a letter, wherever it stands. -/
def smallLetter (c : Char) : List Char :=
  if c.toNat < 128 then [c.toLower] else counterpart smallRuns smallSpellings c

/-- The capital form of a letter. -/
def capitalLetter (c : Char) : List Char :=
  if c.toNat < 128 then [c.toUpper] else counterpart capitalRuns capitalSpellings c

/-! ## 2. Whole texts -/

/-- Whether the character has a case. -/
def isCased (c : Char) : Bool :=
  casedBlocks.any fun block => block.1 ≤ c.toNat && c.toNat ≤ block.2

/-- Whether casing looks through the character. -/
def isCaseIgnorable (c : Char) : Bool :=
  ignorableBlocks.any fun block => block.1 ≤ c.toNat && c.toNat ≤ block.2

/-- Whether the first character that casing does not look through is cased. -/
def meetsCased (cs : List Char) : Bool :=
  match cs.dropWhile isCaseIgnorable with
  | [] => false
  | c :: _ => isCased c

/-- The small form of the rest of a text; `before` holds what precedes it, nearest first. -/
def smallChars (before : List Char) : List Char → List Char
  | [] => []
  | c :: rest =>
    let here :=
      if c == 'Σ' then
        if meetsCased before && !meetsCased rest then ['ς'] else ['σ']
      else
        smallLetter c
    here ++ smallChars (c :: before) rest

/-- **The text in small letters.** -/
def small (s : String) : String := String.ofList (smallChars [] s.toList)

/-- **The text in capital letters.** -/
def capital (s : String) : String := String.ofList (s.toList.flatMap capitalLetter)

/-! ## 3. Folding by ASCII alone -/

/-- The text with its ASCII letters capital. -/
def asciiCapital (s : String) : String := String.ofList (s.toList.map Char.toUpper)

/-- Whether two texts agree up to the case of ASCII letters. -/
def sameLetters (a b : String) : Bool := asciiCapital a == asciiCapital b

theorem sameLetters_refl (a : String) : sameLetters a a = true := by simp [sameLetters]

end Spreadsheet.Text
