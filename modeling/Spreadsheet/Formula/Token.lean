/-
# The words of a formula

* A formula is read as a list of words.  Blanks separate words and mean nothing else.
* A word is as long as possible.  Each reading step takes at least one character, so reading ends;
  a character that starts no word is a word of its own, and complaining about it is left to the
  grammar.
* Letters, digits and the marks between them form one word; what follows it decides what it is:
  before a `!` the name of a sheet, before an opening parenthesis the name of a function, and
  otherwise a truth value, an address or a name.
-/
import Spreadsheet.Formula.Expr
import Spreadsheet.Text.Quoted
import Spreadsheet.Text.Blank

namespace Spreadsheet.Formula

open Grid

/-! ## 1. Words -/

/-- **A word of a formula.** -/
inductive Token where
  | number (x : Float)
  | text (s : String)
  | bool (b : Bool)
  | error (code : ErrorCode)
  | identifier (s : String)
  | address (s : String)
  | sheet (name : String)
  | operator (op : BinaryOp)
  | percent
  | colon
  | comma
  | openParen
  | closeParen
  | invalid (c : Char)
  | unterminated
deriving DecidableEq, Repr

/-- The word for an operator in messages. -/
def BinaryOp.label : BinaryOp → String
  | .add => "Plus"
  | .subtract => "Minus"
  | .multiply => "Star"
  | .divide => "Slash"
  | .power => "Caret"
  | .equal => "Equal"
  | .notEqual => "NotEqual"
  | .less => "LessThan"
  | .lessOrEqual => "LessEqual"
  | .greater => "GreaterThan"
  | .greaterOrEqual => "GreaterEqual"
  | .join => "Ampersand"

/-- The word for an error code in messages. -/
def errorLabel : ErrorCode → String
  | .null => "Null"
  | .div0 => "Div0"
  | .value => "Value"
  | .ref => "Ref"
  | .name => "Name"
  | .num => "Num"
  | .na => "Na"

/-- **A word as messages show it.** -/
def Token.shown : Token → String
  | .number x => "Number(" ++ String.ofList (Decimal.Layout.explicit.chars x) ++ ")"
  | .text s => "String(" ++ Text.quoted '"' s.toList ++ ")"
  | .bool b => if b then "Boolean(true)" else "Boolean(false)"
  | .error code => "Error(" ++ errorLabel code ++ ")"
  | .identifier s => "Identifier(" ++ Text.quoted '"' s.toList ++ ")"
  | .address s => "CellRef(" ++ Text.quoted '"' s.toList ++ ")"
  | .sheet name => "SheetRef(" ++ Text.quoted '"' name.toList ++ ")"
  | .operator op => op.label
  | .percent => "Percent"
  | .colon => "Colon"
  | .comma => "Comma"
  | .openParen => "LeftParen"
  | .closeParen => "RightParen"
  | .invalid c => "Invalid(" ++ Text.quoted '\'' [c] ++ ")"
  | .unterminated => "Unterminated"

/-- The next word as messages show it. -/
def shownNext : List Token → String
  | [] => "Eof"
  | t :: _ => t.shown

/-! ## 2. Character classes -/

/-- Characters of an error code after its `#`. -/
def inErrorCode (c : Char) : Bool := c.isAlphanum || c == '!' || c == '/' || c == '?'

/-- Characters that a word of letters starts with. -/
def startsWord (c : Char) : Bool := c.isAlpha || c == '_' || c == '$'

/-- Characters of a word of letters. -/
def inWord (c : Char) : Bool := c.isAlphanum || c == '_' || c == '$' || c == '.'

/-- Whether all of a text is letters and digits with an optional `$` before each. -/
def isAddress (cs : List Char) : Bool :=
  let (_, rest) := takeMark cs
  let (_, digits) := takeMark (rest.dropWhile Char.isAlpha)
  !(rest.takeWhile Char.isAlpha).isEmpty && !digits.isEmpty && digits.all Char.isDigit

/-! ## 3. Numbers -/

/-- Splits an exponent off the front: the letter `e`, a sign, digits.  Without a sign there has
to be a digit. -/
def spanExponent : List Char → List Char × List Char
  | c :: d :: rest =>
    if c = 'e' ∨ c = 'E' then
      if d = '+' ∨ d = '-' then
        (c :: d :: rest.takeWhile Char.isDigit, rest.dropWhile Char.isDigit)
      else if d.isDigit then
        (c :: d :: rest.takeWhile Char.isDigit, rest.dropWhile Char.isDigit)
      else ([], c :: d :: rest)
    else ([], c :: d :: rest)
  | cs => ([], cs)

/-- Splits a point and the digits behind it off the front. -/
def spanFraction : List Char → List Char × List Char
  | '.' :: rest => ('.' :: rest.takeWhile Char.isDigit, rest.dropWhile Char.isDigit)
  | cs => ([], cs)

/-- **Splits a number off the front.** -/
def spanNumber (cs : List Char) : List Char × List Char :=
  let fraction := spanFraction (cs.dropWhile Char.isDigit)
  let exponent := spanExponent fraction.2
  (cs.takeWhile Char.isDigit ++ fraction.1 ++ exponent.1, exponent.2)

theorem spanExponent_append (cs : List Char) : (spanExponent cs).1 ++ (spanExponent cs).2 = cs := by
  unfold spanExponent
  split
  · split
    · split
      · simp
      · split <;> simp
    · simp
  · simp

theorem spanFraction_append (cs : List Char) : (spanFraction cs).1 ++ (spanFraction cs).2 = cs := by
  unfold spanFraction
  split <;> simp

/-- Nothing is lost. -/
theorem spanNumber_append (cs : List Char) : (spanNumber cs).1 ++ (spanNumber cs).2 = cs := by
  simp only [spanNumber, List.append_assoc]
  rw [spanExponent_append, spanFraction_append, List.takeWhile_append_dropWhile]

/-- Whether a number starts here. -/
def startsNumber : List Char → Bool
  | c :: d :: _ => c.isDigit || (c == '.' && d.isDigit)
  | [c] => c.isDigit
  | [] => false

/-- A number takes at least one character. -/
theorem spanNumber_rest_lt {cs : List Char} (h : startsNumber cs) :
    (spanNumber cs).2.length < cs.length := by
  have happ := congrArg List.length (spanNumber_append cs)
  have hne : (spanNumber cs).1 ≠ [] := by
    match cs, h with
    | c :: d :: rest, h =>
      simp only [startsNumber, Bool.or_eq_true, Bool.and_eq_true, beq_iff_eq] at h
      rcases h with h | ⟨rfl, h⟩
      · simp [spanNumber, h]
      · have hdot : ('.' : Char).isDigit = false := by decide
        simp [spanNumber, hdot, spanFraction]
    | [c], h =>
      simp only [startsNumber] at h
      simp [spanNumber, h]
  have hpos := List.length_pos_iff.mpr hne
  simp only [List.length_append] at happ
  omega

/-- The word for the characters of a number. -/
def numberToken (cs : List Char) : Token :=
  match Decimal.read? cs with
  | some x => .number x
  | none => .invalid (cs.headD '?')

/-! ## 4. One word -/

/-- The word that letters make, given what follows them. -/
def wordToken (word rest : List Char) : Token :=
  let s := String.ofList word
  let called := rest.head? == some '('
  if !called && Text.sameLetters s "TRUE" then .bool true
  else if !called && Text.sameLetters s "FALSE" then .bool false
  else if !called && isAddress word then .address s
  else .identifier s

/-- The word that starts with `#`. -/
def hashToken (word : List Char) : Token :=
  let s := String.ofList word
  match ErrorCode.read? s with
  | some code => .error code
  | none => .identifier s

/-- The words of a single character. -/
def markToken? : Char → Option Token
  | '+' => some (.operator .add)
  | '-' => some (.operator .subtract)
  | '*' => some (.operator .multiply)
  | '/' => some (.operator .divide)
  | '^' => some (.operator .power)
  | '&' => some (.operator .join)
  | '=' => some (.operator .equal)
  | '%' => some .percent
  | ':' => some .colon
  | ',' => some .comma
  | '(' => some .openParen
  | ')' => some .closeParen
  | _ => none

/-- The operators that start with an angle, after the angle. -/
def angleToken (c : Char) : List Char → Token × List Char
  | '=' :: rest => (.operator (if c = '<' then .lessOrEqual else .greaterOrEqual), rest)
  | '>' :: rest => if c = '<' then (.operator .notEqual, rest) else (.operator .greater, '>' :: rest)
  | rest => (.operator (if c = '<' then .less else .greater), rest)

/-- The text constant after its opening quote.  Without a closing quote it takes all that is
left. -/
def textToken (cs : List Char) : Token × List Char :=
  match Text.readDelimited? '"' cs with
  | some (out, rest) => (.text (String.ofList out), rest)
  | none => (.unterminated, [])

/-- The sheet name after its opening quote; a `!` has to follow the closing one. -/
def sheetToken (cs : List Char) : Token × List Char :=
  match Text.readDelimited? '\'' cs with
  | some (out, '!' :: rest) => (.sheet (String.ofList out), rest)
  | some (_, rest) => (.unterminated, rest)
  | none => (.unterminated, [])

/-- **The first word of `c :: rest`,** where `c` is not blank, and what follows the word. -/
def firstToken (c : Char) (rest : List Char) : Token × List Char :=
  match markToken? c with
  | some t => (t, rest)
  | none =>
    if c = '<' ∨ c = '>' then angleToken c rest
    else if c = '"' then textToken rest
    else if c = '\'' then sheetToken rest
    else if startsNumber (c :: rest) then
      (numberToken (spanNumber (c :: rest)).1, (spanNumber (c :: rest)).2)
    else if c = '#' then
      (hashToken (c :: rest.takeWhile inErrorCode), rest.dropWhile inErrorCode)
    else if startsWord c then
      match rest.dropWhile inWord with
      | '!' :: after => (.sheet (String.ofList (c :: rest.takeWhile inWord)), after)
      | after => (wordToken (c :: rest.takeWhile inWord) after, after)
    else
      (.invalid c, rest)

/-- A word takes at least one character. -/
theorem firstToken_rest_le (c : Char) (rest : List Char) :
    (firstToken c rest).2.length ≤ rest.length := by
  unfold firstToken
  split
  · exact Nat.le_refl _
  · split
    · unfold angleToken
      split
      · simp
      · split <;> simp
      · simp
    · split
      · unfold textToken
        split
        · rename_i h; exact Nat.le_of_lt (Text.readDelimited?_rest_lt h)
        · simp
      · split
        · unfold sheetToken
          split
          · rename_i h
            have := Text.readDelimited?_rest_lt h
            simp only [List.length_cons] at this
            dsimp only
            omega
          · rename_i h; exact Nat.le_of_lt (Text.readDelimited?_rest_lt h)
          · simp
        · split
          · rename_i h
            have := spanNumber_rest_lt h
            simp only [List.length_cons] at this
            exact Nat.le_of_lt_succ this
          · split
            · exact (List.dropWhile_suffix _).length_le
            · split
              · have := (List.dropWhile_suffix (l := rest) inWord).length_le
                split
                · rename_i after h
                  rw [h] at this
                  simp only [List.length_cons] at this
                  dsimp only
                  omega
                · exact this
              · exact Nat.le_refl _

/-! ## 5. All words -/

set_option linter.unusedVariables false in
/-- **The words of a formula.** -/
def tokens (cs : List Char) : List Token :=
  match h : Text.skipBlanks cs with
  | [] => []
  | c :: rest => (firstToken c rest).1 :: tokens (firstToken c rest).2
termination_by cs.length
decreasing_by
  have hle := Text.skipBlanks_length_le cs
  have hrest := firstToken_rest_le c rest
  rw [h] at hle
  simp only [List.length_cons] at hle
  omega

end Spreadsheet.Formula
