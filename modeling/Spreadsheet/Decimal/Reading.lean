/-
# Reading a decimal number

* The accepted texts are an optional sign followed by the words `inf`, `infinity` or `nan` in any
  case, or by digits with at most one point among them, at least one digit, and possibly an
  exponent with at least one digit.  No blanks, no separators, no other bases.
* The result is the double nearest to the number that was written.
-/
import Spreadsheet.Text.Case

namespace Spreadsheet.Decimal

/-! ## 1. Digits -/

/-- The value of a string of decimal digits, read onto the value of those before it. -/
def digitsOnto (value : Nat) (cs : List Char) : Nat :=
  cs.foldl (fun value c => value * 10 + (c.toNat - '0'.toNat)) value

/-- The value of a string of decimal digits. -/
def digitsValue (cs : List Char) : Nat := digitsOnto 0 cs

/-- Splits the decimal digits off the front. -/
def spanDigits (cs : List Char) : List Char × List Char :=
  (cs.takeWhile Char.isDigit, cs.dropWhile Char.isDigit)

/-! ## 2. The number that was written -/

/-- An unsigned decimal number, `digits * 10 ^ exponent`. -/
structure Written where
  digits : Nat
  exponent : Int
deriving DecidableEq, Repr

/-- The exponent at the end of a number; nothing where the text is no exponent. -/
def readExponent? : List Char → Option Int
  | [] => some 0
  | c :: rest =>
    if c = 'e' ∨ c = 'E' then
      let (negative, rest) :=
        match rest with
        | '-' :: rest => (true, rest)
        | '+' :: rest => (false, rest)
        | rest => (false, rest)
      if rest.isEmpty || !rest.all Char.isDigit then none
      else if negative then some (-(digitsValue rest : Int))
      else some (digitsValue rest)
    else
      none

/-- Digits, a point, digits, an exponent. -/
def readWritten? (cs : List Char) : Option Written :=
  let (whole, rest) := spanDigits cs
  let (fraction, rest) :=
    match rest with
    | '.' :: rest => spanDigits rest
    | rest => ([], rest)
  if whole.isEmpty && fraction.isEmpty then
    none
  else
    (readExponent? rest).map fun e => ⟨digitsValue (whole ++ fraction), e - fraction.length⟩

/-! ## 3. The nearest double -/

/-- Infinity. -/
def infinity : Float := 1.0 / 0.0

/-- The value that is no number. -/
def notANumber : Float := 0.0 / 0.0

/-- **The nearest double.**  A number whose leading digit lies far outside the range of doubles is
infinite or zero without its power of ten being formed. -/
def Written.nearest (w : Written) : Float :=
  let decade : Int := (Nat.toDigits 10 w.digits).length + w.exponent
  if w.digits = 0 then 0.0
  else if 400 < decade then infinity
  else if decade < -400 then 0.0
  else Float.ofScientific w.digits (w.exponent < 0) w.exponent.natAbs

/-- An unsigned number or one of the words. -/
def readUnsigned? (cs : List Char) : Option Float :=
  let word := cs.map Char.toLower
  if word = "inf".toList ∨ word = "infinity".toList then some infinity
  else if word = "nan".toList then some notANumber
  else (readWritten? cs).map Written.nearest

/-- **Reads a number,** all of the text being one. -/
def read? : List Char → Option Float
  | '-' :: rest => (readUnsigned? rest).map fun x => -x
  | '+' :: rest => readUnsigned? rest
  | cs => readUnsigned? cs

end Spreadsheet.Decimal
