/-
# How a number is laid out

* The digits come from `shortest`; a layout only decides where the point goes, how many places
  are shown at least, and from which size on an exponent is written instead of zeros.
* Zero is written without a sign: the grid never tells the two zeros apart.
* A value that is no number, and the infinities, are written as words.
-/
import Spreadsheet.Decimal.Shortest

namespace Spreadsheet.Decimal

/-! ## 1. Layouts -/

/-- **A layout.**  `places` is the least number of digits after the point of a positional text.
Where `exponents` is given, only numbers whose leading digit stands at an exponent inside that
interval are written positionally. -/
structure Layout where
  places : Nat
  exponents : Option (Int × Int)

/-- Numbers in cells and formulas are positional whatever their size, and whole ones have no
point. -/
def Layout.plain : Layout := ⟨0, none⟩

/-- Numbers in messages about tokens keep one place, and carry an exponent from `10 ^ 16` on and
below `10 ^ -4`. -/
def Layout.explicit : Layout := ⟨1, some (-4, 15)⟩

/-! ## 2. Writing digits -/

/-- `n` zeros. -/
def zeros (n : Nat) : List Char := List.replicate n '0'

/-- Digits with the point where the exponent puts it. -/
def positional (places : Nat) (ds : List Char) (exponent : Int) : List Char :=
  match exponent with
  | .ofNat e => ds ++ zeros e ++ (if places = 0 then [] else '.' :: zeros places)
  | .negSucc e =>
    if e + 1 < ds.length then
      ds.take (ds.length - (e + 1)) ++ '.' :: ds.drop (ds.length - (e + 1))
    else
      '0' :: '.' :: (zeros (e + 1 - ds.length) ++ ds)

/-- Digits with the point after the first one and the exponent of that one. -/
def scientific (ds : List Char) (exponent : Int) : List Char :=
  let lead : Int := exponent + ds.length - 1
  let fraction :=
    match ds with
    | d :: more@(_ :: _) => d :: '.' :: more
    | _ => ds
  let digits := Nat.toDigits 10 lead.natAbs
  fraction ++ 'e' :: (if lead < 0 then '-' :: digits else digits)

/-- The text of decimal digits. -/
def Layout.write (layout : Layout) (n : Digits) : List Char :=
  let ds := Nat.toDigits 10 n.digits
  let lead : Int := n.exponent + ds.length - 1
  match layout.exponents with
  | none => positional layout.places ds n.exponent
  | some (lowest, highest) =>
    if lowest ≤ lead ∧ lead ≤ highest then positional layout.places ds n.exponent
    else scientific ds n.exponent

/-! ## 3. Writing doubles -/

/-- **The text of a double in a layout.** -/
def Layout.chars (layout : Layout) (x : Float) : List Char :=
  match Parts.of x with
  | .notANumber => "NaN".toList
  | .infinite negative => if negative then "-inf".toList else "inf".toList
  | .finite negative m =>
    if m.mantissa = 0 then positional layout.places ['0'] 0
    else if negative then '-' :: layout.write (shortest m)
    else layout.write (shortest m)

/-- The text of a number in cells, formulas and answers. -/
def numberText (x : Float) : String := String.ofList (Layout.plain.chars x)

end Spreadsheet.Decimal
