/-
# Styles

* A style says how a cell looks: two colours and two weights.
* A *change* of style sets some of the four attributes and leaves the rest as they are, so
  changes made one after the other win in the order they are made, attribute by attribute.
-/

namespace Spreadsheet

/-! ## 1. Colours -/

/-- **A colour,** or none chosen. -/
inductive Color where
  | auto
  | rgb (red green blue : UInt8)
deriving DecidableEq, Repr

/-- The value of a digit in base sixteen. -/
def hexDigit? (c : Char) : Option Nat :=
  if c.isDigit then some (c.toNat - '0'.toNat)
  else if 'a' ≤ c ∧ c ≤ 'f' then some (c.toNat - 'a'.toNat + 10)
  else if 'A' ≤ c ∧ c ≤ 'F' then some (c.toNat - 'A'.toNat + 10)
  else none

/-- The number that two characters write in base sixteen.  A plus sign may take the place of the
first digit. -/
def hexPair? (a b : Char) : Option UInt8 :=
  if a = '+' then (hexDigit? b).map UInt8.ofNat
  else do
    let high ← hexDigit? a
    let low ← hexDigit? b
    return UInt8.ofNat (high * 16 + low)

/-- **The colour that a text of six digits names.**  Any number of `#` may stand before them. -/
def Color.read? (text : String) : Option Color :=
  match text.toList.dropWhile (· == '#') with
  | [a, b, c, d, e, f] => do
    let red ← hexPair? a b
    let green ← hexPair? c d
    let blue ← hexPair? e f
    return .rgb red green blue
  | _ => none

/-- Two capital digits in base sixteen. -/
def hexText (n : UInt8) : List Char :=
  let digit (k : Nat) : Char :=
    if k < 10 then Char.ofNat ('0'.toNat + k) else Char.ofNat ('A'.toNat + (k - 10))
  [digit (n.toNat / 16), digit (n.toNat % 16)]

/-- The six digits of a colour, if one is chosen. -/
def Color.hex? : Color → Option String
  | .auto => none
  | .rgb red green blue => some (String.ofList (hexText red ++ hexText green ++ hexText blue))

/-- A colour as it is shown. -/
def Color.text (c : Color) : String :=
  match c.hex? with
  | none => "auto"
  | some digits => "#" ++ digits

/-! ## 2. Styles and changes -/

/-- **How a cell looks.** -/
structure Style where
  back : Color := .auto
  text : Color := .auto
  bold : Bool := false
  italic : Bool := false
deriving DecidableEq, Repr

instance : Inhabited Style := ⟨{}⟩

/-- **A change of style.**  An attribute that is not given stays as it is. -/
structure StyleChange where
  back : Option Color := none
  text : Option Color := none
  bold : Option Bool := none
  italic : Option Bool := none
deriving DecidableEq, Repr

/-- Whether the change changes nothing. -/
def StyleChange.isEmpty (change : StyleChange) : Bool := change == {}

/-- **The style after a change.** -/
def Style.apply (style : Style) (change : StyleChange) : Style where
  back := change.back.getD style.back
  text := change.text.getD style.text
  bold := change.bold.getD style.bold
  italic := change.italic.getD style.italic

/-- The second of two changes wins wherever it sets something. -/
theorem Style.apply_apply (style : Style) (c d : StyleChange) :
    (style.apply c).apply d =
      style.apply ⟨d.back <|> c.back, d.text <|> c.text, d.bold <|> c.bold,
        d.italic <|> c.italic⟩ := by
  obtain ⟨b1, t1, o1, i1⟩ := c
  obtain ⟨b2, t2, o2, i2⟩ := d
  cases b2 <;> cases t2 <;> cases o2 <;> cases i2 <;> rfl

end Spreadsheet
