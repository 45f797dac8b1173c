/-
# The texts that are addresses

* Letters spell a number in base twenty-six without a zero.  Reading them gives this number unless
  it is beyond the grid, although it looks at the bound behind every letter: a number only grows
  (`numberOnto_eq_lettersOnto`).  Written again, the number has the same letters, as capitals
  (`numberLetters_lettersOnto`).
* Digits are the digits of the number that they make, behind zeros (`toDigits_digitsValue_zeros`).
* An *address* is letters and digits, each behind a mark or none, that spell a column and number a
  row of the grid.  A text is read exactly if it is one, up to blanks around it
  (`Address.exists_of_readPosition`, `Address.readPosition_chars`), and written again it is the same
  address with capitals and without zeros in front (`Address.chars_position`).

So the positions of the grid and the tidy addresses are the same (`read_iff_address`), and no number
on the way between them is beyond a word.
-/
import Mathlib.Data.List.TakeWhile
import Spreadsheet.Proofs.CheckedWords
import Spreadsheet.Proofs.Counters

namespace Spreadsheet.Grid

open Decimal

/-! ## 1. Letters -/

/-- The number that letters spell in base twenty-six, onto that of the letters before them. -/
def lettersOnto (number : Nat) (cs : List Char) : Nat :=
  cs.foldl (fun number c => number * 26 + letterDigit c) number

/-- **The number that letters spell.** -/
def lettersValue (cs : List Char) : Nat := lettersOnto 0 cs

section Letters

variable {cs : List Char}

theorem le_lettersOnto (number : Nat) (cs : List Char) : number ≤ lettersOnto number cs := by
  induction cs generalizing number with
  | nil => exact Nat.le_refl _
  | cons c cs ih =>
    have hle : number * 26 + letterDigit c ≤ lettersOnto number (c :: cs) := ih _
    omega

/-- **Looking at the bound behind every letter is looking at it once,** behind the last. -/
theorem numberOnto_eq_lettersOnto (hcs : ∀ c ∈ cs, c.isAlpha = true) :
    ∀ {number : Nat}, number ≤ maxColumns →
      numberOnto number cs =
        if lettersOnto number cs ≤ maxColumns then .ok (lettersOnto number cs)
        else .error .beyondGrid := by
  induction cs with
  | nil => intro number hle; exact (if_pos hle).symm
  | cons c cs ih =>
    intro number hle
    have hgrows : number * 26 + letterDigit c ≤ lettersOnto number (c :: cs) := le_lettersOnto _ cs
    rw [numberOnto, if_pos (hcs c List.mem_cons_self)]
    dsimp only
    split
    · rw [if_neg (by omega)]
    · rename_i hwithin
      exact ih (fun d hd => hcs d (List.mem_cons_of_mem _ hd)) (Nat.le_of_not_lt hwithin)

/-- **The number that letters spell is written with their capitals.** -/
theorem numberLetters_lettersOnto (hcs : ∀ c ∈ cs, c.isAlpha = true) (number : Nat) :
    numberLetters (lettersOnto number cs) = numberLetters number ++ cs.map Char.toUpper := by
  induction cs generalizing number with
  | nil => exact (List.append_nil _).symm
  | cons c cs ih =>
    have hc := hcs c List.mem_cons_self
    have hdigit := letterDigit_bounds hc
    have hfront : (number * 26 + letterDigit c - 1) / 26 = number := by omega
    have hlast : (number * 26 + letterDigit c - 1) % 26 = letterDigit c - 1 := by omega
    calc numberLetters (lettersOnto number (c :: cs))
        = numberLetters (number * 26 + letterDigit c) ++ cs.map Char.toUpper :=
          ih (fun d hd => hcs d (List.mem_cons_of_mem _ hd)) _
      _ = numberLetters number ++ (c :: cs).map Char.toUpper := by
          rw [numberLetters, if_neg (by omega), hfront, hlast, columnLetter_letterDigit hc,
            List.append_assoc, List.singleton_append, List.map_cons]

theorem lettersValue_pos (hne : cs ≠ []) (hcs : ∀ c ∈ cs, c.isAlpha = true) :
    1 ≤ lettersValue cs := by
  cases cs with
  | nil => exact absurd rfl hne
  | cons c cs =>
    have hdigit := letterDigit_bounds (hcs c List.mem_cons_self)
    have hgrows : 0 * 26 + letterDigit c ≤ lettersValue (c :: cs) := le_lettersOnto _ cs
    omega

/-- A column is read from letters exactly if their number is one of the grid. -/
theorem readColumn_eq_ok_iff (hne : cs ≠ []) (hcs : ∀ c ∈ cs, c.isAlpha = true) {col : Nat} :
    readColumn cs = .ok col ↔ lettersValue cs ≤ maxColumns ∧ col = lettersValue cs - 1 := by
  have honto := numberOnto_eq_lettersOnto hcs (Nat.zero_le maxColumns)
  have hread : readColumn cs = (numberOnto 0 cs).map (· - 1) := by
    cases cs with
    | nil => exact absurd rfl hne
    | cons c cs => rfl
  rw [hread, honto, ← lettersValue]
  split
  · rename_i hle
    exact ⟨fun h => ⟨hle, (Except.ok.inj h).symm⟩, fun h => congrArg Except.ok h.2.symm⟩
  · rename_i hbeyond
    exact ⟨nofun, fun h => absurd h.1 hbeyond⟩

end Letters

/-! ## 2. Digits -/

/-- Zeros in front do not count. -/
theorem digitsValue_dropWhile_zeros (cs : List Char) :
    digitsValue (cs.dropWhile (· == '0')) = digitsValue cs := by
  induction cs with
  | nil => rfl
  | cons c cs ih =>
    rw [List.dropWhile_cons]
    split
    · rename_i hzero
      rw [eq_of_beq hzero, ih]
      rfl
    · rfl

/-- **Digits that make a number are its digits behind zeros.** -/
theorem toDigits_digitsValue_zeros {cs : List Char} (hcs : ∀ c ∈ cs, c.isDigit = true)
    (hpos : 1 ≤ digitsValue cs) :
    Nat.toDigits 10 (digitsValue cs) = cs.dropWhile (· == '0') := by
  have hrest : ∀ c ∈ cs.dropWhile (· == '0'), c.isDigit = true := fun c hc =>
    hcs c ((List.dropWhile_sublist _).mem hc)
  rw [← digitsValue_dropWhile_zeros] at hpos ⊢
  cases hdrop : cs.dropWhile (· == '0') with
  | nil =>
    rw [hdrop] at hpos
    exact absurd hpos (by decide)
  | cons d ds =>
    have hzero : d ≠ '0' := by
      have hhead := List.head?_dropWhile_not (· == '0') cs
      rw [hdrop] at hhead
      simpa using hhead
    rw [hdrop] at hrest
    exact Series.toDigits_digitsValue hzero hrest

/-- A row is read from digits exactly if their number is one of the grid. -/
theorem readRow_eq_ok_iff {text : String} {cs : List Char} {row : Nat} :
    readRow text cs = .ok row ↔ cs ≠ [] ∧ (∀ c ∈ cs, c.isDigit = true) ∧
      1 ≤ digitsValue cs ∧ digitsValue cs ≤ maxRows ∧ row = digitsValue cs - 1 := by
  have hwords : Axis.rows.words = 0x100000000 := rfl
  have hmax : maxRows = 1048576 := rfl
  have hguard : (cs.isEmpty || !cs.all Char.isDigit) = true ↔
      ¬ (cs ≠ [] ∧ ∀ c ∈ cs, c.isDigit = true) := by
    rw [not_and_or, not_not, Bool.or_eq_true, List.isEmpty_iff, Bool.not_eq_true',
      ← List.all_eq_true, Bool.not_eq_true]
  unfold readRow
  dsimp only
  generalize digitsValue cs = number
  split
  · rename_i hbad
    exact ⟨nofun, fun h => absurd ⟨h.1, h.2.1⟩ (hguard.mp hbad)⟩
  · rename_i hgood
    obtain ⟨hne, hdigits⟩ := not_not.mp (mt hguard.mpr hgood)
    split
    · exact ⟨nofun, fun h => by omega⟩
    · split
      · exact ⟨nofun, fun h => by omega⟩
      · split
        · exact ⟨nofun, fun h => by omega⟩
        · constructor
          · intro h
            exact ⟨hne, hdigits, by omega, by omega, (Except.ok.inj h).symm⟩
          · intro h
            rw [h.2.2.2.2]

/-! ## 3. Addresses -/

/-- **An address:** letters and digits, each behind a mark or none, that spell a column and number a
row of the grid. -/
structure Address where
  colFixed : Bool
  letters : List Char
  rowFixed : Bool
  digits : List Char
  letters_ne : letters ≠ []
  isAlpha : ∀ c ∈ letters, c.isAlpha = true
  lettersValue_le : lettersValue letters ≤ maxColumns
  digits_ne : digits ≠ []
  isDigit : ∀ c ∈ digits, c.isDigit = true
  one_le_digitsValue : 1 ≤ digitsValue digits
  digitsValue_le : digitsValue digits ≤ maxRows

namespace Address

/-- An address as it is written. -/
def chars (a : Address) : List Char :=
  fixedMark a.colFixed ++ a.letters ++ (fixedMark a.rowFixed ++ a.digits)

/-- The address with capital letters and without zeros in front. -/
def tidyChars (a : Address) : List Char :=
  fixedMark a.colFixed ++ a.letters.map Char.toUpper ++
    (fixedMark a.rowFixed ++ a.digits.dropWhile (· == '0'))

/-- The position that an address names. -/
def position (a : Address) : Position :=
  ⟨⟨digitsValue a.digits - 1, a.rowFixed⟩, ⟨lettersValue a.letters - 1, a.colFixed⟩⟩

/-- **An address is read as the position that it names.** -/
theorem readPosition_chars (a : Address) : readPosition a.chars = .ok a.position := by
  obtain ⟨hmark, hletters, hbehind, hdigits⟩ := parts_of_address a.colFixed a.rowFixed
    a.letters_ne a.isAlpha a.isDigit
  have hcol : readColumn a.letters = .ok (lettersValue a.letters - 1) :=
    (readColumn_eq_ok_iff a.letters_ne a.isAlpha).mpr ⟨a.lettersValue_le, rfl⟩
  have hrow (text : String) : readRow text a.digits = .ok (digitsValue a.digits - 1) :=
    readRow_eq_ok_iff.mpr
      ⟨a.digits_ne, a.isDigit, a.one_le_digitsValue, a.digitsValue_le, rfl⟩
  have hne : ¬ (a.chars.isEmpty = true) := by
    simp [chars, a.letters_ne]
  have hsome : ¬ (a.letters.isEmpty = true) := by
    simp [a.letters_ne]
  rw [readPosition_eq, if_neg hne, chars, hmark, hletters, if_neg hsome, hbehind, hdigits, hcol]
  dsimp only
  rw [hrow]
  rfl

/-- **Whatever is read as a position is an address that names it.** -/
theorem exists_of_readPosition {cs : List Char} {p : Position} (h : readPosition cs = .ok p) :
    ∃ a : Address, cs = a.chars ∧ p = a.position := by
  rw [readPosition_eq] at h
  split at h
  · cases h
  · split at h
    · cases h
    · rename_i hsome
      split at h
      · cases h
      · rename_i col hcol
        split at h
        · cases h
        · rename_i row hrow
          have hne : (takeMark cs).2.takeWhile Char.isAlpha ≠ [] := by
            simpa using hsome
          have halpha : ∀ c ∈ (takeMark cs).2.takeWhile Char.isAlpha, c.isAlpha = true :=
            fun c hc => List.mem_takeWhile_imp hc
          obtain ⟨hle, hcol⟩ := (readColumn_eq_ok_iff hne halpha).mp hcol
          obtain ⟨hdigits, hisDigit, hlow, hhigh, hrow⟩ := readRow_eq_ok_iff.mp hrow
          refine ⟨⟨(takeMark cs).1, _, (takeMark ((takeMark cs).2.dropWhile Char.isAlpha)).1, _,
            hne, halpha, hle, hdigits, hisDigit, hlow, hhigh⟩, ?_, ?_⟩
          · rw [chars, takeMark_append, List.append_assoc, List.takeWhile_append_dropWhile,
              takeMark_append]
          · rw [← Except.ok.inj h, hcol, hrow]
            rfl

theorem onGrid_position (a : Address) : a.position.OnGrid :=
  onGrid_of_readPosition a.readPosition_chars

/-- **The position that an address names is written as the tidy address.** -/
theorem chars_position (a : Address) : a.position.chars = a.tidyChars := by
  have hcol := lettersValue_pos a.letters_ne a.isAlpha
  have hrow := a.one_le_digitsValue
  have hhigh := a.digitsValue_le
  simp only [maxRows] at hhigh
  have hletters : columnLetters (lettersValue a.letters - 1) = a.letters.map Char.toUpper := by
    rw [columnLetters, Nat.sub_add_cancel hcol, lettersValue, numberLetters_lettersOnto a.isAlpha,
      numberLetters, if_pos rfl, List.nil_append]
  have hnumber : rowNumber (digitsValue a.digits - 1) = digitsValue a.digits := by
    rw [rowNumber, Nat.sub_add_cancel hrow]
    exact Nat.mod_eq_of_lt (by simp only [Axis.words]; omega)
  have hdigits := toDigits_digitsValue_zeros a.isDigit hrow
  simp only [Position.chars, position, tidyChars, hletters, hnumber, hdigits]

end Address

/-! ## 4. Texts and positions -/

/-- **Exactly the addresses are read,** up to blanks around them, each as the position of the grid
that it names, which is written as the tidy address; every position of the grid is read from its
text; and neither reading, of a text of whatever length, nor writing ever leaves the words. -/
theorem read_iff_address (text : String) :
    ((∃ p, Position.read text = .ok p) ↔
      ∃ a : Address, Text.trimChars text.toList = a.chars) ∧
    (∀ a : Address, Text.trimChars text.toList = a.chars →
      Position.read text = .ok a.position ∧ a.position.OnGrid ∧
        a.position.text = String.ofList a.tidyChars) ∧
    (∀ p : Position, p.OnGrid → Position.read p.text = .ok p) ∧
    (∀ places, text.length < places → Checked.read places text = some (Position.read text)) ∧
    (∀ p : Position, p.OnGrid → Checked.chars p = some p.chars) := by
  refine ⟨⟨?_, ?_⟩, ?_, fun p hp => read_text hp, fun places hplaces => Checked.read_eq hplaces,
    fun p hp => Checked.chars_eq hp⟩
  · rintro ⟨p, hp⟩
    obtain ⟨a, ha, -⟩ := Address.exists_of_readPosition hp
    exact ⟨a, ha⟩
  · rintro ⟨a, ha⟩
    exact ⟨a.position, by rw [Position.read, ha, a.readPosition_chars]⟩
  · intro a ha
    refine ⟨by rw [Position.read, ha, a.readPosition_chars], a.onGrid_position, ?_⟩
    rw [Position.text, a.chars_position]

/-- The address `$xFd007`. -/
def lastColumnSeventh : Address where
  colFixed := true
  letters := ['x', 'F', 'd']
  rowFixed := false
  digits := ['0', '0', '7']
  letters_ne := by decide
  isAlpha := List.all_eq_true.mp rfl
  lettersValue_le := by decide
  digits_ne := by decide
  isDigit := List.all_eq_true.mp rfl
  one_le_digitsValue := by decide
  digitsValue_le := by decide

/-- An address in the last column with small letters, zeros in front and blanks around it. -/
theorem read_lastColumnSeventh :
    Text.trimChars "  $xFd007\t".toList = lastColumnSeventh.chars ∧
      Position.read "  $xFd007\t" = .ok ⟨⟨6, false⟩, ⟨16383, true⟩⟩ ∧
      lastColumnSeventh.position.text = "$XFD7" ∧
      Position.read (⟨⟨1048575, true⟩, ⟨16383, true⟩⟩ : Position).text =
        .ok ⟨⟨1048575, true⟩, ⟨16383, true⟩⟩ ∧
      Checked.read 11 "  $xFd007\t" = some (Position.read "  $xFd007\t") ∧
      Checked.chars ⟨⟨1048575, true⟩, ⟨16383, true⟩⟩ =
        some (⟨⟨1048575, true⟩, ⟨16383, true⟩⟩ : Position).chars := by
  have haddress : Text.trimChars "  $xFd007\t".toList = lastColumnSeventh.chars := by decide
  obtain ⟨-, hread, hpositions, hwords, hwritten⟩ := read_iff_address "  $xFd007\t"
  obtain ⟨hposition, -, htext⟩ := hread lastColumnSeventh haddress
  have hlast : (⟨⟨1048575, true⟩, ⟨16383, true⟩⟩ : Position).OnGrid := by
    unfold Position.OnGrid
    decide
  exact ⟨haddress, hposition, htext, hpositions _ hlast, hwords 11 (by decide), hwritten _ hlast⟩

end Spreadsheet.Grid
