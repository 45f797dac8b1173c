/-
# Addresses computed in words

* Indices are words of 32 and 16 bits, and so is whatever is computed on the way.  Computing is
  *checked* here: a sum or a product that is no word, a difference below zero and a number that does
  not fit a smaller word are nothing instead of a number.
* Letters are read onto a number, and reading stops at the first number beyond the grid.  So the
  number that is multiplied next is always one of the grid (`Checked.numberOnto_eq`), however many
  letters follow.
* Digits are read up to the first number that is no word, which is a fault and no wrapping
  (`Checked.digitsOnto_eq`), however many digits follow and whatever zeros stand in front.
* The places in the text that reading goes through are no larger than the text is long.
* A formula moves by numbers of lines that are words of 64 bits with a sign.  The sum of an index and
  such a number is one again, unless it reaches the bound of these words
  (`Checked.movePosition_eq_some_iff`).  A sum that does is far beyond the grid, and wrapped it is far
  in front of it, so the position is lost all the same (`Checked.movePosition_wrapping`).

So checked reading gives on every text what reading gives (`Checked.read_eq`), and checked writing
gives on every position of the grid what writing gives (`Checked.chars_eq`).
-/
import Spreadsheet.Proofs.Addresses

namespace Spreadsheet.Grid.Checked

/-! ## 1. Words -/

/-- The sum of two words, if it is a word. -/
def add (words a b : Nat) : Option Nat := if a + b < words then some (a + b) else none

/-- The difference of two words, if it is not below zero. -/
def sub (a b : Nat) : Option Nat := if b ≤ a then some (a - b) else none

/-- The product of two words, if it is a word. -/
def mul (words a b : Nat) : Option Nat := if a * b < words then some (a * b) else none

/-- The same number as a word of another size. -/
def fit (words a : Nat) : Option Nat := if a < words then some a else none

section Words

variable {words a b : Nat} {β : Type}

theorem add_eq (h : a + b < words) : add words a b = some (a + b) := if_pos h

theorem sub_eq (h : b ≤ a) : sub a b = some (a - b) := if_pos h

theorem add_bind (h : a + b < words) (f : Nat → Option β) : (add words a b >>= f) = f (a + b) := by
  rw [add_eq h]
  rfl

theorem sub_bind (h : b ≤ a) (f : Nat → Option β) : (sub a b >>= f) = f (a - b) := by
  rw [sub_eq h]
  rfl

theorem mul_bind (h : a * b < words) (f : Nat → Option β) : (mul words a b >>= f) = f (a * b) := by
  rw [mul, if_pos h]
  rfl

theorem fit_bind (h : a < words) (f : Nat → Option β) : (fit words a >>= f) = f a := by
  rw [fit, if_pos h]
  rfl

end Words

/-! ## 2. Letters -/

/-- The number that letters spell, read onto the number of those before them. -/
def numberOnto (number : Nat) : List Char → Option (Except ColumnFault Nat)
  | [] => some (.ok number)
  | c :: rest =>
    if c.isAlpha then do
      let shifted ← mul Axis.rows.words number 26
      let digit ← add Axis.rows.words (← sub c.toUpper.toNat 'A'.toNat) 1
      let number ← add Axis.rows.words shifted digit
      if maxColumns < number then some (.error .beyondGrid) else numberOnto number rest
    else
      some (.error (.notALetter c))

/-- The column that letters name, as a word of 16 bits. -/
def readColumn : List Char → Option (Except ColumnFault Nat)
  | [] => some (.error .noLetters)
  | cs => do
    match ← numberOnto 0 cs with
    | .error fault => some (.error fault)
    | .ok number => return .ok (← fit Axis.columns.words (← sub number 1))

/-- The letters of a column number, counted from one. -/
def numberLetters (n : Nat) : Option (List Char) :=
  if n = 0 then some []
  else
    match _h : sub n 1 with
    | none => none
    | some m => do
      let code ← add 0x100 (m % 26) 'A'.toNat
      return (← numberLetters (m / 26)) ++ [Char.ofNat code]
termination_by n
decreasing_by
  unfold sub at _h
  split at _h
  · obtain rfl := Option.some.inj _h
    omega
  · cases _h

/-- **No number on the way is beyond a word,** if the one in front is of the grid. -/
theorem numberOnto_eq {cs : List Char} : ∀ {number : Nat}, number ≤ maxColumns →
    numberOnto number cs = some (Grid.numberOnto number cs) := by
  induction cs with
  | nil => intro number _; rfl
  | cons c cs ih =>
    intro number hle
    rw [numberOnto, Grid.numberOnto]
    split
    · rename_i halpha
      have hcapital := bounds_of_toUpper halpha
      have hdigit := letterDigit_bounds halpha
      have hsame : c.toUpper.toNat - 'A'.toNat + 1 = letterDigit c := rfl
      have hA : 'A'.toNat = 65 := rfl
      have hwords : Axis.rows.words = 0x100000000 := rfl
      have hmax : maxColumns = 16384 := rfl
      rw [mul_bind (by omega), sub_bind (by omega), add_bind (by omega), hsame, add_bind (by omega)]
      dsimp only
      split
      · rfl
      · exact ih (by omega)
    · rfl

/-- Letters spell no number below the one in front, and if there are any, none below one. -/
theorem le_of_numberOnto {cs : List Char} : ∀ {number n : Nat},
    Grid.numberOnto number cs = .ok n → number ≤ n ∧ (cs ≠ [] → 1 ≤ n) := by
  induction cs with
  | nil =>
    intro number n h
    rw [← Except.ok.inj h]
    exact ⟨Nat.le_refl _, fun hne => absurd rfl hne⟩
  | cons c cs ih =>
    intro number n h
    rw [Grid.numberOnto] at h
    split at h
    · rename_i halpha
      have hdigit := letterDigit_bounds halpha
      dsimp only at h
      split at h
      · cases h
      · have hle := (ih h).1
        exact ⟨by omega, fun _ => by omega⟩
    · cases h

theorem readColumn_eq (cs : List Char) : readColumn cs = some (Grid.readColumn cs) := by
  cases cs with
  | nil => rfl
  | cons c cs =>
    change (numberOnto 0 (c :: cs) >>= _) = some ((Grid.numberOnto 0 (c :: cs)).map _)
    rw [numberOnto_eq (Nat.zero_le _)]
    cases honto : Grid.numberOnto 0 (c :: cs) with
    | error fault => rfl
    | ok n =>
      have hpos := (le_of_numberOnto honto).2 (List.cons_ne_nil c cs)
      have hle := numberOnto_le (Nat.zero_le _) honto
      have hwords : Axis.columns.words = 0x10000 := rfl
      have hmax : maxColumns = 16384 := rfl
      change (sub n 1 >>= fun m => fit Axis.columns.words m >>= fun col => some (Except.ok col)) =
        some (Except.ok (n - 1))
      rw [sub_bind hpos, fit_bind (by omega)]

theorem numberLetters_eq (n : Nat) : numberLetters n = some (Grid.numberLetters n) := by
  induction n using Grid.numberLetters.induct with
  | case1 => simp [numberLetters, Grid.numberLetters]
  | case2 n hn ih =>
    have hpred : sub n 1 = some (n - 1) := sub_eq (by omega)
    have hcode : 'A'.toNat + (n - 1) % 26 < 0x100 := by
      have hlt : (n - 1) % 26 < 26 := Nat.mod_lt _ (by omega)
      have hA : 'A'.toNat = 65 := rfl
      omega
    rw [numberLetters, if_neg hn, Grid.numberLetters, if_neg hn]
    split
    · rename_i hnone
      rw [hpred] at hnone
      cases hnone
    · rename_i m hm
      obtain rfl := Option.some.inj (hpred.symm.trans hm)
      rw [add_bind (by omega), ih, Nat.add_comm]
      rfl

/-! ## 3. Digits -/

/-- The number that digits make, read onto the number of those before them, as long as it is a
word. -/
def digitsOnto (words value : Nat) : List Char → Option Nat
  | [] => some value
  | c :: rest => do digitsOnto words (← add words (← mul words value 10) (c.toNat - '0'.toNat)) rest

/-- The row that digits number; `text` is quoted in complaints. -/
def readRow (text : String) (digits : List Char) : Option (Except AddressFault Nat) :=
  if digits.isEmpty || !digits.all Char.isDigit then some (.error (.badRowNumber text))
  else
    match digitsOnto Axis.rows.words 0 digits with
    | none => some (.error (.badRowNumber text))
    | some number =>
      if number = 0 then some (.error (.rowNumberZero text))
      else do
        let row ← sub number 1
        if maxRows ≤ row then some (.error (.rowBeyond row)) else some (.ok row)

/-- Digits make no number below the one in front. -/
theorem le_digitsOnto (value : Nat) (cs : List Char) : value ≤ Decimal.digitsOnto value cs := by
  induction cs generalizing value with
  | nil => exact Nat.le_refl _
  | cons c cs ih =>
    have hle : value * 10 + (c.toNat - '0'.toNat) ≤ Decimal.digitsOnto value (c :: cs) := ih _
    omega

/-- **Reading digits stops at the number that is no word,** and nowhere else. -/
theorem digitsOnto_eq {words value : Nat} (h : value < words) (cs : List Char) :
    digitsOnto words value cs =
      if Decimal.digitsOnto value cs < words then some (Decimal.digitsOnto value cs) else none := by
  induction cs generalizing value with
  | nil => exact (if_pos h).symm
  | cons c cs ih =>
    have hle : value * 10 + (c.toNat - '0'.toNat) ≤ Decimal.digitsOnto value (c :: cs) :=
      le_digitsOnto _ cs
    rw [digitsOnto]
    by_cases hmul : value * 10 < words
    · by_cases hadd : value * 10 + (c.toNat - '0'.toNat) < words
      · rw [mul_bind hmul, add_bind hadd]
        exact ih hadd
      · rw [mul_bind hmul, add, if_neg hadd, if_neg (by omega)]
        rfl
    · rw [mul, if_neg hmul, if_neg (by omega)]
      rfl

theorem readRow_eq (text : String) (digits : List Char) :
    readRow text digits = some (Grid.readRow text digits) := by
  have hvalue : Decimal.digitsOnto 0 digits = Decimal.digitsValue digits := rfl
  rw [readRow, Grid.readRow, digitsOnto_eq (show 0 < Axis.rows.words by decide), hvalue]
  dsimp only
  generalize Decimal.digitsValue digits = number
  split
  · rfl
  · by_cases hword : number < Axis.rows.words
    · rw [if_pos hword, if_neg (Nat.not_le.mpr hword)]
      dsimp only
      split
      · rfl
      · rw [sub_bind (by omega)]
        split <;> rfl
    · rw [if_neg hword, if_pos (Nat.le_of_not_lt hword)]

/-! ## 4. Positions -/

/-- Takes a `$` off the front, counting the places of the text. -/
def takeMark (places place : Nat) (cs : List Char) : Option (Bool × Nat × List Char) :=
  match Grid.takeMark cs with
  | (true, rest) => do return (true, ← add places place 1, rest)
  | (false, rest) => some (false, place, rest)

/-- Takes the letters off the front, counting the places of the text. -/
def takeLetters (places place : Nat) : List Char → Option (List Char × Nat × List Char)
  | [] => some ([], place, [])
  | c :: rest =>
    if c.isAlpha then do
      let (letters, place, rest) ← takeLetters places (← add places place 1) rest
      return (c :: letters, place, rest)
    else
      some ([], place, c :: rest)

/-- The position that characters without blanks around them name. -/
def readPosition (places : Nat) (cs : List Char) : Option (Except AddressFault Position) := do
  let text := String.ofList cs
  if cs.isEmpty then return .error .empty
  let (colFixed, place, rest) ← takeMark places 0 cs
  let (letters, place, rest) ← takeLetters places place rest
  if letters.isEmpty then return .error (.noColumnLetters text)
  match ← readColumn letters with
  | .error fault => return .error (.column fault)
  | .ok col =>
    let (rowFixed, _, digits) ← takeMark places place rest
    match ← readRow text digits with
    | .error fault => return .error fault
    | .ok row => return .ok ⟨⟨row, rowFixed⟩, ⟨col, colFixed⟩⟩

/-- The position that a text names; the places of the text are words. -/
def read (places : Nat) (text : String) : Option (Except AddressFault Position) :=
  readPosition places (Text.trimChars text.toList)

/-- A position as it is written. -/
def chars (p : Position) : Option (List Char) := do
  let letters ← numberLetters (← add Axis.rows.words p.col.index 1)
  let number ← add Axis.rows.words p.row.index 1
  return fixedMark p.col.fixed ++ letters ++ (fixedMark p.row.fixed ++ Nat.toDigits 10 number)

section Places

variable {places place size : Nat}

/-- The place and what is left of the text make up the text. -/
theorem takeMark_eq (hsize : size < places) {cs : List Char} (h : place + cs.length = size) :
    ∃ next, next + (Grid.takeMark cs).2.length = size ∧
      takeMark places place cs = some ((Grid.takeMark cs).1, next, (Grid.takeMark cs).2) := by
  have hlength := congrArg List.length (takeMark_append cs)
  rw [List.length_append] at hlength
  unfold takeMark
  generalize Grid.takeMark cs = taken at hlength ⊢
  obtain ⟨fixed, rest⟩ := taken
  cases fixed with
  | true =>
    have hlength : 1 + rest.length = cs.length := hlength
    refine ⟨place + 1, by dsimp only; omega, ?_⟩
    change (add places place 1 >>= fun next => some (true, next, rest)) =
      some (true, place + 1, rest)
    rw [add_bind (by omega)]
  | false =>
    have hlength : 0 + rest.length = cs.length := hlength
    exact ⟨place, by dsimp only; omega, rfl⟩

theorem takeLetters_eq (hsize : size < places) {cs : List Char} (h : place + cs.length = size) :
    ∃ next, next + (cs.dropWhile Char.isAlpha).length = size ∧
      takeLetters places place cs =
        some (cs.takeWhile Char.isAlpha, next, cs.dropWhile Char.isAlpha) := by
  induction cs generalizing place with
  | nil => exact ⟨place, h, rfl⟩
  | cons c cs ih =>
    rw [takeLetters, List.takeWhile_cons, List.dropWhile_cons]
    split
    · rw [List.length_cons] at h
      obtain ⟨next, hnext, hcs⟩ := @ih (place + 1) (by omega)
      rw [add_bind (by omega), hcs]
      exact ⟨next, hnext, rfl⟩
    · exact ⟨place, h, rfl⟩

/-- **Checked reading is reading,** if the text is no longer than a word can say. -/
theorem readPosition_eq {cs : List Char} (hsize : cs.length < places) :
    readPosition places cs = some (Grid.readPosition cs) := by
  obtain ⟨place, hplace, hmark⟩ := takeMark_eq hsize (Nat.zero_add cs.length)
  obtain ⟨place', hplace', hletters⟩ := takeLetters_eq hsize hplace
  obtain ⟨place'', -, hmark'⟩ := takeMark_eq hsize hplace'
  unfold readPosition
  rw [Grid.readPosition_eq]
  dsimp only
  split
  · rfl
  · rw [hmark, Option.bind_eq_bind, Option.bind_some]
    dsimp only
    rw [hletters, Option.bind_eq_bind, Option.bind_some]
    dsimp only
    split
    · rfl
    · rw [readColumn_eq, Option.bind_eq_bind, Option.bind_some]
      cases Grid.readColumn ((Grid.takeMark cs).2.takeWhile Char.isAlpha) with
      | error fault => rfl
      | ok col =>
        dsimp only
        rw [hmark', Option.bind_some]
        dsimp only
        rw [readRow_eq, Option.bind_eq_bind, Option.bind_some]
        cases Grid.readRow (String.ofList cs)
          (Grid.takeMark ((Grid.takeMark cs).2.dropWhile Char.isAlpha)).2 <;> rfl

/-- **Checked reading of a text is reading,** if the text is no longer than a word can say. -/
theorem read_eq {text : String} (hsize : text.length < places) :
    read places text = some (Position.read text) := by
  have htrimmed : (Text.trimChars text.toList).length ≤ text.toList.length := by
    have hfront := Text.skipBlanks_length_le text.toList
    have hback := Text.skipBlanks_length_le (Text.skipBlanks text.toList).reverse
    rw [List.length_reverse] at hback
    rw [Text.trimChars, List.length_reverse]
    omega
  rw [String.length_toList] at htrimmed
  exact readPosition_eq (by omega)

end Places

/-- **Checked writing of a position is writing,** if the position lies on the grid. -/
theorem chars_eq {p : Position} (h : p.OnGrid) : chars p = some p.chars := by
  obtain ⟨hrow, hcol⟩ := h
  have hwords : Axis.rows.words = 0x100000000 := rfl
  simp only [maxRows, maxColumns] at hrow hcol
  have hnumber : rowNumber p.row.index = p.row.index + 1 := Nat.mod_eq_of_lt (by omega)
  rw [chars, add_bind (by omega), numberLetters_eq, Option.bind_eq_bind, Option.bind_some,
    add_bind (by omega), ← hnumber]
  rfl

/-! ## 5. Moves -/

/-- Words of 64 bits with a sign reach from `-signedBound` up to this bound. -/
def signedBound : Int := 0x8000000000000000

/-- A number that is such a word. -/
def IsSigned (a : Int) : Prop := -signedBound ≤ a ∧ a < signedBound

instance (a : Int) : Decidable (IsSigned a) := inferInstanceAs (Decidable (_ ∧ _))

/-- The sum of two words with a sign, if it is one. -/
def addSigned (a b : Int) : Option Int := if IsSigned (a + b) then some (a + b) else none

/-- The sum of two words with a sign, wrapped if it is none. -/
def addWrapping (a b : Int) : Option Int := some ((a + b).bmod 0x10000000000000000)

/-- Where a coordinate is after its formula moved, given how words are added. -/
def moveCoordinate (sum : Int → Int → Option Int) (c : Coordinate) (limit : Nat) (delta : Int) :
    Option (Option Coordinate) := do
  let index ← if c.fixed then some (c.index : Int) else sum c.index delta
  return if 0 ≤ index ∧ index < limit then some { c with index := index.toNat } else none

/-- Where a position is after its formula moved, given how words are added. -/
def movePosition (sum : Int → Int → Option Int) (p : Position) (rows columns : Int) :
    Option (Option Position) := do
  let row ← moveCoordinate sum p.row maxRows rows
  let col ← moveCoordinate sum p.col maxColumns columns
  return match row, col with
    | some row, some col => some ⟨row, col⟩
    | _, _ => none

section Moves

variable {sum : Int → Int → Option Int} {c : Coordinate} {p : Position} {limit : Nat}
  {delta rows columns : Int}

/-- Where the sum is right, so is the move. -/
theorem moveCoordinate_eq (h : c.fixed = false → sum c.index delta = some (c.index + delta)) :
    moveCoordinate sum c limit delta = some (c.move? limit delta) := by
  unfold moveCoordinate Coordinate.move?
  cases hfixed : c.fixed with
  | true => rfl
  | false =>
    rw [if_neg Bool.false_ne_true, h hfixed]
    rfl

/-- **Checked moving of a coordinate is moving,** and fails only if the sum is no word. -/
theorem moveCoordinate_eq_some_iff {moved : Option Coordinate} :
    moveCoordinate addSigned c limit delta = some moved ↔
      moved = c.move? limit delta ∧ (c.fixed = false → IsSigned (c.index + delta)) := by
  by_cases hsum : c.fixed = false → IsSigned (c.index + delta)
  · rw [moveCoordinate_eq fun hfixed => if_pos (hsum hfixed), Option.some.injEq, eq_comm,
      and_iff_left hsum]
  · obtain ⟨hfixed, hbeyond⟩ := Classical.not_imp.mp hsum
    have hnone : moveCoordinate addSigned c limit delta = none := by
      rw [moveCoordinate, hfixed, if_neg Bool.false_ne_true, addSigned, if_neg hbeyond]
      rfl
    simp only [hnone, reduceCtorEq, hsum, and_false]

/-- **Checked moving of a position is moving,** and fails only if one of the sums is no word. -/
theorem movePosition_eq_some_iff {moved : Option Position} :
    movePosition addSigned p rows columns = some moved ↔ moved = p.move? rows columns ∧
      (p.row.fixed = false → IsSigned (p.row.index + rows)) ∧
      (p.col.fixed = false → IsSigned (p.col.index + columns)) := by
  simp only [movePosition, Option.bind_eq_bind, Option.bind_eq_some_iff,
    moveCoordinate_eq_some_iff, Option.pure_def, Option.some.injEq]
  constructor
  · rintro ⟨row, ⟨rfl, hrow⟩, col, ⟨rfl, hcol⟩, rfl⟩
    exact ⟨rfl, hrow, hcol⟩
  · rintro ⟨rfl, hrow, hcol⟩
    exact ⟨_, ⟨rfl, hrow⟩, _, ⟨rfl, hcol⟩, rfl⟩

/-- Moving by the distance between two cells of the grid is always possible in words. -/
theorem movePosition_distance (hp : p.OnGrid) {home spot : Spot}
    (hhome : home.row < maxRows ∧ home.col < maxColumns)
    (hspot : spot.row < maxRows ∧ spot.col < maxColumns) :
    movePosition addSigned p ((spot.row : Int) - home.row) ((spot.col : Int) - home.col) =
      some (p.move? ((spot.row : Int) - home.row) ((spot.col : Int) - home.col)) := by
  obtain ⟨hrow, hcol⟩ := hp
  simp only [maxRows, maxColumns] at hrow hcol hhome hspot
  refine movePosition_eq_some_iff.mpr ⟨rfl, fun _ => ?_, fun _ => ?_⟩ <;>
    simp only [IsSigned, signedBound] <;> omega

/-- **A sum that is wrapped leads to the same coordinate:** it leaves the axis like the sum that is
no word. -/
theorem moveCoordinate_wrapping (hindex : c.index < Axis.rows.words) (hdelta : IsSigned delta)
    (hlimit : limit ≤ Axis.rows.words) :
    moveCoordinate addWrapping c limit delta = some (c.move? limit delta) := by
  have hwords : Axis.rows.words = 2 ^ 32 := rfl
  obtain ⟨hlow, hhigh⟩ := hdelta
  have hbound : signedBound = 0x8000000000000000 := rfl
  unfold moveCoordinate Coordinate.move? addWrapping
  cases c.fixed with
  | true => rfl
  | false =>
    by_cases hfits : (c.index : Int) + delta < signedBound
    · have hwrapped : ((c.index : Int) + delta).bmod 0x10000000000000000 = c.index + delta :=
        Int.bmod_eq_of_le (by omega) (by omega)
      rw [if_neg Bool.false_ne_true, hwrapped]
      rfl
    · have hwrapped : ((c.index : Int) + delta).bmod 0x10000000000000000 =
          c.index + delta - 0x10000000000000000 := by
        rw [← Int.sub_bmod_right, Int.bmod_eq_of_le] <;> omega
      have hfront : ¬ (0 ≤ (c.index : Int) + delta - 0x10000000000000000 ∧
          (c.index : Int) + delta - 0x10000000000000000 < limit) := by omega
      have hbeyond : ¬ (0 ≤ (c.index : Int) + delta ∧ (c.index : Int) + delta < limit) := by omega
      rw [if_neg Bool.false_ne_true, hwrapped]
      exact congrArg some ((if_neg hfront).trans (if_neg hbeyond).symm)

/-- **Moving is the same with wrapped sums,** whatever the numbers of lines are. -/
theorem movePosition_wrapping (hrow : p.row.index < Axis.rows.words)
    (hcol : p.col.index < Axis.columns.words) (hrows : IsSigned rows)
    (hcolumns : IsSigned columns) :
    movePosition addWrapping p rows columns = some (p.move? rows columns) := by
  have hcol' : p.col.index < Axis.rows.words := Nat.lt_trans hcol (by decide)
  rw [movePosition, moveCoordinate_wrapping hrow hrows (by decide),
    moveCoordinate_wrapping hcol' hcolumns (by decide)]
  rfl

end Moves

end Spreadsheet.Grid.Checked
