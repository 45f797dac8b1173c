/-
# Addresses read back

* The letters of a column and the number of a row are read as what they were written for, so a
  position on the grid is read from its own text (`read_text`).
* Whatever is read lies on the grid, and so does what a move or a removal leaves of it.  The corners
  of a rectangle stay in order.
-/
import Spreadsheet.Formula.Reference

namespace Spreadsheet.Grid

/-! ## 1. Letters and digits -/

theorem bounds_of_isDigit {c : Char} (h : c.isDigit = true) : 48 ≤ c.toNat ∧ c.toNat ≤ 57 :=
  Char.isDigit_iff_toNat.mp h

theorem bounds_of_isAlpha {c : Char} (h : c.isAlpha = true) :
    65 ≤ c.toNat ∧ c.toNat ≤ 90 ∨ 97 ≤ c.toNat ∧ c.toNat ≤ 122 := by
  unfold Char.isAlpha Char.isUpper Char.isLower at h
  simp only [Bool.or_eq_true, Bool.and_eq_true, decide_eq_true_eq, ge_iff_le,
    UInt32.le_iff_toNat_le] at h
  exact h

/-- No digit is a letter. -/
theorem isAlpha_eq_false_of_isDigit {c : Char} (h : c.isDigit = true) : c.isAlpha = false := by
  rw [Bool.eq_false_iff]
  intro halpha
  have hdigit := bounds_of_isDigit h
  have halpha := bounds_of_isAlpha halpha
  omega

theorem isAlpha_columnLetter : ∀ d < 26, (columnLetter d).isAlpha = true := by decide

theorem letterDigit_columnLetter : ∀ d < 26, letterDigit (columnLetter d) = d + 1 := by decide

/-- The capital of a letter is one of `A` to `Z`. -/
theorem bounds_of_toUpper {c : Char} (h : c.isAlpha = true) :
    65 ≤ c.toUpper.toNat ∧ c.toUpper.toNat ≤ 90 := by
  have hall : ∀ n < 123, 65 ≤ n ∧ n ≤ 90 ∨ 97 ≤ n ∧ n ≤ 122 →
      65 ≤ (Char.ofNat n).toUpper.toNat ∧ (Char.ofNat n).toUpper.toNat ≤ 90 := by
    decide
  have hbounds := bounds_of_isAlpha h
  have hletter := hall c.toNat (by omega) hbounds
  rwa [Char.ofNat_toNat] at hletter

theorem letterDigit_bounds {c : Char} (h : c.isAlpha = true) :
    1 ≤ letterDigit c ∧ letterDigit c ≤ 26 := by
  have hbounds := bounds_of_toUpper h
  have hA : 'A'.toNat = 65 := rfl
  unfold letterDigit
  omega

/-- A letter stands for the digit that its capital is written for. -/
theorem columnLetter_letterDigit {c : Char} (h : c.isAlpha = true) :
    columnLetter (letterDigit c - 1) = c.toUpper := by
  have hbounds := bounds_of_toUpper h
  have hA : 'A'.toNat = 65 := rfl
  have hcode : 'A'.toNat + (letterDigit c - 1) = c.toUpper.toNat := by
    unfold letterDigit
    omega
  rw [columnLetter, hcode, Char.ofNat_toNat]

theorem isAlpha_of_mem_numberLetters (n : Nat) : ∀ c ∈ numberLetters n, c.isAlpha = true := by
  induction n using numberLetters.induct with
  | case1 => simp [numberLetters]
  | case2 n hn ih =>
    rw [numberLetters, if_neg hn]
    intro c hc
    rcases List.mem_append.mp hc with hc | hc
    · exact ih c hc
    · rw [List.mem_singleton.mp hc]
      exact isAlpha_columnLetter _ (Nat.mod_lt _ (by omega))

/-- **The letters of a number spell it,** whatever follows them. -/
theorem numberOnto_numberLetters (n : Nat) (h : n ≤ maxColumns) (cs : List Char) :
    numberOnto 0 (numberLetters n ++ cs) = numberOnto n cs := by
  induction n using numberLetters.induct generalizing cs with
  | case1 => simp [numberLetters]
  | case2 n hn ih =>
    have hlt : (n - 1) % 26 < 26 := Nat.mod_lt _ (by omega)
    have hspelled : (n - 1) / 26 * 26 + ((n - 1) % 26 + 1) = n := by omega
    rw [numberLetters, if_neg hn, List.append_assoc, ih (by omega), List.singleton_append,
      numberOnto, if_pos (isAlpha_columnLetter _ hlt), letterDigit_columnLetter _ hlt, hspelled,
      if_neg (by omega)]

theorem columnLetters_ne_nil (col : Nat) : columnLetters col ≠ [] := by
  rw [columnLetters, numberLetters, if_neg (Nat.succ_ne_zero col)]
  simp

/-- A column is read from its letters. -/
theorem readColumn_columnLetters {col : Nat} (h : col < maxColumns) :
    readColumn (columnLetters col) = .ok col := by
  have honto : numberOnto 0 (columnLetters col) = .ok (col + 1) := by
    have := numberOnto_numberLetters (col + 1) h []
    rwa [List.append_nil] at this
  unfold readColumn
  split
  · rename_i hnil
    exact absurd hnil (columnLetters_ne_nil col)
  · rw [honto]
    rfl

/-- Letters of a number beyond the grid spell nothing, whatever follows them. -/
theorem numberOnto_numberLetters_beyond (n : Nat) (h : maxColumns < n) (cs : List Char) :
    numberOnto 0 (numberLetters n ++ cs) = .error .beyondGrid := by
  induction n using numberLetters.induct generalizing cs with
  | case1 => exact absurd h (Nat.not_lt_zero _)
  | case2 n hn ih =>
    have hlt : (n - 1) % 26 < 26 := Nat.mod_lt _ (by omega)
    have hspelled : (n - 1) / 26 * 26 + ((n - 1) % 26 + 1) = n := by omega
    rw [numberLetters, if_neg hn, List.append_assoc]
    rcases Nat.lt_or_ge maxColumns ((n - 1) / 26) with hbeyond | hwithin
    · exact ih hbeyond _
    · rw [numberOnto_numberLetters _ hwithin, List.singleton_append, numberOnto,
        if_pos (isAlpha_columnLetter _ hlt), letterDigit_columnLetter _ hlt, hspelled, if_pos h]

theorem lt_of_readColumn_columnLetters {col c : Nat} (h : readColumn (columnLetters col) = .ok c) :
    col < maxColumns := by
  refine Nat.lt_of_not_le fun hbeyond => ?_
  have honto : numberOnto 0 (columnLetters col) = .error .beyondGrid := by
    have := numberOnto_numberLetters_beyond (col + 1) (by omega) []
    rwa [List.append_nil] at this
  unfold readColumn at h
  split at h
  · cases h
  · rw [honto] at h
    cases h

theorem numberOnto_le {cs : List Char} : ∀ {number n : Nat}, number ≤ maxColumns →
    numberOnto number cs = .ok n → n ≤ maxColumns := by
  induction cs with
  | nil =>
    intro number n hle h
    rw [← Except.ok.inj h]
    exact hle
  | cons c cs ih =>
    intro number n hle h
    rw [numberOnto] at h
    split at h
    · dsimp only at h
      split at h
      · cases h
      · exact ih (by omega) h
    · cases h

/-- A column that is read lies on the grid. -/
theorem readColumn_lt {cs : List Char} {col : Nat} (h : readColumn cs = .ok col) :
    col < maxColumns := by
  unfold readColumn at h
  split at h
  · cases h
  · cases honto : numberOnto 0 cs with
    | error fault =>
      rw [honto] at h
      cases h
    | ok n =>
      rw [honto] at h
      have hle := numberOnto_le (Nat.zero_le _) honto
      have hcol : n - 1 = col := Except.ok.inj h
      simp only [maxColumns] at hle ⊢
      omega

theorem digitsValue_toDigits (n : Nat) : Decimal.digitsValue (Nat.toDigits 10 n) = n := by
  have hfold : Decimal.digitsValue (Nat.toDigits 10 n) =
      Nat.ofDigitChars 10 (Nat.toDigits 10 n) 0 := by
    rw [Nat.ofDigitChars_eq_foldl, Decimal.digitsValue, Decimal.digitsOnto]
    simp only [Nat.mul_comm]
  rw [hfold, Nat.ofDigitChars_ten_toDigits]

theorem isDigit_of_mem_rowDigits {row : Nat} {c : Char}
    (h : c ∈ Nat.toDigits 10 (rowNumber row)) : c.isDigit = true :=
  Nat.isDigit_of_mem_toDigits (by decide) (by decide) h

/-- A row is read from its number. -/
theorem readRow_toDigits {row : Nat} (h : row < maxRows) (text : String) :
    readRow text (Nat.toDigits 10 (rowNumber row)) = .ok row := by
  have hnumber : rowNumber row = row + 1 := by
    simp only [rowNumber, Axis.words, maxRows] at h ⊢
    omega
  have hdigits : (Nat.toDigits 10 (rowNumber row)).all Char.isDigit = true :=
    List.all_eq_true.mpr fun c hc => isDigit_of_mem_rowDigits hc
  have hempty : (Nat.toDigits 10 (rowNumber row)).isEmpty = false := by
    simp [Nat.toDigits_ne_nil]
  unfold readRow
  rw [hempty, hdigits, if_neg (by decide), digitsValue_toDigits, hnumber]
  simp only [Axis.words, maxRows, Nat.add_sub_cancel] at h ⊢
  rw [if_neg (by omega), if_neg (by omega), if_neg (by omega)]

theorem lt_of_readRow_toDigits {row r : Nat} {text : String} (hword : row < Axis.rows.words)
    (h : readRow text (Nat.toDigits 10 (rowNumber row)) = .ok r) : row < maxRows := by
  unfold readRow at h
  rw [digitsValue_toDigits] at h
  have hnumber : rowNumber row = (row + 1) % 0x100000000 := rfl
  simp only [Axis.words, maxRows] at h hword ⊢
  grind

/-- A row that is read lies on the grid. -/
theorem readRow_lt {text : String} {cs : List Char} {row : Nat} (h : readRow text cs = .ok row) :
    row < maxRows := by
  unfold readRow at h
  split at h
  · cases h
  · dsimp only at h
    split at h
    · cases h
    · split at h
      · cases h
      · split at h
        · cases h
        · rename_i hlt
          rw [← Except.ok.inj h]
          exact Nat.lt_of_not_le hlt

/-! ## 2. Positions -/

/-- **A position on the grid.** -/
def Position.OnGrid (p : Position) : Prop := p.row.index < maxRows ∧ p.col.index < maxColumns

theorem takeMark_fixedMark {fixed : Bool} {cs : List Char} (h : cs.head? ≠ some '$') :
    takeMark (fixedMark fixed ++ cs) = (fixed, cs) := by
  cases fixed with
  | true => rfl
  | false =>
    cases cs with
    | nil => rfl
    | cons c cs =>
      have hc : c ≠ '$' := by simpa using h
      unfold takeMark fixedMark
      split
      · rename_i heq
        exact absurd (List.cons.inj heq).1 hc
      · rfl

/-- Nothing is lost with a mark. -/
theorem takeMark_append (cs : List Char) : fixedMark (takeMark cs).1 ++ (takeMark cs).2 = cs := by
  unfold takeMark
  split <;> rfl

theorem head?_ne_of_forall {p : Char → Bool} {cs : List Char} (hall : ∀ c ∈ cs, p c = true)
    {c : Char} (hc : p c = false) : cs.head? ≠ some c := by
  intro hhead
  rw [hall c (List.mem_of_head? hhead)] at hc
  cases hc

/-- **What letters and digits are taken apart into,** each behind a mark or none. -/
theorem parts_of_address (colFixed rowFixed : Bool) {letters digits : List Char}
    (hne : letters ≠ []) (hletters : ∀ c ∈ letters, c.isAlpha = true)
    (hdigits : ∀ c ∈ digits, c.isDigit = true) :
    takeMark (fixedMark colFixed ++ letters ++ (fixedMark rowFixed ++ digits)) =
        (colFixed, letters ++ (fixedMark rowFixed ++ digits)) ∧
      (letters ++ (fixedMark rowFixed ++ digits)).takeWhile Char.isAlpha = letters ∧
      (letters ++ (fixedMark rowFixed ++ digits)).dropWhile Char.isAlpha =
        fixedMark rowFixed ++ digits ∧
      takeMark (fixedMark rowFixed ++ digits) = (rowFixed, digits) := by
  have hdigit (d : Char) (hd : d.isDigit = false) : digits.head? ≠ some d :=
    head?_ne_of_forall hdigits hd
  -- Behind the letters there is a mark, a digit or nothing.
  have hstop : (fixedMark rowFixed ++ digits).takeWhile Char.isAlpha = [] := by
    cases rowFixed with
    | true => rfl
    | false =>
      cases hd : digits with
      | nil => rfl
      | cons d ds =>
        have hisDigit := hdigits d (by rw [hd]; exact List.mem_cons_self)
        have halpha := isAlpha_eq_false_of_isDigit hisDigit
        simp [fixedMark, halpha]
  refine ⟨?_, ?_, ?_, takeMark_fixedMark (hdigit '$' (by decide))⟩
  · rw [List.append_assoc]
    refine takeMark_fixedMark ?_
    rw [List.head?_append, Option.or_eq_left_of_isSome]
    · exact head?_ne_of_forall hletters (by decide)
    · simp [hne]
  · rw [List.takeWhile_append_of_pos hletters, hstop, List.append_nil]
  · rw [List.dropWhile_append_of_pos hletters]
    have happ := List.takeWhile_append_dropWhile (p := Char.isAlpha)
      (l := fixedMark rowFixed ++ digits)
    rwa [hstop, List.nil_append] at happ

/-- **What the text of a position is made of:** marks, letters and digits. -/
theorem Position.parts_of_chars (p : Position) :
    takeMark p.chars = (p.col.fixed, columnLetters p.col.index ++
        (fixedMark p.row.fixed ++ Nat.toDigits 10 (rowNumber p.row.index))) ∧
      (columnLetters p.col.index ++
        (fixedMark p.row.fixed ++ Nat.toDigits 10 (rowNumber p.row.index))).takeWhile Char.isAlpha =
          columnLetters p.col.index ∧
      (columnLetters p.col.index ++
        (fixedMark p.row.fixed ++ Nat.toDigits 10 (rowNumber p.row.index))).dropWhile Char.isAlpha =
          fixedMark p.row.fixed ++ Nat.toDigits 10 (rowNumber p.row.index) ∧
      takeMark (fixedMark p.row.fixed ++ Nat.toDigits 10 (rowNumber p.row.index)) =
        (p.row.fixed, Nat.toDigits 10 (rowNumber p.row.index)) :=
  parts_of_address _ _ (columnLetters_ne_nil _) (isAlpha_of_mem_numberLetters _) fun _ hc =>
    isDigit_of_mem_rowDigits hc

/-- **Reading a position,** step by step. -/
theorem readPosition_eq (cs : List Char) :
    readPosition cs =
      if cs.isEmpty then .error .empty
      else if ((takeMark cs).2.takeWhile Char.isAlpha).isEmpty then
        .error (.noColumnLetters (String.ofList cs))
      else
        match readColumn ((takeMark cs).2.takeWhile Char.isAlpha) with
        | .error fault => .error (.column fault)
        | .ok col =>
          match readRow (String.ofList cs)
            (takeMark ((takeMark cs).2.dropWhile Char.isAlpha)).2 with
          | .error fault => .error fault
          | .ok row =>
            .ok ⟨⟨row, (takeMark ((takeMark cs).2.dropWhile Char.isAlpha)).1⟩,
              ⟨col, (takeMark cs).1⟩⟩ := by
  unfold readPosition
  dsimp only
  split
  · rfl
  · split
    · rfl
    · cases readColumn ((takeMark cs).2.takeWhile Char.isAlpha) with
      | error fault => rfl
      | ok col =>
        cases readRow (String.ofList cs)
            (takeMark ((takeMark cs).2.dropWhile Char.isAlpha)).2 with
        | error fault => rfl
        | ok row => rfl

/-- **A position is read from its characters.** -/
theorem readPosition_chars {p : Position} (h : p.OnGrid) : readPosition p.chars = .ok p := by
  obtain ⟨hmark, hletters, hbehind, hdigits⟩ := p.parts_of_chars
  have hne : p.chars.isEmpty = false := by
    cases hchars : p.chars with
    | nil =>
      rw [hchars] at hmark
      have := congrArg (·.2) hmark
      simp [takeMark, columnLetters_ne_nil] at this
    | cons c cs => rfl
  have hsome : (columnLetters p.col.index).isEmpty = false := by
    simp [columnLetters_ne_nil]
  unfold readPosition
  simp only [hne, hmark, hletters, hsome, hbehind, hdigits, readColumn_columnLetters h.2,
    readRow_toDigits h.1]
  rfl

theorem Position.of_mem_chars {p : Position} {c : Char} (h : c ∈ p.chars) :
    c = '$' ∨ c.isAlpha = true ∨ c.isDigit = true := by
  have hmark {fixed : Bool} (h : c ∈ fixedMark fixed) : c = '$' := by
    cases fixed with
    | true => exact List.mem_singleton.mp h
    | false => cases h
  rcases List.mem_append.mp h with h | h
  · rcases List.mem_append.mp h with h | h
    · exact .inl (hmark h)
    · exact .inr (.inl (isAlpha_of_mem_numberLetters _ c h))
  · rcases List.mem_append.mp h with h | h
    · exact .inl (hmark h)
    · exact .inr (.inr (isDigit_of_mem_rowDigits h))

/-- There are no blanks around a position. -/
theorem Position.read_text_eq (p : Position) : Position.read p.text = readPosition p.chars := by
  have hblank : ∀ c ∈ p.chars, Text.isBlank c = false := by
    intro c hc
    rcases Position.of_mem_chars hc with rfl | hc | hc
    · decide
    · have := bounds_of_isAlpha hc
      exact Text.isBlank_eq_false (by omega)
    · have := bounds_of_isDigit hc
      exact Text.isBlank_eq_false (by omega)
  rw [Position.read, Position.text, String.toList_ofList,
    Text.trimChars_eq_self (fun c hc => hblank c (List.mem_of_head? hc))
      (fun c hc => hblank c (List.mem_of_getLast? hc))]

/-- **A position is read from its text.** -/
theorem read_text {p : Position} (h : p.OnGrid) : Position.read p.text = .ok p := by
  rw [p.read_text_eq, readPosition_chars h]

/-- **Only a position on the grid is read from its text,** as long as its row is a word. -/
theorem onGrid_of_read_text {p q : Position} (hword : p.row.index < Axis.rows.words)
    (h : Position.read p.text = .ok q) : p.OnGrid := by
  obtain ⟨hmark, hletters, hbehind, hdigits⟩ := p.parts_of_chars
  have hsome : (columnLetters p.col.index).isEmpty = false := by
    simp [columnLetters_ne_nil]
  rw [p.read_text_eq] at h
  unfold readPosition at h
  simp only [hmark, hletters, hsome, hbehind, hdigits] at h
  split at h
  · cases h
  · cases hcol : readColumn (columnLetters p.col.index) with
    | error fault =>
      rw [hcol] at h
      cases h
    | ok col =>
      rw [hcol] at h
      cases hrow : readRow (String.ofList p.chars) (Nat.toDigits 10 (rowNumber p.row.index)) with
      | error fault =>
        simp only [hrow] at h
        cases h
      | ok row => exact ⟨lt_of_readRow_toDigits hword hrow, lt_of_readColumn_columnLetters hcol⟩

/-- What is read lies on the grid. -/
theorem onGrid_of_readPosition {cs : List Char} {p : Position} (h : readPosition cs = .ok p) :
    p.OnGrid := by
  unfold readPosition at h
  dsimp only at h
  split at h
  · cases h
  · split at h
    · cases h
    · cases hcol : readColumn ((takeMark cs).2.takeWhile Char.isAlpha) with
      | error fault =>
        rw [hcol] at h
        cases h
      | ok col =>
        rw [hcol] at h
        cases hrow : readRow (String.ofList cs)
            (takeMark ((takeMark cs).2.dropWhile Char.isAlpha)).2 with
        | error fault =>
          simp only [hrow] at h
          cases h
        | ok row =>
          simp only [hrow] at h
          obtain rfl := Except.ok.inj h
          exact ⟨readRow_lt hrow, readColumn_lt hcol⟩

theorem onGrid_of_read {text : String} {p : Position} (h : Position.read text = .ok p) :
    p.OnGrid :=
  onGrid_of_readPosition h

/-- What is left of a position after a move lies on the grid. -/
theorem Position.onGrid_of_move? {p q : Position} {rows columns : Int}
    (h : p.move? rows columns = some q) : q.OnGrid := by
  have hcoordinate {c d : Coordinate} {limit : Nat} {delta : Int}
      (h : c.move? limit delta = some d) : d.index < limit := by
    unfold Coordinate.move? at h
    dsimp only at h
    generalize (if c.fixed = true then (c.index : Int) else c.index + delta) = index at h
    split at h
    · rename_i hinside
      rw [← Option.some.inj h]
      dsimp only
      omega
    · cases h
  unfold move? at h
  split at h
  · rename_i row col hrow hcol
    rw [← Option.some.inj h]
    exact ⟨hcoordinate hrow, hcoordinate hcol⟩
  · cases h

end Spreadsheet.Grid

namespace Spreadsheet.Formula

open Grid

/-! ## 3. References -/

/-- **A reference on the grid,** the corners of a rectangle in order. -/
def Reference.Proper : Reference → Prop
  | .cell pos => pos.OnGrid
  | .area first last => first.OnGrid ∧ last.OnGrid ∧
      first.row.index ≤ last.row.index ∧ first.col.index ≤ last.col.index

/-- Corners in order make the rectangle that they are the corners of. -/
theorem Reference.between_of_le {a b : Position} (hrow : a.row.index ≤ b.row.index)
    (hcol : a.col.index ≤ b.col.index) : Reference.between a b = .area a b := by
  simp [between, inOrder, hrow, hcol]

/-- The rectangle between two positions on the grid is a proper one. -/
theorem Reference.proper_between {a b : Position} (ha : a.OnGrid) (hb : b.OnGrid) :
    (Reference.between a b).Proper := by
  obtain ⟨harow, hacol⟩ := ha
  obtain ⟨hbrow, hbcol⟩ := hb
  have hordered (c d : Coordinate) :
      ((inOrder c d).1 = c ∧ (inOrder c d).2 = d ∨ (inOrder c d).1 = d ∧ (inOrder c d).2 = c) ∧
        (inOrder c d).1.index ≤ (inOrder c d).2.index := by
    unfold inOrder
    split
    · rename_i hle
      exact ⟨.inl ⟨rfl, rfl⟩, hle⟩
    · rename_i hlt
      exact ⟨.inr ⟨rfl, rfl⟩, Nat.le_of_not_le hlt⟩
  obtain ⟨hrows, hrow⟩ := hordered a.row b.row
  obtain ⟨hcols, hcol⟩ := hordered a.col b.col
  simp only [between, Proper, Position.OnGrid]
  refine ⟨⟨?_, ?_⟩, ⟨?_, ?_⟩, hrow, hcol⟩
  · rcases hrows with ⟨h, -⟩ | ⟨h, -⟩ <;> rw [h] <;> assumption
  · rcases hcols with ⟨h, -⟩ | ⟨h, -⟩ <;> rw [h] <;> assumption
  · rcases hrows with ⟨-, h⟩ | ⟨-, h⟩ <;> rw [h] <;> assumption
  · rcases hcols with ⟨-, h⟩ | ⟨-, h⟩ <;> rw [h] <;> assumption

/-- **What is left of a reference after a move is proper.** -/
theorem Reference.proper_of_move? {r q : Reference} {rows columns : Int}
    (h : r.move? rows columns = some q) : q.Proper := by
  unfold move? at h
  cases r with
  | cell pos =>
    obtain ⟨pos', hpos, rfl⟩ := Option.map_eq_some_iff.mp h
    exact Position.onGrid_of_move? hpos
  | area first last =>
    dsimp only at h
    split at h
    · rename_i a b ha hb
      rw [← Option.some.inj h]
      exact proper_between (Position.onGrid_of_move? ha) (Position.onGrid_of_move? hb)
    · cases h

end Spreadsheet.Formula
