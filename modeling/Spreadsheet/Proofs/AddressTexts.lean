/-
# The texts of addresses

* Arguments that can all be read (`Reads`) give an address unless a bound refuses one of them
  (`addressOf_eq`), and the address is a position as it is written (`addressChars_eq`), whatever
  the numbers are: what is left to ask is whether the position lies on the grid.
* Row and column are checked from outside, the number of the marks from inside.  So the marks are
  always those of a number from one to four, but row and column are whole numbers on the grid *or
  no numbers at all* (`not_refused_iff`).
* In the first case the address reads back as the cell that was asked for.  In the second the
  missing number is zero as a word: row zero, or the column before the first, and no cell has
  such an address (`names_no_cell_of_slips`).

An address in letters is thus either what its arguments say, or one of the arguments in front is a
text like `nan` that reads as no number while all others are accepted (`addressesCell_iff`).
-/
import Spreadsheet.Formula.Evaluation
import Spreadsheet.Proofs.Addresses
import Spreadsheet.Proofs.WholeDoubles

namespace Spreadsheet.Formula

open Decimal Grid

/-! ## 1. Arguments -/

/-- The number that an argument is read as; `absent` stands for one that is not given. -/
def given? (args : List Operand) (index : Nat) (absent : Float) : Option Float :=
  match args[index]? with
  | some v => v.number?
  | none => some absent

/-- The whole part of the number that an argument is read as. -/
def wholeGiven? (args : List Operand) (index : Nat) (absent : Float) : Option Int :=
  (given? args index absent).bind wholePart?

theorem wholeArg_of_given? {args : List Operand} {index : Nat} {absent x : Float}
    (h : given? args index absent = some x) : wholeArg args index absent = .ok (truncate x) := by
  unfold given? at h
  unfold wholeArg
  cases harg : args[index]? with
  | none =>
    rw [harg] at h
    obtain rfl := Option.some.inj h
    rfl
  | some v =>
    rw [harg] at h
    simp only [Operand.toNumber, h]
    rfl

theorem wholeArg_of_given?_eq_none {args : List Operand} {index : Nat} {absent : Float}
    (h : given? args index absent = none) : ∃ fault, wholeArg args index absent = .error fault := by
  unfold given? at h
  unfold wholeArg
  cases harg : args[index]? with
  | none =>
    rw [harg] at h
    cases h
  | some v =>
    rw [harg] at h
    simp only [Operand.toNumber, h]
    exact ⟨_, rfl⟩

/-- Whether an address is asked for in letters; absent, it is. -/
def lettersAsked (args : List Operand) : Except Fault Bool :=
  (args[3]?.map Operand.toBool).getD (.ok true)

/-- **What the arguments of an address in letters are read as,** none of them being an error. -/
structure Reads (args : List Operand) (row col kind : Float) : Prop where
  clean : args.findSome? Operand.error? = none
  row : given? args 0 0.0 = some row
  col : given? args 1 0.0 = some col
  kind : given? args 2 1.0 = some kind
  letters : lettersAsked args = .ok true

/-! ## 2. The text -/

/-- **The position that an address is,** as words. -/
def addressedAt (row col kind : Float) : Position :=
  ⟨⟨(row.toUInt32 - 1).toNat, (marksOf kind.toUInt8.toNat).1⟩,
    ⟨(col.toUInt16 - 1).toNat, (marksOf kind.toUInt8.toNat).2⟩⟩

theorem rowNumber_pred (w : UInt32) : rowNumber (w - 1).toNat = w.toNat := by
  have hlt := w.toNat_lt
  rw [rowNumber, UInt32.toNat_sub]
  change ((2 ^ 32 - 1 + w.toNat) % 2 ^ 32 + 1) % 2 ^ 32 = w.toNat
  omega

/-- **An address in letters is a position as it is written.** -/
theorem addressChars_eq (row col kind : Float) :
    addressChars row col (marksOf kind.toUInt8.toNat).1 (marksOf kind.toUInt8.toNat).2 true =
      (addressedAt row col kind).chars := by
  simp only [addressChars, Position.chars, addressedAt, rowNumber_pred, if_true]

/-- The sheet named in front of an address; an empty text names none. -/
def sheetText? (args : List Operand) : Option String :=
  let sheet := (args[4]?.map Operand.shown).getD ""
  if sheet.isEmpty then none else some sheet

/-- Whether a bound refuses one of the numbers of an address. -/
def Refused (row col kind : Float) : Prop :=
  truncate row < Float.ofNat 1 ∨ truncate col < Float.ofNat 1 ∨
    Float.ofNat maxRows < truncate row ∨ Float.ofNat maxColumns < truncate col ∨
    ¬ (Float.ofNat 1 ≤ truncate kind ∧ truncate kind ≤ Float.ofNat 4)

instance (row col kind : Float) : Decidable (Refused row col kind) :=
  inferInstanceAs (Decidable (_ ∨ _ ∨ _ ∨ _ ∨ _))

theorem addressOf_eq {args : List Operand} {row col kind : Float} (h : Reads args row col kind) :
    addressOf args = if Refused row col kind then .ok (.error .value) else
      .ok (.text (String.ofList (sheetMark (sheetText? args) ++
        (addressedAt (truncate row) (truncate col) (truncate kind)).chars))) := by
  have hone : (1.0 : Float) = Float.ofNat 1 := by decide +kernel
  have hfour : (4.0 : Float) = Float.ofNat 4 := by decide +kernel
  have hfront : sheetMark (sheetText? args) =
      if ((args[4]?.map Operand.shown).getD "").isEmpty then []
      else sheetMark (some ((args[4]?.map Operand.shown).getD "")) := by
    unfold sheetText?
    dsimp only
    split <;> rfl
  unfold addressOf
  rw [h.clean, wholeArg_of_given? h.row, wholeArg_of_given? h.col, wholeArg_of_given? h.kind,
    ← addressChars_eq, hfront]
  have hletters := h.letters
  unfold lettersAsked at hletters
  rw [hletters, hone, hfour]
  change (if _ then _ else _) = _
  refine if_congr ?_ rfl rfl
  simp only [Refused, Bool.or_eq_true, Bool.not_eq_true', Bool.and_eq_false_iff, decide_eq_true_eq,
    decide_eq_false_iff_not, not_and_or, or_assoc]

/-! ## 3. The bounds -/

/-- A whole part between one and a bound. -/
def Within (x : Float) (limit : Nat) : Prop :=
  ∃ n : Nat, wholePart? x = some (n : Int) ∧ 1 ≤ n ∧ n ≤ limit

/-- **Row and column pass their bounds from one to the grid's, or as no numbers;** the number of
the marks passes only from one to four. -/
theorem not_refused_iff {row col kind : Float} :
    ¬ Refused row col kind ↔
      (Parts.of row = .notANumber ∨ Within row maxRows) ∧
        (Parts.of col = .notANumber ∨ Within col maxColumns) ∧ Within kind 4 := by
  have hrow := not_outside_iff (x := row) (show 1 < 2 ^ 53 by decide)
    (show maxRows < 2 ^ 53 by decide)
  have hcol := not_outside_iff (x := col) (show 1 < 2 ^ 53 by decide)
    (show maxColumns < 2 ^ 53 by decide)
  have hkind := inside_iff (x := kind) (show 1 < 2 ^ 53 by decide) (show 4 < 2 ^ 53 by decide)
  rw [Within, Within, Within, ← hrow, ← hcol, ← hkind, Refused]
  simp only [not_or, not_not]
  constructor
  · rintro ⟨hrowLow, hcolLow, hrowHigh, hcolHigh, hkind⟩
    exact ⟨⟨hrowLow, hrowHigh⟩, ⟨hcolLow, hcolHigh⟩, hkind⟩
  · rintro ⟨⟨hrowLow, hrowHigh⟩, ⟨hcolLow, hcolHigh⟩, hkind⟩
    exact ⟨hrowLow, hcolLow, hrowHigh, hcolHigh, hkind⟩

theorem wholePart?_eq_none {x : Float} (h : Parts.of x = .notANumber) : wholePart? x = none := by
  rw [wholePart?, h]

/-! ## 4. The position -/

/-- **An address within the bounds is the position that was asked for.** -/
theorem addressedAt_eq {row col kind : Float} {r c k : Nat}
    (hrow : wholePart? row = some (r : Int)) (hr : 1 ≤ r ∧ r ≤ maxRows)
    (hcol : wholePart? col = some (c : Int)) (hc : 1 ≤ c ∧ c ≤ maxColumns)
    (hkind : wholePart? kind = some (k : Int)) (hk : k ≤ 4) :
    addressedAt (truncate row) (truncate col) (truncate kind) =
      ⟨⟨r - 1, (marksOf k).1⟩, ⟨c - 1, (marksOf k).2⟩⟩ := by
  simp only [maxRows, maxColumns] at hr hc
  have hrowWord := (denotes_truncate_nat hrow).toUInt32 (show r < 2 ^ 32 by omega)
  have hcolWord := (denotes_truncate_nat hcol).toUInt16 (show c < 2 ^ 16 by omega)
  have hkindWord := (denotes_truncate_nat hkind).toUInt8 (show k < 2 ^ 8 by omega)
  have hrowIndex : ((truncate row).toUInt32 - 1).toNat = r - 1 := by
    rw [UInt32.toNat_sub, hrowWord]
    change (2 ^ 32 - 1 + r) % 2 ^ 32 = r - 1
    omega
  have hcolIndex : ((truncate col).toUInt16 - 1).toNat = c - 1 := by
    rw [UInt16.toNat_sub, hcolWord]
    change (2 ^ 16 - 1 + c) % 2 ^ 16 = c - 1
    omega
  rw [addressedAt, hrowIndex, hcolIndex, hkindWord]

/-- **Numbers within the bounds give the text of the position behind the sheet.** -/
theorem addressOf_of_within {args : List Operand} {row col kind : Float}
    (h : Reads args row col kind) {r c k : Nat}
    (hrow : wholePart? row = some (r : Int)) (hr : 1 ≤ r ∧ r ≤ maxRows)
    (hcol : wholePart? col = some (c : Int)) (hc : 1 ≤ c ∧ c ≤ maxColumns)
    (hkind : wholePart? kind = some (k : Int)) (hk : 1 ≤ k ∧ k ≤ 4) :
    addressOf args = .ok (.text (String.ofList (sheetMark (sheetText? args) ++
      (⟨⟨r - 1, (marksOf k).1⟩, ⟨c - 1, (marksOf k).2⟩⟩ : Position).chars))) := by
  have hpasses : ¬ Refused row col kind :=
    not_refused_iff.mpr ⟨.inr ⟨r, hrow, hr⟩, .inr ⟨c, hcol, hc⟩, k, hkind, hk⟩
  rw [addressOf_eq h, if_neg hpasses, addressedAt_eq hrow hr hcol hc hkind hk.2]

/-- An address whose row or column is no number lies beyond the grid. -/
theorem not_onGrid_addressedAt {row col kind : Float}
    (h : Parts.of row = .notANumber ∨ Parts.of col = .notANumber) :
    ¬ (addressedAt (truncate row) (truncate col) (truncate kind)).OnGrid := by
  rintro ⟨hrow, hcol⟩
  rcases h with h | h
  · rw [addressedAt, truncate_of_wholePart?_eq_none (wholePart?_eq_none h),
      (words_of_notANumber h).2] at hrow
    exact absurd hrow (show ¬ (0 - 1 : UInt32).toNat < maxRows by decide)
  · rw [addressedAt, truncate_of_wholePart?_eq_none (wholePart?_eq_none h),
      (words_of_notANumber h).1] at hcol
    exact absurd hcol (show ¬ (0 - 1 : UInt16).toNat < maxColumns by decide)

/-- The part of an address behind the sheet. -/
def cellPart (s : String) : String :=
  String.ofList (s.toList.reverse.takeWhile (· != '!')).reverse

theorem cellPart_chars (sheet : Option String) (p : Position) :
    cellPart (String.ofList (sheetMark sheet ++ p.chars)) = p.text := by
  have hplain : ∀ c ∈ p.chars.reverse, (c != '!') = true := by
    intro c hc
    rw [bne_iff_ne]
    rintro rfl
    rcases Position.of_mem_chars (List.mem_reverse.mp hc) with h | h | h <;> simp at h
  have hstop : (sheetMark sheet).reverse.takeWhile (· != '!') = [] := by
    cases sheet with
    | none => rfl
    | some name => simp [sheetMark]
  rw [cellPart, String.toList_ofList, List.reverse_append, List.takeWhile_append_of_pos hplain,
    hstop, List.append_nil, List.reverse_reverse, Position.text]

/-! ## 5. What an address promises -/

/-- **The position that arguments ask for:** row and column counted from one are the whole parts of
the first two, and the marks are those of the third, which is one if it is not given. -/
structure AskedFor (args : List Operand) (p : Position) : Prop where
  row : wholeGiven? args 0 0.0 = some ((p.row.index + 1 : Nat) : Int)
  col : wholeGiven? args 1 0.0 = some ((p.col.index + 1 : Nat) : Int)
  marks : ∃ kind : Nat, wholeGiven? args 2 1.0 = some (kind : Int) ∧ 1 ≤ kind ∧ kind ≤ 4 ∧
    marksOf kind = (p.row.fixed, p.col.fixed)

/-- The word from which the column of an address is counted down. -/
def columnWord (args : List Operand) : Option UInt16 :=
  (given? args 1 0.0).map fun x => (truncate x).toUInt16

/-- **An address does what its arguments say:** it is a fault, an error value, or a text whose part
behind the sheet reads as the position asked for, and no column was counted down from zero. -/
def AddressesCell (args : List Operand) : Except Fault Operand → Prop
  | .error _ | .ok (.error _) => True
  | .ok (.text s) =>
    columnWord args ≠ some 0 ∧ ∃ p, Position.read (cellPart s) = .ok p ∧ p.OnGrid ∧ AskedFor args p
  | .ok _ => False

/-- **Arguments that slip past the bounds:** row or column is no number, and everything else is as
it should be. -/
def Slips (args : List Operand) : Prop :=
  ∃ row col kind, Reads args row col kind ∧
    (Parts.of row = .notANumber ∨ Within row maxRows) ∧
    (Parts.of col = .notANumber ∨ Within col maxColumns) ∧ Within kind 4 ∧
    (Parts.of row = .notANumber ∨ Parts.of col = .notANumber)

/-- Arguments that cannot all be read give no text. -/
theorem reads_or_refuses {args : List Operand} (hletters : lettersAsked args ≠ .ok false) :
    (∃ row col kind, Reads args row col kind) ∨ (∃ fault, addressOf args = .error fault) ∨
      ∃ code, addressOf args = .ok (.error code) := by
  unfold addressOf
  cases hclean : args.findSome? Operand.error? with
  | some code => exact .inr (.inr ⟨code, rfl⟩)
  | none =>
    cases hrow : given? args 0 0.0 with
    | none =>
      obtain ⟨fault, hfault⟩ := wholeArg_of_given?_eq_none hrow
      rw [hfault]
      exact .inr (.inl ⟨fault, rfl⟩)
    | some row =>
      cases hcol : given? args 1 0.0 with
      | none =>
        obtain ⟨fault, hfault⟩ := wholeArg_of_given?_eq_none hcol
        rw [wholeArg_of_given? hrow, hfault]
        exact .inr (.inl ⟨fault, rfl⟩)
      | some col =>
        cases hkind : given? args 2 1.0 with
        | none =>
          obtain ⟨fault, hfault⟩ := wholeArg_of_given?_eq_none hkind
          rw [wholeArg_of_given? hrow, wholeArg_of_given? hcol, hfault]
          exact .inr (.inl ⟨fault, rfl⟩)
        | some kind =>
          cases hasked : lettersAsked args with
          | ok letters =>
            cases letters with
            | true => exact .inl ⟨row, col, kind, hclean, hrow, hcol, hkind, hasked⟩
            | false => exact absurd hasked hletters
          | error fault =>
            unfold lettersAsked at hasked
            rw [wholeArg_of_given? hrow, wholeArg_of_given? hcol, wholeArg_of_given? hkind, hasked]
            exact .inr (.inl ⟨fault, rfl⟩)

/-- Arguments within all bounds do what they say. -/
theorem addressesCell_of_within {args : List Operand} {row col kind : Float}
    (h : Reads args row col kind) (hrow : Within row maxRows) (hcol : Within col maxColumns)
    (hkind : Within kind 4) : AddressesCell args (addressOf args) := by
  obtain ⟨r, hrow, hr⟩ := hrow
  obtain ⟨c, hcol, hc⟩ := hcol
  obtain ⟨k, hkind, hk⟩ := hkind
  have hgrid : (⟨⟨r - 1, (marksOf k).1⟩, ⟨c - 1, (marksOf k).2⟩⟩ : Position).OnGrid :=
    ⟨show r - 1 < maxRows by omega, show c - 1 < maxColumns by omega⟩
  have hword : (truncate col).toUInt16.toNat = c :=
    (denotes_truncate_nat hcol).toUInt16 (Nat.lt_of_le_of_lt hc.2 (by decide))
  rw [addressOf_of_within h hrow hr hcol hc hkind hk]
  refine ⟨?_, ⟨⟨r - 1, (marksOf k).1⟩, ⟨c - 1, (marksOf k).2⟩⟩, ?_, hgrid, ?_, ?_,
    k, ?_, hk.1, hk.2, rfl⟩
  · rw [columnWord, h.col, Option.map_some, Ne, Option.some.injEq, ← UInt16.toNat_inj, hword]
    exact Nat.ne_of_gt hc.1
  · rw [cellPart_chars]
    exact read_text hgrid
  · rw [wholeGiven?, h.row, Option.bind_some, hrow, Nat.sub_add_cancel hr.1]
  · rw [wholeGiven?, h.col, Option.bind_some, hcol, Nat.sub_add_cancel hc.1]
  · rw [wholeGiven?, h.kind, Option.bind_some, hkind]

/-- **What slips past the bounds gives a text,** and no cell has it as its address. -/
theorem names_no_cell_of_slips {args : List Operand} (h : Slips args) :
    ∃ s, addressOf args = .ok (.text s) ∧ ∀ p, Position.read (cellPart s) ≠ .ok p := by
  obtain ⟨row, col, kind, hreads, hrow, hcol, hkind, hnumber⟩ := h
  refine ⟨_, by rw [addressOf_eq hreads, if_neg (not_refused_iff.mpr ⟨hrow, hcol, hkind⟩)], ?_⟩
  intro p hp
  rw [cellPart_chars] at hp
  exact not_onGrid_addressedAt hnumber (onGrid_of_read_text (UInt32.toNat_lt _) hp)

theorem not_addressesCell_of_slips {args : List Operand} (h : Slips args) :
    ¬ AddressesCell args (addressOf args) := by
  obtain ⟨s, hs, hnone⟩ := names_no_cell_of_slips h
  rw [hs]
  rintro ⟨-, p, hp, -⟩
  exact hnone p hp

/-- **An address in letters does what its arguments say exactly if they do not slip past the
bounds.** -/
theorem addressesCell_iff {args : List Operand} (hletters : lettersAsked args ≠ .ok false) :
    AddressesCell args (addressOf args) ↔ ¬ Slips args := by
  constructor
  · exact fun h hslips => not_addressesCell_of_slips hslips h
  · intro hslips
    rcases reads_or_refuses hletters with ⟨row, col, kind, hreads⟩ | ⟨fault, h⟩ | ⟨code, h⟩
    · by_cases hrefused : Refused row col kind
      · rw [addressOf_eq hreads, if_pos hrefused]
        trivial
      · obtain ⟨hrow, hcol, hkind⟩ := not_refused_iff.mp hrefused
        have hnumbers : ¬ (Parts.of row = .notANumber ∨ Parts.of col = .notANumber) :=
          fun h => hslips ⟨row, col, kind, hreads, hrow, hcol, hkind, h⟩
        rw [not_or] at hnumbers
        exact addressesCell_of_within hreads (hrow.resolve_left hnumbers.1)
          (hcol.resolve_left hnumbers.2) hkind
    · rw [h]
      trivial
    · rw [h]
      trivial

/-- A row and a text with a column, both with fractions, on a sheet whose name needs quotes. -/
theorem addressesCell_of_fractions :
    lettersAsked [.number 3.5, .text " 2.9 ", .number 4.0, .bool true, .text "my data"] ≠ .ok false ∧
      AddressesCell [.number 3.5, .text " 2.9 ", .number 4.0, .bool true, .text "my data"]
        (addressOf [.number 3.5, .text " 2.9 ", .number 4.0, .bool true, .text "my data"]) := by
  have hletters :
      lettersAsked [.number 3.5, .text " 2.9 ", .number 4.0, .bool true, .text "my data"] ≠
        .ok false := nofun
  refine ⟨hletters, (addressesCell_iff hletters).mpr ?_⟩
  rintro ⟨row, col, kind, hreads, -, -, -, hnumber⟩
  obtain rfl : 3.5 = row := Option.some.inj hreads.row
  have hcol : Decimal.read? (Text.trimChars " 2.9 ".toList) = some col := hreads.col
  rcases hnumber with hnumber | hnumber
  · exact absurd hnumber (by decide +kernel)
  · have hread : Decimal.read? (Text.trimChars " 2.9 ".toList) = some 2.9 := by decide +kernel
    obtain rfl : 2.9 = col := Option.some.inj (hread.symm.trans hcol)
    exact absurd hnumber (by decide +kernel)

/-- A row `nan` slips past the bounds. -/
theorem slips_nan : Slips [.text "nan", .number 1.0] := by
  refine ⟨notANumber, 1.0, 1.0, ⟨rfl, ?_, ?_, ?_, rfl⟩, .inl ?_, .inr ⟨1, ?_, ?_, ?_⟩,
    ⟨1, ?_, ?_, ?_⟩, .inl ?_⟩
  all_goals decide +kernel

/-- So not every address in letters is what it promises, and with `nan` for the column instead of
the row the column is counted down from zero. -/
theorem address_of_nan :
    (¬ ∀ args : List Operand, 2 ≤ args.length → args.length ≤ 5 →
      lettersAsked args ≠ .ok false → AddressesCell args (addressOf args)) ∧
      (∃ s, addressOf [.number 1.0, .text "nan"] = .ok (.text s)) ∧
      columnWord [.number 1.0, .text "nan"] = some 0 := by
  refine ⟨?_, ?_, by decide +kernel⟩
  · intro h
    exact not_addressesCell_of_slips slips_nan (h _ (by decide) (by decide) nofun)
  · have hslips : Slips [.number 1.0, .text "nan"] := by
      refine ⟨1.0, notANumber, 1.0, ⟨rfl, ?_, ?_, ?_, rfl⟩, .inr ⟨1, ?_, ?_, ?_⟩, .inl ?_,
        ⟨1, ?_, ?_, ?_⟩, .inr ?_⟩
      all_goals decide +kernel
    obtain ⟨s, hs, -⟩ := names_no_cell_of_slips hslips
    exact ⟨s, hs⟩

end Spreadsheet.Formula
