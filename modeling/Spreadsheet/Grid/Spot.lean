/-
# Places on the grid

* A sheet is a grid of rows and columns, both counted from zero.  The largest grid has 2^20 rows
  and 2^14 columns; indices as such are words of 32 and 16 bits, and computing with them stops at
  the last word instead of wrapping.
* A *spot* is a place on one sheet, a *key* a place in the workbook.  Spots are ordered row by
  row; whatever is listed, is listed in that order.
-/

namespace Spreadsheet.Grid

/-! ## 1. Axes and limits -/

/-- The two directions of a grid. -/
inductive Axis where
  | rows
  | columns
deriving DecidableEq, Repr

/-- Rows of the largest grid. -/
def maxRows : Nat := 1048576

/-- Columns of the largest grid. -/
def maxColumns : Nat := 16384

/-- Number of lines the largest grid has on an axis. -/
def Axis.limit : Axis → Nat
  | .rows => maxRows
  | .columns => maxColumns

/-- Number of words an index on an axis can be. -/
def Axis.words : Axis → Nat
  | .rows => 0x100000000
  | .columns => 0x10000

/-! ## 2. Spots -/

/-- **A place on a sheet.** -/
structure Spot where
  row : Nat
  col : Nat
deriving DecidableEq, Repr

/-- Row by row, and within a row column by column. -/
instance : Ord Spot where
  compare a b := (compare a.row b.row).then (compare a.col b.col)

theorem Spot.compare_def (a b : Spot) :
    compare a b = (compare a.row b.row).then (compare a.col b.col) := rfl

theorem Spot.compare_eq_lt {a b : Spot} :
    compare a b = .lt ↔ a.row < b.row ∨ (a.row = b.row ∧ a.col < b.col) := by
  simp [Spot.compare_def, Ordering.then_eq_lt, Nat.compare_eq_lt]

theorem Spot.compare_eq_eq {a b : Spot} : compare a b = .eq ↔ a = b := by
  cases a; cases b
  simp [Spot.compare_def, Ordering.then_eq_eq]

theorem Spot.compare_eq_gt {a b : Spot} :
    compare a b = .gt ↔ b.row < a.row ∨ (a.row = b.row ∧ b.col < a.col) := by
  simp [Spot.compare_def, Ordering.then_eq_gt, Nat.compare_eq_gt]

theorem Spot.isLE_compare {a b : Spot} :
    (compare a b).isLE ↔ a.row < b.row ∨ (a.row = b.row ∧ a.col ≤ b.col) := by
  have hg := @Spot.compare_eq_gt a b
  cases h : compare a b <;> simp only [h, Ordering.isLE] at hg ⊢
  · have := Spot.compare_eq_lt.mp h; simp; omega
  · have := Spot.compare_eq_eq.mp h; subst this; simp
  · simp only [true_iff] at hg; simp; omega

instance : Std.TransOrd Spot where
  eq_swap := by
    intro a b
    cases h : compare b a
    · have := Spot.compare_eq_lt.mp h
      exact Spot.compare_eq_gt.mpr (by omega)
    · rw [Spot.compare_eq_eq.mp h]
      exact Spot.compare_eq_eq.mpr rfl
    · have := Spot.compare_eq_gt.mp h
      exact Spot.compare_eq_lt.mpr (by omega)
  isLE_trans := by
    intro a b c hab hbc
    rw [Spot.isLE_compare] at hab hbc ⊢
    omega

instance : Std.LawfulEqOrd Spot where
  compare_self := Spot.compare_eq_eq.mpr rfl
  eq_of_compare := Spot.compare_eq_eq.mp

/-- The index of a spot on an axis. -/
def Spot.along (s : Spot) : Axis → Nat
  | .rows => s.row
  | .columns => s.col

/-- The spot with another index on an axis. -/
def Spot.withAlong (s : Spot) (axis : Axis) (index : Nat) : Spot :=
  match axis with
  | .rows => { s with row := index }
  | .columns => { s with col := index }

/-! ## 3. Sheets and keys -/

/-- **The identity of a sheet,** never used twice in a workbook. -/
structure SheetId where
  number : Nat
deriving DecidableEq, Repr

/-- A sheet's identity in messages. -/
def SheetId.text (id : SheetId) : String := "sheet#" ++ toString id.number

/-- **A place in the workbook.** -/
structure Key where
  sheet : SheetId
  spot : Spot
deriving DecidableEq, Repr

/-- **Scan order:** sheet by sheet, and within a sheet row by row. -/
def Key.Before (k j : Key) : Prop :=
  k.sheet.number < j.sheet.number ∨
    k.sheet = j.sheet ∧ (k.spot.row < j.spot.row ∨ k.spot.row = j.spot.row ∧ k.spot.col < j.spot.col)

instance (k j : Key) : Decidable (k.Before j) := inferInstanceAs (Decidable (_ ∨ _))

theorem Key.not_before_self (k : Key) : ¬ k.Before k := by
  simp [Key.Before]

theorem Key.Before.asymm {k j : Key} (h : k.Before j) : ¬ j.Before k := by
  rintro (hnumber | ⟨hsheet, hspot⟩)
  · rcases h with h | ⟨h, -⟩
    · omega
    · rw [h] at hnumber
      omega
  · rcases h with h | ⟨-, h⟩
    · rw [hsheet] at h
      omega
    · omega

theorem Key.Before.trans {k j l : Key} (h : k.Before j) (h' : j.Before l) : k.Before l := by
  rcases h with h | ⟨hsheet, hspot⟩
  · rcases h' with h' | ⟨hsheet', -⟩
    · exact .inl (Nat.lt_trans h h')
    · exact .inl (hsheet' ▸ h)
  · rcases h' with h' | ⟨hsheet', hspot'⟩
    · exact .inl (hsheet ▸ h')
    · exact .inr ⟨hsheet.trans hsheet', by omega⟩

end Spreadsheet.Grid
