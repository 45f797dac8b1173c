/-
# When a rejection can be said

A range that leads beyond its sheet is refused, and the refusal quotes the range.  The range is
written by its ends, each with the number of its row, and that number is the row's index plus one.

* The last row of a range stops at the last word, so the question whether the range lies on its
  sheet is safe for every corner and every extent (`Sheet.lastRow_lt_of_holds`).
* The text of the same end counts one further.  A range whose last row *is* the last word therefore
  has no text (`Range.text?_isSome`).
* Giving a name and merging quote no other range than the one that was given
  (`Workbook.quotes_of_defineName`, `Workbook.quotes_of_merge`), and they do quote it whenever it
  does not lie on the sheet, which is the case for every range up to the last word.

So both operations answer every range but those that reach the last word, and none of those
(`Workbook.sayable_iff`): the bounds check is safe, and the sentence about it is not.
-/
import Spreadsheet.Workbook.Sheets

namespace Spreadsheet

open Grid

/-! ## 1. Texts -/

namespace Grid

/-- The row's number is a word. -/
theorem rowNumber?_eq {row : Nat} (h : row + 1 < Axis.rows.words) :
    rowNumber? row = some (rowNumber row) := by
  rw [rowNumber?, if_pos h, rowNumber, Nat.mod_eq_of_lt h]

theorem rowNumber?_isSome {row : Nat} :
    (rowNumber? row).isSome = true ↔ row + 1 < Axis.rows.words := by
  rw [rowNumber?]
  split <;> simp [*]

theorem Position.text?_eq {p : Position} (h : p.row.index + 1 < Axis.rows.words) :
    p.text? = some p.text := by
  rw [text?, rowNumber?_eq h]
  rfl

theorem Position.text?_isSome {p : Position} :
    p.text?.isSome = true ↔ p.row.index + 1 < Axis.rows.words := by
  rw [text?, Option.isSome_map, rowNumber?_isSome]

/-- **A range has a text if its last row has a number.** -/
theorem Range.text?_eq {r : Range} (h : r.lastRow + 1 < Axis.rows.words) :
    r.text? = some r.text := by
  have hfirst : r.first.row + 1 < Axis.rows.words := by
    have hle : r.first.row ≤ r.lastRow := Span.first_le_last (by
      simp only [lastRow, Span.last] at h
      omega)
    omega
  have htext : r.first.text? = some r.first.text := Position.text?_eq hfirst
  have htext' : r.last.text? = some r.last.text := Position.text?_eq h
  rw [text?, text, htext, htext']
  split <;> rfl

/-- **… and only then.** -/
theorem Range.text?_isSome {r : Range} :
    r.text?.isSome = true ↔ r.lastRow + 1 < Axis.rows.words := by
  refine ⟨fun h => ?_, fun h => by rw [text?_eq h]; rfl⟩
  rw [text?] at h
  split at h
  · rename_i hsingle
    have hfirst : r.first.row + 1 < Axis.rows.words := Position.text?_isSome.mp h
    simp only [isSingle, Bool.and_eq_true, beq_iff_eq] at hsingle
    have hlast : r.lastRow ≤ r.first.row := by
      simp only [lastRow, Span.last, first]
      omega
    omega
  · obtain ⟨text, htext⟩ := Option.isSome_iff_exists.mp h
    simp only [Option.bind_eq_bind, Option.bind_eq_some_iff] at htext
    obtain ⟨_, -, last, hlast, -⟩ := htext
    exact Position.text?_isSome.mp (Option.isSome_iff_exists.mpr ⟨last, hlast⟩)

/-- The last row of a range has a number unless the range reaches the last word. -/
theorem Range.lastRow_make (row col height width : Nat) :
    (Range.make row col height width).lastRow + 1 < Axis.rows.words ↔
      row + max height 1 < Axis.rows.words := by
  have hrows : Axis.rows.words = 0x100000000 := rfl
  simp only [lastRow, make, Span.make, Span.last]
  omega

end Grid

/-! ## 2. Messages -/

/-- **A rejection has a message exactly if every range that it quotes has a text.** -/
theorem Error.message?_eq_some {e : Error} :
    e.message? = some e.message ↔ ∀ r ∈ e.ranges, r.lastRow + 1 < Axis.rows.words := by
  simp [message?, Range.text?_isSome]

/-- **An answer can be said:** it is no rejection, or one that has a message. -/
def Sayable {α : Type} (answer : Except Error α) : Prop :=
  ∀ e, answer = .error e → e.message? = some e.message

section Quoting

variable {α : Type} {answer : Except Error α} {range : Range}

/-- **An answer that quotes one range,** and does when the range has no text, can be said exactly if
the range has one. -/
theorem sayable_iff_of_quotes
    (hquotes : ∀ e, answer = .error e → ∀ r ∈ e.ranges, r = range)
    (hbeyond : ¬ range.lastRow + 1 < Axis.rows.words → answer = .error (.rangeBeyond range)) :
    Sayable answer ↔ range.lastRow + 1 < Axis.rows.words := by
  refine ⟨fun h => Decidable.byContradiction fun hlast => ?_,
    fun h e he => Error.message?_eq_some.mpr fun r hr => ?_⟩
  · have hmessage := h _ (hbeyond hlast)
    exact hlast (Error.message?_eq_some.mp hmessage range (List.mem_singleton_self range))
  · rw [hquotes e he r hr]
    exact h

end Quoting

/-! ## 3. Sheets -/

namespace Sheet

/-- A range on the sheet ends long before the last word. -/
theorem lastRow_lt_of_holds {s : Sheet} {range : Range} (h : s.holds range = true) :
    range.lastRow + 1 < Axis.rows.words := by
  have hrows := s.rows_le
  have hwords : Axis.rows.words = 0x100000000 := rfl
  simp only [holds, Range.fits, Bool.and_eq_true, decide_eq_true_eq] at h
  simp only [maxRows] at hrows
  omega

/-- Merging quotes the range that was given. -/
theorem quotes_of_merge {s : Sheet} {range : Range} {e : Error} (h : s.merge range = .error e) :
    e.ranges = [range] := by
  rw [merge] at h
  split at h
  · cases h
    rfl
  · split at h
    · cases h
      rfl
    · split at h <;> cases h

end Sheet

/-! ## 4. Operations -/

namespace Workbook

variable {wb : Workbook} {id : SheetId} {s : Sheet} {range : Range}

/-- Giving a name quotes no range but the one that was given. -/
theorem quotes_of_defineName {name : String} {e : Error} (hs : wb.sheet? id = some s)
    (h : (wb.defineName id name range).answer = .error e) : ∀ r ∈ e.ranges, r = range := by
  rw [defineName, sheet, hs, Reply.guard_ok] at h
  split at h
  · cases h
    simp [Error.ranges]
  · cases hdefine : s.names.define name range with
    | ok names =>
      rw [hdefine] at h
      cases h
    | error fault =>
      rw [hdefine] at h
      cases h
      simp [Error.ranges]

/-- Merging quotes no range but the one that was given. -/
theorem quotes_of_merge {e : Error} (hs : wb.sheet? id = some s)
    (h : (wb.merge id range).answer = .error e) : ∀ r ∈ e.ranges, r = range := by
  rw [merge, sheet, hs, Reply.guard_ok] at h
  cases hmerge : s.merge range with
  | ok t =>
    rw [hmerge] at h
    cases h
  | error fault =>
    rw [hmerge] at h
    cases h
    simp [Sheet.quotes_of_merge hmerge]

/-- A range that does not lie on the sheet gets no name. -/
theorem defineName_beyond (hs : wb.sheet? id = some s) (h : ¬ s.holds range = true)
    (name : String) : (wb.defineName id name range).answer = .error (.rangeBeyond range) := by
  rw [defineName, sheet, hs, Reply.guard_ok, if_pos (by simpa using h)]
  rfl

/-- A range that does not lie on the sheet is not merged. -/
theorem merge_beyond (hs : wb.sheet? id = some s) (h : ¬ s.holds range = true) :
    (wb.merge id range).answer = .error (.rangeBeyond range) := by
  rw [merge, sheet, hs, Reply.guard_ok, Sheet.merge, if_pos (by simpa using h)]
  rfl

/-- **Giving a name and merging answer exactly the ranges that end before the last word.**  Any
corner and any extents, any name, any sheet of any workbook. -/
theorem sayable_iff (hs : wb.sheet? id = some s) (name : String) (row col height width : Nat) :
    (Sayable (wb.defineName id name (.make row col height width)).answer ↔
        row + max height 1 < Axis.rows.words) ∧
      (Sayable (wb.merge id (.make row col height width)).answer ↔
        row + max height 1 < Axis.rows.words) := by
  rw [← Range.lastRow_make row col height width]
  have hbeyond {range : Range} (h : ¬ range.lastRow + 1 < Axis.rows.words) :
      ¬ s.holds range = true := fun hholds => h (Sheet.lastRow_lt_of_holds hholds)
  exact ⟨sayable_iff_of_quotes (fun e => quotes_of_defineName hs)
      fun h => defineName_beyond hs (hbeyond h) name,
    sayable_iff_of_quotes (fun e => quotes_of_merge hs) fun h => merge_beyond hs (hbeyond h)⟩

/-- The last range that is answered: the row before the last word, far beyond the sheet. -/
theorem sayable_iff_last :
    (Workbook.new {}).sheet? ⟨0⟩ = some (.new "Sheet1" 200 100) ∧
      Sayable ((Workbook.new {}).defineName ⟨0⟩ "N" (.make 4294967294 0 1 1)).answer ∧
      Sayable ((Workbook.new {}).merge ⟨0⟩ (.make 4294967294 0 1 1)).answer := by
  have hsheet : (Workbook.new {}).sheet? ⟨0⟩ = some (.new "Sheet1" 200 100) := rfl
  have hboth := sayable_iff hsheet "N" 4294967294 0 1 1
  exact ⟨hsheet, hboth.1.mpr (by decide), hboth.2.mpr (by decide)⟩

/-- **The row of the last word:** the range is refused, and the refusal cannot be written. -/
theorem refusal_without_message :
    ¬ Sayable ((Workbook.new {}).defineName ⟨0⟩ "N" (.make 4294967295 0 1 1)).answer ∧
      ¬ Sayable ((Workbook.new {}).merge ⟨0⟩ (.make 4294967295 0 1 1)).answer := by
  have hmessage : (Error.rangeBeyond (.make 4294967295 0 1 1)).message? = none := by decide
  refine ⟨fun h => ?_, fun h => ?_⟩
  · cases (h _ rfl).symm.trans hmessage
  · cases (h _ rfl).symm.trans hmessage

end Workbook

end Spreadsheet
