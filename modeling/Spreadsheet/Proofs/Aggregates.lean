/-
# Aggregates count alike

`SUM` and `AVERAGE` collect numbers, `COUNT` counts them with rules of its own: it passes over
whatever is no number, where the others give an error code.

* Where no error code is met, every argument counts for as many numbers as it adds
  (`length_numbersOf`), inside a range and outside.
* So `COUNT` is the number of the numbers that were collected, the average is the quotient of `SUM`
  and `COUNT`, and there is none if and only if `COUNT` is zero (`average_eq_sum_div_count`).
-/
import Spreadsheet.Proofs.RoundedDoubles
import Spreadsheet.Proofs.Footprint

namespace Spreadsheet.Formula

/-! ## 1. Arguments -/

/-- Inside a range only numbers count. -/
theorem length_numbersInRange {v : Operand} {xs : List Float} (h : numbersInRange v = .ok xs) :
    xs.length = (countsInRange v).toNat := by
  cases v <;> cases h <;> rfl

theorem sum_countsInRange (vs : List Operand) :
    (vs.map fun v => (countsInRange v).toNat).sum = vs.countP countsInRange := by
  induction vs with
  | nil => rfl
  | cons v vs ih =>
    rw [List.map_cons, List.sum_cons, ih, List.countP_cons]
    cases countsInRange v <;> simp [Nat.add_comm]

/-- **An argument counts for the numbers that it adds.** -/
theorem length_numbersOf {v : Operand} {xs : List Float} (h : numbersOf v = .ok xs) :
    xs.length = countOf v := by
  cases v with
  | array rows =>
    obtain ⟨yss, hyss, h⟩ := bind_eq_ok_iff.mp h
    obtain rfl := Except.ok.inj h
    rw [length_flatten_of_mapM length_numbersInRange hyss, sum_countsInRange]
    rfl
  | text s =>
    unfold numbersOf at h
    simp only [Operand.number?] at h
    change xs.length = if (Decimal.read? (Text.trimChars s.toList)).isSome then 1 else 0
    cases hread : Decimal.read? (Text.trimChars s.toList) with
    | none =>
      rw [hread] at h
      cases h
    | some x =>
      rw [hread] at h
      cases h
      rfl
  | error code => cases h
  | empty | bool b | number x =>
    cases h
    rfl

/-- **As many numbers are collected as are counted.** -/
theorem length_collectNumbers {args : List Operand} {xs : List Float}
    (h : collectNumbers args = .ok xs) : xs.length = countNumbers args := by
  obtain ⟨yss, hyss, h⟩ := bind_eq_ok_iff.mp h
  obtain rfl := Except.ok.inj h
  rw [length_flatten_of_mapM length_numbersOf hyss, countNumbers, ← List.sum_eq_foldl]

/-! ## 2. Sums, means and counts -/

/-- **The average is the sum divided by the count,** and there is none if and only if the count is
zero, whenever the arguments hold no error code. -/
theorem average_eq_sum_div_count {args : List Operand} {xs : List Float} (ctx : Context)
    (h : collectNumbers args = .ok xs) :
    ∃ sum count : Float, count = Float.ofNat xs.length ∧
      applyToValues ctx .sum args = .ok (.number sum) ∧
      applyToValues ctx .count args = .ok (.number count) ∧
      (0.0 < count → applyToValues ctx .average args = .ok (.number (sum / count))) ∧
      (applyToValues ctx .average args = .ok (.error .div0) ↔
        applyToValues ctx .count args = .ok (.number 0.0)) := by
  have hcount : applyToValues ctx .count args = .ok (.number (Float.ofNat xs.length)) := by
    rw [length_collectNumbers h]
    rfl
  have haggregate (f : List Float → Operand) : aggregate args f = f xs := by
    rw [aggregate, h]
  have haverage : applyToValues ctx .average args = .ok (mean xs) :=
    congrArg Except.ok (haggregate mean)
  refine ⟨total xs, Float.ofNat xs.length, rfl, congrArg Except.ok (haggregate _), hcount, ?_, ?_⟩
  · intro hpos
    have hne : xs.isEmpty = false := by
      cases xs with
      | nil => exact absurd hpos (by decide)
      | cons x xs => rfl
    rw [haverage, mean, hne]
    rfl
  · rw [haverage, hcount]
    cases xs with
    | nil => exact iff_of_true rfl rfl
    | cons x xs =>
      have hpos : 0.0 < Float.ofNat (x :: xs).length := Decimal.ofNat_pos (Nat.succ_pos _)
      refine iff_of_false nofun fun hzero => ?_
      obtain hzero := Operand.number.inj (Except.ok.inj hzero)
      rw [hzero] at hpos
      exact absurd hpos (by decide)

/-- Truth values, numeric texts and numbers of a range are averaged; blanks, and whatever else is in
a range, are not. -/
theorem average_of_mixed :
    let ctx : Context := ⟨⟨fun _ => none, fun _ => .empty, fun _ _ => none⟩, ⟨⟨0⟩, ⟨0, 0⟩⟩⟩
    let args : List Operand := [.bool true, .text " 3 ", .empty,
      .array [[.number 2.0, .text "5"], [.bool true, .empty]]]
    collectNumbers args = .ok [1.0, 3.0, 2.0] ∧
    ∃ sum count : Float, count = Float.ofNat 3 ∧
      applyToValues ctx .sum args = .ok (.number sum) ∧
      applyToValues ctx .count args = .ok (.number count) ∧
      (0.0 < count → applyToValues ctx .average args = .ok (.number (sum / count))) ∧
      (applyToValues ctx .average args = .ok (.error .div0) ↔
        applyToValues ctx .count args = .ok (.number 0.0)) := by
  have h : collectNumbers [.bool true, .text " 3 ", .empty,
      .array [[.number 2.0, .text "5"], [.bool true, .empty]]] = .ok [1.0, 3.0, 2.0] := by rfl
  exact ⟨h, average_eq_sum_div_count _ h⟩

end Spreadsheet.Formula
