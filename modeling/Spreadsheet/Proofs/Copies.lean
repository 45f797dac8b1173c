/-
# Copies of formulas

* A copy of a formula has other references, and error codes where one left the grid; removed lines
  change a formula in the same way.  References and error codes are single operands, so what was
  canonical stays so, and numbers are not touched (`canonical_mapRefs`, `numbers_mapRefs`).
* So a copy is read back from its text exactly if it is legible (`parse_moved_iff`).  That the
  formula it is a copy of is legible does not help: the error code may stand before a slash.
-/
import Spreadsheet.Proofs.Gluing
import Spreadsheet.Proofs.Renumbering

namespace Spreadsheet.Formula

open Grid

/-! ## 1. Changed references -/

section Changed

variable {f : Option String → Reference → Expr}

mutual

/-- References may be replaced by references and error codes. -/
theorem canonical_mapRefs (hf : ∀ sheet target, target.Proper →
    (f sheet target).Canonical ∧ (f sheet target).looseness = 0) :
    ∀ {e : Expr}, e.Canonical →
      (e.mapRefs f).Canonical ∧ (e.mapRefs f).looseness = e.looseness
  | .ref sheet target, h => hf sheet target h
  | .number _, h => ⟨h, rfl⟩
  | .text _, h => ⟨h, rfl⟩
  | .bool _, h => ⟨h, rfl⟩
  | .error _, h => ⟨h, rfl⟩
  | .name _, h => ⟨h, rfl⟩
  | .binary _ _ _, ⟨hleft, hlooseLeft, hright, hlooseRight⟩ => by
    obtain ⟨hleft', hlooseLeft'⟩ := canonical_mapRefs hf hleft
    obtain ⟨hright', hlooseRight'⟩ := canonical_mapRefs hf hright
    exact ⟨⟨hleft', hlooseLeft' ▸ hlooseLeft, hright', hlooseRight' ▸ hlooseRight⟩, rfl⟩
  | .negate _, h => by
    obtain ⟨h', hloose'⟩ := canonical_mapRefs hf h.1
    exact ⟨⟨h', hloose' ▸ h.2⟩, rfl⟩
  | .percent _, h => by
    obtain ⟨h', hloose'⟩ := canonical_mapRefs hf h.1
    exact ⟨⟨h', hloose' ▸ h.2⟩, rfl⟩
  | .group inner, h => ⟨(canonical_mapRefs (e := inner) hf h).1, rfl⟩
  | .call _ _, h => ⟨⟨h.1, canonical_mapRefsAll hf h.2⟩, rfl⟩

theorem canonical_mapRefsAll (hf : ∀ sheet target, target.Proper →
    (f sheet target).Canonical ∧ (f sheet target).looseness = 0) :
    ∀ {args : List Expr}, CanonicalAll args → CanonicalAll (mapRefsAll f args)
  | [], _ => trivial
  | _ :: _, h => ⟨(canonical_mapRefs hf h.1).1, canonical_mapRefsAll hf h.2⟩

end

mutual

/-- The numbers of a formula are not touched. -/
theorem numbers_mapRefs (hf : ∀ sheet target, (f sheet target).numbers = []) :
    ∀ e : Expr, (e.mapRefs f).numbers = e.numbers
  | .ref sheet target => hf sheet target
  | .number _ | .text _ | .bool _ | .error _ | .name _ => rfl
  | .binary _ left right => by
    rw [Expr.mapRefs, Expr.numbers, numbers_mapRefs hf left, numbers_mapRefs hf right, Expr.numbers]
  | .negate operand => numbers_mapRefs hf operand
  | .percent operand => numbers_mapRefs hf operand
  | .group inner => numbers_mapRefs hf inner
  | .call _ args => numbersAll_mapRefs hf args

theorem numbersAll_mapRefs (hf : ∀ sheet target, (f sheet target).numbers = []) :
    ∀ args : List Expr, numbersAll (mapRefsAll f args) = numbersAll args
  | [] => rfl
  | e :: rest => by
    rw [mapRefsAll, numbersAll, numbers_mapRefs hf e, numbersAll_mapRefs hf rest, numbersAll]

end

end Changed

theorem canonical_refOrError (sheet : Option String) {changed : Option Reference}
    (h : ∀ target, changed = some target → target.Proper) :
    (refOrError sheet changed).Canonical ∧ (refOrError sheet changed).looseness = 0 := by
  cases changed with
  | none => exact ⟨trivial, rfl⟩
  | some target => exact ⟨h target rfl, rfl⟩

theorem numbers_refOrError (sheet : Option String) (changed : Option Reference) :
    (refOrError sheet changed).numbers = [] := by
  cases changed <;> rfl

/-- **A copy of a canonical formula is canonical.** -/
theorem canonical_moved {e : Expr} (h : e.Canonical) (rows columns : Int) :
    (e.moved rows columns).Canonical := by
  unfold Expr.moved
  split
  · exact h
  · refine (canonical_mapRefs (fun sheet target _ => ?_) h).1
    exact canonical_refOrError sheet fun _ hmove => Reference.proper_of_move? hmove

theorem numbers_moved (e : Expr) (rows columns : Int) :
    (e.moved rows columns).numbers = e.numbers := by
  unfold Expr.moved
  split
  · rfl
  · exact numbers_mapRefs (fun sheet _ => numbers_refOrError sheet _) e

/-- **A canonical formula stays canonical when lines are removed.** -/
theorem canonical_without {e : Expr} (h : e.Canonical) (pointsThere : Option String → Bool)
    (axis : Axis) (start count : Nat) : (e.without pointsThere axis start count).Canonical := by
  unfold Expr.without
  split
  · refine (canonical_mapRefs (fun sheet target htarget => ?_) h).1
    split
    · exact canonical_refOrError sheet fun _ hchange => Reference.proper_of_without? htarget hchange
    · exact ⟨htarget, rfl⟩
  · exact h

/-! ## 2. Copies -/

/-- **A copy of a formula that was read is read back from its text exactly if it is legible,** as
far as its numbers are read back from their digits. -/
theorem parse_moved_iff {text : String} {e : Expr} (h : parse text = .ok e) (rows columns : Int)
    (hdigits : ∀ x ∈ e.numbers, ReadsBack x) :
    parse (e.moved rows columns).print = .ok (e.moved rows columns) ↔
      (e.moved rows columns).Legible := by
  have hcanonical := canonical_moved (canonical_of_parse h) rows columns
  refine (parse_print_iff hcanonical fun x hx => ?_).1
  rw [numbers_moved] at hx
  exact hdigits x hx

/-- A copy one row up: one reference leaves the grid, inside a power and not in front of a
slash. -/
theorem parse_moved_up :
    ∃ e, parse "=-B3*-(A1^2)%+if('my sheet'!A2:b3<>\"a\"\"b\",$C$4/1.5,#REF!)" = .ok e ∧
      (∀ x ∈ e.numbers, ReadsBack x) ∧
      (e.moved (-1) 0).print =
        "-B2*-(#REF!^2)%+IF('my sheet'!A1:B2<>\"a\"\"b\",$C$4/1.5,#REF!)" ∧
      parse (e.moved (-1) 0).print = .ok (e.moved (-1) 0) := by
  obtain ⟨e, he, hfacts⟩ := exists_of_any (p := fun e =>
    (e.moved (-1) 0).print ==
        "-B2*-(#REF!^2)%+IF('my sheet'!A1:B2<>\"a\"\"b\",$C$4/1.5,#REF!)" &&
      decide (e.moved (-1) 0).Legible && e.numbers.all fun x => decide (ReadsBack x))
    (x := parse "=-B3*-(A1^2)%+if('my sheet'!A2:b3<>\"a\"\"b\",$C$4/1.5,#REF!)")
    (by decide +kernel)
  simp only [Bool.and_eq_true, beq_iff_eq, List.all_eq_true, decide_eq_true_eq] at hfacts
  obtain ⟨⟨hprint, hlegible⟩, hdigits⟩ := hfacts
  exact ⟨e, he, hdigits, hprint, (parse_moved_iff he (-1) 0 hdigits).mpr hlegible⟩

/-- **A division of an error code is not read back,** not even where it stands: the code, the slash
and the divisor are one word. -/
theorem divided_error_not_read_back :
    ∃ e, parse "#REF! /2" = .ok e ∧ (∀ x ∈ e.numbers, ReadsBack x) ∧
      (e.moved 0 0).print = "#REF!/2" ∧ parse (e.moved 0 0).print ≠ .ok (e.moved 0 0) := by
  obtain ⟨e, he, hfacts⟩ := exists_of_any (x := parse "#REF! /2") (p := fun e =>
    (e.moved 0 0).print == "#REF!/2" && e.numbers.length == 1 &&
      e.numbers.all fun x => decide (ReadsBack x)) (by decide +kernel)
  simp only [Bool.and_eq_true, beq_iff_eq, List.all_eq_true, decide_eq_true_eq] at hfacts
  obtain ⟨⟨hprint, hlength⟩, hdigits⟩ := hfacts
  refine ⟨e, he, hdigits, hprint, fun hread => ?_⟩
  -- What is read has no number.
  have hnone : (parse "#REF!/2").toOption.map (·.numbers.length) = some 0 := by decide +kernel
  rw [← hprint, hread] at hnone
  have hmoved : (e.moved 0 0).numbers.length = 0 := Option.some.inj hnone
  rw [numbers_moved] at hmoved
  omega

end Spreadsheet.Formula
