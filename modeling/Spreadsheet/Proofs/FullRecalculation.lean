/-
# When a full recalculation settles everything

A full recalculation takes its turns without asking which formula needs which.  A formula *settles*
when it has a turn after everything it reads has settled; turns before that may have been in vain.

* A formula that has settled is fresh, and stays so whatever has its turn afterwards
  (`fresh_of_settles`).
* If scan order follows the graph among the readers of each cell, a full recalculation leaves every
  formula fresh, whatever values the cells held before (`fresh_calculate_of_siblings`).

The induction is on the turns; a turn of a settled formula changes nothing.
-/
import Mathlib.Data.List.Induction
import Spreadsheet.Proofs.Freshness

namespace Spreadsheet

open Grid Formula Conditional
open Relation (TransGen)

namespace Workbook

variable {wb wb' : Workbook} {key : Key} {e : Expr}

/-! ## 1. Turns -/

/-- **The turns of a full recalculation:** each formula, and after it the visits of its change. -/
def turns (wb : Workbook) : List Key := wb.formulaKeys.flatMap (sweep wb.graph)

/-- There is a formula at a place. -/
def HasFormula (wb : Workbook) (key : Key) : Prop := (wb.content key).expr?.isSome = true

instance : Decidable (wb.HasFormula key) := inferInstanceAs (Decidable (_ = true))

theorem hasFormula_iff : wb.HasFormula key ↔ ∃ e, (wb.content key).expr? = some e :=
  Option.isSome_iff_exists

theorem HasFormula.mem_keys (h : wb.HasFormula key) : key ∈ wb.formulaKeys := by
  obtain ⟨e, he⟩ := hasFormula_iff.mp h
  exact mem_formulaKeys.mpr (Content.isSome_formulaText? he)

theorem workbook_calculate (wb : Workbook) :
    wb.calculate.workbook =
      (wb.recalculateEach wb.turns).1.applyFormats (wb.recalculateEach wb.turns).1.allFormats :=
  rfl

/-- **A workbook whose edges account for all its formulas.** -/
def Built (wb : Workbook) : Prop := ∀ key e, (wb.content key).expr? = some e → wb.Sound key e

/-- Edges that a workbook has come to are those of the formulas, if there are any. -/
theorem Reachable.built (h : wb.Reachable) (hcalls : wb.NoIndirect)
    (hedges : ∀ key, wb.HasFormula key → (wb.content key).edges ≠ []) : wb.Built :=
  fun key e he =>
    ⟨he, hcalls key e he, h.tracked.edges_eq_ok he (hedges key (hasFormula_iff.mpr ⟨e, he⟩))⟩

/-! ## 2. Settling -/

/-- **A formula settles** once it has a turn after every formula that it reads has settled. -/
inductive Settles (wb : Workbook) : List Key → Key → Prop
  | turn {pre post : List Key} {key : Key}
      (h : ∀ d, wb.graph.Step d key → wb.HasFormula d → wb.Settles pre d) :
      wb.Settles (pre ++ key :: post) key

/-- Without a turn nothing settles. -/
theorem settles_nil (wb : Workbook) (key : Key) : ¬ wb.Settles [] key := by
  intro h
  generalize hnil : ([] : List Key) = all at h
  obtain @⟨pre, post, key, -⟩ := h
  cases pre <;> cases hnil

/-- More turns do not unsettle a formula. -/
theorem Settles.append {done : List Key} (h : wb.Settles done key) (more : List Key) :
    wb.Settles (done ++ more) key := by
  obtain ⟨h⟩ := h
  rw [List.append_assoc, List.cons_append]
  exact .turn h

/-- **What a settled formula reads has settled.** -/
theorem Settles.of_step {done : List Key} (h : wb.Settles done key) {d : Key}
    (hstep : wb.graph.Step d key) (hd : wb.HasFormula d) : wb.Settles done d := by
  obtain ⟨h⟩ := h
  exact (h d hstep hd).append _

/-- **What one more turn settles:** the formula whose turn it is, if everything it reads has. -/
theorem settles_concat {done : List Key} {k : Key} :
    wb.Settles (done ++ [k]) key ↔ wb.Settles done key ∨
      key = k ∧ ∀ d, wb.graph.Step d key → wb.HasFormula d → wb.Settles done d := by
  constructor
  · intro h
    generalize hturns : done ++ [k] = all at h
    obtain @⟨pre, post, key, h⟩ := h
    rcases List.eq_nil_or_concat post with rfl | ⟨post', last, rfl⟩
    · obtain ⟨rfl, hk⟩ := List.append_inj' hturns rfl
      obtain rfl : k = key := by simpa using hk
      exact .inr ⟨rfl, h⟩
    · rw [List.concat_eq_append, ← List.cons_append, ← List.append_assoc] at hturns
      obtain ⟨rfl, -⟩ := List.append_inj' hturns rfl
      exact .inl (.turn h)
  · rintro (h | ⟨rfl, h⟩)
    · exact h.append [k]
    · exact .turn h

/-- **A formula that has settled is fresh,** and later turns leave it so. -/
theorem fresh_of_settles (hbuilt : wb.Built) (hacyclic : wb.graph.Acyclic) {done : List Key}
    (h : wb.Settles done key) (hkey : wb.HasFormula key) :
    (wb.recalculateEach done).1.Fresh key := by
  induction done using List.reverseRecOn generalizing key with
  | nil => exact absurd h (settles_nil wb key)
  | append_singleton done k ih =>
    obtain ⟨e, he⟩ := hasFormula_iff.mp hkey
    have hsame := sameFormulas_recalculateEach done wb
    have hs := hsame.sound (hbuilt key e he)
    rw [recalculateEach_append_fst, recalculateEach_cons_fst]
    by_cases hk : key = k
    · subst hk
      refine fresh_recalculate hs fun hself => ?_
      rw [step_congr hsame.edges_eq] at hself
      exact hacyclic key (.single hself)
    · have hsettled : wb.Settles done key :=
        (settles_concat.mp h).resolve_right fun hturn => hk hturn.1
      refine (ih hsettled hkey).congr hs (layout_recalculate _ k)
        (content_recalculate_of_ne _ (Ne.symm hk)) fun x hx => ?_
      refine value_eq_of_content ?_
      rw [step_congr hsame.edges_eq] at hx
      by_cases hxk : k = x
      · subst hxk
        -- The turn is that of something the formula reads: of no formula, or of one that is fresh.
        cases hexpr : (wb.content k).expr? with
        | none =>
          rw [recalculate_of_expr?_none ((hsame.expr_eq k).trans hexpr)]
          rfl
        | some e' =>
          have hd : wb.HasFormula k := hasFormula_iff.mpr ⟨e', hexpr⟩
          exact (ih (hsettled.of_step hx hd) hd).content_recalculate
            ((hsame.expr_eq k).trans hexpr) k
      · exact content_recalculate_of_ne _ hxk

/-! ## 3. Turns in order -/

/-- Every formula has a turn. -/
theorem mem_turns (h : wb.HasFormula key) : key ∈ wb.turns :=
  List.mem_flatMap.mpr ⟨key, h.mem_keys, List.mem_cons_self⟩

/-- **Whoever reads a cell that has a turn has one after it,** if scan order follows the graph among
the readers of each cell. -/
theorem step_follows_turns (hacyclic : wb.graph.Acyclic) (hsib : wb.graph.SiblingsInOrder)
    {pre post : List Key} {d : Key} (h : wb.turns = pre ++ d :: post)
    (hstep : wb.graph.Step d key) : key ∈ post := by
  obtain ⟨before, k, after, inner, rest, -, hsweep, rfl⟩ := Graph.exists_of_flatMap_eq h
  refine List.mem_append_left _ ?_
  cases inner with
  | nil =>
    obtain ⟨rfl, hrest⟩ := List.cons.inj hsweep
    rw [← hrest]
    refine Graph.mem_visits_of_mem_readers hstep ?_
    cases hon : Graph.onStack [[k]] key with
    | false => rfl
    | true =>
      obtain rfl : key = k := by simpa [Graph.onStack] using hon
      exact absurd (.single hstep) (hacyclic key)
  | cons k' inner =>
    obtain ⟨rfl, hrest⟩ := List.cons.inj hsweep
    rcases Graph.step_follows wb.pairwise_graph (hsib.inOrder k key) hrest hstep with hon | hmem
    · obtain rfl : key = k := by simpa [Graph.onStack] using hon
      have hd : d ∈ wb.graph.visits [[key]] [key] := by rw [hrest]; simp
      obtain ⟨x, hx, hreach⟩ := Graph.transGen_of_mem_visits hd
      obtain rfl := List.mem_singleton.mp hx
      exact absurd (hreach.tail hstep) (hacyclic x)
    · exact hmem

/-- **A full recalculation leaves every formula fresh if scan order follows the graph among the
readers of each cell,** whatever values the cells held before. -/
theorem fresh_calculate_of_siblings (hbuilt : wb.Built) (hacyclic : wb.graph.Acyclic)
    (hsib : wb.graph.SiblingsInOrder) (hkey : wb.HasFormula key) :
    wb.calculate.workbook.Fresh key := by
  obtain ⟨e, he⟩ := hasFormula_iff.mp hkey
  have hs := hbuilt key e he
  rw [workbook_calculate]
  refine Fresh.applyFormats ?_ ((sameFormulas_recalculateEach _ wb).sound hs) _
  obtain ⟨pre, post, hsplit, hlast⟩ := exists_last (mem_turns hkey)
  rw [hsplit]
  refine fresh_of_last hs pre (fun hself => hacyclic key (.single hself)) hlast ?_
  intro d hd hstep
  obtain ⟨mid, post', rfl⟩ := List.append_of_mem hd
  have hsplit' : wb.turns = (pre ++ key :: mid) ++ d :: post' := by
    rw [hsplit, List.append_assoc]
    rfl
  have hmem := step_follows_turns hacyclic hsib hsplit' hstep
  exact hlast (List.mem_append_right _ (List.mem_cons_of_mem _ hmem))

end Workbook

end Spreadsheet
