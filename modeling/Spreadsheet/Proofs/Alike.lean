/-
# Turns that leave a cell alike

A formula that had turns holds the outcome of the last one, and what that is follows from what the
cells it reads held at that time, so from their own last turns before it.

* Two lists of turns leave a cell *alike* if it has a turn in neither, or if its last turns in the two
  found everything that it reads left alike (`Alike`).  It then holds the same after both, whatever
  the formulas make of what they read (`content_eq_of_alike`).
* So a formula is fresh if one more turn would leave it alike (`fresh_of_alike`).  Not all that it
  reads has to be fresh for that.
* When formulas were written, each has a turn, and after them their change is spread.  If scan order
  follows the graph wherever the change comes by, nothing that a written formula reads has a turn at
  or after its last one, and one more turn would leave it alike (`alike_of_inOrder`).
-/
import Spreadsheet.Proofs.Spread

namespace Spreadsheet

open Grid Formula
open Relation (TransGen)

namespace Graph

variable {g : Graph} {key : Key}

/-! ## 1. Alike -/

/-- **Two lists of turns leave a cell alike:** it has a turn in neither, or its last turns in the two
found everything that it reads left alike. -/
inductive Alike (g : Graph) : List Key → List Key → Key → Prop
  | idle {turns turns' : List Key} {key : Key} (h : key ∉ turns) (h' : key ∉ turns') :
      Alike g turns turns' key
  | turn {before after before' after' : List Key} {key : Key}
      (hread : ∀ x, g.Step x key → Alike g before before' x)
      (hlast : key ∉ after) (hlast' : key ∉ after') :
      Alike g (before ++ key :: after) (before' ++ key :: after') key

/-- **Further turns of other cells leave a cell alike.** -/
theorem alike_append {turns more : List Key} {key : Key} (h : key ∉ more) :
    g.Alike turns (turns ++ more) key := by
  by_cases hkey : key ∈ turns
  · obtain ⟨before, after, rfl, hlast⟩ := Workbook.exists_last hkey
    rw [List.append_assoc, List.cons_append]
    refine .turn (fun x _ => ?_) hlast (by simp [hlast, h])
    -- what was found at the turn was found by the same turns
    have hsame : g.Alike before (before ++ []) x := alike_append List.not_mem_nil
    rwa [List.append_nil] at hsame
  · exact .idle hkey (by simp [hkey, h])
termination_by turns.length

/-- **One more turn leaves a cell alike** if nothing that it reads has a turn at or after its last
one. -/
theorem alike_of_quiet {before after : List Key} (hlast : key ∉ after)
    (hquiet : ∀ d ∈ key :: after, ¬ g.Step d key) :
    g.Alike (before ++ key :: after) (before ++ key :: after ++ [key]) key :=
  .turn (fun x hx => alike_append fun hmem => hquiet x hmem hx) hlast List.not_mem_nil

/-- **One more turn leaves a written formula alike** if scan order follows the graph wherever the
change of what was written comes by: the formulas that were written have a turn each, and then their
change is spread. -/
theorem alike_of_inOrder {written formulas : List Key} (hscan : (g.map (·.1)).Pairwise Key.Before)
    (hformulas : ∀ k ∈ formulas, k ∈ written) (hself : ¬ g.Step key key)
    (horder : g.InOrderFor written key) (hkey : key ∈ formulas) :
    let turns := formulas ++ g.visits [] written
    g.Alike turns (turns ++ [key]) key := by
  intro turns
  have hfollows {d : Key} {pre post : List Key} (h : g.visits [] written = pre ++ d :: post)
      (hstep : g.Step d key) : key ∈ post :=
    (step_follows hscan horder h hstep).resolve_left Bool.false_ne_true
  by_cases hvisited : key ∈ g.visits [] written
  · obtain ⟨pre, post, hsplit, hlast⟩ := Workbook.exists_last hvisited
    have hturns : turns = (formulas ++ pre) ++ key :: post := by
      rw [List.append_assoc, ← hsplit]
    rw [hturns]
    refine alike_of_quiet hlast fun d hd hstep => ?_
    rcases List.mem_cons.mp hd with rfl | hd
    · exact hself hstep
    · obtain ⟨mid, post', rfl⟩ := List.append_of_mem hd
      have hsplit' : g.visits [] written = (pre ++ key :: mid) ++ d :: post' := by
        rw [hsplit, List.append_assoc, List.cons_append]
      exact hlast (List.mem_append_right _ (List.mem_cons_of_mem _ (hfollows hsplit' hstep)))
  · -- A formula that is not visited reads nothing that was written and nothing that is visited.
    have hunwritten : ∀ d ∈ written, ¬ g.Step d key := fun d hd hstep =>
      hvisited (mem_visits_of_mem_readers (mem_readers_iff.mpr ⟨d, hd, hstep⟩) rfl)
    have hunvisited : ∀ d ∈ g.visits [] written, ¬ g.Step d key := fun d hd hstep => by
      obtain ⟨pre, post, hsplit⟩ := List.append_of_mem hd
      refine hvisited ?_
      rw [hsplit]
      exact List.mem_append_right _ (List.mem_cons_of_mem _ (hfollows hsplit hstep))
    obtain ⟨pre, post, hsplit, hlast⟩ := Workbook.exists_last hkey
    have hturns : turns = pre ++ key :: (post ++ g.visits [] written) := by
      dsimp only [turns]
      rw [hsplit, List.append_assoc, List.cons_append]
    rw [hturns]
    refine alike_of_quiet (by simp [hlast, hvisited]) fun d hd => ?_
    rw [← List.cons_append, List.mem_append] at hd
    rcases hd with hd | hd
    · exact hunwritten d (hformulas d (by rw [hsplit]; exact List.mem_append_right _ hd))
    · exact hunvisited d hd

end Graph

namespace Workbook

variable {wb : Workbook} {key : Key}

/-! ## 2. What alike cells hold -/

/-- **A cell that is left alike holds the same,** if the formulas that have turns are accounted for by
their edges. -/
theorem content_eq_of_alike {turns turns' : List Key} (h : wb.graph.Alike turns turns' key)
    (hsound : ∀ k ∈ turns, ∃ e, wb.Sound k e) :
    (wb.recalculateEach turns).1.content key = (wb.recalculateEach turns').1.content key := by
  induction h with
  | idle h h' =>
    rw [(spares_recalculateEach h wb).content_eq, (spares_recalculateEach h' wb).content_eq]
  | @turn before after before' after' key hread hlast hlast' ih =>
    obtain ⟨e, hs⟩ := hsound key (by simp)
    have hsame := sameFormulas_recalculateEach before' wb
    have hlayout : (wb.recalculateEach before).1.layout = (wb.recalculateEach before').1.layout :=
      (sameFormulas_recalculateEach before wb).layout_eq.trans hsame.layout_eq.symm
    have hfound : (wb.recalculateEach before).1.evaluate key e =
        (wb.recalculateEach before').1.evaluate key e := by
      refine (hsame.sound hs).evaluate_eq hlayout fun x hx => ?_
      rw [step_congr hsame.edges_eq] at hx
      exact value_eq_of_content (ih x hx fun k hk => hsound k (List.mem_append_left _ hk))
    rw [content_recalculateEach_of_last hs.expr_eq before hlast,
      content_recalculateEach_of_last hs.expr_eq before' hlast', hfound]

/-- **A formula is fresh if one more turn would leave it alike.** -/
theorem fresh_of_alike {turns : List Key} (h : wb.graph.Alike turns (turns ++ [key]) key)
    (hsound : ∀ k ∈ turns, ∃ e, wb.Sound k e) : (wb.recalculateEach turns).1.Fresh key := by
  have hsame := content_eq_of_alike h hsound
  rw [recalculateEach_append_fst, recalculateEach_cons_fst, recalculateEach_nil_fst] at hsame
  exact ⟨congrArg Content.status hsame.symm, congrArg Content.shown hsame.symm⟩

end Workbook

end Spreadsheet
