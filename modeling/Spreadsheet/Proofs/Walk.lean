/-
# The walk along the graph

A change spreads depth first and knows no order but the one in which readers are listed.  This
module finds out what is visited after what.

* A reader of a visited cell is visited, too, unless it is being worked on further up
  (`step_follows`, first half).
* If it is, then the frame it stands in comes after: the cells of a frame stand in scan order, so if
  scan order follows the graph among the readers of what changed and of each cell that follows from
  it, a reader is visited after *every* visit of what it reads (`step_follows`).

The induction is on the frames; which frame of the stack a reader stands in decides who visits it.
-/
import Mathlib.Logic.Relation
import Spreadsheet.Workbook.Recalculation

namespace Spreadsheet

open Grid
open Relation (TransGen)

/-! ## 1. Scan order -/

namespace Workbook

theorem pairwise_sheetGraph (id : SheetId) (s : Sheet) :
    ((sheetGraph id s).map (·.1)).Pairwise Key.Before := by
  rw [sheetGraph, List.map_map]
  refine List.pairwise_map.mpr ((s.cells.ascending.filter _).imp fun h => .inr ⟨rfl, ?_⟩)
  exact Spot.compare_eq_lt.mp h

theorem pairwise_numbered (wb : Workbook) :
    wb.numbered.Pairwise fun s t => s.1.number < t.1.number := by
  have hnumbers : (wb.sheets.zipIdx.map (·.2)).Pairwise (· < ·) := by
    rw [List.zipIdx_map_snd]
    exact List.pairwise_lt_range' ..
  rw [numbered, List.pairwise_map]
  exact List.pairwise_map.mp hnumbers

/-- **The graph lists its formulas in scan order.** -/
theorem pairwise_graph (wb : Workbook) : (wb.graph.map (·.1)).Pairwise Key.Before := by
  rw [graph, List.map_flatMap]
  refine List.pairwise_flatMap.mpr ⟨fun s _ => pairwise_sheetGraph s.1 s.2, ?_⟩
  refine wb.pairwise_numbered.imp fun {s t} hlt k hk j hj => .inl ?_
  have hsheet {id : SheetId} {s : Sheet} {k : Key} (hk : k ∈ (sheetGraph id s).map (·.1)) :
      k.sheet = id := by
    obtain ⟨reader, hreader, rfl⟩ := List.mem_map.mp hk
    obtain ⟨spot, c, -, -, rfl⟩ := mem_sheetGraph.mp hreader
    rfl
  rw [hsheet hk, hsheet hj]
  exact hlt

/-- The formulas are listed in scan order. -/
theorem pairwise_formulaKeys (wb : Workbook) : wb.formulaKeys.Pairwise Key.Before := by
  refine List.pairwise_flatMap.mpr ⟨fun s _ => ?_, ?_⟩
  · refine List.pairwise_map.mpr ((s.2.cells.ascending.filter _).imp fun h => .inr ⟨rfl, ?_⟩)
    exact Spot.compare_eq_lt.mp h
  · refine wb.pairwise_numbered.imp fun {s t} hlt k hk j hj => .inl ?_
    obtain ⟨x, -, rfl⟩ := List.mem_map.mp hk
    obtain ⟨y, -, rfl⟩ := List.mem_map.mp hj
    exact hlt

end Workbook

/-! ## 2. Steps -/

namespace Graph

variable {g : Graph} {stack : List (List Key)} {changed : List Key} {x d e k : Key}

/-- **From a cell to a cell whose formula reads it.** -/
def Step (g : Graph) (x e : Key) : Prop := e ∈ g.readers [x]

/-- A cell's formula reads what it is listed with. -/
theorem step_iff : g.Step x k ↔ ∃ targets, (k, targets) ∈ g ∧ ∃ t ∈ targets, t.covers x = true := by
  simp only [Step, readers, List.mem_map, List.mem_filter, List.any_eq_true, List.any_cons,
    List.any_nil, Bool.or_false, Prod.exists]
  constructor
  · rintro ⟨k', targets, ⟨hmem, t, ht, hcovers⟩, rfl⟩
    exact ⟨targets, hmem, t, ht, hcovers⟩
  · rintro ⟨targets, hmem, t, ht, hcovers⟩
    exact ⟨k, targets, ⟨hmem, t, ht, hcovers⟩, rfl⟩

/-- **In a graph of single cells what is true of all steps can be found by looking at the entries.** -/
theorem forall_step_of_singles (P : Key → Key → Prop)
    (h : ∀ r ∈ g, ∀ t ∈ r.2, t.range = .single t.range.first ∧ P ⟨t.sheet, t.range.first⟩ r.1)
    (hstep : g.Step x k) : P x k := by
  obtain ⟨targets, hmem, t, ht, hcovers⟩ := step_iff.mp hstep
  obtain ⟨hsingle, hP⟩ := h _ hmem t ht
  have ht' : t = ⟨t.sheet, .single t.range.first⟩ := by rw [← hsingle]
  rw [ht'] at hcovers
  rw [Target.eq_of_covers_single hcovers]
  exact hP

/-- No formula reads its own cell, be it in several steps. -/
def Acyclic (g : Graph) : Prop := ∀ k, ¬ TransGen g.Step k k

/-- A number that grows with every step grows along the graph. -/
theorem lt_of_transGen {rank : Key → Nat} (h : ∀ x k, g.Step x k → rank x < rank k)
    (hxk : TransGen g.Step x k) : rank x < rank k := by
  induction hxk with
  | single hstep => exact h _ _ hstep
  | tail _ hstep ih => exact Nat.lt_trans ih (h _ _ hstep)

/-- A graph along which a number grows has no circles. -/
theorem acyclic_of_lt {rank : Key → Nat} (h : ∀ x k, g.Step x k → rank x < rank k) :
    g.Acyclic :=
  fun _ hk => Nat.lt_irrefl _ (lt_of_transGen h hk)

/-- A graph of single cells has no circles if a number grows from what each entry reads to the entry. -/
theorem acyclic_of_singles (rank : Key → Nat) (h : ∀ r ∈ g, ∀ t ∈ r.2,
    t.range = .single t.range.first ∧ rank ⟨t.sheet, t.range.first⟩ < rank r.1) : g.Acyclic :=
  acyclic_of_lt fun _ _ hxk => forall_step_of_singles (fun x k => rank x < rank k) h hxk

/-- **Scan order follows the graph among the readers of each cell:** of two, the one that follows
from the other comes later. -/
def SiblingsInOrder (g : Graph) : Prop :=
  ∀ x d e, g.Step x d → g.Step x e → TransGen g.Step d e → d.Before e

/-- **Scan order follows the graph among the readers of changed cells, as far as one of them is
concerned:** those that it follows from come earlier. -/
def ComesLast (g : Graph) (changed : List Key) (e : Key) : Prop :=
  ∀ d ∈ g.readers changed, e ∈ g.readers changed → TransGen g.Step d e → d.Before e

/-- **Scan order follows the graph wherever a change comes by,** as far as one cell is concerned:
among the readers of what changed, and among those of each cell that follows from it. -/
structure InOrderFor (g : Graph) (changed : List Key) (e : Key) : Prop where
  of_changed : g.ComesLast changed e
  of_following : ∀ c ∈ changed, ∀ x, TransGen g.Step c x → g.ComesLast [x] e

/-- The same for all cells. -/
def InOrder (g : Graph) (changed : List Key) : Prop := ∀ e, g.InOrderFor changed e

/-- What is in order for all readers of each cell is so for each change of one cell. -/
theorem SiblingsInOrder.inOrder (h : g.SiblingsInOrder) (x : Key) : g.InOrder [x] := fun e =>
  ⟨fun d hd he => h x d e hd he, fun _ _ y _ d hd he => h y d e hd he⟩

/-- What is in order for a change is so for the change of each cell that follows from it. -/
theorem InOrderFor.follow (h : g.InOrderFor changed e) (hx : x ∈ changed)
    (hk : TransGen g.Step x k) : g.InOrderFor [k] e where
  of_changed := h.of_following x hx k hk
  of_following := by
    intro c hc y hy
    obtain rfl := List.mem_singleton.mp hc
    exact h.of_following x hx y (hk.trans hy)

section Forward

variable (h : ∀ x k, g.Step x k → x.Before k)
include h

/-- Where each formula reads only what stands in front of it, scan order follows the graph. -/
theorem before_of_transGen (hxk : TransGen g.Step x k) : x.Before k := by
  induction hxk with
  | single hstep => exact h _ _ hstep
  | tail _ hstep ih => exact ih.trans (h _ _ hstep)

theorem acyclic_of_before : g.Acyclic := fun k hk => k.not_before_self (before_of_transGen h hk)

theorem inOrder_of_before (changed : List Key) : g.InOrder changed := fun _ =>
  ⟨fun _ _ _ hde => before_of_transGen h hde, fun _ _ _ _ _ _ _ hde => before_of_transGen h hde⟩

end Forward

theorem pairwise_frame (hscan : (g.map (·.1)).Pairwise Key.Before) (stack : List (List Key))
    (changed : List Key) : (g.frame stack changed).Pairwise Key.Before := by
  rw [frame, readers]
  exact (hscan.sublist (List.filter_sublist.map _)).filter _

theorem onStack_cons {frame : List Key} :
    onStack (frame :: stack) k = true ↔ k ∈ frame ∨ onStack stack k = true := by
  simp [onStack]

/-- **What is visited is not being worked on further up.** -/
theorem not_onStack_of_mem_visits (h : k ∈ g.visits stack changed) : onStack stack k = false := by
  induction stack, changed using visits.induct g with
  | case1 stack changed ih =>
    rw [visits_eq] at h
    obtain ⟨top, htop, h⟩ := List.mem_flatMap.mp h
    rcases List.mem_cons.mp h with rfl | h
    · exact (mem_frame.mp htop).2
    · have := ih top htop h
      rw [Bool.eq_false_iff, Ne, onStack_cons, not_or] at this
      exact Bool.eq_false_iff.mpr this.2

/-- The readers of several cells are those of each. -/
theorem mem_readers_iff : k ∈ g.readers changed ↔ ∃ x ∈ changed, g.Step x k := by
  simp only [step_iff, readers, List.mem_map, List.mem_filter, List.any_eq_true, Prod.exists]
  constructor
  · rintro ⟨k', targets, ⟨hmem, t, ht, x, hx, hcovers⟩, rfl⟩
    exact ⟨x, hx, targets, hmem, t, ht, hcovers⟩
  · rintro ⟨x, hx, targets, hmem, t, ht, hcovers⟩
    exact ⟨k, targets, ⟨hmem, t, ht, x, hx, hcovers⟩, rfl⟩

/-- **What is visited follows from what changed.** -/
theorem transGen_of_mem_visits (h : k ∈ g.visits stack changed) :
    ∃ x ∈ changed, TransGen g.Step x k := by
  induction stack, changed using visits.induct g with
  | case1 stack changed ih =>
    rw [visits_eq] at h
    obtain ⟨top, htop, h⟩ := List.mem_flatMap.mp h
    obtain ⟨x, hx, hstep⟩ := mem_readers_iff.mp (mem_frame.mp htop).1
    refine ⟨x, hx, ?_⟩
    rcases List.mem_cons.mp h with rfl | h
    · exact .single hstep
    · obtain ⟨y, hy, htrans⟩ := ih top htop h
      obtain rfl := List.mem_singleton.mp hy
      exact .head hstep htrans

/-- A reader that is not being worked on is visited. -/
theorem mem_visits_of_mem_readers (h : k ∈ g.readers changed) (hidle : onStack stack k = false) :
    k ∈ g.visits stack changed := by
  rw [visits_eq]
  exact List.mem_flatMap.mpr ⟨k, mem_frame.mpr ⟨h, hidle⟩, List.mem_cons_self⟩

/-! ## 3. Readers follow -/

/-- Where an element of several lists in a row comes from, and what comes after it. -/
theorem exists_of_flatMap_eq {α β : Type} {f : α → List β} {b : β} {post : List β} :
    ∀ {l : List α} {pre : List β}, l.flatMap f = pre ++ b :: post →
      ∃ before a after inner rest, l = before ++ a :: after ∧ f a = inner ++ b :: rest ∧
        post = rest ++ after.flatMap f
  | [], pre, h => by simp at h
  | a :: l, pre, h => by
    rw [List.flatMap_cons, List.append_eq_append_iff] at h
    rcases h with ⟨mid, -, h⟩ | ⟨mid, ha, h⟩
    · obtain ⟨before, a', after, inner, rest, rfl, hinner, hpost⟩ := exists_of_flatMap_eq h
      exact ⟨a :: before, a', after, inner, rest, rfl, hinner, hpost⟩
    · cases mid with
      | nil =>
        have hnil : l.flatMap f = [] ++ b :: post := h.symm
        obtain ⟨before, a', after, inner, rest, rfl, hinner, hpost⟩ := exists_of_flatMap_eq hnil
        exact ⟨a :: before, a', after, inner, rest, rfl, hinner, hpost⟩
      | cons b' mid =>
        obtain ⟨rfl, rfl⟩ := List.cons.inj h
        exact ⟨[], a, l, pre, mid, rfl, ha, rfl⟩

/-- In a frame, what comes later in scan order comes later. -/
theorem mem_after_of_before {before after : List Key}
    (hscan : (before ++ k :: after).Pairwise Key.Before) (he : e ∈ before ++ k :: after)
    (hke : k.Before e) : e ∈ after := by
  obtain ⟨-, -, hcross⟩ := List.pairwise_append.mp hscan
  rcases List.mem_append.mp he with he | he
  · exact absurd (hcross e he k List.mem_cons_self) hke.asymm
  · rcases List.mem_cons.mp he with rfl | he
    · exact absurd hke e.not_before_self
    · exact he

/-- **Whoever reads a visited cell is visited after it,** unless it is being worked on further up. -/
theorem step_follows (hscan : (g.map (·.1)).Pairwise Key.Before) (horder : g.InOrderFor changed e)
    {pre post : List Key} (h : g.visits stack changed = pre ++ d :: post) (he : g.Step d e) :
    onStack stack e = true ∨ e ∈ post := by
  induction stack, changed using visits.induct g generalizing pre post with
  | case1 stack changed ih =>
    rw [visits_eq] at h
    obtain ⟨before, k, after, inner, rest, hframe, hk, rfl⟩ := exists_of_flatMap_eq h
    have hpair : (before ++ k :: after).Pairwise Key.Before := by
      rw [← hframe]
      exact pairwise_frame hscan stack changed
    have hmem : k ∈ g.frame stack changed := by rw [hframe]; simp
    obtain ⟨x, hx, hxk⟩ := mem_readers_iff.mp (mem_frame.mp hmem).1
    -- Whatever stands in this frame and follows from `k` comes in the part after `k`.
    have hlater : e ∈ g.frame stack changed → TransGen g.Step k e → e ∈ after.flatMap fun k =>
        k :: g.visits (g.frame stack changed :: stack) [k] := by
      intro hin hke
      have hbefore : k.Before e :=
        horder.of_changed k (mem_frame.mp hmem).1 (mem_frame.mp hin).1 hke
      exact List.mem_flatMap.mpr
        ⟨e, mem_after_of_before hpair (hframe ▸ hin) hbefore, List.mem_cons_self⟩
    have hcases : (onStack (g.frame stack changed :: stack) e = true ∨ e ∈ rest) ∧
        TransGen g.Step k e := by
      cases inner with
      | nil =>
        obtain ⟨rfl, hrest⟩ := List.cons.inj hk
        refine ⟨?_, .single he⟩
        cases hstack : onStack (g.frame stack changed :: stack) e with
        | true => exact .inl rfl
        | false =>
          right
          rw [← hrest]
          exact mem_visits_of_mem_readers he hstack
      | cons k' inner =>
        obtain ⟨rfl, hrest⟩ := List.cons.inj hk
        refine ⟨ih k hmem (horder.follow hx (.single hxk)) hrest, ?_⟩
        have hd : d ∈ g.visits (g.frame stack changed :: stack) [k] := by rw [hrest]; simp
        obtain ⟨y, hy, hkd⟩ := transGen_of_mem_visits hd
        obtain rfl := List.mem_singleton.mp hy
        exact hkd.tail he
    obtain ⟨hstack | hrest, hke⟩ := hcases
    · rcases onStack_cons.mp hstack with hin | hstack
      · exact .inr (List.mem_append_right _ (hlater hin hke))
      · exact .inl hstack
    · exact .inr (List.mem_append_left _ hrest)

end Graph

end Spreadsheet
