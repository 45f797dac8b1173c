/-
# Which rule decides

* A format asks its rules in one order: by falling priority number, and rules of one number as they
  were given (`pairwise_applicationOrder`).
* Every rule that holds makes its change, and a change sets some attributes of a style and leaves
  the others.  So for each attribute the last change that sets it is seen, whatever the later ones
  do to the other attributes (`Style.get_foldl_apply`).
* Both together: for each attribute by itself there is one rule that decides it, the one of the
  smallest number that holds and sets it, of several the one that was given last, or none, and then
  the own style is seen (`shown_changesOf`, `style_of_deciding_rule`).
-/
import Mathlib.Data.List.Nodup
import Mathlib.Data.List.Sort
import Spreadsheet.Proofs.Overlays

namespace Spreadsheet

open Grid Formula Conditional

/-! ## 1. Attributes -/

/-- **What a style says about a cell:** four things, each set or left alone by a change. -/
inductive Attribute where
  | back
  | text
  | bold
  | italic

/-- What an attribute can be: a colour or a weight. -/
def Attribute.Kind : Attribute → Type
  | .back | .text => Color
  | .bold | .italic => Bool

/-- An attribute of a style. -/
def Style.get (style : Style) : (a : Attribute) → a.Kind
  | .back => style.back
  | .text => style.text
  | .bold => style.bold
  | .italic => style.italic

/-- What a change sets an attribute to, if it does. -/
def StyleChange.get? (change : StyleChange) : (a : Attribute) → Option a.Kind
  | .back => change.back
  | .text => change.text
  | .bold => change.bold
  | .italic => change.italic

/-- **A change is made attribute by attribute.** -/
theorem Style.get_apply (style : Style) (change : StyleChange) (a : Attribute) :
    (style.apply change).get a = (change.get? a).getD (style.get a) := by
  cases a <;> rfl

/-- **Of changes in a row the last one that sets an attribute is seen,** and the style underneath if
none does. -/
theorem Style.get_foldl_apply (changes : List StyleChange) (style : Style) (a : Attribute) :
    (changes.foldl Style.apply style).get a =
      (changes.reverse.findSome? (·.get? a)).getD (style.get a) := by
  induction changes using List.reverseRecOn with
  | nil => rfl
  | append_singleton changes change ih =>
    rw [List.foldl_concat, Style.get_apply, List.reverse_concat, List.findSome?_cons, ih]
    cases change.get? a <;> rfl

/-! ## 2. The order of rules -/

namespace Conditional

variable {rules : List Rule} {holds : Rule → Bool} {a : Attribute}

/-- **A rule is applied before another one** if its number is larger, or it is the same and the rule
was given earlier. -/
def AppliedBefore (r s : Rule × Nat) : Prop :=
  s.1.priority < r.1.priority ∨ r.1.priority = s.1.priority ∧ r.2 < s.2

/-- The places of the rules rise. -/
theorem pairwise_snd_zipIdx (rules : List Rule) : rules.zipIdx.Pairwise (·.2 < ·.2) := by
  have hplaces : (rules.zipIdx.map (·.2)).Pairwise (· < ·) := by
    rw [List.zipIdx_map_snd]
    exact List.pairwise_lt_range'
  exact List.pairwise_map.mp hplaces

/-- **Rules of one number stay as they were given.**  They are in order as they are, and sorting
turns nothing round that is in order. -/
theorem filter_applicationOrder (rules : List Rule) (priority : Nat) :
    (applicationOrder rules).filter (·.1.priority == priority) =
      rules.zipIdx.filter (·.1.priority == priority) := by
  have hsorted : (rules.zipIdx.filter (·.1.priority == priority)).Pairwise
      fun a b => decide (b.1.priority ≤ a.1.priority) = true := by
    refine List.pairwise_of_forall_mem_list fun a ha b hb => ?_
    have ha := beq_iff_eq.mp (List.mem_filter.mp ha).2
    have hb := beq_iff_eq.mp (List.mem_filter.mp hb).2
    simp [ha, hb]
  have hsublist : (rules.zipIdx.filter (·.1.priority == priority)).Sublist (applicationOrder rules) :=
    List.sublist_mergeSort (by simp; omega) (by simp; omega) hsorted List.filter_sublist
  have hfilter := hsublist.filter (·.1.priority == priority)
  simp only [List.filter_filter, Bool.and_self] at hfilter
  exact (hfilter.eq_of_length ((applicationOrder_perm rules).filter _).length_eq.symm).symm

/-- **The rules are applied in this order.** -/
theorem pairwise_applicationOrder (rules : List Rule) :
    (applicationOrder rules).Pairwise AppliedBefore := by
  have hsorted : (applicationOrder rules).Pairwise
      fun a b => decide (b.1.priority ≤ a.1.priority) = true :=
    List.pairwise_mergeSort (by simp; omega) (by simp; omega) _
  refine List.pairwise_iff_forall_sublist.mpr fun {r s} hrs => ?_
  have hle := of_decide_eq_true (List.pairwise_iff_forall_sublist.mp hsorted hrs)
  rcases Nat.lt_or_eq_of_le hle with hlt | heq
  · exact .inl hlt
  · -- among the rules of their number the two stand as they were given
    have hsame : [r, s].Sublist
        ((applicationOrder rules).filter (·.1.priority == r.1.priority)) := by
      simpa [heq] using hrs.filter (·.1.priority == r.1.priority)
    rw [filter_applicationOrder] at hsame
    exact .inr ⟨heq.symm, List.pairwise_iff_forall_sublist.mp (pairwise_snd_zipIdx rules)
      (hsame.trans List.filter_sublist)⟩

/-! ## 3. The rule that decides -/

/-- **The last of several that has a value:** it is listed, and what else has one comes before it. -/
theorem exists_of_findSome?_reverse {α β : Type} {R : α → α → Prop} {order : List α}
    (horder : order.Pairwise R) {value? : α → Option β} {v : β}
    (hv : order.reverse.findSome? value? = some v) :
    ∃ r ∈ order, value? r = some v ∧
      ∀ s ∈ order, (value? s).isSome = true → s = r ∨ R s r := by
  obtain ⟨later, r, earlier, hsplit, hr, hlater⟩ := List.findSome?_eq_some_iff.mp hv
  have horder' := List.pairwise_reverse.mpr horder
  rw [hsplit] at horder'
  have hmem (s : α) : s ∈ order ↔ s ∈ later ∨ s = r ∨ s ∈ earlier := by
    rw [← List.mem_reverse, hsplit, List.mem_append, List.mem_cons]
  refine ⟨r, (hmem r).mpr (.inr (.inl rfl)), hr, fun s hs hsome => ?_⟩
  rcases (hmem s).mp hs with hs | hs | hs
  · rw [hlater s hs] at hsome
    cases hsome
  · exact .inl hs
  · exact .inr ((List.pairwise_cons.mp (List.pairwise_append.mp horder').2.1).1 s hs)

/-- **A rule decides an attribute** if it holds and sets it, and of the other rules that do, none has
a smaller number and none of its own number was given later. -/
structure Decides (rules : List Rule) (holds : Rule → Bool) (a : Attribute) (place : Nat)
    (rule : Rule) : Prop where
  given : rules[place]? = some rule
  holds_eq : holds rule = true
  sets : (rule.change.get? a).isSome = true
  first : ∀ other_place other, rules[other_place]? = some other → holds other = true →
    (other.change.get? a).isSome = true →
      rule.priority < other.priority ∨ rule.priority = other.priority ∧ other_place ≤ place

/-- **No two rules decide one attribute.** -/
theorem Decides.unique {place place' : Nat} {rule rule' : Rule}
    (h : Decides rules holds a place rule) (h' : Decides rules holds a place' rule') :
    place = place' ∧ rule = rule' := by
  have hplace : place = place' := by
    have hfirst := h.first place' rule' h'.given h'.holds_eq h'.sets
    have hfirst' := h'.first place rule h.given h.holds_eq h.sets
    omega
  refine ⟨hplace, Option.some.inj ?_⟩
  rw [← h.given, ← h'.given, hplace]

/-- **What is seen of an attribute:** what the rule that decides it sets, or the own value if no rule
that holds sets it. -/
inductive Shown (rules : List Rule) (holds : Rule → Bool) (a : Attribute) (own : a.Kind) :
    a.Kind → Prop where
  | decided {place : Nat} {rule : Rule} {v : a.Kind} (h : Decides rules holds a place rule)
      (hv : rule.change.get? a = some v) : Shown rules holds a own v
  | unset (h : ∀ rule ∈ rules, holds rule = true → rule.change.get? a = none) :
      Shown rules holds a own own

/-- A rule that decides an attribute does not leave it alone. -/
theorem Decides.not_unset {place : Nat} {rule : Rule} (h : Decides rules holds a place rule) :
    ¬ ∀ rule ∈ rules, holds rule = true → rule.change.get? a = none := fun hunset => by
  have hsets := h.sets
  rw [hunset rule (List.mem_of_getElem? h.given) h.holds_eq] at hsets
  cases hsets

/-- **Only one thing is seen.** -/
theorem Shown.unique {own v w : a.Kind} (hv : Shown rules holds a own v)
    (hw : Shown rules holds a own w) : v = w := by
  cases hv with
  | decided h hset =>
    cases hw with
    | decided h' hset' =>
      rw [(h.unique h').2, hset'] at hset
      exact (Option.some.inj hset).symm
    | unset hunset => exact absurd hunset h.not_unset
  | unset hunset =>
    cases hw with
    | decided h' hset' => exact absurd hunset h'.not_unset
    | unset hunset => rfl

/-- The changes of the rules that hold, in the order in which they are made. -/
def changesOf (rules : List Rule) (holds : Rule → Bool) : List StyleChange :=
  ((applicationOrder rules).filter (holds ·.1)).map (·.1.change)

theorem mem_applicationOrder {rule : Rule} {place : Nat} :
    (rule, place) ∈ applicationOrder rules ↔ rules[place]? = some rule := by
  rw [(applicationOrder_perm rules).mem_iff, List.mk_mem_zipIdx_iff_getElem?]

/-- **The changes show each attribute as the rule does that decides it.** -/
theorem shown_changesOf (rules : List Rule) (holds : Rule → Bool) (style : Style)
    (a : Attribute) :
    Shown rules holds a (style.get a) (((changesOf rules holds).foldl Style.apply style).get a) := by
  have hmem (rule : Rule) (place : Nat) :
      (rule, place) ∈ (applicationOrder rules).filter (holds ·.1) ↔
        rules[place]? = some rule ∧ holds rule = true := by
    rw [List.mem_filter, mem_applicationOrder]
  rw [Style.get_foldl_apply, changesOf, ← List.map_reverse, List.findSome?_map]
  cases hseen : ((applicationOrder rules).filter (holds ·.1)).reverse.findSome?
      ((·.get? a) ∘ (·.1.change)) with
  | none =>
    refine .unset fun rule hrule hholds => ?_
    obtain ⟨place, hplace⟩ := List.mem_iff_getElem?.mp hrule
    exact List.findSome?_eq_none_iff.mp hseen (rule, place)
      (List.mem_reverse.mpr ((hmem rule place).mpr ⟨hplace, hholds⟩))
  | some v =>
    obtain ⟨⟨rule, place⟩, hin, hv, hfirst⟩ := exists_of_findSome?_reverse
      ((pairwise_applicationOrder rules).filter _) hseen
    obtain ⟨hgiven, hholds⟩ := (hmem rule place).mp hin
    refine .decided ⟨hgiven, hholds, Option.isSome_of_eq_some hv, ?_⟩ hv
    intro other_place other hother hholds' hsets
    rcases hfirst (other, other_place) ((hmem _ _).mpr ⟨hother, hholds'⟩) hsets with heq | hbefore
    · obtain ⟨rfl, rfl⟩ := Prod.mk.inj heq
      exact .inr ⟨rfl, Nat.le_refl _⟩
    · rcases hbefore with hlt | ⟨heq, hlt⟩
      · exact .inl hlt
      · exact .inr ⟨heq.symm, Nat.le_of_lt hlt⟩

end Conditional

/-! ## 4. Applying a format -/

namespace Workbook

variable {wb : Workbook} {id : SheetId} {number : Nat} {format : Format}

/-- Whether a rule of a format holds for a cell of its range. -/
def ruleHolds (wb : Workbook) (id : SheetId) (format : Format) (spot : Spot) (rule : Rule) : Bool :=
  wb.conditionHolds ⟨id, spot⟩ (spot.row - format.range.rows.first)
    (spot.col - format.range.cols.first) rule.condition

theorem changesAt_eq (wb : Workbook) (id : SheetId) (format : Format) (spot : Spot) :
    wb.changesAt id format spot =
      changesOf format.rules (wb.ruleHolds id format spot) := rfl

/-- Nothing is imposed only if no rule holds. -/
theorem isEmpty_changesAt (wb : Workbook) (id : SheetId) (format : Format) (spot : Spot) :
    (wb.changesAt id format spot).isEmpty = false ↔
      ∃ rule ∈ format.rules, wb.ruleHolds id format spot rule = true := by
  rw [changesAt_eq, changesOf, List.isEmpty_map, List.isEmpty_eq_false_iff_exists_mem]
  constructor
  · rintro ⟨⟨rule, place⟩, h⟩
    obtain ⟨hin, hholds⟩ := List.mem_filter.mp h
    exact ⟨rule, List.mem_of_getElem? (mem_applicationOrder.mp hin), hholds⟩
  · rintro ⟨rule, hrule, hholds⟩
    obtain ⟨place, hplace⟩ := List.mem_iff_getElem?.mp hrule
    exact ⟨(rule, place), List.mem_filter.mpr ⟨mem_applicationOrder.mpr hplace, hholds⟩⟩

/-- A restyled cell has an imposed style if changes were made to it. -/
theorem isSome_imposed_restyled (c : Option Cell) (changes : List StyleChange) :
    ((restyled c changes).getD default).imposed.isSome = !changes.isEmpty := by
  rcases List.eq_nil_or_concat changes with rfl | ⟨init, last, rfl⟩
  · cases c <;> rfl
  · rw [List.concat_eq_append, restyled_concat]
    simp [imposedOn, Cell.impose]

/-- A cell of the range is restyled by its own changes. -/
theorem cell_applyFormat (hsheet : (wb.sheet? id).isSome = true) {spot : Spot}
    (hspot : spot ∈ format.range.cells) :
    (wb.applyFormat id format).cell ⟨id, spot⟩ =
      (restyled (wb.cell? ⟨id, spot⟩) (wb.changesAt id format spot)).getD default := by
  obtain ⟨s, hs⟩ := Option.isSome_iff_exists.mp hsheet
  rw [applyFormat, cell, cell?_onSheet, if_pos rfl, hs, Option.bind_some,
    cell?_restyleSheet s _ (nodup_cells format.range), if_pos hspot, cell?, hs, Option.bind_some]

/-- **Where a format was applied, one rule decides each attribute by itself:** of the rules that hold
there and set it, the one with the smallest number, and of several the one that was given last.
Where none does, the own style is seen.  A style is imposed where a rule holds, and beyond the range
of the format all stays as it was. -/
theorem style_of_deciding_rule (henabled : wb.settings.formatsEnabled = true)
    (hformat : (number, format) ∈ wb.formats id) :
    let r := wb.reapplyFormat id number
    r.answer = .ok () ∧
      (∀ spot ∈ format.range.cells,
        let holds := wb.ruleHolds id format spot
        let seen := r.workbook.style ⟨id, spot⟩
        (∀ a : Attribute,
          Shown format.rules holds a ((wb.cell ⟨id, spot⟩).own.get a) (seen.get a)) ∧
        ((r.workbook.cell ⟨id, spot⟩).imposed.isSome = true ↔
          ∃ rule ∈ format.rules, holds rule = true)) ∧
      ∀ key, ¬ (key.sheet = id ∧ key.spot ∈ format.range.cells) →
        r.workbook.style key = wb.style key := by
  obtain ⟨s, hs, hnumber⟩ := exists_of_mem_formats hformat
  have hsheet : (wb.sheet? id).isSome = true := Option.isSome_of_eq_some hs
  rw [reapplyFormat_eq henabled hs hnumber]
  refine ⟨rfl, fun spot hspot => ⟨fun a => ?_, ?_⟩, fun key hkey => ?_⟩
  · have hlook : (wb.applyFormat id format).style ⟨id, spot⟩ = wb.look id format spot :=
      (style_applyFormat hsheet format ⟨id, spot⟩).trans (if_pos ⟨rfl, hspot⟩)
    rw [hlook]
    exact shown_changesOf format.rules (wb.ruleHolds id format spot) (wb.cell ⟨id, spot⟩).own a
  · rw [cell_applyFormat hsheet hspot, isSome_imposed_restyled, Bool.not_eq_true',
      isEmpty_changesAt]
  · exact (style_applyFormat hsheet format key).trans (if_neg hkey)

/-- Of three rules that hold the last two have one number, and the later one of them colours the
cell.  It leaves the weights alone, so the bold face of the first rule is seen, and the italic one of
the cell itself.  A fourth rule with a smaller number does not hold. -/
theorem style_of_deciding_rule_tie :
    let red : Color := .rgb 255 0 0
    let green : Color := .rgb 0 255 0
    let blue : Color := .rgb 0 0 255
    let rules : List Rule :=
      [⟨.expression (.ofText "=TRUE"), 2, { back := some red, bold := some true }⟩,
        ⟨.expression (.ofText "=TRUE"), 1, { back := some green }⟩,
        ⟨.expression (.ofText "=B1"), 1, { back := some blue }⟩,
        ⟨.expression (.ofText "=FALSE"), 0, { bold := some false, italic := some false }⟩]
    let wb := ((Session.start {}).run [.setValue ⟨⟨0⟩, ⟨0, 1⟩⟩ (.bool true),
      .setStyle ⟨⟨0⟩, ⟨0, 0⟩⟩ { italic := true }, .changeSettings { formatsEnabled := false },
      .addFormats ⟨0⟩ [(.make 0 0 2 1, rules)], .changeSettings {}]).workbook
    let r := wb.reapplyFormat ⟨0⟩ 0
    let cell : Key := ⟨⟨0⟩, ⟨0, 0⟩⟩
    let seen := r.workbook.style cell
    wb.settings.formatsEnabled = true ∧ 0 ∈ (wb.formats ⟨0⟩).map (·.1) ∧
      wb.style cell = { italic := true } ∧ r.answer = .ok () ∧
      seen.back = blue ∧ seen.bold = true ∧ seen.italic = true := by
  intro red green blue rules wb r cell seen
  have henabled : wb.settings.formatsEnabled = true := by decide +kernel
  have hformats : (wb.formats ⟨0⟩).map (fun f => (f.1, decide (cell.spot ∈ f.2.range.cells),
      f.2.rules.map fun rule =>
        (rule.priority, rule.change, wb.ruleHolds ⟨0⟩ f.2 cell.spot rule))) =
        [(0, true, [(2, { back := some red, bold := some true }, true),
          (1, { back := some green }, true), (1, { back := some blue }, true),
          (0, { bold := some false, italic := some false }, false)])] := by decide +kernel
  have hown : (wb.cell cell).own = { italic := true } := by decide +kernel
  obtain ⟨⟨number, format⟩, hformat, hdata⟩ := List.mem_map.mp (hformats ▸ List.mem_cons_self)
  simp only [Prod.mk.injEq] at hdata
  obtain ⟨rfl, hspot, hrules⟩ := hdata
  simp only [List.map_eq_cons_iff, List.map_eq_nil_iff, Prod.mk.injEq] at hrules
  obtain ⟨weighty, _, hlist, ⟨hp0, hc0, hh0⟩, early, _, rfl, ⟨hp1, hc1, hh1⟩, late, _, rfl,
    ⟨hp2, hc2, hh2⟩, off, _, rfl, ⟨hp3, hc3, hh3⟩, rfl⟩ := hrules
  obtain ⟨hanswer, hinside, -⟩ := style_of_deciding_rule henabled hformat
  obtain ⟨hseen, -⟩ := hinside cell.spot (of_decide_eq_true hspot)
  have hback : Decides format.rules (wb.ruleHolds ⟨0⟩ format cell.spot) .back 2 late := by
    refine ⟨by rw [hlist]; rfl, hh2, by rw [hc2]; rfl, fun place other hother hholds hsets => ?_⟩
    rw [hlist] at hother
    match place, hother with
    | 0, rfl => omega
    | 1, rfl => omega
    | 2, rfl => omega
    | 3, rfl => rw [hh3] at hholds; cases hholds
  have hbold : Decides format.rules (wb.ruleHolds ⟨0⟩ format cell.spot) .bold 0 weighty := by
    refine ⟨by rw [hlist]; rfl, hh0, by rw [hc0]; rfl, fun place other hother hholds hsets => ?_⟩
    rw [hlist] at hother
    match place, hother with
    | 0, rfl => omega
    | 1, rfl => rw [hc1] at hsets; cases hsets
    | 2, rfl => rw [hc2] at hsets; cases hsets
    | 3, rfl => rw [hh3] at hholds; cases hholds
  refine ⟨henabled, List.mem_map_of_mem hformat, by decide +kernel, hanswer, ?_, ?_, ?_⟩
  · exact (hseen .back).unique (.decided hback (by rw [hc2]; rfl))
  · exact (hseen .bold).unique (.decided hbold (by rw [hc0]; rfl))
  · refine ((hseen .italic).unique (.unset ?_)).trans (congrArg Style.italic hown)
    intro rule hrule hholds
    rw [hlist] at hrule
    simp only [List.mem_cons, List.not_mem_nil, or_false] at hrule
    rcases hrule with rfl | rfl | rfl | rfl
    · rw [hc0]; rfl
    · rw [hc1]; rfl
    · rw [hc2]; rfl
    · rw [hh3] at hholds; cases hholds

end Workbook

end Spreadsheet
