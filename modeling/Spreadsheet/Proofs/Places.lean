/-
# Where things stand and what sheets are called

* The small form of a name does not depend on the case of its ASCII letters (`small_asciiCapital`).
* No two sheets have names with one small form, so a name that agrees with that of a sheet up to
  the case of ASCII letters leads to this sheet (`Reachable.sheetNamed?_of_sameLetters`).  This is an
  invariant of edits; names change only when a sheet is added.
* Formulas stand on their sheets, as all does that a tidy sheet is made of (`Reachable.placed`).
* Edges and triggers lead to ranges of sheets that are there, since they are those that are found
  now (`Reachable.edge_on_sheet`, `Reachable.trigger_on_sheet`).
* So every workbook there can be is in order as a whole (`inOrder_run`).
-/
import Spreadsheet.Proofs.Tidiness
import Spreadsheet.Proofs.Upkeep

namespace Spreadsheet.Text

/-! ## 1. Small forms -/

/-- Casing does not look through ASCII letters, which are all cased. -/
theorem isCased_of_letter {c : Char}
    (h : 65 ≤ c.toNat ∧ c.toNat ≤ 90 ∨ 97 ≤ c.toNat ∧ c.toNat ≤ 122) :
    isCased c = true ∧ isCaseIgnorable c = false := by
  have hcapital : (65, 90) ∈ casedBlocks := by decide
  have hsmall : (97, 122) ∈ casedBlocks := by decide
  have hblocks : ∀ block ∈ ignorableBlocks,
      block.2 < 65 ∨ 90 < block.1 ∧ block.2 < 97 ∨ 122 < block.1 := by
    decide +kernel
  constructor
  · rcases h with h | h
    · exact List.any_eq_true.mpr ⟨_, hcapital, by simpa using h⟩
    · exact List.any_eq_true.mpr ⟨_, hsmall, by simpa using h⟩
  · refine List.any_eq_false.mpr fun block hblock => ?_
    have := hblocks block hblock
    simp only [Bool.and_eq_true, decide_eq_true_eq]
    omega

/-- Nothing that the small form of a text asks of a letter depends on its case in ASCII. -/
theorem toUpper_agrees (c : Char) : smallLetter c.toUpper = smallLetter c ∧
    isCased c.toUpper = isCased c ∧ isCaseIgnorable c.toUpper = isCaseIgnorable c ∧
    (c.toUpper == 'Σ') = (c == 'Σ') := by
  by_cases hsmall : 97 ≤ c.toNat ∧ c.toNat ≤ 122
  · have hall : ∀ n < 123, 97 ≤ n → smallLetter (Char.ofNat n).toUpper = smallLetter (Char.ofNat n) ∧
        (65 ≤ (Char.ofNat n).toUpper.toNat ∧ (Char.ofNat n).toUpper.toNat ≤ 90) ∧
        ((Char.ofNat n).toUpper == 'Σ') = (Char.ofNat n == 'Σ') := by
      decide
    have hletter := hall c.toNat (by omega) hsmall.1
    rw [Char.ofNat_toNat] at hletter
    obtain ⟨hsame, hcapital, hsigma⟩ := hletter
    obtain ⟨hcased, hignorable⟩ := isCased_of_letter (.inr hsmall)
    obtain ⟨hcased', hignorable'⟩ := isCased_of_letter (.inl hcapital)
    exact ⟨hsame, hcased'.trans hcased.symm, hignorable'.trans hignorable.symm, hsigma⟩
  · have hself : c.toUpper = c := by
      unfold Char.toUpper
      rw [dif_neg]
      exact hsmall
    simp [hself]

theorem meetsCased_map_toUpper (cs : List Char) :
    meetsCased (cs.map Char.toUpper) = meetsCased cs := by
  unfold meetsCased
  induction cs with
  | nil => rfl
  | cons c rest ih =>
    obtain ⟨-, hcased, hignorable, -⟩ := toUpper_agrees c
    rw [List.map_cons, List.dropWhile_cons, List.dropWhile_cons, hignorable]
    by_cases h : isCaseIgnorable c = true
    · rw [if_pos h, if_pos h]
      exact ih
    · rw [if_neg h, if_neg h]
      exact hcased

theorem smallChars_map_toUpper (before cs : List Char) :
    smallChars (before.map Char.toUpper) (cs.map Char.toUpper) = smallChars before cs := by
  induction cs generalizing before with
  | nil => rfl
  | cons c rest ih =>
    obtain ⟨hsmall, -, -, hsigma⟩ := toUpper_agrees c
    rw [List.map_cons, smallChars, smallChars, meetsCased_map_toUpper, meetsCased_map_toUpper,
      hsmall, hsigma, ← List.map_cons, ih]

/-- **The small form of a text is that of its ASCII capitals.** -/
theorem small_asciiCapital (s : String) : small (asciiCapital s) = small s := by
  rw [small, asciiCapital, String.toList_ofList, small, ← smallChars_map_toUpper [] s.toList,
    List.map_nil]

/-- Texts that agree up to the case of ASCII letters have one small form. -/
theorem small_eq_of_sameLetters {a b : String} (h : sameLetters a b = true) :
    small a = small b := by
  rw [← small_asciiCapital a, ← small_asciiCapital b, beq_iff_eq.mp h]

end Spreadsheet.Text

namespace Spreadsheet

open Grid Formula Conditional

namespace Workbook

variable {wb wb' : Workbook} {key : Key}

/-! ## 2. Names of sheets -/

/-- The names of the sheets, in order. -/
def sheetNames (wb : Workbook) : List String := wb.sheets.map (·.name)

/-- **A workbook in which a name leads to one sheet at most.** -/
def Distinct (wb : Workbook) : Prop := (wb.sheetNames.map Text.small).Nodup

theorem sheetNames_of_layout (h : wb'.layout = wb.layout) : wb'.sheetNames = wb.sheetNames := by
  have hnames (wb : Workbook) : wb.sheetNames = wb.layout.map (·.name) := by
    simp [sheetNames, layout, Sheet.outline, Function.comp_def]
  rw [hnames, hnames, h]

theorem sheetNames_onSheet (wb : Workbook) (id : SheetId) {change : Sheet → Sheet}
    (h : ∀ s, (change s).name = s.name) : (wb.onSheet id change).sheetNames = wb.sheetNames := by
  refine List.ext_getElem? fun i => ?_
  by_cases hi : id.number = i <;> simp [sheetNames, onSheet, hi, h, Function.comp_def]

theorem sheetNames_onSheets (wb : Workbook) {change : SheetId → Sheet → Sheet}
    (h : ∀ id s, (change id s).name = s.name) : (wb.onSheets change).sheetNames = wb.sheetNames := by
  refine List.ext_getElem? fun i => ?_
  simp [sheetNames, onSheets, numbered, h, Function.comp_def]

theorem sheetNames_rebuild (wb : Workbook) : wb.rebuild.sheetNames = wb.sheetNames :=
  sheetNames_of_layout (layout_rebuild wb)

/-- Removing lines renames no sheet. -/
theorem sheetNames_removeBand (wb : Workbook) (id : SheetId) (axis : Axis) (band : Span) :
    (wb.removeBand id axis band).sheetNames = wb.sheetNames := by
  refine (sheetNames_onSheet _ id fun s => ?_).trans (sheetNames_onSheets wb fun _ _ => rfl)
  cases axis <;> rfl

/-- **What an edit does to the names of the sheets:** nothing, or one more that may be given. -/
theorem sheetNames_edit (h : Edit wb wb') : wb'.sheetNames = wb.sheetNames ∨
    ∃ name, wb.checkSheetName name = .ok () ∧ wb'.sheetNames = wb.sheetNames ++ [name] := by
  rcases h with key | ⟨hon, hplan⟩ | h
  · exact .inl (sheetNames_of_layout (layout_recalculate wb key))
  · exact .inl (sheetNames_of_layout (layout_writeAny wb _ _))
  cases h with
  | setStyle _ hon style => exact .inl (sheetNames_onSheet wb _ fun _ => rfl)
  | applyFormat hformat => exact .inl (sheetNames_onSheet wb _ fun _ => rfl)
  | addFormat hs ids definition => exact .inl (sheetNames_onSheet wb _ fun _ => rfl)
  | removeFormat hs hformat => exact .inl (sheetNames_onSheet wb _ fun _ => rfl)
  | resetFormatting sheet => exact .inl (sheetNames_onSheet wb _ fun _ => rfl)
  | merge hs hmerge =>
    obtain ⟨merged, hchange⟩ := exists_onSheet_merge hs hmerge
    rw [hchange]
    exact .inl (sheetNames_onSheet wb _ fun _ => rfl)
  | unmerge id range => exact .inl (sheetNames_onSheet wb _ fun _ => rfl)
  | onArrows id change => exact .inl (sheetNames_onSheet wb _ fun _ => rfl)
  | changeSettings settings => exact .inl rfl
  | rebuild => exact .inl (sheetNames_rebuild wb)
  | addSheet hname rows cols =>
    refine .inr ⟨_, hname, ?_⟩
    rw [sheetNames_rebuild]
    simp [sheetNames, Sheet.new]
  | resetSheet _ id rows cols =>
    exact .inl ((sheetNames_rebuild _).trans (sheetNames_onSheet wb _ fun _ => rfl))
  | defineName hs hholds hnames =>
    exact .inl ((sheetNames_rebuild _).trans (sheetNames_onSheet wb _ fun _ => rfl))
  | removeName id name =>
    exact .inl ((sheetNames_rebuild _).trans (sheetNames_onSheet wb _ fun _ => rfl))
  | removeBand _ hs axis band hband =>
    exact .inl ((sheetNames_rebuild _).trans (sheetNames_removeBand wb _ axis band))

/-- A name that may be given leads to no sheet yet. -/
theorem small_not_mem_of_check {name : String} (h : wb.checkSheetName name = .ok ()) :
    Text.small name ∉ wb.sheetNames.map Text.small := by
  intro hmem
  obtain ⟨other, hother, hsmall⟩ := List.mem_map.mp hmem
  obtain ⟨s, hs, rfl⟩ := List.mem_map.mp hother
  have htaken : (wb.sheetNamed? name).isSome = true := by
    rw [sheetNamed?, Option.isSome_map, List.findIdx?_isSome, List.any_eq_true]
    exact ⟨s, hs, beq_iff_eq.mpr hsmall⟩
  unfold checkSheetName at h
  rw [htaken] at h
  split at h
  · cases h
  · split at h
    · cases h
    · split at h <;> cases h

theorem Distinct.edit (hedit : Edit wb wb') (h : wb.Distinct) : wb'.Distinct := by
  unfold Distinct at h ⊢
  rcases sheetNames_edit hedit with heq | ⟨name, hname, heq⟩
  · rw [heq]
    exact h
  · rw [heq, List.map_append, List.map_singleton, List.nodup_append]
    refine ⟨h, by simp, fun a ha b hb => ?_⟩
    rw [List.mem_singleton.mp hb]
    rintro rfl
    exact small_not_mem_of_check hname ha

/-- **No two sheets of a workbook there can be have one name up to case.** -/
theorem Reachable.distinct (h : wb.Reachable) : wb.Distinct :=
  h.induction (fun _ => by simp [Distinct, sheetNames, new]) fun hedit hwb => hwb.edit hedit

/-- **A name that agrees with that of a sheet up to the case of ASCII letters leads to it.** -/
theorem Reachable.sheetNamed?_of_sameLetters (h : wb.Reachable) {id : SheetId} {s : Sheet}
    (hs : wb.sheet? id = some s) {name : String} (hname : Text.sameLetters name s.name = true) :
    wb.sheetNamed? name = some id := by
  have hsmall := Text.small_eq_of_sameLetters hname
  have hdistinct := h.distinct
  obtain ⟨hid, hget⟩ := List.getElem?_eq_some_iff.mp hs
  have hfound : wb.sheets.findIdx? (fun t => Text.small t.name == Text.small name) =
      some id.number := by
    rw [List.findIdx?_eq_some_iff_getElem]
    refine ⟨hid, beq_iff_eq.mpr (hget ▸ hsmall.symm), fun j hj => ?_⟩
    unfold Distinct sheetNames at hdistinct
    rw [List.map_map] at hdistinct
    have hne := List.pairwise_iff_getElem.mp hdistinct j id.number
      (by rw [List.length_map]; omega) (by rwa [List.length_map]) hj
    rw [beq_iff_eq, hsmall, ← hget]
    simpa using hne
  rw [sheetNamed?, hfound]
  rfl

/-! ## 3. Places of formulas -/

/-- **In every workbook there can be, formulas stand on their sheets.** -/
theorem Reachable.placed (h : wb.Reachable) (key : Key) (e : Expr)
    (he : (wb.content key).expr? = some e) : wb.Has key := by
  have hplaced := (content_iff (P := fun content => content.expr? = some e) nofun).mp he
  obtain ⟨s, c, hs, hc, -⟩ := hplaced
  exact ⟨s, hs, ((h.tidy key.sheet s hs).cells hc).1⟩

/-! ## 4. Edges and triggers -/

/-- A target is a range of a sheet that is there. -/
def HasTarget (wb : Workbook) (t : Target) : Prop :=
  ∃ s, wb.sheet? t.sheet = some s ∧ s.holds t.range = true

/-- **Every edge leads to a range of a sheet.** -/
theorem Reachable.edge_on_sheet (h : wb.Reachable) {edge : Edge}
    (hedge : edge ∈ (wb.content key).edges) : wb.HasTarget edge.target := by
  have hne := List.ne_nil_of_mem hedge
  obtain ⟨e, he⟩ := Content.exists_expr_of_edges hne
  have hedges := h.tracked.edges_eq_ok he hne
  obtain ⟨m, hm, s, hres⟩ := exists_mention_of_edge hedges hedge
  exact ⟨s, hres.sheet_eq, (exists_edge_of_mention hedges hm hres).1⟩

/-- What triggers a format lies on a sheet, if the range of the format does. -/
theorem hasTarget_of_mem_triggers {sheet : SheetId} {range : Range} {rules : List Rule}
    (hrange : wb.HasTarget ⟨sheet, range⟩) {t : Target} (ht : t ∈ wb.triggers sheet range rules) :
    wb.HasTarget t := by
  unfold triggers at ht
  refine List.foldlRecOn (motive := fun triggers => ∀ t ∈ triggers, wb.HasTarget t) _ _
    (List.forall_mem_singleton.mpr hrange) (fun triggers h edge _ t ht => ?_) t ht
  split at ht
  · exact h t ht
  · rename_i s hs
    unfold addTrigger at ht
    split at ht
    · exact h t ht
    · rcases List.mem_append.mp ht with ht | ht
      · exact h t ht
      · rw [List.mem_singleton.mp ht]
        exact ⟨s, hs, s.holds_cut _⟩

/-- **Every trigger is a range of a sheet.** -/
theorem Reachable.trigger_on_sheet (h : wb.Reachable) {id : SheetId} {s : Sheet}
    (hs : wb.sheet? id = some s) {n : Nat} {format : Format}
    (hformat : s.formats.get? n = some format) {t : Target} (ht : t ∈ format.triggers) :
    wb.HasTarget t := by
  rw [← h.triggered id s n format hs hformat] at ht
  exact hasTarget_of_mem_triggers ⟨s, hs, (h.tidy id s hs).formats hformat⟩ ht

/-! ## 5. Workbooks in order -/

theorem nodup_numbered (wb : Workbook) : (wb.numbered.map (·.1)).Nodup := by
  have hids : wb.numbered.map (·.1) = (List.range' 0 wb.sheets.length).map SheetId.mk := by
    rw [← List.zipIdx_map_snd, List.map_map, numbered, List.map_map]
    rfl
  rw [hids]
  have hnumbers : (List.range' 0 wb.sheets.length).Nodup := List.nodup_range'
  exact List.pairwise_map.mpr (hnumbers.imp fun hne hid => hne (SheetId.mk.inj hid))

/-- **A workbook in order.** -/
structure InOrder (wb : Workbook) : Prop where
  ids : (wb.numbered.map (·.1)).Nodup
  /-- No two sheets have one name up to case. -/
  names : (wb.sheetNames.map Text.small).Nodup
  extents : ∀ s ∈ wb.sheets, 1 ≤ s.rows ∧ s.rows ≤ maxRows ∧ 1 ≤ s.cols ∧ s.cols ≤ maxColumns
  cells : ∀ key c, wb.cell? key = some c → wb.Has key
  /-- Every cell that is there holds something. -/
  kept : ∀ key c, wb.cell? key = some c → c.value ≠ .empty ∨ c.content.formulaText? ≠ none ∨
    c.style ≠ {} ∨ c.baseline ≠ none ∨ c.content.status = .circularReference
  edges : ∀ key, ∀ edge ∈ (wb.content key).edges, wb.HasTarget edge.target
  named : ∀ id s, wb.sheet? id = some s → ∀ n ∈ s.names.toList, wb.HasTarget ⟨id, n.range⟩
  merged : ∀ id s, wb.sheet? id = some s → ∀ region ∈ s.merged, wb.HasTarget ⟨id, region⟩ ∧
    ∃ a b, a ≠ b ∧ region.covers a = true ∧ region.covers b = true
  /-- No two merged regions share a cell. -/
  apart : ∀ id s, wb.sheet? id = some s →
    s.merged.Pairwise fun r q => ∀ spot, ¬(r.covers spot = true ∧ q.covers spot = true)
  formats : ∀ id s, wb.sheet? id = some s → ∀ f ∈ s.formats.entries,
    wb.HasTarget ⟨id, f.2.range⟩ ∧ ∀ t ∈ f.2.triggers, wb.HasTarget t

end Workbook

/-- **After every run of commands the workbook is in order.** -/
theorem inOrder_run (settings : Settings) (commands : List Command) :
    ((Session.start settings).run commands).workbook.InOrder := by
  have h : ((Session.start settings).run commands).workbook.Reachable := ⟨settings, commands, rfl⟩
  generalize ((Session.start settings).run commands).workbook = wb at h
  exact {
    ids := wb.nodup_numbered
    names := h.distinct
    extents := fun s _ => ⟨s.rows_pos, s.rows_le, s.cols_pos, s.cols_le⟩
    cells := fun key c hc => by
      obtain ⟨s, hs, hc⟩ := Option.bind_eq_some_iff.mp hc
      exact ⟨s, hs, ((h.tidy key.sheet s hs).cells hc).1⟩
    kept := fun key c hc => by
      obtain ⟨s, hs, hc⟩ := Option.bind_eq_some_iff.mp hc
      exact ((h.tidy key.sheet s hs).cells hc).2.cases
    edges := fun key edge => h.edge_on_sheet
    named := fun id s hs n hn => by
      obtain ⟨e, he, rfl⟩ := List.mem_map.mp hn
      exact ⟨s, hs, (h.tidy id s hs).names (s.names.byKey.get?_eq_some_iff.mpr he)⟩
    merged := fun id s hs region hregion => by
      obtain ⟨hholds, hsingle⟩ := (h.tidy id s hs).merged region hregion
      exact ⟨⟨s, hs, hholds⟩, Sheet.exists_ne_of_holds hholds hsingle⟩
    apart := fun id s hs => (h.tidy id s hs).apart.imp fun hapart spot hboth => by
      rw [hapart spot hboth.1] at hboth
      exact Bool.false_ne_true hboth.2
    formats := fun id s hs f hf => by
      have hformat := s.formats.get?_eq_some_iff.mpr hf
      exact ⟨⟨s, hs, (h.tidy id s hs).formats hformat⟩, fun t => h.trigger_on_sheet hs hformat⟩ }

end Spreadsheet
