/-
# Which arrows an edit takes away

Arrows are drawn for a cell and do not follow later changes.  An edit takes away the arrows of the
cells that it writes, but not where a value is written over a value.

* Evaluating cells and applying formats takes no arrows away (`SameArrows`).
* A step: writing into one cell takes its arrows away unless it holds a plain value before and
  afterwards (`overwrites_writeAny`).  A run: cells that are written one after the other, none of
  them twice, are overwritten one by one (`overwrites_writeContents`).
* So an edit takes away the arrows of all cells that it writes if and only if arrows were drawn for
  none of them that holds a plain value before and afterwards, and it takes away no others
  (`arrows_of_written`).
-/
import Spreadsheet.Proofs.CopiedFormulas
import Spreadsheet.Proofs.Retries

namespace Spreadsheet

open Grid Formula Conditional

namespace Workbook

variable {wb wb' wb'' : Workbook} {sheet : SheetId} {key : Key}

/-! ## 1. Arrows of a cell -/

/-- **The arrows that are drawn for a cell:** to what its formula reads, and to the cells whose
formulas read it. -/
def arrowsAt (wb : Workbook) (key : Key) : Option (List Target) × Option (List Key) :=
  (wb.sheet? key.sheet).elim (none, none) fun s =>
    (s.arrows.precedents.get? key.spot, s.arrows.dependents.get? key.spot)

/-- Whether a cell holds a plain value. -/
def IsPlain (wb : Workbook) (key : Key) : Prop := (wb.content key).isPlain = true

instance (wb : Workbook) (key : Key) : Decidable (wb.IsPlain key) :=
  inferInstanceAs (Decidable (_ = _))

/-- A change of one sheet that leaves the arrows of a spot alone. -/
theorem arrowsAt_onSheet_eq (id : SheetId) {change : Sheet → Sheet}
    (h : ∀ s, wb.sheet? id = some s → key.sheet = id →
      (change s).arrows.precedents.get? key.spot = s.arrows.precedents.get? key.spot ∧
      (change s).arrows.dependents.get? key.spot = s.arrows.dependents.get? key.spot) :
    (wb.onSheet id change).arrowsAt key = wb.arrowsAt key := by
  rw [arrowsAt, arrowsAt, sheet?_onSheet]
  split
  · rename_i hid
    subst hid
    cases hs : wb.sheet? key.sheet with
    | none => rfl
    | some s =>
      obtain ⟨hprecedents, hdependents⟩ := h s hs rfl
      simp only [Option.map_some, Option.elim_some, hprecedents, hdependents]
  · rfl

/-- **Dropping the arrows of a cell** leaves those of the others alone. -/
theorem arrowsAt_dropping {key j : Key} {change : Sheet → Sheet}
    (h : ∀ s, wb.sheet? key.sheet = some s → (change s).arrows = s.arrows.drop key.spot) :
    (wb.onSheet key.sheet change).arrowsAt j =
      if key = j then (none, none) else wb.arrowsAt j := by
  split
  · rename_i hkey
    subst hkey
    rw [arrowsAt, sheet?_onSheet, if_pos rfl]
    cases hs : wb.sheet? key.sheet with
    | none => rfl
    | some s => simp [h s hs, Arrows.drop]
  · rename_i hkey
    refine arrowsAt_onSheet_eq _ fun s hs hsheet => ?_
    have hspot : key.spot ≠ j.spot := fun hspot => hkey <| by
      rw [show key = ⟨key.sheet, key.spot⟩ from rfl, ← hsheet, hspot]
    simp only [h s hs, Arrows.drop, Table.get?_erase_of_ne _ hspot, and_self]

/-! ## 2. What takes no arrows away -/

/-- **Workbooks with the same arrows,** and plain values in the same cells. -/
structure SameArrows (wb wb' : Workbook) : Prop where
  arrows_eq : ∀ key, wb'.arrowsAt key = wb.arrowsAt key
  plain_iff : ∀ key, wb'.IsPlain key ↔ wb.IsPlain key

theorem SameArrows.refl (wb : Workbook) : SameArrows wb wb := ⟨fun _ => rfl, fun _ => .rfl⟩

theorem SameArrows.trans (h : SameArrows wb wb') (h' : SameArrows wb' wb'') :
    SameArrows wb wb'' :=
  ⟨fun key => (h'.arrows_eq key).trans (h.arrows_eq key),
    fun key => (h'.plain_iff key).trans (h.plain_iff key)⟩

theorem sameArrows_recalculate (wb : Workbook) (key : Key) :
    SameArrows wb (wb.recalculate key).1 where
  arrows_eq j := by
    unfold recalculate
    split
    · rfl
    · exact arrowsAt_onSheet_eq _ fun _ _ _ => ⟨rfl, rfl⟩
  plain_iff j := by
    have hwith (content : Content) (result : Result) :
        (content.withResult result).isPlain = content.isPlain := by
      cases content <;> rfl
    unfold IsPlain
    rcases content_recalculate wb key j with heq | ⟨result, heq⟩
    · rw [heq]
    · rw [heq, hwith]

theorem sameArrows_recalculateEach (keys : List Key) (wb : Workbook) :
    SameArrows wb (wb.recalculateEach keys).1 := by
  induction keys generalizing wb with
  | nil => exact .refl wb
  | cons key keys ih =>
    rw [recalculateEach_cons_fst]
    exact (sameArrows_recalculate wb key).trans (ih _)

theorem sameArrows_applyFormats (formats : List (SheetId × Format)) (wb : Workbook) :
    SameArrows wb (wb.applyFormats formats) where
  arrows_eq key := by
    unfold applyFormats
    split
    · rename_i henabled
      clear henabled
      induction formats generalizing wb with
      | nil => rfl
      | cons f formats ih =>
        exact (ih _).trans (arrowsAt_onSheet_eq _ fun _ _ _ => ⟨rfl, rfl⟩)
    · rfl
  plain_iff key := by
    unfold IsPlain
    rw [content_applyFormats]

/-- **Completing an edit takes no arrows away.** -/
theorem sameArrows_complete {α : Type} (wb : Workbook) (changed : List Key)
    (stack : List (List Key)) (event : Event) (earlier : List Event) (answer : Except Error α) :
    SameArrows wb (wb.complete changed stack event earlier answer).workbook := by
  unfold complete refreshFormats
  exact (sameArrows_recalculateEach _ wb).trans (sameArrows_applyFormats _ _)

/-! ## 3. What does -/

/-- **What writing into cells does to arrows:** those of the cells are taken away, unless a plain
value is there before and afterwards, and no others are. -/
structure Overwrites (keys : List Key) (wb wb' : Workbook) : Prop where
  outside : ∀ key, key ∉ keys →
    wb'.arrowsAt key = wb.arrowsAt key ∧ (wb'.IsPlain key ↔ wb.IsPlain key)
  inside : ∀ key ∈ keys, wb'.arrowsAt key =
    if wb.IsPlain key ∧ wb'.IsPlain key then wb.arrowsAt key else (none, none)

theorem Overwrites.then_same {keys : List Key} (h : Overwrites keys wb wb')
    (h' : SameArrows wb' wb'') : Overwrites keys wb wb'' where
  outside key hkey := by
    obtain ⟨harrows, hplain⟩ := h.outside key hkey
    exact ⟨(h'.arrows_eq key).trans harrows, (h'.plain_iff key).trans hplain⟩
  inside key hkey := by
    rw [h'.arrows_eq, h.inside key hkey]
    exact if_congr (and_congr_right fun _ => (h'.plain_iff key).symm) rfl rfl

/-- **One cell after the other is overwritten,** none of them twice. -/
theorem Overwrites.cons {keys : List Key} (h : Overwrites [key] wb wb')
    (h' : Overwrites keys wb' wb'') (hkey : key ∉ keys) : Overwrites (key :: keys) wb wb'' where
  outside j hj := by
    rw [List.mem_cons, not_or] at hj
    obtain ⟨harrows, hplain⟩ := h.outside j (by simpa using hj.1)
    obtain ⟨harrows', hplain'⟩ := h'.outside j hj.2
    exact ⟨harrows'.trans harrows, hplain'.trans hplain⟩
  inside j hj := by
    rcases List.mem_cons.mp hj with rfl | hj
    · obtain ⟨harrows', hplain'⟩ := h'.outside j hkey
      rw [harrows', h.inside j (List.mem_singleton.mpr rfl)]
      exact if_congr (and_congr_right fun _ => hplain'.symm) rfl rfl
    · have hne : j ∉ [key] := by
        rintro hmem
        exact hkey (List.mem_singleton.mp hmem ▸ hj)
      obtain ⟨harrows, hplain⟩ := h.outside j hne
      rw [h'.inside j hj, harrows]
      exact if_congr (and_congr_left fun _ => hplain) rfl rfl

theorem arrowsAt_writeContent (wb : Workbook) (key j : Key) (content : Content) :
    (wb.writeContent key content).arrowsAt j =
      if key = j then (none, none) else wb.arrowsAt j :=
  arrowsAt_dropping fun _ _ => rfl

/-- A value that is written over a plain value takes no arrows away. -/
theorem arrowsAt_writeValue (wb : Workbook) (key j : Key) (v : Value) :
    (wb.writeValue key v).arrowsAt j =
      if key = j ∧ ¬ wb.IsPlain key then (none, none) else wb.arrowsAt j := by
  have hcell {s : Sheet} (hs : wb.sheet? key.sheet = some s) :
      wb.IsPlain key ↔ (s.cell key.spot).content.isPlain = true := by
    rw [IsPlain, content, cell_eq_elim, hs, Option.elim_some]
  by_cases hplain : wb.IsPlain key
  · rw [if_neg fun h => h.2 hplain]
    refine arrowsAt_onSheet_eq _ fun s hs _ => ?_
    rw [Sheet.writeValue, if_pos ((hcell hs).mp hplain)]
    exact ⟨rfl, rfl⟩
  · rw [writeValue, arrowsAt_dropping]
    · simp only [hplain, not_false_eq_true, and_true]
    · intro s hs
      rw [Sheet.writeValue, if_neg fun h => hplain ((hcell hs).mpr h)]
      rfl

/-- **Writing into a cell takes its arrows away** unless it holds a plain value before and
afterwards. -/
theorem overwrites_writeAny (hon : wb.Has key) (content : Content) :
    Overwrites [key] wb (wb.writeAny key content) := by
  have hself : (wb.writeAny key content).IsPlain key ↔ content.isPlain = true := by
    rw [IsPlain, content_writeAny_self hon content]
  have harrows (j : Key) : (wb.writeAny key content).arrowsAt j =
      if key = j ∧ ¬ (wb.IsPlain key ∧ content.isPlain = true) then (none, none)
      else wb.arrowsAt j := by
    cases content with
    | value v =>
      rw [writeAny, arrowsAt_writeValue]
      simp [Content.isPlain]
    | formula | unparsed | discarded =>
      rw [writeAny, arrowsAt_writeContent] <;> simp [Content.isPlain]
  constructor
  · intro j hj
    have hne : key ≠ j := fun heq => hj (List.mem_singleton.mpr heq.symm)
    refine ⟨by rw [harrows, if_neg fun h => hne h.1], ?_⟩
    rw [IsPlain, IsPlain, content_writeAny_of_ne wb content hne]
  · intro j hj
    obtain rfl := List.mem_singleton.mp hj
    rw [harrows]
    by_cases h : wb.IsPlain j ∧ content.isPlain = true
    · rw [if_neg fun hnot => hnot.2 h, if_pos ⟨h.1, hself.mpr h.2⟩]
    · rw [if_pos ⟨rfl, h⟩, if_neg fun hplain => h ⟨hplain.1, hself.mp hplain.2⟩]

/-- **Contents that are written one after the other** overwrite their cells. -/
theorem overwrites_writeContents {planned : List (Key × Content)} (hon : ∀ kc ∈ planned, wb.Has kc.1)
    (hkeys : (planned.map (·.1)).Nodup) :
    Overwrites (planned.map (·.1)) wb (wb.writeContents planned) := by
  induction planned generalizing wb with
  | nil => exact ⟨fun _ _ => ⟨rfl, .rfl⟩, nofun⟩
  | cons kc planned ih =>
    obtain ⟨hkey, hkeys⟩ := List.nodup_cons.mp hkeys
    have hlayout := (layout_writeAny wb kc.1 kc.2).symm
    refine (overwrites_writeAny (hon kc List.mem_cons_self) kc.2).cons (ih (fun kc' hkc' => ?_) hkeys)
      hkey
    exact (hon kc' (List.mem_cons_of_mem _ hkc')).congr hlayout

/-! ## 4. Edits -/

/-- **An accepted block is planned, written and completed.** -/
theorem exists_planned_of_writeBlock {block : Block} {kind : ChangeKind}
    (h : (wb.writeBlock sheet block kind).answer = .ok ()) : ∃ planned,
      wb.planEntries ((keysOf sheet block.range).zip block.entries) = .ok planned ∧
      planned.map (·.1) = keysOf sheet block.range ∧ (∀ kc ∈ planned, wb.Has kc.1) ∧
      SameArrows (wb.writeContents planned) (wb.writeBlock sheet block kind).workbook := by
  obtain ⟨s, hs, hcheck, hlength, haccept⟩ := (writeBlock_eq_ok_iff kind).mp h
  obtain ⟨planned, hplanned⟩ := exists_planEntries_iff.mpr haccept
  have hkeys : planned.map (·.1) = keysOf sheet block.range := by
    rw [map_fst_planEntries hplanned, List.map_fst_zip]
    rw [hlength]
    exact length_keysOf_le sheet block.range
  refine ⟨planned, hplanned, hkeys, fun kc hkc => ?_, ?_⟩
  · exact has_of_checkRange hs hcheck (hkeys ▸ List.mem_map_of_mem hkc)
  · rw [writeBlock, hs, Reply.guard_ok, hcheck, Reply.guard_ok, if_neg (not_not.mpr hlength)]
    dsimp only
    rw [← planEntries, hplanned]
    exact (sameArrows_recalculateEach _ _).trans (sameArrows_complete ..)

/-- **An accepted block overwrites its cells.** -/
theorem overwrites_writeBlock {block : Block} {kind : ChangeKind}
    (h : (wb.writeBlock sheet block kind).answer = .ok ()) :
    Overwrites (keysOf sheet block.range) wb (wb.writeBlock sheet block kind).workbook := by
  obtain ⟨planned, -, hkeys, hon, hsame⟩ := exists_planned_of_writeBlock h
  rw [← hkeys]
  refine (overwrites_writeContents hon ?_).then_same hsame
  rw [hkeys]
  exact nodup_keysOf sheet block.range

theorem overwrites_setValue {v : Value} (h : (wb.setValue key v).answer = .ok ()) :
    Overwrites [key] wb (wb.setValue key v).workbook := by
  unfold setValue at h ⊢
  obtain ⟨s, hs⟩ := exists_of_guard h
  rw [hs, Reply.guard_ok] at h ⊢
  obtain ⟨u, hcheck⟩ := exists_of_guard h
  rw [hcheck, Reply.guard_ok]
  exact (overwrites_writeAny (has_of_check hs hcheck) (.value v)).then_same (sameArrows_complete ..)

theorem overwrites_setValues {range : Range} {values : List Value}
    (h : (wb.setValues sheet range values).answer = .ok ()) :
    Overwrites (keysOf sheet range) wb (wb.setValues sheet range values).workbook := by
  unfold setValues at h ⊢
  obtain ⟨s, hs⟩ := exists_of_guard h
  rw [hs, Reply.guard_ok] at h ⊢
  obtain ⟨u, hcheck⟩ := exists_of_guard h
  rw [hcheck, Reply.guard_ok] at h ⊢
  split at h
  · cases h
  · rename_i hlength
    rw [if_neg hlength]
    -- Values are written like contents that are values.
    let planned := ((keysOf sheet range).zip values).map fun kv => (kv.1, Content.value kv.2)
    have hwrites : ((keysOf sheet range).zip values).foldl (fun wb kv => wb.writeValue kv.1 kv.2) wb =
        wb.writeContents planned := by
      rw [writeContents, List.foldl_map]
      rfl
    have hkeys : planned.map (·.1) = keysOf sheet range := by
      rw [List.map_map]
      refine List.map_fst_zip ?_
      rw [not_not.mp hlength]
      exact length_keysOf_le sheet range
    dsimp only
    rw [hwrites]
    refine Overwrites.then_same ?_ (sameArrows_complete ..)
    rw [← hkeys]
    refine overwrites_writeContents (fun kc hkc => ?_) ?_
    · exact has_of_checkRange hs hcheck (hkeys ▸ List.mem_map_of_mem hkc)
    · rw [hkeys]
      exact nodup_keysOf sheet range

/-- A text meant as a formula does not become a plain value. -/
theorem isPlain_of_contentOf {text : String} {content : Content}
    (h : wb.contentOf key text = .ok content) : content.isPlain = false := by
  unfold contentOf at h
  dsimp only at h
  split at h
  · obtain rfl := Except.ok.inj h
    rfl
  · obtain ⟨edges, -, rfl⟩ := map_eq_ok_iff.mp h
    rfl

theorem isPlain_of_contentOfEntry {text : String} {content : Content}
    (h : wb.contentOfEntry key (.formula text) = .ok content) : content.isPlain = false := by
  unfold contentOfEntry at h
  dsimp only at h
  split at h
  · rename_i planned hplanned
    obtain rfl := Except.ok.inj h
    exact isPlain_of_contentOf hplanned
  · obtain rfl := Except.ok.inj h
    rfl
  · cases h

/-- **A formula that was set** stands in its cell, whatever becomes of it, and no arrow is left. -/
theorem overwrites_setFormula {text : String} {status : Status}
    (h : (wb.setFormula key text).answer = .ok status) :
    Overwrites [key] wb (wb.setFormula key text).workbook ∧
      ¬ (wb.setFormula key text).workbook.IsPlain key := by
  unfold setFormula at h ⊢
  obtain ⟨s, hs⟩ := exists_of_guard h
  rw [hs, Reply.guard_ok] at h ⊢
  obtain ⟨u, hcheck⟩ := exists_of_guard h
  rw [hcheck, Reply.guard_ok] at h ⊢
  cases hcontent : wb.contentOf key text with
  | error fault =>
    rw [hcontent] at h
    cases fault <;> cases h
  | ok content =>
    have hon := has_of_check hs hcheck
    have hsame : SameArrows (wb.writeAny key content)
        (((wb.writeContent key content).recalculate key).1.complete [key] [[key]]
          (.changed key.sheet (.single key.spot) .formula)
          ((wb.writeContent key content).recalculate key).2 (.ok ())).workbook := by
      rw [writeAny_of_contentOf hcontent]
      exact (sameArrows_recalculate _ key).trans (sameArrows_complete ..)
    refine ⟨(overwrites_writeAny hon content).then_same hsame, fun hplain => ?_⟩
    have hwritten := (hsame.plain_iff key).mp hplain
    rw [IsPlain, content_writeAny_self hon, isPlain_of_contentOf hcontent] at hwritten
    cases hwritten

theorem overwrites_deleteFormula (h : (wb.deleteFormula key).answer = .ok ())
    (hplain : ¬ wb.IsPlain key) : Overwrites [key] wb (wb.deleteFormula key).workbook := by
  unfold deleteFormula at h ⊢
  obtain ⟨s, hs⟩ := exists_of_guard h
  rw [hs, Reply.guard_ok] at h ⊢
  obtain ⟨u, hcheck⟩ := exists_of_guard h
  rw [hcheck, Reply.guard_ok]
  have hcell : ¬ (s.cell key.spot).content.isPlain = true := by
    rwa [IsPlain, content, cell_eq_elim, sheet_eq_ok hs, Option.elim_some] at hplain
  rw [if_neg hcell]
  exact (overwrites_writeAny (has_of_check hs hcheck) (.value .empty)).then_same
    (sameArrows_complete ..)

/-- Where a formula is copied from there is its own text, and elsewhere a moved one. -/
theorem exists_text_of_copied {s : Sheet} {home : Spot} {target : Range} {e : Expr} {spot : Spot}
    (he : (s.cell home).content.expr? = some e) (hspot : spot ∈ target.cells)
    (text : Spot → String) :
    ∃ t, overwrite (fun spot => (s.cell spot).entry) ((target.cells.filter (· != home)).map
      fun spot => (spot, .formula (text spot))) spot = .formula t := by
  have hfst : (((target.cells.filter (· != home)).map
      fun spot => (spot, Entry.formula (text spot))).map (·.1)) =
        target.cells.filter (· != home) := by
    rw [List.map_map]
    exact List.map_id _
  by_cases hhome : spot = home
  · subst hhome
    obtain ⟨t, edges, result, hcontent⟩ := Content.eq_formula_of_expr? he
    refine ⟨t, (overwrite_of_notMem _ ?_).trans ?_⟩
    · rw [hfst]
      simp
    · rw [Cell.entry, hcontent]
      rfl
  · refine ⟨text spot, overwrite_of_mem (w := (spot, .formula (text spot))) _ ?_ ?_⟩
    · rw [hfst]
      exact (nodup_cells target).filter _
    · exact List.mem_map.mpr ⟨spot, List.mem_filter.mpr ⟨hspot, by simpa using hhome⟩, rfl⟩

/-- **Formulas that were copied** stand in all cells of the range. -/
theorem overwrites_copyFormula {home : Key} {target : Range}
    (h : (wb.copyFormula home target).answer = .ok ()) :
    Overwrites (keysOf home.sheet target) wb (wb.copyFormula home target).workbook ∧
      ∀ key ∈ keysOf home.sheet target, ¬ (wb.copyFormula home target).workbook.IsPlain key := by
  obtain ⟨s, e, hs, hcheck, he, hok, hworkbook⟩ := exists_of_copyFormula h
  rw [hworkbook]
  refine ⟨overwrites_writeBlock hok, fun key hkey hplain => ?_⟩
  obtain ⟨planned, hplanned, -, -, hsame⟩ := exists_planned_of_writeBlock hok
  have hheld := content_of_planned ((congrArg _ (zip_entries_over ..)).symm.trans hplanned)
    (has_of_checkRange hs hcheck hkey) hkey
  obtain ⟨spot, hspot, rfl⟩ := List.mem_map.mp hkey
  obtain ⟨t, ht⟩ := exists_text_of_copied he hspot fun spot =>
    (e.moved ((spot.row : Int) - home.spot.row) ((spot.col : Int) - home.spot.col)).source
  rw [ht] at hheld
  have hwritten := (hsame.plain_iff _).mp hplain
  rw [IsPlain, isPlain_of_contentOfEntry hheld] at hwritten
  cases hwritten

/-- **A fill overwrites its target.** -/
theorem overwrites_fill {approves : FillRequest → Bool} {request : FillRequest}
    (h : (wb.fill approves request).answer = .ok ()) :
    Overwrites (keysOf request.sheet request.target) wb (wb.fill approves request).workbook := by
  obtain ⟨s, axis, block, hs, -, hfillable, hplan, hok, hworkbook⟩ := exists_of_fill h
  obtain rfl := Except.ok.inj (hplan.symm.trans (planFill_eq hs hfillable.target_on))
  rw [hworkbook]
  exact overwrites_writeBlock hok

end Workbook

/-! ## 5. Commands -/

/-- **The cells that a command writes,** if it is one that writes cells.  Deleting a formula writes
its cell only if there is something to delete. -/
def Command.written? (wb : Workbook) : Command → Option (List Key)
  | .setValue key _ => some [key]
  | .setValues sheet range _ => some (Workbook.keysOf sheet range)
  | .setFormula key _ => some [key]
  | .copyFormula home target => some (Workbook.keysOf home.sheet target)
  | .fill request => some (Workbook.keysOf request.sheet request.target)
  | .deleteFormula key => if wb.IsPlain key then none else some [key]
  | _ => none

/-- Whether a command puts formulas into all cells that it writes, or takes one away. -/
def Command.isAboutFormulas : Command → Bool
  | .setFormula _ _ | .copyFormula _ _ | .deleteFormula _ => true
  | _ => false

namespace Session

open Workbook (Overwrites)

variable {s : Session} {c : Command} {a : Answer} {keys : List Key}

/-- **A command that is accepted overwrites the cells that it writes.** -/
theorem overwrites_of_written (hc : c.written? s.workbook = some keys)
    (h : (s.step c).answer = .ok a) : Overwrites keys s.workbook (s.step c).session.workbook ∧
      (c.isAboutFormulas = true → ∀ key ∈ keys,
        ¬ (s.workbook.IsPlain key ∧ (s.step c).session.workbook.IsPlain key)) := by
  cases c <;> try cases hc
  case setValue key v =>
    obtain ⟨u, hok, -⟩ := map_eq_ok_iff.mp h
    exact ⟨Workbook.overwrites_setValue hok, nofun⟩
  case setValues sheet range values =>
    obtain ⟨u, hok, -⟩ := map_eq_ok_iff.mp h
    exact ⟨Workbook.overwrites_setValues hok, nofun⟩
  case setFormula key text =>
    obtain ⟨status, hok, -⟩ := map_eq_ok_iff.mp h
    obtain ⟨hover, hplain⟩ := Workbook.overwrites_setFormula hok
    refine ⟨hover, fun _ key' hkey' hboth => hplain ?_⟩
    obtain rfl := List.mem_singleton.mp hkey'
    exact hboth.2
  case copyFormula home target =>
    obtain ⟨u, hok, -⟩ := map_eq_ok_iff.mp h
    obtain ⟨hover, hplain⟩ := Workbook.overwrites_copyFormula hok
    exact ⟨hover, fun _ key hkey hboth => hplain key hkey hboth.2⟩
  case fill request =>
    obtain ⟨u, hok, -⟩ := map_eq_ok_iff.mp h
    exact ⟨Workbook.overwrites_fill hok, nofun⟩
  case deleteFormula key =>
    rw [Command.written?] at hc
    split at hc
    · cases hc
    · rename_i hplain
      obtain rfl := Option.some.inj hc
      obtain ⟨u, hok, -⟩ := map_eq_ok_iff.mp h
      refine ⟨Workbook.overwrites_deleteFormula hok hplain, fun _ key' hkey' hboth => hplain ?_⟩
      obtain rfl := List.mem_singleton.mp hkey'
      exact hboth.1

/-- **Which arrows an edit takes away.**  The arrows of cells that are not written stay.  Those of a
cell that is written are taken away unless it holds a plain value before and afterwards; so all of
them are if and only if none were drawn for such a cell, and in particular if the command is about
formulas. -/
theorem arrows_of_written (hc : c.written? s.workbook = some keys)
    (h : (s.step c).answer = .ok a) :
    let wb := s.workbook
    let wb' := (s.step c).session.workbook
    (∀ key, key ∉ keys → wb'.arrowsAt key = wb.arrowsAt key) ∧
    (∀ key ∈ keys, wb'.arrowsAt key =
      if wb.IsPlain key ∧ wb'.IsPlain key then wb.arrowsAt key else (none, none)) ∧
    ((∀ key ∈ keys, wb'.arrowsAt key = (none, none)) ↔
      ∀ key ∈ keys, wb.IsPlain key → wb'.IsPlain key → wb.arrowsAt key = (none, none)) ∧
    (c.isAboutFormulas = true → ∀ key ∈ keys, wb'.arrowsAt key = (none, none)) := by
  intro wb wb'
  obtain ⟨⟨houtside, hinside⟩, hformulas⟩ := overwrites_of_written hc h
  refine ⟨fun key hkey => (houtside key hkey).1, hinside, ?_, fun hc' key hkey => ?_⟩
  · refine forall₂_congr fun key hkey => ?_
    rw [hinside key hkey]
    by_cases hplain : wb.IsPlain key ∧ wb'.IsPlain key
    · rw [if_pos hplain]
      exact ⟨fun h _ _ => h, fun h => h hplain.1 hplain.2⟩
    · rw [if_neg hplain]
      exact iff_of_true rfl fun hbefore hafter => absurd ⟨hbefore, hafter⟩ hplain
  · rw [hinside key hkey, if_neg (hformulas hc' key hkey)]

/-- The arrow of a cell that another one reads goes when a formula is written there. -/
theorem arrows_of_written_formula :
    let home : Key := ⟨⟨0⟩, ⟨0, 0⟩⟩
    let s := (Session.start {}).run [.setFormula ⟨⟨0⟩, ⟨0, 1⟩⟩ "=A1", .drawArrows .dependents home]
    s.workbook.arrowsAt home = (none, some [⟨⟨0⟩, ⟨0, 1⟩⟩]) ∧
      (s.step (.setFormula home "=5")).answer.isOk = true ∧
      (s.step (.setFormula home "=5")).session.workbook.arrowsAt home = (none, none) := by
  intro home s
  have hfacts : s.workbook.arrowsAt home = (none, some [⟨⟨0⟩, ⟨0, 1⟩⟩]) ∧
      (s.step (.setFormula home "=5")).answer.isOk = true := by
    decide +kernel
  refine ⟨hfacts.1, hfacts.2, ?_⟩
  cases hanswer : (s.step (.setFormula home "=5")).answer with
  | error e =>
    rw [hanswer] at hfacts
    cases hfacts.2
  | ok a => exact (arrows_of_written rfl hanswer).2.2.2 rfl home (List.mem_singleton.mpr rfl)

/-- **An arrow that an edit leaves behind:** a value is written where there was none, into a cell
that another one reads. -/
theorem arrow_left_by_setValue :
    let home : Key := ⟨⟨0⟩, ⟨0, 0⟩⟩
    let s := (Session.start {}).run [.setFormula ⟨⟨0⟩, ⟨0, 1⟩⟩ "=A1", .drawArrows .dependents home]
    let c : Command := .setValue home (.number 5.0)
    c.written? s.workbook = some [home] ∧ (s.step c).answer.isOk = true ∧
      (s.step c).session.workbook.arrowsAt home = (none, some [⟨⟨0⟩, ⟨0, 1⟩⟩]) := by
  decide +kernel

end Session

end Spreadsheet
