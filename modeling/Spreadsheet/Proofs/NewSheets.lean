/-
# What a new sheet does to the formulas there are

A formula can name a sheet that is not there, and has `#REF!` where it reads it.  When a sheet of
that name is added, the edges of all formulas are found again, but no formula is evaluated.

* All formulas stay, with the results that they have: a new sheet has no cells, so no formula comes
  to read its own cell by it, and none is given up (`content_rebuild_appended`).
* To formulas, the workbook is what it was but for one name, which leads to a sheet without cells
  (`source_addSheet`).
* So a formula that was fresh is fresh afterwards if and only if it has the same result where that
  name leads to empty cells as where it leads nowhere (`fresh_addSheet_iff`).  That is so if the
  formula does not mention the name and does not call `INDIRECT`.  It is not so if the formula is a
  reference to the new sheet: it goes on showing `#REF!` (`stale_after_addSheet`).
-/
import Spreadsheet.Proofs.FullRecalculation
import Spreadsheet.Proofs.Places
import Spreadsheet.Proofs.Upkeep

namespace Spreadsheet

open Grid Formula Conditional

/-! ## 1. A source with one sheet more -/

/-- A mention of a sheet by a name, in whatever case. -/
def Mention.OfSheet (name : String) : Mention → Prop
  | .ref (some sheet) _ => Text.small sheet = Text.small name
  | .ref none _ | .name _ => False

instance (name : String) : ∀ m : Mention, Decidable (m.OfSheet name)
  | .ref (some _) _ => inferInstanceAs (Decidable (_ = _))
  | .ref none _ | .name _ => .isFalse id

namespace Formula

/-- **A source in which one more name leads to a sheet.** -/
def Source.withSheet (source : Source) (name : String) (id : SheetId) : Source :=
  { source with sheet? := fun other =>
      if Text.small other = Text.small name then some id else source.sheet? other }

variable {source : Source} {name : String} {id : SheetId} {home : Key}

/-- Only what is of the new sheet is answered in another way. -/
theorem read_withSheet {m : Mention} (h : ¬ m.OfSheet name) :
    Context.read ⟨source.withSheet name id, home⟩ m = Context.read ⟨source, home⟩ m := by
  cases m with
  | name given => rfl
  | ref sheet target =>
    cases sheet with
    | none => rfl
    | some sheet =>
      have hsheet : (source.withSheet name id).sheet? sheet = source.sheet? sheet := if_neg h
      simp only [Context.read, Context.reference, Context.sheet?, hsheet]
      rfl

/-- **A formula that does not mention a sheet has the same outcome with and without it,** unless it
calls `INDIRECT`. -/
theorem evaluate_withSheet {e : Expr} (hcalls : e.callsIndirect = false) {checked : Bool}
    (h : ∀ m ∈ e.mentions checked, ¬ m.1.OfSheet name) :
    Formula.evaluate ⟨source.withSheet name id, home⟩ e = Formula.evaluate ⟨source, home⟩ e := by
  refine evaluate_congr ?_ ?_ hcalls fun m hm => read_withSheet (h m hm)
  · rfl
  · exact fun _ => rfl

/-- **A reference to a sheet without cells has not the result that it has without the sheet:** it is
zero or, over several cells, `#VALUE!`, and was `#REF!`. -/
theorem ofOutcome_ref_withSheet_ne {sheet : String} (hsheet : Text.small sheet = Text.small name)
    (hnew : source.sheet? sheet = none) (hblank : ∀ spot, source.value ⟨id, spot⟩ = .empty)
    (target : Reference) :
    let e : Expr := .ref (some sheet) target
    Result.ofOutcome (Formula.evaluate ⟨source.withSheet name id, home⟩ e) ≠
      Result.ofOutcome (Formula.evaluate ⟨source, home⟩ e) := by
  intro e
  have hafter : (source.withSheet name id).sheet? sheet = some id := if_pos hsheet
  have hcell (spot : Spot) : Context.cell ⟨source.withSheet name id, home⟩ id spot = .empty :=
    congrArg Operand.ofValue (hblank spot)
  have hbefore : Formula.evaluate ⟨source, home⟩ e = .ok (.error .ref) := by
    simp only [e, Formula.evaluate, Context.reference, Context.sheet?, hnew]
  rw [hbefore]
  simp only [e, Formula.evaluate, Context.reference, Context.sheet?, hafter]
  intro h
  cases target with
  | cell pos =>
    dsimp only at h
    rw [hcell] at h
    cases h
  | area first last =>
    dsimp only [Context.values] at h
    split at h
    · rw [hcell] at h
      cases h
    · cases h

end Formula

/-! ## 2. A workbook with one sheet more -/

namespace Workbook

variable {wb : Workbook} {key : Key} {name : String} {rows cols : Nat}

/-- **A workbook with one more sheet behind the others,** before its edges are found. -/
def appended (wb : Workbook) (name : String) (rows cols : Nat) : Workbook :=
  { wb with sheets := wb.sheets ++ [Sheet.new name rows cols] }

/-- The sheets that were there are there. -/
theorem sheet?_appended {id : SheetId} {s : Sheet} (hs : wb.sheet? id = some s) :
    (wb.appended name rows cols).sheet? id = some s := by
  rw [sheet?, appended, List.getElem?_append_left (List.getElem?_eq_some_iff.mp hs).1]
  exact hs

/-- The others are not, the new one apart. -/
theorem sheet?_appended_cases (name : String) (rows cols : Nat) {id : SheetId}
    (hs : wb.sheet? id = none) : (wb.appended name rows cols).sheet? id = none ∨
      id = ⟨wb.sheets.length⟩ ∧
        (wb.appended name rows cols).sheet? id = some (.new name rows cols) := by
  have hle : wb.sheets.length ≤ id.number := List.getElem?_eq_none_iff.mp hs
  rw [sheet?, appended, List.getElem?_append_right hle, List.getElem?_singleton]
  split
  · refine .inr ⟨?_, rfl⟩
    obtain ⟨number⟩ := id
    exact congrArg SheetId.mk (by dsimp only at *; omega)
  · exact .inl rfl

/-- **What is not to be found on a new sheet is what it was before.** -/
theorem bind_sheet?_appended {α : Type} (f : Sheet → Option α)
    (hnew : f (.new name rows cols) = none) (id : SheetId) :
    ((wb.appended name rows cols).sheet? id).bind f = (wb.sheet? id).bind f := by
  cases hs : wb.sheet? id with
  | some s => rw [sheet?_appended hs]
  | none =>
    rcases sheet?_appended_cases name rows cols hs with h | ⟨-, h⟩
    · rw [h]
    · rw [h, Option.bind_some, hnew]
      rfl

theorem cell?_appended (wb : Workbook) (name : String) (rows cols : Nat) (key : Key) :
    (wb.appended name rows cols).cell? key = wb.cell? key :=
  bind_sheet?_appended (·.cell? key.spot) rfl key.sheet

theorem content_appended (wb : Workbook) (name : String) (rows cols : Nat) (key : Key) :
    (wb.appended name rows cols).content key = wb.content key := by
  rw [content, content, cell, cell, cell?_appended]

theorem namedRange?_appended (wb : Workbook) (name : String) (rows cols : Nat) (id : SheetId)
    (given : String) :
    (wb.appended name rows cols).namedRange? id given = wb.namedRange? id given :=
  bind_sheet?_appended (·.names.range? given) rfl id

/-- A name that may be given leads nowhere yet. -/
theorem sheetNamed?_of_check (hname : wb.checkSheetName name = .ok ()) {other : String}
    (hother : Text.small other = Text.small name) : wb.sheetNamed? other = none := by
  rw [sheetNamed?, Option.map_eq_none_iff, List.findIdx?_eq_none_iff]
  refine fun s hs => beq_eq_false_iff_ne.mpr fun hsame => small_not_mem_of_check hname ?_
  exact List.mem_map.mpr ⟨s.name, List.mem_map_of_mem hs, hsame.trans hother⟩

/-- **The name of the new sheet leads to it,** and the other names lead where they led. -/
theorem sheetNamed?_appended (hname : wb.checkSheetName name = .ok ()) (rows cols : Nat)
    (other : String) : (wb.appended name rows cols).sheetNamed? other =
      if Text.small other = Text.small name then some ⟨wb.sheets.length⟩
      else wb.sheetNamed? other := by
  have hfound : (wb.appended name rows cols).sheetNamed? other = (wb.sheetNamed? other).or
      (if Text.small name = Text.small other then some ⟨wb.sheets.length⟩ else none) := by
    rw [sheetNamed?, sheetNamed?, appended, List.findIdx?_append, List.findIdx?_singleton]
    by_cases hother : Text.small name = Text.small other <;>
      cases wb.sheets.findIdx? (fun s => Text.small s.name == Text.small other) <;>
      simp [Sheet.new, hother]
  rw [hfound]
  by_cases hother : Text.small other = Text.small name
  · rw [sheetNamed?_of_check hname hother, if_pos hother.symm, if_pos hother]
    rfl
  · rw [if_neg (Ne.symm hother), if_neg hother, Option.or_none]

/-! ## 3. No formula is given up -/

/-- A mention that resolves goes on resolving, to the same edge. -/
theorem Resolves.appended (hname : wb.checkSheetName name = .ok ()) {home : Key} {m : Mention}
    {edge : Edge} {s : Sheet} (h : wb.Resolves home m edge s) (rows cols : Nat) :
    (wb.appended name rows cols).Resolves home m edge s := by
  refine ⟨?_, sheet?_appended h.sheet_eq⟩
  have hedge := h.edge_eq
  cases m with
  | name given => rwa [edge?, namedRange?_appended]
  | ref sheet target =>
    cases sheet with
    | none => exact hedge
    | some sheet =>
      obtain ⟨id, hid, hto⟩ := Option.map_eq_some_iff.mp hedge
      have hother : Text.small sheet ≠ Text.small name := by
        intro hother
        rw [sheetNamed?_of_check hname hother] at hid
        cases hid
      rwa [edge?, sheetNamed?_appended hname, if_neg hother]

/-- **A mention that comes to resolve is of the new sheet.** -/
theorem resolves_of_appended (hname : wb.checkSheetName name = .ok ()) {home : Key} {m : Mention}
    {edge : Edge} {s : Sheet} (h : (wb.appended name rows cols).Resolves home m edge s) :
    wb.Resolves home m edge s ∨ edge.target.sheet = ⟨wb.sheets.length⟩ := by
  have hsheet (hedge : wb.edge? home m = some edge) :
      wb.Resolves home m edge s ∨ edge.target.sheet = ⟨wb.sheets.length⟩ := by
    cases hs : wb.sheet? edge.target.sheet with
    | some s' =>
      have hsame := h.sheet_eq
      rw [sheet?_appended hs] at hsame
      exact .inl ⟨hedge, hs.trans hsame⟩
    | none =>
      rcases sheet?_appended_cases name rows cols hs with hnone | ⟨hid, -⟩
      · rw [h.sheet_eq] at hnone
        cases hnone
      · exact .inr hid
  have hedge := h.edge_eq
  cases m with
  | name given =>
    rw [edge?, namedRange?_appended] at hedge
    exact hsheet hedge
  | ref sheet target =>
    cases sheet with
    | none => exact hsheet hedge
    | some sheet =>
      rw [edge?, sheetNamed?_appended hname] at hedge
      split at hedge
      · obtain rfl := Option.some.inj hedge
        exact .inr (by cases target <;> rfl)
      · exact hsheet hedge

/-- What does not cover a cell is not refused for covering it. -/
theorem admission_ne_ownCell {home : Key} {edge : Edge} (h : edge.target.covers home = false)
    (checked : Bool) (s : Sheet) (sheet : String) (spot : Spot) :
    admission home checked edge s ≠ .error (.ownCell sheet spot) := by
  rw [admission, h, Bool.and_false]
  intro hrefused
  split at hrefused <;> cases hrefused

/-- A mention that comes to resolve is not of a cell that was there. -/
theorem addMention_appended_ne_ownCell (hname : wb.checkSheetName name = .ok ()) {home : Key}
    (hhome : wb.Has home) {m : Mention × Bool} (hm : ¬ ∃ edge s, wb.Resolves home m.1 edge s)
    (edges : List Edge) (sheet : String) (spot : Spot) :
    (wb.appended name rows cols).addMention home edges m ≠ .error (.ownCell sheet spot) := by
  by_cases hnew : ∃ edge s, (wb.appended name rows cols).Resolves home m.1 edge s
  · obtain ⟨edge, s, hres⟩ := hnew
    have hto : edge.target.sheet = ⟨wb.sheets.length⟩ :=
      (resolves_of_appended hname hres).resolve_left fun hold => hm ⟨edge, s, hold⟩
    have hcovers : edge.target.covers home = false := by
      obtain ⟨s₀, hs₀, -⟩ := hhome
      have hlt : home.sheet.number < wb.sheets.length := (List.getElem?_eq_some_iff.mp hs₀).1
      have hne : edge.target.sheet ≠ home.sheet := by
        rintro hsame
        rw [← hsame, hto] at hlt
        exact Nat.lt_irrefl _ hlt
      rw [Target.covers, beq_eq_false_iff_ne.mpr hne, Bool.false_and]
    rw [addMention_of_resolves hres]
    intro h
    cases hadm : admission home m.2 edge s with
    | ok u =>
      rw [hadm] at h
      cases h
    | error fault =>
      rw [hadm] at h
      obtain rfl : fault = .ownCell sheet spot := Except.error.inj h
      exact admission_ne_ownCell hcovers m.2 s sheet spot hadm
  · rw [addMention_of_not_resolves hnew]
    intro h
    cases h

/-- **A formula whose mentions cover its own cell covered it before.**  The induction is on its
mentions; what was collected of the earlier ones does not matter. -/
theorem ownCell_of_appended (hname : wb.checkSheetName name = .ok ()) {home : Key}
    (hhome : wb.Has home) {sheet : String} {spot : Spot} :
    ∀ {ms : List (Mention × Bool)} {edges : List Edge} (edges' : List Edge),
      ms.foldlM ((wb.appended name rows cols).addMention home) edges =
          .error (.ownCell sheet spot) →
        ms.foldlM (wb.addMention home) edges' = .error (.ownCell sheet spot)
  | [], edges, edges', h => nomatch h
  | m :: rest, edges, edges', h => by
    rw [List.foldlM_cons] at h ⊢
    by_cases hm : ∃ edge s, wb.Resolves home m.1 edge s
    · obtain ⟨edge, s, hres⟩ := hm
      rw [addMention_of_resolves (hres.appended hname rows cols)] at h
      rw [addMention_of_resolves hres]
      cases hadm : admission home m.2 edge s with
      | error fault =>
        rw [hadm] at h
        exact h
      | ok u =>
        rw [hadm] at h
        exact ownCell_of_appended hname hhome _ h
    · rw [addMention_of_not_resolves hm]
      cases hadd : (wb.appended name rows cols).addMention home edges m with
      | error fault =>
        rw [hadd] at h
        obtain rfl : fault = .ownCell sheet spot := Except.error.inj h
        exact absurd hadd (addMention_appended_ne_ownCell hname hhome hm edges sheet spot)
      | ok mid =>
        rw [hadd] at h
        exact ownCell_of_appended hname hhome _ h

/-- **After a sheet was added, every cell holds what it held,** with other edges if it is a
formula. -/
theorem content_rebuild_appended (h : wb.Reachable) (hname : wb.checkSheetName name = .ok ())
    (rows cols : Nat) (key : Key) : ∃ edges,
      (wb.appended name rows cols).rebuild.content key = (wb.content key).withEdges edges := by
  rw [content_rebuild, content_appended]
  have hplain (hnone : (wb.content key).expr? = none) :
      (wb.content key).withEdges [] = wb.content key := by
    cases hcontent : wb.content key with
    | formula text e edges result =>
      rw [hcontent] at hnone
      cases hnone
    | value v => rfl
    | unparsed text => rfl
    | discarded => rfl
  unfold rebuiltContent
  cases he : (wb.content key).expr? with
  | none => exact ⟨[], (hplain he).symm⟩
  | some e =>
    dsimp only
    split
    · exact ⟨_, rfl⟩
    · rename_i sheet spot hedges
      refine absurd ?_ (h.tracked.edges_ne_ownCell he sheet spot)
      exact ownCell_of_appended hname (h.placed key e he) [] hedges
    · exact ⟨_, rfl⟩

/-! ## 4. Freshness -/

/-- **An accepted sheet is added behind the others.** -/
theorem exists_of_addSheetSized {id : SheetId}
    (hok : (wb.addSheetSized name rows cols).answer = .ok id) :
    wb.checkSheetName name = .ok () ∧ id = ⟨wb.sheets.length⟩ ∧
      (wb.addSheetSized name rows cols).workbook = (wb.appended name rows cols).rebuild := by
  unfold addSheetSized at hok ⊢
  obtain ⟨u, hcheck⟩ := exists_of_guard hok
  rw [hcheck, Reply.guard_ok] at hok ⊢
  exact ⟨mapError_eq_ok_iff.mp hcheck, (Except.ok.inj hok).symm, rfl⟩

/-- **To formulas, only the name of the new sheet leads somewhere else.** -/
theorem source_addSheet (h : wb.Reachable) (hname : wb.checkSheetName name = .ok ())
    (rows cols : Nat) : (wb.appended name rows cols).rebuild.source =
      wb.source.withSheet name ⟨wb.sheets.length⟩ := by
  have hlayout := layout_rebuild (wb.appended name rows cols)
  have hsheet (other : String) : (wb.appended name rows cols).rebuild.sheetNamed? other =
      if Text.small other = Text.small name then some ⟨wb.sheets.length⟩
      else wb.sheetNamed? other := by
    rw [sheetNamed?_eq hlayout, sheetNamed?_appended hname]
  have hvalue (key : Key) : (wb.appended name rows cols).rebuild.value key = wb.value key := by
    obtain ⟨edges, hcontent⟩ := content_rebuild_appended h hname rows cols key
    refine (congrArg Content.shown hcontent).trans ?_
    cases hkey : wb.content key <;> exact (congrArg Content.shown hkey).symm
  have hrange (id : SheetId) (given : String) :
      (wb.appended name rows cols).rebuild.namedRange? id given = wb.namedRange? id given := by
    rw [namedRange?_eq hlayout, namedRange?_appended]
  simp only [source, Source.withSheet, Source.mk.injEq]
  exact ⟨funext hsheet, funext hvalue, funext fun id => funext (hrange id)⟩

/-- **When a formula is fresh after a sheet was added.**  In a workbook that there can be, let a
sheet be added.  Every cell keeps its formula, status and value.  A formula that was fresh is fresh
if and only if it has the same result where the name of the sheet leads to empty cells as it had
where it led nowhere.  So it is if it neither mentions that name, in whatever case, nor calls
`INDIRECT`; and a reference to the new sheet is never fresh. -/
theorem fresh_addSheet_iff (h : wb.Reachable) {reply : Reply SheetId}
    (hadd : reply = wb.addSheet name ∨ ∃ rows cols, reply = wb.addSheetSized name rows cols)
    {id : SheetId} (hok : reply.answer = .ok id) :
    (∀ key, (reply.workbook.content key).expr? = (wb.content key).expr? ∧
        reply.workbook.status key = wb.status key ∧ reply.workbook.value key = wb.value key) ∧
      (∀ spot, wb.value ⟨id, spot⟩ = .empty) ∧
      ∀ key e, (wb.content key).expr? = some e → wb.Fresh key →
        (reply.workbook.Fresh key ↔
          Result.ofOutcome (Formula.evaluate ⟨wb.source.withSheet name id, key⟩ e) =
            Result.ofOutcome (wb.evaluate key e)) ∧
        (e.callsIndirect = false → (∀ m ∈ e.mentions true, ¬ m.1.OfSheet name) →
          reply.workbook.Fresh key) ∧
        (∀ sheet target, e = .ref (some sheet) target → Text.small sheet = Text.small name →
          ¬ reply.workbook.Fresh key) := by
  obtain ⟨rows, cols, rfl⟩ : ∃ rows cols, reply = wb.addSheetSized name rows cols :=
    hadd.elim (fun hdefault => ⟨_, _, hdefault⟩) fun hsized => hsized
  obtain ⟨hname, rfl, hworkbook⟩ := exists_of_addSheetSized hok
  rw [hworkbook]
  have hcontent := content_rebuild_appended h hname rows cols
  have hblank (spot : Spot) : wb.value ⟨⟨wb.sheets.length⟩, spot⟩ = .empty :=
    value_of_sheet?_none (List.getElem?_eq_none (Nat.le_refl _))
  refine ⟨fun key => ?_, hblank, fun key e he hfresh => ?_⟩
  · obtain ⟨edges, hkey⟩ := hcontent key
    change _ ∧ ((wb.appended name rows cols).rebuild.content key).status = (wb.content key).status ∧
      ((wb.appended name rows cols).rebuild.content key).shown = (wb.content key).shown
    rw [hkey]
    cases wb.content key <;> exact ⟨rfl, rfl, rfl⟩
  · obtain ⟨text, old, result, hold⟩ := Content.eq_formula_of_expr? he
    obtain ⟨edges, hkey⟩ := hcontent key
    rw [hold, Content.withEdges] at hkey
    have hiff : (wb.appended name rows cols).rebuild.Fresh key ↔
        Result.ofOutcome (Formula.evaluate ⟨wb.source.withSheet name ⟨wb.sheets.length⟩, key⟩ e) =
          Result.ofOutcome (wb.evaluate key e) := by
      rw [fresh_iff_result hkey, (fresh_iff_result hold).mp hfresh, evaluate,
        source_addSheet h hname]
    refine ⟨hiff, fun hcalls hmentions => ?_, fun sheet target href hsheet => ?_⟩
    · rw [hiff, evaluate_withSheet hcalls hmentions]
      rfl
    · subst href
      rw [hiff]
      exact ofOutcome_ref_withSheet_ne hsheet (sheetNamed?_of_check hname hsheet) hblank target

/-- Three formulas: a reference to a sheet that is added then, a formula that asks for a row of it,
and one that reads an empty cell of its own sheet. -/
theorem fresh_addSheet_three :
    let wb := ((Session.start {}).run [.setFormula ⟨⟨0⟩, ⟨0, 0⟩⟩ "=data!B2",
      .setFormula ⟨⟨0⟩, ⟨0, 1⟩⟩ "=ROW(data!B2)", .setFormula ⟨⟨0⟩, ⟨0, 2⟩⟩ "=A2"]).workbook
    let wb' := (wb.addSheet "Data").workbook
    wb.Reachable ∧ (wb.addSheet "Data").answer = .ok ⟨1⟩ ∧
      wb.Fresh ⟨⟨0⟩, ⟨0, 0⟩⟩ ∧ wb.Fresh ⟨⟨0⟩, ⟨0, 1⟩⟩ ∧ wb.Fresh ⟨⟨0⟩, ⟨0, 2⟩⟩ ∧
      ¬ wb'.Fresh ⟨⟨0⟩, ⟨0, 0⟩⟩ ∧ wb'.Fresh ⟨⟨0⟩, ⟨0, 1⟩⟩ ∧ wb'.Fresh ⟨⟨0⟩, ⟨0, 2⟩⟩ := by
  intro wb wb'
  have hfacts : (wb.addSheet "Data").answer.toOption = some ⟨1⟩ ∧
      wb.Fresh ⟨⟨0⟩, ⟨0, 0⟩⟩ ∧ wb.Fresh ⟨⟨0⟩, ⟨0, 1⟩⟩ ∧ wb.Fresh ⟨⟨0⟩, ⟨0, 2⟩⟩ ∧
      (wb.content ⟨⟨0⟩, ⟨0, 0⟩⟩).expr?.any (fun e =>
        Result.ofOutcome (Formula.evaluate ⟨wb.source.withSheet "Data" ⟨1⟩, ⟨⟨0⟩, ⟨0, 0⟩⟩⟩ e) ≠
          Result.ofOutcome (wb.evaluate ⟨⟨0⟩, ⟨0, 0⟩⟩ e)) = true ∧
      (wb.content ⟨⟨0⟩, ⟨0, 1⟩⟩).expr?.any (fun e =>
        Result.ofOutcome (Formula.evaluate ⟨wb.source.withSheet "Data" ⟨1⟩, ⟨⟨0⟩, ⟨0, 1⟩⟩⟩ e) =
          Result.ofOutcome (wb.evaluate ⟨⟨0⟩, ⟨0, 1⟩⟩ e)) = true ∧
      (wb.content ⟨⟨0⟩, ⟨0, 2⟩⟩).expr?.any (fun e => e.callsIndirect = false ∧
        ∀ m ∈ e.mentions true, ¬ m.1.OfSheet "Data") = true := by decide +kernel
  obtain ⟨hadded, hfirst, hsecond, hthird, hother, hsame, hapart⟩ := hfacts
  have hreach : wb.Reachable := ⟨_, _, rfl⟩
  have hok : (wb.addSheet "Data").answer = .ok ⟨1⟩ := by
    cases hanswer : (wb.addSheet "Data").answer with
    | error fault =>
      rw [hanswer] at hadded
      cases hadded
    | ok id =>
      rw [hanswer] at hadded
      exact congrArg Except.ok (Option.some.inj hadded)
  obtain ⟨-, -, hfresh⟩ := fresh_addSheet_iff hreach (.inl rfl) hok
  refine ⟨hreach, hok, hfirst, hsecond, hthird, ?_, ?_, ?_⟩
  · obtain ⟨e, he, hother⟩ := (Option.any_eq_true _ _).mp hother
    exact fun h => of_decide_eq_true hother ((hfresh _ e he hfirst).1.mp h)
  · obtain ⟨e, he, hsame⟩ := (Option.any_eq_true _ _).mp hsame
    exact (hfresh _ e he hsecond).1.mpr (of_decide_eq_true hsame)
  · obtain ⟨e, he, hapart⟩ := (Option.any_eq_true _ _).mp hapart
    obtain ⟨hcalls, hmentions⟩ := of_decide_eq_true hapart
    exact (hfresh _ e he hthird).2.1 hcalls hmentions

/-- **A reference to a new sheet goes on showing that there is none.** -/
theorem stale_after_addSheet :
    let key : Key := ⟨⟨0⟩, ⟨0, 0⟩⟩
    let wb := ((Session.start {}).run [.setFormula key "=Data!A1"]).workbook
    let wb' := (wb.addSheet "Data").workbook
    wb.Reachable ∧ wb.settings.autoRecalculate = true ∧ wb.graph.Acyclic ∧
      (∀ key, wb.HasFormula key → wb.Fresh key) ∧ (wb.addSheet "Data").answer.isOk = true ∧
      wb'.graph.Acyclic ∧ wb'.value key = .error .ref ∧
      (wb'.recalculate key).1.value key = .number 0.0 ∧
      ¬ ∀ key, wb'.HasFormula key → wb'.Fresh key := by
  intro key wb wb'
  let rank (k : Key) : Nat := 2 - k.sheet.number
  have hfacts : wb.settings.autoRecalculate = true ∧
      (∀ r ∈ wb.graph, ∀ t ∈ r.2, t.range = .single t.range.first ∧
        rank ⟨t.sheet, t.range.first⟩ < rank r.1) ∧
      (∀ k ∈ wb.formulaKeys, wb.Fresh k) ∧ (wb.addSheet "Data").answer.isOk = true ∧
      (∀ r ∈ wb'.graph, ∀ t ∈ r.2, t.range = .single t.range.first ∧
        rank ⟨t.sheet, t.range.first⟩ < rank r.1) ∧
      wb'.value key = .error .ref ∧ (wb'.recalculate key).1.value key = .number 0.0 ∧
      wb'.HasFormula key ∧ ¬ wb'.Fresh key := by decide +kernel
  obtain ⟨hauto, hranked, hfresh, hok, hranked', hvalue, hturn, hformula, hstale⟩ := hfacts
  exact ⟨⟨_, _, rfl⟩, hauto, Graph.acyclic_of_singles rank hranked,
    fun k hk => hfresh k hk.mem_keys, hok, Graph.acyclic_of_singles rank hranked', hvalue, hturn,
    fun hall => hstale (hall key hformula)⟩

end Workbook

end Spreadsheet
