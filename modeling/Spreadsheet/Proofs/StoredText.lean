/-
# The text of a formula and the formula

* A cell that holds a formula keeps its text and the formula that was read from it.  Both change
  together only when lines are removed; then the formula is changed and its text is written anew.
* What is true of all that may be written and stays true when a formula is evaluated, when its edges
  are found again and when it is changed, is true of every cell there can be
  (`Reachable.everywhere`).  A removal moves contents from cell to cell, so this is shown for all
  cells at once.
* So a formula is always *spelled* by its text: either the text was read as the formula, or it was
  written from the formula, which is one that could have been read (`Reachable.spelled`).
* So the text is read as the formula, unless it was written from one that is not legible
  (`parse_stored_iff`).
* Every text is one that would be kept as it is if it were written again (`Reachable.steady`).
-/
import Spreadsheet.Proofs.Copies
import Spreadsheet.Proofs.Tracking

namespace Spreadsheet

open Grid Formula Conditional

/-! ## 1. What lasts -/

namespace Content

/-- **What stays true of the content of a cell whatever happens to it but that something is written.**
A formula gets a result by being evaluated. -/
structure Durable (P : Content → Prop) : Prop where
  nothing : P (.value .empty)
  evaluated : ∀ {content : Content}, P content → ∀ (ctx : Context) {e : Expr},
    content.expr? = some e → P (content.withResult (.ofOutcome (evaluate ctx e)))
  rebuilt : ∀ {content : Content}, P content → ∀ (wb : Workbook) (key : Key),
    P (wb.rebuiltContent key content)
  mapExpr : ∀ {content : Content}, P content → ∀ {change : Expr → Expr},
    (∀ e : Expr, e.Canonical → (change e).Canonical) → P (content.mapExpr change)

/-- **What stays true of the content of a cell whatever happens to it.** -/
structure Lasting (P : Content → Prop) : Prop where
  plans : ∀ {wb : Workbook} {key : Key} {content : Content}, wb.Plans key content → P content
  withResult : ∀ {content : Content}, P content → ∀ result, P (content.withResult result)
  withEdges : ∀ {content : Content}, P content → ∀ edges, P (content.withEdges edges)
  mapExpr : ∀ {content : Content}, P content → ∀ {change : Expr → Expr},
    (∀ e : Expr, e.Canonical → (change e).Canonical) → P (content.mapExpr change)

variable {P : Content → Prop}

/-- A cell whose edges are found again gets other edges, or its formula is given up. -/
theorem rebuilt_of_withEdges {content : Content} (h : P content) (hdiscarded : P .discarded)
    (hedges : ∀ edges, P (content.withEdges edges)) (wb : Workbook) (key : Key) :
    P (wb.rebuiltContent key content) := by
  unfold Workbook.rebuiltContent
  split
  · exact h
  · split
    · exact hedges _
    · exact hdiscarded
    · exact hedges _

theorem Lasting.durable (hP : Lasting P) : Durable P where
  nothing := by
    have hplan : (Workbook.new {}).Plans ⟨⟨0⟩, ⟨0, 0⟩⟩ (.value .empty) := .value .empty
    exact hP.plans hplan
  evaluated h _ _ _ := hP.withResult h _
  rebuilt h := by
    have hplan : (Workbook.new {}).Plans ⟨⟨0⟩, ⟨0, 0⟩⟩ .discarded := .discarded
    exact rebuilt_of_withEdges h (hP.plans hplan) (hP.withEdges h)
  mapExpr := hP.mapExpr

end Content

namespace Workbook

open Content (Durable Lasting)

variable {wb wb' : Workbook} {key : Key} {P : Content → Prop}

/-- What is true of every cell. -/
def Everywhere (wb : Workbook) (P : Content → Prop) : Prop := ∀ key, P (wb.content key)

theorem Everywhere.of_keeps (hP : Durable P) (h : wb.Everywhere P)
    (hkeeps : ∀ key, Keeps (wb.content key) (wb'.content key)) : wb'.Everywhere P := by
  intro key
  rcases hkeeps key with heq | hgone
  · rw [heq]
    exact h key
  · rw [hgone]
    exact hP.nothing

theorem Everywhere.recalculate (hP : Durable P) (h : wb.Everywhere P) (key : Key) :
    (wb.recalculate key).1.Everywhere P := by
  intro j
  by_cases hkey : key = j
  · subst hkey
    cases he : (wb.content key).expr? with
    | none =>
      rw [recalculate_of_expr?_none he]
      exact h key
    | some e =>
      rw [content_recalculate_self he]
      exact hP.evaluated (h key) ⟨wb.source, key⟩ he
  · rw [content_recalculate_of_ne wb hkey]
    exact h j

theorem Everywhere.writeAny (h : wb.Everywhere P) (hon : wb.Has key) {content : Content}
    (hcontent : P content) : (wb.writeAny key content).Everywhere P := by
  intro j
  by_cases hkey : key = j
  · subst hkey
    rw [content_writeAny_self hon]
    exact hcontent
  · rw [content_writeAny_of_ne wb content hkey]
    exact h j

theorem Everywhere.rebuild (hP : Durable P) (h : wb.Everywhere P) : wb.rebuild.Everywhere P := by
  intro key
  rw [content_rebuild]
  exact hP.rebuilt (h key) wb key

/-- **What stands in a cell after lines were removed stood in some cell before.** -/
theorem exists_of_cell_without {s : Sheet} {axis : Axis} {band : Span}
    (hband : band.first + band.count ≤ s.extent axis) (spot : Spot) :
    ((s.without axis band).cell spot).content = .value .empty ∨
      ∃ before, ((s.without axis band).cell spot).content = (s.cell before).content := by
  cases hcell : (s.without axis band).cell? spot with
  | none => exact .inl (by rw [Sheet.cell, hcell]; rfl)
  | some c =>
    refine .inr ⟨spot.restored axis band, ?_⟩
    rw [Sheet.cell, hcell, Sheet.cell, Sheet.cell?_restored_of_without hband hcell]

/-- **Every formula follows the cells of a sheet that loses lines.** -/
theorem content_followSheets (wb : Workbook) (lost : SheetId) (name : String) (axis : Axis)
    (band : Span) (key : Key) :
    (wb.onSheets (followSheet lost name axis band)).content key =
      (wb.content key).mapExpr
        (·.without (pointsAt (key.sheet == lost) name) axis band.first band.count) := by
  let change (key : Key) (e : Expr) : Expr :=
    e.without (pointsAt (key.sheet == lost) name) axis band.first band.count
  refine content_onSheets (fun key content => content.mapExpr (change key)) (fun _ => rfl)
    (fun i s spot => ?_) wb key
  exact content_map s (fun spot content => content.mapExpr (change ⟨i, spot⟩)) (fun _ => rfl) spot

/-- **A removal of lines changes formulas and moves cells.** -/
theorem Everywhere.removeBand (hP : Durable P) (h : wb.Everywhere P) {id : SheetId} {s : Sheet}
    (hs : wb.sheet? id = some s) (axis : Axis) {band : Span}
    (hband : band.first + band.count ≤ s.extent axis) :
    (wb.removeBand id axis band).Everywhere P := by
  have hfollow : (wb.onSheets (followSheet id (wb.sheetName id) axis band)).Everywhere P := by
    intro key
    rw [content_followSheets]
    exact hP.mapExpr (h key) fun e he => canonical_without he _ axis _ _
  intro key
  unfold Workbook.removeBand
  rw [content, cell_eq_elim, sheet?_onSheet]
  split
  · rename_i hid
    have hsheet : (wb.onSheets (followSheet id (wb.sheetName id) axis band)).sheet? key.sheet =
        some (followSheet id (wb.sheetName id) axis band id s) := by
      rw [sheet?_onSheets, ← hid, hs]
      rfl
    have hextent : band.first + band.count ≤
        (followSheet id (wb.sheetName id) axis band id s).extent axis := by
      cases axis <;> exact hband
    rw [hsheet]
    rcases exists_of_cell_without hextent key.spot with heq | ⟨before, heq⟩
    · exact heq.symm ▸ hP.nothing
    · have hbefore := hfollow ⟨key.sheet, before⟩
      rw [content, cell_eq_elim, hsheet] at hbefore
      exact heq.symm ▸ hbefore
  · have hkey := hfollow key
    rwa [content, cell_eq_elim] at hkey

/-- **What is durable is kept by every change.** -/
theorem Everywhere.change {choosing : Bool} (hP : Durable P)
    (hchange : Change choosing wb wb') (h : wb.Everywhere P) : wb'.Everywhere P := by
  rcases change_cases hchange with
    ⟨-, hkeeps⟩ | ⟨changed, hkeeps, rfl⟩ | ⟨id, s, axis, band, hs, hband, rfl⟩
  · exact h.of_keeps hP hkeeps
  · exact Everywhere.rebuild hP (h.of_keeps hP hkeeps)
  · exact Everywhere.rebuild hP (h.removeBand hP hs axis hband)

/-- **What is durable, and true of all that may be written, is kept by every edit.** -/
theorem Everywhere.edit (hP : Durable P)
    (hplans : ∀ {wb : Workbook} {key : Key} {content : Content},
      wb.Plans key content → P content) (hedit : Edit wb wb') (h : wb.Everywhere P) :
    wb'.Everywhere P := by
  cases hedit with
  | evaluate key => exact h.recalculate hP key
  | write hon hplan => exact h.writeAny hon (hplans hplan)
  | change hchange => exact h.change hP hchange

theorem everywhere_new (hP : Durable P) (settings : Settings) :
    (new settings).Everywhere P := by
  rintro ⟨⟨i⟩, spot⟩
  rw [content, cell_eq_elim]
  cases i <;> exact hP.nothing

/-- So it is true at every moment. -/
theorem everywhere_edits (hP : Durable P)
    (hplans : ∀ {wb : Workbook} {key : Key} {content : Content},
      wb.Plans key content → P content) {settings : Settings} (h : Edits (new settings) wb) :
    wb.Everywhere P := by
  induction h with
  | refl => exact everywhere_new hP settings
  | tail _ hedit ih => exact ih.edit hP hplans hedit

/-- **What lasts is true in every workbook there can be.** -/
theorem Reachable.everywhere (h : wb.Reachable) (hP : Lasting P) : wb.Everywhere P := by
  obtain ⟨settings, hedits⟩ := h.edits
  exact everywhere_edits hP.durable hP.plans hedits

end Workbook

/-! ## 2. Spelling -/

/-- **A formula that is spelled by its text:** it was read from it, or could have been read and was
written to it. -/
def Content.Spelled (content : Content) : Prop :=
  ∀ text e edges result, content = .formula text e edges result →
    e.Canonical ∧ (parse text = .ok e ∨ text = e.source)

namespace Content

theorem spelled_of_expr?_none {content : Content} (h : content.expr? = none) :
    content.Spelled := by
  rintro text e edges result rfl
  cases h

theorem spelled_of_parse {text : String} {e : Expr} (h : parse text = .ok e) (edges : List Edge)
    (result : Result) : (Content.formula text e edges result).Spelled := by
  intro text' e' edges' result' heq
  obtain ⟨rfl, rfl, -, -⟩ := Content.formula.inj heq
  exact ⟨canonical_of_parse h, .inl h⟩

/-- Edges and results do not matter. -/
theorem Spelled.withResult {content : Content} (h : content.Spelled) (result : Result) :
    (content.withResult result).Spelled := by
  cases content with
  | formula text e edges latest =>
    intro text' e' edges' result' heq
    obtain ⟨rfl, rfl, -, -⟩ := Content.formula.inj heq
    exact h text e edges latest rfl
  | value v => exact h
  | unparsed text => exact h
  | discarded => exact h

theorem Spelled.withEdges {content : Content} (h : content.Spelled) (edges : List Edge) :
    (content.withEdges edges).Spelled := by
  cases content with
  | formula text e latest result =>
    intro text' e' edges' result' heq
    obtain ⟨rfl, rfl, -, -⟩ := Content.formula.inj heq
    exact h text e latest result rfl
  | value v => exact h
  | unparsed text => exact h
  | discarded => exact h

/-- **A formula that is changed gets a text that is written from it.** -/
theorem Spelled.mapExpr {content : Content} (h : content.Spelled) {change : Expr → Expr}
    (hchange : ∀ e : Expr, e.Canonical → (change e).Canonical) :
    (content.mapExpr change).Spelled := by
  cases content with
  | formula text e edges result =>
    intro text' e' edges' result' heq
    obtain ⟨rfl, rfl, -, -⟩ := Content.formula.inj heq
    exact ⟨hchange e (h text e edges result rfl).1, .inr rfl⟩
  | value v => exact h
  | unparsed text => exact h
  | discarded => exact h

/-- **What may be written is spelled by its text.** -/
theorem spelled_of_plans {wb : Workbook} {key : Key} {content : Content}
    (h : wb.Plans key content) : content.Spelled := by
  cases h with
  | formula hparse hedges shown => exact spelled_of_parse hparse _ _
  | value v => exact spelled_of_expr?_none rfl
  | unparsed hparse => exact spelled_of_expr?_none rfl
  | discarded => exact spelled_of_expr?_none rfl

theorem lasting_spelled : Lasting Spelled where
  plans := spelled_of_plans
  withResult h := h.withResult
  withEdges h := h.withEdges
  mapExpr h _ hchange := h.mapExpr hchange

end Content

namespace Workbook

variable {wb : Workbook} {key : Key}

/-- **In every workbook there can be, a formula is spelled by its text.** -/
theorem Reachable.spelled (h : wb.Reachable) : wb.Everywhere Content.Spelled :=
  h.everywhere Content.lasting_spelled

/-! ## 3. Reading the text again -/

theorem getLast?_trimChars (cs : List Char) :
    ∀ c ∈ (Text.trimChars cs).getLast?, Text.isBlank c = false := by
  intro c hc
  rw [Text.trimChars, List.getLast?_reverse] at hc
  obtain ⟨rest, hrest⟩ := List.head?_eq_some_iff.mp hc
  exact Text.not_isBlank_of_skipBlanks hrest

/-- The text that is kept is the equals sign and what is read of the text that was given. -/
theorem exists_toList_formulaText (text : String) : ∃ cs, (formulaText text).toList = '=' :: cs ∧
    withoutEquals (Text.trimChars text.toList) = cs ∧
      ∀ c ∈ cs.getLast?, Text.isBlank c = false := by
  have hlast := getLast?_trimChars text.toList
  unfold formulaText
  split
  · rename_i cs heq
    rw [heq] at hlast ⊢
    refine ⟨cs, String.toList_ofList, rfl, fun c hc => hlast c ?_⟩
    rw [List.getLast?_cons, Option.mem_def.mp hc]
    rfl
  · rename_i hne
    refine ⟨_, String.toList_ofList, ?_, hlast⟩
    unfold withoutEquals
    split
    · rename_i cs heq
      exact absurd heq (hne cs)
    · rfl

theorem trimChars_of_equals {cs : List Char} (hlast : ∀ c ∈ cs.getLast?, Text.isBlank c = false) :
    Text.trimChars ('=' :: cs) = '=' :: cs := by
  have hequals : Text.isBlank '=' = false := by decide
  refine Text.trimChars_eq_self (by simp [hequals]) fun c hc => ?_
  rw [List.getLast?_cons] at hc
  obtain rfl := Option.some.inj hc
  cases hend : cs.getLast? with
  | none => exact hequals
  | some d => exact hlast d hend

/-- A text with the equals sign in front and no blank at its end is kept as it is. -/
theorem formulaText_eq_self {text : String} {cs : List Char} (htext : text.toList = '=' :: cs)
    (hlast : ∀ c ∈ cs.getLast?, Text.isBlank c = false) : formulaText text = text := by
  unfold formulaText
  rw [htext, trimChars_of_equals hlast]
  exact (congrArg String.ofList htext).symm.trans String.ofList_toList

/-- **What is kept of a text is kept as it is.** -/
theorem formulaText_formulaText (text : String) :
    formulaText (formulaText text) = formulaText text := by
  obtain ⟨cs, htext, -, hlast⟩ := exists_toList_formulaText text
  exact formulaText_eq_self htext hlast

/-- So is a text that was written from a formula. -/
theorem formulaText_source {e : Expr} (h : e.Canonical) : formulaText e.source = e.source := by
  obtain ⟨c, hlast, hfirm⟩ := (solid_chars h).last
  refine formulaText_eq_self String.toList_ofList fun d hd => ?_
  rw [← Option.some.inj (hlast.symm.trans hd)]
  exact hfirm.1

/-- A text that is kept as a formula is read like the text that was given. -/
theorem parse_formulaText (text : String) : parse (formulaText text) = parse text := by
  obtain ⟨cs, htext, hread, hlast⟩ := exists_toList_formulaText text
  unfold parse
  dsimp only
  rw [htext, trimChars_of_equals hlast, hread]
  rfl

/-- **The text of a cell is read as the formula of the cell,** and so is the text that is kept when
it is written anywhere, unless it was written from the formula and the formula is not legible.  Then
it is not. -/
theorem parse_stored_iff (h : wb.Reachable) {text : String} {e : Expr} {edges : List Edge}
    {result : Result} (hcontent : wb.content key = .formula text e edges result)
    (hdigits : ∀ x ∈ e.numbers, ReadsBack x) :
    (parse text = .ok e ∧ ∀ (wb' : Workbook) (place : Key) (written : Content),
      wb'.contentOf place text = .ok written → written.expr? = some e) ↔
        (text = e.source → e.Legible) := by
  obtain ⟨hcanonical, hspelled⟩ := h.spelled key text e edges result hcontent
  have hsource := (parse_print_iff hcanonical hdigits).2
  constructor
  · rintro ⟨hread, -⟩ rfl
    exact hsource.mp hread
  · intro hlegible
    have hread : parse text = .ok e := by
      rcases hspelled with hparse | htext
      · exact hparse
      · rw [htext]
        exact hsource.mpr (hlegible htext)
    refine ⟨hread, fun wb' place written hwritten => ?_⟩
    unfold contentOf at hwritten
    dsimp only at hwritten
    rw [parse_formulaText, hread] at hwritten
    obtain ⟨found, -, rfl⟩ := map_eq_ok_iff.mp hwritten
    rfl

/-- A formula of another sheet loses one of its references with the row it is in, and the other one
shrinks. -/
theorem parse_stored_after_removal :
    let wb := ((Session.start {}).run [.addSheetSized "Data" 5 5,
      .setFormula ⟨⟨0⟩, ⟨0, 0⟩⟩ "= data!A3 * 2.5 + sum(Data!A1:A5)",
      .deleteLines ⟨1⟩ .rows 2 1]).workbook
    wb.Reachable ∧ ∃ text e edges result,
      wb.content ⟨⟨0⟩, ⟨0, 0⟩⟩ = .formula text e edges result ∧
        (∀ x ∈ e.numbers, ReadsBack x) ∧ text = "=#REF!*2.5+SUM(Data!A1:A4)" ∧
        parse text = .ok e ∧ ∀ (wb' : Workbook) (place : Key) (written : Content),
          wb'.contentOf place text = .ok written → written.expr? = some e := by
  intro wb
  have hreach : wb.Reachable := ⟨_, _, rfl⟩
  have hfacts : (wb.content ⟨⟨0⟩, ⟨0, 0⟩⟩).expr?.any (fun e => decide e.Legible &&
      e.numbers.all fun x => decide (ReadsBack x)) = true := by decide +kernel
  have htext : (wb.content ⟨⟨0⟩, ⟨0, 0⟩⟩).formulaText? = some "=#REF!*2.5+SUM(Data!A1:A4)" := by
    decide +kernel
  obtain ⟨e, he, hfacts⟩ := Option.any_eq_true .. |>.mp hfacts
  obtain ⟨text, edges, result, hcontent⟩ := Content.eq_formula_of_expr? he
  simp only [Bool.and_eq_true, List.all_eq_true, decide_eq_true_eq] at hfacts
  obtain ⟨hlegible, hdigits⟩ := hfacts
  rw [hcontent] at htext
  refine ⟨hreach, text, e, edges, result, hcontent, hdigits, Option.some.inj htext, ?_⟩
  exact (parse_stored_iff hreach hcontent hdigits).mpr fun _ => hlegible

/-- **A removal can leave a text that is not read as the formula:** the error code that takes the
place of a reference runs into the slash behind it. -/
theorem stored_text_lost_after_removal :
    let wb := ((Session.start {}).run [.setFormula ⟨⟨0⟩, ⟨0, 0⟩⟩ "=A3/2",
      .deleteLines ⟨0⟩ .rows 2 1]).workbook
    wb.Reachable ∧ ∃ text e edges result,
      wb.content ⟨⟨0⟩, ⟨0, 0⟩⟩ = .formula text e edges result ∧
        (∀ x ∈ e.numbers, ReadsBack x) ∧ parse text ≠ .ok e := by
  intro wb
  have hreach : wb.Reachable := ⟨_, _, rfl⟩
  have hfacts : (wb.content ⟨⟨0⟩, ⟨0, 0⟩⟩).expr?.any (fun e => e.numbers.length == 1 &&
      e.numbers.all fun x => decide (ReadsBack x)) = true := by decide +kernel
  have htext : (wb.content ⟨⟨0⟩, ⟨0, 0⟩⟩).formulaText? = some "=#REF!/2" := by decide +kernel
  obtain ⟨e, he, hfacts⟩ := Option.any_eq_true .. |>.mp hfacts
  obtain ⟨text, edges, result, hcontent⟩ := Content.eq_formula_of_expr? he
  simp only [Bool.and_eq_true, beq_iff_eq, List.all_eq_true, decide_eq_true_eq] at hfacts
  obtain ⟨hlength, hdigits⟩ := hfacts
  rw [hcontent] at htext
  obtain rfl : text = "=#REF!/2" := Option.some.inj htext
  refine ⟨hreach, _, e, edges, result, hcontent, hdigits, fun hread => ?_⟩
  -- What is read has no number.
  have hnone : (parse "=#REF!/2").toOption.map (·.numbers.length) = some 0 := by decide +kernel
  rw [hread] at hnone
  have hzero : e.numbers.length = 0 := Option.some.inj hnone
  omega

end Workbook

/-! ## 4. Writing the text again -/

/-- **Content whose text would be kept as it is,** and would be none of a formula again if it is
none. -/
structure Content.Steady (content : Content) : Prop where
  spelled : content.Spelled
  text_eq : ∀ text, content.formulaText? = some text → Workbook.formulaText text = text
  unread : ∀ text, content = .unparsed text → ∃ fault, parse text = .error fault

namespace Content

open Workbook (formulaText_formulaText formulaText_source)

theorem steady_of_plans {wb : Workbook} {key : Key} {content : Content}
    (h : wb.Plans key content) : content.Steady := by
  have hspelled := spelled_of_plans h
  cases h with
  | formula hparse hedges shown =>
    refine ⟨hspelled, fun text htext => ?_, fun text htext => by cases htext⟩
    obtain rfl := Option.some.inj htext
    exact formulaText_formulaText _
  | unparsed hparse =>
    refine ⟨hspelled, fun text htext => ?_, fun text htext => ?_⟩
    · obtain rfl := Option.some.inj htext
      exact formulaText_formulaText _
    · obtain rfl := Content.unparsed.inj htext
      exact ⟨_, hparse⟩
  | value v => exact ⟨hspelled, fun _ htext => (by cases htext), fun _ htext => by cases htext⟩
  | discarded => exact ⟨hspelled, fun _ htext => (by cases htext), fun _ htext => by cases htext⟩

theorem lasting_steady : Lasting Steady where
  plans := steady_of_plans
  withResult {content} h result := by
    cases content with
    | formula text e edges latest =>
      exact ⟨h.spelled.withResult result, h.text_eq, fun _ htext => by cases htext⟩
    | value v => exact h
    | unparsed text => exact h
    | discarded => exact h
  withEdges {content} h edges := by
    cases content with
    | formula text e latest result =>
      exact ⟨h.spelled.withEdges edges, h.text_eq, fun _ htext => by cases htext⟩
    | value v => exact h
    | unparsed text => exact h
    | discarded => exact h
  mapExpr {content} h change hchange := by
    cases content with
    | formula text e edges result =>
      refine ⟨h.spelled.mapExpr hchange, fun text htext => ?_, fun _ htext => by cases htext⟩
      obtain rfl := Option.some.inj htext
      exact formulaText_source (hchange e (h.spelled _ _ _ _ rfl).1)
    | value v => exact h
    | unparsed text => exact h
    | discarded => exact h

end Content

/-- **In every workbook there can be, texts would be kept as they are.** -/
theorem Workbook.Reachable.steady {wb : Workbook} (h : wb.Reachable) :
    wb.Everywhere Content.Steady :=
  h.everywhere Content.lasting_steady

end Spreadsheet
