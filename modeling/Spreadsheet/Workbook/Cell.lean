/-
# Cells

* A cell holds a plain value, a formula, a text that was meant as a formula, or nothing because a
  formula that read the cell itself was given up.  What it shows follows from what it holds.
* A cell is seen in some style.  The first conditional format that imposes another one captures what
  was seen before as the baseline; taking off what is imposed puts the baseline back.  So a cell
  always has a style of its own, whatever formats do to it.
-/
import Spreadsheet.Style
import Spreadsheet.Workbook.Status

namespace Spreadsheet

open Grid Formula

/-! ## 1. Contents -/

/-- **What a formula reads:** a range of cells, and whether it is bound to its place.  The origin is
the first cell of the range, fixed on an axis if the range stays when the formula is copied. -/
structure Edge where
  target : Target
  origin : Position
deriving DecidableEq, Repr

/-- **What a cell holds.** -/
inductive Content where
  /-- A value that was written. -/
  | value (v : Value)
  /-- A formula with its text, the ranges it reads and its latest result. -/
  | formula (text : String) (expr : Expr) (edges : List Edge) (result : Result)
  /-- A text that is no formula. -/
  | unparsed (text : String)
  /-- Nothing: the formula read its own cell. -/
  | discarded

namespace Content

/-- The value of a cell. -/
def shown : Content → Value
  | .value v => v
  | .formula _ _ _ result => result.shown
  | .unparsed _ => .empty
  | .discarded => .empty

/-- **The text that the grid shows.**  A text that is no formula is shown itself. -/
def display : Content → String
  | .unparsed text => text
  | content => content.shown.display

/-- The status of a cell. -/
def status : Content → Status
  | .value _ => .normal
  | .formula _ _ _ result => result.status
  | .unparsed _ => .syntaxError
  | .discarded => .circularReference

/-- The text of the formula, if there is one, be it a formula or not. -/
def formulaText? : Content → Option String
  | .formula text _ _ _ => some text
  | .unparsed text => some text
  | _ => none

/-- The formula, if there is one. -/
def expr? : Content → Option Expr
  | .formula _ e _ _ => some e
  | _ => none

/-- The ranges that the formula reads. -/
def edges : Content → List Edge
  | .formula _ _ edges _ => edges
  | _ => []

/-- **Where there is a formula, there is all that belongs to one.** -/
theorem eq_formula_of_expr? {content : Content} {e : Expr} (h : content.expr? = some e) :
    ∃ text edges result, content = .formula text e edges result := by
  cases content with
  | formula text e' edges result =>
    obtain rfl : e' = e := Option.some.inj h
    exact ⟨text, edges, result, rfl⟩
  | value v => cases h
  | unparsed text => cases h
  | discarded => cases h

/-- A formula has a text. -/
theorem isSome_formulaText? {content : Content} {e : Expr} (h : content.expr? = some e) :
    content.formulaText?.isSome = true := by
  obtain ⟨text, edges, result, rfl⟩ := eq_formula_of_expr? h
  rfl

/-- What has edges is a formula. -/
theorem exists_expr_of_edges {content : Content} (h : content.edges ≠ []) :
    ∃ e, content.expr? = some e := by
  cases content with
  | formula text e edges result => exact ⟨e, rfl⟩
  | value v => exact absurd rfl h
  | unparsed text => exact absurd rfl h
  | discarded => exact absurd rfl h

/-- Whether the content is a value that was written. -/
def isPlain : Content → Bool
  | .value _ => true
  | _ => false

/-- The content with another result of its formula. -/
def withResult (result : Result) : Content → Content
  | .formula text e edges _ => .formula text e edges result
  | content => content

@[simp] theorem expr?_withResult (result : Result) (content : Content) :
    (content.withResult result).expr? = content.expr? := by
  cases content <;> rfl

@[simp] theorem edges_withResult (result : Result) (content : Content) :
    (content.withResult result).edges = content.edges := by
  cases content <;> rfl

/-- The latest result is the one that counts. -/
@[simp] theorem withResult_withResult (earlier later : Result) (content : Content) :
    (content.withResult earlier).withResult later = content.withResult later := by
  cases content <;> rfl

/-- The content with other ranges that its formula reads. -/
def withEdges (edges : List Edge) : Content → Content
  | .formula text e _ result => .formula text e edges result
  | content => content

/-- Changes the formula and its text; the ranges it reads have to be found again. -/
def mapExpr (change : Expr → Expr) : Content → Content
  | .formula _ e _ result => .formula (change e).source (change e) [] result
  | content => content

end Content

/-! ## 2. Cells -/

/-- **A cell.**  The style that is seen may be one that formats impose.  Then the cell knows what it
looked like before the first of them came, and keeps knowing it when nothing is imposed any more. -/
structure Cell where
  content : Content := .value .empty
  /-- The style that is seen. -/
  style : Style := {}
  /-- The style without formats, once one of them has touched the cell. -/
  baseline : Option Style := none
  /-- The style that formats impose at present. -/
  imposed : Option Style := none
  /-- What is seen is the imposed style, else the baseline. -/
  seen : style = imposed.getD (baseline.getD style) := by rfl
  /-- Nothing is imposed without a baseline. -/
  based : imposed.isSome = true → baseline.isSome = true := by exact fun h => h

instance : Inhabited Cell := ⟨{}⟩

namespace Cell

/-- The value of the cell. -/
def value (c : Cell) : Value := c.content.shown

/-- **The style of its own:** the one that is seen without formats. -/
def own (c : Cell) : Style := c.baseline.getD c.style

/-- **Whether nothing would be lost without the cell.**  That a formula was given up is not worth
keeping a cell for. -/
def isBlank (c : Cell) : Bool :=
  c.value.isEmpty && c.content.formulaText?.isNone && c.style == {} && c.baseline.isNone

/-- Imposes a style.  What was seen before is captured once. -/
def impose (c : Cell) (style : Style) : Cell :=
  { c with
    baseline := some (c.baseline.getD c.style)
    style
    imposed := some style
    seen := rfl
    based := fun _ => rfl }

/-- Puts the baseline back and keeps it. -/
def restore (c : Cell) : Cell :=
  { c with
    style := c.baseline.getD c.style
    imposed := none
    seen := by cases c.baseline <;> rfl
    based := nofun }

/-- Puts the baseline back and forgets it. -/
def reset (c : Cell) : Cell := { c.restore with baseline := none, seen := rfl, based := nofun }

/-- The cell as if no format had ever touched it, unless that leaves it blank. -/
def reset? (c : Cell) : Option Cell := if c.reset.isBlank then none else some c.reset

/-- Chooses a style.  A captured baseline follows it; what is imposed stays to be seen. -/
def choose (c : Cell) (style : Style) : Cell :=
  { c with
    baseline := c.baseline.map fun _ => style
    style := if c.imposed.isNone then style else c.style
    seen := by
      have hseen := c.seen
      cases himposed : c.imposed with
      | none => cases c.baseline <;> rfl
      | some imposed => simpa [himposed] using hseen
    based := fun h => by simpa using c.based h }

@[simp] theorem content_default : (default : Cell).content = .value .empty := rfl

/-- **What is seen is the imposed style, else the own one.** -/
theorem style_eq (c : Cell) : c.style = c.imposed.getD c.own := c.seen

@[simp] theorem own_impose (c : Cell) (style : Style) : (c.impose style).own = c.own := rfl

@[simp] theorem own_restore (c : Cell) : c.restore.own = c.own := by
  cases h : c.baseline <;> simp [own, restore, h]

@[simp] theorem reset_reset (c : Cell) : c.reset.reset = c.reset := rfl

/-- What was forgotten cannot be forgotten again. -/
theorem bind_reset?_bind_reset? (c? : Option Cell) :
    (c?.bind reset?).bind reset? = c?.bind reset? := by
  cases c? with
  | none => rfl
  | some c =>
    by_cases hblank : c.reset.isBlank = true
    · simp [reset?, hblank]
    · simp [reset?, hblank]

/-- Nothing is imposed on a cell that no format has touched. -/
theorem imposed_eq_none {c : Cell} (h : c.baseline = none) : c.imposed = none := by
  rw [← Option.not_isSome_iff_eq_none] at h ⊢
  exact fun himposed => h (c.based himposed)

/-- **A chosen style is the own one from then on.** -/
@[simp] theorem own_choose (c : Cell) (style : Style) : (c.choose style).own = style := by
  cases hbaseline : c.baseline with
  | some baseline => simp [own, choose, hbaseline]
  | none => simp [own, choose, hbaseline, imposed_eq_none hbaseline]

end Cell

end Spreadsheet
