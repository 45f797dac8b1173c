/-
# Formulas follow the cells of a sheet that loses lines

* A reference *follows* the cells if it covers what it covered, at the places where that is now, and
  gives way to `#REF!` if nothing of it is left.
* Which references are to follow is decided by the name that is written, compared up to the case of
  ASCII letters; where a name leads is decided up to any case.  So a formula keeps reading the same
  cells exactly if it writes the name as the sheet does, up to the case of ASCII letters, or ends
  before the lines that are removed (`keepsReading_deleteLines_iff`).
* A formula is given up if it comes to read its own cell.  One that follows the cells does not, if
  nothing it mentions led beyond the edge of a sheet: there a mention of its own cell could hide.
-/
import Spreadsheet.Proofs.Freshness
import Spreadsheet.Proofs.FullRecalculation
import Spreadsheet.Proofs.Places
import Spreadsheet.Proofs.StoredText

namespace Spreadsheet

open Grid Formula Conditional

/-! ## 1. References that follow -/

/-- **What stands in place of a reference follows the cells:** it is `#REF!` and nothing that the
reference covered is left, or a reference to what is left. -/
inductive Follows (axis : Axis) (band : Span) (sheet : Option String) (target : Reference) :
    Expr → Prop
  | gone (hnone : ∀ s : Spot, target.range.covers (s.restored axis band) = false) :
      Follows axis band sheet target (.error .ref)
  | left (q : Reference) (hsome : ∃ s, q.range.covers s = true)
      (hcovers : ∀ s, q.range.covers s = target.range.covers (s.restored axis band)) :
      Follows axis band sheet target (.ref sheet q)

section References

variable {axis : Axis} {band : Span} {sheet : Option String} {target : Reference}

/-- **A reference from which the lines are taken follows the cells.** -/
theorem follows_without (h : target.Ordered) :
    Follows axis band sheet target (refOrError sheet (target.without? axis band)) := by
  obtain ⟨hrange, hordered⟩ := Reference.range_without? h axis band
  have hstarts := Reference.starts_range h
  cases hwithout : target.without? axis band with
  | none =>
    rw [hwithout] at hrange
    exact .gone ((Range.without?_eq_none_iff hstarts).mp hrange.symm)
  | some q =>
    rw [hwithout] at hrange
    have hq := Reference.starts_range (hordered q hwithout)
    exact .left q ⟨_, hq.covers_first⟩ (Range.covers_without? hstarts hrange.symm).2

/-- **A reference that stays as it is follows the cells exactly if it ends before the lines.** -/
theorem follows_self_iff (h : target.Ordered) :
    Follows axis band sheet target (.ref sheet target) ↔
      (target.range.along axis).last axis.words < band.first := by
  have hpos := band.count_pos
  have hstarts := Reference.starts_range h
  constructor
  · intro hfollows
    cases hfollows with | left _ _ hcovers =>
    -- Its last line is covered, so what has become of that line was covered before.
    have hlast : target.range.covers (target.range.first.withAlong axis
        ((target.range.along axis).last axis.words)) = true :=
      hstarts.covers_withAlong
        (Span.covers_iff.mpr ⟨Span.first_le_last (hstarts axis), Nat.le_refl _⟩)
    rw [hcovers, Range.covers_iff_along] at hlast
    have hline := hlast axis
    rw [Spot.restored, Spot.along_withAlong, Spot.along_withAlong, Span.covers_iff] at hline
    unfold Span.restored at hline
    split at hline <;> omega
  · intro hbefore
    refine .left target ⟨_, hstarts.covers_first⟩ fun s => ?_
    have hline : (target.range.along axis).covers axis.words (s.along axis) =
        (target.range.along axis).covers axis.words (band.restored (s.along axis)) := by
      rw [Bool.eq_iff_iff, Span.covers_iff, Span.covers_iff]
      unfold Span.restored
      split <;> omega
    rw [Spot.restored, ← Range.covers_withAlong hline]
    cases axis <;> rfl

end References

/-! ## 2. Where names lead after a removal -/

namespace Workbook

variable {wb wb' : Workbook} {lost : SheetId} {axis : Axis} {band : Span}

/-- **The sheet that the references of a formula lead to** that name it like this. -/
def addressed? (wb : Workbook) (home : SheetId) : Option String → Option SheetId
  | none => some home
  | some name => wb.sheetNamed? name

/-- Names lead to sheets by the names of the sheets. -/
theorem addressed?_of_sheetNames (h : wb'.sheetNames = wb.sheetNames) (home : SheetId)
    (sheet : Option String) : wb'.addressed? home sheet = wb.addressed? home sheet := by
  have hnamed (wb : Workbook) (name : String) : wb.sheetNamed? name =
      (wb.sheetNames.findIdx? fun other => Text.small other == Text.small name).map .mk := by
    rw [sheetNamed?, sheetNames, List.findIdx?_map]
    rfl
  cases sheet with
  | none => rfl
  | some name => rw [addressed?, addressed?, hnamed, hnamed, h]

/-- A reference resolves to its edge on the sheet that it leads to. -/
theorem resolves_ref_iff {home : Key} {sheet : Option String} {target : Reference} {edge : Edge}
    {s : Sheet} : wb.Resolves home (.ref sheet target) edge s ↔
      ∃ id, wb.addressed? home.sheet sheet = some id ∧ edge = target.edge id ∧
        wb.sheet? id = some s := by
  constructor
  · rintro ⟨hedge, hs⟩
    cases sheet with
    | none =>
      obtain rfl := Option.some.inj hedge
      exact ⟨home.sheet, rfl, rfl, hs⟩
    | some name =>
      obtain ⟨id, hid, rfl⟩ := Option.map_eq_some_iff.mp hedge
      exact ⟨id, hid, rfl, hs⟩
  · rintro ⟨id, hid, rfl, hs⟩
    refine ⟨?_, hs⟩
    cases sheet with
    | none =>
      obtain rfl := Option.some.inj hid
      rfl
    | some name => exact Option.map_eq_some_iff.mpr ⟨id, hid, rfl⟩

/-- **A name stands for what is left of its range** once lines were removed. -/
theorem namedRange?_removeBand (wb : Workbook) (lost : SheetId) (axis : Axis) (band : Span)
    (id : SheetId) (name : String) : (wb.removeBand lost axis band).namedRange? id name =
      if id = lost then (wb.namedRange? id name).bind (·.without? axis band)
      else wb.namedRange? id name := by
  have hnames (s : Sheet) : (s.without axis band).names =
      s.names.mapRanges fun range => range.without? axis band := by
    cases axis <;> rfl
  have hrange (t : NameTable) : (t.mapRanges fun range => range.without? axis band).range? name =
      (t.range? name).bind (·.without? axis band) := by
    rw [NameTable.range?, NameTable.find?, NameTable.mapRanges, Table.get?_filterMap,
      NameTable.range?, NameTable.find?]
    cases t.byKey.get? (Text.small name) with
    | none => rfl
    | some n => cases hwithout : n.range.without? axis band <;> simp [hwithout]
  rw [removeBand, namedRange?, sheet?_onSheet, sheet?_onSheets, namedRange?]
  by_cases hid : lost = id
  · rw [if_pos hid, if_pos hid.symm]
    cases wb.sheet? id with
    | none => rfl
    | some s =>
      simp only [Option.map_some, Option.bind_some, hnames]
      exact hrange s.names
  · rw [if_neg hid, if_neg (Ne.symm hid)]
    cases wb.sheet? id <;> rfl

/-! ## 3. Contents after a removal -/

/-- The lines that are removed where so many are asked for. -/
def removed? (wb : Workbook) (lost : SheetId) (axis : Axis) (first count : Nat) : Option Span :=
  (wb.sheet? lost).bind fun s =>
    let count := min count (s.extent axis - first)
    if h : 0 < count then some ⟨first, count, h⟩ else none

/-- **A formula that survives a removal stands where its cell is now,** and its references were
changed. -/
theorem content_removeBand {s : Sheet} (hs : wb.sheet? lost = some s)
    (hband : band.first + band.count ≤ s.extent axis) {key : Key}
    (hon : wb.Has (key.restored lost axis band)) :
    (wb.removeBand lost axis band).content key =
      (wb.content (key.restored lost axis band)).mapExpr
        (·.without (pointsAt (key.sheet == lost) (wb.sheetName lost)) axis band.first
          band.count) := by
  have hfollow := wb.content_followSheets lost (wb.sheetName lost) axis band
  rw [removeBand, content, cell_eq_elim, sheet?_onSheet]
  by_cases hkey : key.sheet = lost
  · obtain ⟨s', hs', hcheck⟩ := hon
    rw [restored_of_eq hkey] at hs' hcheck ⊢
    obtain rfl : s = s' := Option.some.inj (hs.symm.trans (hkey ▸ hs'))
    have hcontent := hfollow ⟨key.sheet, key.spot.restored axis band⟩
    rw [content, cell_eq_elim, sheet?_onSheets] at hcontent
    rw [if_pos hkey.symm, sheet?_onSheets, ← hcontent]
    simp only [hkey, hs, Option.map_some, Option.elim_some, Sheet.cell]
    rw [Sheet.cell?_without]
    · exact hband
    · exact hcheck
  · rw [if_neg (Ne.symm hkey), restored_of_ne hkey, ← hfollow key, content, cell_eq_elim]

/-- **What removing lines leaves behind:** the workbook as it was if there are none to remove, or
everything found again and recalculated once they are gone. -/
theorem workbook_deleteLines {first count : Nat}
    (hok : (wb.deleteLines lost axis first count).answer = .ok ()) :
    (wb.removed? lost axis first count = none → (wb.deleteLines lost axis first count).workbook = wb) ∧
      ∀ band, wb.removed? lost axis first count = some band → ∃ s, wb.sheet? lost = some s ∧
        band.first + band.count ≤ s.extent axis ∧
        (wb.deleteLines lost axis first count).workbook =
          (wb.removeBand lost axis band).rebuild.calculate.workbook := by
  unfold deleteLines at hok ⊢
  obtain ⟨s, hsheet⟩ := exists_of_guard hok
  rw [hsheet, Reply.guard_ok] at hok ⊢
  obtain ⟨u, hcheck⟩ := exists_of_guard hok
  rw [hcheck, Reply.guard_ok]
  have hfirst := Sheet.check_eq_ok_iff_along.mp hcheck axis
  rw [Spot.along_withAlong] at hfirst
  rw [removed?, sheet_eq_ok hsheet, Option.bind_some]
  dsimp only
  split
  · constructor
    · intro hnone
      cases hnone
    · intro band hband
      obtain rfl := Option.some.inj hband
      refine ⟨s, rfl, ?_, rfl⟩
      dsimp only
      omega
  · constructor
    · intro _
      rfl
    · intro band hband
      cases hband

/-- A formula is still there after the edges were found again, unless it reads its own cell. -/
theorem expr?_rebuild {key : Key} {e : Expr} : (wb.rebuild.content key).expr? = some e ↔
    (wb.content key).expr? = some e ∧
      ∀ name spot, wb.edges key true e ≠ .error (.ownCell name spot) := by
  rw [content_rebuild]
  unfold rebuiltContent
  cases hcontent : wb.content key with
  | formula text e' edges result =>
    simp only [Content.expr?]
    cases hedges : wb.edges key true e' with
    | ok edges' =>
      simp only [Content.withEdges, Option.some.injEq]
      constructor
      · rintro rfl
        exact ⟨rfl, by simp [hedges]⟩
      · exact And.left
    | error fault =>
      cases fault with
      | ownCell name spot =>
        simp only [Option.some.injEq, reduceCtorEq, false_iff, not_and]
        rintro rfl hnot
        exact hnot name spot hedges
      | beyondSheet name range =>
        simp only [Content.withEdges, Option.some.injEq]
        constructor
        · rintro rfl
          exact ⟨rfl, by simp [hedges]⟩
        · exact And.left
  | value v => simp [Content.expr?]
  | unparsed text => simp [Content.expr?]
  | discarded => simp [Content.expr?]

theorem sameFormulas_calculate (wb : Workbook) : SameFormulas wb wb.calculate.workbook :=
  (sameFormulas_recalculateEach wb.turns wb).trans (sameFormulas_applyFormats _ _)

/-! ## 4. Formulas that keep reading the same cells -/

/-- **What a removal puts in place of a reference.** -/
def following (wb : Workbook) (lost : SheetId) (axis : Axis) (band : Span) (home : SheetId)
    (sheet : Option String) (target : Reference) : Expr :=
  if pointsAt (home == lost) (wb.sheetName lost) sheet then
    refOrError sheet (target.without? axis band)
  else .ref sheet target

/-- **A formula keeps reading the cells that it read:** it is still there, its references to the
sheet that lost lines follow the cells, and its other references stay as they are. -/
def KeepsReading (wb wb' : Workbook) (lost : SheetId) (axis : Axis) (band : Span) (key : Key)
    (e : Expr) : Prop :=
  ∃ change : Option String → Reference → Expr,
    (wb'.content key).expr? = some (e.mapRefs change) ∧
    ∀ sheet target, e.Mentions (.ref sheet target) →
      if wb.addressed? key.sheet sheet = some lost then
        Follows axis band sheet target (change sheet target)
      else change sheet target = .ref sheet target

/-- **A formula that writes the name of a sheet as the sheet does,** up to the case of ASCII letters,
wherever it refers to lines of the sheet that are not in front of the band. -/
def WritesName (wb : Workbook) (lost : SheetId) (axis : Axis) (band : Span) (home : SheetId)
    (e : Expr) : Prop :=
  ∀ sheet target, e.Mentions (.ref sheet target) → wb.addressed? home sheet = some lost →
    (∀ name, sheet = some name → Text.sameLetters name (wb.sheetName lost) = true) ∨
      (target.range.along axis).last axis.words < band.first

/-- References that are to follow lead to the sheet. -/
theorem Reachable.addressed?_of_pointsAt (h : wb.Reachable) {s : Sheet}
    (hs : wb.sheet? lost = some s) {home : SheetId} {sheet : Option String}
    (hpoints : pointsAt (home == lost) (wb.sheetName lost) sheet = true) :
    wb.addressed? home sheet = some lost := by
  have hname : wb.sheetName lost = s.name := by rw [sheetName, hs]; rfl
  cases sheet with
  | none => exact congrArg some (beq_iff_eq.mp hpoints)
  | some name =>
    rw [hname] at hpoints
    exact h.sheetNamed?_of_sameLetters hs hpoints

/-- **What a removal puts in place of a reference to the sheet follows the cells** exactly if the
name is written as that of the sheet or the reference ends before the lines. -/
theorem follows_following_iff {home : SheetId} {sheet : Option String} {target : Reference}
    (h : target.Ordered) (haddressed : wb.addressed? home sheet = some lost) :
    Follows axis band sheet target (wb.following lost axis band home sheet target) ↔
      (∀ name, sheet = some name → Text.sameLetters name (wb.sheetName lost) = true) ∨
        (target.range.along axis).last axis.words < band.first := by
  have hpoints : pointsAt (home == lost) (wb.sheetName lost) sheet = true ↔
      ∀ name, sheet = some name → Text.sameLetters name (wb.sheetName lost) = true := by
    cases sheet with
    | none =>
      obtain rfl := Option.some.inj haddressed
      simp [pointsAt]
    | some name => simp [pointsAt, Text.sameLetters]
  rw [← hpoints, following]
  split
  · rename_i hfollows
    simp only [hfollows, true_or, iff_true]
    exact follows_without h
  · rename_i hstays
    rw [or_iff_right hstays]
    exact follows_self_iff h

theorem canonical_of_mem {e : Expr} : ∀ {args : List Expr}, CanonicalAll args → e ∈ args →
    e.Canonical
  | _ :: _, h, he => by
    rcases List.mem_cons.mp he with rfl | he
    · exact h.1
    · exact canonical_of_mem h.2 he

/-- The references of a canonical formula are proper. -/
theorem proper_of_mentions {e : Expr} {m : Mention} (hm : e.Mentions m) (h : e.Canonical) :
    ∀ sheet target, m = .ref sheet target → target.Proper := by
  induction hm with
  | ref sheet target =>
    rintro sheet' target' ⟨rfl, rfl⟩
    exact h
  | name name => exact nofun
  | left right _ ih => exact ih h.1
  | right left _ ih => exact ih h.2.2.1
  | negate _ ih => exact ih h.1
  | percent _ ih => exact ih h.1
  | group _ ih => exact ih h
  | argument called he _ ih => exact ih (canonical_of_mem h.2 he)

/-- The references of a formula of a workbook there can be are ordered. -/
theorem Reachable.ordered_of_mentions (h : wb.Reachable) {key : Key} {e : Expr}
    (he : (wb.content key).expr? = some e) {sheet : Option String} {target : Reference}
    (hm : e.Mentions (.ref sheet target)) : target.Ordered := by
  obtain ⟨text, edges, result, hcontent⟩ := Content.eq_formula_of_expr? he
  have hcanonical := (h.spelled key text e edges result hcontent).1
  exact (proper_of_mentions hm hcanonical sheet target rfl).ordered

/-- No sheet comes into being by a removal. -/
theorem exists_sheet?_of_removeBand {id : SheetId} {s : Sheet}
    (h : (wb.removeBand lost axis band).sheet? id = some s) : ∃ s', wb.sheet? id = some s' := by
  rw [removeBand, sheet?_onSheet, sheet?_onSheets] at h
  cases hs : wb.sheet? id with
  | none =>
    rw [hs] at h
    split at h <;> cases h
  | some s' => exact ⟨s', rfl⟩

/-- A name covers the cell of a formula after the removal only if it did before. -/
theorem exists_covering_name {key : Key} {name : String}
    (hsame : ∀ edge s, wb.Resolves (key.restored lost axis band) (.name name) edge s →
      s.holds edge.target.range = true)
    {edge' : Edge} {s' : Sheet}
    (hres : (wb.removeBand lost axis band).Resolves key (.name name) edge' s')
    (hcovers : edge'.target.covers key = true) :
    ∃ edge s, wb.Resolves (key.restored lost axis band) (.name name) edge s ∧
      edge.target.covers (key.restored lost axis band) = true := by
  obtain ⟨range', hrange', rfl⟩ := Option.map_eq_some_iff.mp hres.edge_eq
  obtain ⟨t, ht⟩ := exists_sheet?_of_removeBand hres.sheet_eq
  simp only [Target.covers, Bool.and_eq_true, beq_iff_eq, true_and] at hcovers
  rw [namedRange?_removeBand] at hrange'
  have hresolves {range : Range} (hrange : wb.namedRange? key.sheet name = some range) :
      wb.Resolves (key.restored lost axis band) (.name name)
        ⟨⟨key.sheet, range⟩, .fixedAt range.first⟩ t := by
    refine ⟨?_, ht⟩
    rw [edge?, sheet_restored, hrange]
    rfl
  by_cases hkey : key.sheet = lost
  · rw [if_pos hkey] at hrange'
    obtain ⟨range, hrange, hwithout⟩ := Option.bind_eq_some_iff.mp hrange'
    refine ⟨_, t, hresolves hrange, ?_⟩
    have hstarts := Sheet.starts_of_holds (hsame _ t (hresolves hrange))
    rw [(Range.covers_without? hstarts hwithout).2] at hcovers
    simpa [Target.covers, restored_of_eq hkey] using hcovers
  · rw [if_neg hkey] at hrange'
    refine ⟨_, t, hresolves hrange', ?_⟩
    simpa [Target.covers, restored_of_ne hkey] using hcovers

/-- A reference that stands for one that leads to the sheet, and follows the cells, covers the cell
of a formula only if that one covered it. -/
theorem exists_covering_followed {s : Sheet} (hs : wb.sheet? lost = some s) {key : Key}
    {sheet : Option String} {target q : Reference}
    (haddressed : wb.addressed? key.sheet sheet = some lost)
    (hq : ∀ spot, q.range.covers spot = target.range.covers (spot.restored axis band))
    {edge' : Edge} {s' : Sheet}
    (hres : (wb.removeBand lost axis band).Resolves key (.ref sheet q) edge' s')
    (hcovers : edge'.target.covers key = true) :
    ∃ edge s, wb.Resolves (key.restored lost axis band) (.ref sheet target) edge s ∧
      edge.target.covers (key.restored lost axis band) = true := by
  refine ⟨target.edge lost, s, resolves_ref_iff.mpr ⟨lost, ?_, rfl, hs⟩, ?_⟩
  · rw [sheet_restored]
    exact haddressed
  · obtain ⟨id, hid, rfl, -⟩ := resolves_ref_iff.mp hres
    obtain rfl : lost = id := by
      rw [addressed?_of_sheetNames (wb.sheetNames_removeBand lost axis band), haddressed] at hid
      exact Option.some.inj hid
    simp only [Reference.edge, Target.covers, Bool.and_eq_true, beq_iff_eq] at hcovers ⊢
    rw [restored_of_eq hcovers.1.symm, ← hq]
    exact hcovers

/-- A reference that leads elsewhere and stays as it is covers the same cells as before. -/
theorem exists_covering_elsewhere {key : Key} {sheet : Option String} {target : Reference}
    (haddressed : wb.addressed? key.sheet sheet ≠ some lost) {edge' : Edge} {s' : Sheet}
    (hres : (wb.removeBand lost axis band).Resolves key (.ref sheet target) edge' s')
    (hcovers : edge'.target.covers key = true) :
    ∃ edge s, wb.Resolves (key.restored lost axis band) (.ref sheet target) edge s ∧
      edge.target.covers (key.restored lost axis band) = true := by
  obtain ⟨id, hid, rfl, ht⟩ := resolves_ref_iff.mp hres
  obtain ⟨t, ht⟩ := exists_sheet?_of_removeBand ht
  rw [addressed?_of_sheetNames (wb.sheetNames_removeBand lost axis band)] at hid
  refine ⟨target.edge id, t, resolves_ref_iff.mpr ⟨id, ?_, rfl, ht⟩, ?_⟩
  · rw [sheet_restored]
    exact hid
  · have hkey : key.sheet ≠ lost := by
      simp only [Reference.edge, Target.covers, Bool.and_eq_true, beq_iff_eq] at hcovers
      rw [← hcovers.1]
      rintro rfl
      exact haddressed hid
    rw [restored_of_ne hkey]
    exact hcovers

/-- **What a formula mentions covers its cell after the removal only if it did before,** provided
that its references follow the cells and nothing it mentions led beyond the edge of a sheet. -/
theorem Reachable.exists_covering (h : wb.Reachable) {s : Sheet} (hs : wb.sheet? lost = some s)
    {key : Key} {e : Expr} (he : (wb.content (key.restored lost axis band)).expr? = some e)
    (hwrites : wb.WritesName lost axis band key.sheet e)
    (hstay : ¬ wb.Strays (key.restored lost axis band) e) {m m' : Mention × Bool}
    (hm : m ∈ e.mentions true) (hm' : m' ∈ replaced (wb.following lost axis band key.sheet) m)
    {edge' : Edge} {s' : Sheet}
    (hres : (wb.removeBand lost axis band).Resolves key m'.1 edge' s')
    (hcovers : edge'.target.covers key = true) :
    m'.2 = m.2 ∧ ∃ edge s, wb.Resolves (key.restored lost axis band) m.1 edge s ∧
      edge.target.covers (key.restored lost axis band) = true := by
  have hmentions := mentions_of_mem hm
  obtain ⟨mention, checked⟩ := m
  cases mention with
  | name name =>
    obtain rfl := List.mem_singleton.mp hm'
    refine ⟨rfl, exists_covering_name (fun edge s hres => ?_) hres hcovers⟩
    by_contra hbeyond
    exact hstay ⟨.name name, edge, s, hmentions, hres, by simpa using hbeyond⟩
  | ref sheet target =>
    rw [replaced] at hm'
    by_cases haddressed : wb.addressed? key.sheet sheet = some lost
    · have hfollows := (follows_following_iff (h.ordered_of_mentions he hmentions) haddressed).mpr
        (hwrites sheet target hmentions haddressed)
      generalize wb.following lost axis band key.sheet sheet target = after at hfollows hm'
      cases hfollows with
      | gone => cases hm'
      | left q _ hq =>
        obtain rfl := List.mem_singleton.mp hm'
        exact ⟨rfl, exists_covering_followed hs haddressed hq hres hcovers⟩
    · have hstays : wb.following lost axis band key.sheet sheet target = .ref sheet target :=
        if_neg fun hpoints => haddressed (h.addressed?_of_pointsAt hs hpoints)
      rw [hstays] at hm'
      obtain rfl := List.mem_singleton.mp hm'
      exact ⟨rfl, exists_covering_elsewhere haddressed hres hcovers⟩

/-! ## 5. The theorem -/

/-- The formula as it is changed by a removal. -/
theorem without_eq_mapRefs (wb : Workbook) (lost : SheetId) (axis : Axis) (band : Span)
    (home : SheetId) (e : Expr) :
    e.without (pointsAt (home == lost) (wb.sheetName lost)) axis band.first band.count =
      e.mapRefs (wb.following lost axis band home) := by
  rw [Expr.without, dif_pos band.count_pos]
  rfl

/-- **When formulas keep reading the same cells.**  However many lines are removed from a sheet, a
formula that survives, on whatever sheet, keeps reading the cells it read exactly if it writes the
name of the sheet as the sheet does, up to the case of ASCII letters, wherever it refers to lines
that are not in front of the removed ones, and is not given up.  It is not given up if nothing it
mentioned led beyond the edge of a sheet.  Names lead to the sheets to which they led. -/
theorem keepsReading_deleteLines_iff (h : wb.Reachable) {first count : Nat}
    (hok : (wb.deleteLines lost axis first count).answer = .ok ()) :
    (wb.removed? lost axis first count = none →
      (wb.deleteLines lost axis first count).workbook = wb) ∧
    ∀ band, wb.removed? lost axis first count = some band →
      ∀ key e, (wb.content (key.restored lost axis band)).expr? = some e →
        let after := (wb.deleteLines lost axis first count).workbook
        (∀ sheet, after.addressed? key.sheet sheet = wb.addressed? key.sheet sheet) ∧
        (wb.KeepsReading after lost axis band key e ↔
          wb.WritesName lost axis band key.sheet e ∧ (after.content key).expr?.isSome = true) ∧
        (wb.WritesName lost axis band key.sheet e →
          ¬ wb.Strays (key.restored lost axis band) e →
            (after.content key).expr?.isSome = true) := by
  obtain ⟨hnone, hsome⟩ := workbook_deleteLines hok
  refine ⟨hnone, fun band hband key e he => ?_⟩
  obtain ⟨s, hs, hend, hafter⟩ := hsome band hband
  rw [hafter]
  have hsame := sameFormulas_calculate (wb.removeBand lost axis band).rebuild
  have hmoved : ((wb.removeBand lost axis band).content key).expr? =
      some (e.mapRefs (wb.following lost axis band key.sheet)) := by
    rw [content_removeBand hs hend (h.placed _ e he), ← without_eq_mapRefs]
    obtain ⟨text, edges, result, hcontent⟩ := Content.eq_formula_of_expr? he
    rw [hcontent]
    rfl
  -- What is there in the end is the changed formula, if it is still there at all.
  have hexpr (x : Expr) : ((wb.removeBand lost axis band).rebuild.calculate.workbook.content
      key).expr? = some x ↔ x = e.mapRefs (wb.following lost axis band key.sheet) ∧
        ∀ name spot, (wb.removeBand lost axis band).edges key true x ≠
          .error (.ownCell name spot) := by
    rw [hsame.expr_eq, expr?_rebuild, hmoved, Option.some.injEq]
    exact and_congr_left' eq_comm
  refine ⟨fun sheet => ?_, ⟨?_, ?_⟩, ?_⟩
  · refine addressed?_of_sheetNames ?_ key.sheet sheet
    rw [sheetNames_of_layout hsame.layout_eq, sheetNames_rebuild, sheetNames_removeBand]
  · rintro ⟨change, hchange, hmentions⟩
    refine ⟨fun sheet target hm haddressed => ?_, by rw [hchange]; rfl⟩
    rw [← follows_following_iff (h.ordered_of_mentions he hm) haddressed,
      ← eq_of_mapRefs_eq hm ((hexpr _).mp hchange).1 sheet target rfl]
    have := hmentions sheet target hm
    rwa [if_pos haddressed] at this
  · rintro ⟨hwrites, hthere⟩
    obtain ⟨x, hx⟩ := Option.isSome_iff_exists.mp hthere
    refine ⟨_, ((hexpr x).mp hx).1 ▸ hx, fun sheet target hm => ?_⟩
    split
    · rename_i haddressed
      exact (follows_following_iff (h.ordered_of_mentions he hm) haddressed).mpr
        (hwrites sheet target hm haddressed)
    · rename_i haddressed
      exact if_neg fun hpoints => haddressed (h.addressed?_of_pointsAt hs hpoints)
  · intro hwrites hstay
    refine Option.isSome_iff_exists.mpr ⟨_, (hexpr _).mpr ⟨rfl, fun name spot hbad => ?_⟩⟩
    obtain ⟨m', hm', hchecked, edge', s', hres', hcovers⟩ := covers_of_edges_eq_error hbad
    rw [mentions_mapRefs] at hm'
    obtain ⟨m, hm, hreplaced⟩ := List.mem_flatMap.mp hm'
    obtain ⟨hsameCheck, edge, t, hres, hcovered⟩ :=
      h.exists_covering hs he hwrites hstay hm hreplaced hres' hcovers
    -- Then the formula read its own cell before, and its edges would have been refused.
    rcases h.tracked.edges_cases he with hedges | ⟨-, name, range, hbeyond⟩
    · have hnot := not_covers_of_mention hedges hm (hsameCheck ▸ hchecked) hres
      rw [hcovered] at hnot
      cases hnot
    · exact hstay (strays_of_edges_eq_error hbeyond)

/-- A formula on another sheet that writes the name in small letters: its range loses two of the
lines that it covers. -/
theorem keepsReading_deleteLines_within :
    let wb := ((Session.start {}).run [.addSheetSized "Data" 9 3,
      .setFormula ⟨⟨0⟩, ⟨0, 0⟩⟩ "=SUM(data!A2:A6)"]).workbook
    let after := (wb.deleteLines ⟨1⟩ .rows 2 2).workbook
    wb.Reachable ∧ (wb.deleteLines ⟨1⟩ .rows 2 2).answer = .ok () ∧
      ∃ e, (wb.content ⟨⟨0⟩, ⟨0, 0⟩⟩).expr? = some e ∧
        wb.KeepsReading after ⟨1⟩ .rows ⟨2, 2, by decide⟩ ⟨⟨0⟩, ⟨0, 0⟩⟩ e ∧
        (after.content ⟨⟨0⟩, ⟨0, 0⟩⟩).expr?.map (·.mentions true) =
          some [(.ref (some "data") (.area (.ofSpot ⟨1, 0⟩) (.ofSpot ⟨3, 0⟩)), true)] := by
  intro wb after
  have hreach : wb.Reachable := ⟨_, _, rfl⟩
  -- one conjunction, so that the kernel builds the two workbooks once
  obtain ⟨hok, hband, hmentions, hafter, hnamed, hname, hsheet⟩ :
      (wb.deleteLines ⟨1⟩ .rows 2 2).answer.isOk = true ∧
      wb.removed? ⟨1⟩ .rows 2 2 = some ⟨2, 2, by decide⟩ ∧
      (wb.content ⟨⟨0⟩, ⟨0, 0⟩⟩).expr?.map (·.mentions true) =
        some [(.ref (some "data") (.area (.ofSpot ⟨1, 0⟩) (.ofSpot ⟨5, 0⟩)), true)] ∧
      (after.content ⟨⟨0⟩, ⟨0, 0⟩⟩).expr?.map (·.mentions true) =
        some [(.ref (some "data") (.area (.ofSpot ⟨1, 0⟩) (.ofSpot ⟨3, 0⟩)), true)] ∧
      wb.sheetNamed? "data" = some ⟨1⟩ ∧ Text.sameLetters "data" (wb.sheetName ⟨1⟩) = true ∧
      (wb.sheet? ⟨1⟩).map (fun s => (s.rows, s.cols)) = some (9, 3) := by
    decide +kernel
  replace hok := eq_ok_of_isOk hok
  obtain ⟨e, he, hfound⟩ := Option.map_eq_some_iff.mp hmentions
  obtain ⟨s, hs, hextents⟩ := Option.map_eq_some_iff.mp hsheet
  obtain ⟨hrows, hcols⟩ : s.rows = 9 ∧ s.cols = 3 := by simpa using hextents
  have honly {m : Mention} (hm : e.Mentions m) :
      m = .ref (some "data") (.area (.ofSpot ⟨1, 0⟩) (.ofSpot ⟨5, 0⟩)) := by
    obtain ⟨c, hmem⟩ := exists_mem_mentions hm true
    rw [hfound, List.mem_singleton] at hmem
    exact (Prod.mk.inj hmem).1
  have hwrites : wb.WritesName ⟨1⟩ .rows ⟨2, 2, by decide⟩ ⟨0⟩ e := by
    intro sheet target hm _
    obtain ⟨rfl, rfl⟩ := Mention.ref.inj (honly hm)
    exact .inl fun name hsome => Option.some.inj hsome ▸ hname
  have hstay : ¬ wb.Strays ⟨⟨0⟩, ⟨0, 0⟩⟩ e := by
    rintro ⟨m, edge, s', hm, ⟨hedge, hs'⟩, hbeyond⟩
    rw [honly hm, edge?, hnamed] at hedge
    obtain rfl := Option.some.inj hedge
    obtain rfl : s = s' := Option.some.inj (hs.symm.trans hs')
    rw [Sheet.holds, hrows, hcols] at hbeyond
    revert hbeyond
    decide
  obtain ⟨-, hiff, hthere⟩ := (keepsReading_deleteLines_iff hreach hok).2 _ hband
    ⟨⟨0⟩, ⟨0, 0⟩⟩ e he
  exact ⟨hreach, hok, e, he, hiff.mpr ⟨hwrites, hthere hwrites hstay⟩, hafter⟩

/-- **A formula that writes the name in another case of a letter outside ASCII is left behind.**  It
reads `A3`, two lines behind the one that is removed, and still reads `A3` afterwards. -/
theorem reader_left_behind_by_deleteLines :
    let wb := ((Session.start {}).run [.addSheetSized "Ä" 9 3,
      .setFormula ⟨⟨0⟩, ⟨0, 0⟩⟩ "='ä'!A3"]).workbook
    let after := (wb.deleteLines ⟨1⟩ .rows 0 1).workbook
    wb.Reachable ∧ (wb.deleteLines ⟨1⟩ .rows 0 1).answer = .ok () ∧
      wb.removed? ⟨1⟩ .rows 0 1 = some ⟨0, 1, by decide⟩ ∧
      ∃ e, (wb.content ⟨⟨0⟩, ⟨0, 0⟩⟩).expr? = some e ∧ wb.sheetNamed? "ä" = some ⟨1⟩ ∧
        (after.content ⟨⟨0⟩, ⟨0, 0⟩⟩).expr?.isSome = true ∧
        ¬ wb.KeepsReading after ⟨1⟩ .rows ⟨0, 1, by decide⟩ ⟨⟨0⟩, ⟨0, 0⟩⟩ e := by
  intro wb after
  obtain ⟨hok, hband, hmentions, hafter, hnamed⟩ :
      (wb.deleteLines ⟨1⟩ .rows 0 1).answer.isOk = true ∧
      wb.removed? ⟨1⟩ .rows 0 1 = some ⟨0, 1, by decide⟩ ∧
      (wb.content ⟨⟨0⟩, ⟨0, 0⟩⟩).expr?.map (·.mentions true) =
        some [(.ref (some "ä") (.cell (.ofSpot ⟨2, 0⟩)), true)] ∧
      (after.content ⟨⟨0⟩, ⟨0, 0⟩⟩).expr?.map (·.mentions true) =
        some [(.ref (some "ä") (.cell (.ofSpot ⟨2, 0⟩)), true)] ∧
      wb.sheetNamed? "ä" = some ⟨1⟩ := by
    decide +kernel
  obtain ⟨e, he, hfound⟩ := Option.map_eq_some_iff.mp hmentions
  obtain ⟨x, hx, hleft⟩ := Option.map_eq_some_iff.mp hafter
  refine ⟨⟨_, _, rfl⟩, eq_ok_of_isOk hok, hband, e, he, hnamed, by rw [hx]; rfl, ?_⟩
  rintro ⟨change, hchange, hfollows⟩
  have hm : e.Mentions (.ref (some "ä") (.cell (.ofSpot ⟨2, 0⟩))) := by
    have hmem : (.ref (some "ä") (.cell (.ofSpot ⟨2, 0⟩)), true) ∈ e.mentions true := by
      rw [hfound]
      exact List.mem_singleton_self _
    exact mentions_of_mem hmem
  obtain rfl : x = e.mapRefs change := Option.some.inj (hx.symm.trans hchange)
  rw [mentions_mapRefs, hfound, List.flatMap_singleton, replaced] at hleft
  have hreference := hfollows _ _ hm
  rw [if_pos (by exact hnamed)] at hreference
  generalize change (some "ä") (.cell (.ofSpot ⟨2, 0⟩)) = after at hreference hleft
  cases hreference with
  | gone => cases hleft
  | left q _ hcovers =>
    obtain rfl : q = .cell (.ofSpot ⟨2, 0⟩) := by simpa [Expr.mentions] using hleft
    have := hcovers ⟨2, 0⟩
    revert this
    decide

/-- A formula that strays can be given up though it follows the cells: where the mention that led
beyond the edge of a sheet is removed, a name for the formula's own cell comes into view. -/
theorem given_up_by_deleteLines :
    let wb := ((Session.start {}).run [.setFormula ⟨⟨0⟩, ⟨0, 0⟩⟩ "=Data!E2+own",
      .addSheetSized "Data" 9 3, .defineName ⟨0⟩ "own" (.single ⟨0, 0⟩)]).workbook
    let after := (wb.deleteLines ⟨1⟩ .rows 1 1).workbook
    wb.Reachable ∧ (wb.deleteLines ⟨1⟩ .rows 1 1).answer = .ok () ∧
      (wb.content ⟨⟨0⟩, ⟨0, 0⟩⟩).expr?.isSome = true ∧
      (after.content ⟨⟨0⟩, ⟨0, 0⟩⟩).expr?.isSome = false := by
  intro wb after
  obtain ⟨hok, hbefore, hafter⟩ : (wb.deleteLines ⟨1⟩ .rows 1 1).answer.isOk = true ∧
      (wb.content ⟨⟨0⟩, ⟨0, 0⟩⟩).expr?.isSome = true ∧
      (after.content ⟨⟨0⟩, ⟨0, 0⟩⟩).expr?.isSome = false := by
    decide +kernel
  exact ⟨⟨_, _, rfl⟩, eq_ok_of_isOk hok, hbefore, hafter⟩

end Workbook

end Spreadsheet
