/-
# Copies of copies

* Each coordinate moves on its own, and a second move goes on where the first one ended
  (`Grid.Coordinate.move?_move?`).  But the corners of a rectangle are put in order after each move.
  Where a fixed end and a relative one pass each other they change places, once or twice.
* The order in the end is that of the places in the end, so the way there is not seen from it, except
  where two ends coincide: then they stand as the last move left them (`SameEnds`).
* So a copy of a copy is the copy over the sum of the ways, up to the order of ends that coincide, and
  what is copied to and fro is what it was (`moved_moved`).  That a copy which does not move is not
  looked at makes no difference, since what is read lies on the grid (`moved_eq_mapRefs`).
-/
import Spreadsheet.Proofs.Following
import Spreadsheet.Proofs.Triggers

namespace Spreadsheet

open Grid Formula

/-! ## 1. Coordinates and positions -/

theorem shiftAlong_zero (axis : Axis) : shiftAlong 0 0 axis = 0 := by
  cases axis <;> rfl

theorem shiftAlong_neg (rows columns : Int) (axis : Axis) :
    shiftAlong (-rows) (-columns) axis = -shiftAlong rows columns axis := by
  cases axis <;> rfl

theorem shiftAlong_add (rows columns rows' columns' : Int) (axis : Axis) :
    shiftAlong (rows + rows') (columns + columns') axis =
      shiftAlong rows columns axis + shiftAlong rows' columns' axis := by
  cases axis <;> rfl

section Coordinates

variable {c new : Coordinate} {limit : Nat} {delta delta' : Int}

theorem Grid.Coordinate.move?_eq_some_iff :
    c.move? limit delta = some new ↔ new.fixed = c.fixed ∧ new.index < limit ∧
      (new.index : Int) = c.index + if c.fixed then 0 else delta := by
  constructor
  · intro h
    have hindex := of_move? h
    simp only [move?, Option.ite_none_right_eq_some, Option.some.injEq] at h
    obtain ⟨⟨hnonneg, hlt⟩, rfl⟩ := h
    refine ⟨rfl, ?_, hindex⟩
    have hnat := Int.toNat_of_nonneg hnonneg
    dsimp only
    omega
  · rintro ⟨hfixed, hlt, hindex⟩
    have hmoved : (if c.fixed then (c.index : Int) else c.index + delta) = new.index := by
      rw [hindex]
      split <;> omega
    simp only [move?, hmoved, Option.ite_none_right_eq_some, Option.some.injEq, Int.toNat_natCast]
    refine ⟨by omega, ?_⟩
    cases new
    cases hfixed
    rfl

theorem Grid.Coordinate.move?_move? {last : Coordinate} (h : c.move? limit delta = some new)
    (h' : new.move? limit delta' = some last) : c.move? limit (delta + delta') = some last := by
  rw [move?_eq_some_iff] at h h' ⊢
  obtain ⟨hfixed, -, hindex⟩ := h
  obtain ⟨hfixed', hlt, hindex'⟩ := h'
  refine ⟨hfixed'.trans hfixed, hlt, ?_⟩
  rw [hindex', hindex, hfixed]
  split <;> omega

/-- A coordinate on the grid moves to itself if it does not move. -/
theorem Grid.Coordinate.move?_zero (hc : c.index < limit) : c.move? limit 0 = some c := by
  rw [move?_eq_some_iff]
  refine ⟨rfl, hc, ?_⟩
  split <;> omega

/-- The way back does not leave the grid. -/
theorem Grid.Coordinate.move?_neg (hc : c.index < limit) (h : c.move? limit delta = some new) :
    new.move? limit (-delta) = some c := by
  rw [move?_eq_some_iff] at h ⊢
  obtain ⟨hfixed, -, hindex⟩ := h
  refine ⟨hfixed.symm, hc, ?_⟩
  rw [hindex, hfixed]
  split <;> omega

theorem Grid.Position.move?_eq_some_iff {p q : Position} {rows columns : Int} :
    p.move? rows columns = some q ↔ ∀ axis,
      (p.along axis).move? axis.limit (shiftAlong rows columns axis) = some (q.along axis) := by
  constructor
  · intro h
    unfold move? at h
    split at h
    · rename_i row col hrow hcol
      obtain rfl := Option.some.inj h
      intro axis
      cases axis with
      | rows => exact hrow
      | columns => exact hcol
    · cases h
  · intro h
    have hrow : p.row.move? maxRows rows = some q.row := h .rows
    have hcol : p.col.move? maxColumns columns = some q.col := h .columns
    rw [move?, hrow, hcol]

/-- Two positions from their coordinates on each axis. -/
theorem exists_positions {P : Axis → Coordinate → Coordinate → Prop} (h : ∀ axis, ∃ c d, P axis c d) :
    ∃ p q : Position, ∀ axis, P axis (p.along axis) (q.along axis) := by
  obtain ⟨prow, qrow, hrow⟩ := h .rows
  obtain ⟨pcol, qcol, hcol⟩ := h .columns
  refine ⟨⟨prow, pcol⟩, ⟨qrow, qcol⟩, fun axis => ?_⟩
  cases axis with
  | rows => exact hrow
  | columns => exact hcol

theorem along_lt_limit {p : Position} (hp : p.OnGrid) (axis : Axis) :
    (p.along axis).index < axis.limit := by
  cases axis with
  | rows => exact hp.1
  | columns => exact hp.2

end Coordinates

/-! ## 2. References -/

/-- The two ends of a reference on an axis. -/
def Formula.Reference.ends (r : Reference) (axis : Axis) : Coordinate × Coordinate :=
  (r.first.along axis, r.last.along axis)

/-- **The same ends,** in any order if they coincide. -/
def SameEnds (ends ends' : Coordinate × Coordinate) : Prop :=
  ends = ends' ∨ ends.1.index = ends.2.index ∧ ends = ends'.swap

/-- **The same reference,** up to the order of ends that coincide on an axis. -/
inductive Formula.Reference.Matches : Reference → Reference → Prop
  | cell (pos : Position) : Matches (.cell pos) (.cell pos)
  | area {a b c d : Position} (hrange : (area a b).range = (area c d).range)
      (hends : ∀ axis, SameEnds ((area a b).ends axis) ((area c d).ends axis)) :
      Matches (.area a b) (.area c d)

/-- References with the same ends cover the same cells. -/
theorem range_eq_of_sameEnds {r r' : Reference}
    (h : ∀ axis, SameEnds (r.ends axis) (r'.ends axis)) : r.range = r'.range := by
  refine Range.ext_along fun axis => ?_
  have hindices : (r.first.along axis).index = (r'.first.along axis).index ∧
      (r.last.along axis).index = (r'.last.along axis).index := by
    rcases h axis with hsame | ⟨hlevel, hswap⟩
    · obtain ⟨hfirst, hlast⟩ := Prod.mk.inj hsame
      exact ⟨congrArg _ hfirst, congrArg _ hlast⟩
    · obtain ⟨hfirst, hlast⟩ := Prod.mk.inj hswap
      exact ⟨hlevel.trans (congrArg _ hlast), hlevel.symm.trans (congrArg _ hfirst)⟩
  rw [Reference.along_range_between, Reference.along_range_between, hindices.1, hindices.2]

theorem ends_between (a b : Position) (axis : Axis) :
    (Reference.between a b).ends axis = inOrder (a.along axis) (b.along axis) := by
  cases axis <;> rfl

/-- Which of two ends is named first is seen only if they coincide. -/
theorem sameEnds_inOrder_comm (a b : Coordinate) : SameEnds (inOrder b a) (inOrder a b) := by
  unfold inOrder
  split
  · split
    · exact .inr ⟨by dsimp only; omega, rfl⟩
    · exact .inl rfl
  · rw [if_pos (by omega)]
    exact .inl rfl

/-- Ends move in any order. -/
theorem exists_move?_inOrder {limit : Nat} {delta : Int} {a b a' b' : Coordinate}
    (ha : a'.move? limit delta = some a) (hb : b'.move? limit delta = some b) :
    ∃ c d, (inOrder a' b').1.move? limit delta = some c ∧
      (inOrder a' b').2.move? limit delta = some d := by
  unfold inOrder
  split
  · exact ⟨a, b, ha, hb⟩
  · exact ⟨b, a, hb, ha⟩

/-- **Ends that are put in order on the way** are the ends that are put in order once. -/
theorem exists_sameEnds {limit : Nat} {delta delta' : Int} {a b a' b' c d : Coordinate}
    (ha : a.move? limit delta = some a') (hb : b.move? limit delta = some b')
    (hc : (inOrder a' b').1.move? limit delta' = some c)
    (hd : (inOrder a' b').2.move? limit delta' = some d) :
    ∃ p q, a.move? limit (delta + delta') = some p ∧ b.move? limit (delta + delta') = some q ∧
      SameEnds (inOrder c d) (inOrder p q) := by
  unfold inOrder at hc hd
  split at hc
  · rename_i hle
    rw [if_pos hle] at hd
    exact ⟨c, d, Coordinate.move?_move? ha hc, Coordinate.move?_move? hb hd, .inl rfl⟩
  · rename_i hlt
    rw [if_neg hlt] at hd
    exact ⟨d, c, Coordinate.move?_move? ha hd, Coordinate.move?_move? hb hc,
      sameEnds_inOrder_comm d c⟩

section References

variable {r r' last : Reference} {rows columns rows' columns' : Int}

theorem move?_cell_iff {pos : Position} :
    (Reference.cell pos).move? rows columns = some r ↔ ∃ new, (∀ axis,
      (pos.along axis).move? axis.limit (shiftAlong rows columns axis) = some (new.along axis)) ∧
      r = .cell new := by
  simp only [← Position.move?_eq_some_iff, Reference.move?, Option.map_eq_some_iff]
  exact exists_congr fun new => and_congr_right fun _ => eq_comm

/-- A rectangle moves by its corners, and these are put in order. -/
theorem move?_area_iff {a b : Position} :
    (Reference.area a b).move? rows columns = some r ↔ ∃ c d, (∀ axis,
      (a.along axis).move? axis.limit (shiftAlong rows columns axis) = some (c.along axis) ∧
      (b.along axis).move? axis.limit (shiftAlong rows columns axis) = some (d.along axis)) ∧
      r = .between c d := by
  simp only [forall_and, ← Position.move?_eq_some_iff]
  constructor
  · intro h
    dsimp only [Reference.move?] at h
    split at h
    · rename_i c d hc hd
      exact ⟨c, d, ⟨hc, hd⟩, (Option.some.inj h).symm⟩
    · cases h
  · rintro ⟨c, d, ⟨hc, hd⟩, rfl⟩
    dsimp only [Reference.move?]
    rw [hc, hd]

/-- The same of a rectangle whose corners were put in order. -/
theorem move?_between_iff {a b : Position} :
    (Reference.between a b).move? rows columns = some r ↔ ∃ c d, (∀ axis,
      (inOrder (a.along axis) (b.along axis)).1.move? axis.limit (shiftAlong rows columns axis) =
        some (c.along axis) ∧
      (inOrder (a.along axis) (b.along axis)).2.move? axis.limit (shiftAlong rows columns axis) =
        some (d.along axis)) ∧ r = .between c d := by
  simp only [← ends_between]
  exact move?_area_iff

/-- **A reference that moves twice** moves over the sum of the ways. -/
theorem exists_matches_of_move? (h : r.move? rows columns = some r')
    (h' : r'.move? rows' columns' = some last) :
    ∃ new, r.move? (rows + rows') (columns + columns') = some new ∧ last.Matches new := by
  cases r with
  | cell pos =>
    obtain ⟨pos', hfirst, rfl⟩ := move?_cell_iff.mp h
    obtain ⟨pos'', hsecond, rfl⟩ := move?_cell_iff.mp h'
    refine ⟨.cell pos'', move?_cell_iff.mpr ⟨pos'', fun axis => ?_, rfl⟩, .cell pos''⟩
    rw [shiftAlong_add]
    exact Coordinate.move?_move? (hfirst axis) (hsecond axis)
  | area a b =>
    obtain ⟨a', b', hfirst, rfl⟩ := move?_area_iff.mp h
    obtain ⟨c, d, hsecond, rfl⟩ := move?_between_iff.mp h'
    obtain ⟨p, q, hboth⟩ := exists_positions fun axis =>
      exists_sameEnds (hfirst axis).1 (hfirst axis).2 (hsecond axis).1 (hsecond axis).2
    have hends (axis : Axis) :
        SameEnds ((Reference.between c d).ends axis) ((Reference.between p q).ends axis) := by
      rw [ends_between, ends_between]
      exact (hboth axis).2.2
    refine ⟨.between p q, move?_area_iff.mpr ⟨p, q, fun axis => ?_, rfl⟩,
      .area (range_eq_of_sameEnds hends) hends⟩
    rw [shiftAlong_add]
    exact ⟨(hboth axis).1, (hboth axis).2.1⟩

/-- A reference on the grid moves to itself if it does not move. -/
theorem move?_zero_of_proper (h : r.Proper) : r.move? 0 0 = some r := by
  have hstay {p : Position} (hp : p.OnGrid) (axis : Axis) :
      (p.along axis).move? axis.limit (shiftAlong 0 0 axis) = some (p.along axis) := by
    rw [shiftAlong_zero]
    exact Coordinate.move?_zero (along_lt_limit hp axis)
  cases r with
  | cell pos => exact move?_cell_iff.mpr ⟨pos, hstay h, rfl⟩
  | area a b =>
    obtain ⟨ha, hb, hrow, hcol⟩ := h
    exact move?_area_iff.mpr ⟨a, b, fun axis => ⟨hstay ha axis, hstay hb axis⟩,
      (Reference.between_of_le hrow hcol).symm⟩

/-- **A reference on the grid finds its way back** from wherever it moved. -/
theorem exists_move?_neg (hproper : r.Proper) (h : r.move? rows columns = some r') :
    ∃ last, r'.move? (-rows) (-columns) = some last := by
  have hback {p p' : Position} (hp : p.OnGrid) {axis : Axis}
      (hp' : (p.along axis).move? axis.limit (shiftAlong rows columns axis) = some (p'.along axis)) :
      (p'.along axis).move? axis.limit (shiftAlong (-rows) (-columns) axis) =
        some (p.along axis) := by
    rw [shiftAlong_neg]
    exact Coordinate.move?_neg (along_lt_limit hp axis) hp'
  cases r with
  | cell pos =>
    obtain ⟨pos', hmoved, rfl⟩ := move?_cell_iff.mp h
    exact ⟨.cell pos, move?_cell_iff.mpr ⟨pos, fun axis => hback hproper (hmoved axis), rfl⟩⟩
  | area a b =>
    obtain ⟨a', b', hmoved, rfl⟩ := move?_area_iff.mp h
    obtain ⟨p, q, hpq⟩ := exists_positions fun axis =>
      exists_move?_inOrder (hback hproper.1 (hmoved axis).1) (hback hproper.2.1 (hmoved axis).2)
    exact ⟨.between p q, move?_between_iff.mpr ⟨p, q, hpq, rfl⟩⟩

end References

/-- Whether a mention stays on the grid when its formula moves. -/
def Mention.stays (rows columns : Int) : Mention → Bool
  | .ref _ target => (target.move? rows columns).isSome
  | .name _ => true

end Spreadsheet

namespace Spreadsheet.Formula

open Grid

/-! ## 3. Formulas -/

mutual

/-- **The same formula,** up to the order of ends that coincide in its references. -/
inductive Expr.Matches : Expr → Expr → Prop
  | ref (sheet : Option String) {target target' : Reference} (h : target.Matches target') :
      Expr.Matches (.ref sheet target) (.ref sheet target')
  | number (x : Float) : Expr.Matches (.number x) (.number x)
  | text (s : String) : Expr.Matches (.text s) (.text s)
  | bool (b : Bool) : Expr.Matches (.bool b) (.bool b)
  | error (code : ErrorCode) : Expr.Matches (.error code) (.error code)
  | name (s : String) : Expr.Matches (.name s) (.name s)
  | binary (op : BinaryOp) {left left' right right' : Expr} (hleft : left.Matches left')
      (hright : right.Matches right') : Expr.Matches (.binary op left right) (.binary op left' right')
  | negate {operand operand' : Expr} (h : operand.Matches operand') :
      Expr.Matches (.negate operand) (.negate operand')
  | percent {operand operand' : Expr} (h : operand.Matches operand') :
      Expr.Matches (.percent operand) (.percent operand')
  | group {inner inner' : Expr} (h : inner.Matches inner') : Expr.Matches (.group inner) (.group inner')
  | call (function : String) {args args' : List Expr} (h : MatchesAll args args') :
      Expr.Matches (.call function args) (.call function args')

/-- The same formulas one by one. -/
inductive MatchesAll : List Expr → List Expr → Prop
  | nil : MatchesAll [] []
  | cons {e e' : Expr} {rest rest' : List Expr} (h : e.Matches e') (hrest : MatchesAll rest rest') :
      MatchesAll (e :: rest) (e' :: rest')

end

section Replaced

variable {f g h : Option String → Reference → Expr}

mutual

/-- References that are replaced twice, and once by the same. -/
theorem matches_mapRefs : ∀ {e : Expr},
    (∀ sheet target, e.Mentions (.ref sheet target) →
      ((f sheet target).mapRefs g).Matches (h sheet target)) →
    ((e.mapRefs f).mapRefs g).Matches (e.mapRefs h)
  | .ref sheet target, hrefs => hrefs sheet target (.ref sheet target)
  | .number x, _ => .number x
  | .text s, _ => .text s
  | .bool b, _ => .bool b
  | .error code, _ => .error code
  | .name s, _ => .name s
  | .binary op left right, hrefs =>
    .binary op (matches_mapRefs fun sheet target hm => hrefs sheet target (.left right hm))
      (matches_mapRefs fun sheet target hm => hrefs sheet target (.right left hm))
  | .negate _, hrefs => .negate (matches_mapRefs fun sheet target hm =>
      hrefs sheet target (.negate hm))
  | .percent _, hrefs => .percent (matches_mapRefs fun sheet target hm =>
      hrefs sheet target (.percent hm))
  | .group _, hrefs => .group (matches_mapRefs fun sheet target hm =>
      hrefs sheet target (.group hm))
  | .call function _, hrefs => .call function (matchesAll_mapRefsAll fun _ he sheet target hm =>
      hrefs sheet target (.argument function he hm))

theorem matchesAll_mapRefsAll : ∀ {args : List Expr},
    (∀ e ∈ args, ∀ sheet target, e.Mentions (.ref sheet target) →
      ((f sheet target).mapRefs g).Matches (h sheet target)) →
    MatchesAll (mapRefsAll g (mapRefsAll f args)) (mapRefsAll h args)
  | [], _ => .nil
  | e :: _, hrefs => .cons (matches_mapRefs (hrefs e List.mem_cons_self))
      (matchesAll_mapRefsAll fun e' he' => hrefs e' (List.mem_cons_of_mem _ he'))

end

mutual

/-- Nothing changes if every reference stays. -/
theorem mapRefs_eq_self : ∀ {e : Expr},
    (∀ sheet target, e.Mentions (.ref sheet target) → f sheet target = .ref sheet target) →
    e.mapRefs f = e
  | .ref sheet target, hrefs => hrefs sheet target (.ref sheet target)
  | .number _, _ | .text _, _ | .bool _, _ | .error _, _ | .name _, _ => rfl
  | .binary _ left right, hrefs => by
    rw [Expr.mapRefs, mapRefs_eq_self fun sheet target hm => hrefs sheet target (.left right hm),
      mapRefs_eq_self fun sheet target hm => hrefs sheet target (.right left hm)]
  | .negate _, hrefs => congrArg _ (mapRefs_eq_self fun sheet target hm =>
      hrefs sheet target (.negate hm))
  | .percent _, hrefs => congrArg _ (mapRefs_eq_self fun sheet target hm =>
      hrefs sheet target (.percent hm))
  | .group _, hrefs => congrArg _ (mapRefs_eq_self fun sheet target hm =>
      hrefs sheet target (.group hm))
  | .call function _, hrefs => congrArg _ (mapRefsAll_eq_self fun _ he sheet target hm =>
      hrefs sheet target (.argument function he hm))

theorem mapRefsAll_eq_self : ∀ {args : List Expr},
    (∀ e ∈ args, ∀ sheet target, e.Mentions (.ref sheet target) →
      f sheet target = .ref sheet target) →
    mapRefsAll f args = args
  | [], _ => rfl
  | e :: _, hrefs => by
    rw [mapRefsAll, mapRefs_eq_self (hrefs e List.mem_cons_self),
      mapRefsAll_eq_self fun e' he' => hrefs e' (List.mem_cons_of_mem _ he')]

end

end Replaced

/-! ## 4. Copies -/

/-- **No reference leaves the grid** when the formula moves. -/
def Expr.Stays (e : Expr) (rows columns : Int) : Prop :=
  ∀ m, e.Mentions m → m.stays rows columns = true

instance (e : Expr) (rows columns : Int) : Decidable (e.Stays rows columns) :=
  decidable_of_iff (∀ m ∈ e.mentions true, m.1.stays rows columns = true)
    ⟨fun h m hm => by
      obtain ⟨c, hmem⟩ := exists_mem_mentions hm true
      exact h _ hmem,
    fun h _ hm => h _ (mentions_of_mem hm)⟩

variable {e : Expr} {rows columns rows' columns' : Int}

/-- Of a canonical formula also the copy where it stands has each reference moved. -/
theorem moved_eq_mapRefs (h : e.Canonical) : e.moved rows columns =
    e.mapRefs fun sheet target => refOrError sheet (target.move? rows columns) := by
  unfold Expr.moved
  split
  · rename_i hstay
    obtain ⟨rfl, rfl⟩ := hstay
    refine (mapRefs_eq_self fun sheet target hm => ?_).symm
    rw [move?_zero_of_proper (Workbook.proper_of_mentions hm h sheet target rfl)]
    rfl
  · rfl

theorem matches_moved_moved (h : e.Canonical) (hstays : e.Stays rows columns)
    (hstays' : (e.moved rows columns).Stays rows' columns') :
    ((e.moved rows columns).moved rows' columns').Matches
      (e.moved (rows + rows') (columns + columns')) := by
  have hmentions {sheet : Option String} {target new : Reference}
      (hm : e.Mentions (.ref sheet target)) (hnew : target.move? rows columns = some new) :
      (e.moved rows columns).Mentions (.ref sheet new) := by
    rw [moved_eq_mapRefs h, mentions_mapRefs_iff]
    exact .inl ⟨sheet, target, hm, mentions_refOrError_iff.mpr ⟨new, hnew, rfl⟩⟩
  rw [moved_eq_mapRefs (canonical_moved h rows columns), moved_eq_mapRefs h, moved_eq_mapRefs h]
  refine matches_mapRefs fun sheet target hm => ?_
  obtain ⟨new, hnew⟩ := Option.isSome_iff_exists.mp (hstays _ hm)
  obtain ⟨last, hlast⟩ := Option.isSome_iff_exists.mp (hstays' _ (hmentions hm hnew))
  obtain ⟨direct, hdirect, hmatches⟩ := exists_matches_of_move? hnew hlast
  rw [hnew, hdirect, refOrError, Expr.mapRefs, hlast]
  exact .ref sheet hmatches

/-- What is left of the references on a copy finds its way back. -/
theorem stays_moved_neg (h : e.Canonical) : (e.moved rows columns).Stays (-rows) (-columns) := by
  intro m hm
  rw [moved_eq_mapRefs h, mentions_mapRefs_iff] at hm
  rcases hm with ⟨sheet, target, hm, hleft⟩ | ⟨name, -, rfl⟩
  · obtain ⟨new, hnew, rfl⟩ := mentions_refOrError_iff.mp hleft
    exact Option.isSome_iff_exists.mpr
      (exists_move?_neg (Workbook.proper_of_mentions hm h sheet target rfl) hnew)
  · rfl

/-- **Copies compose.**  If no reference leaves the grid in either step, the copy of a copy is the copy
over the sum of the ways, up to the order of ends that coincide.  If none leaves it on the way there,
what is copied to and fro is what it was, to the same extent. -/
theorem moved_moved {text : String} (h : parse text = .ok e) :
    (∀ rows columns rows' columns', e.Stays rows columns →
      (e.moved rows columns).Stays rows' columns' →
      ((e.moved rows columns).moved rows' columns').Matches
        (e.moved (rows + rows') (columns + columns'))) ∧
    ∀ rows columns, e.Stays rows columns →
      ((e.moved rows columns).moved (-rows) (-columns)).Matches e := by
  have hcanonical := canonical_of_parse h
  refine ⟨fun rows columns rows' columns' hstays hstays' =>
    matches_moved_moved hcanonical hstays hstays', fun rows columns hstays => ?_⟩
  have hback := matches_moved_moved hcanonical hstays (stays_moved_neg hcanonical)
  have hstay : e.moved 0 0 = e := if_pos ⟨rfl, rfl⟩
  rwa [Int.add_right_neg, Int.add_right_neg, hstay] at hback

/-- A relative end passes a fixed one and comes back to it: over the sum of the ways it would have
stayed in front. -/
theorem moved_moved_past_fixed_end :
    ∃ e, parse "=SUM(A1:A$3)+x%*$B2" = .ok e ∧
      (e.moved 5 0).print = "SUM(A$3:A6)+x%*$B7" ∧
      ((e.moved 5 0).moved (-3) 0).print = "SUM(A$3:A3)+x%*$B4" ∧
      (e.moved 2 0).print = "SUM(A3:A$3)+x%*$B4" ∧
      ((e.moved 5 0).moved (-3) 0).Matches (e.moved 2 0) ∧
      ((e.moved 5 0).moved (-5) 0).Matches e := by
  obtain ⟨e, he, hfacts⟩ := exists_of_any (p := fun e =>
    (e.moved 5 0).print == "SUM(A$3:A6)+x%*$B7" &&
      ((e.moved 5 0).moved (-3) 0).print == "SUM(A$3:A3)+x%*$B4" &&
      (e.moved 2 0).print == "SUM(A3:A$3)+x%*$B4" && decide (e.Stays 5 0) &&
      decide ((e.moved 5 0).Stays (-3) 0))
    (x := parse "=SUM(A1:A$3)+x%*$B2") (by decide +kernel)
  simp only [Bool.and_eq_true, beq_iff_eq, decide_eq_true_eq] at hfacts
  obtain ⟨⟨⟨⟨hdown, hback⟩, hdirect⟩, hstays⟩, hstays'⟩ := hfacts
  obtain ⟨hsum, hfro⟩ := moved_moved he
  exact ⟨e, he, hdown, hback, hdirect, hsum 5 0 (-3) 0 hstays hstays', hfro 5 0 hstays⟩

end Spreadsheet.Formula
