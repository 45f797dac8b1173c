/-
# Where a formula needs a group

* The grammar of trees says what may stand where without parentheses (`Stands`).  A *place* is as
  tight as what asks for an operand: an operator that associates to the left takes its own level on
  the left and a tighter one on the right, a power takes a sign on the left and a power on the right,
  a sign takes signs, and percent signs take percent signs.  Groups and arguments start anew.
* Writing adds no groups.  So a tree whose single operands can be words is read from its words as
  itself exactly if it stands where a whole formula does (`parseTokens_words_iff`).
* What is read stands there, because the grammar of words gives canonical formulas only.  A copy, or
  what is left when lines are removed, has single operands in place of single operands, so it stands
  wherever the formula did, and this for every tree and every place (`stands_mapRefs`).
-/
import Spreadsheet.Proofs.Copies

namespace Spreadsheet.Formula

open Grid

/-! ## 1. Places -/

/-- **Where an operand can stand,** from a whole formula to a single operand. -/
inductive Place where
  | level (l : Level)
  | sign
  | percent
  | single
deriving DecidableEq, Repr

/-- The next tighter place. -/
def Place.tighter? : Place → Option Place
  | .level l => some ((l.tighter?.map .level).getD .sign)
  | .sign => some .percent
  | .percent => some .single
  | .single => none

/-- The place of a whole formula. -/
def Place.whole : Place := .level .comparison

/-- **A formula that stands at a place** without a group around it. -/
inductive Stands : Place → Expr → Prop
  | number (x : Float) : Stands .single (.number x)
  | text (s : String) : Stands .single (.text s)
  | bool (b : Bool) : Stands .single (.bool b)
  | error (code : ErrorCode) : Stands .single (.error code)
  | ref (sheet : Option String) (target : Reference) : Stands .single (.ref sheet target)
  | name (s : String) : Stands .single (.name s)
  | group {inner : Expr} (h : Stands .whole inner) : Stands .single (.group inner)
  | call (function : String) {args : List Expr} (h : ∀ e ∈ args, Stands .whole e) :
      Stands .single (.call function args)
  | percent {operand : Expr} (h : Stands .percent operand) : Stands .percent (.percent operand)
  | negate {operand : Expr} (h : Stands .sign operand) : Stands .sign (.negate operand)
  | power {op : BinaryOp} {left right : Expr} (hop : op.level = .power) (hleft : Stands .sign left)
      (hright : Stands (.level .power) right) : Stands (.level .power) (.binary op left right)
  | leftToRight {op : BinaryOp} {inner : Level} {left right : Expr}
      (hop : op.level.tighter? = some inner) (hleft : Stands (.level op.level) left)
      (hright : Stands (.level inner) right) : Stands (.level op.level) (.binary op left right)
  | looser {place inner : Place} {e : Expr} (hplace : place.tighter? = some inner)
      (h : Stands inner e) : Stands place e

/-! ## 2. Places and looseness -/

/-- How loose a formula at a place may be. -/
def Place.limit : Place → Nat
  | .level l => l.rank + 3
  | .sign => 2
  | .percent => 1
  | .single => 0

/-- The tightest place for a formula. -/
def Expr.place : Expr → Place
  | .binary op _ _ => .level op.level
  | .negate _ => .sign
  | .percent _ => .percent
  | _ => .single

theorem Expr.limit_place (e : Expr) : e.place.limit = e.looseness := by
  cases e <;> rfl

theorem Place.limit_of_tighter? {place inner : Place} (h : place.tighter? = some inner) :
    place.limit = inner.limit + 1 := by
  cases place with
  | level l => cases l <;> (cases h; rfl)
  | sign | percent => cases h; rfl
  | single => cases h

theorem Place.eq_of_limit {p q : Place} (h : p.limit = q.limit) : p = q := by
  have hlevel {l m : Level} (h : l.rank + 3 = m.rank + 3) : l = m :=
    Level.eq_of_rank (Nat.add_right_cancel h)
  cases p <;> cases q <;> simp only [limit] at h <;> first
    | rfl
    | omega
    | rw [hlevel h]

/-- **What stands at a place stands at every looser one.** -/
theorem Stands.mono {p q : Place} {e : Expr} (h : Stands p e) (hle : p.limit ≤ q.limit) :
    Stands q e := by
  obtain ⟨n, hn⟩ := Nat.exists_eq_add_of_le hle
  induction n generalizing q with
  | zero =>
    rw [Place.eq_of_limit hn]
    exact h
  | succ n ih =>
    cases htighter : q.tighter? with
    | none =>
      obtain rfl : q = .single := by cases q <;> first | rfl | cases htighter
      simp only [Place.limit] at hn
      omega
    | some inner =>
      have hlimit := Place.limit_of_tighter? htighter
      exact .looser htighter (ih (by omega) (by omega))

/-- A formula that stands at its tightest place stands at all that are loose enough. -/
theorem Stands.of_looseness {q : Place} {e : Expr} (h : Stands e.place e)
    (hle : e.looseness ≤ q.limit) : Stands q e := by
  refine h.mono ?_
  rw [e.limit_place]
  exact hle

/-! ## 3. Canonical formulas -/

mutual

/-- **A formula whose single operands can be words,** however it is put together. -/
def Expr.Spellable : Expr → Prop
  | .number x => Decimal.Unsigned x
  | .ref _ target => target.Proper
  | .name s => IsName s
  | .binary _ left right => left.Spellable ∧ right.Spellable
  | .negate operand => operand.Spellable
  | .percent operand => operand.Spellable
  | .group inner => inner.Spellable
  | .call function args => IsFunction function ∧ SpellableAll args
  | .text _ | .bool _ | .error _ => True

/-- Formulas whose single operands can be words. -/
def SpellableAll : List Expr → Prop
  | [] => True
  | e :: rest => e.Spellable ∧ SpellableAll rest

end

mutual

theorem spellable_of_canonical : ∀ {e : Expr}, e.Canonical → e.Spellable
  | .number _, h | .ref _ _, h | .name _, h => h
  | .text _, _ | .bool _, _ | .error _, _ => trivial
  | .binary _ _ _, h => ⟨spellable_of_canonical h.1, spellable_of_canonical h.2.2.1⟩
  | .negate operand, h => spellable_of_canonical (e := operand) h.1
  | .percent operand, h => spellable_of_canonical (e := operand) h.1
  | .group inner, h => spellable_of_canonical (e := inner) h
  | .call _ _, h => ⟨h.1, spellableAll_of_canonicalAll h.2⟩

theorem spellableAll_of_canonicalAll : ∀ {args : List Expr}, CanonicalAll args → SpellableAll args
  | [], _ => trivial
  | _ :: _, h => ⟨spellable_of_canonical h.1, spellableAll_of_canonicalAll h.2⟩

end

mutual

/-- A canonical formula stands at its tightest place. -/
theorem stands_of_canonical : ∀ {e : Expr}, e.Canonical → Stands e.place e
  | .number x, _ => .number x
  | .text s, _ => .text s
  | .bool b, _ => .bool b
  | .error code, _ => .error code
  | .ref sheet target, _ => .ref sheet target
  | .name s, _ => .name s
  | .group inner, h => .group ((stands_of_canonical (e := inner) h).of_looseness inner.looseness_le)
  | .call function args, h => .call function (stands_of_canonicalAll h.2)
  | .percent _, h => .percent ((stands_of_canonical h.1).of_looseness h.2)
  | .negate _, h => .negate ((stands_of_canonical h.1).of_looseness h.2)
  | .binary op left right, ⟨hleft, hlooseLeft, hright, hlooseRight⟩ => by
    have hstands := stands_of_canonical hleft
    have hstands' := stands_of_canonical hright
    by_cases hop : op.level = .power
    · rw [BinaryOp.leftLimit, if_pos hop] at hlooseLeft
      rw [BinaryOp.rightLimit, if_pos hop] at hlooseRight
      rw [Expr.place, hop]
      exact .power hop (hstands.of_looseness hlooseLeft) (hstands'.of_looseness hlooseRight)
    · rw [BinaryOp.leftLimit, if_neg hop] at hlooseLeft
      rw [BinaryOp.rightLimit, if_neg hop] at hlooseRight
      cases htighter : op.level.tighter? with
      | none => exact absurd (Level.eq_power htighter) hop
      | some inner =>
        have hrank := Level.rank_of_tighter? htighter
        refine .leftToRight htighter (hstands.of_looseness hlooseLeft) (hstands'.of_looseness ?_)
        change right.looseness ≤ inner.rank + 3
        omega

theorem stands_of_canonicalAll : ∀ {args : List Expr}, CanonicalAll args →
    ∀ e ∈ args, Stands .whole e
  | first :: _, h, e, he => by
    rcases List.mem_cons.mp he with heq | he
    · rw [heq]
      exact (stands_of_canonical h.1).of_looseness (Expr.looseness_le _)
    · exact stands_of_canonicalAll h.2 e he

end

theorem spellable_of_mem {e : Expr} : ∀ {args : List Expr}, SpellableAll args → e ∈ args →
    e.Spellable
  | _ :: _, h, he => by
    rcases List.mem_cons.mp he with rfl | he
    · exact h.1
    · exact spellable_of_mem h.2 he

theorem canonicalAll_of_forall : ∀ {args : List Expr}, (∀ e ∈ args, e.Canonical) →
    CanonicalAll args
  | [], _ => trivial
  | e :: _, h => ⟨h e List.mem_cons_self, canonicalAll_of_forall fun e' he' =>
      h e' (List.mem_cons_of_mem _ he')⟩

/-- **What stands at a place is canonical** if its single operands can be words, and not looser than
the place. -/
theorem Stands.canonical {place : Place} {e : Expr} (h : Stands place e) (hspell : e.Spellable) :
    e.Canonical ∧ e.looseness ≤ place.limit := by
  induction h with
  | number | ref | name => exact ⟨hspell, Nat.le_refl _⟩
  | text | bool | error => exact ⟨trivial, Nat.le_refl _⟩
  | group _ ih => exact ⟨(ih hspell).1, Nat.le_refl _⟩
  | call _ _ ih =>
    refine ⟨⟨hspell.1, canonicalAll_of_forall fun e he => ?_⟩, Nat.le_refl _⟩
    exact (ih e he (spellable_of_mem hspell.2 he)).1
  | percent _ ih => exact ⟨ih hspell, Nat.le_refl _⟩
  | negate _ ih => exact ⟨ih hspell, Nat.le_refl _⟩
  | power hop _ _ ihleft ihright =>
    obtain ⟨hleft, hlooseLeft⟩ := ihleft hspell.1
    obtain ⟨hright, hlooseRight⟩ := ihright hspell.2
    refine ⟨⟨hleft, ?_, hright, ?_⟩, ?_⟩
    · rwa [BinaryOp.leftLimit, if_pos hop]
    · rwa [BinaryOp.rightLimit, if_pos hop]
    · rw [Expr.looseness, hop]
      exact Nat.le_refl _
  | leftToRight hop _ _ ihleft ihright =>
    obtain ⟨hleft, hlooseLeft⟩ := ihleft hspell.1
    obtain ⟨hright, hlooseRight⟩ := ihright hspell.2
    have hpower := Level.ne_power hop
    have hrank := Level.rank_of_tighter? hop
    refine ⟨⟨hleft, ?_, hright, ?_⟩, Nat.le_refl _⟩
    · rwa [BinaryOp.leftLimit, if_neg hpower]
    · rw [BinaryOp.rightLimit, if_neg hpower]
      simp only [Place.limit] at hlooseRight
      omega
  | looser hplace _ ih =>
    obtain ⟨hcanonical, hloose⟩ := ih hspell
    have hlimit := Place.limit_of_tighter? hplace
    exact ⟨hcanonical, by omega⟩

/-- **A formula is canonical exactly if its single operands can be words and it stands where a whole
formula does.** -/
theorem canonical_iff_stands {e : Expr} : e.Canonical ↔ e.Spellable ∧ Stands .whole e := by
  constructor
  · intro h
    exact ⟨spellable_of_canonical h, (stands_of_canonical h).of_looseness e.looseness_le⟩
  · rintro ⟨hspell, hstands⟩
    exact (hstands.canonical hspell).1

/-! ## 4. Groups that are not written -/

mutual

/-- The words of a formula fit if its single operands can be words. -/
theorem fit_words : ∀ {e : Expr}, e.Spellable → ∀ {rest : List Token}, Fit rest →
    Fit (e.words ++ rest)
  | .number _, h, _, hrest => ⟨h, hrest⟩
  | .name _, h, _, hrest => ⟨.inl h, hrest⟩
  | .text _, _, _, hrest | .bool _, _, _, hrest | .error _, _, _, hrest => ⟨trivial, hrest⟩
  | .ref none (.cell _), _, _, hrest => ⟨trivial, hrest⟩
  | .ref none (.area _ _), _, _, hrest => ⟨trivial, trivial, trivial, hrest⟩
  | .ref (some _) (.cell _), _, _, hrest => ⟨trivial, trivial, hrest⟩
  | .ref (some _) (.area _ _), _, _, hrest => ⟨trivial, trivial, trivial, trivial, hrest⟩
  | .binary op left right, h, rest, hrest => by
    rw [Expr.words, List.append_assoc, List.cons_append]
    exact fit_words h.1 ⟨trivial, fit_words h.2 hrest⟩
  | .negate operand, h, _, hrest => ⟨trivial, fit_words (e := operand) h hrest⟩
  | .percent operand, h, rest, hrest => by
    rw [Expr.words, List.append_assoc]
    exact fit_words (e := operand) h ⟨trivial, hrest⟩
  | .group inner, h, rest, hrest => by
    rw [Expr.words, List.cons_append, List.append_assoc]
    exact ⟨trivial, fit_words (e := inner) h ⟨trivial, hrest⟩⟩
  | .call function args, ⟨hfunction, hargs⟩, rest, hrest => by
    rw [Expr.words, List.cons_append, List.cons_append, List.append_assoc]
    refine ⟨?_, trivial, fit_argsWords hargs ⟨trivial, hrest⟩⟩
    rcases hfunction.2 with hword | hhash
    · exact .inr ⟨hword, rfl⟩
    · exact .inl (.inr hhash)

theorem fit_argsWords : ∀ {args : List Expr}, SpellableAll args → ∀ {rest : List Token}, Fit rest →
    Fit (argsWords args ++ rest)
  | [], _, _, hrest => hrest
  | [_], h, _, hrest => fit_words h.1 hrest
  | e :: e' :: more, h, rest, hrest => by
    rw [argsWords_cons e (List.cons_ne_nil e' more), List.append_assoc, List.cons_append]
    exact fit_words h.1 ⟨trivial, fit_argsWords h.2 hrest⟩

end

/-- **A formula is read from its words as itself exactly if it stands where a whole formula does,**
so no group that is not there was needed. -/
theorem parseTokens_words_iff {e : Expr} (h : e.Spellable) :
    parseTokens e.words = .ok e ↔ Stands .whole e := by
  constructor
  · intro hread
    have hfit : Fit e.words := by
      have hfit : Fit (e.words ++ []) := fit_words h trivial
      rwa [List.append_nil] at hfit
    exact (canonical_iff_stands.mp (canonical_of_parseTokens hfit hread).1).2
  · intro hstands
    exact parseTokens_words (canonical_iff_stands.mpr ⟨h, hstands⟩)

/-! ## 5. Copies and removals -/

theorem mapRefsAll_eq_map (f : Option String → Reference → Expr) (args : List Expr) :
    mapRefsAll f args = args.map (·.mapRefs f) := by
  induction args with
  | nil => rfl
  | cons e rest ih => rw [mapRefsAll, ih, List.map_cons]

/-- **A formula stands where it stood** when its references are replaced by single operands. -/
theorem stands_mapRefs {f : Option String → Reference → Expr}
    (hf : ∀ sheet target, Stands .single (f sheet target)) {place : Place} {e : Expr}
    (h : Stands place e) : Stands place (e.mapRefs f) := by
  induction h with
  | number x => exact .number x
  | text s => exact .text s
  | bool b => exact .bool b
  | error code => exact .error code
  | ref sheet target => exact hf sheet target
  | name s => exact .name s
  | group _ ih => exact .group ih
  | call function _ ih =>
    rw [Expr.mapRefs, mapRefsAll_eq_map]
    refine .call function fun e he => ?_
    obtain ⟨arg, harg, rfl⟩ := List.mem_map.mp he
    exact ih arg harg
  | percent _ ih => exact .percent ih
  | negate _ ih => exact .negate ih
  | power hop _ _ ihleft ihright => exact .power hop ihleft ihright
  | leftToRight hop _ _ ihleft ihright => exact .leftToRight hop ihleft ihright
  | looser hplace _ ih => exact .looser hplace ih

theorem stands_refOrError (sheet : Option String) (changed : Option Reference) :
    Stands .single (refOrError sheet changed) := by
  cases changed with
  | none => exact .error .ref
  | some target => exact .ref sheet target

theorem Stands.moved {place : Place} {e : Expr} (h : Stands place e) (rows columns : Int) :
    Stands place (e.moved rows columns) := by
  unfold Expr.moved
  split
  · exact h
  · exact stands_mapRefs (fun sheet _ => stands_refOrError sheet _) h

theorem Stands.without {place : Place} {e : Expr} (h : Stands place e)
    (pointsThere : Option String → Bool) (axis : Axis) (start count : Nat) :
    Stands place (e.without pointsThere axis start count) := by
  unfold Expr.without
  split
  · refine stands_mapRefs (fun sheet target => ?_) h
    split
    · exact stands_refOrError sheet _
    · exact .ref sheet target
  · exact h

/-- **No formula that is read needs a group that is not there.**  It stands where a whole formula
does, copies and removals leave every formula where it stands, and to stand there is to be read from
one's own words, which have the groups of the tree and no other. -/
theorem no_group_needed :
    (∀ text e, parse text = .ok e → Stands .whole e) ∧
    (∀ place e, Stands place e → (∀ rows columns, Stands place (e.moved rows columns)) ∧
      ∀ pointsThere axis start count, Stands place (e.without pointsThere axis start count)) ∧
    ∀ e, e.Spellable → (parseTokens e.words = .ok e ↔ Stands .whole e) := by
  refine ⟨fun text e h => ?_, fun place e h => ⟨?_, ?_⟩, fun e h => parseTokens_words_iff h⟩
  · exact (canonical_iff_stands.mp (canonical_of_parse h)).2
  · exact fun rows columns => h.moved rows columns
  · exact fun pointsThere axis start count => h.without pointsThere axis start count

/-- Two negations, a power in a group, a percent sign and a comparison among arguments.  One row up a
reference becomes an error code in the group; without the first column there are more.  Without its
group the sum could not be the base of the power: its words make another formula. -/
theorem no_group_added_to_signs :
    (∃ e, parse "=-B3*-(A1+1)^2%+if('my sheet'!A2:b3<>\"x\",$C$4/1.5,#REF!)" = .ok e ∧
      Stands .whole e ∧ Stands .whole (e.moved (-1) 0) ∧
      Stands .whole (e.without (·.isNone) .columns 0 1) ∧
      parseTokens (e.moved (-1) 0).words = .ok (e.moved (-1) 0)) ∧
    ¬ Stands .whole (.binary .power (.binary .add (.bool true) (.bool false)) (.bool true)) := by
  obtain ⟨hparsed, hkept, hwords⟩ := no_group_needed
  constructor
  · obtain ⟨e, he, -⟩ := exists_of_any (p := fun _ => true)
      (x := parse "=-B3*-(A1+1)^2%+if('my sheet'!A2:b3<>\"x\",$C$4/1.5,#REF!)") (by decide +kernel)
    have hstands := hparsed _ e he
    obtain ⟨hmoved, hwithout⟩ := hkept .whole e hstands
    have hspell := spellable_of_canonical (canonical_moved (canonical_of_parse he) (-1) 0)
    exact ⟨e, he, hstands, hmoved _ _, hwithout _ _ _ _, (hwords _ hspell).mpr (hmoved _ _)⟩
  · intro hstands
    have hread := (hwords (.binary .power (.binary .add (.bool true) (.bool false)) (.bool true))
      ⟨⟨trivial, trivial⟩, trivial⟩).mpr hstands
    obtain ⟨e, he, hloose⟩ := exists_of_any (p := fun e => e.looseness == 5)
      (x := parseTokens (Expr.words
        (.binary .power (.binary .add (.bool true) (.bool false)) (.bool true)))) (by decide +kernel)
    cases he.symm.trans hread
    exact absurd hloose (by decide)

end Spreadsheet.Formula
