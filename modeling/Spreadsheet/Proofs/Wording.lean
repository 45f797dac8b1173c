/-
# The words that a formula is written in

* Writing adds neither blanks nor groups, so a canonical formula has one sequence of words.
* A formula ends where the next word does not reach it: an operator of some level is taken along by
  the formulas that are as loose as that level, a percent sign by those without a sign, a colon by
  single operands (`StopsAt`).
* With that, a canonical formula is read from its words by every step of the grammar that is loose
  enough (`Parses`).  The induction is on the formula; a formula of a level that associates to the
  left is what the chain of its left operand goes on with.
-/
import Spreadsheet.Proofs.Grammar

namespace Spreadsheet.Formula

open Grid

/-! ## 1. Words -/

/-- The words of a reference. -/
def Reference.words : Reference → List Token
  | .cell pos => [.address pos.text]
  | .area first last => [.address first.text, .colon, .address last.text]

mutual

/-- **The words that a formula is written in.** -/
def Expr.words : Expr → List Token
  | .number x => [.number x]
  | .text s => [.text s]
  | .bool b => [.bool b]
  | .error code => [.error code]
  | .ref sheet target => (sheet.map Token.sheet).toList ++ target.words
  | .name s => [.identifier s]
  | .binary op left right => left.words ++ .operator op :: right.words
  | .negate operand => .operator .subtract :: operand.words
  | .percent operand => operand.words ++ [.percent]
  | .group inner => .openParen :: (inner.words ++ [.closeParen])
  | .call function args => .identifier function :: .openParen :: (argsWords args ++ [.closeParen])

/-- The words of the arguments of a call. -/
def argsWords : List Expr → List Token
  | [] => []
  | [e] => e.words
  | e :: rest => e.words ++ .comma :: argsWords rest

end

theorem argsWords_cons (e : Expr) {rest : List Expr} (h : rest ≠ []) :
    argsWords (e :: rest) = e.words ++ .comma :: argsWords rest := by
  cases rest with
  | nil => exact absurd rfl h
  | cons e' rest => rw [argsWords]; simp

mutual

/-- The leaves of a formula are among its words. -/
theorem leaves_words : ∀ e : Expr, leaves e.words = e.leaves
  | .number _ | .text _ | .bool _ | .error _ | .name _ => rfl
  | .ref none (.cell _) | .ref none (.area _ _) => rfl
  | .ref (some _) (.cell _) | .ref (some _) (.area _ _) => rfl
  | .binary op left right => by
    rw [Expr.words, leaves_append, leaves_cons_none rfl, leaves_words left, leaves_words right,
      Expr.leaves]
  | .negate operand => by
    rw [Expr.words, leaves_cons_none rfl, leaves_words operand, Expr.leaves]
  | .percent operand => by
    rw [Expr.words, leaves_append, leaves_words operand, Expr.leaves, leaves_cons_none rfl]
    exact List.append_nil _
  | .group inner => by
    rw [Expr.words, leaves_cons_none rfl, leaves_append, leaves_words inner, Expr.leaves,
      leaves_cons_none rfl]
    exact List.append_nil _
  | .call function args => by
    rw [Expr.words, leaves_cons_some rfl, leaves_cons_none rfl, leaves_append,
      leaves_argsWords args, Expr.leaves, leaves_cons_none rfl]
    exact congrArg _ (List.append_nil _)

theorem leaves_argsWords : ∀ args : List Expr, leaves (argsWords args) = leavesAll args
  | [] => rfl
  | [e] => by rw [argsWords, leaves_words e, leavesAll, leavesAll, List.append_nil]
  | e :: e' :: more => by
    rw [argsWords_cons e (List.cons_ne_nil e' more), leaves_append, leaves_cons_none rfl,
      leaves_words e, leaves_argsWords (e' :: more)]
    rfl

end

/-- No formula starts with a closing parenthesis. -/
theorem exists_words : ∀ e : Expr, ∃ t ts, e.words = t :: ts ∧ t ≠ .closeParen
  | .number _ | .text _ | .bool _ | .error _ | .name _ => ⟨_, _, rfl, nofun⟩
  | .ref none (.cell _) | .ref none (.area _ _) => ⟨_, _, rfl, nofun⟩
  | .ref (some _) (.cell _) | .ref (some _) (.area _ _) => ⟨_, _, rfl, nofun⟩
  | .negate _ | .group _ | .call _ _ => ⟨_, _, rfl, nofun⟩
  | .binary op left right => by
    obtain ⟨t, ts, hwords, ht⟩ := exists_words left
    exact ⟨t, ts ++ .operator op :: right.words, by rw [Expr.words, hwords, List.cons_append], ht⟩
  | .percent operand => by
    obtain ⟨t, ts, hwords, ht⟩ := exists_words operand
    exact ⟨t, ts ++ [.percent], by rw [Expr.words, hwords, List.cons_append], ht⟩

/-! ## 2. Where a formula stops -/

/-- How loose a formula has to be to go on over the word: a colon and an opening parenthesis are
taken along by the tightest ones, an operator by those of its level. -/
def Token.reach : Token → Nat
  | .colon | .openParen => 0
  | .percent => 1
  | .operator op => op.level.rank + 3
  | _ => 8

/-- **Words that no formula goes on over,** of those that are at most so loose. -/
def StopsAt (limit : Nat) (ts : List Token) : Prop := ∀ t ∈ ts.head?, limit < t.reach

section Steps

variable {e : Expr} {level inner : Level} {ts rest : List Token}

theorem StopsAt.mono {n m : Nat} (h : StopsAt n ts) (hle : m ≤ n) : StopsAt m ts :=
  fun t ht => Nat.lt_of_le_of_lt hle (h t ht)

theorem stopsAt_nil (n : Nat) : StopsAt n [] := nofun

theorem stopsAt_cons {n : Nat} {t : Token} (h : n < t.reach) : StopsAt n (t :: ts) := by
  intro t' ht'
  rwa [← Option.some.inj ht']

theorem StopsAt.levelOp?_eq_none (h : StopsAt (level.rank + 3) ts) : levelOp? level ts = none := by
  cases hop : levelOp? level ts with
  | none => rfl
  | some found =>
    obtain ⟨rfl, hlevel⟩ := levelOp?_eq_some hop
    have hlt := h _ rfl
    rw [Token.reach, hlevel] at hlt
    exact absurd hlt (Nat.lt_irrefl _)

theorem StopsAt.percents_eq (h : StopsAt 1 ts) (e : Expr) : percents e ts = (e, ts) := by
  unfold percents
  split
  · exact absurd (h _ rfl) (Nat.lt_irrefl _)
  · rfl

/-! ## 3. How a formula is read -/

/-- **How a formula is read** by each step of the grammar that is loose enough for it. -/
structure Parses (e : Expr) : Prop where
  corners : e.looseness = 0 → ∀ rest, StopsAt 0 rest →
    readCorners (e.words ++ rest) = .ok (e, rest)
  percents : e.looseness ≤ 1 → ∀ rest, StopsAt 0 rest →
    readUnary (e.words ++ rest) = .ok (percents e rest)
  unary : e.looseness ≤ 2 → ∀ rest, StopsAt 1 rest → readUnary (e.words ++ rest) = .ok (e, rest)
  /-- A power is read with its exponent. -/
  power : e.looseness ≤ 3 → ∀ rest, StopsAt 3 rest →
    readBinary .power (e.words ++ rest) = .ok (e, rest)
  /-- On the other levels a formula may be the left operand of what follows. -/
  chain : ∀ level inner, level.tighter? = some inner → e.looseness ≤ level.rank + 3 →
    ∀ rest, StopsAt (inner.rank + 3) rest →
      readBinary level (e.words ++ rest) = readChain level inner e rest

/-- A formula is read by every level that is loose enough. -/
theorem Parses.binary (h : Parses e) (hloose : e.looseness ≤ level.rank + 3)
    (hrest : StopsAt (level.rank + 3) rest) :
    readBinary level (e.words ++ rest) = .ok (e, rest) := by
  cases htighter : level.tighter? with
  | none =>
    obtain rfl := Level.eq_power htighter
    exact h.power hloose rest hrest
  | some inner =>
    have hrank := Level.rank_of_tighter? htighter
    rw [h.chain level inner htighter hloose rest (hrest.mono (by omega)), readChain_eq,
      hrest.levelOp?_eq_none]
    rfl

theorem Expr.looseness_le : ∀ e : Expr, e.looseness ≤ Level.comparison.rank + 3
  | .binary op _ _ => by cases op <;> simp [looseness, Level.rank, BinaryOp.level]
  | .number _ | .text _ | .bool _ | .error _ | .ref _ _ | .name _ | .negate _ | .percent _
  | .group _ | .call _ _ => by simp [looseness, Level.rank]

/-- The loosest level reads every formula. -/
theorem Parses.whole (h : Parses e) (hrest : StopsAt 7 rest) :
    readBinary .comparison (e.words ++ rest) = .ok (e, rest) :=
  h.binary e.looseness_le hrest

/-- What one level reads, the next one takes as a left operand. -/
theorem readBinary_of_inner (h : level.tighter? = some inner)
    (hinner : readBinary inner ts = .ok (e, rest)) :
    readBinary level ts = readChain level inner e rest := by
  rw [readBinary_of_tighter h, hinner, ok_bind]

/-- **The levels looser than a formula** follow from those that are as loose as it is. -/
theorem parses_of_tight
    (hcorners : e.looseness = 0 → ∀ rest, StopsAt 0 rest →
      readCorners (e.words ++ rest) = .ok (e, rest))
    (hpercents : e.looseness ≤ 1 → ∀ rest, StopsAt 0 rest →
      readUnary (e.words ++ rest) = .ok (percents e rest))
    (hunary : e.looseness ≤ 2 → ∀ rest, StopsAt 1 rest →
      readUnary (e.words ++ rest) = .ok (e, rest))
    (hpower : e.looseness ≤ 3 → ∀ rest, StopsAt 3 rest →
      readBinary .power (e.words ++ rest) = .ok (e, rest))
    (hchain : ∀ level inner, level.tighter? = some inner → e.looseness = level.rank + 3 →
      ∀ rest, StopsAt (inner.rank + 3) rest →
        readBinary level (e.words ++ rest) = readChain level inner e rest) : Parses e := by
  refine ⟨hcorners, hpercents, hunary, hpower, fun level => ?_⟩
  -- By the rank of the level: either the formula is as loose, or the tighter level reads it.
  induction hrank : level.rank generalizing level with
  | zero =>
    intro inner htighter
    have := Level.rank_of_tighter? htighter
    omega
  | succ n ih =>
    intro inner htighter hloose rest hrest
    have hinner := Level.rank_of_tighter? htighter
    by_cases heq : e.looseness = level.rank + 3
    · exact hchain level inner htighter heq rest hrest
    · refine readBinary_of_inner htighter ?_
      cases htighter' : inner.tighter? with
      | none =>
        obtain rfl := Level.eq_power htighter'
        have htightest : Level.power.rank = 0 := rfl
        exact hpower (by omega) rest hrest
      | some innermost =>
        have hinnermost := Level.rank_of_tighter? htighter'
        rw [ih inner (by omega) innermost htighter' (by omega) rest (hrest.mono (by omega)),
          readChain_eq, hrest.levelOp?_eq_none]
        rfl

/-! ## 4. One formula after the other -/

theorem levelOp?_operator {op : BinaryOp} (h : op.level = level) :
    levelOp? level (.operator op :: ts) = some (op, ts) :=
  if_pos h

/-- A formula without an operator of its own is read as a power without an exponent. -/
theorem parses_of_unary (hloose : e.looseness ≤ 2)
    (hcorners : e.looseness = 0 → ∀ rest, StopsAt 0 rest →
      readCorners (e.words ++ rest) = .ok (e, rest))
    (hpercents : e.looseness ≤ 1 → ∀ rest, StopsAt 0 rest →
      readUnary (e.words ++ rest) = .ok (percents e rest))
    (hunary : ∀ rest, StopsAt 1 rest → readUnary (e.words ++ rest) = .ok (e, rest)) :
    Parses e := by
  refine parses_of_tight hcorners hpercents (fun _ => hunary) (fun _ rest hrest => ?_)
    fun level inner _ heq => by omega
  have hnone : levelOp? .power rest = none :=
    StopsAt.levelOp?_eq_none (show StopsAt (Level.power.rank + 3) rest from hrest)
  rw [readBinary_of_tightest rfl, hunary rest (hrest.mono (by omega)), ok_bind]
  simp only [hnone]
  rfl

/-- A formula without a sign of its own is read with the percent signs that follow it. -/
theorem parses_of_percents (hloose : e.looseness ≤ 1)
    (hcorners : e.looseness = 0 → ∀ rest, StopsAt 0 rest →
      readCorners (e.words ++ rest) = .ok (e, rest))
    (hpercents : ∀ rest, StopsAt 0 rest →
      readUnary (e.words ++ rest) = .ok (percents e rest)) : Parses e := by
  refine parses_of_unary (by omega) hcorners (fun _ => hpercents) fun rest hrest => ?_
  rw [hpercents rest (hrest.mono (Nat.zero_le _)), hrest.percents_eq]

/-- A constant, a reference, a name, a group or a call starts with no sign. -/
theorem parses_of_corners (hloose : e.looseness = 0)
    (h : ∀ rest, StopsAt 0 rest → readCorners (e.words ++ rest) = .ok (e, rest)) : Parses e := by
  refine parses_of_percents (by omega) (fun _ => h) fun rest hrest => ?_
  have hne (op : BinaryOp) (after : List Token) : e.words ++ rest ≠ .operator op :: after := by
    intro heq
    have hread := h rest hrest
    rw [heq, readCorners_eq, readOperand_operator] at hread
    cases hread
  rw [readUnary_of_ne (hne .subtract) (hne .add), h rest hrest]
  rfl

/-- What no colon follows is no corner. -/
theorem readCorners_of_operand (h : readOperand ts = .ok (e, rest)) (hrest : StopsAt 0 rest) :
    readCorners ts = .ok (e, rest) := by
  rw [readCorners_eq, h, ok_bind]
  dsimp only
  split
  · exact absurd (hrest _ rfl) (Nat.lt_irrefl _)
  · rfl

theorem parses_of_operand (hloose : e.looseness = 0)
    (h : ∀ rest, readOperand (e.words ++ rest) = .ok (e, rest)) : Parses e :=
  parses_of_corners hloose fun rest hrest => readCorners_of_operand (h rest) hrest

theorem readOperand_position (sheet : Option String) {pos : Position} (hpos : pos.OnGrid) :
    readOperand ((sheet.map Token.sheet).toList ++ .address pos.text :: ts) =
      .ok (.ref sheet (.cell pos), ts) := by
  rw [readOperand_address, addressExpr, read_text hpos]
  rfl

/-- The second corner of a rectangle is on the sheet of the first. -/
theorem parses_ref (sheet : Option String) {target : Reference} (h : target.Proper) :
    Parses (.ref sheet target) := by
  refine parses_of_corners rfl fun rest hrest => ?_
  cases target with
  | cell pos =>
    refine readCorners_of_operand ?_ hrest
    rw [Expr.words, Reference.words, List.append_assoc, List.singleton_append]
    exact readOperand_position sheet h
  | area first last =>
    obtain ⟨hfirst, hlast, hrow, hcol⟩ := h
    have hsheet : commonSheet sheet none = .ok sheet := by cases sheet <;> rfl
    rw [Expr.words, Reference.words, List.append_assoc, List.cons_append, List.cons_append,
      List.singleton_append, readCorners_eq, readOperand_position sheet hfirst, ok_bind]
    dsimp only
    rw [show readOperand (.address last.text :: rest) = .ok (.ref none (.cell last), rest) from
      readOperand_position none hlast, ok_bind]
    dsimp only
    rw [joinCorners, hsheet, map_ok, ok_bind, Reference.between_of_le hrow hcol]
    rfl

theorem parses_name (s : String) : Parses (.name s) := by
  refine parses_of_corners rfl fun rest hrest => readCorners_of_operand ?_ hrest
  refine readOperand_name (fun hhead => ?_) s
  exact absurd (hrest _ hhead) (Nat.lt_irrefl _)

theorem Parses.group (h : Parses e) : Parses (.group e) := by
  refine parses_of_operand rfl fun rest => ?_
  rw [Expr.words, List.cons_append, List.append_assoc, List.singleton_append, readOperand_group,
    h.whole (stopsAt_cons (by decide)), ok_bind]
  rfl

/-- A call is read if its arguments are. -/
theorem parses_call {function : String} (hf : IsFunction function) {args : List Expr}
    (h : args ≠ [] → ∀ rest, readArguments (argsWords args ++ .closeParen :: rest) =
      .ok (args, .closeParen :: rest)) : Parses (.call function args) := by
  refine parses_of_operand rfl fun rest => ?_
  rw [Expr.words, List.cons_append, List.cons_append, List.append_assoc, List.singleton_append]
  cases args with
  | nil =>
    rw [argsWords, List.nil_append, readOperand_emptyCall, hf.1]
  | cons e more =>
    have hne : ∀ rest', argsWords (e :: more) ++ .closeParen :: rest ≠ .closeParen :: rest' := by
      intro rest' heq
      obtain ⟨t, ts, hwords, ht⟩ := exists_words e
      cases more with
      | nil =>
        rw [argsWords, hwords] at heq
        exact ht (List.cons.inj heq).1
      | cons e' more =>
        rw [argsWords_cons e (List.cons_ne_nil e' more), hwords] at heq
        exact ht (List.cons.inj heq).1
    rw [readOperand_call hne, h (List.cons_ne_nil e more) rest, ok_bind, hf.1]
    rfl

theorem Parses.percent (h : Parses e) (hloose : e.looseness ≤ 1) : Parses (.percent e) := by
  refine parses_of_percents (Nat.le_refl _) nofun fun rest _ => ?_
  rw [Expr.words, List.append_assoc, List.singleton_append,
    h.percents hloose _ (stopsAt_cons (by decide))]
  rfl

theorem Parses.negate (h : Parses e) (hloose : e.looseness ≤ 2) : Parses (.negate e) := by
  refine parses_of_unary (Nat.le_refl _) nofun
    (fun h => absurd h (Nat.not_succ_le_self 1)) fun rest hrest => ?_
  rw [Expr.words, List.cons_append, readUnary_subtract, h.unary hloose rest hrest]
  rfl

theorem Level.eq_of_rank {l m : Level} (h : l.rank = m.rank) : l = m := by
  cases l <;> cases m <;> first | rfl | cases h

variable {op : BinaryOp} {left right : Expr}

/-- A power takes the signs and percent signs of its base, and a power as its exponent. -/
theorem Parses.powerOf (hop : op.level = .power) (hleft : Parses left)
    (hlooseLeft : left.looseness ≤ 2) (hright : Parses right) (hlooseRight : right.looseness ≤ 3) :
    Parses (.binary op left right) := by
  have hloose : (Expr.binary op left right).looseness = 3 := by rw [Expr.looseness, hop]; rfl
  refine parses_of_tight (fun h => by omega) (fun h => by omega) (fun h => by omega)
    (fun _ rest hrest => ?_) fun level inner htighter heq => ?_
  · have hstop : StopsAt 1 (.operator op :: (right.words ++ rest)) := by
      refine stopsAt_cons ?_
      rw [Token.reach, hop]
      decide
    rw [Expr.words, List.append_assoc, List.cons_append, readBinary_of_tightest rfl,
      hleft.unary hlooseLeft _ hstop, ok_bind]
    simp only [levelOp?_operator hop, hright.power hlooseRight rest hrest, ok_bind]
    rfl
  · have := Level.rank_of_tighter? htighter
    omega

/-- **An operator that associates to the left** goes on with the chain that its left operand
starts. -/
theorem Parses.chainOf (hop : op.level ≠ .power) (hleft : Parses left)
    (hlooseLeft : left.looseness ≤ op.level.rank + 3) (hright : Parses right)
    (hlooseRight : right.looseness ≤ op.level.rank + 2) : Parses (.binary op left right) := by
  have hpositive : 0 < op.level.rank := by
    refine Nat.pos_of_ne_zero fun hzero => hop (Level.eq_of_rank (hzero.trans rfl))
  have hloose : (Expr.binary op left right).looseness = op.level.rank + 3 := rfl
  refine parses_of_tight (fun h => by omega) (fun h => by omega) (fun h => by omega)
    (fun h => by omega) fun level inner htighter heq rest hrest => ?_
  obtain rfl : op.level = level := Level.eq_of_rank (by omega)
  have hrank := Level.rank_of_tighter? htighter
  have hstop : StopsAt (inner.rank + 3) (.operator op :: (right.words ++ rest)) := by
    refine stopsAt_cons ?_
    rw [Token.reach]
    omega
  rw [Expr.words, List.append_assoc, List.cons_append,
    hleft.chain _ inner htighter hlooseLeft _ hstop, readChain_eq, levelOp?_operator rfl]
  dsimp only
  rw [hright.binary (by omega) hrest, ok_bind]

mutual

/-- **A canonical formula is read from its words** by every step that is loose enough. -/
theorem parses_of_canonical : ∀ {e : Expr}, e.Canonical → Parses e
  | .number x, _ => parses_of_operand rfl fun _ => readOperand_constant rfl
  | .text s, _ => parses_of_operand rfl fun _ => readOperand_constant rfl
  | .bool b, _ => parses_of_operand rfl fun _ => readOperand_constant rfl
  | .error code, _ => parses_of_operand rfl fun _ => readOperand_constant rfl
  | .ref sheet _, h => parses_ref sheet h
  | .name s, _ => parses_name s
  | .negate _, h => (parses_of_canonical h.1).negate h.2
  | .percent _, h => (parses_of_canonical h.1).percent h.2
  | .group inner, h => (parses_of_canonical (e := inner) h).group
  | .call _ _, h => parses_call h.1 (readArguments_words h.2)
  | .binary op left right, ⟨hleft, hlooseLeft, hright, hlooseRight⟩ => by
    have hleft := parses_of_canonical hleft
    have hright := parses_of_canonical hright
    by_cases hop : op.level = .power
    · rw [BinaryOp.leftLimit, if_pos hop] at hlooseLeft
      rw [BinaryOp.rightLimit, if_pos hop] at hlooseRight
      exact .powerOf hop hleft hlooseLeft hright hlooseRight
    · rw [BinaryOp.leftLimit, if_neg hop] at hlooseLeft
      rw [BinaryOp.rightLimit, if_neg hop] at hlooseRight
      exact .chainOf hop hleft hlooseLeft hright hlooseRight

/-- Canonical arguments are read from their words. -/
theorem readArguments_words : ∀ {args : List Expr}, CanonicalAll args → args ≠ [] →
    ∀ rest, readArguments (argsWords args ++ .closeParen :: rest) = .ok (args, .closeParen :: rest)
  | [], _, h, _ => absurd rfl h
  | [e], h, _, rest => by
    rw [argsWords, readArguments_eq,
      (parses_of_canonical h.1).whole (stopsAt_cons (by decide)), ok_bind]
    rfl
  | e :: e' :: more, h, _, rest => by
    rw [argsWords_cons e (List.cons_ne_nil e' more), List.append_assoc, List.cons_append,
      readArguments_eq, (parses_of_canonical h.1).whole (stopsAt_cons (by decide)), ok_bind]
    dsimp only
    rw [readArguments_words h.2 (List.cons_ne_nil e' more) rest, ok_bind]
    rfl

end

/-- **A canonical formula is read from its words.** -/
theorem parseTokens_words (h : e.Canonical) : parseTokens e.words = .ok e := by
  have hread := (parses_of_canonical h).whole (stopsAt_nil 7)
  rw [List.append_nil] at hread
  rw [parseTokens_eq, hread]

end Steps

end Spreadsheet.Formula
