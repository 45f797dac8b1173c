/-
# What the grammar gives

* A formula is *canonical* if it can come out of the grammar: every operand binds as tightly as its
  place asks for, and its constants, names and references are such as words can be.
* Each step of the grammar is *sound*: from words that fit it takes a canonical formula, not looser
  than its level, and leaves words that fit.  The induction is the recursion of the grammar
  (`sound_binary`).
* So whatever is read from the words of a text is canonical (`canonical_of_parseTokens`).
-/
import Spreadsheet.Formula.Parser
import Spreadsheet.Proofs.Footprint
import Spreadsheet.Proofs.Words

namespace Spreadsheet.Formula

open Grid

/-! ## 1. The grammar without its measure -/

/-- A formula of a level, and the words behind it. -/
def readBinary (level : Level) (ts : List Token) : Except ParseFault (Expr × List Token) :=
  (binary level ts).map (·.1)

/-- A left operand with what the operators of a level add to it, and the words behind it. -/
def readChain (level inner : Level) (left : Expr) (ts : List Token) :
    Except ParseFault (Expr × List Token) :=
  (chain level inner left ts).map (·.1)

/-- An operand with its signs, and the words behind it. -/
def readUnary (ts : List Token) : Except ParseFault (Expr × List Token) := (unary ts).map (·.1)

/-- An operand or a rectangle, and the words behind it. -/
def readCorners (ts : List Token) : Except ParseFault (Expr × List Token) := (corners ts).map (·.1)

/-- A constant, a reference, a name, a group or a call, and the words behind it. -/
def readOperand (ts : List Token) : Except ParseFault (Expr × List Token) := (operand ts).map (·.1)

/-- The arguments of a call, and the words behind them. -/
def readArguments (ts : List Token) : Except ParseFault (List Expr × List Token) :=
  (arguments ts).map (·.1)

/-- The constant that a word is. -/
def Token.constant? : Token → Option Expr
  | .number x => some (.number x)
  | .text s => some (.text s)
  | .bool b => some (.bool b)
  | .error code => some (.error code)
  | _ => none

section Equations

-- every lemma of this section rewrites by the equations of the grammar: they are generated here, once
attribute [local simp] binary chain unary corners operand arguments

variable {level inner : Level} {ts : List Token} {left : Expr}

theorem length_lt_of_taken {α : Type} {x : Except ParseFault (Taken ts α)} {out : α × List Token}
    (h : x.map (·.1) = .ok out) : out.2.length < ts.length := by
  obtain ⟨taken, -, rfl⟩ := map_eq_ok_iff.mp h
  exact taken.2

theorem readBinary_eq :
    readBinary level ts = match level.tighter? with
      | some inner => do
        let (left, rest) ← readBinary inner ts
        readChain level inner left rest
      | none => do
        let (left, rest) ← readUnary ts
        match levelOp? level rest with
        | some (op, after) => do
          let (right, rest') ← readBinary level after
          return (.binary op left right, rest')
        | none => return (left, rest) := by
  rw [readBinary, binary]
  split
  · rename_i inner h
    simp only [h, readBinary]
    rcases hb : binary inner ts with fault | ⟨⟨l, rest⟩, hl⟩
    · rfl
    · simp only [readChain, map_ok, ok_bind]
      rcases hc : chain level inner l rest with fault | ⟨out, ho⟩ <;> rfl
  · rename_i h
    simp only [h, readUnary]
    rcases hb : unary ts with fault | ⟨⟨l, rest⟩, hl⟩
    · rfl
    · simp only [map_ok, ok_bind]
      split
      · rename_i op after ho
        simp only [ho, readBinary]
        rcases hc : binary level after with fault | ⟨⟨r, rest'⟩, hr⟩ <;> rfl
      · rename_i ho
        simp only [ho]
        rfl

theorem readBinary_of_tighter (h : level.tighter? = some inner) :
    readBinary level ts = (do
      let (left, rest) ← readBinary inner ts
      readChain level inner left rest) := by
  rw [readBinary_eq, h]

theorem readBinary_of_tightest (h : level.tighter? = none) :
    readBinary level ts = (do
      let (left, rest) ← readUnary ts
      match levelOp? level rest with
      | some (op, after) => do
        let (right, rest') ← readBinary level after
        return (.binary op left right, rest')
      | none => return (left, rest)) := by
  rw [readBinary_eq, h]

theorem readChain_eq :
    readChain level inner left ts =
      match levelOp? level ts with
      | some (op, after) => do
        let (right, rest) ← readBinary inner after
        readChain level inner (.binary op left right) rest
      | none => return (left, ts) := by
  rw [readChain, chain]
  split
  · rename_i op' after' h'
    simp only [h', readBinary]
    rcases hb : binary inner after' with fault | ⟨⟨r, rest⟩, hr⟩
    · rfl
    · simp only [readChain, map_ok, ok_bind]
      rcases hc : chain level inner (.binary op' left r) rest with fault | ⟨out, ho⟩ <;> rfl
  · rename_i h'
    simp only [h']
    rfl

theorem readUnary_subtract :
    readUnary (.operator .subtract :: ts) = (do
      let (operand, rest) ← readUnary ts
      return (.negate operand, rest)) := by
  rw [readUnary, unary, readUnary]
  rcases hb : unary ts with fault | ⟨⟨l, rest⟩, hl⟩ <;> rfl

theorem readUnary_add : readUnary (.operator .add :: ts) = readUnary ts := by
  rw [readUnary, unary, readUnary]
  rcases hb : unary ts with fault | ⟨⟨l, rest⟩, hl⟩ <;> rfl

theorem readUnary_of_ne (hsub : ∀ rest, ts ≠ .operator .subtract :: rest)
    (hadd : ∀ rest, ts ≠ .operator .add :: rest) :
    readUnary ts = (readCorners ts).map fun r => percents r.1 r.2 := by
  rw [readUnary, unary, readCorners]
  · rcases hb : corners ts with fault | ⟨⟨l, rest⟩, hl⟩ <;> rfl
  · exact hsub
  · exact hadd

theorem readCorners_eq :
    readCorners ts = (do
      let (left, rest) ← readOperand ts
      match rest with
      | .colon :: after => do
        let (right, rest') ← readOperand after
        let e ← joinCorners left right
        return (e, rest')
      | rest => return (left, rest)) := by
  rw [readCorners, corners, readOperand]
  rcases hb : operand ts with fault | ⟨⟨l, rest⟩, hl⟩
  · rfl
  · simp only [map_ok, ok_bind]
    split
    · rename_i after hl
      simp only [readOperand]
      rcases hc : operand after with fault | ⟨⟨r, rest'⟩, hr⟩
      · rfl
      · simp only [map_ok, ok_bind]
        rcases hj : joinCorners l r with fault | e <;> rfl
    · rename_i hne
      split
      · exact (hne _ _ rfl HEq.rfl).elim
      · rfl

theorem readArguments_eq :
    readArguments ts = (do
      let (first, rest) ← readBinary .comparison ts
      match rest with
      | .comma :: after => do
        let (more, rest') ← readArguments after
        return (first :: more, rest')
      | rest => return ([first], rest)) := by
  rw [readArguments, arguments, readBinary]
  rcases hb : binary .comparison ts with fault | ⟨⟨l, rest⟩, hl⟩
  · rfl
  · simp only [map_ok, ok_bind]
    split
    · rename_i after hl
      simp only [readArguments]
      rcases hc : arguments after with fault | ⟨⟨r, rest'⟩, hr⟩ <;> rfl
    · rename_i hne
      split
      · exact (hne _ _ rfl HEq.rfl).elim
      · rfl

/-- A constant is an operand of one word. -/
theorem readOperand_constant {t : Token} {e : Expr} (h : t.constant? = some e) :
    readOperand (t :: ts) = .ok (e, ts) := by
  unfold Token.constant? at h
  split at h <;> cases h <;> (rw [readOperand, operand]; rfl)

/-- An address with or without a sheet. -/
theorem readOperand_address (sheet : Option String) (text : String) :
    readOperand ((sheet.map Token.sheet).toList ++ .address text :: ts) = (do
      let e ← addressExpr sheet text
      return (e, ts)) := by
  cases sheet with
  | none =>
    rw [Option.map_none, Option.toList_none, List.nil_append, readOperand, operand]
    cases addressExpr none text <;> rfl
  | some name =>
    rw [Option.map_some, Option.toList_some, List.singleton_append, readOperand, operand]
    cases addressExpr (some name) text <;> rfl

theorem readOperand_name (h : ts.head? ≠ some .openParen) (s : String) :
    readOperand (.identifier s :: ts) = .ok (.name s, ts) := by
  rw [readOperand, operand]
  · rfl
  · rintro rest rfl
    exact h rfl
  · rintro rest rfl
    exact h rfl

theorem readOperand_emptyCall (f : String) :
    readOperand (.identifier f :: .openParen :: .closeParen :: ts) =
      .ok (.call (Text.asciiCapital f) [], ts) := by
  rw [readOperand, operand]
  rfl

theorem readOperand_operator (op : BinaryOp) :
    readOperand (.operator op :: ts) = .error (.unexpected (.operator op :: ts)) := by
  rw [readOperand, operand]
  · rfl
  all_goals
    intros
    rename_i h
    cases h

theorem readOperand_group :
    readOperand (.openParen :: ts) = (do
      let (inner, rest) ← readBinary .comparison ts
      match rest with
      | .closeParen :: after => return (.group inner, after)
      | next => throw (.expectedClosing next)) := by
  rw [readOperand, operand, readBinary]
  rcases hb : binary .comparison ts with fault | ⟨⟨l, rest⟩, hl⟩
  · rfl
  · simp only [map_ok, ok_bind]
    split
    · rfl
    · rename_i hne
      split
      · exact (hne _ _ rfl HEq.rfl).elim
      · rfl

theorem readOperand_call (h : ∀ rest, ts ≠ .closeParen :: rest) (f : String) :
    readOperand (.identifier f :: .openParen :: ts) = (do
      let (args, rest) ← readArguments ts
      match rest with
      | .closeParen :: after => return (.call (Text.asciiCapital f) args, after)
      | next => throw (.expectedClosing next)) := by
  rw [readOperand, operand, readArguments]
  · rcases hb : arguments ts with fault | ⟨⟨l, rest⟩, hl⟩
    · rfl
    · simp only [map_ok, ok_bind]
      split
      · rfl
      · rename_i hne
        split
        · exact (hne _ _ rfl HEq.rfl).elim
        · rfl
  · exact h

theorem parseTokens_eq :
    parseTokens ts = (match readBinary .comparison ts with
      | .ok (e, []) => .ok e
      | .ok (_, word :: _) => .error (.wordAfter word)
      | .error fault => .error fault) := by
  rw [parseTokens, readBinary]
  rcases hb : binary .comparison ts with fault | ⟨⟨e, _ | ⟨word, rest⟩⟩, hl⟩ <;> rfl

end Equations

/-! ## 2. Canonical formulas -/

/-- How loosely a formula holds together: not at all loosely, behind percent signs, behind a sign,
or around an operator, tight ones before loose ones. -/
def Expr.looseness : Expr → Nat
  | .percent _ => 1
  | .negate _ => 2
  | .binary op _ _ => op.level.rank + 3
  | _ => 0

/-- How loose the left operand may be.  Operators of one level associate to the left, but powers
do not. -/
def BinaryOp.leftLimit (op : BinaryOp) : Nat :=
  if op.level = .power then 2 else op.level.rank + 3

/-- How loose the right operand may be. -/
def BinaryOp.rightLimit (op : BinaryOp) : Nat :=
  if op.level = .power then 3 else op.level.rank + 2

mutual

/-- **A formula that can come out of the grammar.** -/
def Expr.Canonical : Expr → Prop
  | .number x => Decimal.Unsigned x
  | .ref _ target => target.Proper
  | .name s => IsName s
  | .binary op left right => left.Canonical ∧ left.looseness ≤ op.leftLimit ∧
      right.Canonical ∧ right.looseness ≤ op.rightLimit
  | .negate operand => operand.Canonical ∧ operand.looseness ≤ 2
  | .percent operand => operand.Canonical ∧ operand.looseness ≤ 1
  | .group inner => inner.Canonical
  | .call function args => IsFunction function ∧ CanonicalAll args
  | .text _ | .bool _ | .error _ => True

/-- Formulas that can come out of the grammar. -/
def CanonicalAll : List Expr → Prop
  | [] => True
  | e :: rest => e.Canonical ∧ CanonicalAll rest

end

/-! ## 3. Leaves -/

/-- **What cannot be taken for anything else in a formula:** numbers, error codes and names, those
of functions among them, whatever the case of their letters. -/
inductive Leaf where
  | number (x : Float)
  | error (code : ErrorCode)
  | name (capital : String)
deriving DecidableEq, Repr

/-- The leaf that a word makes. -/
def Token.leaf? : Token → Option Leaf
  | .number x => some (.number x)
  | .error code => some (.error code)
  | .identifier s => some (.name (Text.asciiCapital s))
  | _ => none

/-- The leaves among some words. -/
def leaves (ts : List Token) : List Leaf := ts.filterMap Token.leaf?

mutual

/-- The leaves of a formula, from left to right. -/
def Expr.leaves : Expr → List Leaf
  | .number x => [.number x]
  | .error code => [.error code]
  | .name s => [.name (Text.asciiCapital s)]
  | .binary _ left right => left.leaves ++ right.leaves
  | .negate operand => operand.leaves
  | .percent operand => operand.leaves
  | .group inner => inner.leaves
  | .call function args => .name (Text.asciiCapital function) :: leavesAll args
  | .text _ | .bool _ | .ref _ _ => []

/-- The leaves of some formulas. -/
def leavesAll : List Expr → List Leaf
  | [] => []
  | e :: rest => e.leaves ++ leavesAll rest

end

theorem leaves_append (ts us : List Token) : leaves (ts ++ us) = leaves ts ++ leaves us :=
  List.filterMap_append

theorem leaves_cons_none {t : Token} (h : t.leaf? = none) (ts : List Token) :
    leaves (t :: ts) = leaves ts :=
  List.filterMap_cons_none h

theorem leaves_cons_some {t : Token} {leaf : Leaf} (h : t.leaf? = some leaf) (ts : List Token) :
    leaves (t :: ts) = leaf :: leaves ts :=
  List.filterMap_cons_some h

theorem Level.eq_power {level : Level} (h : level.tighter? = none) : level = .power := by
  cases level <;> first | rfl | cases h

theorem Level.ne_power {level inner : Level} (h : level.tighter? = some inner) :
    level ≠ .power := by
  rintro rfl
  cases h

/-! ## 4. What is read is canonical -/

/-- **A step that gives canonical formulas only,** not looser than a limit, and leaves words that
fit.  Of the leaves before it, it keeps the order, and none is lost. -/
def Sound (limit : Nat) (before : List Leaf) (out : Except ParseFault (Expr × List Token)) : Prop :=
  ∀ e rest, out = .ok (e, rest) →
    e.Canonical ∧ e.looseness ≤ limit ∧ Fit rest ∧ before = e.leaves ++ leaves rest

section Soundness

variable {level inner : Level} {ts : List Token} {left : Expr}

theorem sound_ok {limit : Nat} {before : List Leaf} {e : Expr} (he : e.Canonical)
    (hloose : e.looseness ≤ limit) (hts : Fit ts) (hbefore : before = e.leaves ++ leaves ts) :
    Sound limit before (.ok (e, ts)) := by
  rintro e' rest' h
  obtain ⟨rfl, rfl⟩ := Prod.mk.inj (Except.ok.inj h)
  exact ⟨he, hloose, hts, hbefore⟩

theorem sound_error {limit : Nat} {before : List Leaf} (fault : ParseFault) :
    Sound limit before (.error fault) := nofun

theorem sound_binary_of_tighter (h : level.tighter? = some inner)
    (hleft : Sound (inner.rank + 3) (leaves ts) (readBinary inner ts))
    (hchain : ∀ left rest, rest.length < ts.length → left.Canonical →
      left.looseness ≤ level.rank + 3 → Fit rest →
      Sound (level.rank + 3) (left.leaves ++ leaves rest) (readChain level inner left rest)) :
    Sound (level.rank + 3) (leaves ts) (readBinary level ts) := by
  intro e rest he
  rw [readBinary_of_tighter h] at he
  obtain ⟨⟨l, mid⟩, hl, he⟩ := bind_eq_ok_iff.mp he
  obtain ⟨hcanonical, hloose, hfit, hleaves⟩ := hleft l mid hl
  have hrank := Level.rank_of_tighter? h
  rw [hleaves]
  exact hchain l mid (length_lt_of_taken hl) hcanonical (by omega) hfit e rest he

theorem sound_binary_of_tightest (h : level.tighter? = none)
    (hleft : Sound 2 (leaves ts) (readUnary ts))
    (hright : ∀ (rest : List Token), rest.length < ts.length → ∀ op after,
      levelOp? level rest = some (op, after) → Fit after →
      Sound (level.rank + 3) (leaves after) (readBinary level after)) :
    Sound (level.rank + 3) (leaves ts) (readBinary level ts) := by
  intro e rest he
  rw [readBinary_of_tightest h] at he
  obtain rfl := Level.eq_power h
  obtain ⟨⟨l, mid⟩, hl, he⟩ := bind_eq_ok_iff.mp he
  obtain ⟨hcanonical, hloose, hfit, hleaves⟩ := hleft l mid hl
  dsimp only at he
  split at he
  · rename_i op after hop
    obtain ⟨rfl, hlevel⟩ := levelOp?_eq_some hop
    obtain ⟨⟨r, rest'⟩, hr, he⟩ := bind_eq_ok_iff.mp he
    obtain ⟨rfl, rfl⟩ := Prod.mk.inj (Except.ok.inj he)
    obtain ⟨hcanonical', hloose', hfit', hleaves'⟩ :=
      hright _ (length_lt_of_taken hl) op after hop hfit.2 r rest' hr
    refine ⟨⟨hcanonical, ?_, hcanonical', ?_⟩, ?_, hfit', ?_⟩
    · rwa [BinaryOp.leftLimit, if_pos hlevel]
    · rwa [BinaryOp.rightLimit, if_pos hlevel]
    · simp [Expr.looseness, hlevel]
    · rw [hleaves, leaves_cons_none rfl, hleaves', Expr.leaves, List.append_assoc]
  · obtain ⟨rfl, rfl⟩ := Prod.mk.inj (Except.ok.inj he)
    exact ⟨hcanonical, by omega, hfit, hleaves⟩

theorem sound_chain (hop : ∀ op after, levelOp? level ts = some (op, after) → Fit after →
      Sound (inner.rank + 3) (leaves after) (readBinary inner after) ∧
        ∀ right rest, rest.length < after.length → (Expr.binary op left right).Canonical →
          Fit rest → Sound (level.rank + 3) ((Expr.binary op left right).leaves ++ leaves rest)
            (readChain level inner (.binary op left right) rest))
    (h : level.tighter? = some inner) (hcanonical : left.Canonical)
    (hloose : left.looseness ≤ level.rank + 3) (hts : Fit ts) :
    Sound (level.rank + 3) (left.leaves ++ leaves ts) (readChain level inner left ts) := by
  intro e rest he
  rw [readChain_eq] at he
  split at he
  · rename_i op after hafter
    obtain ⟨rfl, hlevel⟩ := levelOp?_eq_some hafter
    obtain ⟨hright, hchain⟩ := hop op after hafter hts.2
    obtain ⟨⟨r, mid⟩, hr, he⟩ := bind_eq_ok_iff.mp he
    obtain ⟨hcanonical', hloose', hfit, hleaves⟩ := hright r mid hr
    have hrank := Level.rank_of_tighter? h
    have hpower : op.level ≠ .power := hlevel ▸ Level.ne_power h
    have hbinary : (Expr.binary op left r).Canonical := by
      refine ⟨hcanonical, ?_, hcanonical', ?_⟩
      · rwa [BinaryOp.leftLimit, if_neg hpower, hlevel]
      · rw [BinaryOp.rightLimit, if_neg hpower, hlevel]
        omega
    have hbefore : left.leaves ++ leaves (.operator op :: after) =
        (Expr.binary op left r).leaves ++ leaves mid := by
      rw [leaves_cons_none rfl, hleaves, Expr.leaves, List.append_assoc]
    rw [hbefore]
    exact hchain r mid (length_lt_of_taken hr) hbinary hfit e rest he
  · obtain ⟨rfl, rfl⟩ := Prod.mk.inj (Except.ok.inj he)
    exact ⟨hcanonical, hloose, hts, rfl⟩

theorem sound_percents {e : Expr} (he : e.Canonical) (hloose : e.looseness ≤ 1) (hts : Fit ts) :
    (percents e ts).1.Canonical ∧ (percents e ts).1.looseness ≤ 1 ∧ Fit (percents e ts).2 ∧
      e.leaves ++ leaves ts = (percents e ts).1.leaves ++ leaves (percents e ts).2 := by
  fun_induction percents e ts with
  | case1 e rest ih =>
    rw [leaves_cons_none rfl]
    exact ih ⟨he, hloose⟩ (Nat.le_refl _) hts.2
  | case2 => exact ⟨he, hloose, hts, rfl⟩

theorem sound_unary_of_ne (hsub : ∀ rest, ts ≠ .operator .subtract :: rest)
    (hadd : ∀ rest, ts ≠ .operator .add :: rest) (h : Sound 0 (leaves ts) (readCorners ts)) :
    Sound 2 (leaves ts) (readUnary ts) := by
  intro e rest he
  rw [readUnary_of_ne hsub hadd] at he
  obtain ⟨⟨operand, mid⟩, hoperand, heq⟩ := map_eq_ok_iff.mp he
  obtain ⟨hcanonical, hloose, hfit, hleaves⟩ := h operand mid hoperand
  obtain ⟨hcanonical', hloose', hfit', hleaves'⟩ := sound_percents hcanonical (by omega) hfit
  dsimp only at heq
  rw [heq] at hcanonical' hloose' hfit' hleaves'
  exact ⟨hcanonical', Nat.le_succ_of_le hloose', hfit', hleaves.trans hleaves'⟩

theorem sound_negate (h : Sound 2 (leaves ts) (readUnary ts)) :
    Sound 2 (leaves (.operator .subtract :: ts)) (readUnary (.operator .subtract :: ts)) := by
  intro e rest he
  rw [readUnary_subtract] at he
  obtain ⟨⟨operand, mid⟩, hoperand, he⟩ := bind_eq_ok_iff.mp he
  obtain ⟨rfl, rfl⟩ := Prod.mk.inj (Except.ok.inj he)
  obtain ⟨hcanonical, hloose, hfit, hleaves⟩ := h operand mid hoperand
  exact ⟨⟨hcanonical, hloose⟩, Nat.le_refl _, hfit, hleaves⟩

/-- The rectangle between two references is canonical, and no leaf is near. -/
theorem canonical_of_joinCorners {right e : Expr} (hleft : left.Canonical)
    (hright : right.Canonical) (h : joinCorners left right = .ok e) :
    e.Canonical ∧ e.looseness = 0 ∧ left.leaves = [] ∧ right.leaves = [] ∧ e.leaves = [] := by
  unfold joinCorners at h
  split at h
  · obtain ⟨sheet, -, rfl⟩ := map_eq_ok_iff.mp h
    exact ⟨Reference.proper_between hleft hright, rfl, rfl, rfl, rfl⟩
  · cases h

theorem sound_corners (hleft : Sound 0 (leaves ts) (readOperand ts))
    (hright : ∀ after, after.length + 1 < ts.length → Fit after →
      Sound 0 (leaves after) (readOperand after)) : Sound 0 (leaves ts) (readCorners ts) := by
  intro e rest he
  rw [readCorners_eq] at he
  obtain ⟨⟨l, mid⟩, hl, he⟩ := bind_eq_ok_iff.mp he
  obtain ⟨hcanonical, hloose, hfit, hleaves⟩ := hleft l mid hl
  dsimp only at he
  split at he
  · rename_i after
    obtain ⟨⟨r, rest'⟩, hr, he⟩ := bind_eq_ok_iff.mp he
    obtain ⟨joined, hjoined, he⟩ := bind_eq_ok_iff.mp he
    obtain ⟨rfl, rfl⟩ := Prod.mk.inj (Except.ok.inj he)
    obtain ⟨hcanonical', -, hfit', hleaves'⟩ :=
      hright after (length_lt_of_taken hl) hfit.2 r rest' hr
    obtain ⟨hjoin, hzero, hleft', hright', hnone⟩ :=
      canonical_of_joinCorners hcanonical hcanonical' hjoined
    refine ⟨hjoin, Nat.le_of_eq hzero, hfit', ?_⟩
    rw [hleaves, leaves_cons_none rfl, hleaves', hleft', hright', hnone]
    rfl
  · obtain ⟨rfl, rfl⟩ := Prod.mk.inj (Except.ok.inj he)
    exact ⟨hcanonical, hloose, hfit, hleaves⟩

theorem sound_address (sheet : Option String) (text : String) (hts : Fit ts) :
    Sound 0 (leaves ts)
      (readOperand ((sheet.map Token.sheet).toList ++ .address text :: ts)) := by
  intro e rest he
  rw [readOperand_address] at he
  obtain ⟨found, hfound, he⟩ := bind_eq_ok_iff.mp he
  obtain ⟨rfl, rfl⟩ := Prod.mk.inj (Except.ok.inj he)
  unfold addressExpr at hfound
  split at hfound
  · rename_i pos hpos
    rw [← Except.ok.inj hfound]
    exact ⟨onGrid_of_read hpos, Nat.le_refl _, hts, rfl⟩
  · cases hfound

theorem sound_group (h : Sound 7 (leaves ts) (readBinary .comparison ts)) :
    Sound 0 (leaves (.openParen :: ts)) (readOperand (.openParen :: ts)) := by
  intro e rest he
  rw [readOperand_group] at he
  obtain ⟨⟨inner, mid⟩, hinner, he⟩ := bind_eq_ok_iff.mp he
  obtain ⟨hcanonical, -, hfit, hleaves⟩ := h inner mid hinner
  dsimp only at he
  split at he
  · obtain ⟨rfl, rfl⟩ := Prod.mk.inj (Except.ok.inj he)
    exact ⟨hcanonical, Nat.le_refl _, hfit.2, hleaves⟩
  · cases he

/-- Arguments that are canonical, with their leaves, and words that fit behind them. -/
def SoundArguments (ts : List Token) : Prop :=
  ∀ args rest, readArguments ts = .ok (args, rest) →
    CanonicalAll args ∧ Fit rest ∧ leaves ts = leavesAll args ++ leaves rest

theorem sound_arguments (hfirst : Sound 7 (leaves ts) (readBinary .comparison ts))
    (hmore : ∀ after, after.length + 1 < ts.length → Fit after → SoundArguments after) :
    SoundArguments ts := by
  intro args rest h
  rw [readArguments_eq] at h
  obtain ⟨⟨first, mid⟩, hmid, h⟩ := bind_eq_ok_iff.mp h
  obtain ⟨hcanonical, -, hfit, hleaves⟩ := hfirst first mid hmid
  dsimp only at h
  split at h
  · rename_i after
    obtain ⟨⟨more, rest'⟩, hmore', h⟩ := bind_eq_ok_iff.mp h
    obtain ⟨rfl, rfl⟩ := Prod.mk.inj (Except.ok.inj h)
    obtain ⟨hall, hfit', hleaves'⟩ :=
      hmore after (length_lt_of_taken hmid) hfit.2 more rest' hmore'
    refine ⟨⟨hcanonical, hall⟩, hfit', ?_⟩
    rw [hleaves, leaves_cons_none rfl, hleaves', leavesAll, List.append_assoc]
  · obtain ⟨rfl, rfl⟩ := Prod.mk.inj (Except.ok.inj h)
    refine ⟨⟨hcanonical, trivial⟩, hfit, ?_⟩
    rw [hleaves, leavesAll, leavesAll, List.append_nil]

theorem isFunction_of_fits {f : String} (h : (Token.identifier f).Fits (.openParen :: ts)) :
    IsFunction (Text.asciiCapital f) :=
  isFunction_asciiCapital (h.imp_right And.left)

/-- The name of a function is a leaf whether its letters are capital or not. -/
theorem leaves_call (f : String) (args : List Expr) :
    (Expr.call (Text.asciiCapital f) args).leaves =
      .name (Text.asciiCapital f) :: leavesAll args := by
  rw [Expr.leaves, asciiCapital_asciiCapital]

theorem sound_call (hne : ∀ rest, ts ≠ .closeParen :: rest) {f : String}
    (hf : (Token.identifier f).Fits (.openParen :: ts)) (h : SoundArguments ts) :
    Sound 0 (leaves (.identifier f :: .openParen :: ts))
      (readOperand (.identifier f :: .openParen :: ts)) := by
  intro e rest he
  rw [readOperand_call hne] at he
  obtain ⟨⟨args, mid⟩, hargs, he⟩ := bind_eq_ok_iff.mp he
  obtain ⟨hcanonical, hfit, hleaves⟩ := h args mid hargs
  dsimp only at he
  split at he
  · obtain ⟨rfl, rfl⟩ := Prod.mk.inj (Except.ok.inj he)
    refine ⟨⟨isFunction_of_fits hf, hcanonical⟩, Nat.le_refl _, hfit.2, ?_⟩
    rw [leaves_cons_some rfl, leaves_cons_none rfl, hleaves, leaves_cons_none rfl, leaves_call,
      List.cons_append]
  · cases he

theorem sound_name {s : String} (hne : ∀ rest, ts ≠ .openParen :: rest)
    (hs : (Token.identifier s).Fits ts) (hts : Fit ts) :
    Sound 0 (leaves (.identifier s :: ts)) (readOperand (.identifier s :: ts)) := by
  have hhead : ts.head? ≠ some .openParen := by
    intro hhead
    obtain ⟨rest, hrest⟩ := List.head?_eq_some_iff.mp hhead
    exact hne rest hrest
  rw [readOperand_name hhead]
  refine sound_ok ?_ (Nat.le_refl _) hts rfl
  exact hs.resolve_right fun h => hhead h.2

end Soundness

/-- **Every step of the grammar is sound,** by the recursion of the grammar. -/
theorem sound_binary (level : Level) (ts : List Token) (hts : Fit ts) :
    Sound (level.rank + 3) (leaves ts) (readBinary level ts) := by
  revert hts
  refine (binary.mutual_induct
    (fun level ts => Fit ts → Sound (level.rank + 3) (leaves ts) (readBinary level ts))
    (fun ts => Fit ts → Sound 2 (leaves ts) (readUnary ts))
    (fun ts => Fit ts → Sound 0 (leaves ts) (readCorners ts))
    (fun ts => Fit ts → Sound 0 (leaves ts) (readOperand ts))
    (fun ts => Fit ts → SoundArguments ts)
    (fun level inner left ts => level.tighter? = some inner → left.Canonical →
      left.looseness ≤ level.rank + 3 → Fit ts →
      Sound (level.rank + 3) (left.leaves ++ leaves ts) (readChain level inner left ts))
    ?tighter ?tightest ?minus ?plus ?unsigned ?corners ?number ?text ?bool ?error ?address
    ?sheetAddress ?sheetOnly ?group ?emptyCall ?call ?name ?fault ?arguments ?chain ?chainEnd).1
    level ts
  case tighter =>
    intro level ts inner h hleft hchain hts
    exact sound_binary_of_tighter h (hleft hts) fun left rest hlt => hchain left rest hlt h
  case tightest =>
    intro level ts h hleft hright hts
    exact sound_binary_of_tightest h (hleft hts) fun rest hlt op after hop =>
      hright (.text "") rest hlt op after hop
  case minus =>
    intro rest ih hts
    exact sound_negate (ih hts.2)
  case plus =>
    intro rest ih hts
    rw [readUnary_add]
    exact ih hts.2
  case unsigned =>
    intro ts hsub hadd ih hts
    exact sound_unary_of_ne (fun rest h => hsub rest h) (fun rest h => hadd rest h) (ih hts)
  case corners =>
    intro ts hleft hright hts
    exact sound_corners (hleft hts) fun after hlt => hright (.text "") [] after hlt
  case number =>
    intro x rest hts
    rw [readOperand_constant rfl]
    exact sound_ok hts.1 (Nat.le_refl _) hts.2 rfl
  case text =>
    intro s rest hts
    rw [readOperand_constant rfl]
    exact sound_ok trivial (Nat.le_refl _) hts.2 rfl
  case bool =>
    intro b rest hts
    rw [readOperand_constant rfl]
    exact sound_ok trivial (Nat.le_refl _) hts.2 rfl
  case error =>
    intro code rest hts
    rw [readOperand_constant rfl]
    exact sound_ok trivial (Nat.le_refl _) hts.2 rfl
  case address =>
    intro text rest hts
    exact sound_address none text hts.2
  case sheetAddress =>
    intro name text rest hts
    exact sound_address (some name) text hts.2.2
  case sheetOnly =>
    intro name rest hne hts
    rw [readOperand, operand]
    · exact sound_error _
    · exact hne
  case group =>
    intro rest ih hts
    exact sound_group (ih hts.2)
  case emptyCall =>
    intro function rest hts
    rw [readOperand_emptyCall]
    refine sound_ok ⟨isFunction_of_fits hts.1, trivial⟩ (Nat.le_refl _) hts.2.2.2 ?_
    rw [leaves_call]
    rfl
  case call =>
    intro function rest hne ih hts
    exact sound_call (fun rest' h => hne rest' h) hts.1 (ih hts.2.2)
  case name =>
    intro name rest _ hne hts
    exact sound_name (fun rest' h => hne rest' h) hts.1 hts.2
  case fault =>
    intro ts h₁ h₂ h₃ h₄ h₅ h₆ h₇ h₈ h₉ h₁₀ h₁₁ hts
    rw [readOperand, operand]
    · exact sound_error _
    all_goals assumption
  case arguments =>
    intro ts hfirst hmore hts
    exact sound_arguments (hfirst hts) fun after hlt => hmore (.text "") [] after hlt
  case chain =>
    intro level inner left ts op after hop hlength hright hchain h hcanonical hloose hts
    refine sound_chain (fun op' after' hop' hafter => ?_) h hcanonical hloose hts
    obtain ⟨rfl, rfl⟩ := Prod.mk.inj (Option.some.inj (hop.symm.trans hop'))
    refine ⟨hright hafter, fun right rest hlt hbinary hrest => ?_⟩
    refine hchain right rest hlt h hbinary ?_ hrest
    rw [← (levelOp?_eq_some hop).2]
    exact Nat.le_refl _
  case chainEnd =>
    intro level inner left ts hop h hcanonical hloose hts
    rw [readChain_eq, hop]
    exact sound_ok hcanonical hloose hts rfl

/-- **Whatever is read from words that fit is canonical,** and has their leaves. -/
theorem canonical_of_parseTokens {ts : List Token} {e : Expr} (hts : Fit ts)
    (h : parseTokens ts = .ok e) : e.Canonical ∧ leaves ts = e.leaves := by
  rw [parseTokens_eq] at h
  split at h
  · rename_i e' he
    obtain ⟨hcanonical, -, -, hleaves⟩ := sound_binary .comparison ts hts e' [] he
    rw [← Except.ok.inj h]
    exact ⟨hcanonical, hleaves.trans (List.append_nil _)⟩
  · cases h
  · cases h

end Spreadsheet.Formula
