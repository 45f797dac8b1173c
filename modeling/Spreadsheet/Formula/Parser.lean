/-
# Reading a formula

* The grammar is read from the words by descent, one function per level.  A step gives a tree and
  the words behind it, together with the fact that there are fewer of them; that fact is what the
  recursion ends by.
* A level that associates to the left reads one operand and then, as long as operators of that
  level follow, operator and operand.  A power reads its exponent as a power again.
* The first fault met from left to right is the one that is reported.
-/
import Spreadsheet.Formula.Token

namespace Spreadsheet.Formula

open Grid

/-! ## 1. Faults -/

/-- **Why a text is no formula.** -/
inductive ParseFault where
  | empty
  | wordAfter (word : Token)
  | expectedClosing (next : List Token)
  | sheetWithoutAddress (sheet : String) (next : List Token)
  | badAddress (text : String) (fault : AddressFault)
  | differentSheets
  | notACorner
  | unterminated
  | badCharacter (c : Char)
  | unexpected (next : List Token)
deriving Repr

/-- What is said about a text that is no formula. -/
def ParseFault.message : ParseFault → String
  | .empty => "Empty formula"
  | .wordAfter word => "Unexpected " ++ word.shown ++ " after expression"
  | .expectedClosing next => "Expected RightParen, got " ++ shownNext next
  | .sheetWithoutAddress sheet next =>
    "Expected cell reference after '" ++ sheet ++ "!', got " ++ shownNext next
  | .badAddress text fault => "Invalid cell reference '" ++ text ++ "': " ++ fault.message
  | .differentSheets => "Range references must be on the same sheet"
  | .notACorner => "Range operator requires cell references on both sides"
  | .unterminated => "Unterminated quoted text"
  | .badCharacter c => "Unexpected character '" ++ String.singleton c ++ "'"
  | .unexpected next => "Unexpected token: " ++ shownNext next

/-! ## 2. Steps -/

/-- **What a step takes off the front of `ts`:** a result and the words behind it, which are
fewer. -/
abbrev Taken (ts : List Token) (α : Type) := { out : α × List Token // out.2.length < ts.length }

/-- What a step that may take no word at all leaves of `ts`. -/
abbrev Left (ts : List Token) (α : Type) := { out : α × List Token // out.2.length ≤ ts.length }

/-- The reference that an address makes. -/
def addressExpr (sheet : Option String) (text : String) : Except ParseFault Expr :=
  match Position.read text with
  | .ok pos => .ok (.ref sheet (.cell pos))
  | .error fault => .error (.badAddress text fault)

/-- The one sheet that the corners of a rectangle are on.  A corner without a sheet is on the
sheet of the other one. -/
def commonSheet : Option String → Option String → Except ParseFault (Option String)
  | some a, some b => if Text.sameLetters a b then .ok (some a) else .error .differentSheets
  | some a, none => .ok (some a)
  | none, b => .ok b

/-- The rectangle between two corners. -/
def joinCorners : Expr → Expr → Except ParseFault Expr
  | .ref s (.cell a), .ref t (.cell b) => (commonSheet s t).map fun sheet =>
      .ref sheet (.between a b)
  | _, _ => .error .notACorner

/-- The fault of a word that starts no operand. -/
def operandFault : List Token → ParseFault
  | .unterminated :: _ => .unterminated
  | .invalid c :: _ => .badCharacter c
  | ts => .unexpected ts

/-- The operator at the front, if it is one of the level. -/
def levelOp? (level : Level) : List Token → Option (BinaryOp × List Token)
  | .operator op :: rest => if op.level = level then some (op, rest) else none
  | _ => none

theorem levelOp?_eq_some {level : Level} {ts rest : List Token} {op : BinaryOp}
    (h : levelOp? level ts = some (op, rest)) : ts = .operator op :: rest ∧ op.level = level := by
  unfold levelOp? at h
  split at h
  · split at h
    · rename_i hl
      simp only [Option.some.injEq, Prod.mk.injEq] at h
      obtain ⟨rfl, rfl⟩ := h
      exact ⟨rfl, hl⟩
    · simp at h
  · simp at h

/-- Takes the percent signs that follow an operand. -/
def percents (operand : Expr) : List Token → Expr × List Token
  | .percent :: rest => percents (.percent operand) rest
  | ts => (operand, ts)

theorem percents_rest_le (operand : Expr) (ts : List Token) :
    (percents operand ts).2.length ≤ ts.length := by
  fun_induction percents operand ts with
  | case1 operand rest ih => exact Nat.le_succ_of_le ih
  | case2 => exact Nat.le_refl _

/-! ## 3. The grammar -/

mutual

/-- **A formula of a level,** or of a tighter one. -/
def binary (level : Level) (ts : List Token) : Except ParseFault (Taken ts Expr) :=
  match h : level.tighter? with
  | some inner => do
    let ⟨(left, rest), hl⟩ ← binary inner ts
    let ⟨out, hr⟩ ← chain level inner left rest
    return ⟨out, by dsimp only at hl; omega⟩
  | none => do
    let ⟨(left, rest), hl⟩ ← unary ts
    match ho : levelOp? level rest with
    | some (op, after) =>
      have hlen := congrArg List.length (levelOp?_eq_some ho).1
      let ⟨(right, rest'), hr⟩ ← binary level after
      return ⟨(.binary op left right, rest'), by
        simp only [List.length_cons] at hlen hl hr ⊢; omega⟩
    | none => return ⟨(left, rest), hl⟩
termination_by 16 * ts.length + level.rank + 6
decreasing_by
  · have := Level.rank_of_tighter? h; omega
  · have : level.rank ≤ 4 := by cases level <;> simp [Level.rank]
    dsimp only at hl
    omega
  · omega
  · simp only [List.length_cons] at hlen hl; omega

/-- Operators of a level and their right operands, behind a left operand. -/
def chain (level inner : Level) (left : Expr) (ts : List Token) :
    Except ParseFault (Left ts Expr) :=
  match ho : levelOp? level ts with
  | some (op, after) => do
    have hlen := congrArg List.length (levelOp?_eq_some ho).1
    let ⟨(right, rest), hr⟩ ← binary inner after
    let ⟨out, hm⟩ ← chain level inner (.binary op left right) rest
    return ⟨out, by simp only [List.length_cons] at hlen hr; omega⟩
  | none => return ⟨(left, ts), Nat.le_refl _⟩
termination_by 16 * ts.length
decreasing_by
  · have : inner.rank ≤ 4 := by cases inner <;> simp [Level.rank]
    simp only [List.length_cons] at hlen
    omega
  · simp only [List.length_cons] at hlen hr; omega

/-- An operand with the signs before it and the percent signs behind it. -/
def unary (ts : List Token) : Except ParseFault (Taken ts Expr) :=
  match ts with
  | .operator .subtract :: rest => do
    let ⟨(operand, rest'), h⟩ ← unary rest
    return ⟨(.negate operand, rest'), Nat.lt_succ_of_lt h⟩
  | .operator .add :: rest => do
    let ⟨out, h⟩ ← unary rest
    return ⟨out, Nat.lt_succ_of_lt h⟩
  | ts => do
    let ⟨(operand, rest), h⟩ ← corners ts
    return ⟨percents operand rest, Nat.lt_of_le_of_lt (percents_rest_le operand rest) h⟩
termination_by 16 * ts.length + 5

/-- An operand, or the rectangle between two of them. -/
def corners (ts : List Token) : Except ParseFault (Taken ts Expr) := do
  let ⟨(left, rest), hl⟩ ← operand ts
  match rest, hl with
  | .colon :: after, hl =>
    let ⟨(right, rest'), hr⟩ ← operand after
    let e ← joinCorners left right
    return ⟨(e, rest'), by simp only [List.length_cons] at hl hr ⊢; omega⟩
  | rest, hl => return ⟨(left, rest), hl⟩
termination_by 16 * ts.length + 4
decreasing_by
  · omega
  · simp only [List.length_cons] at hl; omega

/-- A constant, a reference, a name, a group or a call. -/
def operand (ts : List Token) : Except ParseFault (Taken ts Expr) :=
  match ts with
  | .number x :: rest => return ⟨(.number x, rest), Nat.lt_succ_self _⟩
  | .text s :: rest => return ⟨(.text s, rest), Nat.lt_succ_self _⟩
  | .bool b :: rest => return ⟨(.bool b, rest), Nat.lt_succ_self _⟩
  | .error code :: rest => return ⟨(.error code, rest), Nat.lt_succ_self _⟩
  | .address text :: rest => do
    let e ← addressExpr none text
    return ⟨(e, rest), Nat.lt_succ_self _⟩
  | .sheet name :: .address text :: rest => do
    let e ← addressExpr (some name) text
    return ⟨(e, rest), Nat.lt_succ_of_lt (Nat.lt_succ_self _)⟩
  | .sheet name :: rest => throw (.sheetWithoutAddress name rest)
  | .openParen :: rest => do
    let ⟨(inner, rest'), h⟩ ← binary .comparison rest
    match rest', h with
    | .closeParen :: after, h =>
      return ⟨(.group inner, after), by simp only [List.length_cons] at h ⊢; omega⟩
    | next, _ => throw (.expectedClosing next)
  | .identifier function :: .openParen :: .closeParen :: rest =>
    return ⟨(.call (Text.asciiCapital function) [], rest), by simp only [List.length_cons]; omega⟩
  | .identifier function :: .openParen :: rest => do
    let ⟨(args, rest'), h⟩ ← arguments rest
    match rest', h with
    | .closeParen :: after, h =>
      return ⟨(.call (Text.asciiCapital function) args, after), by
        simp only [List.length_cons] at h ⊢; omega⟩
    | next, _ => throw (.expectedClosing next)
  | .identifier name :: rest => return ⟨(.name name, rest), Nat.lt_succ_self _⟩
  | ts => throw (operandFault ts)
termination_by 16 * ts.length + 3
decreasing_by
  · simp only [Level.rank, List.length_cons]; omega
  · simp only [List.length_cons]; omega

/-- The arguments of a call, at least one. -/
def arguments (ts : List Token) : Except ParseFault (Taken ts (List Expr)) := do
  let ⟨(first, rest), h⟩ ← binary .comparison ts
  match rest, h with
  | .comma :: after, h =>
    let ⟨(more, rest'), hm⟩ ← arguments after
    return ⟨(first :: more, rest'), by simp only [List.length_cons] at h hm ⊢; omega⟩
  | rest, h => return ⟨([first], rest), h⟩
termination_by 16 * ts.length + 11
decreasing_by
  · simp only [Level.rank]; omega
  · simp only [List.length_cons] at h; omega

end

/-! ## 4. Whole formulas -/

/-- The formula that words make, all of them together. -/
def parseTokens (ts : List Token) : Except ParseFault Expr :=
  match binary .comparison ts with
  | .ok ⟨(e, []), _⟩ => .ok e
  | .ok ⟨(_, word :: _), _⟩ => .error (.wordAfter word)
  | .error fault => .error fault

/-- The characters of a formula without the equals sign in front. -/
def withoutEquals : List Char → List Char
  | '=' :: rest => rest
  | cs => cs

/-- **Reads a formula.**  The equals sign in front is optional. -/
def parse (text : String) : Except ParseFault Expr :=
  let cs := withoutEquals (Text.trimChars text.toList)
  if (Text.skipBlanks cs).isEmpty then .error .empty else parseTokens (tokens cs)

end Spreadsheet.Formula
