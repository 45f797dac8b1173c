/-
# Calls that reading does not add

* A call of `INDIRECT` stands among the words of a formula as a name before an opening parenthesis, at
  the start or right behind a word after which an operand may stand (`Calls`).
* Each step of the grammar leaves a part of its words behind, and what it gives calls `INDIRECT` only
  if its words do (`keepsCalls_binary`).  The induction is the recursion of the grammar.
-/
import Spreadsheet.Proofs.Grammar

namespace Spreadsheet.Formula

open Grid

/-! ## 1. Calls among words -/

/-- Words after which an operand may stand. -/
def Token.opens : Token → Bool
  | .operator _ | .comma | .openParen | .colon => true
  | _ => false

/-- **The words start with a call of `INDIRECT`.** -/
def CallsFirst (ts : List Token) : Prop :=
  ∃ s after, ts = .identifier s :: .openParen :: after ∧ Function.find? s = some .indirect

/-- **A call of `INDIRECT` stands behind a word after which an operand may stand.** -/
def CallsBehind (ts : List Token) : Prop :=
  ∃ t rest, t :: rest <:+ ts ∧ t.opens = true ∧ CallsFirst rest

/-- **A call of `INDIRECT` stands among the words** where an operand may stand. -/
def Calls (ts : List Token) : Prop := CallsFirst ts ∨ CallsBehind ts

theorem CallsBehind.of_suffix {ts us : List Token} (h : CallsBehind ts) (hsuffix : ts <:+ us) :
    CallsBehind us := by
  obtain ⟨t, rest, hrest, hopens, hfirst⟩ := h
  exact ⟨t, rest, hrest.trans hsuffix, hopens, hfirst⟩

theorem Calls.behind {ts : List Token} (h : Calls ts) {t : Token} (hopens : t.opens = true) :
    CallsBehind (t :: ts) := by
  rcases h with hfirst | hbehind
  · exact ⟨t, ts, List.suffix_rfl, hopens, hfirst⟩
  · exact hbehind.of_suffix (List.suffix_cons t ts)

/-! ## 2. What the grammar reads -/

/-- **A step that adds no call:** it leaves a part of its words behind, and what it gives calls
`INDIRECT` only if the words do. -/
def KeepsCalls (ts : List Token) (out : Except ParseFault (Expr × List Token)) : Prop :=
  ∀ e rest, out = .ok (e, rest) → rest <:+ ts ∧ (e.callsIndirect = true → Calls ts)

section Grammar

variable {level inner : Level} {ts : List Token} {left : Expr}

theorem keepsCalls_ok {e : Expr} (he : e.callsIndirect = false) {rest : List Token}
    (hrest : rest <:+ ts) : KeepsCalls ts (.ok (e, rest)) := by
  rintro e' rest' h
  obtain ⟨rfl, rfl⟩ := Prod.mk.inj (Except.ok.inj h)
  exact ⟨hrest, fun hcalls => absurd hcalls (by simp [he])⟩

theorem keepsCalls_error (fault : ParseFault) : KeepsCalls ts (.error fault) := nofun

/-- The operators of a level add the calls of their right operands. -/
def ChainKeepsCalls (level inner : Level) (left : Expr) (ts : List Token) : Prop :=
  ∀ e rest, readChain level inner left ts = .ok (e, rest) →
    rest <:+ ts ∧ (e.callsIndirect = true → left.callsIndirect = true ∨ CallsBehind ts)

theorem keepsCalls_binary_of_tighter (h : level.tighter? = some inner)
    (hleft : KeepsCalls ts (readBinary inner ts))
    (hchain : ∀ left rest, rest.length < ts.length → ChainKeepsCalls level inner left rest) :
    KeepsCalls ts (readBinary level ts) := by
  intro e rest he
  rw [readBinary_of_tighter h] at he
  obtain ⟨⟨l, mid⟩, hl, he⟩ := bind_eq_ok_iff.mp he
  obtain ⟨hmid, hcalls⟩ := hleft l mid hl
  obtain ⟨hrest, hcalls'⟩ := hchain l mid (length_lt_of_taken hl) e rest he
  exact ⟨hrest.trans hmid, fun hcall =>
    (hcalls' hcall).elim hcalls fun hbehind => .inr (hbehind.of_suffix hmid)⟩

theorem keepsCalls_binary_of_tightest (h : level.tighter? = none)
    (hleft : KeepsCalls ts (readUnary ts))
    (hright : ∀ rest : List Token, rest.length < ts.length → ∀ op after,
      levelOp? level rest = some (op, after) → KeepsCalls after (readBinary level after)) :
    KeepsCalls ts (readBinary level ts) := by
  intro e rest he
  rw [readBinary_of_tightest h] at he
  obtain ⟨⟨l, mid⟩, hl, he⟩ := bind_eq_ok_iff.mp he
  obtain ⟨hmid, hcalls⟩ := hleft l mid hl
  dsimp only at he
  split at he
  · rename_i op after hop
    obtain ⟨rfl, -⟩ := levelOp?_eq_some hop
    obtain ⟨⟨r, rest'⟩, hr, he⟩ := bind_eq_ok_iff.mp he
    obtain ⟨rfl, rfl⟩ := Prod.mk.inj (Except.ok.inj he)
    obtain ⟨hrest, hcalls'⟩ := hright _ (length_lt_of_taken hl) op after hop r rest' hr
    refine ⟨(hrest.trans (List.suffix_cons _ _)).trans hmid, fun hcall => ?_⟩
    rcases Bool.or_eq_true_iff.mp hcall with hcall | hcall
    · exact hcalls hcall
    · exact .inr (((hcalls' hcall).behind rfl).of_suffix hmid)
  · obtain ⟨rfl, rfl⟩ := Prod.mk.inj (Except.ok.inj he)
    exact ⟨hmid, hcalls⟩

theorem chainKeepsCalls_of_step (hop : ∀ op after, levelOp? level ts = some (op, after) →
    KeepsCalls after (readBinary inner after) ∧ ∀ right rest, rest.length < after.length →
      ChainKeepsCalls level inner (.binary op left right) rest) :
    ChainKeepsCalls level inner left ts := by
  intro e rest he
  rw [readChain_eq] at he
  split at he
  · rename_i op after hafter
    obtain ⟨rfl, -⟩ := levelOp?_eq_some hafter
    obtain ⟨hright, hchain⟩ := hop op after hafter
    obtain ⟨⟨r, mid⟩, hr, he⟩ := bind_eq_ok_iff.mp he
    obtain ⟨hmid, hcalls⟩ := hright r mid hr
    obtain ⟨hrest, hcalls'⟩ := hchain r mid (length_lt_of_taken hr) e rest he
    have hafter' : mid <:+ .operator op :: after := hmid.trans (List.suffix_cons _ _)
    refine ⟨hrest.trans hafter', fun hcall => ?_⟩
    rcases hcalls' hcall with hbinary | hbehind
    · exact (Bool.or_eq_true_iff.mp hbinary).imp_right fun hr => (hcalls hr).behind rfl
    · exact .inr (hbehind.of_suffix hafter')
  · obtain ⟨rfl, rfl⟩ := Prod.mk.inj (Except.ok.inj he)
    exact ⟨List.suffix_rfl, .inl⟩

theorem callsIndirect_percents (e : Expr) (ts : List Token) :
    (percents e ts).1.callsIndirect = e.callsIndirect ∧ (percents e ts).2 <:+ ts := by
  fun_induction percents e ts with
  | case1 e rest ih => exact ⟨ih.1, ih.2.trans (List.suffix_cons _ _)⟩
  | case2 => exact ⟨rfl, List.suffix_rfl⟩

theorem keepsCalls_sign {op : BinaryOp} {rest : List Token} {e : Expr} (hrest : rest <:+ ts)
    (hcalls : e.callsIndirect = true → Calls ts) :
    rest <:+ .operator op :: ts ∧ (e.callsIndirect = true → Calls (.operator op :: ts)) :=
  ⟨hrest.trans (List.suffix_cons _ _), fun hcall => .inr ((hcalls hcall).behind rfl)⟩

theorem keepsCalls_corners (hleft : KeepsCalls ts (readOperand ts))
    (hright : ∀ after, after.length + 1 < ts.length → KeepsCalls after (readOperand after)) :
    KeepsCalls ts (readCorners ts) := by
  intro e rest he
  rw [readCorners_eq] at he
  obtain ⟨⟨l, mid⟩, hl, he⟩ := bind_eq_ok_iff.mp he
  obtain ⟨hmid, hcalls⟩ := hleft l mid hl
  dsimp only at he
  split at he
  · rename_i after
    obtain ⟨⟨r, rest'⟩, hr, he⟩ := bind_eq_ok_iff.mp he
    obtain ⟨joined, hjoined, he⟩ := bind_eq_ok_iff.mp he
    obtain ⟨rfl, rfl⟩ := Prod.mk.inj (Except.ok.inj he)
    obtain ⟨hrest, -⟩ := hright after (length_lt_of_taken hl) r rest' hr
    refine ⟨(hrest.trans (List.suffix_cons _ _)).trans hmid, fun hcall => ?_⟩
    -- a rectangle calls nothing
    unfold joinCorners at hjoined
    split at hjoined
    · obtain ⟨sheet, -, rfl⟩ := map_eq_ok_iff.mp hjoined
      cases hcall
    · cases hjoined
  · obtain ⟨rfl, rfl⟩ := Prod.mk.inj (Except.ok.inj he)
    exact ⟨hmid, hcalls⟩

theorem keepsCalls_address (sheet : Option String) (text : String) {rest : List Token}
    (hts : ts = (sheet.map Token.sheet).toList ++ .address text :: rest) :
    KeepsCalls ts (readOperand ts) := by
  subst hts
  rw [readOperand_address]
  intro e rest' he
  obtain ⟨found, hfound, he⟩ := bind_eq_ok_iff.mp he
  obtain ⟨rfl, rfl⟩ := Prod.mk.inj (Except.ok.inj he)
  refine ⟨(List.suffix_cons _ _).trans (List.suffix_append _ _), fun hcall => ?_⟩
  unfold addressExpr at hfound
  split at hfound
  · rw [← Except.ok.inj hfound] at hcall
    cases hcall
  · cases hfound

theorem keepsCalls_group (h : KeepsCalls ts (readBinary .comparison ts)) :
    KeepsCalls (.openParen :: ts) (readOperand (.openParen :: ts)) := by
  intro e rest he
  rw [readOperand_group] at he
  obtain ⟨⟨inner, mid⟩, hinner, he⟩ := bind_eq_ok_iff.mp he
  obtain ⟨hmid, hcalls⟩ := h inner mid hinner
  dsimp only at he
  split at he
  · obtain ⟨rfl, rfl⟩ := Prod.mk.inj (Except.ok.inj he)
    refine ⟨((List.suffix_cons _ _).trans hmid).trans (List.suffix_cons _ _), fun hcall => ?_⟩
    exact .inr ((hcalls hcall).behind rfl)
  · cases he

/-- Arguments that add no call. -/
def ArgumentsKeepCalls (ts : List Token) : Prop :=
  ∀ args rest, readArguments ts = .ok (args, rest) →
    rest <:+ ts ∧ (anyCallsIndirect args = true → Calls ts)

theorem argumentsKeepCalls_of_first (hfirst : KeepsCalls ts (readBinary .comparison ts))
    (hmore : ∀ after, after.length + 1 < ts.length → ArgumentsKeepCalls after) :
    ArgumentsKeepCalls ts := by
  intro args rest h
  rw [readArguments_eq] at h
  obtain ⟨⟨first, mid⟩, hmid, h⟩ := bind_eq_ok_iff.mp h
  obtain ⟨hsuffix, hcalls⟩ := hfirst first mid hmid
  dsimp only at h
  split at h
  · rename_i after
    obtain ⟨⟨more, rest'⟩, hmore', h⟩ := bind_eq_ok_iff.mp h
    obtain ⟨rfl, rfl⟩ := Prod.mk.inj (Except.ok.inj h)
    obtain ⟨hrest, hcalls'⟩ := hmore after (length_lt_of_taken hmid) more rest' hmore'
    refine ⟨(hrest.trans (List.suffix_cons _ _)).trans hsuffix, fun hcall => ?_⟩
    rcases Bool.or_eq_true_iff.mp hcall with hcall | hcall
    · exact hcalls hcall
    · exact .inr (((hcalls' hcall).behind rfl).of_suffix hsuffix)
  · obtain ⟨rfl, rfl⟩ := Prod.mk.inj (Except.ok.inj h)
    refine ⟨hsuffix, fun hcall => hcalls ?_⟩
    simpa [anyCallsIndirect] using hcall

/-- Functions are found by their names in any case. -/
theorem find?_asciiCapital (s : String) :
    Function.find? (Text.asciiCapital s) = Function.find? s := by
  rw [Function.find?, Function.find?, asciiCapital_asciiCapital]

theorem keepsCalls_emptyCall (f : String) :
    KeepsCalls (.identifier f :: .openParen :: .closeParen :: ts)
      (readOperand (.identifier f :: .openParen :: .closeParen :: ts)) := by
  rw [readOperand_emptyCall]
  intro e rest he
  obtain ⟨rfl, rfl⟩ := Prod.mk.inj (Except.ok.inj he)
  refine ⟨⟨[.identifier f, .openParen, .closeParen], rfl⟩, fun hcall => .inl ⟨f, _, rfl, ?_⟩⟩
  simpa [Expr.callsIndirect, anyCallsIndirect, find?_asciiCapital] using hcall

theorem keepsCalls_call (hne : ∀ rest, ts ≠ .closeParen :: rest) (f : String)
    (h : ArgumentsKeepCalls ts) : KeepsCalls (.identifier f :: .openParen :: ts)
      (readOperand (.identifier f :: .openParen :: ts)) := by
  intro e rest he
  rw [readOperand_call hne] at he
  obtain ⟨⟨args, mid⟩, hargs, he⟩ := bind_eq_ok_iff.mp he
  obtain ⟨hmid, hcalls⟩ := h args mid hargs
  dsimp only at he
  split at he
  · obtain ⟨rfl, rfl⟩ := Prod.mk.inj (Except.ok.inj he)
    have hsuffix : ts <:+ .identifier f :: .openParen :: ts := ⟨[.identifier f, .openParen], rfl⟩
    refine ⟨((List.suffix_cons _ _).trans hmid).trans hsuffix, fun hcall => ?_⟩
    rcases Bool.or_eq_true_iff.mp hcall with hcall | hcall
    · exact .inl ⟨f, ts, rfl, find?_asciiCapital f ▸ beq_iff_eq.mp hcall⟩
    · exact .inr (((hcalls hcall).behind rfl).of_suffix (List.suffix_cons _ _))
  · cases he

end Grammar

/-- **No step of the grammar adds a call,** by the recursion of the grammar. -/
theorem keepsCalls_binary (level : Level) (ts : List Token) :
    KeepsCalls ts (readBinary level ts) := by
  refine (binary.mutual_induct
    (fun level ts => KeepsCalls ts (readBinary level ts))
    (fun ts => KeepsCalls ts (readUnary ts))
    (fun ts => KeepsCalls ts (readCorners ts))
    (fun ts => KeepsCalls ts (readOperand ts))
    ArgumentsKeepCalls
    ChainKeepsCalls
    ?tighter ?tightest ?minus ?plus ?unsigned ?corners ?number ?text ?bool ?error ?address
    ?sheetAddress ?sheetOnly ?group ?emptyCall ?call ?name ?fault ?arguments ?chain ?chainEnd).1
    level ts
  case tighter =>
    intro level ts inner h hleft hchain
    exact keepsCalls_binary_of_tighter h hleft hchain
  case tightest =>
    intro level ts h hleft hright
    exact keepsCalls_binary_of_tightest h hleft fun rest hlt op after hop =>
      hright (.text "") rest hlt op after hop
  case minus =>
    intro rest ih e rest' he
    rw [readUnary_subtract] at he
    obtain ⟨⟨operand, mid⟩, hoperand, he⟩ := bind_eq_ok_iff.mp he
    obtain ⟨rfl, rfl⟩ := Prod.mk.inj (Except.ok.inj he)
    obtain ⟨hmid, hcalls⟩ := ih operand mid hoperand
    exact keepsCalls_sign (e := .negate operand) hmid hcalls
  case plus =>
    intro rest ih e rest' he
    rw [readUnary_add] at he
    obtain ⟨hmid, hcalls⟩ := ih e rest' he
    exact keepsCalls_sign hmid hcalls
  case unsigned =>
    intro ts hsub hadd ih e rest he
    rw [readUnary_of_ne (fun rest h => hsub rest h) (fun rest h => hadd rest h)] at he
    obtain ⟨⟨operand, mid⟩, hoperand, heq⟩ := map_eq_ok_iff.mp he
    obtain ⟨hmid, hcalls⟩ := ih operand mid hoperand
    obtain ⟨hsame, hsuffix⟩ := callsIndirect_percents operand mid
    dsimp only at heq
    rw [heq] at hsame hsuffix
    exact ⟨hsuffix.trans hmid, fun hcall => hcalls (hsame ▸ hcall)⟩
  case corners =>
    intro ts hleft hright
    exact keepsCalls_corners hleft fun after hlt => hright (.text "") [] after hlt
  case number =>
    intro x rest
    rw [readOperand_constant rfl]
    exact keepsCalls_ok rfl (List.suffix_cons _ _)
  case text =>
    intro s rest
    rw [readOperand_constant rfl]
    exact keepsCalls_ok rfl (List.suffix_cons _ _)
  case bool =>
    intro b rest
    rw [readOperand_constant rfl]
    exact keepsCalls_ok rfl (List.suffix_cons _ _)
  case error =>
    intro code rest
    rw [readOperand_constant rfl]
    exact keepsCalls_ok rfl (List.suffix_cons _ _)
  case address =>
    intro text rest
    exact keepsCalls_address none text rfl
  case sheetAddress =>
    intro name text rest
    exact keepsCalls_address (some name) text rfl
  case sheetOnly =>
    intro name rest hne
    rw [readOperand, operand]
    · exact keepsCalls_error _
    · exact hne
  case group =>
    intro rest ih
    exact keepsCalls_group ih
  case emptyCall =>
    intro function rest
    exact keepsCalls_emptyCall function
  case call =>
    intro function rest hne ih
    exact keepsCalls_call (fun rest' h => hne rest' h) function ih
  case name =>
    intro name rest _ hne
    have hhead : rest.head? ≠ some .openParen := by
      intro hhead
      obtain ⟨rest', hrest⟩ := List.head?_eq_some_iff.mp hhead
      exact hne rest' hrest
    rw [readOperand_name hhead]
    exact keepsCalls_ok rfl (List.suffix_cons _ _)
  case fault =>
    intro ts h₁ h₂ h₃ h₄ h₅ h₆ h₇ h₈ h₉ h₁₀ h₁₁
    rw [readOperand, operand]
    · exact keepsCalls_error _
    all_goals assumption
  case arguments =>
    intro ts hfirst hmore
    exact argumentsKeepCalls_of_first hfirst fun after hlt => hmore (.text "") [] after hlt
  case chain =>
    intro level inner left ts op after hop hlength hright hchain
    refine chainKeepsCalls_of_step fun op' after' hop' => ?_
    obtain ⟨rfl, rfl⟩ := Prod.mk.inj (Option.some.inj (hop.symm.trans hop'))
    exact ⟨hright, hchain⟩
  case chainEnd =>
    intro level inner left ts hop e rest he
    rw [readChain_eq, hop] at he
    obtain ⟨rfl, rfl⟩ := Prod.mk.inj (Except.ok.inj he)
    exact ⟨List.suffix_rfl, .inl⟩

/-- **What is read from words calls `INDIRECT` only where the words do.** -/
theorem calls_of_parseTokens {ts : List Token} {e : Expr} (h : parseTokens ts = .ok e)
    (hcall : e.callsIndirect = true) : Calls ts := by
  rw [parseTokens_eq] at h
  split at h
  · rename_i e' he
    rw [← Except.ok.inj h] at hcall
    exact (keepsCalls_binary .comparison ts e' [] he).2 hcall
  · cases h
  · cases h

end Spreadsheet.Formula
