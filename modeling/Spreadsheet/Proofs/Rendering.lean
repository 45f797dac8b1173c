/-
# What is written is read back

* A formula is written without blanks and without groups of its own, so it is read back if its words
  do not run into each other.  They do in one place: a word that starts with `#` goes on over the
  slash of a division behind it (`Expr.glues`).
* The numbers of a formula have to be numbers: an infinite one is written as a word.  That the
  digits of a number read back as the same number is taken as given, number by number.
* Where neither is in the way, a canonical formula is *legible*: its text is cut into its words
  (`tokens_chars`), and these make the formula (`parseTokens_tokens_chars`).
-/
import Spreadsheet.Proofs.Wording

namespace Spreadsheet.Formula

open Grid

/-! ## 1. Where words run into each other -/

/-- Whether the last word of a formula starts with `#`. -/
def Expr.endsInHash : Expr → Bool
  | .error _ => true
  | .name s => s.toList.head? == some '#'
  | .binary _ _ right => right.endsInHash
  | .negate operand => operand.endsInHash
  | _ => false

mutual

/-- **Whether somewhere in a formula a word that starts with `#` is divided.** -/
def Expr.glues : Expr → Bool
  | .binary op left right => (op == .divide && left.endsInHash) || left.glues || right.glues
  | .negate operand => operand.glues
  | .percent operand => operand.glues
  | .group inner => inner.glues
  | .call _ args => gluesAny args
  | _ => false

/-- Whether one of the formulas has such a place. -/
def gluesAny : List Expr → Bool
  | [] => false
  | e :: rest => e.glues || gluesAny rest

end

mutual

/-- The numbers in a formula. -/
def Expr.numbers : Expr → List Float
  | .number x => [x]
  | .binary _ left right => left.numbers ++ right.numbers
  | .negate operand => operand.numbers
  | .percent operand => operand.numbers
  | .group inner => inner.numbers
  | .call _ args => numbersAll args
  | _ => []

/-- The numbers in some formulas. -/
def numbersAll : List Expr → List Float
  | [] => []
  | e :: rest => e.numbers ++ numbersAll rest

end

/-- **A formula whose text has all there is to it:** no word runs into the next one, and its numbers
are finite. -/
def Expr.Legible (e : Expr) : Prop :=
  e.glues = false ∧ ∀ x ∈ e.numbers, Decimal.isFinite x = true

instance (e : Expr) : Decidable e.Legible := inferInstanceAs (Decidable (_ ∧ _))

/-- Whether a number, if it is finite, is read back from its digits. -/
def ReadsBack (x : Float) : Prop :=
  Decimal.isFinite x = true → Decimal.read? (Decimal.Layout.plain.chars x) = some x

instance (x : Float) : Decidable (ReadsBack x) := inferInstanceAs (Decidable (_ → _))

theorem legible_binary {op : BinaryOp} {left right : Expr} :
    (Expr.binary op left right).Legible ↔
      left.Legible ∧ right.Legible ∧ ¬ (op = .divide ∧ left.endsInHash = true) := by
  simp only [Expr.Legible, Expr.glues, Expr.numbers, Bool.or_eq_false_iff, List.mem_append,
    Bool.and_eq_false_iff, beq_eq_false_iff_ne, ne_eq, not_and, Bool.not_eq_true]
  constructor
  · rintro ⟨⟨⟨hop, hleft⟩, hright⟩, hnumbers⟩
    refine ⟨⟨hleft, fun x hx => hnumbers x (.inl hx)⟩,
      ⟨hright, fun x hx => hnumbers x (.inr hx)⟩, fun heq => ?_⟩
    exact hop.resolve_left fun hne => hne heq
  · rintro ⟨⟨hleft, hnumbers⟩, ⟨hright, hnumbers'⟩, hop⟩
    refine ⟨⟨⟨?_, hleft⟩, hright⟩, fun x hx => hx.elim (hnumbers x) (hnumbers' x)⟩
    by_cases heq : op = .divide
    · exact .inr (hop heq)
    · exact .inl heq

/-- Formulas whose texts have all there is to them. -/
def LegibleAll (args : List Expr) : Prop :=
  gluesAny args = false ∧ ∀ x ∈ numbersAll args, Decimal.isFinite x = true

theorem legibleAll_cons {e : Expr} {rest : List Expr} :
    LegibleAll (e :: rest) ↔ e.Legible ∧ LegibleAll rest := by
  simp only [LegibleAll, Expr.Legible, gluesAny, numbersAll, Bool.or_eq_false_iff, List.mem_append]
  constructor
  · rintro ⟨⟨he, hrest⟩, hnumbers⟩
    exact ⟨⟨he, fun x hx => hnumbers x (.inl hx)⟩, hrest, fun x hx => hnumbers x (.inr hx)⟩
  · rintro ⟨⟨he, hnumbers⟩, hrest, hnumbers'⟩
    exact ⟨⟨he, hrest⟩, fun x hx => hx.elim (hnumbers x) (hnumbers' x)⟩

theorem argsChars_cons (e : Expr) {rest : List Expr} (h : rest ≠ []) :
    argsChars (e :: rest) = e.chars ++ ',' :: argsChars rest := by
  cases rest with
  | nil => exact absurd rfl h
  | cons e' rest => rw [argsChars]; simp

/-! ## 2. One word after the other -/

theorem breaks_symbol (op : BinaryOp) (cs : List Char) : Breaks (op.symbol.toList ++ cs) := by
  cases op <;> exact breaks_cons (by decide)

theorem head?_symbol_ne {op : BinaryOp} (h : op ≠ .divide) (cs : List Char) :
    (op.symbol.toList ++ cs).head? ≠ some '/' := by
  cases op <;> first | exact absurd rfl h | (intro hhead; cases hhead)

theorem numberText_toList (x : Float) :
    (Decimal.numberText x).toList = Decimal.Layout.plain.chars x :=
  String.toList_ofList

theorem tokens_number {x : Float} (hx : Decimal.Unsigned x) (hfinite : Decimal.isFinite x = true)
    (h : ReadsBack x) {cs : List Char} (hcs : Breaks cs) :
    tokens ((Decimal.numberText x).toList ++ cs) = .number x :: tokens cs := by
  rw [numberText_toList, tokens_numeral (Decimal.isNumeral_plain hx hfinite) hcs, numberToken,
    h hfinite]

theorem tokens_reference (target : Reference) {cs : List Char} (hcs : Breaks cs) :
    tokens (target.chars ++ cs) = target.words ++ tokens cs := by
  cases target with
  | cell pos => exact tokens_position pos hcs
  | area first last =>
    have hcolon : Breaks (':' :: (last.chars ++ cs)) := breaks_cons (by decide)
    rw [Reference.chars, List.append_assoc, List.cons_append, tokens_position first hcolon,
      tokens_mark (t := .colon) rfl, tokens_position last hcs]
    rfl

theorem tokens_sheetMark (sheet : Option String) (cs : List Char) :
    tokens (sheetMark sheet ++ cs) = (sheet.map Token.sheet).toList ++ tokens cs := by
  cases sheet with
  | none => rfl
  | some name =>
    rw [sheetMark, List.append_assoc, List.singleton_append, tokens_sheetName]
    rfl

/-! ## 3. The ends of the text -/

/-- A character that is not blank and no part of an operator of two characters. -/
def Firm (c : Char) : Prop := Text.isBlank c = false ∧ c ≠ '=' ∧ c ≠ '>'

instance (c : Char) : Decidable (Firm c) := inferInstanceAs (Decidable (_ ∧ _))

/-- **A text that can follow an operator** and that is as long trimmed. -/
structure Solid (cs : List Char) : Prop where
  head : ∃ c, cs.head? = some c ∧ Firm c
  last : ∃ c, cs.getLast? = some c ∧ Firm c

theorem solid_singleton {c : Char} (h : Firm c) : Solid [c] := ⟨⟨c, rfl, h⟩, ⟨c, rfl, h⟩⟩

theorem solid_of_forall {cs : List Char} (hne : cs ≠ []) (h : ∀ c ∈ cs, Firm c) : Solid cs := by
  refine ⟨⟨cs.head hne, List.head?_eq_some_head hne, h _ (List.head_mem hne)⟩, ?_⟩
  exact ⟨cs.getLast hne, List.getLast?_eq_some_getLast hne, h _ (List.getLast_mem hne)⟩

/-- The ends of a text are the ends of its ends. -/
theorem solid_append {cs es : List Char} (hcs : Solid cs) (ds : List Char) (hes : Solid es) :
    Solid (cs ++ ds ++ es) := by
  obtain ⟨c, hc, hhead⟩ := hcs.head
  obtain ⟨d, hd, hlast⟩ := hes.last
  refine ⟨⟨c, ?_, hhead⟩, ⟨d, ?_, hlast⟩⟩
  · rw [List.append_assoc, List.head?_append, hc]
    rfl
  · rw [List.getLast?_append, hd]
    rfl

theorem firm_of_inWord {c : Char} (h : inWord c = true) : Firm c := by
  refine ⟨isBlank_of_inWord h, ?_, ?_⟩
  · rintro rfl
    cases h
  · rintro rfl
    cases h

theorem IsWord.solid {w : List Char} (hw : IsWord w) : Solid w := by
  refine solid_of_forall ?_ fun c hc => firm_of_inWord (hw.inWord c hc)
  obtain ⟨c, rest, rfl, -⟩ := hw
  exact List.cons_ne_nil c rest

theorem firm_of_inErrorCode {c : Char} (h : inErrorCode c = true) : Firm c := by
  simp only [inErrorCode, Bool.or_eq_true, beq_iff_eq] at h
  rcases h with ((h | rfl) | rfl) | rfl
  · exact firm_of_inWord (by simp [inWord, h])
  · decide
  · decide
  · decide

theorem IsHash.solid {w : List Char} (hw : IsHash w) : Solid w := by
  obtain ⟨rest, rfl, hrest⟩ := hw
  refine solid_of_forall (List.cons_ne_nil '#' rest) fun c hc => ?_
  rcases List.mem_cons.mp hc with rfl | hc
  · decide
  · exact firm_of_inErrorCode (hrest c hc)

theorem IsName.solid {s : String} (hs : IsName s) : Solid s.toList :=
  hs.elim (fun h => h.1.solid) fun h => h.1.solid

theorem IsFunction.solid {s : String} (hs : IsFunction s) : Solid s.toList :=
  hs.2.elim (fun h => h.solid) fun h => h.1.solid

theorem solid_delimited {mark : Char} (h : Firm mark) (cs : List Char) :
    Solid (Text.delimited mark cs) :=
  solid_append (solid_singleton h) (Text.doubled mark cs) (solid_singleton h)

theorem solid_numeral {cs : List Char} (h : Decimal.IsNumeral cs) : Solid cs := by
  obtain ⟨whole, fraction, rfl, hne, hwhole, hfraction⟩ := h
  have hdigit {c : Char} (hc : c.isDigit = true) : Firm c := firm_of_inWord (inWord_of_isDigit hc)
  refine solid_of_forall (by simp [hne]) fun c hc => ?_
  rcases List.mem_append.mp hc with hc | hc
  · exact hdigit (hwhole c hc)
  · rcases hfraction with rfl | ⟨ds, rfl, hds⟩
    · cases hc
    · rcases List.mem_cons.mp hc with rfl | hc
      · decide
      · exact hdigit (hds c hc)

theorem solid_reference (sheet : Option String) (target : Reference) :
    Solid (sheetMark sheet ++ target.chars) := by
  have htarget : Solid target.chars := by
    cases target with
    | cell pos => exact (isWord_chars pos).solid
    | area first last =>
      have h := solid_append (isWord_chars first).solid [':'] (isWord_chars last).solid
      rwa [List.append_assoc] at h
  cases sheet with
  | none => exact htarget
  | some name =>
    have hname : Solid (sheetNameChars name) := by
      unfold sheetNameChars
      split
      · rename_i hplain
        exact (isWord_of_isPlainName hplain).solid
      · exact solid_delimited (by decide) _
    exact solid_append hname ['!'] htarget

theorem solid_number {x : Float} (h : Decimal.Unsigned x) :
    Solid (Decimal.numberText x).toList := by
  rw [numberText_toList]
  rcases Decimal.plain_chars_cases h with ⟨-, hnumeral⟩ | ⟨-, hword | hword⟩
  · exact solid_numeral hnumeral
  · rw [hword]
    exact (isWord_cons (by decide) (by decide)).solid
  · rw [hword]
    exact (isWord_cons (by decide) (by decide)).solid

/-- **The text of a canonical formula is solid.** -/
theorem solid_chars : ∀ {e : Expr}, e.Canonical → Solid e.chars
  | .number _, h => solid_number h
  | .text s, _ => solid_delimited (by decide) s.toList
  | .bool b, _ => (isWord_boolText b).solid
  | .error code, _ => (isHash_text code).solid
  | .ref sheet target, _ => solid_reference sheet target
  | .name _, h => IsName.solid h
  | .binary op _ _, h => solid_append (solid_chars h.1) op.symbol.toList (solid_chars h.2.2.1)
  | .negate _, h =>
    solid_append (solid_singleton (c := '-') (by decide)) [] (solid_chars h.1)
  | .percent _, h => by
    have hsolid := solid_append (solid_chars h.1) [] (solid_singleton (c := '%') (by decide))
    rwa [List.append_nil] at hsolid
  | .group inner, _ =>
    solid_append (solid_singleton (c := '(') (by decide)) inner.chars
      (solid_singleton (c := ')') (by decide))
  | .call _ args, h =>
    solid_append h.1.solid ('(' :: argsChars args) (solid_singleton (by decide))

theorem Solid.head?_append {cs ds : List Char} (h : Solid cs) {c : Char} (hc : ¬ Firm c) :
    (cs ++ ds).head? ≠ some c := by
  obtain ⟨d, hd, hfirm⟩ := h.head
  rw [List.head?_append, hd]
  rintro heq
  exact hc (Option.some.inj heq ▸ hfirm)

theorem Solid.trimChars_eq {cs : List Char} (h : Solid cs) : Text.trimChars cs = cs := by
  obtain ⟨c, hc, hhead⟩ := h.head
  obtain ⟨d, hd, hlast⟩ := h.last
  refine Text.trimChars_eq_self (fun c' hc' => ?_) fun d' hd' => ?_
  · rw [← Option.some.inj (hc.symm.trans hc')]
    exact hhead.1
  · rw [← Option.some.inj (hd.symm.trans hd')]
    exact hlast.1

/-! ## 4. Whole formulas -/

mutual

/-- **A legible formula is cut into its words,** unless they run into what follows. -/
theorem tokens_chars : ∀ {e : Expr}, e.Canonical → (∀ x ∈ e.numbers, ReadsBack x) → e.Legible →
    ∀ {cs : List Char}, Breaks cs → (e.endsInHash = true → cs.head? ≠ some '/') →
    tokens (e.chars ++ cs) = e.words ++ tokens cs
  | .number x, h, hdigits, hlegible, cs, hcs, _ =>
    tokens_number h (hlegible.2 x List.mem_cons_self) (hdigits x List.mem_cons_self) hcs
  | .text s, _, _, _, cs, hcs, _ => tokens_text s (hcs.head?_ne (by decide))
  | .bool b, _, _, _, cs, hcs, _ => tokens_bool b hcs
  | .error code, _, _, _, cs, hcs, hslash => tokens_error code hcs (hslash rfl)
  | .ref sheet target, _, _, _, cs, hcs, _ => by
    rw [Expr.chars, List.append_assoc, tokens_sheetMark, tokens_reference target hcs, Expr.words,
      List.append_assoc]
  | .name s, h, _, _, cs, hcs, hslash =>
    tokens_name h hcs fun hhead => hslash (beq_iff_eq.mpr hhead)
  | .binary op left right, ⟨hleft, _, hright, _⟩, hdigits, hlegible, cs, hcs, hslash => by
    obtain ⟨hleftLegible, hrightLegible, hop⟩ := legible_binary.mp hlegible
    have hsolid := solid_chars hright
    rw [Expr.chars, List.append_assoc, List.append_assoc,
      tokens_chars hleft (fun x hx => hdigits x (List.mem_append_left _ hx)) hleftLegible
        (breaks_symbol op _) (fun hhash => head?_symbol_ne (fun heq => hop ⟨heq, hhash⟩) _),
      tokens_symbol op (hsolid.head?_append (by decide)) (hsolid.head?_append (by decide)),
      tokens_chars hright (fun x hx => hdigits x (List.mem_append_right _ hx)) hrightLegible hcs
        hslash, Expr.words, List.append_assoc, List.cons_append]
  | .negate operand, h, hdigits, hlegible, cs, hcs, hslash => by
    rw [Expr.chars, List.cons_append, tokens_mark (t := .operator .subtract) rfl,
      tokens_chars h.1 hdigits hlegible hcs hslash, Expr.words, List.cons_append]
  | .percent operand, h, hdigits, hlegible, cs, hcs, _ => by
    rw [Expr.chars, List.append_assoc, List.singleton_append,
      tokens_chars h.1 hdigits hlegible (breaks_cons (by decide)) (fun _ => by simp),
      tokens_mark (t := .percent) rfl, Expr.words, List.append_assoc, List.singleton_append]
  | .group inner, h, hdigits, hlegible, cs, hcs, _ => by
    rw [Expr.chars, List.append_assoc, List.singleton_append, List.cons_append,
      tokens_mark (t := .openParen) rfl,
      tokens_chars (e := inner) h hdigits hlegible (breaks_cons (by decide)) (fun _ => by simp),
      tokens_mark (t := .closeParen) rfl, Expr.words, List.cons_append, List.append_assoc,
      List.singleton_append]
  | .call function args, h, hdigits, hlegible, cs, hcs, _ => by
    rw [Expr.chars, List.append_assoc, List.append_assoc, List.singleton_append, List.cons_append,
      tokens_function h.1, tokens_argsChars h.2 hdigits hlegible cs, Expr.words, List.cons_append,
      List.cons_append, List.append_assoc, List.singleton_append]

/-- Legible arguments are cut into their words. -/
theorem tokens_argsChars : ∀ {args : List Expr}, CanonicalAll args →
    (∀ x ∈ numbersAll args, ReadsBack x) → LegibleAll args → ∀ cs : List Char,
    tokens (argsChars args ++ ')' :: cs) = argsWords args ++ .closeParen :: tokens cs
  | [], _, _, _, cs => tokens_mark rfl cs
  | [e], h, hdigits, hlegible, cs => by
    rw [argsChars, tokens_chars h.1 (fun x hx => hdigits x (List.mem_append_left _ hx))
      (legibleAll_cons.mp hlegible).1 (breaks_cons (by decide)) (fun _ => by simp),
      tokens_mark (t := .closeParen) rfl, argsWords]
  | e :: e' :: more, h, hdigits, hlegible, cs => by
    obtain ⟨he, hmore⟩ := legibleAll_cons.mp hlegible
    rw [argsChars_cons e (List.cons_ne_nil e' more), List.append_assoc, List.cons_append,
      tokens_chars h.1 (fun x hx => hdigits x (List.mem_append_left _ hx)) he
        (breaks_cons (by decide)) (fun _ => by simp),
      tokens_mark (t := .comma) rfl,
      tokens_argsChars h.2 (fun x hx => hdigits x (List.mem_append_right _ hx)) hmore cs,
      argsWords_cons e (List.cons_ne_nil e' more), List.append_assoc, List.cons_append]

end

/-- **A legible formula is read back:** its text is cut into its words, and these make it. -/
theorem parseTokens_tokens_chars {e : Expr} (h : e.Canonical)
    (hdigits : ∀ x ∈ e.numbers, ReadsBack x) (hlegible : e.Legible) :
    parseTokens (tokens e.chars) = .ok e := by
  have hwords := tokens_chars h hdigits hlegible breaks_nil (fun _ => nofun)
  rw [List.append_nil, tokens_nil, List.append_nil] at hwords
  rw [hwords]
  exact parseTokens_words h

theorem parse_of_solid {text : String} {cs : List Char} (hcs : Solid cs)
    (htext : withoutEquals (Text.trimChars text.toList) = cs) :
    parse text = parseTokens (tokens cs) := by
  obtain ⟨c, hc, hfirm⟩ := hcs.head
  obtain ⟨rest, rfl⟩ := List.head?_eq_some_iff.mp hc
  have hskip : (Text.skipBlanks (c :: rest)).isEmpty = false := by
    simp [Text.skipBlanks, hfirm.1]
  unfold parse
  dsimp only
  rw [htext, hskip]
  rfl

/-- **A solid text is read by its words,** with or without the equals sign. -/
theorem Solid.parse_eq {cs : List Char} (hsolid : Solid cs) :
    parse (String.ofList cs) = parseTokens (tokens cs) ∧
      parse (String.ofList ('=' :: cs)) = parseTokens (tokens cs) := by
  refine ⟨parse_of_solid hsolid ?_, parse_of_solid hsolid ?_⟩
  · rw [String.toList_ofList, hsolid.trimChars_eq]
    unfold withoutEquals
    split
    · rename_i rest heq
      obtain ⟨c, hc, hfirm⟩ := hsolid.head
      exact absurd (Option.some.inj hc).symm hfirm.2.1
    · rfl
  · have hblank : ∀ c ∈ ('=' :: cs).getLast?, Text.isBlank c = false := by
      obtain ⟨c, hc, hfirm⟩ := hsolid.last
      intro d hd
      rw [List.getLast?_cons, hc] at hd
      rw [← Option.some.inj hd]
      exact hfirm.1
    rw [String.toList_ofList, Text.trimChars_eq_self (by simp; decide) hblank]
    rfl

/-- **The text of a canonical formula is read by its words,** with or without the equals sign. -/
theorem parse_eq_parseTokens {e : Expr} (h : e.Canonical) :
    parse e.print = parseTokens (tokens e.chars) ∧
      parse e.source = parseTokens (tokens e.chars) :=
  (solid_chars h).parse_eq

/-- **What is read from a text is canonical.** -/
theorem canonical_of_parse {text : String} {e : Expr} (h : parse text = .ok e) : e.Canonical := by
  unfold parse at h
  dsimp only at h
  split at h
  · cases h
  · exact (canonical_of_parseTokens (fit_tokens _) h).1

end Spreadsheet.Formula
