/-
# What is not read back

* Reading keeps the leaves of a text: its numbers, error codes and names, in their order.  So a
  text is not read as a formula whose leaves *diverge* from its own.
* The leaves of an illegible formula diverge from those of its text at the first place that is not
  legible.  There an error code or a name is divided, and the text has a longer word in its place;
  or there is no finite number, and the text has a name.
* So a canonical formula is read back from its text exactly if it is legible (`parse_print_iff`).
-/
import Spreadsheet.Proofs.Rendering

namespace Spreadsheet.Formula

open Grid

/-! ## 1. Leaves that diverge -/

/-- **Leaves that are the same up to a place,** and differ there. -/
def Diverge (as bs : List Leaf) : Prop :=
  ∃ common a b as' bs', as = common ++ a :: as' ∧ bs = common ++ b :: bs' ∧ a ≠ b

theorem diverge_cons {a b : Leaf} (h : a ≠ b) (as bs : List Leaf) : Diverge (a :: as) (b :: bs) :=
  ⟨[], a, b, as, bs, rfl, rfl, h⟩

theorem Diverge.ne {as bs : List Leaf} (h : Diverge as bs) : as ≠ bs := by
  obtain ⟨common, a, b, as', bs', rfl, rfl, hne⟩ := h
  intro heq
  exact hne (List.cons.inj (List.append_cancel_left heq)).1

theorem Diverge.append_left {as bs : List Leaf} (h : Diverge as bs) (cs : List Leaf) :
    Diverge (cs ++ as) (cs ++ bs) := by
  obtain ⟨common, a, b, as', bs', rfl, rfl, hne⟩ := h
  exact ⟨cs ++ common, a, b, as', bs', (List.append_assoc ..).symm, (List.append_assoc ..).symm,
    hne⟩

theorem Diverge.append_right {as bs : List Leaf} (h : Diverge as bs) (cs : List Leaf) :
    Diverge (as ++ cs) bs := by
  obtain ⟨common, a, b, as', bs', rfl, rfl, hne⟩ := h
  exact ⟨common, a, b, as' ++ cs, bs', by rw [List.append_assoc, List.cons_append], rfl, hne⟩

/-! ## 2. A divided word -/

/-- How long a leaf that starts with `#` is as it is written. -/
def Leaf.length : Leaf → Nat
  | .number _ => 0
  | .error code => code.text.toList.length
  | .name capital => capital.toList.length

/-- **A word that starts with `#` makes a leaf of its own length.** -/
theorem exists_leaf_hashToken (w : List Char) :
    ∃ leaf, (hashToken w).leaf? = some leaf ∧ leaf.length = w.length := by
  have hcapital : (Text.asciiCapital (String.ofList w)).toList.length = w.length := by
    rw [Text.asciiCapital, String.toList_ofList, String.toList_ofList, List.length_map]
  unfold hashToken
  dsimp only
  split
  · rename_i code hcode
    refine ⟨.error code, rfl, ?_⟩
    have htext := List.find?_some
      (p := fun code => ErrorCode.text code == Text.asciiCapital (String.ofList w)) hcode
    rw [Leaf.length, beq_iff_eq.mp htext, hcapital]
  · exact ⟨.name _, rfl, hcapital⟩

/-- The word goes on over the slash, and so it is another leaf. -/
theorem diverge_hash {w : List Char} (hw : IsHash w) {leaf : Leaf}
    (hleaf : (hashToken w).leaf? = some leaf) (cs : List Char) :
    Diverge [leaf] (leaves (tokens (w ++ '/' :: cs))) := by
  have hsplit : w ++ '/' :: cs =
      (w ++ '/' :: cs.takeWhile inErrorCode) ++ cs.dropWhile inErrorCode := by
    rw [List.append_assoc, List.cons_append, List.takeWhile_append_dropWhile]
  have hlong : IsHash (w ++ '/' :: cs.takeWhile inErrorCode) := by
    obtain ⟨rest, rfl, hrest⟩ := hw
    refine ⟨rest ++ '/' :: cs.takeWhile inErrorCode, rfl, fun d hd => ?_⟩
    rcases List.mem_append.mp hd with hd | hd
    · exact hrest d hd
    · rcases List.mem_cons.mp hd with rfl | hd
      · decide
      · exact List.all_eq_true.mp List.all_takeWhile d hd
  have hstops : Stops inErrorCode (cs.dropWhile inErrorCode) := by
    intro c hc
    obtain ⟨rest, hrest⟩ := List.head?_eq_some_iff.mp hc
    have := List.head?_dropWhile_not inErrorCode cs
    rw [hc] at this
    simpa using this
  obtain ⟨short, hshort, hshortLength⟩ := exists_leaf_hashToken w
  obtain ⟨long, hlongLeaf, hlongLength⟩ :=
    exists_leaf_hashToken (w ++ '/' :: cs.takeWhile inErrorCode)
  rw [hsplit, tokens_hash hlong hstops, leaves_cons_some hlongLeaf]
  refine diverge_cons ?_ _ _
  rintro rfl
  obtain rfl : short = leaf := Option.some.inj (hshort.symm.trans hleaf)
  rw [hshortLength, List.length_append, List.length_cons] at hlongLength
  omega

/-- **Where the last word of a formula starts with `#` and a slash follows,** the text has another
leaf. -/
theorem diverge_of_endsInHash : ∀ {e : Expr}, e.Canonical → (∀ x ∈ e.numbers, ReadsBack x) →
    e.Legible → e.endsInHash = true → ∀ cs : List Char,
    Diverge e.leaves (leaves (tokens (e.chars ++ '/' :: cs)))
  | .error code, _, _, _, _, cs => diverge_hash (isHash_text code) (by rw [hashToken_text]; rfl) cs
  | .name s, h, _, _, hhash, cs => by
    rcases h with ⟨⟨c, rest, hs, hc, -⟩, -⟩ | ⟨hw, hnone⟩
    · -- No word of letters starts with `#`.
      have hhead : s.toList.head? = some '#' := beq_iff_eq.mp hhash
      rw [hs] at hhead
      rw [Option.some.inj hhead] at hc
      cases hc
    · exact diverge_hash hw (by rw [hashToken_of_read? hnone]; rfl) cs
  | .binary op left right, ⟨hleft, _, hright, _⟩, hdigits, hlegible, hhash, cs => by
    obtain ⟨hleftLegible, hrightLegible, hop⟩ := legible_binary.mp hlegible
    have hsolid := solid_chars hright
    have hdiverge := diverge_of_endsInHash hright
      (fun x hx => hdigits x (List.mem_append_right _ hx)) hrightLegible hhash cs
    rw [Expr.chars, List.append_assoc, List.append_assoc,
      tokens_chars hleft (fun x hx => hdigits x (List.mem_append_left _ hx)) hleftLegible
        (breaks_symbol op _) (fun hhash => head?_symbol_ne (fun heq => hop ⟨heq, hhash⟩) _),
      tokens_symbol op (hsolid.head?_append (by decide)) (hsolid.head?_append (by decide)),
      leaves_append, leaves_words, leaves_cons_none rfl]
    exact hdiverge.append_left left.leaves
  | .negate operand, h, hdigits, hlegible, hhash, cs => by
    rw [Expr.chars, List.cons_append, tokens_mark (t := .operator .subtract) rfl,
      leaves_cons_none rfl]
    exact diverge_of_endsInHash h.1 hdigits hlegible hhash cs

/-! ## 3. No number -/

/-- **What is no finite number is read back as a name.** -/
theorem tokens_not_finite {x : Float} (h : Decimal.Unsigned x)
    (hfinite : Decimal.isFinite x = false) {cs : List Char} (hcs : Breaks cs) :
    ∃ s, tokens ((Decimal.numberText x).toList ++ cs) = .identifier s :: tokens cs := by
  have hname {w : List Char} (hw : IsName (String.ofList w)) (hhash : w.head? ≠ some '#')
      (hchars : Decimal.Layout.plain.chars x = w) :
      ∃ s, tokens ((Decimal.numberText x).toList ++ cs) = .identifier s :: tokens cs := by
    refine ⟨String.ofList w, ?_⟩
    have htokens := tokens_name hw hcs
      fun hhead => absurd hhead (by rwa [String.toList_ofList])
    rw [String.toList_ofList] at htokens
    rw [numberText_toList, hchars]
    exact htokens
  rcases Decimal.plain_chars_cases h with ⟨hnot, -⟩ | ⟨-, hchars | hchars⟩
  · rw [hfinite] at hnot
    cases hnot
  · exact hname (w := ['i', 'n', 'f']) (.inl ⟨isWord_cons (by decide) (by decide), by decide,
      by decide, by decide⟩) (by decide) hchars
  · exact hname (w := ['N', 'a', 'N']) (.inl ⟨isWord_cons (by decide) (by decide), by decide,
      by decide, by decide⟩) (by decide) hchars

/-! ## 4. Illegible formulas -/

mutual

/-- **The leaves of an illegible formula diverge from those of its text.** -/
theorem diverge_of_not_legible : ∀ {e : Expr}, e.Canonical → (∀ x ∈ e.numbers, ReadsBack x) →
    ¬ e.Legible → ∀ {cs : List Char}, Breaks cs →
    Diverge e.leaves (leaves (tokens (e.chars ++ cs)))
  | .number x, h, _, hbad, cs, hcs => by
    have hfinite : Decimal.isFinite x = false := by
      refine Bool.eq_false_iff.mpr fun hfinite => hbad ⟨rfl, fun y hy => ?_⟩
      rwa [List.mem_singleton.mp hy]
    obtain ⟨s, hs⟩ := tokens_not_finite h hfinite hcs
    rw [Expr.chars, hs, leaves_cons_some rfl]
    exact diverge_cons (a := .number x) (b := .name (Text.asciiCapital s)) nofun [] _
  | .binary op left right, ⟨hleft, _, hright, _⟩, hdigits, hbad, cs, hcs => by
    have hleftDigits : ∀ x ∈ left.numbers, ReadsBack x :=
      fun x hx => hdigits x (List.mem_append_left _ hx)
    have hrightDigits : ∀ x ∈ right.numbers, ReadsBack x :=
      fun x hx => hdigits x (List.mem_append_right _ hx)
    rw [Expr.chars, List.append_assoc, List.append_assoc]
    by_cases hleftLegible : left.Legible
    · by_cases hop : op = .divide ∧ left.endsInHash = true
      · obtain ⟨rfl, hhash⟩ := hop
        exact (diverge_of_endsInHash hleft hleftDigits hleftLegible hhash _).append_right _
      · have hrightBad : ¬ right.Legible :=
          fun hrightLegible => hbad (legible_binary.mpr ⟨hleftLegible, hrightLegible, hop⟩)
        have hsolid := solid_chars hright
        rw [tokens_chars hleft hleftDigits hleftLegible (breaks_symbol op _)
            (fun hhash => head?_symbol_ne (fun heq => hop ⟨heq, hhash⟩) _),
          tokens_symbol op (hsolid.head?_append (by decide)) (hsolid.head?_append (by decide)),
          leaves_append, leaves_words, leaves_cons_none rfl]
        exact (diverge_of_not_legible hright hrightDigits hrightBad hcs).append_left left.leaves
    · exact (diverge_of_not_legible hleft hleftDigits hleftLegible
        (breaks_symbol op _)).append_right right.leaves
  | .negate operand, h, hdigits, hbad, cs, hcs => by
    rw [Expr.chars, List.cons_append, tokens_mark (t := .operator .subtract) rfl,
      leaves_cons_none rfl]
    exact diverge_of_not_legible h.1 hdigits hbad hcs
  | .percent operand, h, hdigits, hbad, cs, _ => by
    rw [Expr.chars, List.append_assoc]
    exact diverge_of_not_legible h.1 hdigits hbad (breaks_cons (by decide))
  | .group inner, h, hdigits, hbad, cs, _ => by
    rw [Expr.chars, List.append_assoc, List.cons_append, tokens_mark (t := .openParen) rfl,
      leaves_cons_none rfl]
    exact diverge_of_not_legible (e := inner) h hdigits hbad (breaks_cons (by decide))
  | .call function args, h, hdigits, hbad, cs, _ => by
    rw [Expr.chars, List.append_assoc, List.append_assoc, List.singleton_append, List.cons_append,
      tokens_function h.1, leaves_cons_some rfl, leaves_cons_none rfl]
    exact (diverge_of_not_legibleAll h.2 hdigits hbad cs).append_left [_]
  | .text _, _, _, hbad, _, _ => absurd ⟨rfl, nofun⟩ hbad
  | .bool _, _, _, hbad, _, _ => absurd ⟨rfl, nofun⟩ hbad
  | .error _, _, _, hbad, _, _ => absurd ⟨rfl, nofun⟩ hbad
  | .ref _ _, _, _, hbad, _, _ => absurd ⟨rfl, nofun⟩ hbad
  | .name _, _, _, hbad, _, _ => absurd ⟨rfl, nofun⟩ hbad

/-- The leaves of illegible arguments diverge from those of their text. -/
theorem diverge_of_not_legibleAll : ∀ {args : List Expr}, CanonicalAll args →
    (∀ x ∈ numbersAll args, ReadsBack x) → ¬ LegibleAll args → ∀ cs : List Char,
    Diverge (leavesAll args) (leaves (tokens (argsChars args ++ ')' :: cs)))
  | [], _, _, hbad, _ => absurd ⟨rfl, nofun⟩ hbad
  | [e], h, hdigits, hbad, cs => by
    have he : ¬ e.Legible := fun he => hbad (legibleAll_cons.mpr ⟨he, rfl, nofun⟩)
    exact (diverge_of_not_legible h.1 (fun x hx => hdigits x (List.mem_append_left _ hx)) he
      (breaks_cons (by decide))).append_right _
  | e :: e' :: more, h, hdigits, hbad, cs => by
    have heDigits : ∀ x ∈ e.numbers, ReadsBack x :=
      fun x hx => hdigits x (List.mem_append_left _ hx)
    rw [argsChars_cons e (List.cons_ne_nil e' more), List.append_assoc, List.cons_append]
    by_cases he : e.Legible
    · have hmore : ¬ LegibleAll (e' :: more) := fun hmore => hbad (legibleAll_cons.mpr ⟨he, hmore⟩)
      rw [tokens_chars h.1 heDigits he (breaks_cons (by decide)) (fun _ => by simp),
        tokens_mark (t := .comma) rfl, leaves_append, leaves_words, leaves_cons_none rfl]
      exact (diverge_of_not_legibleAll h.2 (fun x hx => hdigits x (List.mem_append_right _ hx))
        hmore cs).append_left e.leaves
    · exact (diverge_of_not_legible h.1 heDigits he (breaks_cons (by decide))).append_right _

end

/-- **A canonical formula is read back from its text exactly if it is legible,** with or without the
equals sign. -/
theorem parse_print_iff {e : Expr} (h : e.Canonical) (hdigits : ∀ x ∈ e.numbers, ReadsBack x) :
    (parse e.print = .ok e ↔ e.Legible) ∧ (parse e.source = .ok e ↔ e.Legible) := by
  have hread : parseTokens (tokens e.chars) = .ok e ↔ e.Legible := by
    refine ⟨fun hparse => ?_, parseTokens_tokens_chars h hdigits⟩
    refine Decidable.by_contra fun hbad => ?_
    have hdiverge := diverge_of_not_legible h hdigits hbad breaks_nil
    rw [List.append_nil] at hdiverge
    exact hdiverge.ne (canonical_of_parseTokens (fit_tokens _) hparse).2.symm
  obtain ⟨hprint, hsource⟩ := parse_eq_parseTokens h
  rw [hprint, hsource]
  exact ⟨hread, hread⟩

end Spreadsheet.Formula
