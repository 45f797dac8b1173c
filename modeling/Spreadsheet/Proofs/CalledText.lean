/-
# Calls that writing does not add

A formula that is copied, or told of removed lines, is written anew and read again.  What is read
need not be what was written: a word that starts with `#` goes on over a slash and takes along the
start of what is divided by.  Still no call of `INDIRECT` comes in that way.

* A text is gone through from left to right for the whole word `INDIRECT` before an opening
  parenthesis, past quoted texts and words that start with `#` (`calledIn`).
* What the words of a text call is found there (`calledIn_of_calls`).  The words may be cut off in the
  middle of a word of the text, behind a number or a word that starts with `#`; what comes next is no
  operand then, so nothing is lost by going on behind the word (`Cut.calledIn`).
* In the text of a formula nothing is found that the formula does not call (`calledIn_chars`).
-/
import Spreadsheet.Proofs.Calls
import Spreadsheet.Proofs.Rendering

namespace Spreadsheet.Formula

open Grid

/-! ## 1. Calls in a text -/

/-- What is left of a text behind its first character, or behind the quoted text or the word that it
starts. -/
def behind (c : Char) (rest : List Char) : List Char :=
  if c = '"' ∨ c = '\'' then (Text.readDelimited? c rest).elim [] (·.2)
  else if c = '#' then rest.dropWhile inErrorCode
  else if inWord c then rest.dropWhile inWord
  else rest

theorem length_behind_le (c : Char) (rest : List Char) : (behind c rest).length ≤ rest.length := by
  unfold behind
  split
  · cases h : Text.readDelimited? c rest with
    | none => exact Nat.zero_le _
    | some out => exact Nat.le_of_lt (Text.readDelimited?_rest_lt h)
  · split
    · exact (List.dropWhile_suffix _).length_le
    · split
      · exact (List.dropWhile_suffix _).length_le
      · exact Nat.le_refl _

/-- Whether a word is `INDIRECT` before an opening parenthesis. -/
def callsHere (word after : List Char) : Bool :=
  Function.find? (String.ofList word) == some .indirect &&
    (Text.skipBlanks after).head? == some '('

/-- **Whether `INDIRECT` is called in a text** by a whole word that stands neither between quotes nor
in a word that starts with `#`. -/
def calledIn : List Char → Bool
  | [] => false
  | c :: rest =>
    inWord c && callsHere (c :: rest.takeWhile inWord) (rest.dropWhile inWord) ||
      calledIn (behind c rest)
termination_by cs => cs.length
decreasing_by
  have := length_behind_le c rest
  simp only [List.length_cons]
  omega

section Text

variable {c : Char} {cs rest w : List Char}

theorem calledIn_nil : calledIn [] = false := by rw [calledIn]

theorem calledIn_cons (c : Char) (rest : List Char) : calledIn (c :: rest) =
    (inWord c && callsHere (c :: rest.takeWhile inWord) (rest.dropWhile inWord) ||
      calledIn (behind c rest)) := by rw [calledIn]

theorem calledIn_of_behind (h : calledIn (behind c rest) = true) :
    calledIn (c :: rest) = true := by
  rw [calledIn_cons, h, Bool.or_true]

/-- Characters of words are no quotes and no `#`. -/
theorem behind_of_inWord (hc : inWord c = true) (rest : List Char) :
    behind c rest = rest.dropWhile inWord := by
  have hne {d : Char} (hd : inWord d = false) : c ≠ d := by
    rintro rfl
    rw [hc] at hd
    cases hd
  rw [behind, if_neg (by simp [hne (d := '"') (by decide), hne (d := '\'') (by decide)]),
    if_neg (hne (by decide)), if_pos hc]

/-- Characters that mean nothing here. -/
def Plain (c : Char) : Prop := inWord c = false ∧ c ≠ '"' ∧ c ≠ '\'' ∧ c ≠ '#'

theorem calledIn_plain (hc : Plain c) (rest : List Char) :
    calledIn (c :: rest) = calledIn rest := by
  obtain ⟨hword, hdouble, hsingle, hhash⟩ := hc
  rw [calledIn_cons, behind, if_neg (by simp [hdouble, hsingle]), if_neg hhash,
    if_neg (by simp [hword]), hword, Bool.false_and, Bool.false_or]

theorem dropWhile_plain (hc : Plain c) (rest : List Char) :
    (c :: rest).dropWhile inWord = c :: rest := by
  rw [List.dropWhile_cons, if_neg (by simp [hc.1])]

/-- What stands behind a word stands in the text. -/
theorem calledIn_of_dropWhile (h : calledIn (cs.dropWhile inWord) = true) :
    calledIn cs = true := by
  cases cs with
  | nil => exact h
  | cons c rest =>
    rw [List.dropWhile_cons] at h
    split at h
    · rename_i hc
      refine calledIn_of_behind ?_
      rwa [behind_of_inWord hc]
    · exact h

theorem plain_of_isBlank (hc : Text.isBlank c = true) : Plain c := by
  refine ⟨?_, ?_, ?_, ?_⟩
  · refine Bool.eq_false_iff.mpr fun hword => ?_
    rw [isBlank_of_inWord hword] at hc
    cases hc
  all_goals
    rintro rfl
    revert hc
    decide

theorem calledIn_skipBlanks (cs : List Char) : calledIn (Text.skipBlanks cs) = calledIn cs := by
  induction cs with
  | nil => rfl
  | cons c rest ih =>
    rw [Text.skipBlanks, List.dropWhile_cons]
    split
    · rename_i hblank
      rw [calledIn_plain (plain_of_isBlank hblank), ← ih]
      rfl
    · rfl

/-- What stands in front of blanks is no word. -/
theorem calledIn_of_skipBlanks (h : calledIn ((Text.skipBlanks cs).dropWhile inWord) = true) :
    calledIn (cs.dropWhile inWord) = true := by
  cases cs with
  | nil => exact h
  | cons c rest =>
    by_cases hblank : Text.isBlank c = true
    · rw [dropWhile_plain (plain_of_isBlank hblank), ← calledIn_skipBlanks]
      exact calledIn_of_dropWhile h
    · rwa [Text.skipBlanks, List.dropWhile_cons, if_neg hblank] at h

/-- What is behind characters that may stand in a number stands in the text. -/
theorem calledIn_of_number {ds : List Char}
    (hds : ∀ d ∈ ds, inWord d = true ∨ d = '+' ∨ d = '-')
    (h : calledIn (cs.dropWhile inWord) = true) :
    calledIn ((ds ++ cs).dropWhile inWord) = true := by
  induction ds with
  | nil => exact h
  | cons d ds ih =>
    have hrest := ih fun d' hd' => hds d' (List.mem_cons_of_mem _ hd')
    rw [List.cons_append]
    by_cases hword : inWord d = true
    · rwa [List.dropWhile_cons, if_pos hword]
    · have hplain : Plain d := by
        rcases (hds d List.mem_cons_self).resolve_left hword with rfl | rfl <;> exact ⟨rfl, by decide⟩
      rw [dropWhile_plain hplain, calledIn_plain hplain]
      exact calledIn_of_dropWhile hrest

theorem mem_spanExponent {d : Char} (hd : d ∈ (spanExponent cs).1) :
    inWord d = true ∨ d = '+' ∨ d = '-' := by
  have hdigits {ds : List Char} (hd : d ∈ ds.takeWhile Char.isDigit) : inWord d = true :=
    inWord_of_isDigit (List.all_eq_true.mp List.all_takeWhile d hd)
  unfold spanExponent at hd
  split at hd
  · rename_i e f more
    split at hd
    · rename_i he
      have hletter : inWord e = true := by rcases he with rfl | rfl <;> rfl
      split at hd
      · rename_i hsign
        rcases List.mem_cons.mp hd with rfl | hd
        · exact .inl hletter
        · rcases List.mem_cons.mp hd with rfl | hd
          · exact .inr hsign
          · exact .inl (hdigits hd)
      · split at hd
        · rename_i hdigit
          rcases List.mem_cons.mp hd with rfl | hd
          · exact .inl hletter
          · rcases List.mem_cons.mp hd with rfl | hd
            · exact .inl (inWord_of_isDigit hdigit)
            · exact .inl (hdigits hd)
        · cases hd
    · cases hd
  · cases hd

theorem mem_spanNumber {d : Char} (hd : d ∈ (spanNumber cs).1) :
    inWord d = true ∨ d = '+' ∨ d = '-' := by
  have hdigits {ds : List Char} (hd : d ∈ ds.takeWhile Char.isDigit) : inWord d = true :=
    inWord_of_isDigit (List.all_eq_true.mp List.all_takeWhile d hd)
  simp only [spanNumber, List.mem_append] at hd
  rcases hd with (hd | hd) | hd
  · exact .inl (hdigits hd)
  · unfold spanFraction at hd
    split at hd
    · rcases List.mem_cons.mp hd with rfl | hd
      · exact .inl rfl
      · exact .inl (hdigits hd)
    · cases hd
  · exact mem_spanExponent hd

/-! ## 2. From words to the text -/

/-- **How the first word of a text is cut off:** a mark of one or two characters, a quoted text or a
word that starts with `#`, a number, or a word of letters with or without an exclamation mark. -/
inductive Cut (c : Char) (rest : List Char) : Token → List Char → Prop
  | mark {t : Token} {after : List Char} (hc : Plain c)
      (hafter : rest = after ∨ ∃ d, Plain d ∧ rest = d :: after)
      (hname : ∀ s, t ≠ .identifier s) (hparen : t = .openParen → c = '(') : Cut c rest t after
  | delimited {t : Token} {after : List Char} (hc : inWord c = false)
      (hafter : calledIn after = true → calledIn (behind c rest) = true) (hclosed : t.opens = false)
      (hname : ∀ s, t = .identifier s → s.toList.head? = some '#') : Cut c rest t after
  | number {t : Token} {after ds : List Char} (hsplit : c :: rest = ds ++ after)
      (hds : ∀ d ∈ ds, inWord d = true ∨ d = '+' ∨ d = '-') (hclosed : t.opens = false)
      (hname : ∀ s, t ≠ .identifier s) : Cut c rest t after
  | word {t : Token} {after : List Char} (hc : inWord c = true)
      (hafter : rest.dropWhile inWord = after ∨ rest.dropWhile inWord = '!' :: after)
      (hclosed : t.opens = false)
      (hname : ∀ s, t = .identifier s →
        s = String.ofList (c :: rest.takeWhile inWord) ∧ rest.dropWhile inWord = after) :
      Cut c rest t after

theorem cut_markToken? {t : Token} (h : markToken? c = some t) : Cut c rest t rest := by
  unfold markToken? at h
  split at h <;> cases h <;>
    exact .mark ⟨rfl, by decide⟩ (.inl rfl) nofun (by decide)

theorem cut_angleToken (h : c = '<' ∨ c = '>') (rest : List Char) :
    Cut c rest (angleToken c rest).1 (angleToken c rest).2 := by
  have hplain : Plain c := by rcases h with rfl | rfl <;> exact ⟨rfl, by decide⟩
  unfold angleToken
  split
  · exact .mark hplain (.inr ⟨_, ⟨rfl, by decide⟩, rfl⟩) nofun nofun
  · split
    · exact .mark hplain (.inr ⟨_, ⟨rfl, by decide⟩, rfl⟩) nofun nofun
    · exact .mark hplain (.inl rfl) nofun nofun
  · exact .mark hplain (.inl rfl) nofun nofun

theorem cut_textToken (rest : List Char) : Cut '"' rest (textToken rest).1 (textToken rest).2 := by
  unfold textToken
  split
  · rename_i out after hread
    refine .delimited rfl (fun h => ?_) rfl nofun
    rwa [behind, if_pos (.inl rfl), hread]
  · exact .delimited rfl (by simp [calledIn_nil]) rfl nofun

theorem cut_sheetToken (rest : List Char) :
    Cut '\'' rest (sheetToken rest).1 (sheetToken rest).2 := by
  unfold sheetToken
  split
  · rename_i out after hread
    refine .delimited rfl (fun h => ?_) rfl nofun
    rwa [behind, if_pos (.inr rfl), hread, Option.elim_some, calledIn_plain ⟨rfl, by decide⟩]
  · rename_i out after _ hread
    refine .delimited rfl (fun h => ?_) rfl nofun
    rwa [behind, if_pos (.inr rfl), hread]
  · exact .delimited rfl (by simp [calledIn_nil]) rfl nofun

theorem cut_numberToken (cs : List Char) :
    (numberToken cs).opens = false ∧ ∀ s, numberToken cs ≠ .identifier s := by
  unfold numberToken
  split <;> exact ⟨rfl, nofun⟩

theorem cut_hashToken (rest : List Char) :
    Cut '#' rest (hashToken ('#' :: rest.takeWhile inErrorCode)) (rest.dropWhile inErrorCode) := by
  unfold hashToken
  dsimp only
  split
  · exact .delimited rfl id rfl nofun
  · refine .delimited rfl id rfl fun s hs => ?_
    rw [← Token.identifier.inj hs, String.toList_ofList]
    rfl

theorem cut_wordToken (hc : inWord c = true) (rest : List Char) :
    Cut c rest (wordToken (c :: rest.takeWhile inWord) (rest.dropWhile inWord))
      (rest.dropWhile inWord) := by
  unfold wordToken
  dsimp only
  split
  · exact .word hc (.inl rfl) rfl nofun
  · split
    · exact .word hc (.inl rfl) rfl nofun
    · split
      · exact .word hc (.inl rfl) rfl nofun
      · exact .word hc (.inl rfl) rfl fun s hs => ⟨(Token.identifier.inj hs).symm, rfl⟩

/-- **Each first word is cut off in one of these ways.** -/
theorem cut_firstToken (c : Char) (rest : List Char) :
    Cut c rest (firstToken c rest).1 (firstToken c rest).2 := by
  unfold firstToken
  split
  · rename_i t hmark
    exact cut_markToken? hmark
  · split
    · rename_i hangle
      exact cut_angleToken hangle rest
    · split
      · rename_i hquote
        exact hquote ▸ cut_textToken rest
      · split
        · rename_i hquote
          exact hquote ▸ cut_sheetToken rest
        · split
          · obtain ⟨hclosed, hname⟩ := cut_numberToken (spanNumber (c :: rest)).1
            exact .number (spanNumber_append (c :: rest)).symm (fun d hd => mem_spanNumber hd)
              hclosed hname
          · split
            · rename_i hhash
              exact hhash ▸ cut_hashToken rest
            · split
              · rename_i hword
                have hword := inWord_of_startsWord hword
                split
                · rename_i after hafter
                  exact .word hword (.inr hafter) rfl nofun
                · exact cut_wordToken hword rest
              · rename_i hdouble hsingle _ hhash _
                -- a character that starts no word, which may be a point all the same
                cases hword : inWord c with
                | true =>
                  have hsplit : c :: rest = [c] ++ rest := rfl
                  exact .number hsplit (by simp [hword]) rfl nofun
                | false => exact .mark ⟨hword, hdouble, hsingle, hhash⟩ (.inl rfl) nofun nofun

/-- **What stands behind the first word stands in the text,** whether the rest starts in the middle of
a word of the text or not. -/
theorem Cut.calledIn {t : Token} {after : List Char} (hcut : Cut c rest t after)
    (h : calledIn (after.dropWhile inWord) = true) :
    calledIn ((c :: rest).dropWhile inWord) = true := by
  have hall := calledIn_of_dropWhile h
  cases hcut with
  | mark hc hafter =>
    rw [dropWhile_plain hc, calledIn_plain hc]
    rcases hafter with rfl | ⟨d, hd, rfl⟩
    · exact hall
    · rwa [calledIn_plain hd]
  | delimited hc hafter =>
    rw [List.dropWhile_cons, if_neg (by simp [hc])]
    exact calledIn_of_behind (hafter hall)
  | number hsplit hds =>
    rw [hsplit]
    exact calledIn_of_number hds h
  | word hc hafter =>
    rw [List.dropWhile_cons, if_pos hc]
    rcases hafter with rfl | hafter
    · exact hall
    · rwa [hafter, calledIn_plain ⟨rfl, by decide⟩]

/-- **Behind a word after which an operand may stand the text goes on with the start of a word.** -/
theorem Cut.calledIn_of_opens {t : Token} {after : List Char} (hcut : Cut c rest t after)
    (hopens : t.opens = true) (h : Formula.calledIn after = true) :
    Formula.calledIn ((c :: rest).dropWhile inWord) = true := by
  cases hcut with
  | mark hc hafter =>
    rw [dropWhile_plain hc, calledIn_plain hc]
    rcases hafter with rfl | ⟨d, hd, rfl⟩
    · exact h
    · rwa [calledIn_plain hd]
  | delimited _ _ hclosed => exact absurd hopens (by simp [hclosed])
  | number _ _ hclosed => exact absurd hopens (by simp [hclosed])
  | word _ _ hclosed => exact absurd hopens (by simp [hclosed])

/-- Only a parenthesis is read as an opening one. -/
theorem Cut.eq_paren {after : List Char} (hcut : Cut c rest .openParen after) : c = '(' := by
  cases hcut with
  | mark _ _ _ hparen => exact hparen rfl
  | delimited _ _ hclosed => cases hclosed
  | number _ _ hclosed => cases hclosed
  | word _ _ hclosed => cases hclosed

theorem isAlpha_of_toUpper (h : c.toUpper = 'I') : c.isAlpha = true := by
  unfold Char.toUpper at h
  split at h
  · rename_i hlower
    exact Bool.or_eq_true_iff.mpr (.inr (Bool.and_eq_true_iff.mpr
      ⟨decide_eq_true hlower.1, decide_eq_true hlower.2⟩))
  · rw [h]
    rfl

/-- `INDIRECT` starts with a letter, in any case. -/
theorem isAlpha_of_find? {s : String} (h : Function.find? s = some .indirect)
    (hc : s.toList.head? = some c) : c.isAlpha = true := by
  have hfound := List.find?_some h
  have hname : Text.asciiCapital s = "INDIRECT" := (beq_iff_eq.mp hfound).symm
  have hhead := congrArg (fun s : String => s.toList.head?) hname
  simp only [Text.asciiCapital, String.toList_ofList, List.head?_map, hc, Option.map_some] at hhead
  exact isAlpha_of_toUpper (Option.some.inj hhead)

/-- The words of a text, by the first one. -/
theorem exists_of_tokens {t : Token} {ts : List Token} (h : tokens cs = t :: ts) :
    ∃ c rest after, Text.skipBlanks cs = c :: rest ∧ Cut c rest t after ∧ tokens after = ts := by
  rw [tokens] at h
  split at h
  · cases h
  · rename_i c rest hskip
    obtain ⟨rfl, rfl⟩ := List.cons.inj h
    exact ⟨c, rest, _, hskip, cut_firstToken c rest, rfl⟩

/-- **A call that the words start with stands in the text.** -/
theorem calledIn_of_callsFirst (h : CallsFirst (tokens cs)) : calledIn cs = true := by
  obtain ⟨s, more, hwords, hfind⟩ := h
  obtain ⟨c, rest, after, hskip, hcut, hafter⟩ := exists_of_tokens hwords
  obtain ⟨d, rest', _, hskip', hcut', -⟩ := exists_of_tokens hafter
  obtain rfl := hcut'.eq_paren
  rw [← calledIn_skipBlanks, hskip, calledIn_cons]
  cases hcut with
  | mark _ _ hname => exact absurd rfl (hname s)
  | delimited _ _ _ hname => cases isAlpha_of_find? hfind (hname s rfl)
  | number _ _ _ hname => exact absurd rfl (hname s)
  | word hc _ _ hname =>
    obtain ⟨rfl, rfl⟩ := hname s rfl
    rw [hc, callsHere, hfind, hskip']
    rfl

/-- **A call that stands behind some of the words stands in the text** behind its first word. -/
theorem calledIn_of_callsBehind (h : CallsBehind (tokens cs)) :
    calledIn (cs.dropWhile inWord) = true := by
  generalize hwords : tokens cs = words at h
  induction words generalizing cs with
  | nil =>
    obtain ⟨t, more, hsuffix, -⟩ := h
    cases List.suffix_nil.mp hsuffix
  | cons first words ih =>
    obtain ⟨c, rest, after, hskip, hcut, hafter⟩ := exists_of_tokens hwords
    refine calledIn_of_skipBlanks ?_
    rw [hskip]
    obtain ⟨t, more, hsuffix, hopens, hfirst⟩ := h
    rcases List.suffix_cons_iff.mp hsuffix with heq | hsuffix
    · obtain ⟨rfl, rfl⟩ := List.cons.inj heq
      exact hcut.calledIn_of_opens hopens (calledIn_of_callsFirst (hafter ▸ hfirst))
    · exact hcut.calledIn (ih hafter ⟨t, more, hsuffix, hopens, hfirst⟩)

/-- **A call among the words of a text stands in the text.** -/
theorem calledIn_of_calls (h : Calls (tokens cs)) : calledIn cs = true := by
  rcases h with hfirst | hbehind
  · exact calledIn_of_callsFirst hfirst
  · exact calledIn_of_dropWhile (calledIn_of_callsBehind hbehind)

/-! ## 3. The text of a formula -/

/-- A word is passed over unless an opening parenthesis follows. -/
theorem calledIn_word (hne : w ≠ []) (hw : ∀ d ∈ w, inWord d = true) (hcs : Breaks cs) :
    calledIn (w ++ cs) = calledIn cs := by
  obtain ⟨c, rest, rfl⟩ := List.exists_cons_of_ne_nil hne
  have hc : inWord c = true := hw c List.mem_cons_self
  have hrest : ∀ d ∈ rest, inWord d = true := fun d hd => hw d (List.mem_cons_of_mem _ hd)
  have hparen : (Text.skipBlanks cs).head? ≠ some '(' := by
    rw [Text.skipBlanks_eq_self fun d hd => ?_]
    · exact hcs.head?_ne (by decide)
    · exact hcs.stops (p := Text.isBlank) (by decide) d hd
  rw [List.cons_append, calledIn_cons, behind_of_inWord hc,
    dropWhile_append_of_stops hrest (hcs.stops (by decide)), callsHere]
  simp [hparen]

/-- So is a word that is read as one. -/
theorem calledIn_isWord (hw : IsWord w) (hcs : Breaks cs) : calledIn (w ++ cs) = calledIn cs := by
  refine calledIn_word ?_ hw.inWord hcs
  obtain ⟨c, rest, rfl, -⟩ := hw
  exact List.cons_ne_nil c rest

/-- A function is passed over if it is another one. -/
theorem calledIn_function (hw : IsWord w) (hother : Function.find? (String.ofList w) ≠ some .indirect)
    (hcs : Stops inWord cs) : calledIn (w ++ cs) = calledIn cs := by
  obtain ⟨c, rest, rfl, hc, hrest⟩ := hw
  have hc := inWord_of_startsWord hc
  have hhere (after : List Char) : callsHere (c :: rest) after = false := by
    rw [callsHere, beq_eq_false_iff_ne.mpr hother, Bool.false_and]
  rw [List.cons_append, calledIn_cons, behind_of_inWord hc, dropWhile_append_of_stops hrest hcs,
    takeWhile_append_of_stops hrest hcs, hhere, Bool.and_false, Bool.false_or]

/-- A word that starts with `#` takes along what it can. -/
theorem calledIn_hash (hw : IsHash w) (cs : List Char) :
    calledIn (w ++ cs) = calledIn (cs.dropWhile inErrorCode) := by
  obtain ⟨rest, rfl, hrest⟩ := hw
  rw [List.cons_append, calledIn_cons, behind, if_neg (by decide), if_pos rfl,
    List.dropWhile_append_of_pos hrest]
  rfl

/-- A word that does not start with a letter is no function. -/
theorem callsHere_of_not_isAlpha (hc : c.isAlpha = false) (word after : List Char) :
    callsHere (c :: word) after = false := by
  have hother : Function.find? (String.ofList (c :: word)) ≠ some .indirect := fun hfind => by
    rw [isAlpha_of_find? hfind (by rw [String.toList_ofList]; rfl)] at hc
    cases hc
  rw [callsHere, beq_eq_false_iff_ne.mpr hother, Bool.false_and]

/-- **What is taken along hides no call,** wherever it ends. -/
theorem calledIn_of_dropWhile_inErrorCode (h : calledIn (cs.dropWhile inErrorCode) = true) :
    calledIn (cs.dropWhile inWord) = true := by
  induction cs with
  | nil => exact h
  | cons c rest ih =>
    rw [List.dropWhile_cons] at h ⊢
    cases hword : inWord c with
    | true =>
      rw [if_pos rfl]
      split at h
      · exact ih h
      · -- the word goes on with a mark that no function starts with
        rename_i hcode
        have halpha : c.isAlpha = false := by
          refine Bool.eq_false_iff.mpr fun halpha => hcode ?_
          simp [inErrorCode, Char.isAlphanum, halpha]
        rwa [calledIn_cons, callsHere_of_not_isAlpha halpha, Bool.and_false, Bool.false_or,
          behind_of_inWord hword] at h
    | false =>
      rw [if_neg Bool.false_ne_true]
      split at h
      · rename_i hcode
        have hplain : Plain c := by
          refine ⟨hword, ?_, ?_, ?_⟩ <;>
            (rintro rfl; revert hcode; decide)
        rw [calledIn_plain hplain]
        exact calledIn_of_dropWhile (ih h)
      · exact h

/-- **A word that starts with `#` is passed over** if no call follows, though it may take along the
start of what does. -/
theorem calledIn_hash_eq_false (hw : IsHash w) (hclear : calledIn cs = false) :
    calledIn (w ++ cs) = false := by
  rw [calledIn_hash hw]
  refine Bool.eq_false_iff.mpr fun h => ?_
  rw [calledIn_of_dropWhile (calledIn_of_dropWhile_inErrorCode h)] at hclear
  cases hclear

/-- An operator is passed over. -/
theorem calledIn_symbol (op : BinaryOp) (cs : List Char) :
    calledIn (op.symbol.toList ++ cs) = calledIn cs := by
  have hsingle {c : Char} (hc : Plain c) : calledIn ([c] ++ cs) = calledIn cs := calledIn_plain hc cs
  have hdouble {c d : Char} (hc : Plain c) (hd : Plain d) :
      calledIn ([c, d] ++ cs) = calledIn cs :=
    (calledIn_plain hc (d :: cs)).trans (calledIn_plain hd cs)
  cases op <;>
    first
    | exact hsingle ⟨rfl, by decide⟩
    | exact hdouble ⟨rfl, by decide⟩ ⟨rfl, by decide⟩

/-- The name of a sheet is passed over. -/
theorem calledIn_sheetMark (sheet : Option String) (cs : List Char) :
    calledIn (sheetMark sheet ++ cs) = calledIn cs := by
  cases sheet with
  | none => rfl
  | some name =>
    have hbang : calledIn ('!' :: cs) = calledIn cs := calledIn_plain ⟨rfl, by decide⟩ cs
    rw [sheetMark, List.append_assoc, List.singleton_append, ← hbang]
    unfold sheetNameChars
    split
    · rename_i hplain
      obtain ⟨c, rest, hname, hc, hrest⟩ := isWord_of_isPlainName hplain
      have hc := inWord_of_startsWord hc
      have hstops : Stops inWord ('!' :: cs) := stops_cons rfl cs
      rw [hname, List.cons_append, calledIn_cons, behind_of_inWord hc,
        dropWhile_append_of_stops hrest hstops, callsHere]
      simp [Text.skipBlanks, show Text.isBlank '!' = false by decide]
    · rw [Text.delimited, List.cons_append, calledIn_cons, behind, if_pos (.inr rfl),
        List.append_assoc, List.singleton_append, Text.readDelimited?_doubled '\'' _ _ (by simp)]
      rfl

/-- A reference is passed over. -/
theorem calledIn_reference (target : Reference) (hcs : Breaks cs) :
    calledIn (target.chars ++ cs) = calledIn cs := by
  have hposition (p : Position) {ds : List Char} (hds : Breaks ds) :
      calledIn (p.chars ++ ds) = calledIn ds := calledIn_isWord (isWord_chars p) hds
  cases target with
  | cell pos => exact hposition pos hcs
  | area first last =>
    rw [Reference.chars, List.append_assoc, List.cons_append,
      hposition first (breaks_cons (by decide)), calledIn_plain ⟨rfl, by decide⟩,
      hposition last hcs]

/-- The digits of a number are passed over, and so are the words that stand for what is no number. -/
theorem calledIn_number {x : Float} (hx : Decimal.Unsigned x) (hcs : Breaks cs) :
    calledIn ((Decimal.numberText x).toList ++ cs) = calledIn cs := by
  rw [numberText_toList]
  rcases Decimal.plain_chars_cases hx with ⟨-, whole, fraction, hchars, hne, hwhole, hfraction⟩ |
    ⟨-, hword | hword⟩
  · rw [hchars]
    refine calledIn_word (by simp [hne]) (fun d hd => ?_) hcs
    rcases List.mem_append.mp hd with hd | hd
    · exact inWord_of_isDigit (hwhole d hd)
    · rcases hfraction with rfl | ⟨ds, rfl, hds⟩
      · cases hd
      · rcases List.mem_cons.mp hd with rfl | hd
        · rfl
        · exact inWord_of_isDigit (hds d hd)
  · rw [hword]
    exact calledIn_isWord (show IsWord ['i', 'n', 'f'] from isWord_cons (by decide) (by decide)) hcs
  · rw [hword]
    exact calledIn_isWord (show IsWord ['N', 'a', 'N'] from isWord_cons (by decide) (by decide)) hcs

/-- A name is passed over. -/
theorem calledIn_name {s : String} (hs : IsName s) (hcs : Breaks cs)
    (hclear : calledIn cs = false) : calledIn (s.toList ++ cs) = false := by
  rcases hs with ⟨hword, -⟩ | ⟨hhash, -⟩
  · rw [calledIn_isWord hword hcs, hclear]
  · exact calledIn_hash_eq_false hhash hclear

end Text

mutual

/-- **The text of a formula that does not call `INDIRECT` has no call of it,** legible or not. -/
theorem calledIn_chars : ∀ {e : Expr}, e.Canonical → e.callsIndirect = false →
    ∀ {cs : List Char}, Breaks cs → calledIn cs = false → calledIn (e.chars ++ cs) = false
  | .number x, h, _, cs, hcs, hclear => (calledIn_number h hcs).trans hclear
  | .text s, _, _, cs, hcs, hclear => by
    rw [Expr.chars, Text.delimited, List.cons_append, calledIn_cons, behind, if_pos (.inl rfl),
      List.append_assoc, List.singleton_append,
      Text.readDelimited?_doubled '"' _ _ (hcs.head?_ne (by decide))]
    exact hclear
  | .bool b, _, _, cs, hcs, hclear => (calledIn_isWord (isWord_boolText b) hcs).trans hclear
  | .error code, _, _, cs, _, hclear => calledIn_hash_eq_false (isHash_text code) hclear
  | .ref sheet target, _, _, cs, hcs, hclear => by
    rw [Expr.chars, List.append_assoc, calledIn_sheetMark, calledIn_reference target hcs, hclear]
  | .name s, h, _, cs, hcs, hclear => calledIn_name h hcs hclear
  | .binary op left right, ⟨hleft, _, hright, _⟩, hcalls, cs, hcs, hclear => by
    obtain ⟨hcallsLeft, hcallsRight⟩ := Bool.or_eq_false_iff.mp hcalls
    rw [Expr.chars, List.append_assoc, List.append_assoc]
    refine calledIn_chars hleft hcallsLeft (breaks_symbol op _) ?_
    rw [calledIn_symbol]
    exact calledIn_chars hright hcallsRight hcs hclear
  | .negate operand, h, hcalls, cs, hcs, hclear => by
    rw [Expr.chars, List.cons_append, calledIn_plain ⟨rfl, by decide⟩]
    exact calledIn_chars h.1 hcalls hcs hclear
  | .percent operand, h, hcalls, cs, hcs, hclear => by
    rw [Expr.chars, List.append_assoc, List.singleton_append]
    refine calledIn_chars h.1 hcalls (breaks_cons (by decide)) ?_
    rwa [calledIn_plain ⟨rfl, by decide⟩]
  | .group inner, h, hcalls, cs, hcs, hclear => by
    rw [Expr.chars, List.append_assoc, List.singleton_append, List.cons_append,
      calledIn_plain ⟨rfl, by decide⟩]
    refine calledIn_chars (e := inner) h hcalls (breaks_cons (by decide)) ?_
    rwa [calledIn_plain ⟨rfl, by decide⟩]
  | .call function args, h, hcalls, cs, hcs, hclear => by
    obtain ⟨hother, hcallsArgs⟩ := Bool.or_eq_false_iff.mp hcalls
    have hother := beq_eq_false_iff_ne.mp hother
    have hargs : calledIn ('(' :: (argsChars args ++ ')' :: cs)) = false := by
      rw [calledIn_plain ⟨rfl, by decide⟩]
      exact calledIn_argsChars h.2 hcallsArgs hclear
    rw [Expr.chars, List.append_assoc, List.append_assoc, List.singleton_append, List.cons_append]
    rcases h.1.2 with hword | ⟨hhash, -⟩
    · rw [calledIn_function hword (by rwa [String.ofList_toList]) (stops_cons rfl _), hargs]
    · exact calledIn_hash_eq_false hhash hargs

/-- The texts of arguments that do not call `INDIRECT` have no call of it. -/
theorem calledIn_argsChars : ∀ {args : List Expr}, CanonicalAll args →
    anyCallsIndirect args = false → ∀ {cs : List Char}, calledIn cs = false →
    calledIn (argsChars args ++ ')' :: cs) = false
  | [], _, _, cs, hclear => (calledIn_plain ⟨rfl, by decide⟩ cs).trans hclear
  | [e], h, hcalls, cs, hclear => by
    refine calledIn_chars h.1 (Bool.or_eq_false_iff.mp hcalls).1 (breaks_cons (by decide)) ?_
    rwa [calledIn_plain ⟨rfl, by decide⟩]
  | e :: e' :: more, h, hcalls, cs, hclear => by
    obtain ⟨hcallsFirst, hcallsMore⟩ := Bool.or_eq_false_iff.mp hcalls
    rw [argsChars_cons e (List.cons_ne_nil e' more), List.append_assoc, List.cons_append]
    refine calledIn_chars h.1 hcallsFirst (breaks_cons (by decide)) ?_
    rw [calledIn_plain ⟨rfl, by decide⟩]
    exact calledIn_argsChars h.2 hcallsMore hclear

end

/-- **Whatever is read from the text of a formula calls `INDIRECT` only if the formula does,** even
where it is not the formula that is read. -/
theorem callsIndirect_of_parse_source {e e' : Expr} (h : e.Canonical)
    (hcalls : e.callsIndirect = false) (hparse : parse e.source = .ok e') :
    e'.callsIndirect = false := by
  rw [(parse_eq_parseTokens h).2] at hparse
  refine Bool.eq_false_iff.mpr fun hcall => ?_
  have hclear := calledIn_chars h hcalls breaks_nil calledIn_nil
  rw [List.append_nil, calledIn_of_calls (calls_of_parseTokens hparse hcall)] at hclear
  cases hclear

end Spreadsheet.Formula
