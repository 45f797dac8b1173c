/-
# Where words end

* A text is cut into words that are as long as possible.  So a word that is written is read back if
  no character follows that it would take along.  Operators, closing parentheses, commas, colons and
  percent signs are taken along by no word, with one exception: a word that starts with `#` goes on
  over a `/`.
* The words of any text *fit*: a number has no sign, and an identifier is a name, unless an opening
  parenthesis follows, which makes it a function (`fit_tokens`).
-/
import Spreadsheet.Proofs.Addresses
import Spreadsheet.Proofs.Numerals

namespace Spreadsheet.Formula

open Grid

/-! ## 1. Breaks -/

/-- A text that does not start with a character of a class. -/
def Stops (p : Char → Bool) (cs : List Char) : Prop := ∀ c ∈ cs.head?, p c = false

theorem stops_cons {p : Char → Bool} {c : Char} (hc : p c = false) (cs : List Char) :
    Stops p (c :: cs) := by
  intro d hd
  rwa [← Option.some.inj hd]

theorem takeWhile_append_of_stops {p : Char → Bool} {w cs : List Char} (hw : ∀ c ∈ w, p c = true)
    (hcs : Stops p cs) : (w ++ cs).takeWhile p = w := by
  rw [List.takeWhile_append_of_pos hw]
  cases cs with
  | nil => simp
  | cons c cs => simp [hcs c rfl]

theorem dropWhile_append_of_stops {p : Char → Bool} {w cs : List Char} (hw : ∀ c ∈ w, p c = true)
    (hcs : Stops p cs) : (w ++ cs).dropWhile p = cs := by
  rw [List.dropWhile_append_of_pos hw]
  cases cs with
  | nil => rfl
  | cons c cs => simp [hcs c rfl]

/-- The characters that follow a finished operand. -/
def breakChars : List Char := ['+', '-', '*', '/', '^', '&', '=', '<', '>', '%', ':', ',', ')']

/-- **A text that an operand may be followed by:** nothing, or one of these characters first. -/
def Breaks (cs : List Char) : Prop := ∀ c ∈ cs.head?, c ∈ breakChars

theorem breaks_nil : Breaks [] := nofun

theorem breaks_cons {c : Char} {cs : List Char} (hc : c ∈ breakChars) : Breaks (c :: cs) := by
  intro d hd
  rw [← Option.some.inj hd]
  exact hc

theorem Breaks.stops {p : Char → Bool} {cs : List Char} (h : Breaks cs)
    (hp : breakChars.any p = false) : Stops p cs :=
  fun c hc => Bool.eq_false_iff.mpr (List.any_eq_false.mp hp c (h c hc))

theorem Breaks.head?_ne {cs : List Char} (h : Breaks cs) {c : Char} (hc : c ∉ breakChars) :
    cs.head? ≠ some c :=
  fun heq => hc (h c heq)

/-- Behind a word that starts with `#` a slash is no break. -/
theorem Breaks.stops_inErrorCode {cs : List Char} (h : Breaks cs) (hslash : cs.head? ≠ some '/') :
    Stops inErrorCode cs := by
  intro c hc
  have hne : c ≠ '/' := by
    rintro rfl
    exact hslash hc
  have hmem : c ∈ breakChars.filter (· != '/') := List.mem_filter.mpr ⟨h c hc, bne_iff_ne.mpr hne⟩
  have hany : (breakChars.filter (· != '/')).any inErrorCode = false := by decide
  exact Bool.eq_false_iff.mpr (List.any_eq_false.mp hany c hmem)

/-! ## 2. Identifiers -/

/-- **A word of letters,** digits and the marks between them. -/
def IsWord (cs : List Char) : Prop :=
  ∃ c rest, cs = c :: rest ∧ startsWord c = true ∧ ∀ d ∈ rest, inWord d = true

theorem isWord_cons {c : Char} {rest : List Char} (hc : startsWord c = true)
    (hrest : rest.all inWord = true) : IsWord (c :: rest) :=
  ⟨c, rest, rfl, hc, List.all_eq_true.mp hrest⟩

/-- A word that starts with `#`. -/
def IsHash (cs : List Char) : Prop :=
  ∃ rest, cs = '#' :: rest ∧ ∀ d ∈ rest, inErrorCode d = true

/-- **A text that is read as a name.** -/
def IsName (s : String) : Prop :=
  IsWord s.toList ∧ Text.sameLetters s "TRUE" = false ∧ Text.sameLetters s "FALSE" = false ∧
      isAddress s.toList = false ∨
    IsHash s.toList ∧ ErrorCode.read? s = none

/-- **A text that is read as a function** before an opening parenthesis, and kept as it is. -/
def IsFunction (s : String) : Prop :=
  Text.asciiCapital s = s ∧ (IsWord s.toList ∨ IsHash s.toList ∧ ErrorCode.read? s = none)

/-! ## 3. The words of a text fit -/

/-- What there is to know of a word and the words behind it. -/
def Token.Fits (next : List Token) : Token → Prop
  | .number x => Decimal.Unsigned x
  | .identifier s => IsName s ∨ IsWord s.toList ∧ next.head? = some .openParen
  | _ => True

/-- **Words that a text can be made of.** -/
def Fit : List Token → Prop
  | [] => True
  | t :: ts => t.Fits ts ∧ Fit ts

theorem tokens_nil : tokens [] = [] := by
  rw [tokens]
  rfl

/-- The words of a text that does not start with a blank. -/
theorem tokens_cons {c : Char} (hc : Text.isBlank c = false) (rest : List Char) :
    tokens (c :: rest) = (firstToken c rest).1 :: tokens (firstToken c rest).2 := by
  have hskip : Text.skipBlanks (c :: rest) = c :: rest := by simp [Text.skipBlanks, hc]
  rw [tokens]
  split
  · rename_i h
    rw [hskip] at h
    cases h
  · rename_i c' rest' h
    rw [hskip] at h
    obtain ⟨rfl, rfl⟩ := List.cons.inj h
    rfl

theorem fits_of_markToken? {c : Char} {t : Token} (h : markToken? c = some t) (next : List Token) :
    t.Fits next := by
  unfold markToken? at h
  split at h <;> cases h <;> trivial

theorem fits_angleToken (c : Char) (cs : List Char) (next : List Token) :
    (angleToken c cs).1.Fits next := by
  unfold angleToken
  split
  · trivial
  · split <;> trivial
  · trivial

theorem fits_textToken (cs : List Char) (next : List Token) : (textToken cs).1.Fits next := by
  unfold textToken
  split <;> trivial

theorem fits_sheetToken (cs : List Char) (next : List Token) : (sheetToken cs).1.Fits next := by
  unfold sheetToken
  split <;> trivial

theorem fits_numberToken {cs : List Char} (hcs : cs.head? ≠ some '-') (next : List Token) :
    (numberToken cs).Fits next := by
  unfold numberToken
  split
  · rename_i x hx
    exact Decimal.unsigned_of_read? hcs hx
  · trivial

theorem fits_hashToken {rest : List Char} (h : ∀ d ∈ rest, inErrorCode d = true)
    (next : List Token) : (hashToken ('#' :: rest)).Fits next := by
  unfold hashToken
  dsimp only
  split
  · trivial
  · rename_i hnone
    exact .inl (.inr ⟨⟨rest, String.toList_ofList, h⟩, hnone⟩)

/-- A word of letters fits what is read behind it. -/
theorem fits_wordToken {w after : List Char} (hw : IsWord w) :
    (wordToken w after).Fits (tokens after) := by
  unfold wordToken
  cases hcalled : after.head? == some '(' with
  | true =>
    obtain ⟨rest, rfl⟩ : ∃ rest, after = '(' :: rest := by
      cases after with
      | nil => cases hcalled
      | cons c rest => exact ⟨rest, by rw [Option.some.inj (beq_iff_eq.mp hcalled)]⟩
    refine .inr ⟨by rwa [String.toList_ofList], ?_⟩
    rw [tokens_cons (by decide)]
    rfl
  | false =>
    simp only [Bool.not_false, Bool.true_and]
    split
    · trivial
    · split
      · trivial
      · split
        · trivial
        · rename_i htrue hfalse haddress
          refine .inl (.inl ⟨by rwa [String.toList_ofList], ?_, ?_, ?_⟩)
          · exact Bool.eq_false_iff.mpr htrue
          · exact Bool.eq_false_iff.mpr hfalse
          · rw [String.toList_ofList]
            exact Bool.eq_false_iff.mpr haddress

theorem fits_firstToken (c : Char) (rest : List Char) :
    (firstToken c rest).1.Fits (tokens (firstToken c rest).2) := by
  unfold firstToken
  split
  · rename_i t ht
    exact fits_of_markToken? ht _
  · rename_i hmark
    split
    · exact fits_angleToken ..
    · split
      · exact fits_textToken ..
      · split
        · exact fits_sheetToken ..
        · split
          · refine fits_numberToken (fun hhead => ?_) _
            -- The numeral starts where the text starts, and there is no minus sign.
            have happ := spanNumber_append (c :: rest)
            cases hspan : (spanNumber (c :: rest)).1 with
            | nil =>
              rw [hspan] at hhead
              cases hhead
            | cons d ds =>
              rw [hspan] at hhead happ
              obtain rfl : c = d := (List.cons.inj happ).1.symm
              obtain rfl : c = '-' := Option.some.inj hhead
              cases hmark
          · split
            · rename_i hhash
              subst hhash
              exact fits_hashToken (fun d hd => List.all_eq_true.mp List.all_takeWhile d hd) _
            · split
              · rename_i hword
                have hw : IsWord (c :: rest.takeWhile inWord) :=
                  isWord_cons hword List.all_takeWhile
                split
                · trivial
                · exact fits_wordToken hw
              · trivial

/-- **The words of every text fit.** -/
theorem fit_tokens (cs : List Char) : Fit (tokens cs) := by
  induction cs using tokens.induct with
  | case1 cs h =>
    rw [tokens]
    split
    · trivial
    · rename_i c rest h'
      rw [h] at h'
      cases h'
  | case2 cs c rest h ih =>
    rw [tokens]
    split
    · rename_i h'
      rw [h] at h'
      cases h'
    · rename_i c' rest' h'
      rw [h] at h'
      obtain ⟨rfl, rfl⟩ := List.cons.inj h'
      exact ⟨fits_firstToken c rest, ih⟩

/-! ## 4. Characters of words -/

theorem bounds_of_inWord {c : Char} (h : inWord c = true) : 33 ≤ c.toNat ∧ c.toNat ≤ 126 := by
  simp only [inWord, Char.isAlphanum, Bool.or_eq_true, beq_iff_eq] at h
  rcases h with (((h | h) | rfl) | rfl) | rfl
  · have := bounds_of_isAlpha h
    omega
  · have := bounds_of_isDigit h
    omega
  · decide
  · decide
  · decide

theorem isBlank_of_inWord {c : Char} (h : inWord c = true) : Text.isBlank c = false :=
  Text.isBlank_eq_false (bounds_of_inWord h)

theorem inWord_of_startsWord {c : Char} (h : startsWord c = true) : inWord c = true := by
  simp only [startsWord, Bool.or_eq_true, beq_iff_eq] at h
  rcases h with (h | rfl) | rfl
  · simp [inWord, Char.isAlphanum, h]
  · decide
  · decide

theorem inWord_of_isDigit {c : Char} (h : c.isDigit = true) : inWord c = true := by
  simp [inWord, Char.isAlphanum, h]

theorem isDigit_eq_false_of_startsWord {c : Char} (h : startsWord c = true) :
    c.isDigit = false := by
  rw [Bool.eq_false_iff]
  intro hdigit
  simp only [startsWord, Bool.or_eq_true, beq_iff_eq] at h
  rcases h with (h | rfl) | rfl
  · rw [isAlpha_eq_false_of_isDigit hdigit] at h
    cases h
  · exact absurd hdigit (by decide)
  · exact absurd hdigit (by decide)

theorem IsWord.inWord {w : List Char} (hw : IsWord w) : ∀ c ∈ w, inWord c = true := by
  obtain ⟨c, rest, rfl, hc, hrest⟩ := hw
  intro d hd
  rcases List.mem_cons.mp hd with rfl | hd
  · exact inWord_of_startsWord hc
  · exact hrest d hd

/-! ## 5. Words that are read back -/

/-- A letter, an underscore or a dollar sign starts a word. -/
theorem firstToken_of_startsWord {c : Char} (hc : startsWord c = true) (rest : List Char) :
    firstToken c rest =
      if (rest.dropWhile inWord).head? = some '!' then
        (.sheet (String.ofList (c :: rest.takeWhile inWord)), (rest.dropWhile inWord).tail)
      else
        (wordToken (c :: rest.takeWhile inWord) (rest.dropWhile inWord),
          rest.dropWhile inWord) := by
  have hne {d : Char} (hd : startsWord d = false) : c ≠ d := by
    rintro rfl
    rw [hc] at hd
    cases hd
  have hmark : markToken? c = none := by
    unfold markToken?
    split <;> first | rfl | exact absurd rfl (hne (by decide))
  have hnumber : startsNumber (c :: rest) = false := by
    have hdigit := isDigit_eq_false_of_startsWord hc
    cases rest <;> simp [startsNumber, hdigit, hne (d := '.') (by decide)]
  unfold firstToken
  rw [hmark]
  dsimp only
  rw [if_neg (by simp [hne (d := '<') (by decide), hne (d := '>') (by decide)]),
    if_neg (hne (by decide)), if_neg (hne (by decide)), if_neg (by simp [hnumber]),
    if_neg (hne (by decide))]
  refine (if_pos hc).trans ?_
  by_cases hbang : (rest.dropWhile inWord).head? = some '!'
  · obtain ⟨after, hafter⟩ := List.head?_eq_some_iff.mp hbang
    simp only [hafter, List.head?_cons, List.tail_cons, reduceIte]
  · refine Eq.trans ?_ (if_neg hbang).symm
    split
    · rename_i hafter
      rw [hafter] at hbang
      exact absurd rfl hbang
    · rfl

/-- **A word of letters is read up to where it ends.** -/
theorem tokens_word {w cs : List Char} (hw : IsWord w) (hcs : Stops inWord cs)
    (hmark : cs.head? ≠ some '!') : tokens (w ++ cs) = wordToken w cs :: tokens cs := by
  obtain ⟨c, rest, rfl, hc, hrest⟩ := hw
  rw [List.cons_append, tokens_cons (isBlank_of_inWord (inWord_of_startsWord hc)),
    firstToken_of_startsWord hc, takeWhile_append_of_stops hrest hcs,
    dropWhile_append_of_stops hrest hcs, if_neg hmark]

/-- Before an exclamation mark a word is the name of a sheet. -/
theorem tokens_plainName {w : List Char} (hw : IsWord w) (cs : List Char) :
    tokens (w ++ '!' :: cs) = .sheet (String.ofList w) :: tokens cs := by
  have hstops : Stops inWord ('!' :: cs) := stops_cons (by decide) cs
  obtain ⟨c, rest, rfl, hc, hrest⟩ := hw
  rw [List.cons_append, tokens_cons (isBlank_of_inWord (inWord_of_startsWord hc)),
    firstToken_of_startsWord hc, takeWhile_append_of_stops hrest hstops,
    dropWhile_append_of_stops hrest hstops]
  simp only [List.head?_cons, List.tail_cons, reduceIte]

/-- **A word that starts with `#` is read up to where it ends.** -/
theorem tokens_hash {w cs : List Char} (hw : IsHash w) (hcs : Stops inErrorCode cs) :
    tokens (w ++ cs) = hashToken w :: tokens cs := by
  obtain ⟨rest, rfl, hrest⟩ := hw
  have hfirst : firstToken '#' (rest ++ cs) =
      (hashToken ('#' :: (rest ++ cs).takeWhile inErrorCode),
        (rest ++ cs).dropWhile inErrorCode) := by
    unfold firstToken
    have hnumber : startsNumber ('#' :: (rest ++ cs)) = false := by
      cases rest ++ cs <;> rfl
    rw [show markToken? '#' = none from rfl]
    dsimp only
    rw [if_neg (by decide), if_neg (by decide), if_neg (by decide), if_neg (by simp [hnumber]),
      if_pos rfl]
  rw [List.cons_append, tokens_cons (by decide), hfirst, takeWhile_append_of_stops hrest hcs,
    dropWhile_append_of_stops hrest hcs]

/-- A mark is a word of its own. -/
theorem tokens_mark {c : Char} {t : Token} (h : markToken? c = some t) (cs : List Char) :
    tokens (c :: cs) = t :: tokens cs := by
  have hblank : Text.isBlank c = false := by
    unfold markToken? at h
    split at h <;> first | decide | cases h
  rw [tokens_cons hblank]
  unfold firstToken
  rw [h]

/-- **An operator is read from its symbol** if no equals sign or angle follows. -/
theorem tokens_symbol (op : BinaryOp) {cs : List Char} (hequals : cs.head? ≠ some '=')
    (hangle : cs.head? ≠ some '>') :
    tokens (op.symbol.toList ++ cs) = .operator op :: tokens cs := by
  have hangled (c : Char) (rest : List Char) (hc : c = '<' ∨ c = '>') :
      tokens (c :: rest) = (angleToken c rest).1 :: tokens (angleToken c rest).2 := by
    rcases hc with rfl | rfl
    · exact tokens_cons (by decide) rest
    · exact tokens_cons (by decide) rest
  have hsingle (c : Char) (hc : c = '<' ∨ c = '>') :
      angleToken c cs = (.operator (if c = '<' then .less else .greater), cs) := by
    unfold angleToken
    split
    · exact absurd rfl hequals
    · exact absurd rfl hangle
    · rfl
  cases op with
  | add => exact tokens_mark rfl cs
  | subtract => exact tokens_mark rfl cs
  | multiply => exact tokens_mark rfl cs
  | divide => exact tokens_mark rfl cs
  | power => exact tokens_mark rfl cs
  | join => exact tokens_mark rfl cs
  | equal => exact tokens_mark rfl cs
  | notEqual => exact hangled '<' ('>' :: cs) (.inl rfl)
  | lessOrEqual => exact hangled '<' ('=' :: cs) (.inl rfl)
  | greaterOrEqual => exact hangled '>' ('=' :: cs) (.inr rfl)
  | less =>
    refine (hangled '<' cs (.inl rfl)).trans ?_
    rw [hsingle '<' (.inl rfl)]
    rfl
  | greater =>
    refine (hangled '>' cs (.inr rfl)).trans ?_
    rw [hsingle '>' (.inr rfl)]
    rfl

/-- **A text constant is read back** unless another quote follows. -/
theorem tokens_text (s : String) {cs : List Char} (hcs : cs.head? ≠ some '"') :
    tokens (Text.delimited '"' s.toList ++ cs) = .text s :: tokens cs := by
  have hfirst (rest : List Char) : firstToken '"' rest = textToken rest := rfl
  rw [Text.delimited, List.cons_append, tokens_cons (by decide), hfirst, textToken,
    List.append_assoc, List.singleton_append, Text.readDelimited?_doubled '"' _ _ hcs]
  dsimp only
  rw [String.ofList_toList]

/-- A sheet name without quotes is a word of letters. -/
theorem isWord_of_isPlainName {cs : List Char} (h : isPlainName cs = true) : IsWord cs := by
  simp only [isPlainName, Bool.and_eq_true, Option.any_eq_true, List.all_eq_true] at h
  obtain ⟨⟨c, hhead, hc⟩, hall⟩ := h
  cases cs with
  | nil => cases hhead
  | cons d rest =>
    obtain rfl : d = c := Option.some.inj hhead
    refine ⟨d, rest, rfl, ?_, fun e he => ?_⟩
    · simp only [startsPlainName, Bool.or_eq_true] at hc
      simp only [startsWord, Bool.or_eq_true]
      exact .inl hc
    · have he := hall e (List.mem_cons_of_mem _ he)
      simp only [inPlainName, Bool.or_eq_true] at he
      simp only [inWord, Bool.or_eq_true]
      rcases he with he | he
      · exact .inl (.inl he)
      · exact .inr he

/-- **The name of a sheet is read back,** quoted or not. -/
theorem tokens_sheetName (name : String) (cs : List Char) :
    tokens (sheetNameChars name ++ '!' :: cs) = .sheet name :: tokens cs := by
  unfold sheetNameChars
  split
  · rename_i hplain
    rw [tokens_plainName (isWord_of_isPlainName hplain), String.ofList_toList]
  · have hfirst (rest : List Char) : firstToken '\'' rest = sheetToken rest := rfl
    rw [Text.delimited, List.cons_append, tokens_cons (by decide), hfirst, sheetToken,
      List.append_assoc, List.singleton_append,
      Text.readDelimited?_doubled '\'' _ _ (by simp)]
    simp only [String.ofList_toList]

/-! ## 6. Constants, addresses and names -/

/-- **A numeral is one word,** whatever breaks off behind it. -/
theorem spanNumber_append_of_breaks {ds cs : List Char} (hds : Decimal.IsNumeral ds)
    (hcs : Breaks cs) : spanNumber (ds ++ cs) = (ds, cs) := by
  have hdigit : Stops Char.isDigit cs := hcs.stops (by decide)
  have hexponent : spanExponent cs = ([], cs) := by
    have hne (c : Char) (hc : c ∉ breakChars) : cs.head? ≠ some c := hcs.head?_ne hc
    unfold spanExponent
    split
    · rename_i c d rest
      rw [if_neg]
      rintro (rfl | rfl)
      · exact hne 'e' (by decide) rfl
      · exact hne 'E' (by decide) rfl
    · rfl
  obtain ⟨whole, fraction, rfl, -, hwhole, hfraction⟩ := hds
  rcases hfraction with rfl | ⟨digits, rfl, hdigits⟩
  · have hpoint : spanFraction cs = ([], cs) := by
      unfold spanFraction
      split
      · exact absurd rfl (hcs.head?_ne (c := '.') (by decide))
      · rfl
    rw [List.append_nil]
    simp only [spanNumber, takeWhile_append_of_stops hwhole hdigit,
      dropWhile_append_of_stops hwhole hdigit, hpoint, hexponent, List.append_nil]
  · have hpoint : Stops Char.isDigit ('.' :: (digits ++ cs)) := stops_cons (by decide) _
    have hspan : spanFraction ('.' :: (digits ++ cs)) = ('.' :: digits, cs) := by
      rw [spanFraction, takeWhile_append_of_stops hdigits hdigit,
        dropWhile_append_of_stops hdigits hdigit]
    rw [List.append_assoc, List.cons_append]
    simp only [spanNumber, takeWhile_append_of_stops hwhole hpoint,
      dropWhile_append_of_stops hwhole hpoint, hspan, hexponent, List.append_nil]

/-- **A numeral is read as the number it writes.** -/
theorem tokens_numeral {ds cs : List Char} (hds : Decimal.IsNumeral ds) (hcs : Breaks cs) :
    tokens (ds ++ cs) = numberToken ds :: tokens cs := by
  have hspan := spanNumber_append_of_breaks hds hcs
  obtain ⟨whole, fraction, rfl, hne, hwhole, -⟩ := hds
  cases whole with
  | nil => exact absurd rfl hne
  | cons c whole =>
    have hc : c.isDigit = true := hwhole c List.mem_cons_self
    have hdistinct {d : Char} (hd : d.isDigit = false) : c ≠ d := by
      rintro rfl
      rw [hc] at hd
      cases hd
    have hmark : markToken? c = none := by
      unfold markToken?
      split <;> first | rfl | exact absurd rfl (hdistinct (by decide))
    simp only [List.cons_append] at hspan ⊢
    have hnumber : startsNumber (c :: (whole ++ fraction ++ cs)) = true := by
      cases whole ++ fraction ++ cs <;> simp [startsNumber, hc]
    have hfirst : firstToken c (whole ++ fraction ++ cs) =
        (numberToken (c :: (whole ++ fraction)), cs) := by
      unfold firstToken
      rw [hmark]
      dsimp only
      rw [if_neg (by simp [hdistinct (d := '<') (by decide), hdistinct (d := '>') (by decide)]),
        if_neg (hdistinct (by decide)), if_neg (hdistinct (by decide)), if_pos hnumber, hspan]
    rw [tokens_cons (isBlank_of_inWord (inWord_of_isDigit hc)), hfirst]

theorem head?_beq_of_breaks {cs : List Char} (h : Breaks cs) :
    (cs.head? == some '(') = false :=
  beq_eq_false_iff_ne.mpr (h.head?_ne (by decide))

theorem isWord_boolText (b : Bool) : IsWord (Value.boolText b).toList := by
  cases b with
  | true => exact show IsWord ['T', 'R', 'U', 'E'] from isWord_cons (by decide) (by decide)
  | false => exact show IsWord ['F', 'A', 'L', 'S', 'E'] from isWord_cons (by decide) (by decide)

/-- **A truth value is read back.** -/
theorem tokens_bool (b : Bool) {cs : List Char} (hcs : Breaks cs) :
    tokens ((Value.boolText b).toList ++ cs) = .bool b :: tokens cs := by
  rw [tokens_word (isWord_boolText b) (hcs.stops (by decide)) (hcs.head?_ne (by decide)), wordToken,
    head?_beq_of_breaks hcs]
  cases b <;> rfl

theorem isHash_text (code : ErrorCode) : IsHash code.text.toList := by
  cases code <;> exact ⟨_, rfl, List.all_eq_true.mp (by decide)⟩

theorem hashToken_text (code : ErrorCode) : hashToken code.text.toList = .error code := by
  cases code <;> rfl

/-- **An error code is read back** unless a slash follows. -/
theorem tokens_error (code : ErrorCode) {cs : List Char} (hcs : Breaks cs)
    (hslash : cs.head? ≠ some '/') :
    tokens (code.text.toList ++ cs) = .error code :: tokens cs := by
  rw [tokens_hash (isHash_text code) (hcs.stops_inErrorCode hslash), hashToken_text]

/-- A word with a digit is no truth value. -/
theorem sameLetters_eq_false {w : List Char} {d : Char} (hd : d ∈ w) (hdigit : d.isDigit = true)
    {s : String} (hs : (s.toList.map Char.toUpper).any Char.isDigit = false) :
    Text.sameLetters (String.ofList w) s = false := by
  refine beq_eq_false_iff_ne.mpr fun heq => ?_
  have hupper : d.toUpper = d := by
    have := bounds_of_isDigit hdigit
    unfold Char.toUpper
    rw [dif_neg]
    intro h
    have hle : 97 ≤ d.toNat := h.1
    omega
  have hmem : d ∈ s.toList.map Char.toUpper := by
    have hlists := congrArg String.toList heq
    simp only [Text.asciiCapital, String.toList_ofList] at hlists
    rw [← hlists]
    exact List.mem_map.mpr ⟨d, hd, hupper⟩
  exact List.any_eq_false.mp hs d hmem hdigit

/-- A position is a word of letters. -/
theorem isWord_chars (p : Position) : IsWord p.chars := by
  have hall : ∀ c ∈ p.chars, inWord c = true := by
    intro c hc
    rcases Position.of_mem_chars hc with rfl | hc | hc
    · decide
    · simp [inWord, Char.isAlphanum, hc]
    · exact inWord_of_isDigit hc
  -- In front there is a mark or a letter.
  obtain ⟨c, rest, hchars, hc⟩ : ∃ c rest, p.chars = c :: rest ∧ startsWord c = true := by
    unfold Position.chars
    cases p.col.fixed with
    | true => exact ⟨'$', _, rfl, by decide⟩
    | false =>
      cases hcol : columnLetters p.col.index with
      | nil => exact absurd hcol (columnLetters_ne_nil _)
      | cons d letters =>
        have hd : d.isAlpha = true :=
          isAlpha_of_mem_numberLetters _ d (by rw [← columnLetters, hcol]; simp)
        exact ⟨d, _, rfl, by simp [startsWord, hd]⟩
  refine ⟨c, rest, hchars, hc, fun d hd => hall d ?_⟩
  rw [hchars]
  exact List.mem_cons_of_mem _ hd

/-- **An address is read as one word.** -/
theorem tokens_position (p : Position) {cs : List Char} (hcs : Breaks cs) :
    tokens (p.chars ++ cs) = .address p.text :: tokens cs := by
  obtain ⟨hmark, hletters, hbehind, hdigits⟩ := p.parts_of_chars
  have haddress : isAddress p.chars = true := by
    have hall : (Nat.toDigits 10 (rowNumber p.row.index)).all Char.isDigit = true :=
      List.all_eq_true.mpr fun c hc => isDigit_of_mem_rowDigits hc
    simp [isAddress, hmark, hletters, hbehind, hdigits, columnLetters_ne_nil, hall,
      Nat.toDigits_ne_nil]
  obtain ⟨d, hd⟩ := List.exists_mem_of_ne_nil _
    (Nat.toDigits_ne_nil (n := rowNumber p.row.index) (b := 10))
  have hmem : d ∈ p.chars := by simp [Position.chars, hd]
  have hdigit := isDigit_of_mem_rowDigits hd
  rw [tokens_word (isWord_chars p) (hcs.stops (by decide)) (hcs.head?_ne (by decide)), wordToken,
    head?_beq_of_breaks hcs, sameLetters_eq_false hmem hdigit (by decide),
    sameLetters_eq_false hmem hdigit (by decide), haddress]
  rfl

theorem hashToken_of_read? {s : String} (h : ErrorCode.read? s = none) :
    hashToken s.toList = .identifier s := by
  rw [hashToken, String.ofList_toList, h]

/-- **A name is read back,** unless it starts with `#` and a slash follows. -/
theorem tokens_name {s : String} (hs : IsName s) {cs : List Char} (hcs : Breaks cs)
    (hslash : s.toList.head? = some '#' → cs.head? ≠ some '/') :
    tokens (s.toList ++ cs) = .identifier s :: tokens cs := by
  rcases hs with ⟨hw, htrue, hfalse, haddress⟩ | ⟨hhash, hnone⟩
  · rw [tokens_word hw (hcs.stops (by decide)) (hcs.head?_ne (by decide)), wordToken,
      head?_beq_of_breaks hcs, String.ofList_toList, htrue, hfalse, haddress]
    rfl
  · have hhead : s.toList.head? = some '#' := by
      obtain ⟨rest, hrest, -⟩ := hhash
      rw [hrest]
      rfl
    rw [tokens_hash hhash (hcs.stops_inErrorCode (hslash hhead)), hashToken_of_read? hnone]

/-- **The name of a function is read back** before an opening parenthesis. -/
theorem tokens_function {s : String} (hs : IsFunction s) (cs : List Char) :
    tokens (s.toList ++ '(' :: cs) = .identifier s :: .openParen :: tokens cs := by
  have hparen : tokens ('(' :: cs) = .openParen :: tokens cs := tokens_mark rfl cs
  rcases hs with ⟨-, hw | ⟨hhash, hnone⟩⟩
  · rw [tokens_word hw (stops_cons (by decide) cs) (by simp), wordToken, String.ofList_toList, hparen]
    rfl
  · rw [tokens_hash hhash (stops_cons (by decide) cs), hashToken_of_read? hnone, hparen]

/-! ## 7. The capital name of a function -/

/-- Capital letters are letters like others, and their own capitals. -/
theorem toUpper_spec (c : Char) : c.toUpper.toUpper = c.toUpper ∧
    (startsWord c = true → startsWord c.toUpper = true) ∧
    (inWord c = true → inWord c.toUpper = true) ∧
    (inErrorCode c = true → inErrorCode c.toUpper = true) := by
  by_cases hascii : c.toNat < 128
  · have hall : ∀ n < 128, (Char.ofNat n).toUpper.toUpper = (Char.ofNat n).toUpper ∧
        (startsWord (Char.ofNat n) = true → startsWord (Char.ofNat n).toUpper = true) ∧
        (inWord (Char.ofNat n) = true → inWord (Char.ofNat n).toUpper = true) ∧
        (inErrorCode (Char.ofNat n) = true → inErrorCode (Char.ofNat n).toUpper = true) := by
      decide
    have := hall c.toNat hascii
    rwa [Char.ofNat_toNat] at this
  · have hself : c.toUpper = c := by
      unfold Char.toUpper
      rw [dif_neg]
      intro h
      have hle : c.toNat ≤ 122 := h.2
      omega
    simp [hself]

theorem asciiCapital_asciiCapital (s : String) :
    Text.asciiCapital (Text.asciiCapital s) = Text.asciiCapital s := by
  simp only [Text.asciiCapital, String.toList_ofList, List.map_map]
  congr 1
  refine List.map_congr_left fun c _ => ?_
  exact (toUpper_spec c).1

/-- **What stands before an opening parenthesis is a function** once its letters are capital. -/
theorem isFunction_asciiCapital {s : String} (h : IsName s ∨ IsWord s.toList) :
    IsFunction (Text.asciiCapital s) := by
  have hlist : (Text.asciiCapital s).toList = s.toList.map Char.toUpper := String.toList_ofList
  have hword (hw : IsWord s.toList) : IsWord (Text.asciiCapital s).toList := by
    obtain ⟨c, rest, hs, hc, hrest⟩ := hw
    refine ⟨c.toUpper, rest.map Char.toUpper, by rw [hlist, hs, List.map_cons],
      (toUpper_spec c).2.1 hc, fun d hd => ?_⟩
    obtain ⟨e, he, rfl⟩ := List.mem_map.mp hd
    exact (toUpper_spec e).2.2.1 (hrest e he)
  refine ⟨asciiCapital_asciiCapital s, ?_⟩
  rcases h with (⟨hw, -⟩ | ⟨⟨rest, hs, hrest⟩, hnone⟩) | hw
  · exact .inl (hword hw)
  · refine .inr ⟨⟨rest.map Char.toUpper, by rw [hlist, hs, List.map_cons]; rfl, fun d hd => ?_⟩, ?_⟩
    · obtain ⟨e, he, rfl⟩ := List.mem_map.mp hd
      exact (toUpper_spec e).2.2.2 (hrest e he)
    · rw [ErrorCode.read?, asciiCapital_asciiCapital]
      exact hnone
  · exact .inl (hword hw)

end Spreadsheet.Formula
