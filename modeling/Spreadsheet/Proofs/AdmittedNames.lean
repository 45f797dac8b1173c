/-
# Names that formulas can use

* A name that can be given is a word without marks, no truth value, and not the address of a cell
  (`Admitted`).
* A formula takes a word for an address by its shape, letters with digits behind them
  (`AddressShaped`), and only then looks for the cell.
* So a name that can be given is read back as itself, unless it has the shape of an address and
  leads beyond the grid, as `XFE1` and `A0` do.  Such a name is kept and found in its table, and
  every formula that is nothing but the name is refused (`parse_admitted_iff`).
-/
import Spreadsheet.Names
import Spreadsheet.Proofs.Rendering

namespace Spreadsheet.Formula

open Grid

/-! ## 1. The shape of an address -/

/-- **Letters, and digits behind them.** -/
def AddressShaped (cs : List Char) : Prop :=
  ∃ letters digits, cs = letters ++ digits ∧ letters ≠ [] ∧ digits ≠ [] ∧
    (∀ c ∈ letters, c.isAlpha = true) ∧ ∀ c ∈ digits, c.isDigit = true

/-- Of a word without marks the shape is all that is looked at. -/
theorem isAddress_iff {cs : List Char} (hmark : '$' ∉ cs) :
    isAddress cs = true ↔ AddressShaped cs := by
  have hskip {es : List Char} (h : es ⊆ cs) : takeMark es = (false, es) := by
    have hhead : es.head? ≠ some '$' := fun hhead => hmark (h (List.mem_of_head? hhead))
    exact (takeMark_fixedMark hhead : takeMark (fixedMark false ++ es) = _)
  have hrest : cs.dropWhile Char.isAlpha ⊆ cs := (List.dropWhile_sublist _).subset
  simp only [isAddress, hskip (List.Subset.refl cs), hskip hrest, Bool.and_eq_true,
    Bool.not_eq_true', List.isEmpty_eq_false_iff, List.all_eq_true]
  constructor
  · rintro ⟨⟨hletters, hdigits⟩, hall⟩
    exact ⟨_, _, List.takeWhile_append_dropWhile.symm, hletters, hdigits,
      List.all_eq_true.mp List.all_takeWhile, hall⟩
  · rintro ⟨letters, digits, rfl, hletters, hdigits, halpha, hdigit⟩
    have hstops : Stops Char.isAlpha digits := fun c hc =>
      isAlpha_eq_false_of_isDigit (hdigit c (List.mem_of_mem_head? hc))
    rw [takeWhile_append_of_stops halpha hstops, dropWhile_append_of_stops halpha hstops]
    exact ⟨⟨hletters, hdigits⟩, hdigit⟩

/-- An address that names no cell fails the formula that it is. -/
theorem parseTokens_badAddress {text : String} {fault : AddressFault}
    (h : Position.read text = .error fault) :
    parseTokens [.address text] = .error (.badAddress text fault) := by
  have hoperand : readOperand [.address text] = .error (.badAddress text fault) := by
    refine (readOperand_address none text).trans ?_
    rw [addressExpr, h]
    rfl
  have hunary : readUnary [.address text] = .error (.badAddress text fault) := by
    rw [readUnary_of_ne (by rintro _ ⟨⟩) (by rintro _ ⟨⟩), readCorners_eq, hoperand]
    rfl
  have hpower : readBinary .power [.address text] = .error (.badAddress text fault) := by
    rw [readBinary_of_tightest rfl, hunary]
    rfl
  -- every looser level starts with an operand of the next tighter one
  have hlooser {level inner : Level} (htighter : level.tighter? = some inner)
      (hinner : readBinary inner [.address text] = .error (.badAddress text fault)) :
      readBinary level [.address text] = .error (.badAddress text fault) := by
    rw [readBinary_of_tighter htighter, hinner]
    rfl
  have hproduct := @hlooser .product _ rfl hpower
  have hjoining := @hlooser .joining _ rfl (@hlooser .sum _ rfl hproduct)
  rw [parseTokens_eq, @hlooser .comparison _ rfl hjoining]

/-! ## 2. Names that can be given -/

/-- **What is known of a name that can be given.** -/
structure Admitted (s : String) : Prop where
  isWord : IsWord s.toList
  unmarked : '$' ∉ s.toList
  notTrue : Text.sameLetters s "TRUE" = false
  notFalse : Text.sameLetters s "FALSE" = false
  offGrid : ∃ fault, Position.read s = .error fault

theorem startsWord_of_startsName {c : Char} (h : startsName c = true) : startsWord c = true := by
  simp only [startsName, Bool.or_eq_true] at h
  simp only [startsWord, Bool.or_eq_true]
  exact .inl h

theorem inWord_of_continuesName {c : Char} (h : continuesName c = true) : inWord c = true := by
  simp only [continuesName, Bool.or_eq_true] at h
  simp only [inWord, Bool.or_eq_true]
  rcases h with (h | h) | h
  · exact .inl (.inl (.inl h))
  · exact .inl (.inl (.inr h))
  · exact .inr h

theorem admitted_of_checkName {s : String} (h : checkName s = .ok ()) : Admitted s := by
  unfold checkName at h
  split at h
  case h_2 => cases h
  rename_i c rest hchars
  split at h
  · cases h
  rename_i hshape
  split at h
  · cases h
  rename_i hread
  split at h
  · cases h
  rename_i hbool
  simp only [Bool.or_eq_true, Bool.not_eq_true', not_or, Bool.not_eq_false, Bool.not_eq_true,
    List.all_eq_true] at hshape hbool
  obtain ⟨hstart, hrest⟩ := hshape
  refine ⟨⟨c, rest, hchars, startsWord_of_startsName hstart,
    fun d hd => inWord_of_continuesName (hrest d hd)⟩, ?unmarked, hbool.1, hbool.2, ?offGrid⟩
  case unmarked =>
    rw [hchars]
    intro hmem
    rcases List.mem_cons.mp hmem with rfl | hmem
    · cases hstart
    · cases hrest _ hmem
  case offGrid =>
    cases hpos : Position.read s with
    | error fault => exact ⟨fault, rfl⟩
    | ok pos => exact absurd (by rw [hpos]; rfl) hread

theorem exists_define {s : String} (h : checkName s = .ok ()) (t : NameTable) (range : Range) :
    ∃ t', t.define s range = .ok t' ∧ t'.range? s = some range := by
  refine ⟨⟨t.byKey.put (Text.small s) ⟨s, range⟩⟩, ?_, ?_⟩
  · rw [NameTable.define, h]
    rfl
  · simp [NameTable.range?, NameTable.find?]

/-! ## 3. Formulas that are nothing but a name -/

section Admitted

variable {s : String}

/-- There is one word, and its shape decides what it is. -/
theorem Admitted.tokens_eq (h : Admitted s) :
    tokens s.toList = [if isAddress s.toList then .address s else .identifier s] := by
  have hword : tokens (s.toList ++ []) = wordToken s.toList [] :: tokens [] :=
    tokens_word h.isWord nofun nofun
  rw [List.append_nil, tokens_nil, wordToken, String.ofList_toList, h.notTrue, h.notFalse] at hword
  rw [hword]
  cases isAddress s.toList <;> rfl

theorem Admitted.parse_eq (h : Admitted s) :
    parse s = parseTokens (tokens s.toList) ∧ parse ("=" ++ s) = parse s := by
  obtain ⟨hplain, hequals⟩ := h.isWord.solid.parse_eq
  have hchars : String.ofList ('=' :: s.toList) = "=" ++ s := by
    rw [← String.toList_inj, String.toList_append, String.toList_ofList]
    rfl
  rw [String.ofList_toList] at hplain
  rw [hchars] at hequals
  exact ⟨hplain, hequals.trans hplain.symm⟩

theorem Admitted.parse_of_not_shaped (h : Admitted s) (hshape : ¬ AddressShaped s.toList) :
    parse s = .ok (.name s) := by
  have haddress := mt (isAddress_iff h.unmarked).mp hshape
  have hname : IsName s := .inl ⟨h.isWord, h.notTrue, h.notFalse, Bool.eq_false_iff.mpr haddress⟩
  rw [h.parse_eq.1, h.tokens_eq, if_neg haddress]
  exact parseTokens_words (e := .name s) hname

theorem Admitted.parse_of_shaped (h : Admitted s) (hshape : AddressShaped s.toList) :
    ∃ fault, Position.read s = .error fault ∧ parse s = .error (.badAddress s fault) := by
  obtain ⟨fault, hfault⟩ := h.offGrid
  refine ⟨fault, hfault, ?_⟩
  rw [h.parse_eq.1, h.tokens_eq, if_pos ((isAddress_iff h.unmarked).mpr hshape)]
  exact parseTokens_badAddress hfault

end Admitted

/-- **A name that can be given is found where it was given, and a formula that is nothing but the
name reads it exactly if it does not have the shape of an address.**  If it has, it leads beyond
the grid, and the formula is refused for that. -/
theorem parse_admitted_iff {s : String} (h : checkName s = .ok ()) :
    (∀ (t : NameTable) range, ∃ t', t.define s range = .ok t' ∧ t'.range? s = some range) ∧
    parse ("=" ++ s) = parse s ∧
    (parse s = .ok (.name s) ↔ ¬ AddressShaped s.toList) ∧
    (AddressShaped s.toList → ∃ fault, Position.read s = .error fault ∧
      parse s = .error (.badAddress s fault)) := by
  have hadmitted := admitted_of_checkName h
  refine ⟨exists_define h, hadmitted.parse_eq.2, ⟨?_, hadmitted.parse_of_not_shaped⟩,
    hadmitted.parse_of_shaped⟩
  intro hread hshape
  obtain ⟨fault, -, hfails⟩ := hadmitted.parse_of_shaped hshape
  cases hread.symm.trans hfails

/-- Points, underscores and digits may be anywhere behind the first character, but letters with
digits behind them are read as an address, here one whose column is beyond the grid. -/
theorem parse_admitted_rate :
    parse "_rate.2" = .ok (.name "_rate.2") ∧
      ∃ fault, Position.read "XFE1" = .error fault ∧
        parse "XFE1" = .error (.badAddress "XFE1" fault) := by
  obtain ⟨-, -, hrate, -⟩ :=
    parse_admitted_iff (s := "_rate.2") (eq_ok_of_isOk (by decide +kernel))
  obtain ⟨-, -, -, hbeyond⟩ :=
    parse_admitted_iff (s := "XFE1") (eq_ok_of_isOk (by decide +kernel))
  constructor
  · refine hrate.mpr fun hshape => ?_
    exact absurd ((isAddress_iff (by decide)).mpr hshape) (by decide)
  · exact hbeyond ((isAddress_iff (by decide)).mp (by decide))

/-- **A name that can be given and not used.** -/
theorem name_beyond_grid_refused :
    checkName "XFE1" = .ok () ∧ parse "XFE1" ≠ .ok (.name "XFE1") := by
  refine ⟨eq_ok_of_isOk (by decide +kernel), fun hread => ?_⟩
  have hfails : (parse "XFE1").isOk = false := by decide +kernel
  rw [hread] at hfails
  cases hfails

end Spreadsheet.Formula
