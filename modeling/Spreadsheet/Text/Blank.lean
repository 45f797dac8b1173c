/-
# Blank characters and trimming

* *Blank* is the white space of Unicode: the controls from tab to carriage return, the space, and
  the separators of every width.  The no-break space is one of them, the zero-width space is not.
* A text is trimmed by dropping the blanks at both ends; what is left starts and ends with a
  character that is not blank, or is empty.
-/

namespace Spreadsheet.Text

/-! ## 1. The class -/

/-- **White space of Unicode.** -/
def isBlank (c : Char) : Bool :=
  (9 ≤ c.toNat && c.toNat ≤ 13) || c.toNat == 0x20 || c.toNat == 0x85 || c.toNat == 0xA0 ||
    c.toNat == 0x1680 || (0x2000 ≤ c.toNat && c.toNat ≤ 0x200A) || c.toNat == 0x2028 ||
    c.toNat == 0x2029 || c.toNat == 0x202F || c.toNat == 0x205F || c.toNat == 0x3000

/-! ## 2. Trimming -/

/-- The characters without the blanks they start with. -/
def skipBlanks (cs : List Char) : List Char := cs.dropWhile isBlank

/-- The characters without the blanks at both ends. -/
def trimChars (cs : List Char) : List Char := (skipBlanks (skipBlanks cs).reverse).reverse

theorem skipBlanks_length_le (cs : List Char) : (skipBlanks cs).length ≤ cs.length := by
  induction cs with
  | nil => simp [skipBlanks]
  | cons c cs ih =>
    simp only [skipBlanks, List.dropWhile_cons] at ih ⊢
    split
    · exact Nat.le_succ_of_le ih
    · exact Nat.le_refl _

/-- After skipping, the first character is not blank. -/
theorem not_isBlank_of_skipBlanks {cs rest : List Char} {c : Char}
    (h : skipBlanks cs = c :: rest) : isBlank c = false := by
  induction cs with
  | nil => simp [skipBlanks] at h
  | cons d cs ih =>
    simp only [skipBlanks, List.dropWhile_cons] at ih h
    split at h
    · exact ih h
    · rename_i hd
      simp only [List.cons.injEq] at h
      simpa [h.1] using hd

theorem skipBlanks_eq_self {cs : List Char} (h : ∀ c ∈ cs.head?, isBlank c = false) :
    skipBlanks cs = cs := by
  cases cs with
  | nil => rfl
  | cons c cs => simp [skipBlanks, h c rfl]

/-- A text without blanks at its ends is as long trimmed. -/
theorem trimChars_eq_self {cs : List Char} (hhead : ∀ c ∈ cs.head?, isBlank c = false)
    (hlast : ∀ c ∈ cs.getLast?, isBlank c = false) : trimChars cs = cs := by
  have hreverse : skipBlanks cs.reverse = cs.reverse := by
    refine skipBlanks_eq_self ?_
    rw [List.head?_reverse]
    exact hlast
  rw [trimChars, skipBlanks_eq_self hhead, hreverse, List.reverse_reverse]

/-- What is printed in ASCII and no space is not blank. -/
theorem isBlank_eq_false {c : Char} (h : 33 ≤ c.toNat ∧ c.toNat ≤ 126) : isBlank c = false := by
  simp only [isBlank, Bool.or_eq_false_iff, Bool.and_eq_false_iff, decide_eq_false_iff_not,
    beq_eq_false_iff_ne]
  omega

end Spreadsheet.Text
