/-
# Texts between delimiters

Text constants stand between double quotes and sheet names between single ones.  Inside, the
delimiter is written twice and everything else once, so every text can be written and what is
written ends where it should: at the first delimiter that stands alone.
-/

namespace Spreadsheet.Text

/-- The characters with every delimiter doubled. -/
def doubled (delimiter : Char) : List Char → List Char
  | [] => []
  | c :: rest =>
    if c = delimiter then c :: c :: doubled delimiter rest else c :: doubled delimiter rest

/-- **The characters between delimiters.** -/
def delimited (delimiter : Char) (cs : List Char) : List Char :=
  delimiter :: (doubled delimiter cs ++ [delimiter])

/-- **Reads up to the closing delimiter.**  The opening one has been read.  Gives the characters
and what follows them, or nothing where the text ends first. -/
def readDelimited? (delimiter : Char) : List Char → Option (List Char × List Char)
  | [] => none
  | c :: rest =>
    if c = delimiter then
      match rest with
      | d :: more =>
        if d = delimiter then
          (readDelimited? delimiter more).map fun (cs, tail) => (delimiter :: cs, tail)
        else
          some ([], rest)
      | [] => some ([], [])
    else
      (readDelimited? delimiter rest).map fun (cs, tail) => (c :: cs, tail)

/-- What follows a delimited text is shorter than the text it was read from. -/
theorem readDelimited?_rest_lt {q : Char} : ∀ {cs out tail : List Char},
    readDelimited? q cs = some (out, tail) → tail.length < cs.length
  | [], _, _, h => by simp [readDelimited?] at h
  | c :: rest, out, tail, h => by
    rw [readDelimited?.eq_def] at h
    simp only at h
    split at h
    · split at h
      · rename_i d more
        split at h
        · obtain ⟨⟨cs, t⟩, hr, he⟩ := Option.map_eq_some_iff.mp h
          have := readDelimited?_rest_lt hr
          simp only [Prod.mk.injEq] at he
          simp only [List.length_cons, ← he.2]
          omega
        · simp only [Option.some.injEq, Prod.mk.injEq] at h
          simp [← h.2]
      · simp only [Option.some.injEq, Prod.mk.injEq] at h
        simp [← h.2]
    · obtain ⟨⟨cs, t⟩, hr, he⟩ := Option.map_eq_some_iff.mp h
      have := readDelimited?_rest_lt hr
      simp only [Prod.mk.injEq] at he
      simp only [List.length_cons, ← he.2]
      omega

/-- **What was written is read back,** whatever follows it, unless another delimiter does. -/
theorem readDelimited?_doubled (q : Char) (cs tail : List Char) (h : tail.head? ≠ some q) :
    readDelimited? q (doubled q cs ++ q :: tail) = some (cs, tail) := by
  induction cs with
  | nil =>
    cases tail with
    | nil => simp [doubled, readDelimited?]
    | cons d rest =>
      have hd : d ≠ q := by simpa using h
      simp [doubled, readDelimited?, hd]
  | cons c cs ih =>
    by_cases hc : c = q
    · subst hc
      simp [doubled, readDelimited?, ih]
    · rw [doubled, if_neg hc, List.cons_append, readDelimited?.eq_def]
      simp [hc, ih]

end Spreadsheet.Text
