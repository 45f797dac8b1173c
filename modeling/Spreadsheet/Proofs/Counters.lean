/-
# Counters on their own source

* Digits are the number that they make, written at their own width (`padded_digitsValue`).  So a text
  that ends in a number is its stem with that number, written at the width it has there
  (`Numbered.spells_of_read?`).
* Even steps from the first number lead to every other one (`number_of_jumps`), and nothing is cut
  off on the way, because all of them are numbers that counters know.
* So a counter gives back the stem and the number of each text that it was made from, but at one
  width for all, that of the first.  A text comes out as it went in exactly if the number has that
  width there, or is too long for it and has no zeros in front (`value_detect_source`).
-/
import Spreadsheet.Proofs.Addresses
import Spreadsheet.Series

namespace Spreadsheet.Series

open Decimal Grid

/-! ## 1. Digits -/

section Digits

variable {cs : List Char} {n v w : Nat}

theorem digitChar_of_isDigit {c : Char} (h : c.isDigit = true) :
    Nat.digitChar (c.toNat - '0'.toNat) = c := by
  obtain ⟨hlow, hhigh⟩ := bounds_of_isDigit h
  have hzero : '0'.toNat = 48 := rfl
  apply Char.toNat_inj.mp
  rw [Nat.toNat_digitChar_of_lt_ten (by omega)]
  omega

theorem digit_lt_ten {c : Char} (h : c.isDigit = true) : c.toNat - '0'.toNat < 10 := by
  have hhigh := (bounds_of_isDigit h).2
  have hzero : '0'.toNat = 48 := rfl
  omega

/-- Digits behind a number that is not zero are put behind its digits. -/
theorem toDigits_digitsOnto (hv : 0 < v) (hcs : ∀ c ∈ cs, c.isDigit = true) :
    Nat.toDigits 10 (digitsOnto v cs) = Nat.toDigits 10 v ++ cs := by
  induction cs generalizing v with
  | nil => exact (List.append_nil _).symm
  | cons c cs ih =>
    have hc := hcs c List.mem_cons_self
    have hlt := digit_lt_ten hc
    have hfirst : Nat.toDigits 10 (v * 10 + (c.toNat - '0'.toNat)) = Nat.toDigits 10 v ++ [c] := by
      rw [Nat.mul_comm, ← Nat.toDigits_append_toDigits (by decide) hv hlt,
        Nat.toDigits_of_lt_base hlt, digitChar_of_isDigit hc]
    have hrest := ih (v := v * 10 + (c.toNat - '0'.toNat)) (by omega) fun d hd =>
      hcs d (List.mem_cons_of_mem _ hd)
    calc Nat.toDigits 10 (digitsOnto v (c :: cs))
        = Nat.toDigits 10 (v * 10 + (c.toNat - '0'.toNat)) ++ cs := hrest
      _ = Nat.toDigits 10 v ++ c :: cs := by rw [hfirst, List.append_assoc, List.singleton_append]

/-- Digits without a zero in front are those of the number that they make. -/
theorem toDigits_digitsValue {c : Char} (hzero : c ≠ '0') (hcs : ∀ d ∈ c :: cs, d.isDigit = true) :
    Nat.toDigits 10 (digitsValue (c :: cs)) = c :: cs := by
  have hc := hcs c List.mem_cons_self
  have hpos : 0 < c.toNat - '0'.toNat := by
    have hlow := (bounds_of_isDigit hc).1
    have hne : c.toNat ≠ '0'.toNat := fun heq => hzero (Char.toNat_inj.mp heq)
    have hnum : '0'.toNat = 48 := rfl
    omega
  have honto : digitsValue (c :: cs) = digitsOnto (c.toNat - '0'.toNat) cs := by
    rw [digitsValue, digitsOnto, List.foldl_cons, Nat.zero_mul, Nat.zero_add, digitsOnto]
  rw [honto, toDigits_digitsOnto hpos fun d hd => hcs d (List.mem_cons_of_mem _ hd),
    Nat.toDigits_of_lt_base (digit_lt_ten hc), digitChar_of_isDigit hc, List.singleton_append]

theorem length_padded : (padded w n).length = max w (Nat.toDigits 10 n).length := by
  rw [padded, List.length_append, List.length_replicate]
  omega

theorem length_toDigits_le (h : (padded w n).length = w) : (Nat.toDigits 10 n).length ≤ w := by
  rw [length_padded] at h
  omega

/-- What a number looks like depends on its width as far as that is beyond its digits. -/
theorem padded_eq_iff :
    padded v n = padded w n ↔
      max v (Nat.toDigits 10 n).length = max w (Nat.toDigits 10 n).length := by
  constructor
  · intro h
    rw [← length_padded, h, length_padded]
  · intro h
    have hzeros : v - (Nat.toDigits 10 n).length = w - (Nat.toDigits 10 n).length := by omega
    rw [padded, hzeros, padded]

/-- One more digit of width is one more zero. -/
theorem padded_succ (h : (Nat.toDigits 10 n).length ≤ w) : padded (w + 1) n = '0' :: padded w n := by
  rw [padded, Nat.succ_sub h, List.replicate_succ, List.cons_append, padded]

/-- **Digits are the number that they make,** at their own width. -/
theorem padded_digitsValue (hne : cs ≠ []) (hcs : ∀ c ∈ cs, c.isDigit = true) :
    padded cs.length (digitsValue cs) = cs := by
  induction cs with
  | nil => exact absurd rfl hne
  | cons c cs ih =>
    by_cases hzero : c = '0'
    · subst hzero
      cases cs with
      | nil => decide
      | cons d ds =>
        have hrest := ih (List.cons_ne_nil d ds) fun c hc => hcs c (List.mem_cons_of_mem _ hc)
        rw [List.length_cons, show digitsValue ('0' :: d :: ds) = digitsValue (d :: ds) from rfl,
          padded_succ (length_toDigits_le (congrArg List.length hrest)), hrest]
    · rw [padded, toDigits_digitsValue hzero hcs, Nat.sub_self, List.replicate_zero,
        List.nil_append]

end Digits

/-! ## 2. Texts with a number -/

/-- **A text is the stem with the number,** at the width that the number has there, and counters know
the number. -/
structure Numbered.Spells (n : Numbered) (text : String) : Prop where
  text_eq : text = n.stem ++ String.ofList (padded n.width n.number)
  number_le : (n.number : Int) ≤ maxNumber
  length_le : (Nat.toDigits 10 n.number).length ≤ n.width

/-- A text with a number is what was read from it. -/
theorem Numbered.spells_of_read? {text : String} {n : Numbered} (h : Numbered.read? text = some n) :
    n.Spells text := by
  unfold read? at h
  dsimp only at h
  split at h
  · cases h
  · rename_i hread
    cases h
    simp only [Bool.or_eq_true, Bool.not_eq_true', decide_eq_true_eq, not_or, Bool.not_eq_false,
      Bool.not_eq_true, List.isEmpty_eq_false_iff, List.all_eq_true] at hread
    obtain ⟨⟨⟨hne, hdigits⟩, -⟩, hmax⟩ := hread
    have hpadded := padded_digitsValue hne hdigits
    refine ⟨?_, Int.not_lt.mp hmax, length_toDigits_le (congrArg List.length hpadded)⟩
    rw [hpadded, ← String.ofList_append, ← List.reverse_append, List.takeWhile_append_dropWhile,
      List.reverse_reverse, String.ofList_toList]

theorem Numbered.exists_text {v : Value} {n : Numbered}
    (h : v.text?.bind Numbered.read? = some n) : ∃ text, v = .text text ∧ n.Spells text := by
  obtain ⟨text, htext, hread⟩ := Option.bind_eq_some_iff.mp h
  refine ⟨text, ?_, spells_of_read? hread⟩
  cases v <;> cases htext
  rfl

section Jumps

variable {ns : List Numbered} {step : Int}

theorem mem_jumps {i : Nat} (hi : i + 1 < ns.length) :
    (ns[i + 1].number : Int) - ns[i].number ∈ jumps ns := by
  have hlt : i < (jumps ns).length := by
    rw [jumps, List.length_zipWith, List.length_drop]
    omega
  have hget : (jumps ns)[i] = (ns[i + 1].number : Int) - ns[i].number := by
    simp [jumps]
  rw [← hget]
  exact List.getElem_mem hlt

/-- **Even steps lead from the first number to every other one.** -/
theorem number_of_jumps (h : ∀ jump ∈ jumps ns, jump = step) {i : Nat} (hi : i < ns.length) :
    (ns[i].number : Int) = ns[0].number + step * i := by
  induction i with
  | zero => simp
  | succ i ih =>
    have hjump := h _ (mem_jumps hi)
    have hbefore := ih (by omega)
    calc (ns[i + 1].number : Int) = ns[i].number + step := by omega
      _ = ns[0].number + step * (i + 1 : Nat) := by
        rw [hbefore, Int.natCast_add, Int.mul_add]
        omega

end Jumps

/-! ## 3. Detection -/

theorem map_of_mapM_eq_some {α β : Type} {f : α → Option β} {xs : List α} {ys : List β}
    (h : xs.mapM f = some ys) : xs.map f = ys.map some := by
  induction xs generalizing ys with
  | nil =>
    cases h
    rfl
  | cons x xs ih =>
    rw [List.mapM_cons] at h
    obtain ⟨y, hy, h⟩ := Option.bind_eq_some_iff.mp h
    obtain ⟨rest, hrest, h⟩ := Option.bind_eq_some_iff.mp h
    cases h
    rw [List.map_cons, List.map_cons, hy, ih hrest]

/-- **What a counter is made from.** -/
structure Counted (values : List Value) (first : Numbered) (step : Int) (ns : List Numbered) :
    Prop where
  texts : values.map (fun v => v.text?.bind Numbered.read?) = ns.map some
  head : ns.head? = some first
  stem : ∀ n ∈ ns, n.stem = first.stem
  even : ∀ jump ∈ jumps ns, jump = step

theorem Counted.exists_source {values : List Value} {first : Numbered} {step : Int}
    {ns : List Numbered} (h : Counted values first step ns) {i : Nat} (hi : i < values.length) :
    ∃ n, values[i].text?.bind Numbered.read? = some n ∧ n.stem = first.stem ∧
      (n.number : Int) = first.number + step * i ∧ (i = 0 → n = first) := by
  have hlength : values.length = ns.length := by
    have hlength := congrArg List.length h.texts
    rwa [List.length_map, List.length_map] at hlength
  have hi' : i < ns.length := hlength ▸ hi
  have hread := congrArg (·[i]?) h.texts
  simp only [List.getElem?_map, List.getElem?_eq_getElem hi, List.getElem?_eq_getElem hi',
    Option.map_some, Option.some.injEq] at hread
  have hfirst : ns[0] = first := by
    have hhead := h.head
    rw [List.head?_eq_getElem?, List.getElem?_eq_getElem (by omega)] at hhead
    exact Option.some.inj hhead
  refine ⟨ns[i], hread, h.stem _ (List.getElem_mem hi'), ?_, ?_⟩
  · rw [number_of_jumps h.even hi', hfirst]
  · rintro rfl
    exact hfirst

theorem counted_of_counterOf? {values : List Value} {s : Series} (h : counterOf? values = some s) :
    ∃ first step ns, Counted values first step ns ∧
      s = .counter first.stem first.number step first.width := by
  unfold counterOf? at h
  obtain ⟨ns, hns, h⟩ := Option.bind_eq_some_iff.mp h
  obtain ⟨first, hfirst, h⟩ := Option.bind_eq_some_iff.mp h
  dsimp only at h
  split at h
  · rename_i heven
    cases h
    simp only [Bool.and_eq_true, List.all_eq_true, beq_iff_eq] at heven
    exact ⟨first, _, ns, ⟨map_of_mapM_eq_some hns, hfirst, heven.1, heven.2⟩, rfl⟩
  · cases h

/-- A series that is not linear is the counter of its values, or their cycle. -/
theorem detect_cases (values : List Value) :
    (∃ start step, detect values = .linear start step) ∨
    (∃ first step ns, Counted values first step ns ∧
      detect values = .counter first.stem first.number step first.width) ∨
    detect values = .cycle values := by
  unfold detect
  split
  · rename_i first rest _
    left
    unfold linearOf
    split
    · exact ⟨_, _, rfl⟩
    · split <;> exact ⟨_, _, rfl⟩
  · right
    cases hcounter : counterOf? values with
    | none => exact .inr rfl
    | some s =>
      obtain ⟨first, step, ns, hcounted, rfl⟩ := counted_of_counterOf? hcounter
      exact .inl ⟨first, step, ns, hcounted, rfl⟩

/-! ## 4. Values at the places of the source -/

theorem clamped_eq_self {n : Int} (hlow : minNumber ≤ n) (hhigh : n ≤ maxNumber) :
    clamped n = n := by
  unfold clamped
  omega

/-- Between numbers that counters know nothing is cut off. -/
theorem value_counter {stem : String} {start width n : Nat} {step index : Int}
    (hstart : (start : Int) ≤ maxNumber) (hn : (n : Int) ≤ maxNumber)
    (h : (n : Int) = start + step * index) :
    (Series.counter stem start step width).value index =
      .text (stem ++ String.ofList (padded width n)) := by
  have hmax : maxNumber = 9223372036854775807 := rfl
  have hmin : minNumber = -9223372036854775808 := rfl
  have hjump : clamped (step * index) = step * index := clamped_eq_self (by omega) (by omega)
  have hsum : clamped (start + step * index) = n := by
    rw [← h]
    exact clamped_eq_self (by omega) hn
  rw [value, hjump, hsum, Int.max_eq_right (by omega), Int.toNat_natCast]

/-- **A series that is not linear, at the places of the values it was made from.**  A cycle has the
values there.  A counter has their stems and numbers, each number at the width of the first.  So it
has the value itself exactly if the number is as wide there, or wider without zeros in front. -/
theorem value_detect_source {values : List Value} {i : Nat} (hi : i < values.length) :
    (∀ source, detect values = .cycle source → (detect values).value i = values[i]) ∧
    ∀ stem start step width, detect values = .counter stem start step width →
      ∃ n, values[i].text?.bind Numbered.read? = some n ∧ n.stem = stem ∧
        (i = 0 → n.width = width) ∧
        (detect values).value i = .text (stem ++ String.ofList (padded width n.number)) ∧
        ((detect values).value i = values[i] ↔ n.width = width ∨
          width < n.width ∧ n.width = (Nat.toDigits 10 n.number).length) := by
  constructor
  · intro source h
    obtain ⟨_, _, hlinear⟩ | ⟨_, _, _, _, hcounter⟩ | hcycle := detect_cases values
    · cases h.symm.trans hlinear
    · cases h.symm.trans hcounter
    · have hmod : ((i : Int) % (values.length : Int)).toNat = i := by
        rw [Int.emod_eq_of_lt (by omega) (by omega), Int.toNat_natCast]
      rw [hcycle, value, hmod, List.getElem?_eq_getElem hi, Option.getD_some]
  · intro stem start step width h
    obtain ⟨_, _, hlinear⟩ | ⟨first, _, ns, hcounted, hcounter⟩ | hcycle := detect_cases values
    · cases h.symm.trans hlinear
    · obtain ⟨rfl, rfl, rfl, rfl⟩ := Series.counter.inj (h.symm.trans hcounter)
      obtain ⟨n, hread, hstem, hnumber, hzero⟩ := hcounted.exists_source hi
      obtain ⟨start, hstart, -, -, hsame⟩ :=
        hcounted.exists_source (Nat.zero_lt_of_lt hi)
      obtain rfl := hsame rfl
      obtain ⟨_, -, hspellsStart⟩ := Numbered.exists_text hstart
      obtain ⟨text, htext, hspells⟩ := Numbered.exists_text hread
      have hvalue : (Series.counter start.stem start.number _ start.width).value i =
          .text (start.stem ++ String.ofList (padded start.width n.number)) :=
        value_counter hspellsStart.number_le hspells.number_le hnumber
      refine ⟨n, hread, hstem, fun h => congrArg Numbered.width (hzero h), hcounter ▸ hvalue, ?_⟩
      have hlength := hspells.length_le
      rw [hcounter, hvalue, htext, hspells.text_eq, hstem]
      simp only [Value.text.injEq, String.append_right_inj, String.ofList_inj, padded_eq_iff]
      omega
    · cases h.symm.trans hcycle

/-- A number that would be narrower than the first without its zero, and a cycle. -/
theorem value_detect_items :
    (detect [.text "Item 11", .text "Item 09", .text "Item 07"]).value 1 = .text "Item 09" ∧
      (detect [.text "Item 1", .bool true, .text "Item 3"]).value 2 = .text "Item 3" := by
  constructor
  · have hdetect : detect [.text "Item 11", .text "Item 09", .text "Item 07"] =
        .counter "Item " 11 (-2) 2 := by rfl
    have hwidth : (Numbered.read? "Item 09").map (·.width) = some 2 := by decide +kernel
    obtain ⟨n, hread, -, -, -, hiff⟩ :=
      (@value_detect_source [.text "Item 11", .text "Item 09", .text "Item 07"] 1
        (by decide)).2 _ _ _ _ hdetect
    change Numbered.read? "Item 09" = some n at hread
    rw [hread] at hwidth
    exact hiff.mpr (.inl (Option.some.inj hwidth))
  · exact (@value_detect_source [.text "Item 1", .bool true, .text "Item 3"] 2 (by decide)).1 _ rfl

/-- **A counter does not give back a text with a narrower number:** it has the width of the first. -/
theorem narrower_source_widened :
    detect [.text "Item 10", .text "Item 9"] = .counter "Item " 10 (-1) 2 ∧
      (detect [.text "Item 10", .text "Item 9"]).value 1 ≠ .text "Item 9" := by
  refine ⟨by rfl, ?_⟩
  decide +kernel

end Spreadsheet.Series
