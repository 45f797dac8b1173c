/-
# Numerals

* A numeral in a formula has no sign, and the double nearest to it has none either: rounding,
  multiplying and dividing keep the sign of doubles that have none (`Written.unsigned_nearest`).
* So a finite number of a formula is written as digits, with at most one point between them, and
  an infinite one as a word (`plain_chars_cases`).

Which digits are written, and that they read back as the same double, plays no part here.
-/
import Spreadsheet.Formula.Token

namespace Spreadsheet.Decimal

open Float.Model (UnpackedFloat Format)
open Float.Model.UnpackedFloat (Sign)

/-! ## 1. Doubles without a sign -/

/-- **A double without a minus sign:** its highest bit is not set. -/
def Unsigned (x : Float) : Prop := x.toBits.toBitVec.msb = false

instance (x : Float) : Decidable (Unsigned x) := inferInstanceAs (Decidable (_ = _))

/-- A double, taken apart, without a minus sign. -/
def Unmarked : UnpackedFloat → Prop
  | .infinity s | .zero s | .finite s _ _ _ => s = .positive
  | .notANumber => True

theorem Unmarked.cases {u : UnpackedFloat} (h : Unmarked u) :
    u = .notANumber ∨ u = .infinity .positive ∨ u = .zero .positive ∨
      ∃ m e hm, u = .finite .positive m e hm := by
  cases u with
  | notANumber => exact .inl rfl
  | infinity s =>
    obtain rfl : s = .positive := h
    exact .inr (.inl rfl)
  | zero s =>
    obtain rfl : s = .positive := h
    exact .inr (.inr (.inl rfl))
  | finite s m e hm =>
    obtain rfl : s = .positive := h
    exact .inr (.inr (.inr ⟨m, e, hm, rfl⟩))

theorem msb_packComponents (e : BitVec Format.binary64.exponentBits)
    (m : BitVec Format.binary64.mantissaBitsWithoutImplicit) :
    (UnpackedFloat.packComponents Format.binary64 .positive e m).msb = false := by
  change ((0#1 ++ e : BitVec (1 + 11)) ++ (m : BitVec 52) : BitVec (1 + 11 + 52)).msb = false
  rw [BitVec.msb_append, BitVec.msb_append]
  simp

theorem msb_pack {u : UnpackedFloat} (h : Unmarked u) :
    (UnpackedFloat.pack Format.binary64 u).msb = false := by
  rcases h.cases with rfl | rfl | rfl | ⟨m, e, hm, rfl⟩
  · exact msb_packComponents ..
  · exact msb_packComponents ..
  · exact msb_packComponents ..
  · unfold UnpackedFloat.pack
    dsimp only
    split
    · exact msb_packComponents ..
    · split <;> exact msb_packComponents ..

theorem unmarked_dite {c : Prop} [Decidable c] {u : c → UnpackedFloat} {v : ¬c → UnpackedFloat}
    (hu : ∀ h, Unmarked (u h)) (hv : ∀ h, Unmarked (v h)) : Unmarked (dite c u v) := by
  split
  · exact hu _
  · exact hv _

theorem unmarked_ite {c : Prop} [Decidable c] {u v : UnpackedFloat} (hu : Unmarked u)
    (hv : Unmarked v) : Unmarked (if c then u else v) := by
  split
  · exact hu
  · exact hv

theorem unmarked_unpack {b : BitVec Format.binary64.numBits} (h : b.msb = false) :
    Unmarked (UnpackedFloat.unpack Format.binary64 b) := by
  have hbit : UnpackedFloat.unpackSign b = 0#1 := by
    ext i hi
    obtain rfl : i = 0 := by omega
    rw [BitVec.msb_eq_getLsbD_last] at h
    unfold UnpackedFloat.unpackSign
    simpa using h
  have hsign : Sign.ofBitVec (UnpackedFloat.unpackSign b) = .positive := by
    rw [hbit]
    rfl
  refine unmarked_ite (unmarked_ite hsign trivial) (unmarked_ite ?_ hsign)
  exact unmarked_dite (fun _ => hsign) fun _ => hsign

theorem unmarked_roundWithAccuracy (m : Nat) (e : Int) (accuracy : UnpackedFloat.Accuracy) :
    Unmarked (UnpackedFloat.roundWithAccuracy Format.binary64 .positive m e accuracy) :=
  unmarked_dite (fun _ => rfl) fun _ => rfl

theorem unmarked_mul {u v : UnpackedFloat} (hu : Unmarked u) (hv : Unmarked v) :
    Unmarked (UnpackedFloat.mul Format.binary64 u v) := by
  rcases hu.cases with rfl | rfl | rfl | ⟨m, e, hm, rfl⟩ <;>
    rcases hv.cases with rfl | rfl | rfl | ⟨n, f, hn, rfl⟩ <;>
    first | trivial | exact unmarked_roundWithAccuracy ..

theorem unmarked_div {u v : UnpackedFloat} (hu : Unmarked u) (hv : Unmarked v) :
    Unmarked (UnpackedFloat.div Format.binary64 u v) := by
  rcases hu.cases with rfl | rfl | rfl | ⟨m, e, hm, rfl⟩ <;>
    rcases hv.cases with rfl | rfl | rfl | ⟨n, f, hn, rfl⟩ <;>
    first | trivial | exact unmarked_roundWithAccuracy ..

theorem unmarked_ofScientific (m : Nat) (e : Int) :
    Unmarked (UnpackedFloat.ofScientific Format.binary64 m e) := by
  have hpositive (m : Nat) (e : Int) (h : 0 < m) : Unmarked (.finite .positive m e h) := rfl
  refine unmarked_dite (fun _ => rfl) fun _ => unmarked_ite rfl (unmarked_ite rfl ?_)
  refine unmarked_ite ?_ ?_
  · exact unmarked_mul (hpositive ..) (hpositive ..)
  · exact unmarked_div (hpositive ..) (hpositive ..)

theorem unsigned_ofModel {u : UnpackedFloat} (h : Unmarked u) : Unsigned (.ofModel (.pack u)) :=
  msb_pack h

theorem Unsigned.unmarked {x : Float} (h : Unsigned x) : Unmarked x.toModel.unpack :=
  unmarked_unpack h

/-- A product of doubles without a sign has none. -/
theorem Unsigned.mul {x y : Float} (hx : Unsigned x) (hy : Unsigned y) : Unsigned (x * y) :=
  unsigned_ofModel (unmarked_mul hx.unmarked hy.unmarked)

/-- A quotient of doubles without a sign has none. -/
theorem Unsigned.div {x y : Float} (hx : Unsigned x) (hy : Unsigned y) : Unsigned (x / y) :=
  unsigned_ofModel (unmarked_div hx.unmarked hy.unmarked)

theorem unsigned_toFloat (n : UInt64) : Unsigned n.toFloat := by
  refine unsigned_ofModel ?_
  simp only [UnpackedFloat.ofUInt64, UnpackedFloat.ofNat, UnpackedFloat.ofInt,
    UnpackedFloat.normalize]
  split
  · rename_i hlt
    have := Int.compare_eq_lt.mp hlt
    omega
  · rfl
  · exact unmarked_roundWithAccuracy ..

theorem unsigned_powersOfTen :
    ∀ x ∈ Float.exactlyRepresentablePowersOfTen.toList, Unsigned x := by
  decide +kernel

/-- The double of a decimal number has no sign, whether it is found by one exact step or not. -/
theorem unsigned_ofScientific (m : Nat) (s : Bool) (e : Nat) :
    Unsigned (Float.ofScientific m s e) := by
  unfold Float.ofScientific
  split
  · rename_i hsmall
    have hsize : e < Float.exactlyRepresentablePowersOfTen.size := by
      simp only [Float.exactlyRepresentablePowersOfTen, List.size_toArray, List.length_cons,
        List.length_nil]
      omega
    have hpower : Unsigned Float.exactlyRepresentablePowersOfTen[e] :=
      unsigned_powersOfTen _ (by simp)
    dsimp only
    split
    · exact (unsigned_toFloat _).div hpower
    · exact (unsigned_toFloat _).mul hpower
  · exact unsigned_ofModel (unmarked_ofScientific ..)

/-- **The double nearest to a numeral has no sign.** -/
theorem Written.unsigned_nearest (w : Written) : Unsigned w.nearest := by
  unfold nearest infinity
  dsimp only
  split
  · exact unsigned_ofScientific ..
  · split
    · exact (unsigned_ofScientific ..).div (unsigned_ofScientific ..)
    · split <;> exact unsigned_ofScientific ..

theorem unsigned_of_readUnsigned? {cs : List Char} {x : Float} (h : readUnsigned? cs = some x) :
    Unsigned x := by
  unfold readUnsigned? at h
  dsimp only at h
  split at h
  · obtain rfl := Option.some.inj h
    exact (unsigned_ofScientific ..).div (unsigned_ofScientific ..)
  · split at h
    · obtain rfl := Option.some.inj h
      exact (unsigned_ofScientific ..).div (unsigned_ofScientific ..)
    · obtain ⟨w, -, rfl⟩ := Option.map_eq_some_iff.mp h
      exact w.unsigned_nearest

/-- **What a text without a minus sign in front reads as has none.** -/
theorem unsigned_of_read? {cs : List Char} {x : Float} (hcs : cs.head? ≠ some '-')
    (h : read? cs = some x) : Unsigned x := by
  unfold read? at h
  split at h
  · exact absurd rfl hcs
  · exact unsigned_of_readUnsigned? h
  · exact unsigned_of_readUnsigned? h

/-- The parts of a double without a sign. -/
theorem Unsigned.parts_cases {x : Float} (h : Unsigned x) :
    (∃ m, Parts.of x = .finite false m) ∨ Parts.of x = .infinite false ∨
      Parts.of x = .notANumber := by
  have hlt := BitVec.msb_eq_false_iff_two_mul_lt.mp h
  have hbits : x.toBits.toBitVec.toNat = x.toBits.toNat := rfl
  have hbit : (x.toBits.toNat >>> 63 % 2 == 1) = false := by
    rw [Nat.shiftRight_eq_div_pow, beq_eq_false_iff_ne]
    omega
  unfold Parts.of Parts.ofBits
  rw [hbit]
  dsimp only
  split
  · split
    · exact .inr (.inl rfl)
    · exact .inr (.inr rfl)
  · split
    · exact .inl ⟨_, rfl⟩
    · exact .inl ⟨_, rfl⟩

/-! ## 2. Digits and a point -/

/-- **A text of digits, with at most one point between them.** -/
def IsNumeral (cs : List Char) : Prop :=
  ∃ whole fraction, cs = whole ++ fraction ∧ whole ≠ [] ∧ (∀ c ∈ whole, c.isDigit = true) ∧
    (fraction = [] ∨ ∃ ds, fraction = '.' :: ds ∧ ∀ c ∈ ds, c.isDigit = true)

/-- Whether a double is a number. -/
def isFinite (x : Float) : Bool :=
  match Parts.of x with
  | .finite _ _ => true
  | _ => false

theorem isDigit_of_mem_zeros {n : Nat} {c : Char} (h : c ∈ zeros n) : c.isDigit = true := by
  rw [List.eq_of_mem_replicate h]
  rfl

/-- Digits with the point somewhere among them are a numeral. -/
theorem isNumeral_positional {ds : List Char} (hne : ds ≠ []) (hds : ∀ c ∈ ds, c.isDigit = true)
    (exponent : Int) : IsNumeral (positional 0 ds exponent) := by
  unfold positional
  split
  · rename_i e
    refine ⟨ds ++ zeros e, [], by simp, by simp [hne], ?_, .inl rfl⟩
    intro c hc
    rcases List.mem_append.mp hc with hc | hc
    · exact hds c hc
    · exact isDigit_of_mem_zeros hc
  · rename_i e
    split
    · rename_i hlt
      refine ⟨ds.take (ds.length - (e + 1)), '.' :: ds.drop (ds.length - (e + 1)), rfl, ?_, ?_,
        .inr ⟨_, rfl, ?_⟩⟩
      · intro hnil
        have := congrArg List.length hnil
        simp at this
        omega
      · intro c hc
        exact hds c (List.mem_of_mem_take hc)
      · intro c hc
        exact hds c (List.mem_of_mem_drop hc)
    · refine ⟨['0'], '.' :: (zeros (e + 1 - ds.length) ++ ds), rfl, by simp, by simp,
        .inr ⟨_, rfl, ?_⟩⟩
      intro c hc
      rcases List.mem_append.mp hc with hc | hc
      · exact isDigit_of_mem_zeros hc
      · exact hds c hc

/-- **A number without a sign is written as a numeral,** and what is no number as a word. -/
theorem plain_chars_cases {x : Float} (h : Unsigned x) :
    isFinite x = true ∧ IsNumeral (Layout.plain.chars x) ∨
      isFinite x = false ∧
        (Layout.plain.chars x = "inf".toList ∨ Layout.plain.chars x = "NaN".toList) := by
  rcases h.parts_cases with ⟨m, hparts⟩ | hparts | hparts
  · refine .inl ⟨by simp [isFinite, hparts], ?_⟩
    simp only [Layout.chars, hparts]
    split
    · exact isNumeral_positional (by simp) (by simp) 0
    · rw [if_neg Bool.false_ne_true]
      refine isNumeral_positional Nat.toDigits_ne_nil (fun c hc => ?_) _
      exact Nat.isDigit_of_mem_toDigits (by decide) (by decide) hc
  · refine .inr ⟨by simp [isFinite, hparts], .inl ?_⟩
    simp only [Layout.chars, hparts]
    rfl
  · refine .inr ⟨by simp [isFinite, hparts], .inr ?_⟩
    simp only [Layout.chars, hparts]

theorem isNumeral_plain {x : Float} (h : Unsigned x) (hfinite : isFinite x = true) :
    IsNumeral (Layout.plain.chars x) := by
  rcases plain_chars_cases h with ⟨-, hnumeral⟩ | ⟨hnot, -⟩
  · exact hnumeral
  · rw [hfinite] at hnot
    cases hnot

end Spreadsheet.Decimal
