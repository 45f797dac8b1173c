/-
# Whole numbers as doubles

* A finite double denotes a fraction, and doubles are ordered as the fractions that they denote
  (`Denotes.lt_iff`, `Denotes.le_iff`).
* The double made of a whole number below `2 ^ 53` denotes it (`denotes_ofNat`), and the double
  without its fraction denotes the whole part of what it is made from, however large that is
  (`denotes_truncate`): a mantissa with all its places is shifted, and no place of it is lost.
* Cut to a word, a double that denotes a whole number within the word gives this number
  (`Denotes.toUInt32`).

So a bound that is checked on doubles without a fraction is checked on whole numbers.  The
exception is the value that is no number: it lies on neither side of any bound
(`not_lt_of_notANumber`), and cut to a word it is zero (`words_of_notANumber`).
-/
import Mathlib
import Spreadsheet.Proofs.Numerals

namespace Spreadsheet.Decimal

open Float.Model (UnpackedFloat Format totalExponent)
open Float.Model.UnpackedFloat (Sign ExtendedMantissa roundWithAccuracy shiftToExponent
  shiftToTargetExponent pack packComponents unpack unpackExponent unpackMantissa unpackSign)

/-! ## 1. Mantissas with all their places -/

/-- **A mantissa with all its places,** of which the highest is the fifty-third. -/
def IsFull (m : Nat) : Prop := 2 ^ 52 ≤ m ∧ m < 2 ^ 53

theorem IsFull.pos {m : Nat} (h : IsFull m) : 0 < m := by
  have := h.1
  omega

theorem IsFull.log2_shiftLeft {m : Nat} (h : IsFull m) (k : Nat) : (m <<< k).log2 = 52 + k := by
  have hpos : 0 < m * 2 ^ k := Nat.mul_pos h.pos (Nat.two_pow_pos k)
  rw [Nat.shiftLeft_eq, Nat.log2_eq_iff (by omega)]
  constructor
  · rw [Nat.pow_add]
    exact Nat.mul_le_mul_right _ h.1
  · have hlt : m * 2 ^ k < 2 ^ 53 * 2 ^ k := Nat.mul_lt_mul_of_pos_right h.2 (Nat.two_pow_pos k)
    rw [← Nat.pow_add] at hlt
    rwa [show 52 + k + 1 = 53 + k by omega]

theorem IsFull.log2 {m : Nat} (h : IsFull m) : m.log2 = 52 := h.log2_shiftLeft 0

/-- A whole number with fewer places gets all of them by a shift. -/
theorem isFull_shiftLeft {n : Nat} (hpos : 0 < n) (hlt : n < 2 ^ 53) :
    IsFull (n <<< (52 - n.log2)) := by
  have hlog : n.log2 < 53 := (Nat.log2_lt (by omega)).mpr hlt
  obtain ⟨hlow, hhigh⟩ := (Nat.log2_eq_iff (by omega)).mp (rfl : n.log2 = n.log2)
  rw [Nat.shiftLeft_eq]
  constructor
  · calc 2 ^ 52 = 2 ^ n.log2 * 2 ^ (52 - n.log2) := by rw [← Nat.pow_add]; congr 1; omega
      _ ≤ n * 2 ^ (52 - n.log2) := Nat.mul_le_mul_right _ hlow
  · calc n * 2 ^ (52 - n.log2) < 2 ^ (n.log2 + 1) * 2 ^ (52 - n.log2) :=
          Nat.mul_lt_mul_of_pos_right hhigh (Nat.two_pow_pos _)
      _ = 2 ^ 53 := by rw [← Nat.pow_add]; congr 1; omega

/-! ## 2. Rounding what needs none -/

theorem targetExponent_eq (e : Int) : Format.binary64.targetExponent e = max (e - 53) (-1074) := rfl

/-- Zeros that are shifted out leave no trace. -/
theorem shiftRight_shiftLeft (m k : Nat) :
    (⟨m <<< k, false, false⟩ : ExtendedMantissa) >>> k = ⟨m, false, false⟩ := by
  induction k generalizing m with
  | zero => rfl
  | succ k ih =>
    change ExtendedMantissa.shiftRightOne
      ((⟨m <<< (k + 1), false, false⟩ : ExtendedMantissa) >>> k) = _
    have heven : m <<< (k + 1) = (2 * m) <<< k := by
      rw [Nat.shiftLeft_eq, Nat.shiftLeft_eq, Nat.pow_succ]
      ring
    rw [heven, ih]
    simp [ExtendedMantissa.shiftRightOne]

theorem IsFull.shiftToTargetExponent {m : Nat} (h : IsFull m) {e : Int} (he : -1074 ≤ e) (k : Nat) :
    shiftToTargetExponent Format.binary64 (m <<< k) (e - k) .exact = (⟨m, false, false⟩, e) := by
  have htarget : Format.binary64.targetExponent (totalExponent (m <<< k) (e - k)) = e := by
    rw [targetExponent_eq, totalExponent, h.log2_shiftLeft]
    omega
  have hamount : (e - (e - k)).toNat = k := by omega
  unfold UnpackedFloat.shiftToTargetExponent UnpackedFloat.shiftToExponent
  simp only [htarget, hamount, ExtendedMantissa.ofMantissaAndAccuracy, shiftRight_shiftLeft]
  congr 1
  omega

/-- **Rounding keeps a full mantissa,** whatever zeros follow it. -/
theorem IsFull.roundWithAccuracy {m : Nat} (h : IsFull m) {e : Int} (he : -1074 ≤ e) (s : Sign)
    (k : Nat) :
    roundWithAccuracy Format.binary64 s (m <<< k) (e - k) .exact = .finite s m e h.pos := by
  unfold UnpackedFloat.roundWithAccuracy
  rw [h.shiftToTargetExponent he k]
  have hagain := h.shiftToTargetExponent he 0
  rw [Nat.shiftLeft_zero, Nat.cast_zero, sub_zero] at hagain
  simp only [ExtendedMantissa.roundedMantissa, ExtendedMantissa.accuracy,
    UnpackedFloat.Accuracy.roundToNearestEven, hagain]
  rw [dif_neg h.pos.ne']

/-- A product that is a full mantissa with zeros behind it is exact. -/
theorem IsFull.mul {m a b k : Nat} {e f g : Int} (h : IsFull m) (he : -1074 ≤ e) {ha : 0 < a}
    {hb : 0 < b} (hmantissa : a * b = m <<< k) (hexponent : f + g = e - k) :
    UnpackedFloat.mul Format.binary64 (.finite .positive a f ha) (.finite .positive b g hb) =
      .finite .positive m e h.pos := by
  change UnpackedFloat.roundWithAccuracy Format.binary64 .positive (a * b) (f + g) .exact = _
  rw [hmantissa, hexponent, h.roundWithAccuracy he]

/-! ## 3. Doubles in and out of their bits -/

theorem toNat_withHighest (m : BitVec 52) : (1#1 ++ m).toNat = 2 ^ 52 + m.toNat := by
  rw [BitVec.toNat_append, ← Nat.shiftLeft_add_eq_or_of_lt m.isLt]
  rfl

/-- A full mantissa is packed without its highest place, and its exponent as a number above zero. -/
theorem IsFull.pack_eq {m : Nat} (h : IsFull m) {e : Int} {biased : Nat}
    (hbiased : (biased : Int) = e + 1075) (hlow : 0 < biased) (hhigh : biased < 2047) (s : Sign) :
    pack Format.binary64 (.finite s m e h.pos) =
      packComponents Format.binary64 s (BitVec.ofNat 11 biased) (BitVec.ofNat 52 m) := by
  have hexponent : (e + Format.binary64.exponentBias + (52 : Nat)).toNat = biased := by
    change (e + (1023 : Nat) + (52 : Nat)).toNat = biased
    omega
  unfold UnpackedFloat.pack
  simp only [hexponent, h.log2]
  rw [if_neg (by omega), if_pos (show 52 + 1 = Format.binary64.mantissaBits from rfl)]

/-- The highest place comes back if the exponent is neither the least nor the greatest. -/
theorem IsFull.unpack_components {m : Nat} (h : IsFull m) {biased : Nat} (hlow : 0 < biased)
    (hhigh : biased < 2047) (s : Sign) :
    unpack Format.binary64
        (packComponents Format.binary64 s (BitVec.ofNat 11 biased) (BitVec.ofNat 52 m)) =
      .finite s m (biased - 1075) h.pos := by
  obtain ⟨hleast, hgreatest⟩ := h
  have hexponent : (BitVec.ofNat 11 biased).toNat = biased := by
    rw [BitVec.toNat_ofNat]
    omega
  have hne {v : BitVec 11} (hv : v.toNat ≠ biased) : BitVec.ofNat 11 biased ≠ v := by
    rintro rfl
    exact hv hexponent
  have hmantissa : (1#1 ++ BitVec.ofNat 52 m).toNat = m := by
    rw [toNat_withHighest, BitVec.toNat_ofNat]
    omega
  unfold UnpackedFloat.unpack
  simp only [UnpackedFloat.unpackExponent_packComponents,
    UnpackedFloat.unpackMantissa_packComponents, UnpackedFloat.unpackSign_packComponents,
    Sign.ofBitVec_toBitVec]
  rw [if_neg (hne (v := -1#11) (Nat.ne_of_gt hhigh)), if_neg (hne (v := 0#11) (Nat.ne_of_lt hlow))]
  simp only [hmantissa, hexponent]
  congr 1

/-- **A double with a full mantissa is packed without loss,** unless its exponent is too large. -/
theorem IsFull.unpack_pack {m : Nat} (h : IsFull m) {e : Int} (hlow : -1074 ≤ e) (hhigh : e ≤ 971)
    (s : Sign) :
    unpack Format.binary64 (pack Format.binary64 (.finite s m e h.pos)) = .finite s m e h.pos := by
  obtain ⟨biased, hbiased⟩ : ∃ biased : Nat, (biased : Int) = e + 1075 :=
    ⟨(e + 1075).toNat, by omega⟩
  rw [h.pack_eq hbiased (by omega) (by omega), h.unpack_components (by omega) (by omega), hbiased,
    Int.add_sub_cancel]

/-- What becomes of the bits of a double, taken apart: no place beyond the fifty-third, and all of
them unless the exponent is the least. -/
def Canonical : UnpackedFloat → Prop
  | .finite _ m e _ => m < 2 ^ 53 ∧ -1074 ≤ e ∧ e ≤ 971 ∧ (e = -1074 ∨ 2 ^ 52 ≤ m)
  | _ => True

theorem canonical_unpack (b : BitVec Format.binary64.numBits) :
    Canonical (unpack Format.binary64 b) := by
  have hbias : (Format.binary64.exponentBias : Int) = 1023 := rfl
  have hexponent := (unpackExponent b).isLt
  have hmantissa := (unpackMantissa b).isLt
  change _ < 2 ^ 11 at hexponent
  change _ < 2 ^ 52 at hmantissa
  unfold UnpackedFloat.unpack
  dsimp only
  split
  · split <;> trivial
  · rename_i hinfinite
    have hbelow : (unpackExponent b).toNat ≠ 2047 :=
      fun h => hinfinite (BitVec.eq_of_toNat_eq h)
    split
    · rename_i hzero
      have hzero : (unpackExponent b).toNat = 0 := congrArg BitVec.toNat hzero
      split
      · trivial
      · rw [hzero, hbias]
        exact ⟨by omega, by omega, by omega, .inl (by omega)⟩
    · rename_i hnonzero
      have hnonzero : (unpackExponent b).toNat ≠ 0 := fun h => hnonzero (BitVec.eq_of_toNat_eq h)
      rw [hbias]
      refine ⟨?_, by omega, by omega, .inr ?_⟩ <;> rw [toNat_withHighest] <;> omega

/-! ## 4. What doubles denote -/

/-- The fraction that a double, taken apart, denotes. -/
def fraction? : UnpackedFloat → Option ℚ
  | .notANumber | .infinity _ => none
  | .zero _ => some 0
  | .finite s m e _ => some ((s.apply m : Int) * 2 ^ e)

/-- **A double denotes a fraction.** -/
def Denotes (x : Float) (p : ℚ) : Prop := fraction? x.toModel.unpack = some p

theorem magnitude_lt {m n : Nat} {e f : Int} (hm : m < 2 ^ 53) (hn : 2 ^ 52 ≤ n) (h : e < f) :
    (m : ℚ) * 2 ^ e < n * 2 ^ f := by
  have hm : (m : ℚ) < 2 ^ 53 := by exact_mod_cast hm
  have hn : (2 : ℚ) ^ 52 ≤ n := by exact_mod_cast hn
  have hpos : (0 : ℚ) < 2 ^ e := zpow_pos two_pos e
  calc (m : ℚ) * 2 ^ e < 2 ^ 53 * 2 ^ e := mul_lt_mul_of_pos_right hm hpos
    _ = 2 ^ 52 * 2 ^ (e + 1) := by rw [zpow_add₀ two_ne_zero]; ring
    _ ≤ 2 ^ 52 * 2 ^ f :=
      mul_le_mul_of_nonneg_left (zpow_le_zpow_right₀ one_le_two (by omega)) (by positivity)
    _ ≤ n * 2 ^ f := mul_le_mul_of_nonneg_right hn (zpow_pos two_pos f).le

/-- Magnitudes without a place too many are ordered by their exponents, then by their mantissas. -/
theorem compare_magnitudes {s t : Sign} {m n : Nat} {e f : Int} {hm : 0 < m} {hn : 0 < n}
    (hu : Canonical (.finite s m e hm)) (hv : Canonical (.finite t n f hn)) :
    (compare e f).then (compare m n) = cmp ((m : ℚ) * 2 ^ e) (n * 2 ^ f) := by
  obtain ⟨hmhigh, helow, -, hmlow⟩ := hu
  obtain ⟨hnhigh, hflow, -, hnlow⟩ := hv
  rcases lt_trichotomy e f with h | rfl | h
  · rw [Int.compare_eq_lt.mpr h, (cmp_eq_lt_iff ..).mpr]
    · rfl
    · exact magnitude_lt hmhigh (hnlow.resolve_left (by omega)) h
  · rw [Int.compare_eq_eq.mpr rfl, cmp_mul_pos_right (zpow_pos two_pos e)]
    change compare m n = _
    rcases lt_trichotomy m n with h | rfl | h
    · rw [Nat.compare_eq_lt.mpr h, (cmp_eq_lt_iff ..).mpr (by exact_mod_cast h)]
    · rw [Nat.compare_eq_eq.mpr rfl, cmp_self_eq_eq]
    · rw [Nat.compare_eq_gt.mpr h, (cmp_eq_gt_iff ..).mpr (by exact_mod_cast h)]
  · rw [Int.compare_eq_gt.mpr h, (cmp_eq_gt_iff ..).mpr]
    · rfl
    · exact magnitude_lt hnhigh (hmlow.resolve_left (by omega)) h

theorem cmp_neg (a b : ℚ) : cmp (-a) (-b) = (cmp a b).swap := by
  rw [cmp_swap]
  simp only [cmp, cmpUsing, neg_lt_neg_iff]

/-- **Doubles are ordered as the fractions that they denote.** -/
theorem compare_fractions {u v : UnpackedFloat} (hu : Canonical u) (hv : Canonical v) {p q : ℚ}
    (hp : fraction? u = some p) (hq : fraction? v = some q) : u.compare v = some (cmp p q) := by
  have hpositive {m : Nat} {e : Int} (hm : 0 < m) : (0 : ℚ) < m * 2 ^ e :=
    mul_pos (by exact_mod_cast hm) (zpow_pos two_pos e)
  have hnegative {m : Nat} {e : Int} (hm : 0 < m) : -((m : ℚ) * 2 ^ e) < 0 :=
    neg_neg_of_pos (hpositive hm)
  cases u with
  | notANumber => cases hp
  | infinity s => cases hp
  | zero s =>
    obtain rfl := Option.some.inj hp
    cases v with
    | notANumber => cases hq
    | infinity t => cases hq
    | zero t =>
      obtain rfl := Option.some.inj hq
      rw [cmp_self_eq_eq]
      rfl
    | finite t n f hn =>
      obtain rfl := Option.some.inj hq
      cases t <;> simp only [Sign.apply, Int.cast_neg, Int.cast_natCast, neg_mul]
      · rw [(cmp_eq_gt_iff ..).mpr (hnegative hn)]
        rfl
      · rw [(cmp_eq_lt_iff ..).mpr (hpositive hn)]
        rfl
  | finite s m e hm =>
    obtain rfl := Option.some.inj hp
    cases v with
    | notANumber => cases hq
    | infinity t => cases hq
    | zero t =>
      obtain rfl := Option.some.inj hq
      cases s <;> simp only [Sign.apply, Int.cast_neg, Int.cast_natCast, neg_mul]
      · rw [(cmp_eq_lt_iff ..).mpr (hnegative hm)]
        rfl
      · rw [(cmp_eq_gt_iff ..).mpr (hpositive hm)]
        rfl
    | finite t n f hn =>
      obtain rfl := Option.some.inj hq
      have hboth := compare_magnitudes hu hv
      cases s <;> cases t <;> simp only [Sign.apply, Int.cast_neg, Int.cast_natCast, neg_mul]
      · rw [cmp_neg, ← hboth]
        rfl
      · rw [(cmp_eq_lt_iff ..).mpr ((hnegative hm).trans (hpositive hn))]
        rfl
      · rw [(cmp_eq_gt_iff ..).mpr ((hnegative hn).trans (hpositive hm))]
        rfl
      · rw [← hboth]
        rfl

section Order

variable {x y : Float} {p q : ℚ}

theorem lt_iff_compare : x < y ↔ x.toModel.unpack.compare y.toModel.unpack = some .lt := by
  change decide (UnpackedFloat.lt x.toModel.unpack y.toModel.unpack = true) = true ↔ _
  rw [decide_eq_true_iff, UnpackedFloat.lt, beq_iff_eq]

theorem le_iff_compare :
    x ≤ y ↔ (x.toModel.unpack.compare y.toModel.unpack).any (·.isLE) = true := by
  change decide (UnpackedFloat.le x.toModel.unpack y.toModel.unpack = true) = true ↔ _
  rw [decide_eq_true_iff, UnpackedFloat.le]

theorem Denotes.compare (hx : Denotes x p) (hy : Denotes y q) :
    x.toModel.unpack.compare y.toModel.unpack = some (cmp p q) :=
  compare_fractions (canonical_unpack _) (canonical_unpack _) hx hy

theorem Denotes.lt_iff (hx : Denotes x p) (hy : Denotes y q) : x < y ↔ p < q := by
  rw [lt_iff_compare, hx.compare hy, Option.some.injEq, cmp_eq_lt_iff]

theorem Denotes.le_iff (hx : Denotes x p) (hy : Denotes y q) : x ≤ y ↔ p ≤ q := by
  rw [le_iff_compare, hx.compare hy, Option.any_some, ← not_lt, ← cmp_eq_gt_iff]
  cases cmp p q <;> simp [Ordering.isLE]

end Order

/-! ## 5. Doubles of whole numbers -/

theorem mul_two_zpow_eq_iff {m n : Nat} {e : Int} :
    (m : ℚ) * 2 ^ e = n ↔ n <<< (-e).toNat = m <<< e.toNat := by
  rw [Nat.shiftLeft_eq, Nat.shiftLeft_eq]
  cases e with
  | ofNat e =>
    rw [show (-(Int.ofNat e)).toNat = 0 by simp, show (Int.ofNat e).toNat = e from rfl, pow_zero,
      mul_one, Int.ofNat_eq_natCast, zpow_natCast, eq_comm]
    norm_cast
  | negSucc e =>
    rw [show (-(Int.negSucc e)).toNat = e + 1 by rfl, show (Int.negSucc e).toNat = 0 from rfl,
      pow_zero, mul_one, zpow_negSucc, mul_inv_eq_iff_eq_mul₀ (pow_ne_zero _ two_ne_zero), eq_comm]
    norm_cast

theorem unpack_toFloat {n : Nat} (hpos : 0 < n) (hlt : n < 2 ^ 53) :
    n.toUInt64.toFloat.toModel.unpack =
      .finite .positive (n <<< (52 - n.log2)) (n.log2 - 52) (isFull_shiftLeft hpos hlt).pos := by
  have hfull := isFull_shiftLeft hpos hlt
  have hlog : n.log2 < 53 := (Nat.log2_lt (by omega)).mpr hlt
  have hword : n.toUInt64.toNat = n := Nat.mod_eq_of_lt (by omega)
  have htarget : Format.binary64.targetExponent (totalExponent n 0) = (n.log2 : Int) - 52 := by
    rw [targetExponent_eq, totalExponent]
    omega
  have hamount : (0 - ((n.log2 : Int) - 52)).toNat = 52 - n.log2 := by omega
  have hround := hfull.roundWithAccuracy (e := (n.log2 : Int) - 52) (by omega) .positive 0
  rw [Nat.shiftLeft_zero, Nat.cast_zero, sub_zero] at hround
  have hof : UnpackedFloat.ofUInt64 Format.binary64 n.toUInt64 =
      .finite .positive (n <<< (52 - n.log2)) (n.log2 - 52) hfull.pos := by
    rw [UnpackedFloat.ofUInt64, hword, UnpackedFloat.ofNat, UnpackedFloat.ofInt,
      UnpackedFloat.normalize, Int.compare_eq_gt.mpr (by omega)]
    simp only [UnpackedFloat.round, UnpackedFloat.decreaseExponent, Int.toNat_natCast, htarget,
      hamount]
    rw [← hround]
    congr 1
    omega
  change unpack Format.binary64
    (pack Format.binary64 (UnpackedFloat.ofUInt64 Format.binary64 n.toUInt64)) = _
  rw [hof, hfull.unpack_pack (by omega) (by omega)]

/-- The double of a whole number with few places has them all in its mantissa. -/
theorem unpack_ofNat {n : Nat} (hpos : 0 < n) (hlt : n < 2 ^ 53) :
    (Float.ofNat n).toModel.unpack =
      .finite .positive (n <<< (52 - n.log2)) (n.log2 - 52) (isFull_shiftLeft hpos hlt).pos := by
  have hfull := isFull_shiftLeft hpos hlt
  have hlog : n.log2 < 53 := (Nat.log2_lt (by omega)).mpr hlt
  have hone : (Float.exactlyRepresentablePowersOfTen[0]).toModel.unpack =
      .finite .positive (2 ^ 52) (-52) (by decide) := by rfl
  have hof : Float.ofNat n = n.toUInt64.toFloat * Float.exactlyRepresentablePowersOfTen[0] := by
    change Float.ofScientific n false 0 = _
    unfold Float.ofScientific
    rw [dif_pos ⟨hlt, by decide⟩]
    rfl
  rw [hof]
  change unpack Format.binary64 (pack Format.binary64
    (UnpackedFloat.mul Format.binary64 n.toUInt64.toFloat.toModel.unpack _)) = _
  rw [unpack_toFloat hpos hlt, hone,
    hfull.mul (k := 52) (g := -52) (by omega) (Nat.shiftLeft_eq ..).symm rfl,
    hfull.unpack_pack (by omega) (by omega)]

/-- The double of a whole number with many places has the first of them in its mantissa if the
others are zeros. -/
theorem IsFull.unpack_ofNat {m : Nat} (h : IsFull m) {e : Nat} (hlow : 1 ≤ e) (hhigh : e ≤ 971) :
    (Float.ofNat (m <<< e)).toModel.unpack = .finite .positive m e h.pos := by
  have hlarge : 2 ^ 53 ≤ m <<< e := by
    rw [Nat.shiftLeft_eq]
    calc 2 ^ 53 = 2 ^ 52 * 2 ^ 1 := rfl
      _ ≤ m * 2 ^ e := Nat.mul_le_mul h.1 (Nat.pow_le_pow_right (by decide) hlow)
  have hof : UnpackedFloat.ofScientific Format.binary64 (m <<< e) 0 =
      .finite .positive m e h.pos := by
    have hnegative : ¬ (0 : Int) < -(2 ^ 11 + (m <<< e).log2) := by omega
    unfold UnpackedFloat.ofScientific
    rw [dif_neg (by omega), if_neg (by decide), if_neg hnegative, if_pos le_rfl]
    refine h.mul (k := e + 53) (by omega) ?_ ?_
    · rw [Nat.shiftLeft_add]
      exact Nat.mul_one _
    · change -(53 : Int) + 0 = e - (e + 53 : Nat)
      omega
  have hslow : Float.ofNat (m <<< e) = .ofModel (.ofScientific (m <<< e) 0) := by
    change Float.ofScientific (m <<< e) false 0 = _
    unfold Float.ofScientific
    rw [dif_neg (by omega)]
    rfl
  rw [hslow]
  change unpack Format.binary64 (pack Format.binary64
    (UnpackedFloat.ofScientific Format.binary64 (m <<< e) 0)) = _
  rw [hof, h.unpack_pack (by omega) (by omega)]

/-- **A whole number that some double denotes:** it has few places, or zeros behind the first of
them. -/
def Representable (n : Nat) : Prop :=
  n < 2 ^ 53 ∨ ∃ m e, IsFull m ∧ 1 ≤ e ∧ e ≤ 971 ∧ n = m <<< e

/-- The double of such a number has a full mantissa, and no place of it is lost. -/
theorem Representable.unpack_ofNat {n : Nat} (h : Representable n) (hpos : 0 < n) :
    ∃ m e, ∃ hm : IsFull m, -1074 ≤ e ∧ e ≤ 971 ∧ (m : ℚ) * 2 ^ e = n ∧
      (Float.ofNat n).toModel.unpack = .finite .positive m e hm.pos := by
  rcases h with hlt | ⟨m, e, hm, hlow, hhigh, rfl⟩
  · have hlog : n.log2 < 53 := (Nat.log2_lt (by omega)).mpr hlt
    refine ⟨_, n.log2 - 52, isFull_shiftLeft hpos hlt, by omega, by omega, ?_,
      Decimal.unpack_ofNat hpos hlt⟩
    refine mul_two_zpow_eq_iff.mpr ?_
    rw [show (-((n.log2 : Int) - 52)).toNat = 52 - n.log2 by omega,
      show ((n.log2 : Int) - 52).toNat = 0 by omega, Nat.shiftLeft_zero]
  · refine ⟨m, e, hm, by omega, by omega, ?_, hm.unpack_ofNat hlow hhigh⟩
    refine mul_two_zpow_eq_iff.mpr ?_
    rw [show (-(e : Int)).toNat = 0 by omega, Nat.shiftLeft_zero, Int.toNat_natCast]

/-- **The double of a whole number denotes it.** -/
theorem denotes_ofInt {n : Int} (h : Representable n.natAbs) : Denotes (Float.ofInt n) n := by
  rcases Int.lt_trichotomy n 0 with hneg | rfl | hpos
  · obtain ⟨k, rfl⟩ : ∃ k : Nat, n = Int.negSucc k := ⟨(-n - 1).toNat, by omega⟩
    obtain ⟨m, e, hm, hlow, hhigh, hvalue, hunpack⟩ :=
      Representable.unpack_ofNat (n := k + 1) h (by omega)
    change fraction? (unpack Format.binary64 (pack Format.binary64
      (Float.ofNat (k + 1)).toModel.unpack.neg)) = _
    rw [hunpack, UnpackedFloat.neg, hm.unpack_pack hlow hhigh, fraction?, Int.cast_negSucc,
      ← hvalue]
    change some (((-(m : Int) : Int) : ℚ) * 2 ^ e) = _
    rw [Int.cast_neg, Int.cast_natCast, neg_mul]
  · rfl
  · obtain ⟨k, rfl⟩ : ∃ k : Nat, n = k := ⟨n.toNat, by omega⟩
    obtain ⟨m, e, hm, -, -, hvalue, hunpack⟩ :=
      Representable.unpack_ofNat (n := k) h (by omega)
    change fraction? (Float.ofNat k).toModel.unpack = _
    rw [hunpack, Int.cast_natCast, ← hvalue]
    rfl

theorem denotes_ofNat {n : Nat} (hlt : n < 2 ^ 53) : Denotes (Float.ofNat n) n :=
  denotes_ofInt (n := n) (.inl hlt)

/-! ## 6. Whole parts -/

/-- The parts of a double, taken apart. -/
def partsOf : UnpackedFloat → Parts
  | .notANumber => .notANumber
  | .infinity s => .infinite (s == .negative)
  | .zero s => .finite (s == .negative) ⟨0, -1074⟩
  | .finite s m e _ => .finite (s == .negative) ⟨m, e⟩

theorem parts_of (x : Float) : Parts.of x = partsOf x.toModel.unpack := by
  change Parts.ofBits x.toModel.toBits.toBitVec.toNat =
    partsOf (unpack Format.binary64 x.toModel.toBits.toBitVec)
  generalize x.toModel.toBits.toBitVec = b
  have hfraction : (@unpackMantissa Format.binary64 b).toNat = b.toNat % fullMantissa := by
    simp [unpackMantissa, fullMantissa]
  have hbiased : (@unpackExponent Format.binary64 b).toNat =
      b.toNat / fullMantissa % 2048 := by
    simp [unpackExponent, fullMantissa, Nat.shiftRight_eq_div_pow]
  have hsign : (Sign.ofBitVec (@unpackSign Format.binary64 b) == .negative) =
      (b.toNat >>> 63 % 2 == 1) := by
    have hbit : (@unpackSign Format.binary64 b).toNat = b.toNat >>> 63 % 2 := by
      simp [unpackSign]
    rw [← hbit]
    generalize @unpackSign Format.binary64 b = t
    revert t
    decide
  have hbias : (Format.binary64.exponentBias : Int) + (52 : Nat) = 1075 := rfl
  have hfractionZero : @unpackMantissa Format.binary64 b = 0#52 ↔
      b.toNat % fullMantissa = 0 := by
    rw [← hfraction]
    exact BitVec.toNat_eq
  have hinfinite : @unpackExponent Format.binary64 b = -1#11 ↔
      b.toNat / fullMantissa % 2048 = 2047 := by
    rw [← hbiased]
    exact BitVec.toNat_eq
  have hleast : @unpackExponent Format.binary64 b = 0#11 ↔
      b.toNat / fullMantissa % 2048 = 0 := by
    rw [← hbiased]
    exact BitVec.toNat_eq
  unfold Parts.ofBits UnpackedFloat.unpack
  dsimp only
  simp only [hinfinite, hleast, hfractionZero, ← hsign]
  split
  · split <;> rfl
  · split
    · rename_i hzero
      split
      · rename_i h
        rw [h]
        rfl
      · rw [partsOf, hfraction, hbiased, hzero]
        rfl
    · rw [partsOf, toNat_withHighest, hfraction, hbiased]
      rfl

/-- **The whole part of a double is a whole number that some double denotes.** -/
theorem representable_of_wholePart? {x : Float} {n : Int} (h : wholePart? x = some n) :
    Representable n.natAbs := by
  have hcanonical := canonical_unpack x.toModel.toBits.toBitVec
  change Canonical x.toModel.unpack at hcanonical
  rw [wholePart?, parts_of] at h
  have hsigned (negative : Bool) (k : Nat) : (signed negative k).natAbs = k := by
    cases negative <;> simp [signed]
  cases hx : x.toModel.unpack with
  | notANumber => rw [hx] at h; cases h
  | infinity s => rw [hx] at h; cases h
  | zero s =>
    rw [hx] at h
    obtain rfl := Option.some.inj h
    rw [hsigned]
    exact .inl (by decide)
  | finite s m e hm =>
    rw [hx] at h hcanonical
    obtain ⟨hplaces, -, hhigh, hfull⟩ := hcanonical
    obtain rfl := Option.some.inj h
    rw [hsigned]
    cases e with
    | negSucc e => exact .inl (Nat.lt_of_le_of_lt (Nat.shiftRight_le m (e + 1)) hplaces)
    | ofNat e =>
      rcases Nat.eq_zero_or_pos e with rfl | hlow
      · exact .inl hplaces
      · refine .inr ⟨m, e, ⟨hfull.resolve_left ?_, hplaces⟩, hlow, ?_, rfl⟩
        · change (e : Int) ≠ -1074
          omega
        · change (e : Int) ≤ 971 at hhigh
          omega

/-- **The double without its fraction denotes the whole part.** -/
theorem denotes_truncate {x : Float} {n : Int} (h : wholePart? x = some n) :
    Denotes (truncate x) n := by
  unfold truncate
  rw [h]
  exact denotes_ofInt (representable_of_wholePart? h)

theorem denotes_truncate_nat {x : Float} {n : Nat} (h : wholePart? x = some (n : Int)) :
    Denotes (truncate x) n := by
  have hdenotes := denotes_truncate h
  rwa [Int.cast_natCast] at hdenotes

/-! ## 7. Bounds -/

section Bounds

variable {x y : Float}

theorem unpack_of_notANumber (h : Parts.of x = .notANumber) : x.toModel.unpack = .notANumber := by
  rw [parts_of] at h
  cases hx : x.toModel.unpack <;> rw [hx] at h <;> first | rfl | cases h

theorem unpack_of_infinite {negative : Bool} (h : Parts.of x = .infinite negative) :
    x.toModel.unpack = .infinity (if negative then .negative else .positive) := by
  rw [parts_of] at h
  cases hx : x.toModel.unpack <;> rw [hx] at h
  case infinity s =>
    obtain rfl : (s == .negative) = negative := Parts.infinite.inj h
    cases s <;> rfl
  all_goals cases h

theorem truncate_of_wholePart?_eq_none (h : wholePart? x = none) : truncate x = x := by
  unfold truncate
  rw [h]

theorem wholePart?_of_parts {negative : Bool} {m : Magnitude}
    (h : Parts.of x = .finite negative m) : wholePart? x = some (signed negative m.floor) := by
  rw [wholePart?, h]

/-- **What is no number is on neither side of any bound.** -/
theorem not_lt_of_notANumber (h : Parts.of x = .notANumber) (y : Float) :
    ¬ x < y ∧ ¬ y < x ∧ ¬ y ≤ x := by
  have hcompare (u : UnpackedFloat) : u.compare .notANumber = none := by
    cases u <;> rfl
  rw [lt_iff_compare, lt_iff_compare, le_iff_compare, unpack_of_notANumber h, hcompare]
  exact ⟨nofun, nofun, nofun⟩

/-- Infinite doubles are beyond all fractions. -/
theorem Denotes.compare_infinite {p : ℚ} (hy : Denotes y p) {negative : Bool}
    (h : Parts.of x = .infinite negative) :
    x.toModel.unpack.compare y.toModel.unpack = some (if negative then .lt else .gt) ∧
      y.toModel.unpack.compare x.toModel.unpack = some (if negative then .gt else .lt) := by
  rw [unpack_of_infinite h]
  unfold Denotes at hy
  cases hunpack : y.toModel.unpack <;> rw [hunpack] at hy
  case notANumber => cases hy
  case infinity => cases hy
  all_goals cases negative <;> exact ⟨rfl, rfl⟩

variable {low high : Nat}

theorem exists_between_iff {k : Int} :
    (∃ n : Nat, some k = some (n : Int) ∧ low ≤ n ∧ n ≤ high) ↔ low ≤ k ∧ k ≤ high := by
  constructor
  · rintro ⟨n, hn, hlow, hhigh⟩
    obtain rfl := Option.some.inj hn
    exact ⟨by exact_mod_cast hlow, by exact_mod_cast hhigh⟩
  · rintro ⟨hlow, hhigh⟩
    exact ⟨k.toNat, congrArg some (by omega), by omega, by omega⟩

/-- **Bounds checked from outside** let whole parts between them pass, and what is no number. -/
theorem not_outside_iff (hlow : low < 2 ^ 53) (hhigh : high < 2 ^ 53) :
    ¬ (truncate x < Float.ofNat low ∨ Float.ofNat high < truncate x) ↔
      Parts.of x = .notANumber ∨ ∃ n : Nat, wholePart? x = some (n : Int) ∧ low ≤ n ∧ n ≤ high := by
  have hleast := denotes_ofNat hlow
  have hgreatest := denotes_ofNat hhigh
  cases hx : Parts.of x with
  | notANumber =>
    rw [truncate_of_wholePart?_eq_none (by rw [wholePart?, hx])]
    have hneither := not_lt_of_notANumber hx
    exact iff_of_true (not_or.mpr ⟨(hneither _).1, (hneither _).2.1⟩) (.inl rfl)
  | infinite negative =>
    have hnone : wholePart? x = none := by rw [wholePart?, hx]
    rw [truncate_of_wholePart?_eq_none hnone, lt_iff_compare, lt_iff_compare,
      (hleast.compare_infinite hx).1, (hgreatest.compare_infinite hx).2, hnone]
    cases negative <;> simp
  | finite negative m =>
    have hwhole := wholePart?_of_parts hx
    generalize signed negative m.floor = k at hwhole
    have hk := denotes_truncate hwhole
    have hbelow : ((k : ℚ) < (low : ℚ)) ↔ k < low := by norm_cast
    have habove : ((high : ℚ) < (k : ℚ)) ↔ high < k := by norm_cast
    rw [hk.lt_iff hleast, hgreatest.lt_iff hk, hwhole, exists_between_iff, hbelow, habove, not_or,
      not_lt, not_lt, or_iff_right nofun]

/-- **Bounds checked from inside** let nothing else pass. -/
theorem inside_iff (hlow : low < 2 ^ 53) (hhigh : high < 2 ^ 53) :
    Float.ofNat low ≤ truncate x ∧ truncate x ≤ Float.ofNat high ↔
      ∃ n : Nat, wholePart? x = some (n : Int) ∧ low ≤ n ∧ n ≤ high := by
  have hleast := denotes_ofNat hlow
  have hgreatest := denotes_ofNat hhigh
  cases hx : Parts.of x with
  | notANumber =>
    have hnone : wholePart? x = none := by rw [wholePart?, hx]
    rw [truncate_of_wholePart?_eq_none hnone, hnone]
    refine iff_of_false (fun h => (not_lt_of_notANumber hx _).2.2 h.1) ?_
    rintro ⟨n, hn, -⟩
    cases hn
  | infinite negative =>
    have hnone : wholePart? x = none := by rw [wholePart?, hx]
    rw [truncate_of_wholePart?_eq_none hnone, le_iff_compare, le_iff_compare,
      (hleast.compare_infinite hx).2, (hgreatest.compare_infinite hx).1, hnone]
    cases negative <;> simp
  | finite negative m =>
    have hwhole := wholePart?_of_parts hx
    generalize signed negative m.floor = k at hwhole
    have hk := denotes_truncate hwhole
    have hbelow : ((low : ℚ) ≤ (k : ℚ)) ↔ low ≤ k := by norm_cast
    have habove : ((k : ℚ) ≤ (high : ℚ)) ↔ k ≤ high := by norm_cast
    rw [hleast.le_iff hk, hk.le_iff hgreatest, hwhole, exists_between_iff, hbelow, habove]

end Bounds

/-! ## 8. Words -/

section Words

variable {x : Float} {n : Nat}

/-- The places of a double that denotes a whole number are those of the number, shifted. -/
theorem positive_of_fraction? {s : Sign} {m : Nat} {e : Int} {hm : 0 < m}
    (h : fraction? (.finite s m e hm) = some (n : ℚ)) :
    s = .positive ∧ n <<< (-e).toNat = m <<< e.toNat := by
  have h := Option.some.inj h
  cases s with
  | negative =>
    have hpos : (0 : ℚ) < m * 2 ^ e := mul_pos (by exact_mod_cast hm) (zpow_pos two_pos e)
    have hn : (0 : ℚ) ≤ n := Nat.cast_nonneg n
    simp only [Sign.apply, Int.cast_neg, Int.cast_natCast, neg_mul] at h
    linarith
  | positive =>
    simp only [Sign.apply, Int.cast_natCast] at h
    exact ⟨rfl, mul_two_zpow_eq_iff.mp h⟩

/-- A double that denotes a whole number is cut to this number. -/
theorem Denotes.toInt (h : Denotes x n) (lowest highest : Int) :
    x.toModel.unpack.toInt lowest highest = n := by
  unfold Denotes at h
  cases hunpack : x.toModel.unpack <;> rw [hunpack] at h
  case notANumber => cases h
  case infinity => cases h
  case zero =>
    have h : (0 : ℚ) = n := Option.some.inj h
    obtain rfl : 0 = n := by exact_mod_cast h
    rfl
  case finite s m e hm =>
    obtain ⟨rfl, hplaces⟩ := positive_of_fraction? h
    have hleft : (e - 0).toNat = e.toNat := by omega
    have hright : (0 - (e - e.toNat)).toNat = (-e).toNat := by omega
    change ((UnpackedFloat.shiftToExponent (m <<< (e - 0).toNat) (e - (e - 0).toNat)
      .exact 0).1.mantissa : Int) = n
    unfold UnpackedFloat.shiftToExponent
    simp only [ExtendedMantissa.ofMantissaAndAccuracy, hleft, hright, ← hplaces,
      shiftRight_shiftLeft]

/-- A double that denotes a whole number has it for its whole part. -/
theorem Denotes.wholePart? (h : Denotes x n) : wholePart? x = some (n : Int) := by
  unfold Denotes at h
  rw [Decimal.wholePart?, parts_of]
  cases hunpack : x.toModel.unpack <;> rw [hunpack] at h
  case notANumber => cases h
  case infinity => cases h
  case zero s =>
    have h : (0 : ℚ) = n := Option.some.inj h
    obtain rfl : 0 = n := by exact_mod_cast h
    cases s <;> rfl
  case finite s m e hm =>
    obtain ⟨rfl, hplaces⟩ := positive_of_fraction? h
    refine congrArg (fun k : Nat => some (k : Int)) ?_
    cases e with
    | ofNat e =>
      have hnone : (-Int.ofNat e).toNat = 0 := by simp
      rw [hnone] at hplaces
      exact hplaces.symm
    | negSucc e =>
      change m >>> (e + 1) = n
      have hplaces : n <<< (e + 1) = m := hplaces
      rw [← hplaces, Nat.shiftLeft_shiftRight]

theorem toInt_of_notANumber (h : Parts.of x = .notANumber) (lowest highest : Int) :
    x.toModel.unpack.toInt lowest highest = 0 := by
  rw [unpack_of_notANumber h]
  rfl

theorem Denotes.toUInt8 (h : Denotes x n) (hlt : n < UInt8.size) : x.toUInt8.toNat = n := by
  change (UInt8.ofNatClamp (x.toModel.unpack.toInt 0 _).toNat).toNat = n
  rw [h.toInt, Int.toNat_natCast, UInt8.toNat_ofNatClamp_of_lt hlt]

theorem Denotes.toUInt16 (h : Denotes x n) (hlt : n < UInt16.size) : x.toUInt16.toNat = n := by
  change (UInt16.ofNatClamp (x.toModel.unpack.toInt 0 _).toNat).toNat = n
  rw [h.toInt, Int.toNat_natCast, UInt16.toNat_ofNatClamp_of_lt hlt]

theorem Denotes.toUInt32 (h : Denotes x n) (hlt : n < UInt32.size) : x.toUInt32.toNat = n := by
  change (UInt32.ofNatClamp (x.toModel.unpack.toInt 0 _).toNat).toNat = n
  rw [h.toInt, Int.toNat_natCast, UInt32.toNat_ofNatClamp_of_lt hlt]

/-- **Cut to a word, what is no number is zero.** -/
theorem words_of_notANumber (h : Parts.of x = .notANumber) : x.toUInt16 = 0 ∧ x.toUInt32 = 0 := by
  constructor
  · change UInt16.ofNatClamp (x.toModel.unpack.toInt 0 _).toNat = 0
    rw [toInt_of_notANumber h]
    rfl
  · change UInt32.ofNatClamp (x.toModel.unpack.toInt 0 _).toNat = 0
    rw [toInt_of_notANumber h]
    rfl

end Words

end Spreadsheet.Decimal
