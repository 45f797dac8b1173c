/-
# Doubles that were rounded

* Rounding cuts places off a mantissa and adds one carry at the most (`roundWithAccuracy_cases`), so
  whatever is below `2 ^ 1023` is finite after it (`isFinite_roundWithAccuracy`).
* Neither a sign nor a percent sign decides whether a double is finite (`isFinite_neg`,
  `isFinite_abs`, `isFinite_div_hundred`).
* A whole number below `2 ^ 64` is finite as a double (`isFinite_ofNat`), and a positive one is
  positive however large it is (`ofNat_pos`).
-/
import Mathlib
import Spreadsheet.Proofs.WholeDoubles

namespace Spreadsheet.Decimal

open Float.Model (UnpackedFloat Format totalExponent)
open Float.Model.UnpackedFloat (Sign ExtendedMantissa Accuracy roundWithAccuracy
  shiftToTargetExponent pack packComponents unpack)

/-! ## 1. Shifts -/

theorem mantissa_shiftRight (em : ExtendedMantissa) (k : Nat) :
    (em >>> k).mantissa = em.mantissa / 2 ^ k := by
  induction k with
  | zero => simp [HShiftRight.hShiftRight, Nat.repeat]
  | succ k ih =>
    change (em >>> k).mantissa / 2 = _
    rw [ih, Nat.div_div_eq_div_mul, Nat.pow_succ]

theorem mantissa_ofMantissaAndAccuracy (m : Nat) (a : Accuracy) :
    (ExtendedMantissa.ofMantissaAndAccuracy m a).mantissa = m := by
  rcases a with _ | _ | _ | _ <;> rfl

theorem roundedMantissa_bounds (em : ExtendedMantissa) :
    em.mantissa ≤ em.roundedMantissa ∧ em.roundedMantissa ≤ em.mantissa + 1 := by
  rcases em with ⟨m, _ | _, _ | _⟩ <;>
    simp only [ExtendedMantissa.roundedMantissa, ExtendedMantissa.accuracy,
      Accuracy.roundToNearestEven] <;> omega

/-- A mantissa is shifted until no place is beyond the fifty-third, and no exponent is too small. -/
theorem shiftToTargetExponent_cases (m : Nat) (e : Int) (a : Accuracy) :
    ∃ k : Nat, (shiftToTargetExponent Format.binary64 m e a).1.mantissa = m / 2 ^ k ∧
      (shiftToTargetExponent Format.binary64 m e a).2 = e + k ∧
      (e + k : Int) = max e (max (totalExponent m e - 53) (-1074)) :=
  ⟨(Format.binary64.targetExponent (totalExponent m e) - e).toNat,
    by rw [shiftToTargetExponent, UnpackedFloat.shiftToExponent, mantissa_shiftRight,
      mantissa_ofMantissaAndAccuracy],
    rfl, by rw [targetExponent_eq]; omega⟩

/-- A mantissa with more than enough places is full after the shift that takes the rest away. -/
theorem isFull_div {m k : Nat} (hm : 52 ≤ m.log2) (hk : k = m.log2 - 52) : IsFull (m / 2 ^ k) := by
  have hpos : 0 < m := by
    rcases Nat.eq_zero_or_pos m with rfl | h
    · simp at hm
    · exact h
  obtain ⟨hlow, hhigh⟩ := (Nat.log2_eq_iff hpos.ne').mp (rfl : m.log2 = m.log2)
  constructor
  · rw [Nat.le_div_iff_mul_le (Nat.two_pow_pos k), ← Nat.pow_add, show 52 + k = m.log2 by omega]
    exact hlow
  · refine Nat.div_lt_of_lt_mul ?_
    rwa [← Nat.pow_add, show k + 53 = m.log2 + 1 by omega]

/-! ## 2. Rounding -/

/-- **What rounding gives.**  The exponent grows by no more than the places that are cut off and
one carry, and a mantissa with enough places stays full. -/
theorem roundWithAccuracy_cases (s : Sign) (m : Nat) (e : Int) (a : Accuracy) :
    ∃ (n : Nat) (f : Int), -1074 ≤ f ∧ f ≤ max (max e (totalExponent m e - 53)) (-1074) + 1 ∧
      (52 ≤ m.log2 → -1021 ≤ totalExponent m e → IsFull n) ∧
      roundWithAccuracy Format.binary64 s m e a =
        if h : n = 0 then .zero s else .finite s n f (Nat.pos_of_ne_zero h) := by
  obtain ⟨k, hmantissa, hexponent, hk⟩ := shiftToTargetExponent_cases m e a
  unfold UnpackedFloat.roundWithAccuracy
  generalize shiftToTargetExponent Format.binary64 m e a = shifted at hmantissa hexponent ⊢
  obtain ⟨em, f⟩ := shifted
  dsimp only at hmantissa hexponent ⊢
  obtain ⟨hlow, hhigh⟩ := roundedMantissa_bounds em
  generalize em.roundedMantissa = r at hlow hhigh ⊢
  obtain ⟨l, hagain, hexponent', hl⟩ := shiftToTargetExponent_cases r f .exact
  refine ⟨(shiftToTargetExponent Format.binary64 r f .exact).1.mantissa,
    (shiftToTargetExponent Format.binary64 r f .exact).2, by omega, ?_, ?_, rfl⟩
  · have hplaces : m / 2 ^ k < 2 ^ 53 := by
      refine Nat.div_lt_of_lt_mul ?_
      rw [← Nat.pow_add]
      refine Nat.lt_of_lt_of_le Nat.lt_log2_self (Nat.pow_le_pow_right (by omega) ?_)
      unfold totalExponent at hk
      omega
    have hcarry : r.log2 < 54 := by
      rcases Nat.eq_zero_or_pos r with rfl | hr
      · decide
      · exact (Nat.log2_lt hr.ne').mpr (by omega)
    unfold totalExponent at hl
    omega
  · intro henough htotal
    unfold totalExponent at hk htotal hl
    have hfull : IsFull em.mantissa := by
      rw [hmantissa]
      exact isFull_div henough (by omega)
    have hr : 52 ≤ r.log2 := by
      have hleast := Nat.le_trans hfull.1 hlow
      exact (Nat.le_log2 (by omega)).mpr hleast
    rw [hagain]
    exact isFull_div hr (by omega)

/-! ## 3. Packing -/

/-- A double, taken apart, is packed as a finite one unless its exponent is too large. -/
theorem isFinite_unpack_pack {s : Sign} {m : Nat} {e : Int} (hm : 0 < m) (he : e ≤ 971) :
    (unpack Format.binary64 (pack Format.binary64 (.finite s m e hm))).isFinite = true := by
  have hcomponents {exponent : BitVec 11} (hne : exponent ≠ -1#11) (fraction : BitVec 52) :
      (unpack Format.binary64 (packComponents Format.binary64 s exponent fraction)).isFinite =
        true := by
    unfold UnpackedFloat.unpack
    simp only [UnpackedFloat.unpackExponent_packComponents]
    rw [if_neg hne]
    split
    · split <;> rfl
    · rfl
  obtain ⟨biased, hbiased⟩ : ∃ biased : Nat,
      biased = (e + Format.binary64.exponentBias + (52 : Nat)).toNat := ⟨_, rfl⟩
  have hbias : (Format.binary64.exponentBias : Int) = 1023 := rfl
  unfold UnpackedFloat.pack
  simp only [← hbiased]
  rw [if_neg (show ¬ 2 ^ 11 ≤ biased + 1 by omega)]
  split
  · refine hcomponents (fun h => ?_) _
    have hall : biased % 2 ^ 11 = 2047 := by
      simpa using congrArg BitVec.toNat h
    omega
  · exact hcomponents (by decide) _

/-- With an exponent that is too large it is packed as infinity. -/
theorem unpack_pack_of_lt {s : Sign} {m : Nat} {e : Int} {hm : 0 < m} (he : 971 < e) :
    unpack Format.binary64 (pack Format.binary64 (.finite s m e hm)) = .infinity s := by
  have hbias : (Format.binary64.exponentBias : Int) = 1023 := rfl
  unfold UnpackedFloat.pack
  dsimp only
  rw [if_pos (show 2 ^ 11 ≤ (e + Format.binary64.exponentBias + (52 : Nat)).toNat + 1 by omega)]
  cases s <;> rfl

/-- **Rounding what is below `2 ^ 1023` gives a finite double.** -/
theorem isFinite_roundWithAccuracy (s : Sign) {m : Nat} {e : Int} (a : Accuracy) (he : e ≤ 970)
    (htotal : totalExponent m e ≤ 1023) :
    (unpack Format.binary64
      (pack Format.binary64 (roundWithAccuracy Format.binary64 s m e a))).isFinite = true := by
  obtain ⟨n, f, -, hf, -, hround⟩ := roundWithAccuracy_cases s m e a
  rw [hround]
  split
  · cases s <;> rfl
  · exact isFinite_unpack_pack _ (by omega)

theorem totalExponent_shiftLeft {m : Nat} (hm : 0 < m) (e : Int) (k : Nat) :
    totalExponent (m <<< k) (e - k) = totalExponent m e := by
  have hlog : (m <<< k).log2 = m.log2 + k := by
    obtain ⟨hlow, hhigh⟩ := (Nat.log2_eq_iff hm.ne').mp (rfl : m.log2 = m.log2)
    rw [Nat.shiftLeft_eq, Nat.log2_eq_iff (Nat.mul_pos hm (Nat.two_pow_pos k)).ne', Nat.pow_add,
      show m.log2 + k + 1 = m.log2 + 1 + k by omega, Nat.pow_add]
    exact ⟨Nat.mul_le_mul_right _ hlow, Nat.mul_lt_mul_of_pos_right hhigh (Nat.two_pow_pos k)⟩
  unfold totalExponent
  omega

/-- The same where zeros are put behind the mantissa first. -/
theorem isFinite_normalize {n : Nat} {e : Int} (hn : 0 < n) (htotal : totalExponent n e ≤ 1023) :
    (unpack Format.binary64 (pack Format.binary64
      (UnpackedFloat.normalize Format.binary64 n e .positive))).isFinite = true := by
  have hcompare : compare (n : Int) 0 = .gt := by
    rw [Int.compare_eq_gt]
    omega
  unfold UnpackedFloat.normalize
  rw [hcompare]
  change (unpack Format.binary64 (pack Format.binary64
    (roundWithAccuracy Format.binary64 .positive _ _ _))).isFinite = true
  rw [Int.toNat_natCast, targetExponent_eq]
  refine isFinite_roundWithAccuracy _ _ (by omega) ?_
  rw [totalExponent_shiftLeft hn]
  exact htotal

/-! ## 4. Signs and hundredths -/

/-- What a double is made of. -/
theorem canonical_cases (x : Float) : x.toModel.unpack = .notANumber ∨
    (∃ s, x.toModel.unpack = .infinity s) ∨ (∃ s, x.toModel.unpack = .zero s) ∨
    ∃ s m e hm, x.toModel.unpack = .finite s m e hm ∧ m < 2 ^ 53 ∧ -1074 ≤ e ∧ e ≤ 971 := by
  have hcanonical := canonical_unpack x.toModel.toBits.toBitVec
  change Canonical x.toModel.unpack at hcanonical
  cases hx : x.toModel.unpack with
  | notANumber => exact .inl rfl
  | infinity s => exact .inr (.inl ⟨s, rfl⟩)
  | zero s => exact .inr (.inr (.inl ⟨s, rfl⟩))
  | finite s m e hm =>
    rw [hx] at hcanonical
    obtain ⟨hplaces, hlow, hhigh, -⟩ := hcanonical
    exact .inr (.inr (.inr ⟨s, m, e, hm, rfl, hplaces, hlow, hhigh⟩))

/-- **A sign does not decide whether a double is finite.** -/
@[simp] theorem isFinite_neg (x : Float) : (-x).isFinite = x.isFinite := by
  change (unpack Format.binary64 (pack Format.binary64 x.toModel.unpack.neg)).isFinite =
    x.toModel.unpack.isFinite
  rcases canonical_cases x with hx | ⟨s, hx⟩ | ⟨s, hx⟩ | ⟨s, m, e, hm, hx, -, -, hhigh⟩ <;> rw [hx]
  · rfl
  · cases s <;> rfl
  · cases s <;> rfl
  · exact isFinite_unpack_pack hm hhigh

@[simp] theorem isFinite_abs (x : Float) : x.abs.isFinite = x.isFinite := by
  change (unpack Format.binary64 (pack Format.binary64 x.toModel.unpack.abs)).isFinite =
    x.toModel.unpack.isFinite
  rcases canonical_cases x with hx | ⟨s, hx⟩ | ⟨s, hx⟩ | ⟨s, m, e, hm, hx, -, -, hhigh⟩ <;> rw [hx]
  · rfl
  · cases s <;> rfl
  · cases s <;> rfl
  · exact isFinite_unpack_pack hm hhigh

/-- What is divided by a full mantissa loses all the places that it had before a shift. -/
theorem log2_shiftLeft_div_le {m d : Nat} (hm : m < 2 ^ 53) (hd : 2 ^ 52 ≤ d) (k : Nat) :
    (m <<< k / d).log2 ≤ k := by
  rcases Nat.eq_zero_or_pos (m <<< k / d) with hzero | hpos
  · simp [hzero]
  refine Nat.lt_succ_iff.mp ((Nat.log2_lt hpos.ne').mpr (Nat.div_lt_of_lt_mul ?_))
  rw [Nat.shiftLeft_eq]
  calc m * 2 ^ k < 2 ^ 53 * 2 ^ k := Nat.mul_lt_mul_of_pos_right hm (Nat.two_pow_pos k)
    _ = 2 ^ 52 * 2 ^ (k + 1) := by rw [← Nat.pow_add, ← Nat.pow_add]; congr 1; omega
    _ ≤ d * 2 ^ (k + 1) := Nat.mul_le_mul_right _ hd

/-- **A hundredth is finite as the whole is.** -/
theorem isFinite_div_hundred (x : Float) : (x / 100.0).isFinite = x.isFinite := by
  have hhundred : (100.0 : Float).toModel.unpack =
      .finite .positive (100 * 2 ^ 46) (-46) (by decide) := by rfl
  have hlogHundred : (100 * 2 ^ 46 : Nat).log2 = 52 := by decide +kernel
  change (unpack Format.binary64 (pack Format.binary64
    (UnpackedFloat.div Format.binary64 x.toModel.unpack (100.0 : Float).toModel.unpack))).isFinite =
      x.toModel.unpack.isFinite
  rw [hhundred]
  rcases canonical_cases x with hx | ⟨s, hx⟩ | ⟨s, hx⟩ | ⟨s, m, e, hm, hx, hplaces, hlow, hhigh⟩ <;>
    rw [hx]
  · rfl
  · cases s <;> rfl
  · cases s <;> rfl
  · have hlog : m.log2 < 53 := (Nat.log2_lt hm.ne').mpr hplaces
    simp only [UnpackedFloat.div, UnpackedFloat.divCore, targetExponent_eq, totalExponent,
      hlogHundred]
    generalize ht : min (e - -46) _ = t
    have hquotient := log2_shiftLeft_div_le hplaces (d := 100 * 2 ^ 46) (by decide)
      (e - -46 - t).toNat
    refine isFinite_roundWithAccuracy _ _ (by omega) ?_
    unfold totalExponent
    omega

/-! ## 5. Whole numbers -/

/-- A whole number with too many places is rounded behind as many zeros as a mantissa has places. -/
theorem toModel_ofNat {n : Nat} (h : 2 ^ 53 ≤ n) : (Float.ofNat n).toModel.unpack =
    unpack Format.binary64 (pack Format.binary64
      (roundWithAccuracy Format.binary64 .positive (n <<< 53) (-53) .exact)) := by
  have hslow : Float.ofNat n = .ofModel (.ofScientific n 0) := by
    change Float.ofScientific n false 0 = _
    unfold Float.ofScientific
    rw [dif_neg (by omega)]
    rfl
  have hnegative : ¬ (0 : Int) < -(2 ^ 11 + n.log2) := by omega
  have hof : UnpackedFloat.ofScientific Format.binary64 n 0 =
      roundWithAccuracy Format.binary64 .positive (n <<< 53) (-53) .exact := by
    unfold UnpackedFloat.ofScientific
    rw [dif_neg (by omega), if_neg (by decide), if_neg hnegative, if_pos le_rfl]
    change roundWithAccuracy Format.binary64 .positive (n <<< 53 * 1) (-53 + 0) .exact = _
    rw [Nat.mul_one]
    rfl
  rw [hslow, ← hof]
  rfl

theorem Denotes.isFinite {x : Float} {p : ℚ} (h : Denotes x p) : x.isFinite = true := by
  change x.toModel.unpack.isFinite = true
  unfold Denotes at h
  cases hunpack : x.toModel.unpack <;> rw [hunpack] at h
  case notANumber => cases h
  case infinity => cases h
  all_goals rfl

/-- **A whole number below `2 ^ 64` is finite as a double.** -/
theorem isFinite_ofNat {n : Nat} (h : n < 2 ^ 64) : (Float.ofNat n).isFinite = true := by
  rcases Nat.lt_or_ge n (2 ^ 53) with hlt | hge
  · exact (denotes_ofNat hlt).isFinite
  · have hlog : (n <<< 53).log2 < 117 := by
      refine (Nat.log2_lt ?_).mpr ?_ <;> rw [Nat.shiftLeft_eq] <;> omega
    change (Float.ofNat n).toModel.unpack.isFinite = true
    rw [toModel_ofNat hge]
    refine isFinite_roundWithAccuracy _ _ (by omega) ?_
    unfold totalExponent
    omega

/-- **So is the next number,** if the number itself is exact. -/
theorem isFinite_ofNat_add_one {n : Nat} (h : n < 2 ^ 53) :
    (Float.ofNat n + 1.0).isFinite = true := by
  have hone : (1.0 : Float).toModel.unpack = .finite .positive (2 ^ 52) (-52) (by decide) := rfl
  change (unpack Format.binary64 (pack Format.binary64 (UnpackedFloat.add Format.binary64
    (Float.ofNat n).toModel.unpack (1.0 : Float).toModel.unpack))).isFinite = true
  rw [hone]
  rcases Nat.eq_zero_or_pos n with rfl | hpos
  · rfl
  · have hlog : n.log2 < 53 := (Nat.log2_lt hpos.ne').mpr h
    have hfull := isFull_shiftLeft hpos h
    have hleast : min ((n.log2 : Int) - 52) (-52) = -52 := by omega
    have hplaces : (n.log2 : Int) - 52 - -52 = n.log2 := by omega
    rw [Decimal.unpack_ofNat hpos h]
    simp only [UnpackedFloat.add, hleast, UnpackedFloat.decreaseExponent, Sign.apply, hplaces,
      Int.toNat_natCast, Int.sub_self, Int.toNat_zero, Nat.shiftLeft_zero, ← Int.natCast_add]
    have hsum : n <<< (52 - n.log2) <<< n.log2 + 2 ^ 52 < 2 ^ 106 := by
      rw [← Nat.shiftLeft_add, show 52 - n.log2 + n.log2 = 52 by omega, Nat.shiftLeft_eq]
      omega
    have hpositive : 0 < n <<< (52 - n.log2) <<< n.log2 + 2 ^ 52 :=
      Nat.add_pos_right _ (by decide)
    generalize n <<< (52 - n.log2) <<< n.log2 + 2 ^ 52 = sum at hsum hpositive ⊢
    have hlog : sum.log2 < 106 := (Nat.log2_lt hpositive.ne').mpr hsum
    refine isFinite_normalize hpositive ?_
    unfold totalExponent
    omega

/-- **A positive number is positive as a double,** even if it is too large to be exact. -/
theorem ofNat_pos {n : Nat} (h : 0 < n) : 0.0 < Float.ofNat n := by
  have hzero : Denotes 0.0 0 := rfl
  rcases Nat.lt_or_ge n (2 ^ 53) with hlt | hge
  · rw [hzero.lt_iff (denotes_ofNat hlt)]
    exact_mod_cast h
  · obtain ⟨m, f, hlow, -, hfull, hround⟩ :=
      roundWithAccuracy_cases .positive (n <<< 53) (-53) .exact
    have hlog : 52 ≤ (n <<< 53).log2 := by
      rw [Nat.le_log2 (by rw [Nat.shiftLeft_eq]; omega), Nat.shiftLeft_eq]
      omega
    replace hfull : IsFull m := hfull hlog (by unfold totalExponent; omega)
    rw [lt_iff_compare, toModel_ofNat hge, hround, dif_neg hfull.pos.ne']
    rcases Int.lt_or_le 971 f with hover | hhigh
    · rw [unpack_pack_of_lt hover]
      rfl
    · rw [hfull.unpack_pack hlow hhigh]
      rfl

end Spreadsheet.Decimal
