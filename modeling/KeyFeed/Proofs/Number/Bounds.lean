/-
This file bounds floating-point arithmetic far enough to know that it does not overflow. A
number that is not negative and at most so large stays one when it is rounded, and its sum,
product and quotient with another one grow by a few powers of two at most. The bound is on
the exponent alone, so nothing has to be known about how the last place is rounded.
-/

import Mathlib

namespace KeyFeed.Number

open Float.Model Float.Model.UnpackedFloat

/-- The number is zero, or positive with 53 binary digits and an exponent of the given size at
most. -/
inductive Below (limit : Int) : UnpackedFloat → Prop where
  | zero (sign : Sign) : Below limit (.zero sign)
  | finite (mantissa : Nat) (exponent : Int) (positive : 0 < mantissa)
      (digits : mantissa.log2 ≤ 52) (bounded : exponent ≤ limit) :
      Below limit (.finite .positive mantissa exponent positive)

/-! ### Binary digits -/

theorem log2_le_of_lt {number digits : Nat} (less : number < 2 ^ (digits + 1)) :
    number.log2 ≤ digits := by
  by_cases zero : number = 0
  · rw [zero, Nat.log2_zero]
    exact Nat.zero_le digits
  · exact Nat.lt_succ_iff.mp ((Nat.log2_lt zero).mpr less)

theorem log2_shiftLeft {number : Nat} (positive : 0 < number) (count : Nat) :
    (number <<< count).log2 = number.log2 + count := by
  have shifted : number <<< count ≠ 0 := (Nat.shiftLeft_pos_iff.mpr positive).ne'
  rw [Nat.log2_eq_iff shifted, Nat.shiftLeft_eq, Nat.pow_add, Nat.add_right_comm, Nat.pow_add]
  exact ⟨Nat.mul_le_mul_right _ (Nat.log2_self_le positive.ne'),
    Nat.mul_lt_mul_of_pos_right Nat.lt_log2_self (Nat.two_pow_pos count)⟩

theorem log2_add_le {first second digits : Nat} (one : first.log2 ≤ digits)
    (other : second.log2 ≤ digits) : (first + second).log2 ≤ digits + 1 := by
  have less {number : Nat} (few : number.log2 ≤ digits) : number < 2 ^ (digits + 1) :=
    Nat.lt_of_lt_of_le Nat.lt_log2_self (Nat.pow_le_pow_right (by decide) (by omega))
  refine log2_le_of_lt ?_
  rw [Nat.pow_succ, Nat.mul_two]
  exact Nat.add_lt_add (less one) (less other)

theorem log2_mul_le (first second : Nat) :
    (first * second).log2 ≤ first.log2 + second.log2 + 1 := by
  refine log2_le_of_lt ?_
  rw [show first.log2 + second.log2 + 1 + 1 = (first.log2 + 1) + (second.log2 + 1) by omega,
    Nat.pow_add]
  exact Nat.mul_lt_mul'' Nat.lt_log2_self Nat.lt_log2_self

theorem log2_div_le {divisor digits : Nat} (large : 2 ^ digits ≤ divisor) (number : Nat) :
    (number / divisor).log2 ≤ number.log2 - digits := by
  refine log2_le_of_lt ((Nat.div_lt_iff_lt_mul ?_).mpr ?_)
  · exact Nat.lt_of_lt_of_le (Nat.two_pow_pos digits) large
  · calc number < 2 ^ (number.log2 + 1) := Nat.lt_log2_self
      _ ≤ 2 ^ (number.log2 - digits + 1 + digits) := Nat.pow_le_pow_right (by decide) (by omega)
      _ = 2 ^ (number.log2 - digits + 1) * 2 ^ digits := Nat.pow_add ..
      _ ≤ 2 ^ (number.log2 - digits + 1) * divisor := Nat.mul_le_mul_left _ large

/-! ### Rounding -/

/-- The exponent to which a number is rounded: 53 binary digits are kept, as far as the least
exponent allows. -/
theorem targetExponent_eq (mantissa : Nat) (exponent : Int) :
    Format.binary64.targetExponent (totalExponent mantissa exponent) =
      max (mantissa.log2 + exponent - 52) (-1074) := by
  simp only [Format.targetExponent, totalExponent, Format.mantissaBits, Format.minExponent]
  norm_num
  omega

theorem shiftRight_mantissa (extended : ExtendedMantissa) (count : Nat) :
    (extended >>> count).mantissa = extended.mantissa / 2 ^ count := by
  induction count with
  | zero => exact (Nat.div_one _).symm
  | succ count inductionHypothesis =>
    show (extended >>> count).mantissa / 2 = _
    rw [inductionHypothesis, Nat.div_div_eq_div_mul, Nat.pow_succ]

theorem roundedMantissa_le (extended : ExtendedMantissa) :
    extended.roundedMantissa ≤ extended.mantissa + 1 := by
  obtain ⟨mantissa, round, sticky⟩ := extended
  cases round <;> cases sticky <;>
    simp [ExtendedMantissa.roundedMantissa, ExtendedMantissa.accuracy,
      Accuracy.roundToNearestEven]
  omega

theorem ofMantissaAndAccuracy_mantissa (mantissa : Nat) (accuracy : Accuracy) :
    (ExtendedMantissa.ofMantissaAndAccuracy mantissa accuracy).mantissa = mantissa := by
  cases accuracy with
  | exact => rfl
  | inexact order => cases order <;> rfl

theorem div_two_pow_lt {mantissa count : Nat} (few : mantissa.log2 ≤ 52 + count) :
    mantissa / 2 ^ count < 2 ^ 53 := by
  refine (Nat.div_lt_iff_lt_mul (Nat.two_pow_pos count)).mpr ?_
  rw [← Nat.pow_add]
  exact Nat.lt_of_lt_of_le Nat.lt_log2_self (Nat.pow_le_pow_right (by decide) (by omega))

/-- Shifting keeps 53 binary digits at most. -/
theorem shiftToTargetExponent_spec (mantissa : Nat) (exponent : Int) (accuracy : Accuracy) :
    (shiftToTargetExponent Format.binary64 mantissa exponent accuracy).1.mantissa < 2 ^ 53 ∧
      (shiftToTargetExponent Format.binary64 mantissa exponent accuracy).2 =
        max exponent (max (mantissa.log2 + exponent - 52) (-1074)) := by
  unfold shiftToTargetExponent shiftToExponent
  rw [targetExponent_eq]
  dsimp only
  rw [shiftRight_mantissa, ofMantissaAndAccuracy_mantissa]
  exact ⟨div_two_pow_lt (by omega), by omega⟩

/-- Rounding carries into one more binary digit at most. -/
theorem roundWithAccuracy_below {limit : Int} {mantissa : Nat} {exponent : Int}
    (room : exponent + 1 ≤ limit) (small : mantissa.log2 + exponent - 51 ≤ limit)
    (least : -1073 ≤ limit) (accuracy : Accuracy) :
    Below limit (roundWithAccuracy Format.binary64 .positive mantissa exponent accuracy) := by
  have spec := shiftToTargetExponent_spec mantissa exponent accuracy
  unfold roundWithAccuracy
  rcases outcome : shiftToTargetExponent Format.binary64 mantissa exponent accuracy
    with ⟨extended, first⟩
  rw [outcome] at spec
  obtain ⟨fits, shifted⟩ := spec
  dsimp only at fits shifted ⊢
  have rounded := roundedMantissa_le extended
  have digits : extended.roundedMantissa.log2 ≤ 53 := log2_le_of_lt (by omega)
  obtain ⟨fitsToo, last⟩ := shiftToTargetExponent_spec extended.roundedMantissa first .exact
  split
  · exact .zero _
  · exact .finite _ _ _ (log2_le_of_lt fitsToo) (by omega)

theorem round_below {limit : Int} {mantissa : Nat} {exponent : Int} (positive : 0 < mantissa)
    (small : mantissa.log2 + exponent - 51 ≤ limit) (least : -1073 ≤ limit) :
    Below limit (UnpackedFloat.round Format.binary64 .positive mantissa exponent) := by
  unfold UnpackedFloat.round decreaseExponent
  rw [targetExponent_eq]
  dsimp only
  refine roundWithAccuracy_below (by omega) ?_ least .exact
  rw [log2_shiftLeft positive]
  push_cast
  omega

/-! ### Packing -/

/-- The parts of a number that was packed are bounded. -/
theorem unpack_finite {number : Float.Model} {sign : Sign} {mantissa : Nat} {exponent : Int}
    {positive : 0 < mantissa}
    (unpacked : number.unpack = .finite sign mantissa exponent positive) :
    mantissa.log2 ≤ 52 ∧ exponent ≤ 971 := by
  have bias : Format.binary64.exponentBias = 1023 := rfl
  unfold Float.Model.unpack UnpackedFloat.unpack at unpacked
  dsimp only at unpacked
  let stored : BitVec 11 := @unpackExponent Format.binary64 number.toBits.toBitVec
  have size : stored.toNat < 2 ^ 11 := stored.isLt
  split at unpacked
  · split at unpacked <;> cases unpacked
  · rename_i notLast
    have least : stored.toNat ≠ 2047 := fun last => notLast (BitVec.eq_of_toNat_eq last)
    split at unpacked
    · rename_i first
      split at unpacked
      · cases unpacked
      · cases unpacked
        refine ⟨log2_le_of_lt ((BitVec.isLt _).trans (by decide)), ?_⟩
        rw [first, bias, BitVec.toNat_zero]
        norm_num
    · cases unpacked
      refine ⟨log2_le_of_lt (BitVec.isLt _), ?_⟩
      rw [bias]
      show (stored.toNat : Int) - _ ≤ 971
      push_cast
      omega

/-- A number that is packed keeps its size, if it is not too large for that. -/
theorem unpack_pack_below {limit : Int} {number : UnpackedFloat} (below : Below limit number)
    (least : -1074 ≤ limit) (most : limit ≤ 971) :
    Below limit (Float.Model.pack number).unpack := by
  cases below with
  | zero sign =>
    have same : (Float.Model.pack (.zero sign)).unpack = .zero sign := unpack_packedZero
    rw [same]
    exact .zero sign
  | finite mantissa exponent positive digits bounded =>
    let biased := (exponent + 1075).toNat
    have packs : ∃ (stored : BitVec 11) (fraction : BitVec 52),
        UnpackedFloat.pack Format.binary64 (.finite .positive mantissa exponent positive) =
          packComponents Format.binary64 .positive stored fraction ∧ stored.toNat ≤ biased := by
      have same : (exponent + Format.binary64.exponentBias +
          Format.binary64.mantissaBitsWithoutImplicit).toNat = biased := by
        show (exponent + (1023 : Nat) + (52 : Nat)).toNat = biased
        omega
      unfold UnpackedFloat.pack
      dsimp only
      rw [same, if_neg (by omega)]
      split
      · refine ⟨_, _, rfl, ?_⟩
        rw [BitVec.toNat_ofNat]
        exact Nat.mod_le _ _
      · exact ⟨_, _, rfl, Nat.zero_le _⟩
    obtain ⟨stored, fraction, packed, small⟩ := packs
    -- the last exponent is the one of infinity, which the bound keeps out of reach
    have notLast : stored ≠ -1#11 := by
      rintro rfl
      have last : (-1#11).toNat = 2047 := rfl
      omega
    have bias : Format.binary64.exponentBias = 1023 := rfl
    show Below limit (UnpackedFloat.unpack Format.binary64
      (UnpackedFloat.pack Format.binary64 (.finite .positive mantissa exponent positive)))
    rw [packed]
    unfold UnpackedFloat.unpack
    simp only [unpackMantissa_packComponents, unpackExponent_packComponents,
      unpackSign_packComponents]
    rw [if_neg notLast]
    split
    · rename_i isZero
      rw [isZero] at small ⊢
      split
      · exact .zero _
      · refine .finite _ _ _ (log2_le_of_lt (fraction.isLt.trans (by decide))) ?_
        rw [bias, BitVec.toNat_zero]
        push_cast
        omega
    · rename_i notZero
      have least : stored.toNat ≠ 0 := fun zero => notZero (BitVec.eq_of_toNat_eq zero)
      refine .finite _ _ _ (log2_le_of_lt (1#1 ++ fraction).isLt) ?_
      rw [bias]
      push_cast
      omega

/-! ### Arithmetic -/

theorem decreaseExponent_log2 {mantissa : Nat} {exponent target : Int} (positive : 0 < mantissa)
    (le : target ≤ exponent) :
    ((decreaseExponent mantissa exponent target).1.log2 : Int) = mantissa.log2 + exponent - target ∧
      0 < (decreaseExponent mantissa exponent target).1 := by
  unfold decreaseExponent
  dsimp only
  rw [log2_shiftLeft positive]
  refine ⟨?_, Nat.shiftLeft_pos_iff.mpr positive⟩
  push_cast
  omega

/-- A sum is at most twice as large as the larger part, and rounding adds to that. -/
theorem add_below {limit : Int} {first second : UnpackedFloat} (one : Below limit first)
    (other : Below limit second) (least : -1073 ≤ limit) :
    Below (limit + 2) (UnpackedFloat.add Format.binary64 first second) := by
  cases one with
  | zero sign =>
    cases other with
    | zero sign =>
      unfold UnpackedFloat.add
      dsimp only
      split
      · exact .zero _
      · exact .zero _
    | finite mantissa exponent positive digits bounded =>
      exact .finite mantissa exponent positive digits (by omega)
  | finite mantissa exponent positive digits bounded =>
    cases other with
    | zero sign => exact .finite mantissa exponent positive digits (by omega)
    | finite mantissa' exponent' positive' digits' bounded' =>
      -- both parts are written with the smaller exponent, from which their digits are counted
      obtain ⟨length, kept⟩ := decreaseExponent_log2 positive (min_le_left exponent exponent')
      obtain ⟨length', kept'⟩ := decreaseExponent_log2 positive' (min_le_right exponent exponent')
      unfold UnpackedFloat.add UnpackedFloat.normalize
      dsimp only [Sign.apply]
      generalize (decreaseExponent mantissa exponent (min exponent exponent')).1 = left at *
      generalize (decreaseExponent mantissa' exponent' (min exponent exponent')).1 = right at *
      have total : (left + right).log2 ≤ (52 + limit - min exponent exponent').toNat + 1 :=
        log2_add_le (by omega) (by omega)
      have above : compare ((left : Int) + right) 0 = .gt :=
        Int.compare_eq_gt.mpr (by omega)
      rw [above]
      refine round_below (by omega) ?_ (by omega)
      rw [← Int.natCast_add, Int.toNat_natCast]
      omega

/-- A product has twice as many digits, and rounding adds to that. -/
theorem mul_below {limit limit' : Int} {first second : UnpackedFloat} (one : Below limit first)
    (other : Below limit' second) (least : -1073 ≤ limit + limit' + 54) :
    Below (limit + limit' + 54) (UnpackedFloat.mul Format.binary64 first second) := by
  cases one with
  | zero sign => cases other <;> exact .zero _
  | finite mantissa exponent positive digits bounded =>
    cases other with
    | zero sign => exact .zero _
    | finite mantissa' exponent' positive' digits' bounded' =>
      have length := log2_mul_le mantissa mantissa'
      exact roundWithAccuracy_below (by omega) (by omega) least .exact

/-- The quotient by a number that uses all its digits. -/
theorem div_below {limit : Int} {number : UnpackedFloat} {divisor : Nat} {power : Int}
    {positive : 0 < divisor} (below : Below limit number) (full : 2 ^ 52 ≤ divisor)
    (digits : divisor.log2 ≤ 52) (least : -1073 ≤ limit - power - 51) :
    Below (limit - power - 51) (UnpackedFloat.div Format.binary64 number
      (.finite .positive divisor power positive)) := by
  cases below with
  | zero sign => exact .zero _
  | finite mantissa exponent positive' digits' bounded =>
    have target : Format.binary64.targetExponent
        (totalExponent mantissa exponent - totalExponent divisor power) =
          max (mantissa.log2 + exponent - divisor.log2 - power - 53) (-1074) := by
      simp only [Format.targetExponent, totalExponent, Format.mantissaBits, Format.minExponent]
      norm_num
      omega
    have whole : divisor.log2 = 52 :=
      Nat.le_antisymm digits ((Nat.le_log2 positive.ne').mpr full)
    unfold UnpackedFloat.div divCore
    dsimp only
    rw [target]
    -- the number is shifted by as many digits as the quotient is to have beyond the divisor's
    have quotient := log2_div_le full (mantissa <<< (exponent - power -
      min (exponent - power) (max (mantissa.log2 + exponent - divisor.log2 - power - 53)
        (-1074))).toNat)
    rw [log2_shiftLeft positive'] at quotient
    exact roundWithAccuracy_below (by omega) (by omega) least _

end KeyFeed.Number
