/-
This file says which floating-point numbers are lengths of time: the finite ones that are not
negative. A finite number that is not less than zero is one, and so is its thousandth part; a
number that is not finite stays so when it is divided. The seconds of a pause between a second
and a day, and one second more, are a length of time as well.
-/

import KeyFeed.Proofs.Number.Bounds
import KeyFeed.Script.Directive

namespace KeyFeed.Number

open Float.Model Float.Model.UnpackedFloat

/-- The number is a length of time: it is finite and not negative. -/
def Usable (number : Float) : Prop := number.isFinite = true ∧ 0 ≤ number

instance (number : Float) : Decidable (Usable number) := inferInstanceAs (Decidable (_ ∧ _))

theorem lt_zero_iff {number : Float} :
    number < 0 ↔ UnpackedFloat.lt number.toModel.unpack (.zero .positive) = true :=
  decide_eq_true_iff

theorem zero_le_iff {number : Float} :
    0 ≤ number ↔ UnpackedFloat.le (.zero .positive) number.toModel.unpack = true :=
  decide_eq_true_iff

theorem Usable.of_below {number : Float} {limit : Int} (below : Below limit number.toModel.unpack) :
    Usable number := by
  unfold Usable
  rw [zero_le_iff]
  show number.toModel.unpack.isFinite = true ∧ _
  generalize number.toModel.unpack = unpacked at below
  cases below with
  | zero sign => exact ⟨rfl, rfl⟩
  | finite mantissa exponent positive digits bounded => exact ⟨rfl, rfl⟩

theorem not_lt_zero_of_below {number : Float} {limit : Int}
    (below : Below limit number.toModel.unpack) : ¬number < 0 := by
  rw [lt_zero_iff]
  generalize number.toModel.unpack = unpacked at below
  cases below with
  | zero sign => exact nofun
  | finite mantissa exponent positive digits bounded => exact nofun

/-- A finite number that is not less than zero lies within the largest exponent. -/
theorem below_of_isFinite {number : Float} (finite : number.isFinite = true)
    (notLess : ¬number < 0) : Below 971 number.toModel.unpack := by
  rw [lt_zero_iff] at notLess
  replace finite : number.toModel.unpack.isFinite = true := finite
  have parts := @unpack_finite number.toModel
  generalize number.toModel.unpack = unpacked at notLess finite parts
  cases unpacked with
  | notANumber => cases finite
  | infinity sign => cases finite
  | zero sign => exact .zero sign
  | finite sign mantissa exponent positive =>
    obtain ⟨digits, bounded⟩ := parts rfl
    cases sign with
    | positive => exact .finite mantissa exponent positive digits bounded
    | negative => exact absurd rfl notLess

/-! ### A thousandth part -/

/-- The divisor uses all its digits: a thousand is itself moved by 43 places. -/
theorem unpack_thousandth (number : Float) :
    (number / 1000).toModel.unpack =
      (Float.Model.pack (UnpackedFloat.div Format.binary64 number.toModel.unpack
        (.finite .positive (1000 <<< 43) (-43) (by decide)))).unpack := rfl

/-- The thousandth part of a number that is not finite is not finite. -/
theorem thousandth_of_not_isFinite {number : Float} (infinite : number.isFinite = false)
    (notLess : ¬number < 0) :
    (number / 1000).isFinite = false ∧ ¬number / 1000 < 0 := by
  rw [lt_zero_iff] at notLess ⊢
  show (number / 1000).toModel.unpack.isFinite = false ∧ _
  rw [unpack_thousandth]
  replace infinite : number.toModel.unpack.isFinite = false := infinite
  generalize number.toModel.unpack = unpacked at notLess infinite
  cases unpacked with
  | notANumber => exact ⟨rfl, nofun⟩
  | infinity sign =>
    cases sign with
    | positive => exact ⟨rfl, nofun⟩
    | negative => exact absurd rfl notLess
  | zero sign => cases infinite
  | finite sign mantissa exponent positive => cases infinite

/-- The thousandth part of a number that is not less than zero is not less than zero either, and
it is a length of time if and only if the number is finite. -/
theorem thousandth_usable {number : Float} (notLess : ¬number < 0) :
    ¬number / 1000 < 0 ∧ (Usable (number / 1000) ↔ number.isFinite = true) := by
  cases finite : number.isFinite with
  | false =>
    obtain ⟨stays, notLessToo⟩ := thousandth_of_not_isFinite finite notLess
    refine ⟨notLessToo, fun usable => ?_, nofun⟩
    rw [usable.1] at stays
    cases stays
  | true =>
    -- the divisor takes eight powers of two off the bound, more than rounding can add
    have full : 2 ^ 52 ≤ 1000 <<< 43 ∧ (1000 <<< 43).log2 ≤ 52 := by decide
    have divided (positive : 0 < 1000 <<< 43) :
        Below 963 (UnpackedFloat.div Format.binary64 number.toModel.unpack
          (.finite .positive (1000 <<< 43) (-43) positive)) :=
      div_below (below_of_isFinite finite notLess) full.1 full.2
        (show -1073 ≤ (971 : Int) - -43 - 51 by decide)
    have below : Below 963 (number / 1000).toModel.unpack :=
      unpack_pack_below (divided (by decide)) (by decide) (by decide)
    exact ⟨not_lt_zero_of_below below, fun _ => rfl, fun _ => .of_below below⟩

/-! ### The pause of the adapter -/

theorem ofInt_below {count : Nat} (small : count < 2 ^ 53) :
    Below 1 (UnpackedFloat.ofInt Format.binary64 count) := by
  unfold UnpackedFloat.ofInt UnpackedFloat.normalize
  rcases Nat.eq_zero_or_pos count with rfl | positive
  · exact .zero _
  · have above : compare (count : Int) 0 = .gt := Int.compare_eq_gt.mpr (by omega)
    have digits : count.log2 ≤ 52 := log2_le_of_lt small
    rw [above]
    exact round_below positive (by rw [Int.toNat_natCast]; omega) (by decide)

/-- A whole number is converted by way of a product with one, as the power of ten that is zero. -/
theorem ofNat_below {count : Nat} (small : count < 100000) :
    Below 3 (Float.ofNat count).toModel.unpack := by
  have direct : Float.ofNat count = count.toUInt64.toFloat * Float.ofBits 0x3FF0000000000000 := by
    show Float.ofScientific count false 0 = _
    unfold Float.ofScientific
    rw [dif_pos ⟨by omega, by decide⟩]
    rfl
  have converted : Below 1 count.toUInt64.toFloat.toModel.unpack := by
    have word : count.toUInt64.toNat = count := by
      show count % 2 ^ 64 = count
      omega
    have whole : Below 1 (UnpackedFloat.ofUInt64 Format.binary64 count.toUInt64) := by
      unfold UnpackedFloat.ofUInt64 UnpackedFloat.ofNat
      rw [word]
      exact ofInt_below (by omega)
    exact unpack_pack_below whole (by decide) (by decide)
  have one : Below (-52) (Float.ofBits 0x3FF0000000000000).toModel.unpack :=
    .finite (1 <<< 52) (-52) (by decide) (by decide) (by decide)
  rw [direct]
  exact unpack_pack_below (mul_below converted one (by decide)) (by decide) (by decide)

/-- The pause after a delay of a second to a day is a length of time. -/
theorem settle_usable {seconds : Int} (positive : 1 ≤ seconds)
    (short : seconds ≤ Script.longestDelay) : Usable (Float.ofInt seconds + 1.0) := by
  obtain ⟨count, rfl⟩ := Int.eq_ofNat_of_zero_le (by omega : 0 ≤ seconds)
  have day : Script.longestDelay = 86400 := rfl
  have one : Below 3 (1.0 : Float).toModel.unpack :=
    .finite (1 <<< 52) (-52) (by decide) (by decide) (by decide)
  have small : count < 100000 := by omega
  have sum := add_below (ofNat_below small) one (by decide)
  exact .of_below (unpack_pack_below sum (by decide) (by decide))

end KeyFeed.Number
