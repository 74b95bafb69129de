/-
  Proofs/Decimal/Difference.lean --- how far two doubles are apart.

  Two doubles have a difference, except where one of them is no number or both are the same
  infinity (`isNaN_sub_iff`).  What they are apart is then less than a bound, greater than it, or
  equal to it, and only one of these; where there is no difference it is none of them
  (`not_lt_and_not_gt_iff`).
-/
import Mathlib
import VesselWatch.Proofs.Decimal.Finite
import VesselWatch.Proofs.Decimal.Line

set_option autoImplicit false

namespace VesselWatch.Decimal

open Float.Model (UnpackedFloat Format)
open Float.Model.UnpackedFloat

/-! ## Rounding makes no NaN -/

theorem isNaN_roundWithAccuracy (sign : Sign) (m : Nat) (e : Int) (accuracy : Accuracy) :
    (roundWithAccuracy Format.binary64 sign m e accuracy).isNaN = false := by
  unfold roundWithAccuracy
  dsimp only
  split <;> rfl

theorem isNaN_normalize (m e : Int) (zeroSign : Sign) :
    (UnpackedFloat.normalize Format.binary64 m e zeroSign).isNaN = false := by
  unfold UnpackedFloat.normalize
  split
  · exact isNaN_roundWithAccuracy ..
  · rfl
  · exact isNaN_roundWithAccuracy ..

theorem isNaN_unpack_packComponents (sign : Sign) {k : Nat} (small : k < 2047)
    (m : BitVec Format.binary64.mantissaBitsWithoutImplicit) :
    (unpack Format.binary64
      (packComponents Format.binary64 sign (BitVec.ofNat _ k) m)).isNaN = false := by
  have low : -1074 ≤ (971 : Int) := by decide
  have within := within_unpack_packComponents low sign small (by omega) m
  cases hparts : unpack Format.binary64
      (packComponents Format.binary64 sign (BitVec.ofNat _ k) m) with
  | notANumber =>
    rw [hparts] at within
    exact within.elim
  | infinity | zero | finite => rfl

theorem isNaN_unpack_pack (f : UnpackedFloat) :
    (unpack Format.binary64 (pack Format.binary64 f)).isNaN = f.isNaN := by
  cases f with
  | notANumber => rfl
  | infinity s => cases s <;> rfl
  | zero s => cases s <;> rfl
  | finite s m e hm =>
    have hbias : Format.binary64.exponentBias = 1023 := rfl
    unfold pack
    simp only [hbias]
    split
    · cases s <;> rfl
    · next hfits =>
      change ¬ 2048 ≤ _ at hfits
      split
      · exact isNaN_unpack_packComponents s (by omega) _
      · exact isNaN_unpack_packComponents s (k := 0) (by decide) _

/-! ## Differences -/

theorem isNaN_sub_parts_iff {x y : UnpackedFloat} :
    (x.sub Format.binary64 y).isNaN = true ↔
      x.isNaN = true ∨ y.isNaN = true ∨ x.isInf = true ∧ x.compare y = some .eq := by
  -- Of two numbers of which the first is finite the difference is one, too.
  have hfinite {x y : UnpackedFloat} (hx : x.isNaN = false) (hinf : x.isInf = false)
      (hy : y.isNaN = false) (h : (x.sub Format.binary64 y).isNaN = false) :
      (x.sub Format.binary64 y).isNaN = true ↔
        x.isNaN = true ∨ y.isNaN = true ∨ x.isInf = true ∧ x.compare y = some .eq := by
    simp only [h, hx, hy, hinf, Bool.false_eq_true, false_and, or_self]
  cases x with
  | notANumber => exact iff_of_true rfl (.inl rfl)
  | infinity s =>
    cases y with
    | notANumber => exact iff_of_true rfl (.inr (.inl rfl))
    | infinity t => cases s <;> cases t <;> decide
    | zero t =>
      refine iff_of_false Bool.false_ne_true ?_
      rintro (h | h | ⟨-, h⟩) <;> cases s <;> cases h
    | finite t m e hm =>
      refine iff_of_false Bool.false_ne_true ?_
      rintro (h | h | ⟨-, h⟩) <;> cases s <;> cases h
  | zero s =>
    cases y with
    | notANumber => exact iff_of_true rfl (.inr (.inl rfl))
    | infinity t => exact hfinite rfl rfl rfl rfl
    | zero t => exact hfinite rfl rfl rfl (by cases s <;> cases t <;> rfl)
    | finite t m e hm => exact hfinite rfl rfl rfl rfl
  | finite s m e hm =>
    cases y with
    | notANumber => exact iff_of_true rfl (.inr (.inl rfl))
    | infinity t => exact hfinite rfl rfl rfl rfl
    | zero t => exact hfinite rfl rfl rfl rfl
    | finite t m' e' hm' => exact hfinite rfl rfl rfl (isNaN_normalize ..)

variable {x y : Float}

theorem isNaN_sub_iff : (x - y).isNaN = true ↔
    x.isNaN = true ∨ y.isNaN = true ∨ x.isInf = true ∧ (x == y) = true := by
  change (unpack Format.binary64 (pack Format.binary64 _)).isNaN = true ↔ _
  rw [isNaN_unpack_pack, beq_iff_compare]
  exact isNaN_sub_parts_iff

theorem isNaN_abs (x : Float) : x.abs.isNaN = x.isNaN := by
  change (unpack Format.binary64 (pack Format.binary64 x.toModel.unpack.abs)).isNaN =
    x.toModel.unpack.isNaN
  rw [isNaN_unpack_pack]
  cases x.toModel.unpack <;> rfl

/-! ## Bounds -/

theorem beq_iff_places : (x == y) = true ↔ x.isNaN = false ∧ y.isNaN = false ∧
    comparePlaces x.toModel.unpack y.toModel.unpack = .eq := by
  rw [beq_iff_compare, compare_eq_some_iff]
  rfl

theorem gt_iff_places : x > y ↔ x.isNaN = false ∧ y.isNaN = false ∧
    comparePlaces x.toModel.unpack y.toModel.unpack = .gt := by
  rw [gt_iff_lt, lt_iff_places, Std.OrientedCmp.gt_iff_lt]
  exact and_left_comm

theorem not_lt_of_gt (greater : x > y) : ¬ x < y := by
  intro less
  have hgt := (gt_iff_places.mp greater).2.2
  rw [(lt_iff_places.mp less).2.2] at hgt
  cases hgt

/-- What is neither less nor greater than a number is equal to it or no number. -/
theorem not_lt_and_not_gt_iff (number : y.isNaN = false) :
    (¬ x < y ∧ ¬ x > y) ↔ x.isNaN = true ∨ (x == y) = true := by
  rw [lt_iff_places, gt_iff_places, beq_iff_places]
  cases x.isNaN with
  | true => simp only [Bool.true_eq_false, false_and, not_false_eq_true, and_self, true_or]
  | false =>
    simp only [number, true_and, Bool.false_eq_true, false_or]
    cases comparePlaces x.toModel.unpack y.toModel.unpack <;> decide

end VesselWatch.Decimal
