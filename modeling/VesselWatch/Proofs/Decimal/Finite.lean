/-
  Proofs/Decimal/Finite.lean --- integers of 64 bits as doubles.

  The double nearest to an integer of 64 bits is finite (`isFinite_ofInt`).  What rounding can do
  to an exponent is estimated generously: the greatest exponent of a double is far away.
-/
import Mathlib

set_option autoImplicit false

namespace VesselWatch.Decimal

open Float.Model (UnpackedFloat Format totalExponent)
open Float.Model.UnpackedFloat

/-- Zero, or finite with a mantissa of a double and an exponent of at most `bound`. -/
def Within (bound : Int) : UnpackedFloat → Prop
  | .zero _ => True
  | .finite _ _ e _ => e ≤ bound
  | _ => False

theorem Within.mono {low high : Int} (le : low ≤ high) {f : UnpackedFloat} (within : Within low f) :
    Within high f := by
  cases f with
  | zero => trivial
  | finite => exact Int.le_trans within le
  | infinity | notANumber => exact within

/-! ## Rounding -/

theorem log2_lt_of_lt {m k : Nat} (pos : 0 < k) (small : m < 2 ^ k) : m.log2 < k := by
  by_cases hm : m = 0
  · rw [hm]
    exact pos
  · exact (Nat.log2_lt hm).mpr small

theorem shift_mantissa_le (m : ExtendedMantissa) (k : Nat) : (m >>> k).mantissa ≤ m.mantissa := by
  change (k.repeat ExtendedMantissa.shiftRightOne m).mantissa ≤ m.mantissa
  induction k with
  | zero => exact Nat.le_refl _
  | succ k ih => exact Nat.le_trans (Nat.div_le_self _ 2) ih

theorem roundedMantissa_le (m : ExtendedMantissa) : m.roundedMantissa ≤ m.mantissa + 1 := by
  obtain ⟨mantissa, roundBit, stickyBit⟩ := m
  cases roundBit <;> cases stickyBit <;>
    simp only [ExtendedMantissa.roundedMantissa, ExtendedMantissa.accuracy,
      Accuracy.roundToNearestEven] <;> omega

theorem shiftToTargetExponent_exact (m : Nat) (e : Int) :
    (shiftToTargetExponent Format.binary64 m e .exact).1.mantissa ≤ m ∧
      (shiftToTargetExponent Format.binary64 m e .exact).2 ≤
        max e (max (m.log2 + 1 + e - 53) (-1074)) := by
  refine ⟨shift_mantissa_le _ _, ?_⟩
  have htarget : Format.binary64.targetExponent (totalExponent m e) =
      max (m.log2 + 1 + e - 53) (-1074) := rfl
  simp only [shiftToTargetExponent, shiftToExponent, htarget]
  omega

/-- Rounding a mantissa of at most 120 bits moves the exponent by less than 140. -/
theorem within_roundWithAccuracy (sign : Sign) {m : Nat} (small : m < 2 ^ 120) (e : Int) :
    Within (max e (-1074) + 140) (roundWithAccuracy Format.binary64 sign m e .exact) := by
  obtain ⟨hmantissa, hexponent⟩ := shiftToTargetExponent_exact m e
  have hlog : m.log2 < 120 := log2_lt_of_lt (by decide) small
  generalize hfirst : shiftToTargetExponent Format.binary64 m e .exact = first
    at hmantissa hexponent
  have hrounded : first.1.roundedMantissa < 2 ^ 121 := by
    have := roundedMantissa_le first.1
    omega
  obtain ⟨-, hexponent'⟩ := shiftToTargetExponent_exact first.1.roundedMantissa first.2
  have hlog' : first.1.roundedMantissa.log2 < 121 := log2_lt_of_lt (by decide) hrounded
  unfold roundWithAccuracy
  simp only [hfirst]
  split
  · trivial
  · change _ ≤ _
    omega

/-! ## Packing -/

theorem within_unpack_packComponents {bound : Int} (low : -1074 ≤ bound) (sign : Sign) {k : Nat}
    (small : k < 2047) (high : (k : Int) - 1075 ≤ bound)
    (m : BitVec Format.binary64.mantissaBitsWithoutImplicit) :
    Within bound (unpack Format.binary64
      (packComponents Format.binary64 sign (BitVec.ofNat _ k) m)) := by
  have hbias : Format.binary64.exponentBias = 1023 := rfl
  have hk : (BitVec.ofNat Format.binary64.exponentBits k).toNat = k := by
    rw [BitVec.toNat_ofNat]
    exact Nat.mod_eq_of_lt (Nat.lt_trans small (by decide))
  have hones : BitVec.ofNat Format.binary64.exponentBits k ≠ -1#_ := by
    intro h
    have := congrArg BitVec.toNat h
    rw [hk] at this
    change k = 2047 at this
    omega
  unfold unpack
  simp only [unpackMantissa_packComponents, unpackExponent_packComponents, hbias, hk]
  rw [if_neg hones]
  split
  · next hzero =>
    have hk0 : k = 0 := by
      have := congrArg BitVec.toNat hzero
      rw [hk] at this
      exact this
    split
    · trivial
    · change (k : Int) - ((1023 : Nat) + (52 : Nat)) + 1 ≤ bound
      omega
  · change (k : Int) - ((1023 : Nat) + (52 : Nat)) ≤ bound
    omega

/-- Neither an infinity nor a NaN is packed if the exponent is one of a double. -/
theorem within_unpack_pack {bound : Int} (low : -1074 ≤ bound) (high : bound ≤ 970)
    {f : UnpackedFloat} (within : Within bound f) :
    Within bound (unpack Format.binary64 (pack Format.binary64 f)) := by
  cases f with
  | infinity | notANumber => exact within.elim
  | zero s => cases s <;> trivial
  | finite s m e hm =>
    change e ≤ bound at within
    have hbias : Format.binary64.exponentBias = 1023 := rfl
    unfold pack
    simp only [hbias]
    rw [if_neg (by omega)]
    split
    · exact within_unpack_packComponents low s (by omega) (by omega) _
    · exact within_unpack_packComponents low s (k := 0) (by omega) (by omega) _

/-! ## Integers -/

theorem unpack_mantissa_lt {b : BitVec Format.binary64.numBits} {s : Sign} {m : Nat} {e : Int}
    {hm : 0 < m} (eq : unpack Format.binary64 b = .finite s m e hm) : m < 2 ^ 53 := by
  unfold unpack at eq
  simp only at eq
  split at eq
  · split at eq <;> cases eq
  · split at eq
    · split at eq
      · cases eq
      · cases eq
        have := (unpackMantissa b).isLt
        omega
    · cases eq
      exact (1#1 ++ unpackMantissa b).isLt

/-- The double nearest to a word has an exponent of at most 200. -/
theorem within_word (n : UInt64) : Within 200 n.toFloat.toModel.unpack := by
  change Within 200 (unpack Format.binary64 (pack Format.binary64
    (normalize Format.binary64 (n.toNat : Int) 0 .positive)))
  refine within_unpack_pack (by decide) (by decide) ?_
  unfold UnpackedFloat.normalize
  split
  · next hlt =>
    have := Int.compare_eq_lt.mp hlt
    omega
  · trivial
  · have htarget : Format.binary64.targetExponent (totalExponent n.toNat 0) =
      max ((n.toNat.log2 : Int) + 1 + 0 - 53) (-1074) := rfl
    have hlog : n.toNat.log2 < 64 := log2_lt_of_lt (by decide) n.toNat_lt
    unfold UnpackedFloat.round decreaseExponent
    simp only [htarget, Int.toNat_natCast]
    refine (within_roundWithAccuracy _ ?_ _).mono (by omega)
    rw [Nat.shiftLeft_eq]
    calc n.toNat * 2 ^ (0 - max ((n.toNat.log2 : Int) + 1 + 0 - 53) (-1074)).toNat
        ≤ n.toNat * 2 ^ 53 := Nat.mul_le_mul_left _ (Nat.pow_le_pow_right (by decide) (by omega))
      _ < 2 ^ 64 * 2 ^ 53 := Nat.mul_lt_mul_of_pos_right n.toNat_lt (by decide)
      _ ≤ 2 ^ 120 := by decide

theorem mul_finite (s t : Sign) {m n : Nat} (d e : Int) {hm : 0 < m} {hn : 0 < n} :
    mul Format.binary64 (.finite s m d hm) (.finite t n e hn) =
      roundWithAccuracy Format.binary64 (s * t) (m * n) (d + e) .exact := rfl

theorem within_mul_finite {bound : Int} {b : BitVec Format.binary64.numBits}
    (within : Within bound (unpack Format.binary64 b)) {m : Nat} (small : m < 2 ^ 67) {e : Int}
    {hm : 0 < m} : Within (max (bound + e) (-1074) + 140)
      (mul Format.binary64 (unpack Format.binary64 b) (.finite .positive m e hm)) := by
  cases h : unpack Format.binary64 b with
  | infinity | notANumber =>
    rw [h] at within
    exact within.elim
  | zero => trivial
  | finite s m' e' hm' =>
    rw [h] at within
    have hm53 := unpack_mantissa_lt h
    have hproduct : m' * m < 2 ^ 120 := by
      calc m' * m ≤ m' * 2 ^ 67 := Nat.mul_le_mul_left _ (Nat.le_of_lt small)
        _ < 2 ^ 53 * 2 ^ 67 := Nat.mul_lt_mul_of_pos_right hm53 (by decide)
        _ = 2 ^ 120 := by decide
    refine (within_roundWithAccuracy (s * .positive) hproduct (e' + e)).mono ?_
    change e' ≤ bound at within
    omega

theorem unpack_one : (Float.ofBits 0x3FF0000000000000).toModel.unpack =
    .finite .positive (2 ^ 52) (-52) (by decide) := rfl

theorem within_ofNat {n : Nat} (small : n < 2 ^ 64) :
    Within 400 (Float.ofNat n).toModel.unpack := by
  change Within 400 (Float.ofScientific n false 0).toModel.unpack
  unfold Float.ofScientific
  split
  · have hsize : 0 < Float.exactlyRepresentablePowersOfTen.size := by decide
    have hone : Float.exactlyRepresentablePowersOfTen[0] = Float.ofBits 0x3FF0000000000000 := rfl
    simp only [Bool.false_eq_true, if_false, hone]
    change Within 400 (unpack Format.binary64 (pack Format.binary64
      (mul Format.binary64 n.toUInt64.toFloat.toModel.unpack
        (Float.ofBits 0x3FF0000000000000).toModel.unpack)))
    rw [unpack_one]
    refine within_unpack_pack (by decide) (by decide) ?_
    exact (within_mul_finite (within_word n.toUInt64) (by decide)).mono (by decide)
  · change Within 400 (unpack Format.binary64 (pack Format.binary64
      (ofScientific Format.binary64 n 0)))
    refine within_unpack_pack (by decide) (by decide) ?_
    unfold ofScientific
    split
    · trivial
    · have hlarge : ¬ (0 : Int) > 2 ^ Format.binary64.exponentBits := by decide
      have hsmall : ¬ (0 : Int) < -((2 ^ Format.binary64.exponentBits : Int) + n.log2) := by
        have : (0 : Int) ≤ 2 ^ Format.binary64.exponentBits := by decide
        omega
      rw [if_neg hlarge, if_neg hsmall, if_pos (Int.le_refl 0)]
      rw [mul_finite, Nat.shiftLeft_eq]
      refine Within.mono ?_ (within_roundWithAccuracy _ ?_ _)
      · decide
      · change n * 2 ^ 53 * 1 < 2 ^ 120
        omega

theorem Within.isFinite {bound : Int} {x : Float} (within : Within bound x.toModel.unpack) :
    x.isFinite = true := by
  change x.toModel.unpack.isFinite = true
  cases h : x.toModel.unpack with
  | zero | finite => rfl
  | infinity | notANumber =>
    rw [h] at within
    exact within.elim

/-- The double nearest to an integer of 64 bits is finite. -/
theorem isFinite_ofInt {n : Int} (small : n.natAbs < 2 ^ 64) : (Float.ofInt n).isFinite = true := by
  cases n with
  | ofNat n => exact (within_ofNat small).isFinite
  | negSucc n =>
    have within := within_ofNat (n := n.succ) small
    change (Float.neg (Float.ofNat n.succ)).isFinite = true
    suffices within : Within 400 (Float.neg (Float.ofNat n.succ)).toModel.unpack from
      within.isFinite
    change Within 400 (unpack Format.binary64 (pack Format.binary64
      (Float.ofNat n.succ).toModel.unpack.neg))
    refine within_unpack_pack (by decide) (by decide) ?_
    cases h : (Float.ofNat n.succ).toModel.unpack with
    | zero => trivial
    | finite =>
      rw [h] at within
      exact within
    | infinity | notANumber =>
      rw [h] at within
      exact within.elim

end VesselWatch.Decimal
