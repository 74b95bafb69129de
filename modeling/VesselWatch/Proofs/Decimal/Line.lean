/-
  Proofs/Decimal/Line.lean --- doubles that are numbers stand on a line.

  All doubles but NaN are ordered, the two zeros in one place and each infinity at its end.  Numbers
  compare by the side they are on, then by their exponents, then by their mantissas, on the left of
  zero backwards (`compare_eq_comparePlaces`).  Comparisons of this shape are transitive, so `<` and
  `≤` are, and of two numbers one is less or it is not greater.
-/
import VesselWatch.Proofs.Decimal.Order

set_option autoImplicit false

namespace VesselWatch.Decimal

open Std
open Float.Model (UnpackedFloat)

/-! ## Places on the line -/

/-- On which side of zero a double is; the infinities are beyond all others. -/
def side : UnpackedFloat → Int
  | .infinity .negative => -2
  | .finite .negative .. => -1
  | .zero _ => 0
  | .notANumber => 0
  | .finite .positive .. => 1
  | .infinity .positive => 2

/-- The exponent, counted backwards on the left of zero. -/
def exponentPlace : UnpackedFloat → Int
  | .finite .negative _ e _ => -e
  | .finite .positive _ e _ => e
  | _ => 0

/-- The mantissa, counted backwards on the left of zero. -/
def mantissaPlace : UnpackedFloat → Int
  | .finite .negative m _ _ => -m
  | .finite .positive m _ _ => m
  | _ => 0

/-- Compares the places of two doubles. -/
def comparePlaces : UnpackedFloat → UnpackedFloat → Ordering :=
  compareLex (compareOn side) (compareLex (compareOn exponentPlace) (compareOn mantissaPlace))

instance : TransCmp comparePlaces :=
  inferInstanceAs (TransCmp (compareLex (compareOn side)
    (compareLex (compareOn exponentPlace) (compareOn mantissaPlace))))

theorem compare_natCast (m n : Nat) : compare (m : Int) (n : Int) = compare m n := by
  rcases Nat.lt_trichotomy m n with h | rfl | h
  · rw [Nat.compare_eq_lt.mpr h, Int.compare_eq_lt]
    omega
  · rw [Nat.compare_eq_eq.mpr rfl, Int.compare_eq_eq]
  · rw [Nat.compare_eq_gt.mpr h, Int.compare_eq_gt]
    omega

theorem compare_neg (a b : Int) : compare (-a) (-b) = (compare a b).swap := by
  rw [Int.compare_swap]
  rcases Int.lt_trichotomy a b with h | rfl | h
  · rw [Int.compare_eq_gt.mpr h, Int.compare_eq_gt]
    omega
  · rw [Int.compare_eq_eq.mpr rfl, Int.compare_eq_eq.mpr rfl]
  · rw [Int.compare_eq_lt.mpr h, Int.compare_eq_lt]
    omega

/-- Numbers compare by their places. -/
theorem compare_eq_comparePlaces {x y : UnpackedFloat} (hx : x.isNaN = false)
    (hy : y.isNaN = false) : x.compare y = some (comparePlaces x y) := by
  cases x with
  | notANumber => cases hx
  | infinity s =>
    cases y with
    | notANumber => cases hy
    | infinity t => cases s <;> cases t <;> rfl
    | zero t => cases s <;> rfl
    | finite t m e hm => cases s <;> cases t <;> rfl
  | zero s =>
    cases y with
    | notANumber => cases hy
    | infinity t => cases t <;> rfl
    | zero t => rfl
    | finite t m e hm => cases t <;> rfl
  | finite s m e hm =>
    cases y with
    | notANumber => cases hy
    | infinity t => cases s <;> cases t <;> rfl
    | zero t => cases s <;> rfl
    | finite t m' e' hm' =>
      have hpositive : (compare e e').then (compare m m') =
          (compare e e').then (compare (m : Int) m') := by rw [compare_natCast]
      have hnegative : ((compare e e').then (compare m m')).swap =
          (compare (-e) (-e')).then (compare (-(m : Int)) (-m')) := by
        rw [Ordering.swap_then, compare_neg, compare_neg, compare_natCast]
      cases s <;> cases t
      · exact congrArg some hnegative
      · rfl
      · rfl
      · exact congrArg some hpositive

theorem compare_notANumber (x : UnpackedFloat) : x.compare .notANumber = none := by
  cases x with
  | notANumber => rfl
  | infinity s => cases s <;> rfl
  | zero s => rfl
  | finite s m e hm => cases s <;> rfl

/-- A NaN compares with nothing. -/
theorem not_isNaN_of_compare {x y : UnpackedFloat} {o : Ordering}
    (compared : x.compare y = some o) : x.isNaN = false ∧ y.isNaN = false := by
  constructor
  · cases x with
    | notANumber => cases compared
    | infinity | zero | finite => rfl
  · cases y with
    | notANumber =>
      rw [compare_notANumber] at compared
      cases compared
    | infinity | zero | finite => rfl

theorem compare_eq_some_iff {x y : UnpackedFloat} {o : Ordering} :
    x.compare y = some o ↔ x.isNaN = false ∧ y.isNaN = false ∧ comparePlaces x y = o := by
  constructor
  · intro compared
    obtain ⟨hx, hy⟩ := not_isNaN_of_compare compared
    rw [compare_eq_comparePlaces hx hy] at compared
    exact ⟨hx, hy, Option.some.inj compared⟩
  · rintro ⟨hx, hy, rfl⟩
    exact compare_eq_comparePlaces hx hy

/-! ## The comparisons of the language -/

variable {x y z : Float}

theorem lt_iff_places : x < y ↔ x.isNaN = false ∧ y.isNaN = false ∧
    comparePlaces x.toModel.unpack y.toModel.unpack = .lt := by
  rw [lt_iff_compare, compare_eq_some_iff]
  rfl

theorem le_iff_places : x ≤ y ↔ x.isNaN = false ∧ y.isNaN = false ∧
    (comparePlaces x.toModel.unpack y.toModel.unpack).isLE = true := by
  rw [le_iff_compare, Option.any_eq_true]
  constructor
  · rintro ⟨o, compared, hle⟩
    obtain ⟨hx, hy, rfl⟩ := compare_eq_some_iff.mp compared
    exact ⟨hx, hy, hle⟩
  · rintro ⟨hx, hy, hle⟩
    exact ⟨_, compare_eq_comparePlaces hx hy, hle⟩

theorem not_isNaN_of_lt (less : x < y) : x.isNaN = false ∧ y.isNaN = false :=
  not_isNaN_of_compare (lt_iff_compare.mp less)

protected theorem lt_trans (less : x < y) (less' : y < z) : x < z := by
  obtain ⟨hx, -, hxy⟩ := lt_iff_places.mp less
  obtain ⟨-, hz, hyz⟩ := lt_iff_places.mp less'
  exact lt_iff_places.mpr ⟨hx, hz, TransCmp.lt_trans hxy hyz⟩

protected theorem lt_of_le_of_lt (atMost : x ≤ y) (less : y < z) : x < z := by
  obtain ⟨hx, -, hxy⟩ := le_iff_places.mp atMost
  obtain ⟨-, hz, hyz⟩ := lt_iff_places.mp less
  exact lt_iff_places.mpr ⟨hx, hz, TransCmp.lt_of_isLE_of_lt hxy hyz⟩

/-- What is not greater than a number is at most as great, or no number. -/
theorem le_or_isNaN_of_not_lt (number : x.isNaN = false) (notLess : ¬ x < y) :
    y ≤ x ∨ y.isNaN = true := by
  cases hy : y.isNaN with
  | true => exact Or.inr rfl
  | false =>
    left
    refine le_iff_places.mpr ⟨hy, number, Decidable.byContradiction fun hgreater => ?_⟩
    exact notLess (lt_iff_places.mpr ⟨number, hy, OrientedCmp.lt_of_not_isLE hgreater⟩)

end VesselWatch.Decimal
