/-
  Proofs/Decimal/Order.lean --- comparing doubles.

  Doubles are compared as the numbers they are: the two zeros are equal, and a NaN equals
  nothing, itself included.  Every other double equals itself (`beq_self_of_not_isNaN`),
  and doubles that are equal differ in the sign of a zero at most (`near_of_beq`), which
  no comparison sees (`Near.lt_right` and the others), though their texts show it.
-/
set_option autoImplicit false

namespace VesselWatch.Decimal

open Float.Model (UnpackedFloat)

theorem compare_self {x : UnpackedFloat} (number : x.isNaN = false) :
    x.compare x = some .eq := by
  cases x with
  | infinity s => cases s <;> rfl
  | notANumber => cases number
  | zero s => rfl
  | finite s m e hm =>
    have hself : (compare e e).then (compare m m) = .eq := by simp
    cases s with
    | negative => exact congrArg (fun o : Ordering => some o.swap) hself
    | positive => exact congrArg some hself

/-- One and the same, or both zero. -/
def NearParts (x y : UnpackedFloat) : Prop := x = y ∨ ∃ s t, x = .zero s ∧ y = .zero t

theorem nearParts_of_compare {x y : UnpackedFloat} (equal : x.compare y = some .eq) :
    NearParts x y := by
  cases x with
  | notANumber => cases y <;> cases equal
  | infinity s =>
    left
    cases y with
    | infinity t => cases s <;> cases t <;> first | rfl | cases equal
    | notANumber => cases s <;> cases equal
    | zero t => cases s <;> cases equal
    | finite t m e hm => cases s <;> cases equal
  | zero s =>
    cases y with
    | zero t => exact Or.inr ⟨s, t, rfl, rfl⟩
    | infinity t => cases t <;> cases equal
    | notANumber => cases equal
    | finite t m e hm => cases t <;> cases equal
  | finite s m e hm =>
    left
    cases y with
    | infinity t => cases s <;> cases t <;> cases equal
    | notANumber => cases s <;> cases equal
    | zero t => cases s <;> cases equal
    | finite t m' e' hm' =>
      have hparts : s = t ∧ (compare e e').then (compare m m') = .eq := by
        cases s <;> cases t
        · exact ⟨rfl, Ordering.swap_inj.mp (Option.some.inj equal)⟩
        · cases equal
        · cases equal
        · exact ⟨rfl, Option.some.inj equal⟩
      obtain ⟨rfl, hthen⟩ := hparts
      obtain ⟨he, hm⟩ := Ordering.then_eq_eq.mp hthen
      obtain rfl : e = e' := by simpa using he
      obtain rfl : m = m' := by simpa using hm
      rfl

/-- No comparison sees the sign of a zero. -/
theorem NearParts.compare {x y : UnpackedFloat} (near : NearParts x y) (d : UnpackedFloat) :
    x.compare d = y.compare d ∧ d.compare x = d.compare y := by
  rcases near with rfl | ⟨s, t, rfl, rfl⟩
  · exact ⟨rfl, rfl⟩
  · cases d with
    | finite r m e hm => cases r <;> exact ⟨rfl, rfl⟩
    | infinity r => cases r <;> exact ⟨rfl, rfl⟩
    | notANumber => exact ⟨rfl, rfl⟩
    | zero r => exact ⟨rfl, rfl⟩

/-! ## The comparisons of the language -/

variable {x y : Float}

theorem beq_iff_compare :
    (x == y) = true ↔ x.toModel.unpack.compare y.toModel.unpack = some .eq := by
  change (x.toModel.unpack.compare y.toModel.unpack == some .eq) = true ↔ _
  rw [beq_iff_eq]

theorem lt_iff_compare : x < y ↔ x.toModel.unpack.compare y.toModel.unpack = some .lt := by
  have hdecide : x < y ↔ (x.toModel.unpack.compare y.toModel.unpack == some .lt) = true :=
    decide_eq_true_iff
  rw [hdecide, beq_iff_eq]

theorem le_iff_compare :
    x ≤ y ↔ (x.toModel.unpack.compare y.toModel.unpack).any (·.isLE) = true :=
  decide_eq_true_iff

/-- A number equals itself. -/
theorem beq_self_of_not_isNaN (number : x.isNaN = false) : (x == x) = true :=
  beq_iff_compare.mpr (compare_self number)

/-- The doubles differ in the sign of a zero at most. -/
def Near (x y : Float) : Prop := NearParts x.toModel.unpack y.toModel.unpack

theorem Near.refl (x : Float) : Near x x := Or.inl rfl

theorem near_of_beq (equal : (x == y) = true) : Near x y :=
  nearParts_of_compare (beq_iff_compare.mp equal)

theorem Near.lt_right (near : Near x y) (d : Float) : d < x ↔ d < y := by
  rw [lt_iff_compare, lt_iff_compare, (NearParts.compare near _).2]

theorem Near.le_right (near : Near x y) (d : Float) : d ≤ x ↔ d ≤ y := by
  rw [le_iff_compare, le_iff_compare, (NearParts.compare near _).2]

theorem Near.le_left (near : Near x y) (d : Float) : x ≤ d ↔ y ≤ d := by
  rw [le_iff_compare, le_iff_compare, (NearParts.compare near _).1]

end VesselWatch.Decimal
