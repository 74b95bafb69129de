/-
  Proofs/Decimal/SignOfZero.lean --- computing with doubles that are equal.

  Doubles that are equal are one and the same or are both zero, and then their signs may
  differ.  Sums, differences and products of such doubles differ in the sign of a zero at
  most, and so do quotients by one divisor (`Near.add` and the others).  A quotient by a
  zero does see its sign; a difference of doubles that are not equal does not
  (`sub_eq_of_apart`).
-/
import VesselWatch.Proofs.Decimal.Order

set_option autoImplicit false

namespace VesselWatch.Decimal

open Float.Model (UnpackedFloat Format)

theorem NearParts.trans {x y z : UnpackedFloat} (hxy : NearParts x y) (hyz : NearParts y z) :
    NearParts x z := by
  rcases hxy with rfl | ⟨s, t, rfl, rfl⟩
  · exact hyz
  · rcases hyz with rfl | ⟨u, v, -, rfl⟩
    · exact Or.inr ⟨s, t, rfl, rfl⟩
    · exact Or.inr ⟨s, v, rfl, rfl⟩

/-- An operation that hardly sees the sign of a zero on either side hardly sees both. -/
theorem NearParts.map₂ {op : UnpackedFloat → UnpackedFloat → UnpackedFloat}
    (left : ∀ s t y, NearParts (op (.zero s) y) (op (.zero t) y))
    (right : ∀ s t x, NearParts (op x (.zero s)) (op x (.zero t)))
    {x x' y y' : UnpackedFloat} (hx : NearParts x x') (hy : NearParts y y') :
    NearParts (op x y) (op x' y') := by
  have hfirst : NearParts (op x y) (op x' y) := by
    rcases hx with rfl | ⟨s, t, rfl, rfl⟩
    · exact Or.inl rfl
    · exact left s t y
  have hsecond : NearParts (op x' y) (op x' y') := by
    rcases hy with rfl | ⟨s, t, rfl, rfl⟩
    · exact Or.inl rfl
    · exact right s t x'
  exact hfirst.trans hsecond

section Operations

variable {x x' y y' : UnpackedFloat} (hx : NearParts x x') (hy : NearParts y y') (f : Format)

include hx hy

theorem NearParts.add : NearParts (x.add f y) (x'.add f y') := by
  refine NearParts.map₂ ?_ ?_ hx hy
  · intro s t y
    cases y with
    | zero u => cases s <;> cases t <;> cases u <;> exact Or.inr ⟨_, _, rfl, rfl⟩
    | _ => exact Or.inl rfl
  · intro s t x
    cases x with
    | zero u => cases s <;> cases t <;> cases u <;> exact Or.inr ⟨_, _, rfl, rfl⟩
    | _ => exact Or.inl rfl

theorem NearParts.sub : NearParts (x.sub f y) (x'.sub f y') := by
  refine NearParts.map₂ ?_ ?_ hx hy
  · intro s t y
    cases y with
    | zero u => cases s <;> cases t <;> cases u <;> exact Or.inr ⟨_, _, rfl, rfl⟩
    | _ => exact Or.inl rfl
  · intro s t x
    cases x with
    | zero u => cases s <;> cases t <;> cases u <;> exact Or.inr ⟨_, _, rfl, rfl⟩
    | _ => exact Or.inl rfl

theorem NearParts.mul : NearParts (x.mul f y) (x'.mul f y') := by
  refine NearParts.map₂ ?_ ?_ hx hy
  · intro s t y
    cases y with
    | notANumber => exact Or.inl rfl
    | infinity u => exact Or.inl rfl
    | zero u => exact Or.inr ⟨s * u, t * u, rfl, rfl⟩
    | finite u m e hm => exact Or.inr ⟨s * u, t * u, rfl, rfl⟩
  · intro s t x
    cases x with
    | notANumber => exact Or.inl rfl
    | infinity u => exact Or.inl rfl
    | zero u => exact Or.inr ⟨u * s, u * t, rfl, rfl⟩
    | finite u m e hm => exact Or.inr ⟨u * s, u * t, rfl, rfl⟩

end Operations

theorem NearParts.div {x x' : UnpackedFloat} (hx : NearParts x x') (y : UnpackedFloat)
    (f : Format) : NearParts (x.div f y) (x'.div f y) := by
  rcases hx with rfl | ⟨s, t, rfl, rfl⟩
  · exact Or.inl rfl
  · cases y with
    | notANumber => exact Or.inl rfl
    | infinity u => exact Or.inr ⟨s / u, t / u, rfl, rfl⟩
    | zero u => exact Or.inl rfl
    | finite u m e hm => exact Or.inr ⟨s / u, t / u, rfl, rfl⟩

/-- Rounding to a double keeps zeros what they are. -/
theorem NearParts.pack {x y : UnpackedFloat} (near : NearParts x y) :
    NearParts (Float.Model.pack x).unpack (Float.Model.pack y).unpack := by
  rcases near with rfl | ⟨s, t, rfl, rfl⟩
  · exact Or.inl rfl
  · have hzero : ∀ s : UnpackedFloat.Sign,
        (Float.Model.pack (.zero s)).unpack = .zero s := by
      intro s
      cases s <;> rfl
    exact Or.inr ⟨s, t, hzero s, hzero t⟩

/-! ## On doubles -/

variable {x x' y y' d : Float}

theorem Near.add (hx : Near x x') (hy : Near y y') : Near (x + y) (x' + y') :=
  (NearParts.add hx hy Format.binary64).pack

theorem Near.sub (hx : Near x x') (hy : Near y y') : Near (x - y) (x' - y') :=
  (NearParts.sub hx hy Format.binary64).pack

theorem Near.mul (hx : Near x x') (hy : Near y y') : Near (x * y) (x' * y') :=
  (NearParts.mul hx hy Format.binary64).pack

theorem Near.div (hx : Near x x') (d : Float) : Near (x / d) (x' / d) :=
  (NearParts.div hx d.toModel.unpack Format.binary64).pack

/-- The difference of two doubles that some third one tells apart does not see the sign of a
zero, as only one of them can be a zero. -/
theorem sub_eq_of_apart (hx : Near x x') (hy : Near y y') (apart : ¬(d < x ↔ d < y)) :
    x - y = x' - y' := by
  -- Two zeros lie on the same side of everything.
  have hnotBoth : ∀ s t, x.toModel.unpack = .zero s → y.toModel.unpack ≠ .zero t := by
    intro s t hs ht
    have near : Near x y := Or.inr ⟨s, t, hs, ht⟩
    exact apart (near.lt_right d)
  have hparts : UnpackedFloat.sub Format.binary64 x.toModel.unpack y.toModel.unpack =
      UnpackedFloat.sub Format.binary64 x'.toModel.unpack y'.toModel.unpack := by
    rcases hx with hx | ⟨s, t, hs, ht⟩
    · rcases hy with hy | ⟨s, t, hs, ht⟩
      · rw [hx, hy]
      · rw [← hx, hs, ht]
        cases hparts : x.toModel.unpack with
        | zero u => exact absurd hs (hnotBoth u s hparts)
        | _ => rfl
    · rcases hy with hy | ⟨u, v, hu, hv⟩
      · rw [← hy, hs, ht]
        cases hparts : y.toModel.unpack with
        | zero u => exact absurd hparts (hnotBoth s u hs)
        | _ => rfl
      · exact absurd hu (hnotBoth s u hs)
  exact congrArg (fun z => Float.ofModel (Float.Model.pack z)) hparts

end VesselWatch.Decimal
