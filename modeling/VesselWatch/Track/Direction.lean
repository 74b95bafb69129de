/-
  Track/Direction.lean --- sectors of the compass.

  WHAT THIS FILE FIXES.  The compass has six sectors of 60 degrees.  A course is
  first brought into one turn, so courses below zero and beyond a turn fall into
  the sector they point to; a course that is not finite falls into the first.
-/
import VesselWatch.Decimal.Binary64

set_option autoImplicit false

namespace VesselWatch.Track

open Decimal

/-- How many sectors there are. -/
def sectorCount : Nat := 6

/-- The remainder of `x` over the integer `n`, exact and with the sign of `x`. -/
def remainder (x : Float) (n : Nat) : Float :=
  match Binary64.ofFloat x with
  | .finite negative mantissa exponent =>
    let down := (-exponent).toNat
    let r := mantissa * Nat.pow 2 exponent.toNat % (n * Nat.pow 2 down)
    let y := (Float.ofNat r).scaleB (-(down : Int))
    if negative then -y else y
  | _ => 0 / 0

/-- The sector of a course in degrees. -/
def sector (course : Float) : Nat :=
  if course.isFinite then
    let turned := remainder (remainder course 360 + 360) 360
    min (turned / 60).floor.toUInt64.toNat (sectorCount - 1)
  else 0

end VesselWatch.Track
