/-
  Decimal/Plain.lean --- a double written without an exponent.

  WHAT THIS FILE FIXES.  `plain` writes the fewest digits that read back, always
  positionally and without a needless `.0`, a tie going up; `fixed` writes a given
  number of decimals of the exact value, a half going to the even neighbour.
  Coordinates in messages and the text of a built-in field are plain.
-/
import VesselWatch.Decimal.Shortest

set_option autoImplicit false

namespace VesselWatch.Decimal

/-- `n` zeros. -/
def zeros (n : Nat) : List Char := List.replicate n '0'

/-- The digits around their decimal point. -/
def Digits.positional (d : Digits) : List Char :=
  if d.point ≤ 0 then '0' :: '.' :: (zeros (-d.point).toNat ++ d.digits)
  else
    let n := d.point.toNat
    if d.digits.length ≤ n then d.digits ++ zeros (n - d.digits.length)
    else d.digits.take n ++ '.' :: d.digits.drop n

/-- A sign in front of a negative number. -/
def signed (negative : Bool) (cs : List Char) : List Char := if negative then '-' :: cs else cs

/-- The fewest digits that read back, without an exponent: `12`, `0.1`, `-0`, `NaN`, `inf`. -/
def plain (x : Float) : String :=
  match Binary64.ofFloat x with
  | .nan => "NaN"
  | .infinite negative => String.ofList (signed negative "inf".toList)
  | .finite negative 0 _ => String.ofList (signed negative ['0'])
  | .finite negative mantissa exponent =>
    String.ofList (signed negative (shortest .up mantissa exponent).positional)

/-- Division to the nearest integer, a half going to the even one. -/
def roundDiv (num den : Nat) : Nat :=
  let q := num / den
  let r := num % den
  if 2 * r < den then q else if den < 2 * r then q + 1 else q + q % 2

/-- The exact value with `places` decimals. -/
def fixed (places : Nat) (x : Float) : String :=
  match Binary64.ofFloat x with
  | .nan => "NaN"
  | .infinite negative => String.ofList (signed negative "inf".toList)
  | .finite negative mantissa exponent =>
    let numerator := mantissa * Nat.pow 2 exponent.toNat * Nat.pow 10 places
    let n := roundDiv numerator (Nat.pow 2 (-exponent).toNat)
    let ds := natDigits n
    let ds := zeros (places + 1 - ds.length) ++ ds
    let whole := ds.length - places
    String.ofList (signed negative (ds.take whole ++ '.' :: ds.drop whole))

end VesselWatch.Decimal
