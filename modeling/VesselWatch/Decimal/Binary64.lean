/-
  Decimal/Binary64.lean --- the number a double stands for.

  WHAT THIS FILE FIXES.  A finite double is a sign and a product
  `mantissa * 2 ^ exponent` of integers; this is the only view of floating point
  numbers that the decimal printers use, so they compute in `Nat` alone.
-/

set_option autoImplicit false

namespace VesselWatch.Decimal

/-- What the 64 bits of a double say. -/
inductive Binary64 where
  /-- not a number -/
  | nan
  | infinite (negative : Bool)
  /-- the number `± mantissa * 2 ^ exponent` -/
  | finite (negative : Bool) (mantissa : Nat) (exponent : Int)
  deriving DecidableEq, Repr, Inhabited

/-- The bit in front of the fraction, which is not written: `2 ^ 52`. -/
def hiddenBit : Nat := 4503599627370496

/-- Splits 64 bits into sign, exponent field and fraction, and puts the hidden bit back. -/
def Binary64.ofBits (bits : Nat) : Binary64 :=
  let negative := bits.testBit 63
  let field := bits / hiddenBit % 2048
  let fraction := bits % hiddenBit
  if field == 2047 then
    if fraction == 0 then .infinite negative else .nan
  else if field == 0 then .finite negative fraction (-1074)
  else .finite negative (fraction + hiddenBit) (Int.ofNat field - 1075)

/-- The number a double stands for. -/
def Binary64.ofFloat (x : Float) : Binary64 := Binary64.ofBits x.toBits.toNat

/-- The double is neither infinite nor NaN. -/
def isFinite (x : Float) : Bool := x.isFinite

end VesselWatch.Decimal
