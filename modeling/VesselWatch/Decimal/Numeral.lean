/-
  Decimal/Numeral.lean --- numbers written as text.

  WHAT THIS FILE FIXES.  Which texts are numbers, and which number each one is.
  An integer is an optional sign and digits.  A decimal is an optional sign and
  either `inf`, `infinity`, `nan` in any letter case, or digits with an optional
  point (at least one digit on one side of it) and an optional exponent; it stands
  for the double nearest to its exact value.
-/
import VesselWatch.Text.LetterCase

set_option autoImplicit false

namespace VesselWatch.Decimal

/-! ## Integers -/

/-- The value of one digit. -/
def digitValue (c : Char) : Nat := c.toNat - '0'.toNat

/-- The value of a run of digits. -/
def digitsValue (cs : List Char) : Nat := cs.foldl (fun n c => 10 * n + digitValue c) 0

/-- A non-empty run of ASCII digits. -/
def allDigits (cs : List Char) : Bool := !cs.isEmpty && cs.all Char.isDigit

/-- Digits with an optional plus sign. -/
def readNat (cs : List Char) : Option Nat :=
  let ds := match cs with
    | '+' :: rest => rest
    | _ => cs
  if allDigits ds then some (digitsValue ds) else none

/-- Digits with an optional sign. -/
def readInt (cs : List Char) : Option Int :=
  match cs with
  | '-' :: ds => if allDigits ds then some (-(digitsValue ds : Int)) else none
  | _ => (readNat cs).map Int.ofNat

/-- An unsigned integer below `bound`. -/
def readBelow (bound : Nat) (cs : List Char) : Option Nat :=
  (readNat cs).filter (· < bound)

/-- How many numbers 64 bits can hold: `2 ^ 64`. -/
def wordCount : Nat := 18446744073709551616

/-- An unsigned integer that fits 64 bits. -/
def readWord (cs : List Char) : Option Nat := readBelow wordCount cs

/-- The least integer of 32 bits: `-2 ^ 31`. -/
def leastInt32 : Int := -2147483648

/-- The greatest integer of 32 bits: `2 ^ 31 - 1`. -/
def greatestInt32 : Int := 2147483647

/-- An integer that fits 32 bits. -/
def readInt32 (cs : List Char) : Option Int :=
  (readInt cs).filter fun n => leastInt32 ≤ n && n ≤ greatestInt32

/-! ## Decimals -/

/-- The double nearest to `n * 10 ^ exponent`. -/
def nearest (n : Nat) (exponent : Int) : Float :=
  if n == 0 then 0
  else
    let size := Int.ofNat (Nat.log2 n) * 30103 / 100000 + exponent
    if size > 400 then 1 / 0
    else if size < -400 then 0
    else Float.ofScientific n (exponent < 0) exponent.natAbs

/-- An optional sign. -/
def readSign : List Char → Bool × List Char
  | '-' :: cs => (true, cs)
  | '+' :: cs => (false, cs)
  | cs => (false, cs)

/-- The exponent part that may follow the digits of a decimal. -/
def readExponent : List Char → Option Int
  | [] => some 0
  | c :: cs =>
    if c == 'e' || c == 'E' then
      let (negative, ds) := readSign cs
      if allDigits ds then
        some (if negative then -(digitsValue ds : Int) else digitsValue ds)
      else none
    else none

/-- An unsigned decimal with digits. -/
def readMagnitude (cs : List Char) : Option Float :=
  let whole := cs.takeWhile Char.isDigit
  let rest := cs.dropWhile Char.isDigit
  let (part, rest) := match rest with
    | '.' :: more => (more.takeWhile Char.isDigit, more.dropWhile Char.isDigit)
    | _ => ([], rest)
  if whole.isEmpty && part.isEmpty then none
  else (readExponent rest).map fun e => nearest (digitsValue (whole ++ part)) (e - part.length)

/-- The double that a text writes. -/
def readFloat (cs : List Char) : Option Float :=
  let (negative, body) := readSign cs
  let word := body.map Text.lowerAsciiChar
  let magnitude :=
    if word == "inf".toList || word == "infinity".toList then some (1 / 0)
    else if word == "nan".toList then some (0 / 0)
    else readMagnitude body
  magnitude.map fun x => if negative then -x else x

end VesselWatch.Decimal
