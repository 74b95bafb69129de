/-
  Decimal/Shortest.lean --- the fewest digits that read back as the same double.

  WHAT THIS FILE FIXES.  A positive double is nearest to every real number of an
  interval around it.  Of the decimal grids with 1, 2, ... 17 digits the first one
  with a point in that interval gives the digits; of two such points the nearer
  one wins.  Which one wins when both are equally near depends on the format that
  is written.  All comparisons are between natural numbers.
-/
import VesselWatch.Decimal.Binary64

set_option autoImplicit false

namespace VesselWatch.Decimal

/-- The positive number `0.d₁d₂d₃... * 10 ^ point`. -/
structure Digits where
  /-- the digits, most significant first -/
  digits : List Char
  /-- where the decimal point stands, counted from the first digit -/
  point : Int
  deriving DecidableEq, Repr, Inhabited

/-- Decimal digits of a natural number. -/
def natDigits (n : Nat) : List Char := Nat.toDigits 10 n

/-- The number `n * 10 ^ exponent`, without zeros at the end of its digits. -/
def Digits.ofNat (n : Nat) (exponent : Int) : Digits :=
  let ds := natDigits n
  ⟨(ds.reverse.dropWhile (· == '0')).reverse, exponent + ds.length⟩

/-- The least `p` with `num / den < 10 ^ p`, for positive `num` and `den`. -/
def magnitude (num den : Nat) : Int :=
  let guess : Int := (natDigits num).length - (natDigits den).length
  if num * Nat.pow 10 (-guess).toNat < den * Nat.pow 10 guess.toNat then guess else guess + 1

/-- Which of two neighbours wins when both are equally near. -/
inductive Tie where
  | even
  /-- the upper one -/
  | up
  deriving DecidableEq, Repr, Inhabited

/-- The winner of a tie between `c` and `c + 1`. -/
def Tie.winner : Tie → Nat → Nat
  | .even, c => c + c % 2
  | .up, c => c + 1

/-- The numbers that round to one double, all over the same denominator. -/
structure Interval where
  /-- lower end -/
  low : Nat
  /-- the double itself -/
  value : Nat
  /-- upper end -/
  high : Nat
  /-- common denominator -/
  denominator : Nat
  /-- the ends belong to the interval -/
  closed : Bool
  deriving DecidableEq, Repr, Inhabited

/-- The interval of `mantissa * 2 ^ exponent`.  Below a power of two the doubles lie twice as
close, except at the smallest exponent. -/
def Interval.around (mantissa : Nat) (exponent : Int) : Interval :=
  let quarter := exponent - 2
  let up := Nat.pow 2 quarter.toNat
  let below := if mantissa == hiddenBit && exponent > -1074 then 1 else 2
  { low := (4 * mantissa - below) * up
    value := 4 * mantissa * up
    high := (4 * mantissa + 2) * up
    denominator := Nat.pow 2 (-quarter).toNat
    closed := mantissa % 2 == 0 }

/-- The point of the grid of spacing `10 ^ k` that lies in the interval and nearest to its value. -/
def Interval.gridPoint? (i : Interval) (tie : Tie) (k : Int) : Option Nat :=
  let factor := Nat.pow 10 (-k).toNat
  let unit := i.denominator * Nat.pow 10 k.toNat
  let value := i.value * factor
  let inside (c : Nat) : Bool :=
    let x := c * unit
    if i.closed then i.low * factor ≤ x && x ≤ i.high * factor
    else i.low * factor < x && x < i.high * factor
  let c := value / unit
  let down := value - c * unit
  let up := (c + 1) * unit - value
  match inside c, inside (c + 1) with
  | true, true => some (if down < up then c else if up < down then c + 1 else tie.winner c)
  | true, false => some c
  | false, true => some (c + 1)
  | false, false => none

/-- The fewest digits that read back as `mantissa * 2 ^ exponent`, for a positive mantissa. -/
def shortest (tie : Tie) (mantissa : Nat) (exponent : Int) : Digits :=
  let i := Interval.around mantissa exponent
  let top := magnitude i.value i.denominator
  let grid (n : Nat) : Option Digits :=
    let k := top - (n + 1 : Nat)
    (i.gridPoint? tie k).map (Digits.ofNat · k)
  ((List.range 17).findSome? grid).getD ⟨['0'], 1⟩

end VesselWatch.Decimal
