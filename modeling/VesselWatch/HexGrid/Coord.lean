/-
  HexGrid/Coord.lean --- hexagons of a flat grid.

  WHAT THIS FILE FIXES.  A hexagon of a plane has three coordinates along axes 120
  degrees apart; normal form has none negative and at least one zero.  A grid of
  aperture seven has in each hexagon of one resolution a centre hexagon and six
  others of the next; `down` and `up` go between them.  The finer grid is turned by
  about 19 degrees, in one sense when its resolution is odd and in the other when it
  is even.
-/

set_option autoImplicit false

namespace VesselWatch.HexGrid

/-- Coordinates of a hexagon along three axes 120 degrees apart. -/
structure Coord where
  /-- along the first axis -/
  i : Int
  /-- along the second axis -/
  j : Int
  /-- along the third axis -/
  k : Int
  deriving DecidableEq, Repr, Inhabited

namespace Coord

/-- The same hexagon with no negative coordinate and at least one that is zero. -/
def normal (c : Coord) : Coord :=
  let least := min c.i (min c.j c.k)
  ⟨c.i - least, c.j - least, c.k - least⟩

/-- The sum in normal form. -/
def add (a b : Coord) : Coord := normal ⟨a.i + b.i, a.j + b.j, a.k + b.k⟩

/-- The difference in normal form. -/
def sub (a b : Coord) : Coord := normal ⟨a.i - b.i, a.j - b.j, a.k - b.k⟩

/-- A multiple. -/
def scale (n : Int) (c : Coord) : Coord := ⟨n * c.i, n * c.j, n * c.k⟩

/-- The linear map that takes the three unit steps to `a`, `b` and `c`. -/
def linear (a b c : Coord) (x : Coord) : Coord :=
  normal ⟨x.i * a.i + x.j * b.i + x.k * c.i, x.i * a.j + x.j * b.j + x.k * c.j,
    x.i * a.k + x.j * b.k + x.k * c.k⟩

/-- A turn by 60 degrees counter-clockwise about the origin. -/
def turnLeft : Coord → Coord := linear ⟨1, 1, 0⟩ ⟨0, 1, 1⟩ ⟨1, 0, 1⟩

/-- A turn by 60 degrees clockwise about the origin. -/
def turnRight : Coord → Coord := linear ⟨1, 0, 1⟩ ⟨1, 1, 0⟩ ⟨0, 1, 1⟩

/-- The centre child of a hexagon, in the grid of resolution `finer`. -/
def down (finer : Nat) : Coord → Coord :=
  if finer % 2 == 1 then linear ⟨3, 0, 1⟩ ⟨1, 3, 0⟩ ⟨0, 1, 3⟩
  else linear ⟨3, 1, 0⟩ ⟨0, 3, 1⟩ ⟨1, 0, 3⟩

/-- The integer nearest to a seventh. -/
def seventh (n : Int) : Int := (2 * n + 7).fdiv 14

/-- The parent of a hexagon of the grid of resolution `finer`. -/
def up (finer : Nat) (c : Coord) : Coord :=
  let i := c.i - c.k
  let j := c.j - c.k
  if finer % 2 == 1 then normal ⟨seventh (3 * i - j), seventh (i + 2 * j), 0⟩
  else normal ⟨seventh (2 * i + j), seventh (3 * j - i), 0⟩

/-! ## Directions

The digits of a cell number its parent's seven children: 0 is the centre, 1, 2 and 4
lie along the axes, and a sum of two of these lies between its summands. -/

/-- The step of a digit. -/
def ofDigit (d : Nat) : Coord := ⟨d / 4 % 2, d / 2 % 2, d % 2⟩

/-- The digit of a step. -/
def toDigit (c : Coord) : Nat := 4 * c.i.toNat + 2 * c.j.toNat + c.k.toNat

/-- The digit after a turn by 60 degrees counter-clockwise. -/
def digitLeft (d : Nat) : Nat := [0, 5, 3, 1, 6, 4, 2].getD d d

/-- The digit after a turn by 60 degrees clockwise. -/
def digitRight (d : Nat) : Nat := [0, 3, 6, 2, 5, 1, 4].getD d d

/-! ## The plane -/

/-- Sine of 60 degrees. -/
def sin60 : Float := 0.8660254037844386467637231707529361834714

/-- The centre of a hexagon in a plane where neighbours lie one apart. -/
def toPlane (c : Coord) : Float × Float :=
  let i := Float.ofInt (c.i - c.k)
  let j := Float.ofInt (c.j - c.k)
  (i - 0.5 * j, j * sin60)

/-- The greatest integer not above a number that is not negative. -/
def whole (x : Float) : Int := x.floor.toUInt64.toNat

/-- The hexagon that contains a point of the plane. -/
def ofPlane (x y : Float) : Coord :=
  let a1 := x.abs
  let a2 := y.abs
  let x2 := a2 / sin60
  let x1 := a1 + x2 / 2
  let m1 := whole x1
  let m2 := whole x2
  let r1 := x1 - Float.ofInt m1
  let r2 := x2 - Float.ofInt m2
  let i :=
    if r1 < 0.5 then
      if r1 < 1 / 3 then m1
      else if 1 - r1 ≤ r2 && r2 < 2 * r1 then m1 + 1 else m1
    else if r1 < 2 / 3 then
      if 2 * r1 - 1 < r2 && r2 < 1 - r1 then m1 else m1 + 1
    else m1 + 1
  let j :=
    if r1 < 0.5 then
      if r1 < 1 / 3 then (if r2 < (1 + r1) / 2 then m2 else m2 + 1)
      else if r2 < 1 - r1 then m2 else m2 + 1
    else if r1 < 2 / 3 then (if r2 < 1 - r1 then m2 else m2 + 1)
    else if r2 < r1 / 2 then m2 else m2 + 1
  let i := if x < 0 then j - i else i
  let (i, j) := if y < 0 then (i - j, -j) else (i, j)
  normal ⟨i, j, 0⟩

end Coord

end VesselWatch.HexGrid
