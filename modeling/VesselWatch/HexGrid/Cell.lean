/-
  HexGrid/Cell.lean --- cells of the hexagonal grid and their numbers.

  WHAT THIS FILE FIXES.  A cell is a base cell and one digit for each resolution
  down to its own.  Its number packs these into 64 bits: a mode, the resolution,
  the base cell, and three bits a digit with sevens behind the last one.  `ofPoint`
  finds the cell that contains a position, `centre` the position in its middle.

  PENTAGONS have no cells in one of the six directions.  Where turning the digits
  would lead into that direction they are turned once more.
-/
import VesselWatch.HexGrid.BaseCell
import VesselWatch.HexGrid.Icosahedron

set_option autoImplicit false

namespace VesselWatch.HexGrid

/-- A cell: its base cell, and a digit for each finer resolution. -/
structure Cell where
  /-- number of the base cell -/
  base : Nat
  /-- the digits, coarsest first; there are as many as the resolution says -/
  digits : List Nat
  deriving DecidableEq, Repr, Inhabited

/-- The finest resolution. -/
def finestResolution : Nat := 15

namespace Cell

/-! ## Numbers -/

/-- The first digit that is not zero, or zero. -/
def leading (digits : List Nat) : Nat := (digits.find? (· != 0)).getD 0

/-- The number of a cell. -/
def toIndex (c : Cell) : Nat :=
  let res := c.digits.length
  let slots := c.digits ++ List.replicate (finestResolution - res) 7
  slots.foldl (fun n d => 8 * n + d) ((8 * 16 + res) * 128 + c.base)

/-- The fifteen digit slots of a number, coarsest first. -/
def slots (n : Nat) : List Nat :=
  (List.range finestResolution).map fun r => n / Nat.pow 8 (14 - r) % 8

/-- The cell with a given number.  There is none when the mode is another one, a reserved bit is
set, the base cell does not exist, a digit or the filling behind the digits is wrong, or the
digits of a pentagon lead into its missing direction. -/
def ofIndex? (n : Nat) : Option Cell :=
  let res := n >>> 52 % 16
  let base := n >>> 45 % 128
  let digits := (slots n).take res
  if n >>> 56 == 8 && base < baseCellCount && digits.all (· < 7)
      && ((slots n).drop res).all (· == 7)
      && !((baseCell base).isPentagon && leading digits == 1) then
    some ⟨base, digits⟩
  else none

/-! ## Turning digits -/

/-- All digits turned by 60 degrees counter-clockwise. -/
def turnLeft (digits : List Nat) : List Nat := digits.map Coord.digitLeft

/-- All digits turned by 60 degrees clockwise. -/
def turnRight (digits : List Nat) : List Nat := digits.map Coord.digitRight

/-- Digits of a pentagon turned counter-clockwise, past the missing direction. -/
def turnLeftPentagon (digits : List Nat) : List Nat :=
  let ds := turnLeft digits
  if leading ds == 1 then turnLeft ds else ds

/-- `n` turns. -/
def turns (turn : List Nat → List Nat) (n : Nat) (digits : List Nat) : List Nat :=
  (List.range n).foldl (fun ds _ => turn ds) digits

/-! ## From a position to its cell -/

/-- The digits of a hexagon of resolution `res`, finest last, in front of `done`, and the place of
the base cell. -/
def descend : Nat → Coord → List Nat → Coord × List Nat
  | 0, c, done => (c, done)
  | res + 1, c, done =>
    let parent := c.up (res + 1)
    let digit := (Coord.sub c (parent.down (res + 1))).toDigit
    descend res parent (digit :: done)

/-- The cell of a hexagon of a face. -/
def ofFace (n : Nat) (res : Nat) (c : Coord) : Cell :=
  let (place, digits) := descend res c []
  let (base, sixths) := lookup n place
  let cell := baseCell base
  if cell.isPentagon then
    let digits :=
      if leading digits == 1 then
        if cell.clockwiseFaces.contains n then turnRight digits else turnLeft digits
      else digits
    ⟨base, turns turnLeftPentagon sixths digits⟩
  else ⟨base, turns turnLeft sixths digits⟩

/-- The cell of resolution `res` that contains a position. -/
def ofPoint (res : Nat) (p : GeoPoint) : Cell :=
  let s := Spot.ofPoint p
  let (n, d) := nearestFace s
  let (x, y) := (face n).project res s d
  ofFace n res (Coord.ofPlane x y)

/-! ## From a cell to the position of its centre -/

/-- The place of a cell on the plane of the home face of its base cell. -/
def ascend (place : Coord) (digits : List Nat) : Coord :=
  (digits.zipIdx 1).foldl (fun c (d, r) => Coord.add (c.down r) (Coord.ofDigit d)) place

/-- Carries a hexagon over edges until it lies on its face; a pentagon's hexagon may cross
several. -/
def settle (res : Nat) : Nat → Nat × Coord → Nat × Coord
  | 0, at_ => at_
  | fuel + 1, (n, c) =>
    match crossEdge res false n c with
    | some next => settle res fuel next
    | none => (n, c)

/-- The face a cell lies on, and its place there. -/
def toFace (c : Cell) : Nat × Coord :=
  let base := baseCell c.base
  let res := c.digits.length
  let digits :=
    if base.isPentagon && leading c.digits == 5 then turnRight c.digits else c.digits
  let place := ascend base.place digits
  if !base.isPentagon && (res == 0 || base.place == ⟨0, 0, 0⟩) then (base.face, place)
  else
    let odd := res % 2 == 1
    let even := if odd then res + 1 else res
    let fine := if odd then place.down even else place
    let gap := base.isPentagon && leading digits == 4
    match crossEdge even gap base.face fine with
    | none => (base.face, place)
    | some next =>
      let (n, moved) := if base.isPentagon then settle even 20 next else next
      (n, if odd then moved.up even else moved)

/-- The position in the middle of a cell. -/
def centre (c : Cell) : GeoPoint :=
  let (n, place) := c.toFace
  let (x, y) := place.toPlane
  ((face n).unproject c.digits.length x y).toPoint

end Cell

end VesselWatch.HexGrid
