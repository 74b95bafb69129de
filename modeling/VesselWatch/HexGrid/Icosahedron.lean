/-
  HexGrid/Icosahedron.lean --- the globe on the faces of an icosahedron.

  WHAT THIS FILE FIXES.  A point of the globe belongs to the face whose centre is
  nearest and is projected onto that face from the centre of the Earth.  Angles on
  a face are counted counter-clockwise from its first axis; a grid of odd
  resolution is turned against the face.  A hexagon that sticks out over an edge of
  its face is carried over to the neighbour (`crossEdge`).
-/
import VesselWatch.HexGrid.Coord
import VesselWatch.Geo

set_option autoImplicit false

namespace VesselWatch.HexGrid

/-! ## Angles -/

/-- A full turn. -/
def fullTurn : Float := 2 * Geo.pi

/-- Numbers below this count as zero. -/
def tiny : Float := 1e-16

/-- An angle between zero and a full turn. -/
def positiveAngle (a : Float) : Float :=
  let b := if a < 0 then a + fullTurn else a
  if a ≥ fullTurn then b - fullTurn else b

/-- A longitude between minus and plus half a turn. -/
def normalLongitude (a : Float) : Float :=
  if a > Geo.pi then a - fullTurn else if a < -Geo.pi then a + fullTurn else a

/-- A number between minus one and one. -/
def clamp (x : Float) : Float := if x > 1 then 1 else if x < -1 then -1 else x

/-- The angle by which grids of odd resolution are turned. -/
def gridTurn : Float := 0.333473172251832115336090755351601070065900389

/-- Length of one step of the coarsest grid on a face that touches the unit sphere. -/
def coarsestStep : Float := 0.38196601125010500003

/-- How many times a step of the next finer grid fits into a step: the root of seven. -/
def rootSeven : Float := 2.6457513110645905905016157536392604257102

/-! ## Points in radians -/

/-- A point of the globe in radians. -/
structure Spot where
  /-- latitude -/
  lat : Float
  /-- longitude -/
  lon : Float
  deriving Repr, Inhabited

namespace Spot

/-- The position in degrees as a spot. -/
def ofPoint (p : GeoPoint) : Spot := ⟨Geo.radians p.lat, Geo.radians p.lon⟩

/-- The spot as a position in degrees. -/
def toPoint (s : Spot) : GeoPoint := ⟨Geo.degrees s.lat, Geo.degrees s.lon⟩

/-- The point of the unit sphere. -/
def vector (s : Spot) : Float × Float × Float :=
  let r := Float.cos s.lat
  (Float.cos s.lon * r, Float.sin s.lon * r, Float.sin s.lat)

/-- The square of the straight distance between two points of the unit sphere. -/
def squareChord (a b : Spot) : Float :=
  let (x, y, z) := a.vector
  let (u, v, w) := b.vector
  (x - u) * (x - u) + (y - v) * (y - v) + (z - w) * (z - w)

/-- The direction from `a` to `b`, clockwise from north. -/
def azimuth (a b : Spot) : Float :=
  Float.atan2 (Float.cos b.lat * Float.sin (b.lon - a.lon))
    (Float.cos a.lat * Float.sin b.lat
      - Float.sin a.lat * Float.cos b.lat * Float.cos (b.lon - a.lon))

/-- A spot at a latitude; at a pole the longitude is zero. -/
def atLatitude (lat lon : Float) : Spot :=
  if (lat - Geo.pi / 2).abs < tiny then ⟨Geo.pi / 2, 0⟩
  else if (lat + Geo.pi / 2).abs < tiny then ⟨-(Geo.pi / 2), 0⟩
  else ⟨lat, lon⟩

/-- The spot that lies at the given azimuth and arc length. -/
def travel (s : Spot) (azimuth arc : Float) : Spot :=
  if arc < tiny then s
  else
    let az := positiveAngle azimuth
    if az < tiny then atLatitude (s.lat + arc) (normalLongitude s.lon)
    else if (az - Geo.pi).abs < tiny then atLatitude (s.lat - arc) (normalLongitude s.lon)
    else
      let lat := Float.asin <| clamp <|
        Float.sin s.lat * Float.cos arc + Float.cos s.lat * Float.sin arc * Float.cos az
      let inverse := 1 / Float.cos lat
      let sinLon := clamp (Float.sin az * Float.sin arc * inverse)
      let cosLon := clamp
        ((Float.cos arc - Float.sin s.lat * Float.sin lat) / Float.cos s.lat * inverse)
      atLatitude lat (normalLongitude (s.lon + Float.atan2 sinLon cosLon))

end Spot

/-! ## Faces -/

/-- The neighbour of a face across one edge. -/
structure Crossing where
  /-- the neighbour -/
  face : Nat
  /-- where the origin of this face lies on the neighbour, in steps of the coarsest grid -/
  shift : Coord
  /-- turns by 60 degrees counter-clockwise -/
  turns : Nat
  deriving DecidableEq, Repr, Inhabited

/-- A face of the icosahedron. -/
structure Face where
  /-- latitude of the centre, in radians -/
  lat : Float
  /-- longitude of the centre, in radians -/
  lon : Float
  /-- azimuth of the first axis -/
  axis : Float
  /-- across the edge between the first and the second axis -/
  ij : Crossing
  /-- across the edge between the third and the first axis -/
  ki : Crossing
  /-- across the edge between the second and the third axis -/
  jk : Crossing
  deriving Inhabited

/-- The twenty faces. -/
def faces : List Face :=
  [
   ⟨0.803582649718989942, 1.248397419617396099, 5.619958268523939882,
    ⟨4, ⟨2, 0, 2⟩, 1⟩, ⟨1, ⟨2, 2, 0⟩, 5⟩, ⟨5, ⟨0, 2, 2⟩, 3⟩⟩,
   ⟨1.307747883455638156, 2.536945009877921159, 5.760339081714187279,
    ⟨0, ⟨2, 0, 2⟩, 1⟩, ⟨2, ⟨2, 2, 0⟩, 5⟩, ⟨6, ⟨0, 2, 2⟩, 3⟩⟩,
   ⟨1.054751253523952054, -1.347517358900396623, 0.780213654393430055,
    ⟨1, ⟨2, 0, 2⟩, 1⟩, ⟨3, ⟨2, 2, 0⟩, 5⟩, ⟨7, ⟨0, 2, 2⟩, 3⟩⟩,
   ⟨0.600191595538186799, -0.450603909469755746, 0.430469363979999913,
    ⟨2, ⟨2, 0, 2⟩, 1⟩, ⟨4, ⟨2, 2, 0⟩, 5⟩, ⟨8, ⟨0, 2, 2⟩, 3⟩⟩,
   ⟨0.491715428198773866, 0.401988202911306943, 6.130269123335111400,
    ⟨3, ⟨2, 0, 2⟩, 1⟩, ⟨0, ⟨2, 2, 0⟩, 5⟩, ⟨9, ⟨0, 2, 2⟩, 3⟩⟩,
   ⟨0.172745327415618701, 1.678146885280433686, 2.692877706530642877,
    ⟨10, ⟨2, 2, 0⟩, 3⟩, ⟨14, ⟨2, 0, 2⟩, 3⟩, ⟨0, ⟨0, 2, 2⟩, 3⟩⟩,
   ⟨0.605929321571350690, 2.953923329812411617, 2.982963003477243874,
    ⟨11, ⟨2, 2, 0⟩, 3⟩, ⟨10, ⟨2, 0, 2⟩, 3⟩, ⟨1, ⟨0, 2, 2⟩, 3⟩⟩,
   ⟨0.427370518328979641, -1.888876200336285401, 3.532912002790141181,
    ⟨12, ⟨2, 2, 0⟩, 3⟩, ⟨11, ⟨2, 0, 2⟩, 3⟩, ⟨2, ⟨0, 2, 2⟩, 3⟩⟩,
   ⟨-0.079066118549212831, -0.733429513380867741, 3.494305004259568154,
    ⟨13, ⟨2, 2, 0⟩, 3⟩, ⟨12, ⟨2, 0, 2⟩, 3⟩, ⟨3, ⟨0, 2, 2⟩, 3⟩⟩,
   ⟨-0.230961644455383637, 0.506495587332349035, 3.003214169499538391,
    ⟨14, ⟨2, 2, 0⟩, 3⟩, ⟨13, ⟨2, 0, 2⟩, 3⟩, ⟨4, ⟨0, 2, 2⟩, 3⟩⟩,
   ⟨0.079066118549212831, 2.408163140208925497, 5.930472956509811562,
    ⟨5, ⟨2, 2, 0⟩, 3⟩, ⟨6, ⟨2, 0, 2⟩, 3⟩, ⟨15, ⟨0, 2, 2⟩, 3⟩⟩,
   ⟨0.230961644455383637, -2.635097066257444203, 0.138378484090254847,
    ⟨6, ⟨2, 2, 0⟩, 3⟩, ⟨7, ⟨2, 0, 2⟩, 3⟩, ⟨16, ⟨0, 2, 2⟩, 3⟩⟩,
   ⟨-0.172745327415618701, -1.463445768309359553, 0.448714947059150361,
    ⟨7, ⟨2, 2, 0⟩, 3⟩, ⟨8, ⟨2, 0, 2⟩, 3⟩, ⟨17, ⟨0, 2, 2⟩, 3⟩⟩,
   ⟨-0.605929321571350690, -0.187669323777381622, 0.158629650112549365,
    ⟨8, ⟨2, 2, 0⟩, 3⟩, ⟨9, ⟨2, 0, 2⟩, 3⟩, ⟨18, ⟨0, 2, 2⟩, 3⟩⟩,
   ⟨-0.427370518328979641, 1.252716453253507838, 5.891865957979238535,
    ⟨9, ⟨2, 2, 0⟩, 3⟩, ⟨5, ⟨2, 0, 2⟩, 3⟩, ⟨19, ⟨0, 2, 2⟩, 3⟩⟩,
   ⟨-0.600191595538186799, 2.690988744120037492, 2.711123289609793325,
    ⟨16, ⟨2, 0, 2⟩, 1⟩, ⟨19, ⟨2, 2, 0⟩, 5⟩, ⟨10, ⟨0, 2, 2⟩, 3⟩⟩,
   ⟨-0.491715428198773866, -2.739604450678486295, 3.294508837434268316,
    ⟨17, ⟨2, 0, 2⟩, 1⟩, ⟨15, ⟨2, 2, 0⟩, 5⟩, ⟨11, ⟨0, 2, 2⟩, 3⟩⟩,
   ⟨-0.803582649718989942, -1.893195233972397139, 3.804819692245439833,
    ⟨18, ⟨2, 0, 2⟩, 1⟩, ⟨16, ⟨2, 2, 0⟩, 5⟩, ⟨12, ⟨0, 2, 2⟩, 3⟩⟩,
   ⟨-1.307747883455638156, -0.604647643711872080, 3.664438879055192436,
    ⟨19, ⟨2, 0, 2⟩, 1⟩, ⟨17, ⟨2, 2, 0⟩, 5⟩, ⟨13, ⟨0, 2, 2⟩, 3⟩⟩,
   ⟨-1.054751253523952054, 1.794075294689396615, 2.361378999196363184,
    ⟨15, ⟨2, 0, 2⟩, 1⟩, ⟨18, ⟨2, 2, 0⟩, 5⟩, ⟨14, ⟨0, 2, 2⟩, 3⟩⟩]

/-- A face by its number. -/
def face (n : Nat) : Face := faces.getD n default

/-- The centre of a face. -/
def Face.centre (f : Face) : Spot := ⟨f.lat, f.lon⟩

/-- The face whose centre is nearest; of equally near ones the first. -/
def nearestFace (s : Spot) : Nat × Float :=
  let step (best : Nat × Float) (next : Face × Nat) : Nat × Float :=
    let d := s.squareChord next.1.centre
    if d < best.2 then (next.2, d) else best
  faces.zipIdx.foldl step (0, 5)

/-- How many steps of the grid of resolution `res` make one step of the coarsest grid. -/
def stepScale (res : Nat) : Float := (List.range res).foldl (fun x _ => x * rootSeven) 1

/-- Where a spot falls on the plane of a face, in steps of the grid of resolution `res`. -/
def Face.project (f : Face) (res : Nat) (s : Spot) (squareChord : Float) : Float × Float :=
  let arc := Float.acos (1 - squareChord / 2)
  if arc < tiny then (0, 0)
  else
    let r := Float.tan arc / coarsestStep * stepScale res
    let angle := positiveAngle (f.axis - positiveAngle (f.centre.azimuth s))
    let angle := if res % 2 == 1 then positiveAngle (angle - gridTurn) else angle
    (r * Float.cos angle, r * Float.sin angle)

/-- The spot that falls on a point of the plane of a face. -/
def Face.unproject (f : Face) (res : Nat) (x y : Float) : Spot :=
  let r := Float.sqrt (x * x + y * y)
  if r < tiny then f.centre
  else
    let angle := Float.atan2 y x
    let angle := if res % 2 == 1 then positiveAngle (angle + gridTurn) else angle
    let arc := Float.atan (r / stepScale res * coarsestStep)
    f.centre.travel (positiveAngle (f.axis - angle)) arc

/-- A hexagon of a face that reaches beyond the face, carried over to the neighbour; `none` when
it lies on the face.  The resolution is even.  With `gap`, the sixth of a turn that is missing
around a corner of the icosahedron is cut out first. -/
def crossEdge (res : Nat) (gap : Bool) (n : Nat) (c : Coord) : Option (Nat × Coord) :=
  let unit := Int.ofNat (Nat.pow 7 (res / 2))
  let reach := 2 * unit
  if c.i + c.j + c.k ≤ reach then none
  else
    let f := face n
    let crossing := if 0 < c.k then (if 0 < c.j then f.jk else f.ki) else f.ij
    let c :=
      if gap && 0 < c.k && c.j ≤ 0 then
        let t := (Coord.sub c ⟨reach, 0, 0⟩).turnRight
        ⟨t.i + reach, t.j, t.k⟩
      else c
    let turned := (List.range crossing.turns).foldl (fun c _ => c.turnLeft) c
    some (crossing.face, Coord.add turned (crossing.shift.scale unit))

end VesselWatch.HexGrid
