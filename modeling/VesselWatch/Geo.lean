/-
  Geo.lean --- positions on the globe.

  WHAT THIS FILE FIXES.  Distances are along great circles of a sphere of the mean
  radius of the Earth, by the haversine formula.  A polygon contains a point when a
  ray from it crosses the edges an odd number of times; the ring is closed by the
  edge from its last vertex to its first, and fewer than three vertices contain
  nothing.
-/
import VesselWatch.Node

set_option autoImplicit false

namespace VesselWatch

/-- A position in decimal degrees. -/
structure GeoPoint where
  /-- degrees north of the equator -/
  lat : Float
  /-- degrees east of the prime meridian -/
  lon : Float
  deriving Repr, Inhabited

namespace GeoPoint

/-- The coordinates are finite and on the globe. -/
def isValid (p : GeoPoint) : Bool :=
  p.lat.isFinite && p.lon.isFinite && -90 ≤ p.lat && p.lat ≤ 90 && -180 ≤ p.lon && p.lon ≤ 180

/-- Equality of coordinates. -/
def same (p q : GeoPoint) : Bool := p.lat == q.lat && p.lon == q.lon

/-- Reads a position. -/
def ofNode? (style : Node.Style) (n : Node) : Option GeoPoint := do
  let [lat, lon] ← n.slots style ["lat", "lon"] | none
  let lat ← lat
  let lon ← lon
  pure ⟨← lat.float? style, ← lon.float? style⟩

/-- The position as a JSON value. -/
def toJson (p : GeoPoint) : Json :=
  .object [("lat", Json.ofFloat p.lat), ("lon", Json.ofFloat p.lon)]

end GeoPoint

namespace Geo

/-- Mean radius of the Earth in meters. -/
def earthRadius : Float := 6371000

/-- Half of a circle's circumference over its radius, rounded to a double. -/
def pi : Float := 3.141592653589793

/-- Degrees as radians. -/
def radians (degrees : Float) : Float := degrees * (pi / 180)

/-- Radians as degrees. -/
def degrees (radians : Float) : Float := radians * (180 / pi)

/-- Length of the great-circle arc between two points, in meters. -/
def distance (a b : GeoPoint) : Float :=
  let sinLat := Float.sin (radians (b.lat - a.lat) / 2)
  let sinLon := Float.sin (radians (b.lon - a.lon) / 2)
  let h := sinLat * sinLat
    + sinLon * sinLon * Float.cos (radians a.lat) * Float.cos (radians b.lat)
  2 * earthRadius * Float.atan2 (Float.sqrt h) (Float.sqrt (1 - h))

/-- The edges of a ring: each vertex with the one before it, the first with the last. -/
def edges (ring : List GeoPoint) : List (GeoPoint × GeoPoint) :=
  match ring.getLast? with
  | none => []
  | some last => ring.zip (last :: ring.dropLast)

/-- The ray from `p` towards greater latitudes crosses the edge between `a` and `b`. -/
def crosses (p : GeoPoint) (edge : GeoPoint × GeoPoint) : Bool :=
  let (a, b) := edge
  (decide (a.lon > p.lon) != decide (b.lon > p.lon))
    && decide (p.lat < (b.lat - a.lat) * (p.lon - a.lon) / (b.lon - a.lon) + a.lat)

/-- The polygon contains the point. -/
def contains (polygon : List GeoPoint) (p : GeoPoint) : Bool :=
  if polygon.length < 3 then false
  else (edges polygon).foldl (fun inside edge => inside != crosses p edge) false

end Geo

end VesselWatch
