/-
  VesselEvent.lean --- one observation of a vessel.

  WHAT THIS FILE FIXES.  What an event holds, how it is read from JSON, and how a
  field is looked up by name: an attribute of exactly that name first, then the
  built-in fields in any ASCII letter case.  An attribute that is `null` counts as
  absent.

  AN EVENT MAY LACK its id and its time.  What is read is therefore a `Report`, and
  an event is a report to which the receiver's own id and clock have been supplied
  (`Report.stamp`).
-/
import VesselWatch.Geo
import VesselWatch.Instant.Text
import VesselWatch.Json.Printer
import VesselWatch.Json.Reader

set_option autoImplicit false

namespace VesselWatch

/-- One observation of a vessel. -/
structure VesselEvent where
  id : String
  vesselId : String
  location : GeoPoint
  speed : Float
  /-- course over ground in degrees -/
  course : Float
  timestamp : Instant
  /-- further fields, each name once -/
  attributes : List (String × Json)
  deriving Inhabited

/-- What a sender wrote: id and time may be missing. -/
structure VesselEvent.Report where
  /-- the id, if it was sent -/
  id : Option String
  vesselId : String
  location : GeoPoint
  speed : Float
  /-- course over ground in degrees -/
  course : Float
  /-- the time, if it was sent -/
  timestamp : Option Instant
  /-- further fields, each name once -/
  attributes : List (String × Json)
  deriving Inhabited

/-- Why a text is not an event. -/
inductive VesselEvent.ReadError where
  /-- it does not have the form of an event -/
  | decode
  /-- the position is not on the globe -/
  | invalidCoordinate (location : GeoPoint)
  deriving Inhabited

/-- The words of a position that is not on the globe. -/
def GeoPoint.words (p : GeoPoint) : String :=
  "coordinate: lat=" ++ Decimal.plain p.lat ++ ", lon=" ++ Decimal.plain p.lon

/-- The message of a reading error. -/
def VesselEvent.ReadError.message : VesselEvent.ReadError → String
  | .decode => "Event decode error"
  | .invalidCoordinate p => "Invalid " ++ p.words

namespace VesselEvent

/-! ## Reading -/

/-- Reads the attributes: a record of JSON values. -/
def attributes? (n : Node) : Option (List (String × Json)) :=
  match n.toJson? with
  | some (.object fields) => some fields
  | _ => none

/-- Reads a time. -/
def time? (n : Node) : Option Instant := (n.text? .json).bind Instant.ofText?

/-- Reads a report. -/
def Report.ofNode? (n : Node) : Option Report := do
  let [id, vesselId, location, speed, course, timestamp, attributes] ←
    n.slots .json ["id", "vesselId", "location", "speed", "course", "timestamp", "attributes"]
    | none
  let vesselId ← vesselId
  let location ← location
  pure {
    id := ← Node.orElse (fun n => (n.text? .json).map some) none id
    vesselId := ← vesselId.text? .json
    location := ← GeoPoint.ofNode? .json location
    speed := ← Node.orElse (Node.float? .json) 0 speed
    course := ← Node.orElse (Node.float? .json) 0 course
    timestamp := ← Node.orElse (fun n => (time? n).map some) none timestamp
    attributes := ← Node.orElse attributes? [] attributes }

/-- Reads a report from one JSON text and checks its position. -/
def Report.read (raw : String) : Except ReadError Report :=
  match (Json.read? raw).bind Report.ofNode? with
  | none => .error .decode
  | some r => if r.location.isValid then .ok r else .error (.invalidCoordinate r.location)

/-- Supplies the id and the time that a report lacks. -/
def Report.stamp (freshId : String) (now : Instant) (r : Report) : VesselEvent :=
  { id := r.id.getD freshId
    vesselId := r.vesselId
    location := r.location
    speed := r.speed
    course := r.course
    timestamp := r.timestamp.getD now
    attributes := r.attributes }

/-! ## Fields as text -/

/-- A value as text: `null` has none, a string is itself, all else is its JSON text. -/
def valueText : Json → Option String
  | .null => none
  | .text s => some s
  | j => some j.render

theorem valueText_eq_none_iff {j : Json} : valueText j = none ↔ j = .null := by
  cases j <;> simp [valueText]

theorem exists_valueText {j : Json} (value : j ≠ .null) : ∃ text, valueText j = some text :=
  Option.ne_none_iff_exists'.mp (mt valueText_eq_none_iff.mp value)

/-- The text of an attribute. -/
def attributeText (e : VesselEvent) (name : String) : Option String :=
  (e.attributes.lookup name).bind valueText

/-- The number that a text writes, blanks at its ends forgiven. -/
def number? (s : String) : Option Float := Decimal.readFloat (Text.trim s.toList)

/-- The number of an attribute, also of one that is a text. -/
def attributeNumber (e : VesselEvent) (name : String) : Option Float :=
  (e.attributeText name).bind number?

/-- The text of a built-in field, its name in any letter case. -/
def builtinText (e : VesselEvent) (name : String) : Option String :=
  let name := Text.lowerAscii name
  if name == "vesselid" || name == "vessel_id" || name == "mmsi" then some e.vesselId
  else if name == "speed" then some (Decimal.plain e.speed)
  else if name == "course" then some (Decimal.plain e.course)
  else if name == "lat" then some (Decimal.plain e.location.lat)
  else if name == "lon" then some (Decimal.plain e.location.lon)
  else none

/-- The text of a field: the attribute of that name, or else the built-in field. -/
def fieldText (e : VesselEvent) (name : String) : Option String :=
  (e.attributeText name).or (e.builtinText name)

end VesselEvent

end VesselWatch
