/-
  Alert.lean --- what a matching rule raises.

  WHAT THIS FILE FIXES.  The fields of an alert and its JSON form, in which they come
  in a fixed order.  An alert takes its kind, gravity and receivers from the rule
  and the rest from the event; its own id and time come with a `Seal`.
-/
import VesselWatch.Instant.Text
import VesselWatch.Rule.Document
import VesselWatch.Uuid
import VesselWatch.VesselEvent

set_option autoImplicit false

namespace VesselWatch

/-- The report of a match. -/
structure Alert where
  id : Uuid
  ruleId : String
  alertType : String
  severity : String
  entityId : String
  eventId : String
  timestamp : Instant
  notify : List String
  deriving DecidableEq, Repr, Inhabited

/-- What an alert has of its own: its id and the time at which it was raised. -/
structure Seal where
  id : Uuid
  timestamp : Instant
  deriving DecidableEq, Repr, Inhabited

namespace Alert

/-- The alert of a rule that matched an event. -/
def raised (mark : Seal) (r : Rule) (e : VesselEvent) : Alert :=
  { id := mark.id
    ruleId := r.id
    alertType := r.action.alertType
    severity := r.action.severity
    entityId := e.vesselId
    eventId := e.id
    timestamp := mark.timestamp
    notify := r.action.notify }

/-- The alert as a JSON value. -/
def toJson (a : Alert) : Json :=
  .object
    [("id", .text a.id.render), ("ruleId", .text a.ruleId), ("alertType", .text a.alertType),
     ("severity", .text a.severity), ("entityId", .text a.entityId),
     ("eventId", .text a.eventId), ("timestamp", .text a.timestamp.render),
     ("notify", .array (a.notify.map .text))]

/-- Reads an alert. -/
def ofNode? (n : Node) : Option Alert := do
  let [id, ruleId, alertType, severity, entityId, eventId, timestamp, notify] ← n.slots .json
    ["id", "ruleId", "alertType", "severity", "entityId", "eventId", "timestamp", "notify"]
    | none
  pure {
    id := ← (← id).text? .json >>= Uuid.ofText?
    ruleId := ← (← ruleId).text? .json
    alertType := ← (← alertType).text? .json
    severity := ← (← severity).text? .json
    entityId := ← (← entityId).text? .json
    eventId := ← (← eventId).text? .json
    timestamp := ← VesselEvent.time? (← timestamp)
    notify := ← texts? .json (← notify) }

end Alert

end VesselWatch
