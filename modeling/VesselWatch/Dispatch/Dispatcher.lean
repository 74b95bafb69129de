/-
  Dispatch/Dispatcher.lean --- which sinks get an alert.

  WHAT THIS FILE FIXES.  Sinks are known by labels.  An alert goes to the sinks of
  all whom it notifies, each sink once, in the order in which they come up; an alert
  for which none comes up goes to the default sinks, as they are listed.  Every sink
  gets its turn whatever became of the ones before it.
-/
import VesselWatch.Dispatch.Sink

set_option autoImplicit false

namespace VesselWatch

/-- Which sinks get which alerts. -/
structure Dispatcher where
  /-- the sinks of each receiver, by label -/
  targets : List (String × List String)
  /-- the sinks for all other alerts, by label -/
  defaults : List String
  deriving DecidableEq, Repr, Inhabited

/-- The sinks by label. -/
abbrev Sinks := List (String × Sink)

/-- What became of an alert at one sink. -/
structure Delivery where
  /-- the name of the sink -/
  sink : String
  /-- the rule of the alert -/
  ruleId : String
  /-- why it was not delivered, if it was not -/
  error : Option DeliveryError
  deriving DecidableEq, Repr, Inhabited

/-- The alert was delivered. -/
def Delivery.success (d : Delivery) : Bool := d.error.isNone

namespace Dispatcher

/-- A dispatcher without sinks. -/
def empty : Dispatcher := ⟨[], []⟩

/-- A dispatcher whose sinks get every alert. -/
def withDefaults (labels : List String) : Dispatcher := ⟨[], labels⟩

/-- Sets the sinks of a receiver. -/
def setTarget (target : String) (labels : List String) (d : Dispatcher) : Dispatcher :=
  { d with targets := Assoc.put target labels d.targets }

/-- Adds the labels that are not there yet. -/
def addNew (labels new : List String) : List String :=
  new.foldl (fun labels l => if labels.contains l then labels else labels ++ [l]) labels

/-- The sinks of some receivers, each once. -/
def ofTargets (d : Dispatcher) (notify : List String) : List String :=
  notify.foldl (fun labels target => addNew labels ((d.targets.lookup target).getD [])) []

/-- The sinks that get an alert. -/
def receivers (d : Dispatcher) (a : Alert) : List String :=
  let labels := d.ofTargets a.notify
  if labels.isEmpty then d.defaults else labels

/-- Hands an alert to the sink of a label. -/
def deliver (a : Alert) (label : String) (sinks : Sinks) : List Delivery × Sinks :=
  match sinks.lookup label with
  | none => ([], sinks)
  | some s =>
    let (error, s) := s.send a
    ([⟨s.name, a.ruleId, error⟩], Assoc.put label s sinks)

/-- Hands an alert to the sinks of some labels. -/
def deliverAll (a : Alert) : List String → Sinks → List Delivery × Sinks
  | [], sinks => ([], sinks)
  | label :: rest, sinks =>
    let (here, sinks) := deliver a label sinks
    let (later, sinks) := deliverAll a rest sinks
    (here ++ later, sinks)

/-- Hands an alert to all sinks that get it. -/
def dispatch (d : Dispatcher) (a : Alert) (sinks : Sinks) : List Delivery × Sinks :=
  deliverAll a (d.receivers a) sinks

end Dispatcher

end VesselWatch
