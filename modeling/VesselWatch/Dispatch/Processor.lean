/-
  Dispatch/Processor.lean --- a queue of events in front of the rules.

  WHAT THIS FILE FIXES.  Events are taken from the queue one at a time in the order
  of their arrival, and all alerts of one event are dispatched before the next one
  is taken.  The loop that does so can be started once; it ends when it is
  cancelled, or when the queue is closed and empty.  A queue whose loop has ended
  takes no more events.
-/
import VesselWatch.Dispatch.Dispatcher
import VesselWatch.Engine.Detector

set_option autoImplicit false

namespace VesselWatch

/-- Why a request to a processor is refused. -/
inductive ProcessorError where
  /-- the queue takes no more events -/
  | queueClosed
  /-- the loop has been started before -/
  | alreadyStarted
  deriving DecidableEq, Repr, Inhabited

/-- The message of an error. -/
def ProcessorError.message : ProcessorError → String
  | .queueClosed => "Event queue is closed"
  | .alreadyStarted => "Processor already started"

/-- What a processor has done. -/
structure ProcessorStats where
  /-- events that were evaluated -/
  events : Nat
  /-- alerts that came of them -/
  alerts : Nat
  failedDeliveries : Nat
  deriving DecidableEq, Repr, Inhabited

/-- A queue of events with the loop that empties it. -/
structure Processor where
  /-- the events that wait -/
  queue : List VesselEvent
  /-- no more events are taken in -/
  closed : Bool
  /-- the loop has been started -/
  started : Bool
  /-- the loop is to end -/
  cancelled : Bool
  /-- the loop has ended -/
  ended : Bool
  /-- which sinks get which alerts -/
  dispatcher : Dispatcher
  sinks : Sinks
  /-- what has been done -/
  stats : ProcessorStats

/-- Ids and times for alerts, by the number of the event and the rule. -/
abbrev SealSupply := Nat → String → Seal

namespace Processor

/-- A processor that has not been started. -/
def fresh (dispatcher : Dispatcher) (sinks : Sinks) : Processor :=
  ⟨[], false, false, false, false, dispatcher, sinks, ⟨0, 0, 0⟩⟩

/-- Puts an event at the end of the queue. -/
def enqueue (e : VesselEvent) (p : Processor) : Except ProcessorError Processor :=
  if p.closed || p.ended then .error .queueClosed else .ok { p with queue := p.queue ++ [e] }

/-- Takes in no more events. -/
def close (p : Processor) : Processor := { p with closed := true }

/-- Starts the loop. -/
def start (p : Processor) : Except ProcessorError Processor :=
  if p.started then .error .alreadyStarted else .ok { p with started := true }

/-- Asks the loop to end. -/
def cancel (p : Processor) : Processor := { p with cancelled := true }

/-- Dispatches one alert. -/
def hand (p : Processor) (a : Alert) : Processor :=
  let (deliveries, sinks) := p.dispatcher.dispatch a p.sinks
  let failed := (deliveries.filter fun d => !d.success).length
  { p with
    sinks := sinks
    stats := { p.stats with
      alerts := p.stats.alerts + 1
      failedDeliveries := p.stats.failedDeliveries + failed } }

/-- Evaluates one event and dispatches its alerts. -/
def process (source : Path → Option Track.Model) (supply : SealSupply) (e : VesselEvent)
    (p : Processor) (d : Detector) : Processor × Detector :=
  let (d, alerts) := d.evaluate source (supply p.stats.events) e
  let p := { p with stats := { p.stats with events := p.stats.events + 1 } }
  (alerts.foldl hand p, d)

/-- The loop is running. -/
def running (p : Processor) : Bool := p.started && !p.ended

/-- One turn of the loop. -/
def turn (source : Path → Option Track.Model) (supply : SealSupply) (p : Processor)
    (d : Detector) : Processor × Detector :=
  if !p.running then (p, d)
  else if p.cancelled then ({ p with ended := true }, d)
  else match p.queue with
    | [] => ({ p with ended := p.closed }, d)
    | e :: rest => { p with queue := rest }.process source supply e d

/-- So many turns of the loop. -/
def turns (source : Path → Option Track.Model) (supply : SealSupply) :
    Nat → Processor → Detector → Processor × Detector
  | 0, p, d => (p, d)
  | n + 1, p, d =>
    let (p, d) := p.turn source supply d
    turns source supply n p d

/-- Lets the loop run as far as it comes. -/
def drain (source : Path → Option Track.Model) (supply : SealSupply) (p : Processor)
    (d : Detector) : Processor × Detector :=
  turns source supply (p.queue.length + 1) p d

end Processor

end VesselWatch
