/-
  Engine/Evaluate.lean --- an event before all active rules.

  WHAT THIS FILE FIXES.  The event goes to every worker, each of which applies its
  rule to its own memory and pushes an alert if it matches.  In which order the
  workers get to it (`evaluateIn`) is seen neither in the alerts nor in the
  memories; `evaluate` takes them as they stand.  A worker that meets an unknown
  word for the logic of its rule exits; any other error only ends this one
  application.
-/
import VesselWatch.Engine.Basic
import VesselWatch.Engine.Exclusive

set_option autoImplicit false

namespace VesselWatch

/-- What comes of an event: the engine afterwards, the alerts, and the folders whose models were
asked for. -/
structure Evaluation where
  engine : Engine
  alerts : List Alert
  /-- the folders whose models were asked for -/
  consulted : List Path
  deriving Inhabited

/-- The rule matched. -/
def Outcome.isMatch (o : Outcome RuleError) : Bool :=
  match o.verdict with
  | .ok b => b
  | .error _ => false

/-- The worker of the rule exits. -/
def Outcome.stops (o : Outcome RuleError) : Bool :=
  match o.verdict with
  | .error (.unsupportedLogic _) => true
  | _ => false

/-- Takes in what has come of a rule: its memory is kept, its worker goes on or exits, and a match
gives an alert. -/
def Evaluation.absorb (seals : String → Seal) (e : VesselEvent) (id : String) (w : Worker)
    (o : Outcome RuleError) (done : Evaluation) : Evaluation :=
  { engine := { done.engine with
      states := Assoc.put id o.state done.engine.states
      workers := Assoc.put id { w with exited := o.stops } done.engine.workers }
    alerts := done.alerts ++ if o.isMatch then [Alert.raised (seals id) w.rule e] else []
    consulted := done.consulted ++ o.consulted }

namespace Engine

/-- Hands the event to the worker of a rule.  A worker that is absent or has exited does nothing. -/
def visit (models : Models) (seals : String → Seal) (e : VesselEvent) (done : Evaluation)
    (id : String) : Evaluation :=
  match done.engine.workers.lookup id with
  | none => done
  | some w =>
    if w.exited then done
    else done.absorb seals e id w (w.rule.evaluate models e (done.engine.memory id))

/-- Applies the rules to an event, the workers taking it in the given order. -/
def evaluateIn (order : List String) (models : Models) (seals : String → Seal) (e : VesselEvent)
    (en : Engine) : Evaluation :=
  let done := order.foldl (visit models seals e) ⟨en, [], []⟩
  { done with alerts := resolveExclusive en.rules done.alerts }

/-- Applies the rules to an event; the first event starts the workers. -/
def evaluate (models : Models) (seals : String → Seal) (e : VesselEvent) (en : Engine) :
    Evaluation :=
  let en := en.start
  en.evaluateIn (en.workers.map (·.1)) models seals e

end Engine

end VesselWatch
