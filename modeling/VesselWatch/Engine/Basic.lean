/-
  Engine/Basic.lean --- the active rules and what belongs to them.

  WHAT THIS FILE FIXES.  An engine holds its rules by descending priority, a memory
  for each of them, and, once it has been started, a worker for each one that is
  enabled.  A worker runs the definition it was started with until it is replaced;
  one whose rule combines its conditions by an unknown word has exited and is only
  counted.
-/
import VesselWatch.Rule.Evaluate

set_option autoImplicit false

namespace VesselWatch

/-- A worker. -/
structure Worker where
  /-- the definition it runs -/
  rule : Rule
  /-- it takes no more events -/
  exited : Bool
  deriving Inhabited

/-- The active rules and what belongs to them. -/
structure Engine where
  /-- the rules by descending priority -/
  rules : List Rule
  /-- the workers by rule id -/
  workers : List (String × Worker)
  /-- the memories by rule id -/
  states : List (String × RuleState)
  started : Bool
  deriving Inhabited

/-- The rules of which a list has several by one id reduced to the last of them, at the place of
the first. -/
def Rule.distinct (rules : List Rule) : List Rule :=
  (Assoc.ofList (rules.map fun r => (r.id, r))).map (·.2)

/-- The rules by descending priority, those of one priority in their order. -/
def Rule.byPriority (rules : List Rule) : List Rule :=
  rules.mergeSort fun a b => b.priority ≤ a.priority

namespace Engine

/-- The engine without rules. -/
def empty : Engine := ⟨[], [], [], false⟩

/-- An engine with some rules. -/
def ofRules (rules : List Rule) : Engine :=
  let rules := Rule.distinct rules
  { rules := Rule.byPriority rules
    workers := []
    states := rules.map fun r => (r.id, RuleState.fresh r.id)
    started := false }

/-- The memory of a rule. -/
def state? (en : Engine) (id : String) : Option RuleState := en.states.lookup id

/-- The memory of a rule, an empty one if it has none. -/
def memory (en : Engine) (id : String) : RuleState := (en.state? id).getD (RuleState.fresh id)

/-- Starts a worker for a rule, in the place of an earlier one. -/
def startWorker (r : Rule) (en : Engine) : Engine :=
  { en with workers := Assoc.put r.id ⟨r, false⟩ en.workers }

/-- Starts a worker for each enabled rule, unless that has been done. -/
def start (en : Engine) : Engine :=
  if en.started then en
  else (en.rules.filter (·.enabled)).foldl (fun en r => en.startWorker r) { en with started := true }

/-- Ends all workers.  The memories stay. -/
def shutdown (en : Engine) : Engine := { en with workers := [], started := false }

end Engine

end VesselWatch
