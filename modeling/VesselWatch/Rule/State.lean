/-
  Rule/State.lean --- what a rule remembers from one event to the next.

  WHAT THIS FILE FIXES.  The memory of one rule: two times for each vessel, and the
  events of its window, oldest first.  All conditions of the rule share it.
-/
import VesselWatch.VesselEvent

set_option autoImplicit false

namespace VesselWatch

/-- The memory of one rule. -/
structure RuleState where
  /-- the rule it belongs to -/
  ruleId : String
  /-- when a continuous sight of each vessel began -/
  temporalStart : List (String × Instant)
  /-- when each vessel was first recorded -/
  lastSeen : List (String × Instant)
  /-- the events of the window, in the order of their arrival -/
  recent : List VesselEvent
  deriving Inhabited

namespace RuleState

/-- The memory of a rule that has seen nothing. -/
def fresh (ruleId : String) : RuleState := ⟨ruleId, [], [], []⟩

/-- Nothing has been recorded. -/
def isEmpty (s : RuleState) : Bool :=
  s.temporalStart.isEmpty && s.lastSeen.isEmpty && s.recent.isEmpty

end RuleState

end VesselWatch
