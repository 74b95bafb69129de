/-
  Engine/Exclusive.lean --- alerts that suppress others.

  WHAT THIS FILE FIXES.  Alerts come in the order of their rules.  If one of them is
  of an exclusive rule, only the alerts of the first such rule are left.
-/
import VesselWatch.Alert

set_option autoImplicit false

namespace VesselWatch

/-- The place of the first rule with an id; behind all rules if there is none. -/
def rank (rules : List Rule) (id : String) : Nat := rules.findIdx fun r => r.id == id

/-- The alerts in the order of their rules, those of one rule in their own order, those of unknown
rules last. -/
def byRank (rules : List Rule) (alerts : List Alert) : List Alert :=
  alerts.mergeSort fun a b => rank rules a.ruleId ≤ rank rules b.ruleId

/-- The first exclusive rule of which there is an alert. -/
def winner? (rules : List Rule) (alerts : List Alert) : Option Rule :=
  rules.find? fun r => r.exclusive && alerts.any fun a => a.ruleId == r.id

/-- The alerts that are left of `alerts`. -/
def resolveExclusive (rules : List Rule) (alerts : List Alert) : List Alert :=
  let ordered := byRank rules alerts
  match winner? rules alerts with
  | some r => ordered.filter fun a => a.ruleId == r.id
  | none => ordered

end VesselWatch
