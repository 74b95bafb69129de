/-
  Engine/Update.lean --- changing the rules of a running engine.

  WHAT THIS FILE FIXES.  Rules are matched by id.  A rule that is gone takes its
  memory with it, a new one begins with an empty memory, and a changed one keeps its
  memory and gets a new worker.  A rule whose new definition is the same as the old
  one is left alone.
-/
import VesselWatch.Engine.Basic

set_option autoImplicit false

namespace VesselWatch

/-- What an update did. -/
structure Diff where
  added : List String
  removed : List String
  /-- ids whose definition changed -/
  updated : List String
  /-- how many rules were left alone -/
  unchanged : Nat
  deriving DecidableEq, Repr, Inhabited

namespace Diff

/-- Nothing was done. -/
def none : Diff := ⟨[], [], [], 0⟩

/-- The update changed nothing. -/
def isNoop (d : Diff) : Bool := d.added.isEmpty && d.removed.isEmpty && d.updated.isEmpty

end Diff

namespace Engine

/-- The engine without rules that are not kept. -/
def retain (keep : String → Bool) (en : Engine) : Engine :=
  let gone := (en.rules.filter fun r => !keep r.id).map (·.id)
  { en with
    rules := en.rules.filter fun r => keep r.id
    workers := en.workers.filter fun w => !gone.contains w.1
    states := en.states.filter fun s => !gone.contains s.1 }

/-- Puts a definition in the place of the first rule with its id. -/
def replaceRule (r : Rule) : List Rule → List Rule
  | [] => []
  | old :: rest => if old.id == r.id then r :: rest else old :: replaceRule r rest

/-- Starts a worker for a rule, if it is enabled and workers run, and puts the rules in order. -/
def settle (r : Rule) (en : Engine) : Engine :=
  let en := if en.started && r.enabled then en.startWorker r else en
  { en with rules := Rule.byPriority en.rules }

/-- Adds a rule or replaces the one with its id. -/
def upsert (r : Rule) (en : Engine) (diff : Diff) : Engine × Diff :=
  match en.rules.find? fun old => old.id == r.id with
  | some old =>
    if old.same r then (en, { diff with unchanged := diff.unchanged + 1 })
    else
      let en := { en with
        rules := replaceRule r en.rules
        workers := Assoc.erase r.id en.workers }
      (en.settle r, { diff with updated := diff.updated ++ [r.id] })
  | none =>
    let en := { en with
      rules := en.rules ++ [r]
      states := Assoc.put r.id (RuleState.fresh r.id) en.states }
    (en.settle r, { diff with added := diff.added ++ [r.id] })

/-- Adds or replaces one rule. -/
def updateOne (r : Rule) (en : Engine) : Engine × Diff := en.upsert r Diff.none

/-- The rules by descending priority, those of one priority as they stand in `order`. -/
def ranked (order rules : List Rule) : List Rule :=
  let place (r : Rule) : Nat := order.findIdx fun o => o.id == r.id
  rules.mergeSort fun a b =>
    b.priority < a.priority || (a.priority == b.priority && place a ≤ place b)

/-- Replaces all rules. -/
def updateAll (rules : List Rule) (en : Engine) : Engine × Diff :=
  let incoming := Rule.distinct rules
  let keep (id : String) : Bool := incoming.any fun r => r.id == id
  let removed := (en.rules.filter fun r => !keep r.id).map (·.id)
  let (en, diff) := incoming.foldl (fun (en, diff) r => en.upsert r diff)
    (en.retain keep, { Diff.none with removed := removed })
  ({ en with rules := ranked incoming en.rules }, diff)

end Engine

end VesselWatch
