/-
  Proofs/Engine/Agreement.lean --- the ways of installing rules agree.

  Rules come into an engine with the engine, as a whole list, or one by one.  The first two
  lead to one engine (`updateAll_empty`).  One rule that is supplied to a running engine does
  what the whole list does in which it stands in the place of its id
  (`WellFormed.updateAll_withRule`): the rules around it are found to be the same and left
  alone, and the sort behind the single rule and the ranking behind the list give it the same
  place.
-/
import VesselWatch.Proofs.Engine.Session

set_option autoImplicit false

namespace VesselWatch

namespace Rule

variable {rules others : List Rule}

/-! ## A list with one more definition -/

/-- The rules with `r` in the place of the rule of its id, or at their end if there is none. -/
def withRule (r : Rule) (rules : List Rule) : List Rule :=
  if r.id ∈ rules.map (·.id) then rules.map fun old => if old.id = r.id then r else old
  else rules ++ [r]

theorem map_replace_of_notMem {r : Rule} (absent : r.id ∉ rules.map (·.id)) :
    (rules.map fun old => if old.id = r.id then r else old) = rules := by
  have hother : ∀ old ∈ rules, (if old.id = r.id then r else old) = old := by
    intro old hold
    exact if_neg fun hid => absent (List.mem_map.mpr ⟨old, hold, hid⟩)
  exact (List.map_congr_left hother).trans (List.map_id' rules)

/-- Around the place of `r` the list stays as it was. -/
theorem exists_withRule_eq (distinct : (rules.map (·.id)).Nodup) (r : Rule) :
    ∃ before after, withRule r rules = before ++ r :: after ∧
      rules = before ++ ((named r.id rules).toList ++ after) := by
  cases hnamed : named r.id rules with
  | none =>
    refine ⟨rules, [], ?_, by simp⟩
    rw [withRule, if_neg (named_eq_none_iff.mp hnamed)]
  | some old =>
    obtain ⟨before, after, rfl⟩ := List.append_of_mem (mem_of_named hnamed)
    have hid : old.id = r.id := id_of_named hnamed
    rw [List.map_append, List.map_cons, hid, List.nodup_middle, List.nodup_cons,
      List.mem_append, not_or] at distinct
    refine ⟨before, after, ?_, rfl⟩
    rw [withRule, if_pos (by simp [hid]), List.map_append, List.map_cons, if_pos hid,
      map_replace_of_notMem distinct.1.1, map_replace_of_notMem distinct.1.2]

theorem ids_withRule (r : Rule) (rules : List Rule) :
    (withRule r rules).map (·.id) =
      if r.id ∈ rules.map (·.id) then rules.map (·.id) else rules.map (·.id) ++ [r.id] := by
  unfold withRule
  split
  · rw [List.map_map]
    refine List.map_congr_left fun old _ => ?_
    by_cases hid : old.id = r.id <;> simp [hid]
  · rw [List.map_append, List.map_singleton]

theorem nodup_ids_withRule (distinct : (rules.map (·.id)).Nodup) (r : Rule) :
    ((withRule r rules).map (·.id)).Nodup := by
  rw [ids_withRule]
  split
  · exact distinct
  · next absent => exact List.nodup_append_comm.mp (List.nodup_cons.mpr ⟨absent, distinct⟩)

theorem replaceRule_eq_map {r : Rule} (distinct : (rules.map (·.id)).Nodup) :
    Engine.replaceRule r rules = rules.map fun old => if old.id = r.id then r else old := by
  induction rules with
  | nil => rfl
  | cons old rest ih =>
    rw [List.map_cons, List.nodup_cons] at distinct
    by_cases hid : old.id = r.id
    · have habsent : r.id ∉ rest.map (·.id) := hid ▸ distinct.1
      simp [Engine.replaceRule, hid, map_replace_of_notMem habsent]
    · simp [Engine.replaceRule, hid, ih distinct.2]

/-- The place of an id in a list of rules is its place in the row of their ids. -/
theorem rank_congr (ids : rules.map (·.id) = others.map (·.id)) : rank rules = rank others := by
  have hrank : ∀ list : List Rule, rank list = fun id => (list.map (·.id)).findIdx (· == id) := by
    intro list
    funext id
    rw [List.findIdx_map]
    rfl
  rw [hrank, hrank, ids]

end Rule

namespace Engine

open Rule

variable {en : Engine}

/-! ## One rule, or the list with it -/

/-- Supplying one rule leaves the rules in the order that the list with it gives them. -/
theorem WellFormed.precedes_updateOne (wf : en.WellFormed) (r : Rule) :
    (en.updateOne r).1.rules.Pairwise (Precedes (withRule r en.rules)) := by
  have hsorted : (byPriority (withRule r en.rules)).Pairwise (Precedes (withRule r en.rules)) :=
    byPriority_precedes (nodup_ids_withRule wf.distinct r)
  have hrules := rules_upsert r en Diff.none
  cases hnamed : named r.id en.rules with
  | none =>
    rw [withRule, if_neg (named_eq_none_iff.mp hnamed)] at hsorted ⊢
    rw [updateOne, hrules, hnamed]
    exact hsorted
  | some old =>
    have hmember : r.id ∈ en.rules.map (·.id) := by
      rw [← named_isSome_iff, hnamed]
      rfl
    have hreplaced : withRule r en.rules = replaceRule r en.rules := by
      rw [withRule, if_pos hmember, replaceRule_eq_map wf.distinct]
    rw [hreplaced] at hsorted ⊢
    rw [updateOne, hrules, hnamed]
    cases hsame : old.same r with
    | true =>
      -- The old definition stays, and with it the list, which has the ids of the new one.
      have hrank : rank (replaceRule r en.rules) = rank en.rules :=
        rank_congr (ids_replaceRule r)
      have hkept := byPriority_precedes wf.distinct
      rw [byPriority_of_descending wf.descending] at hkept
      simp only [hsame, if_true]
      unfold Precedes at hkept ⊢
      rw [hrank]
      exact hkept
    | false =>
      simp only [hsame, Bool.false_eq_true, if_false]
      exact hsorted

/-- A rule that is supplied behind others that were found to be the same. -/
theorem upsert_counting (r : Rule) (en : Engine) (unchanged : Nat) :
    en.upsert r { Diff.none with unchanged := unchanged } =
      ((en.updateOne r).1,
        { (en.updateOne r).2 with unchanged := (en.updateOne r).2.unchanged + unchanged }) := by
  unfold updateOne Engine.upsert
  cases en.rules.find? fun old => old.id == r.id with
  | none => simp [Diff.none]
  | some old => by_cases hsame : old.same r <;> simp [hsame, Diff.none, Nat.add_comm]

theorem upsertAll_append (before after : List Rule) (en : Engine) (diff : Diff) :
    en.upsertAll (before ++ after) diff =
      (en.upsertAll before diff).1.upsertAll after (en.upsertAll before diff).2 :=
  List.foldl_append

theorem upsertAll_cons (r : Rule) (rest : List Rule) (en : Engine) (diff : Diff) :
    en.upsertAll (r :: rest) diff = (en.upsert r diff).1.upsertAll rest (en.upsert r diff).2 :=
  rfl

/-- Of the rules of the list only `r` has news for the engine. -/
theorem WellFormed.upsertAll_withRule (wf : en.WellFormed) (r : Rule)
    (reflexive : ∀ old ∈ en.rules, old.id ≠ r.id → old.same old = true) :
    en.upsertAll (withRule r en.rules) Diff.none =
      ((en.updateOne r).1,
        { (en.updateOne r).2 with
          unchanged := (en.updateOne r).2.unchanged + ((withRule r en.rules).length - 1) }) := by
  have hnodup := nodup_ids_withRule wf.distinct r
  obtain ⟨before, after, heq, hrules⟩ := exists_withRule_eq wf.distinct r
  rw [heq, List.map_append, List.map_cons, List.nodup_middle, List.nodup_cons,
    ← List.map_append] at hnodup
  -- The rules around `r` are active as they are supplied, before and after `r` is.
  have hactive : ∀ old ∈ before ++ after, old.id ≠ r.id ∧ named old.id en.rules = some old ∧
      old.same old = true := by
    intro old hold
    have hother : old.id ≠ r.id := fun hid => hnodup.1 (List.mem_map.mpr ⟨old, hold, hid⟩)
    have hmember : old ∈ en.rules := by
      rw [hrules]
      rcases List.mem_append.mp hold with hold | hold
      · exact List.mem_append_left _ hold
      · exact List.mem_append_right _ (List.mem_append_right _ hold)
    exact ⟨hother, (named_eq_some_iff wf.distinct).mpr ⟨hmember, rfl⟩,
      reflexive old hmember hother⟩
  have hbefore : ∀ old ∈ before, en.agrees old = true := by
    intro old hold
    obtain ⟨-, hnamed, hsame⟩ := hactive old (List.mem_append_left _ hold)
    rw [agrees, hnamed]
    exact hsame
  have hafter : ∀ old ∈ after, (en.updateOne r).1.agrees old = true := by
    intro old hold
    obtain ⟨hother, hnamed, hsame⟩ := hactive old (List.mem_append_right _ hold)
    rw [agrees, updateOne, wf.named_upsert, if_neg hother.symm, hnamed]
    exact hsame
  rw [heq, upsertAll_append, upsertAll_of_agrees hbefore, upsertAll_cons, upsert_counting,
    upsertAll_of_agrees hafter]
  simp [Diff.none]
  omega

/-- One rule that is supplied does what the list with it does, if each other active definition is
the same as itself; the list also reports on these. -/
theorem WellFormed.updateAll_withRule (wf : en.WellFormed) (r : Rule)
    (reflexive : ∀ old ∈ en.rules, old.id ≠ r.id → old.same old = true) :
    en.updateAll (withRule r en.rules) =
      ((en.updateOne r).1,
        { (en.updateOne r).2 with
          unchanged := (en.updateOne r).2.unchanged + ((withRule r en.rules).length - 1) }) := by
  have hdistinct : Rule.distinct (withRule r en.rules) = withRule r en.rules :=
    distinct_of_nodup (nodup_ids_withRule wf.distinct r)
  have hmentioned : ∀ old ∈ en.rules, mentions (withRule r en.rules) old.id = true := by
    intro old hold
    have hid : old.id ∈ en.rules.map (·.id) := List.mem_map_of_mem hold
    rw [mentions_iff, hdistinct, ids_withRule]
    split
    · exact hid
    · exact List.mem_append_left _ hid
  rw [updateAll_of_mentioned hmentioned, hdistinct, wf.upsertAll_withRule r reflexive]
  simp only [ranked_of_precedes (wf.precedes_updateOne r)]

/-! ## The engine with the list, or the list for an engine without rules -/

/-- A rule whose id is new gets an empty memory behind all others. -/
theorem WellFormed.states_upsert_of_new (wf : en.WellFormed) {r : Rule}
    (new : named r.id en.rules = none) (diff : Diff) :
    (en.upsert r diff).1.states = en.states ++ [(r.id, RuleState.fresh r.id)] := by
  have hkey : r.id ∉ en.states.map (·.1) := by
    rw [← Assoc.lookup_eq_none_iff_not_mem_keys]
    exact wf.state?_eq_none new
  unfold Engine.upsert
  rw [show (en.rules.find? fun old => old.id == r.id) = none from new, states_settle]
  exact Assoc.put_of_notMem _ hkey

theorem WellFormed.states_upsertAll_of_new (wf : en.WellFormed) {rules : List Rule}
    (distinct : (rules.map (·.id)).Nodup) (new : ∀ r ∈ rules, named r.id en.rules = none)
    (diff : Diff) :
    (en.upsertAll rules diff).1.states =
      en.states ++ rules.map fun r => (r.id, RuleState.fresh r.id) := by
  induction rules generalizing en diff with
  | nil => exact (List.append_nil _).symm
  | cons r rest ih =>
    rw [List.map_cons, List.nodup_cons] at distinct
    rw [List.forall_mem_cons] at new
    have hrest : ∀ r' ∈ rest, named r'.id (en.upsert r diff).1.rules = none := by
      intro r' hr'
      rw [wf.named_upsert, if_neg fun hid => distinct.1 (List.mem_map.mpr ⟨r', hr', hid.symm⟩)]
      exact new.2 r' hr'
    rw [upsertAll_cons, ih (wf.upsert r diff) distinct.2 hrest, wf.states_upsert_of_new new.1,
      List.append_assoc]
    rfl

/-- The rules that an engine begins with may as well be supplied to one without rules. -/
theorem updateAll_empty (rules : List Rule) :
    (Engine.empty.updateAll rules).1 = Engine.ofRules rules := by
  have wf : Engine.empty.WellFormed := wellFormed_empty
  have hstarted : (Engine.empty.updateAll rules).1.started = false := wf.started_updateAll rules
  have hrules : (Engine.empty.updateAll rules).1.rules = byPriority (Rule.distinct rules) := by
    rw [wf.rules_updateAll]
    exact List.map_id' _
  have hstates : (Engine.empty.updateAll rules).1.states =
      (Rule.distinct rules).map fun r => (r.id, RuleState.fresh r.id) := by
    have hmentioned : ∀ r ∈ Engine.empty.rules, mentions rules r.id = true := fun _ hr =>
      absurd hr List.not_mem_nil
    rw [updateAll_of_mentioned hmentioned]
    exact wf.states_upsertAll_of_new (nodup_ids_distinct rules) (fun _ _ => rfl) Diff.none
  have hworkers : (Engine.empty.updateAll rules).1.workers = [] :=
    (wf.updateAll rules).workers_eq_nil hstarted
  cases hnext : (Engine.empty.updateAll rules).1 with
  | mk rules' workers' states' started' =>
    rw [hnext] at hstarted hrules hstates hworkers
    simp only at hstarted hrules hstates hworkers
    rw [hstarted, hrules, hstates, hworkers]
    rfl

/-! ## All ways of installing rules -/

/-- Rules that an engine begins with, and the same list supplied to an engine without rules, lead
to one engine, whose memories are empty.  A single rule does to an engine what the active rules do
with it in the place of its id or behind them, and both report the same changes; for this the other
active definitions must be free of NaNs, without which they would count as changed. -/
theorem updates_agree :
    (∀ rules, (Engine.empty.updateAll rules).1 = Engine.ofRules rules ∧
      ∀ p ∈ (Engine.ofRules rules).states, p.2 = RuleState.fresh p.1) ∧
    ∀ en : Engine, en.Reachable → ∀ r : Rule,
      (∀ old ∈ en.rules, old.id ≠ r.id → old.Proper) →
      let one := en.updateOne r
      let all := en.updateAll (withRule r en.rules)
      all.1 = one.1 ∧ all.2.added = one.2.added ∧ all.2.updated = one.2.updated ∧
        all.2.removed = one.2.removed := by
  refine ⟨fun rules => ⟨updateAll_empty rules, ?_⟩, ?_⟩
  · intro p hp
    obtain ⟨r, -, rfl⟩ := List.mem_map.mp hp
    rfl
  · intro en reachable r proper
    have hall := reachable.wellFormed.updateAll_withRule r fun old hold hother =>
      Rule.same_self (proper old hold hother)
    simp only [hall, and_self]

/-- A rule that overtakes another one does so in both ways. -/
theorem updates_agree_sighting :
    let en := Engine.ofRules [sighting "b" 2 true true, sighting "a" 1 true false]
    let r := sighting "a" 3 false false
    en.Reachable ∧ (∀ old ∈ en.rules, old.id ≠ r.id → old.Proper) ∧
      (en.updateAll (withRule r en.rules)).1 = (en.updateOne r).1 ∧
      (en.updateAll (withRule r en.rules)).2.updated = ["a"] := by
  intro en r
  have hrules : en.rules = [sighting "b" 2 true true, sighting "a" 1 true false] :=
    rules_ofRules_sighting true
  have proper : ∀ old ∈ en.rules, old.id ≠ r.id → old.Proper := by
    intro old hold _
    rw [hrules, List.mem_cons, List.mem_singleton] at hold
    rcases hold with rfl | rfl <;> exact proper_sighting _ _ _ _
  have reachable : en.Reachable := .ofRules _
  obtain ⟨hengine, -, hupdated, -⟩ := updates_agree.2 en reachable r proper
  refine ⟨reachable, proper, hengine, ?_⟩
  rw [hupdated, updateOne, diff_upsert, hrules]
  decide

end Engine

end VesselWatch
