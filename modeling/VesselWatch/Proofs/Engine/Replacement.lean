/-
  Proofs/Engine/Replacement.lean --- what replacing all rules comes to.

  Rules are supplied one by one, and the list is sorted after each.  Of that nothing is
  seen afterwards: the list holds the last definition of each id, ranked by priority and
  then as supplied, whatever it held before; where the old definition is the same, it is
  the old one that stays (`rules_updateAll`).  The report follows from which ids were
  active and which definitions are the same (`diff_updateAll`), and a list that is
  supplied twice leaves the engine alone the second time (`updateAll_twice`).
-/
import VesselWatch.Proofs.Engine.Ranking
import VesselWatch.Proofs.Engine.Reachable
import VesselWatch.Proofs.Rule.Same

set_option autoImplicit false

namespace VesselWatch

namespace Rule

theorem id_of_same {a b : Rule} (same : a.same b = true) : a.id = b.id := by
  simp only [Rule.same, Bool.and_eq_true, beq_iff_eq] at same
  obtain ⟨⟨⟨⟨⟨⟨⟨hid, -⟩, -⟩, -⟩, -⟩, -⟩, -⟩, -⟩ := same
  exact hid

theorem priority_of_same {a b : Rule} (same : a.same b = true) : a.priority = b.priority := by
  simp only [Rule.same, Bool.and_eq_true, beq_iff_eq] at same
  obtain ⟨⟨⟨⟨⟨⟨⟨-, -⟩, hpriority⟩, -⟩, -⟩, -⟩, -⟩, -⟩ := same
  exact hpriority

/-- What is active after a definition has been supplied is that definition or one that is the
same. -/
theorem supersede_cases (r : Rule) (old : Option Rule) :
    r.supersede old = r ∨ (r.supersede old).same r = true := by
  unfold supersede
  cases old with
  | none => exact Or.inl rfl
  | some o =>
    by_cases hsame : o.same r = true
    · exact Or.inr (by simp [hsame])
    · exact Or.inl (by simp [hsame])

@[simp] theorem id_supersede (r : Rule) (old : Option Rule) : (r.supersede old).id = r.id := by
  rcases r.supersede_cases old with heq | hsame
  · rw [heq]
  · exact id_of_same hsame

@[simp] theorem priority_supersede (r : Rule) (old : Option Rule) :
    (r.supersede old).priority = r.priority := by
  rcases r.supersede_cases old with heq | hsame
  · rw [heq]
  · exact priority_of_same hsame

end Rule

namespace Engine

open Rule

variable {en : Engine}

/-! ## The rules -/

/-- Rules of one priority stand as they were supplied. -/
theorem precedes_updateAll (rules : List Rule) (en : Engine) :
    (en.updateAll rules).1.rules.Pairwise (Precedes (Rule.distinct rules)) := by
  obtain ⟨diff, heq⟩ := updateAll_eq rules en
  rw [heq]
  exact ranked_precedes _ _

/-- The list holds what was supplied, in its order, and nothing of the list before it except that
a definition which is the same stays. -/
theorem WellFormed.rules_updateAll (wf : en.WellFormed) (rules : List Rule) :
    (en.updateAll rules).1.rules =
      (byPriority (Rule.distinct rules)).map fun r => r.supersede (Rule.named r.id en.rules) := by
  let keepOld (r : Rule) : Rule := r.supersede (Rule.named r.id en.rules)
  have hdistinct := nodup_ids_distinct rules
  have hkeeps : ∀ r, (keepOld r).id = r.id := fun r => r.id_supersede _
  have hids : ((byPriority (Rule.distinct rules)).map keepOld).map (·.id) =
      (byPriority (Rule.distinct rules)).map (·.id) := by
    rw [List.map_map]
    exact List.map_congr_left fun r _ => hkeeps r
  have hnodup : (((byPriority (Rule.distinct rules)).map keepOld).map (·.id)).Nodup := by
    rw [hids]
    exact ((byPriority_perm _).map _).symm.nodup hdistinct
  -- Each id names the same rule in both lists, so they are the same but for their order.
  have hperm : (en.updateAll rules).1.rules.Perm
      ((byPriority (Rule.distinct rules)).map keepOld) := by
    refine perm_of_named_eq (wf.updateAll rules).distinct hnodup fun id => ?_
    rw [wf.named_updateAll, named_map hkeeps,
      ← named_perm (byPriority_perm _).symm hdistinct, named_distinct]
    refine Option.map_congr fun r hr => ?_
    rw [← named_distinct] at hr
    have hid : r.id = id := id_of_named hr
    simp only [keepOld, hid]
  -- And both stand by priority and then as they were supplied.
  have hsorted := precedes_updateAll rules en
  have hsorted' : ((byPriority (Rule.distinct rules)).map keepOld).Pairwise
      (Precedes (Rule.distinct rules)) := by
    rw [List.pairwise_map]
    refine (byPriority_precedes hdistinct).imp fun {a b} h => ?_
    simpa only [Precedes, keepOld, id_supersede, priority_supersede] using h
  refine eq_of_precedes hperm (wf.updateAll rules).distinct ?_ hsorted hsorted'
  intro r hr
  have hmember : r.id ∈ (byPriority (Rule.distinct rules)).map (·.id) := by
    rw [← hids]
    exact List.mem_map_of_mem (hperm.mem_iff.mp hr)
  exact ((byPriority_perm _).map _).mem_iff.mp hmember

/-! ## The report -/

theorem diff_upsert (r : Rule) (en : Engine) (diff : Diff) :
    (en.upsert r diff).2 =
      match Rule.named r.id en.rules with
      | some old =>
        if old.same r then { diff with unchanged := diff.unchanged + 1 }
        else { diff with updated := diff.updated ++ [r.id] }
      | none => { diff with added := diff.added ++ [r.id] } := by
  unfold Engine.upsert Rule.named
  cases en.rules.find? fun old => old.id == r.id with
  | none => rfl
  | some old => by_cases hsame : old.same r <;> simp [hsame]

/-- An id is active already, and the definition supplied for it differs. -/
def differs (en : Engine) (r : Rule) : Bool :=
  (Rule.named r.id en.rules).any fun old => !old.same r

/-- An id is active already, and the definition supplied for it is the same. -/
def agrees (en : Engine) (r : Rule) : Bool :=
  (Rule.named r.id en.rules).any fun old => old.same r

theorem WellFormed.diff_upsertAll (wf : en.WellFormed) {rules : List Rule}
    (distinct : (rules.map (·.id)).Nodup) (diff : Diff) :
    (en.upsertAll rules diff).2 =
      { added := diff.added ++
          (rules.filter fun r => (Rule.named r.id en.rules).isNone).map (·.id)
        removed := diff.removed
        updated := diff.updated ++ (rules.filter en.differs).map (·.id)
        unchanged := diff.unchanged + (rules.filter en.agrees).length } := by
  unfold Engine.upsertAll
  induction rules generalizing en diff with
  | nil => simp
  | cons r rest ih =>
    rw [List.map_cons, List.nodup_cons] at distinct
    -- Supplying `r` changes nothing for the ids behind it.
    have hrest : ∀ r' ∈ rest, Rule.named r'.id (en.upsert r diff).1.rules =
        Rule.named r'.id en.rules := by
      intro r' hr'
      rw [wf.named_upsert, if_neg]
      intro hid
      exact distinct.1 (hid ▸ List.mem_map_of_mem hr')
    have hadded : (rest.filter fun r' =>
          (Rule.named r'.id (en.upsert r diff).1.rules).isNone) =
        rest.filter fun r' => (Rule.named r'.id en.rules).isNone :=
      List.filter_congr fun r' hr' => by rw [hrest r' hr']
    have hdiffers : rest.filter (en.upsert r diff).1.differs = rest.filter en.differs :=
      List.filter_congr fun r' hr' => by unfold differs; rw [hrest r' hr']
    have hagrees : rest.filter (en.upsert r diff).1.agrees = rest.filter en.agrees :=
      List.filter_congr fun r' hr' => by unfold agrees; rw [hrest r' hr']
    rw [List.foldl_cons, ih (wf.upsert r diff) distinct.2, hadded, hdiffers, hagrees,
      diff_upsert]
    cases hnamed : Rule.named r.id en.rules with
    | none =>
      have hd : en.differs r = false := by simp [differs, hnamed]
      have ha : en.agrees r = false := by simp [agrees, hnamed]
      simp [hnamed, hd, ha]
    | some old =>
      by_cases hsame : old.same r = true
      · have hd : en.differs r = false := by simp [differs, hnamed, hsame]
        have ha : en.agrees r = true := by simp [agrees, hnamed, hsame]
        simp [hnamed, hd, ha, hsame]
        omega
      · have hd : en.differs r = true := by simp [differs, hnamed, hsame]
        have ha : en.agrees r = false := by simp [agrees, hnamed, hsame]
        simp [hnamed, hd, ha, hsame]

theorem WellFormed.diff_updateAll (wf : en.WellFormed) (rules : List Rule) :
    (en.updateAll rules).2 =
      { added := ((Rule.distinct rules).filter fun r =>
          (Rule.named r.id en.rules).isNone).map (·.id)
        removed := (en.rules.filter fun r => !mentions rules r.id).map (·.id)
        updated := ((Rule.distinct rules).filter en.differs).map (·.id)
        unchanged := ((Rule.distinct rules).filter en.agrees).length } := by
  have hupdate : (en.updateAll rules).2 =
      ((en.retain (mentions rules)).upsertAll (Rule.distinct rules)
        { Diff.none with
          removed := (en.rules.filter fun r => !mentions rules r.id).map (·.id) }).2 := rfl
  have hnamed : ∀ r ∈ Rule.distinct rules,
      Rule.named r.id (en.retain (mentions rules)).rules = Rule.named r.id en.rules := by
    intro r hr
    have hmention : mentions rules r.id = true :=
      List.any_eq_true.mpr ⟨r, hr, beq_self_eq_true _⟩
    rw [named_retain, hmention, if_pos rfl]
  have hadded : ((Rule.distinct rules).filter fun r =>
        (Rule.named r.id (en.retain (mentions rules)).rules).isNone) =
      (Rule.distinct rules).filter fun r => (Rule.named r.id en.rules).isNone :=
    List.filter_congr fun r hr => by rw [hnamed r hr]
  have hdiffers : (Rule.distinct rules).filter (en.retain (mentions rules)).differs =
      (Rule.distinct rules).filter en.differs :=
    List.filter_congr fun r hr => by unfold differs; rw [hnamed r hr]
  have hagrees : (Rule.distinct rules).filter (en.retain (mentions rules)).agrees =
      (Rule.distinct rules).filter en.agrees :=
    List.filter_congr fun r hr => by unfold agrees; rw [hnamed r hr]
  rw [hupdate, (wf.retain _).diff_upsertAll (nodup_ids_distinct rules), hadded, hdiffers,
    hagrees]
  simp [Diff.none]

/-- Each rule supplied is reported once: as added, as updated, or among the unchanged. -/
theorem length_reported (en : Engine) (rules : List Rule) :
    (rules.filter fun r => (Rule.named r.id en.rules).isNone).length +
      (rules.filter en.differs).length + (rules.filter en.agrees).length = rules.length := by
  induction rules with
  | nil => rfl
  | cons r rest ih =>
    unfold differs agrees at ih ⊢
    cases hnamed : Rule.named r.id en.rules with
    | none =>
      simp [hnamed]
      omega
    | some old =>
      by_cases hsame : old.same r = true
      · simp [hnamed, hsame]
        omega
      · simp [hnamed, hsame]
        omega

/-! ## Nothing new -/

theorem retain_of_all {keep : String → Bool} (all : ∀ r ∈ en.rules, keep r.id = true) :
    en.retain keep = en := by
  have hrules : (en.rules.filter fun r => keep r.id) = en.rules := List.filter_eq_self.mpr all
  have hgone : (en.rules.filter fun r => !keep r.id) = [] := by
    rw [List.filter_eq_nil_iff]
    intro r hr
    simp [all r hr]
  simp [Engine.retain, hrules, hgone]

theorem upsertAll_of_agrees {rules : List Rule} (agrees : ∀ r ∈ rules, en.agrees r = true)
    (diff : Diff) :
    en.upsertAll rules diff =
      (en, { diff with unchanged := diff.unchanged + rules.length }) := by
  unfold Engine.upsertAll
  induction rules generalizing diff with
  | nil => rfl
  | cons r rest ih =>
    rw [List.forall_mem_cons] at agrees
    obtain ⟨hr, hrest⟩ := agrees
    obtain ⟨old, hnamed, hsame⟩ := (Option.any_eq_true _ _).mp hr
    have hupsert : en.upsert r diff =
        (en, { diff with unchanged := diff.unchanged + 1 }) := by
      unfold Engine.upsert
      rw [show (en.rules.find? fun old => old.id == r.id) = some old from hnamed]
      simp [hsame]
    rw [List.foldl_cons, hupsert, ih hrest, List.length_cons]
    simp only [Prod.mk.injEq, true_and, Diff.mk.injEq]
    omega

/-- Where every active rule is mentioned, nothing is dropped. -/
theorem updateAll_of_mentioned {rules : List Rule}
    (mentioned : ∀ r ∈ en.rules, mentions rules r.id = true) :
    en.updateAll rules =
      let p := en.upsertAll (Rule.distinct rules) Diff.none
      ({ p.1 with rules := ranked (Rule.distinct rules) p.1.rules }, p.2) := by
  have hgone : (en.rules.filter fun r => !mentions rules r.id) = [] := by
    rw [List.filter_eq_nil_iff]
    intro r hr
    simp [mentioned r hr]
  have hupdate : en.updateAll rules =
      let p := (en.retain (mentions rules)).upsertAll (Rule.distinct rules)
        { Diff.none with
          removed := (en.rules.filter fun r => !mentions rules r.id).map (·.id) }
      ({ p.1 with rules := ranked (Rule.distinct rules) p.1.rules }, p.2) := rfl
  rw [hupdate, retain_of_all mentioned, hgone]
  rfl

/-- Definitions that are the same as the active ones, supplied for all of these in their order,
leave the engine as it is. -/
theorem updateAll_of_agrees {rules : List Rule}
    (mentioned : ∀ r ∈ en.rules, mentions rules r.id = true)
    (agrees : ∀ r ∈ Rule.distinct rules, en.agrees r = true)
    (sorted : en.rules.Pairwise (Precedes (Rule.distinct rules))) :
    en.updateAll rules = (en, ⟨[], [], [], (Rule.distinct rules).length⟩) := by
  rw [updateAll_of_mentioned mentioned, upsertAll_of_agrees agrees]
  simp [ranked_of_precedes sorted, Diff.none]

/-- What has just been supplied leaves the engine as it is when it is supplied again, if each
definition is the same as itself. -/
theorem WellFormed.updateAll_twice (wf : en.WellFormed) {rules : List Rule}
    (reflexive : ∀ r ∈ Rule.distinct rules, r.same r = true) :
    (en.updateAll rules).1.updateAll rules =
      ((en.updateAll rules).1, ⟨[], [], [], (Rule.distinct rules).length⟩) := by
  have hdistinct := nodup_ids_distinct rules
  have hnamed := wf.named_updateAll rules
  refine updateAll_of_agrees ?_ ?_ ?_
  · intro r hr
    have hfound := (named_eq_some_iff (wf.updateAll rules).distinct).mpr ⟨hr, rfl⟩
    rw [hnamed, Option.map_eq_some_iff] at hfound
    obtain ⟨last, hlast, -⟩ := hfound
    rw [mentions_eq, hlast]
    rfl
  · intro r hr
    have hlast : lastNamed r.id rules = some r := by
      rw [← named_distinct, named_eq_some_iff hdistinct]
      exact ⟨hr, rfl⟩
    unfold agrees
    rw [hnamed, hlast, Option.map_some, Option.any_some]
    rcases r.supersede_cases (Rule.named r.id en.rules) with heq | hsame
    · rw [heq]
      exact reflexive r hr
    · exact hsame
  · exact precedes_updateAll rules en

/-! ## The update as a whole -/

theorem mentions_iff {rules : List Rule} {id : String} :
    mentions rules id = true ↔ id ∈ (distinct rules).map (·.id) := by
  rw [mentions_eq, ← named_distinct, named_isSome_iff]

theorem mem_of_mem_distinct {rules : List Rule} {r : Rule} (member : r ∈ distinct rules) :
    r ∈ rules := by
  obtain ⟨p, hp, rfl⟩ := List.mem_map.mp member
  obtain ⟨r, hr, rfl⟩ := List.mem_map.mp (Assoc.mem_of_mem_ofList hp)
  exact hr

theorem WellFormed.removed_updateAll (wf : en.WellFormed) (rules : List Rule) :
    (en.updateAll rules).2.removed =
      (en.rules.map (·.id)).filter (· ∉ (Rule.distinct rules).map (·.id)) := by
  rw [wf.diff_updateAll, List.filter_map]
  refine congrArg (List.map Rule.id) (List.filter_congr fun r _ => ?_)
  rw [Bool.eq_iff_iff, Bool.not_eq_true', ← Bool.not_eq_true, mentions_iff, Function.comp_apply,
    decide_eq_true_iff]

theorem WellFormed.added_updateAll (wf : en.WellFormed) (rules : List Rule) :
    (en.updateAll rules).2.added =
      ((Rule.distinct rules).map (·.id)).filter (· ∉ en.rules.map (·.id)) := by
  rw [wf.diff_updateAll, List.filter_map]
  refine congrArg (List.map Rule.id) (List.filter_congr fun r _ => ?_)
  rw [Bool.eq_iff_iff, Function.comp_apply, decide_eq_true_iff, ← named_isSome_iff,
    Option.not_isSome_iff_eq_none, Option.isNone_iff_eq_none]

/-- An id that is supplied has the memory that it had or, if it was not active, an empty one; an
id that is not supplied has none. -/
theorem WellFormed.state?_updateAll_cases (wf : en.WellFormed) (rules : List Rule) (id : String) :
    (en.updateAll rules).1.state? id =
      if id ∈ (Rule.distinct rules).map (·.id) then
        if id ∈ en.rules.map (·.id) then en.state? id else some (RuleState.fresh id)
      else none := by
  have hstate := wf.state?_updateAll rules id
  split
  · next hid =>
    rw [← named_isSome_iff, named_distinct] at hid
    obtain ⟨r, hlast⟩ := Option.isSome_iff_exists.mp hid
    rw [hlast, Option.map_some] at hstate
    split
    · next hactive =>
      rw [hstate, wf.state?_eq_memory (named_isSome_iff.mpr hactive)]
    · next habsent =>
      have hnone : en.state? id = none := wf.state?_eq_none (named_eq_none_iff.mpr habsent)
      rw [hstate, memory, hnone, Option.getD_none]
  · next hid =>
    have hlast : lastNamed id rules = none := by
      rw [← named_distinct, named_eq_none_iff]
      exact hid
    rw [hstate, hlast, Option.map_none]

/-- Item by item the active definitions are the same as those supplied, unless a NaN is among
them. -/
theorem WellFormed.sameList_updateAll (wf : en.WellFormed) {rules : List Rule}
    (reflexive : ∀ r ∈ Rule.distinct rules, r.same r = true) :
    sameList Rule.same (en.updateAll rules).1.rules (byPriority (Rule.distinct rules)) = true := by
  rw [wf.rules_updateAll, sameList_iff, List.forall₂_map_left_iff, List.forall₂_same]
  intro r hr
  rcases r.supersede_cases (Rule.named r.id en.rules) with heq | hsame
  · rw [heq]
    exact reflexive r ((byPriority_perm _).mem_iff.mp hr)
  · exact hsame

/-- After an update of all rules the engine has the last definition of each id, in the order of
their priorities and then of the list, whatever it had before; it reports each id once, and keeps
the memories of those that stay.  A second update by the same list, if there is no NaN in it, finds
nothing to do. -/
theorem Reachable.updateAll_replaces (reachable : en.Reachable) (rules : List Rule) :
    let incoming := lastOfEach rules
    let ids := incoming.map (·.id)
    let old := en.rules.map (·.id)
    let next := (en.updateAll rules).1
    let diff := (en.updateAll rules).2
    List.Forall₂ (fun active r => active = r ∨ active.same r = true) next.rules
      (byPriority incoming) ∧
    diff.removed = old.filter (· ∉ ids) ∧
    diff.added = ids.filter (· ∉ old) ∧
    diff.updated = (incoming.filter fun r =>
      (Rule.named r.id en.rules).any fun active => !active.same r).map (·.id) ∧
    diff.unchanged = (incoming.filter fun r =>
      (Rule.named r.id en.rules).any fun active => active.same r).length ∧
    diff.added.length + diff.updated.length + diff.unchanged = incoming.length ∧
    (∀ id ∈ ids, id ∈ old → next.state? id = en.state? id) ∧
    (∀ id ∈ ids, id ∉ old → next.state? id = some (RuleState.fresh id)) ∧
    (∀ id, id ∉ ids → next.state? id = none) ∧
    ((∀ r ∈ rules, r.Proper) →
      sameList Rule.same next.rules (byPriority incoming) = true ∧
      next.updateAll rules = (next, ⟨[], [], [], incoming.length⟩)) := by
  have wf := reachable.wellFormed
  have hdiff := wf.diff_updateAll rules
  have hstate := wf.state?_updateAll_cases rules
  simp only [← distinct_eq_lastOfEach]
  refine ⟨?_, wf.removed_updateAll rules, wf.added_updateAll rules, ?_, ?_, ?_, ?_, ?_, ?_, ?_⟩
  · rw [wf.rules_updateAll, List.forall₂_map_left_iff, List.forall₂_same]
    exact fun r _ => r.supersede_cases _
  · rw [hdiff]
    rfl
  · rw [hdiff]
    rfl
  · rw [hdiff]
    simpa using length_reported en (distinct rules)
  · intro id hid hold
    rw [hstate, if_pos hid, if_pos hold]
  · intro id hid hold
    rw [hstate, if_pos hid, if_neg hold]
  · intro id hid
    rw [hstate, if_neg hid]
  · intro proper
    have hreflexive : ∀ r ∈ distinct rules, r.same r = true := fun r hr =>
      Rule.same_self (proper r (mem_of_mem_distinct hr))
    exact ⟨wf.sameList_updateAll hreflexive, wf.updateAll_twice hreflexive⟩

theorem proper_sighting (id : String) (priority : Int) (enabled exclusive : Bool) :
    (sighting id priority enabled exclusive).Proper := by
  intro c hc
  rw [sighting, List.mem_singleton] at hc
  rw [hc]
  trivial

/-- One rule goes, one comes, and one is supplied twice, the second time as it was. -/
theorem updateAll_replaces_sighting :
    let en := Engine.ofRules [sighting "b" 2 true true, sighting "a" 1 true false]
    let rules := [sighting "b" 3 true false, sighting "c" 1 true true, sighting "b" 2 true true]
    en.Reachable ∧ (∀ r ∈ rules, r.Proper) ∧
      (en.updateAll rules).2.removed = ["a"] ∧ (en.updateAll rules).2.added = ["c"] ∧
      (en.updateAll rules).2.updated = [] ∧ (en.updateAll rules).2.unchanged = 1 ∧
      (en.updateAll rules).1.updateAll rules = ((en.updateAll rules).1, ⟨[], [], [], 2⟩) := by
  intro en rules
  have reachable : en.Reachable := Reachable.ofRules _
  have hrules : en.rules = [sighting "b" 2 true true, sighting "a" 1 true false] :=
    rules_ofRules_sighting true
  have proper : ∀ r ∈ rules, r.Proper := by
    intro r hr
    simp only [rules, List.mem_cons, List.not_mem_nil, or_false] at hr
    rcases hr with rfl | rfl | rfl <;> exact proper_sighting _ _ _ _
  obtain ⟨-, hremoved, hadded, hupdated, hunchanged, -, -, -, -, htwice⟩ :=
    reachable.updateAll_replaces rules
  refine ⟨reachable, proper, ?_, ?_, ?_, ?_, (htwice proper).2⟩
  · rw [hremoved, hrules]
    decide
  · rw [hadded, hrules]
    decide
  · rw [hupdated, hrules]
    decide
  · rw [hunchanged, hrules]
    decide

end Engine

end VesselWatch
