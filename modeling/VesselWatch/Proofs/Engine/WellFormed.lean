/-
  Proofs/Engine/WellFormed.lean --- what holds of an engine at all times.

  The rules, the workers and the memories of an engine are kept apart, and each
  operation changes them one by one.  `WellFormed` ties them together by id: each
  rule has a memory of its own, and once the workers have been started each enabled
  rule has one, which runs its present definition.

  An operation is described by what an id names and remembers afterwards
  (`named_upsert`, `state?_upsert` and so on); that it keeps the engine well formed is
  derived from these descriptions.
-/
import VesselWatch.Proofs.Engine.Rules
import VesselWatch.Proofs.Rule.Evaluate

set_option autoImplicit false

namespace VesselWatch

namespace Engine

open Rule

/-- The rules, workers and memories of an engine belong together. -/
structure WellFormed (en : Engine) : Prop where
  /-- no two rules have one id -/
  distinct : (en.rules.map (·.id)).Nodup
  /-- rules of higher priority come first -/
  descending : Descending en.rules
  /-- no id has two memories -/
  stateKeys : (en.states.map (·.1)).Nodup
  /-- an id has a memory just when it names a rule -/
  remembered : ∀ id, (en.state? id).isSome ↔ (named id en.rules).isSome
  /-- a memory bears the id of its rule -/
  owned : ∀ id s, en.state? id = some s → s.ruleId = id
  /-- no id has two workers -/
  workerKeys : (en.workers.map (·.1)).Nodup
  /-- the workers run the enabled rules, once they have been started -/
  staffed : ∀ id, (en.workers.lookup id).map (·.rule) =
    if en.started then (named id en.rules).filter (·.enabled) else none
  /-- only the worker of a rule that stops its worker has exited -/
  halted : ∀ id w, en.workers.lookup id = some w → w.exited = true → w.rule.Halts

/-! ## Consequences -/

variable {en : Engine}

theorem WellFormed.state?_eq_memory (wf : en.WellFormed) {id : String}
    (active : (named id en.rules).isSome) : en.state? id = some (en.memory id) := by
  obtain ⟨s, hs⟩ := Option.isSome_iff_exists.mp ((wf.remembered id).mpr active)
  simp [memory, hs]

theorem WellFormed.state?_eq_none (wf : en.WellFormed) {id : String}
    (absent : named id en.rules = none) : en.state? id = none := by
  rw [← Option.not_isSome_iff_eq_none, wf.remembered id, absent]
  simp

theorem WellFormed.memory_ruleId (wf : en.WellFormed) (id : String) :
    (en.memory id).ruleId = id := by
  unfold memory
  cases hs : en.state? id with
  | none => rfl
  | some s => exact wf.owned id s hs

theorem WellFormed.workers_eq_nil (wf : en.WellFormed) (idle : en.started = false) :
    en.workers = [] := by
  have hkeys : en.workers.map (·.1) = [] := by
    refine List.eq_nil_iff_forall_not_mem.mpr fun id member => ?_
    have hnone := wf.staffed id
    rw [idle, if_neg Bool.false_ne_true, Option.map_eq_none_iff] at hnone
    exact Assoc.lookup_eq_none_iff_not_mem_keys.mp hnone member
  exact List.map_eq_nil_iff.mp hkeys

/-- In a started engine the worker of an id runs the enabled rule that the id names. -/
theorem WellFormed.worker_rule (wf : en.WellFormed) {id : String} {w : Worker}
    (found : en.workers.lookup id = some w) :
    named id en.rules = some w.rule ∧ w.rule.enabled = true := by
  have hstaffed := wf.staffed id
  rw [found, Option.map_some] at hstaffed
  split at hstaffed
  · exact Option.filter_eq_some_iff.mp hstaffed.symm
  · cases hstaffed

/-- In a started engine each enabled rule has a worker, which runs it. -/
theorem WellFormed.worker_of_enabled (wf : en.WellFormed) (running : en.started = true)
    {r : Rule} (member : r ∈ en.rules) (enabled : r.enabled = true) :
    ∃ w, en.workers.lookup r.id = some w ∧ w.rule = r := by
  have hstaffed := wf.staffed r.id
  rw [if_pos running, (named_eq_some_iff wf.distinct).mpr ⟨member, rfl⟩,
    Option.filter_some_pos enabled, Option.map_eq_some_iff] at hstaffed
  exact hstaffed

theorem WellFormed.mem_workerKeys (wf : en.WellFormed) (running : en.started = true)
    (id : String) :
    id ∈ en.workers.map (·.1) ↔ id ∈ (en.rules.filter (·.enabled)).map (·.id) := by
  rw [← Assoc.lookup_isSome_iff_mem_keys]
  constructor
  · intro h
    obtain ⟨w, found⟩ := Option.isSome_iff_exists.mp h
    obtain ⟨hnamed, enabled⟩ := wf.worker_rule found
    rw [← id_of_named hnamed]
    exact List.mem_map_of_mem (List.mem_filter.mpr ⟨mem_of_named hnamed, enabled⟩)
  · intro h
    obtain ⟨r, hr, rfl⟩ := List.mem_map.mp h
    obtain ⟨member, enabled⟩ := List.mem_filter.mp hr
    obtain ⟨w, found, -⟩ := wf.worker_of_enabled running member enabled
    rw [found]
    rfl

/-! ## New engines -/

theorem wellFormed_empty : Engine.empty.WellFormed where
  distinct := List.nodup_nil
  descending := List.Pairwise.nil
  stateKeys := List.nodup_nil
  remembered := fun _ => Iff.rfl
  owned := fun _ _ h => by cases h
  workerKeys := List.nodup_nil
  staffed := fun _ => rfl
  halted := fun _ _ h => by cases h

theorem named_ofRules (rules : List Rule) (id : String) :
    named id (ofRules rules).rules = lastNamed id rules := by
  rw [← named_distinct]
  exact (named_perm (byPriority_perm _).symm (nodup_ids_distinct rules) id).symm

theorem state?_ofRules (rules : List Rule) (id : String) :
    (ofRules rules).state? id = (lastNamed id rules).map fun _ => RuleState.fresh id := by
  rw [← named_distinct]
  unfold state? ofRules named
  simp only
  induction distinct rules with
  | nil => rfl
  | cons r rest ih =>
    by_cases h : r.id = id
    · subst h
      simp
    · have hbeq : (id == r.id) = false := beq_eq_false_iff_ne.mpr (Ne.symm h)
      simpa [List.lookup_cons, hbeq, h] using ih

theorem wellFormed_ofRules (rules : List Rule) : (ofRules rules).WellFormed where
  distinct := ((byPriority_perm _).map _).symm.nodup (nodup_ids_distinct rules)
  descending := byPriority_descending _
  stateKeys := by
    have hkeys : (ofRules rules).states.map (·.1) = (Rule.distinct rules).map (·.id) := by
      simp [ofRules, Function.comp_def]
    rw [hkeys]
    exact nodup_ids_distinct rules
  remembered := fun id => by
    rw [state?_ofRules, named_ofRules, Option.isSome_map]
  owned := fun id s h => by
    rw [state?_ofRules, Option.map_eq_some_iff] at h
    obtain ⟨_, _, rfl⟩ := h
    rfl
  workerKeys := List.nodup_nil
  staffed := fun _ => rfl
  halted := fun _ _ h => by cases h

/-! ## Starting and ending the workers -/

theorem foldl_startWorker (rs : List Rule) (en : Engine) :
    rs.foldl (fun en r => en.startWorker r) en =
      { en with
        workers := (rs.map fun r => (r.id, (⟨r, false⟩ : Worker))).foldl
          (fun table p => Assoc.put p.1 p.2 table) en.workers } := by
  induction rs generalizing en with
  | nil => rfl
  | cons r rest ih =>
    rw [List.foldl_cons, ih]
    rfl

/-- Starting hires one worker for each enabled rule. -/
theorem WellFormed.start_eq (wf : en.WellFormed) (idle : en.started = false) :
    en.start =
      { en with
        started := true
        workers := Assoc.ofList
          ((en.rules.filter (·.enabled)).map fun r => (r.id, (⟨r, false⟩ : Worker))) } := by
  unfold start Assoc.ofList
  rw [if_neg (by simp [idle]), foldl_startWorker, wf.workers_eq_nil idle]

theorem start_of_started (running : en.started = true) : en.start = en := by
  unfold start
  rw [if_pos running]

theorem lookup_newWorkers {rs : List Rule} (distinct : (rs.map (·.id)).Nodup) (id : String) :
    (Assoc.ofList (rs.map fun r => (r.id, (⟨r, false⟩ : Worker)))).lookup id =
      (named id rs).map fun r => ⟨r, false⟩ := by
  rw [Assoc.lookup_ofList, ← lastNamed_eq_named distinct]
  simp [lastNamed, List.filter_map, Function.comp_def]

theorem WellFormed.start (wf : en.WellFormed) : en.start.WellFormed := by
  cases hstarted : en.started with
  | true =>
    rw [start_of_started hstarted]
    exact wf
  | false =>
    have hlookup := lookup_newWorkers (nodup_ids_filter (·.enabled) wf.distinct)
    rw [wf.start_eq hstarted]
    exact
      { distinct := wf.distinct
        descending := wf.descending
        stateKeys := wf.stateKeys
        remembered := wf.remembered
        owned := wf.owned
        workerKeys := Assoc.nodup_keys_ofList _
        staffed := fun id => by
          rw [hlookup, Option.map_map, if_pos rfl, named_filter _ wf.distinct]
          simp [Function.comp_def]
        halted := fun id w found exited => by
          rw [hlookup, Option.map_eq_some_iff] at found
          obtain ⟨_, _, rfl⟩ := found
          cases exited }

@[simp] theorem rules_start (en : Engine) : en.start.rules = en.rules := by
  unfold Engine.start
  split
  · rfl
  · rw [foldl_startWorker]

@[simp] theorem states_start (en : Engine) : en.start.states = en.states := by
  unfold Engine.start
  split
  · rfl
  · rw [foldl_startWorker]

@[simp] theorem started_start (en : Engine) : en.start.started = true := by
  unfold Engine.start
  split
  · assumption
  · rw [foldl_startWorker]

@[simp] theorem memory_start (en : Engine) (id : String) : en.start.memory id = en.memory id := by
  simp [memory, state?]

theorem WellFormed.shutdown (wf : en.WellFormed) : en.shutdown.WellFormed where
  distinct := wf.distinct
  descending := wf.descending
  stateKeys := wf.stateKeys
  remembered := wf.remembered
  owned := wf.owned
  workerKeys := List.nodup_nil
  staffed := fun _ => rfl
  halted := fun _ _ h => by cases h

end Engine

end VesselWatch
