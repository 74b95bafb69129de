/-
  Proofs/Engine/Update.lean --- what updates do to an engine, id by id.

  An update of one rule either leaves the engine alone, because nothing that was
  written differs, or installs the definition (`upsert_cases`).  An update of all
  rules drops what is not kept and then installs one definition for each id, so that
  its effect on an id is that of the one definition which bears it
  (`named_updateAll`, `state?_updateAll`).
-/
import VesselWatch.Proofs.Engine.WellFormed

set_option autoImplicit false

namespace VesselWatch

/-- The definition that is active when `r` has been supplied for an id. -/
def Rule.supersede (r : Rule) : Option Rule → Rule
  | some old => if old.same r then old else r
  | none => r

namespace Engine

open Rule

variable {en : Engine}

/-! ## Dropping rules -/

section Retain

variable (keep : String → Bool)

theorem named_retain (id : String) :
    named id (en.retain keep).rules = if keep id then named id en.rules else none :=
  named_filter_ids keep id

/-- An id is dropped when it names a rule that is not kept. -/
theorem contains_gone_iff (en : Engine) (id : String) :
    ((en.rules.filter fun r => !keep r.id).map (·.id)).contains id = true ↔
      (named id en.rules).isSome ∧ keep id = false := by
  rw [List.contains_iff_mem, named_isSome_iff, List.mem_map]
  constructor
  · rintro ⟨r, hr, rfl⟩
    obtain ⟨hr, hkeep⟩ := List.mem_filter.mp hr
    exact ⟨List.mem_map_of_mem hr, by simpa using hkeep⟩
  · rintro ⟨member, hkeep⟩
    obtain ⟨r, hr, rfl⟩ := List.mem_map.mp member
    exact ⟨r, List.mem_filter.mpr ⟨hr, by simp [hkeep]⟩, rfl⟩

/-- A table whose keys name rules, cut down to what is kept. -/
theorem lookup_retained {α : Type} {table : List (String × α)} {id : String}
    (tied : named id en.rules = none → table.lookup id = none) :
    (table.filter fun p =>
        !((en.rules.filter fun r => !keep r.id).map (·.id)).contains p.1).lookup id =
      if keep id then table.lookup id else none := by
  rw [Assoc.lookup_filter_keys
    (fun id => !((en.rules.filter fun r => !keep r.id).map (·.id)).contains id)]
  cases hkeep : keep id with
  | true =>
    have hgone := mt (contains_gone_iff keep en id).mp (by simp [hkeep])
    rw [Bool.not_eq_true] at hgone
    simp only [hgone, Bool.not_false, if_true]
  | false =>
    cases hnamed : named id en.rules with
    | none => simp [tied hnamed]
    | some r =>
      have hgone := (contains_gone_iff keep en id).mpr ⟨by simp [hnamed], hkeep⟩
      simp only [hgone, Bool.not_true, Bool.false_eq_true, if_false]

theorem WellFormed.worker_eq_none (wf : en.WellFormed) {id : String}
    (absent : named id en.rules = none) : en.workers.lookup id = none := by
  have hstaffed := wf.staffed id
  rw [absent, Option.filter_none, ite_self, Option.map_eq_none_iff] at hstaffed
  exact hstaffed

theorem WellFormed.state?_retain (wf : en.WellFormed) (id : String) :
    (en.retain keep).state? id = if keep id then en.state? id else none :=
  lookup_retained keep fun absent => wf.state?_eq_none absent

theorem WellFormed.lookup_workers_retain (wf : en.WellFormed) (id : String) :
    (en.retain keep).workers.lookup id = if keep id then en.workers.lookup id else none :=
  lookup_retained keep fun absent => wf.worker_eq_none absent

theorem WellFormed.retain (wf : en.WellFormed) : (en.retain keep).WellFormed where
  distinct := nodup_ids_filter _ wf.distinct
  descending := wf.descending.sublist List.filter_sublist
  stateKeys := Assoc.nodup_keys_filter _ wf.stateKeys
  remembered := fun id => by
    rw [wf.state?_retain, named_retain]
    split
    · exact wf.remembered id
    · rfl
  owned := fun id s h => by
    rw [wf.state?_retain] at h
    split at h
    · exact wf.owned id s h
    · cases h
  workerKeys := Assoc.nodup_keys_filter _ wf.workerKeys
  staffed := fun id => by
    rw [wf.lookup_workers_retain, named_retain]
    split
    · exact wf.staffed id
    · simp
  halted := fun id w found exited => by
    rw [wf.lookup_workers_retain] at found
    split at found
    · exact wf.halted id w found exited
    · cases found

end Retain

/-! ## Installing one rule -/

/-- `en'` is `en` after `r` has been installed: its id names `r`, keeps its memory or gets an
empty one, and has a new worker if `r` is enabled and workers run. -/
structure Installs (r : Rule) (en en' : Engine) : Prop where
  distinct : (en'.rules.map (·.id)).Nodup
  descending : Descending en'.rules
  named : ∀ id, named id en'.rules = if r.id = id then some r else named id en.rules
  stateKeys : (en'.states.map (·.1)).Nodup
  state? : ∀ id, en'.state? id = if r.id = id then some (en.memory id) else en.state? id
  workerKeys : (en'.workers.map (·.1)).Nodup
  worker : ∀ id, en'.workers.lookup id =
    if r.id = id then (if en.started && r.enabled then some ⟨r, false⟩ else none)
    else en.workers.lookup id
  started : en'.started = en.started

theorem Installs.wellFormed {r : Rule} {en' : Engine} (h : Installs r en en')
    (wf : en.WellFormed) : en'.WellFormed where
  distinct := h.distinct
  descending := h.descending
  stateKeys := h.stateKeys
  remembered := fun id => by
    rw [h.state?, h.named]
    split
    · simp
    · exact wf.remembered id
  owned := fun id s found => by
    rw [h.state?] at found
    split at found
    · cases found
      exact wf.memory_ruleId id
    · exact wf.owned id s found
  workerKeys := h.workerKeys
  staffed := fun id => by
    rw [h.worker, h.named, h.started]
    split
    · cases en.started <;> cases hen : r.enabled <;> simp [Option.filter, hen]
    · exact wf.staffed id
  halted := fun id w found exited => by
    rw [h.worker] at found
    split at found
    · split at found
      · cases found
        cases exited
      · cases found
    · exact wf.halted id w found exited

/-- Settling starts the worker of the rule and puts the rules in order. -/
theorem lookup_workers_settle (r : Rule) (en : Engine) (id : String) :
    (en.settle r).workers.lookup id =
      if en.started && r.enabled && r.id == id then some ⟨r, false⟩ else en.workers.lookup id := by
  unfold settle
  by_cases hrun : (en.started && r.enabled) = true
  · rw [if_pos hrun, hrun]
    simp [startWorker, Assoc.lookup_put, BEq.comm (a := id)]
  · rw [if_neg hrun, Bool.eq_false_iff.mpr hrun]
    simp

theorem nodup_workers_settle (r : Rule) (nodup : (en.workers.map (·.1)).Nodup) :
    ((en.settle r).workers.map (·.1)).Nodup := by
  unfold settle
  split
  · exact Assoc.nodup_keys_put _ _ nodup
  · exact nodup

@[simp] theorem rules_settle (r : Rule) (en : Engine) :
    (en.settle r).rules = byPriority en.rules := by
  unfold settle
  split <;> rfl

@[simp] theorem states_settle (r : Rule) (en : Engine) : (en.settle r).states = en.states := by
  unfold settle
  split <;> rfl

@[simp] theorem started_settle (r : Rule) (en : Engine) : (en.settle r).started = en.started := by
  unfold settle
  split <;> rfl

/-- Settling completes the installation of a rule that has its place and its memory. -/
theorem installs_settle {r : Rule} {en' : Engine} (distinct : (en'.rules.map (·.id)).Nodup)
    (hnamed : ∀ id, Rule.named id en'.rules = if r.id = id then some r else Rule.named id en.rules)
    (stateKeys : (en'.states.map (·.1)).Nodup)
    (hstate : ∀ id, en'.state? id = if r.id = id then some (en.memory id) else en.state? id)
    (workerKeys : (en'.workers.map (·.1)).Nodup)
    (hworker : ∀ id, en'.workers.lookup id = if r.id = id then none else en.workers.lookup id)
    (hstarted : en'.started = en.started) : Installs r en (en'.settle r) where
  distinct := by
    rw [rules_settle]
    exact ((byPriority_perm _).map _).symm.nodup distinct
  descending := by
    rw [rules_settle]
    exact byPriority_descending _
  named := fun id => by
    rw [rules_settle, ← named_perm (byPriority_perm _).symm distinct id, hnamed]
  stateKeys := by
    rw [states_settle]
    exact stateKeys
  state? := fun id => by
    rw [← hstate id]
    unfold Engine.state?
    rw [states_settle]
  workerKeys := nodup_workers_settle r workerKeys
  worker := fun id => by
    rw [lookup_workers_settle, hworker, hstarted]
    by_cases hid : r.id = id
    · simp [hid]
    · simp [hid]
  started := by rw [started_settle, hstarted]

/-- An update of one rule finds nothing different and leaves the engine alone, or installs the
rule. -/
theorem WellFormed.upsert_cases (wf : en.WellFormed) (r : Rule) (diff : Diff) :
    (∃ old, Rule.named r.id en.rules = some old ∧ old.same r = true ∧
      (en.upsert r diff).1 = en) ∨
    ((∀ old, Rule.named r.id en.rules = some old → old.same r = false) ∧
      Installs r en (en.upsert r diff).1) := by
  cases hfound : Rule.named r.id en.rules with
  | none =>
    -- A new rule goes to the end of the list and gets an empty memory.
    have absent : r.id ∉ en.rules.map (·.id) := named_eq_none_iff.mp hfound
    have hupsert : (en.upsert r diff).1 =
        ({ en with
          rules := en.rules ++ [r]
          states := Assoc.put r.id (RuleState.fresh r.id) en.states } : Engine).settle r := by
      unfold upsert
      rw [show (en.rules.find? fun old => old.id == r.id) = none from hfound]
    refine Or.inr ⟨nofun, ?_⟩
    rw [hupsert]
    refine installs_settle ?_ ?_ (Assoc.nodup_keys_put _ _ wf.stateKeys) ?_ wf.workerKeys ?_ rfl
    · rw [List.map_append, List.nodup_append]
      refine ⟨wf.distinct, List.nodup_singleton _, fun id hid id' hid' heq => absent ?_⟩
      rw [List.map_singleton, List.mem_singleton] at hid'
      rw [← hid', ← heq]
      exact hid
    · intro id
      rw [named_append_single]
      by_cases hid : r.id = id
      · subst hid
        simp [hfound]
      · simp [hid]
    · intro id
      unfold Engine.state?
      rw [Assoc.lookup_put]
      by_cases hid : r.id = id
      · subst hid
        have hnone : en.state? r.id = none := wf.state?_eq_none hfound
        simp [memory, hnone]
      · simp [hid, Ne.symm hid]
    · intro id
      by_cases hid : r.id = id
      · subst hid
        simp [wf.worker_eq_none hfound]
      · simp [hid]
  | some old =>
    have present : r.id ∈ en.rules.map (·.id) := by
      rw [← named_isSome_iff, hfound]
      rfl
    cases hsame : old.same r with
    | true =>
      refine Or.inl ⟨old, rfl, hsame, ?_⟩
      unfold upsert
      rw [show (en.rules.find? fun old => old.id == r.id) = some old from hfound]
      simp [hsame]
    | false =>
      -- A changed rule takes the place of the old one, whose worker is ended.
      have hupsert : (en.upsert r diff).1 =
          ({ en with
            rules := replaceRule r en.rules
            workers := Assoc.erase r.id en.workers } : Engine).settle r := by
        unfold upsert
        rw [show (en.rules.find? fun old => old.id == r.id) = some old from hfound]
        simp [hsame]
      have hdiffers : ∀ o, some old = some o → o.same r = false := by
        rintro o ⟨⟩
        exact hsame
      refine Or.inr ⟨hdiffers, ?_⟩
      rw [hupsert]
      refine installs_settle ?_ (named_replaceRule present) wf.stateKeys ?_
        (Assoc.nodup_keys_erase _ wf.workerKeys) ?_ rfl
      · rw [ids_replaceRule]
        exact wf.distinct
      · intro id
        by_cases hid : r.id = id
        · subst hid
          rw [if_pos rfl]
          exact wf.state?_eq_memory (by rw [hfound]; rfl)
        · simp [hid, Engine.state?]
      · intro id
        rw [Assoc.lookup_erase]
        by_cases hid : r.id = id
        · simp [hid]
        · simp [hid, Ne.symm hid]

theorem WellFormed.upsert (wf : en.WellFormed) (r : Rule) (diff : Diff) :
    (en.upsert r diff).1.WellFormed := by
  rcases wf.upsert_cases r diff with ⟨_, _, _, hsame⟩ | ⟨_, installs⟩
  · rw [hsame]
    exact wf
  · exact installs.wellFormed wf

theorem WellFormed.named_upsert (wf : en.WellFormed) (r : Rule) (diff : Diff) (id : String) :
    Rule.named id (en.upsert r diff).1.rules =
      if r.id = id then some (r.supersede (Rule.named id en.rules)) else Rule.named id en.rules := by
  rcases wf.upsert_cases r diff with ⟨old, hfound, hsame, heq⟩ | ⟨hdiffers, installs⟩
  · rw [heq]
    by_cases hid : r.id = id
    · subst hid
      simp [hfound, supersede, hsame]
    · simp [hid]
  · rw [installs.named]
    by_cases hid : r.id = id
    · subst hid
      cases hfound : Rule.named r.id en.rules with
      | none => simp [supersede]
      | some old => simp [supersede, hdiffers old hfound]
    · simp [hid]

theorem WellFormed.state?_upsert (wf : en.WellFormed) (r : Rule) (diff : Diff) (id : String) :
    (en.upsert r diff).1.state? id = if r.id = id then some (en.memory id) else en.state? id := by
  rcases wf.upsert_cases r diff with ⟨old, hfound, _, heq⟩ | ⟨_, installs⟩
  · rw [heq]
    by_cases hid : r.id = id
    · subst hid
      rw [if_pos rfl]
      exact wf.state?_eq_memory (by rw [hfound]; rfl)
    · simp [hid]
  · exact installs.state? id

/-! ## Updating all rules -/

/-- Adds or replaces rules one after another. -/
def upsertAll (rules : List Rule) (en : Engine) (diff : Diff) : Engine × Diff :=
  rules.foldl (fun p r => p.1.upsert r p.2) (en, diff)

theorem WellFormed.upsertAll (wf : en.WellFormed) (rules : List Rule) (diff : Diff) :
    (en.upsertAll rules diff).1.WellFormed := by
  unfold Engine.upsertAll
  induction rules generalizing en diff with
  | nil => exact wf
  | cons r rest ih => exact ih (wf.upsert r diff) _

theorem WellFormed.named_upsertAll (wf : en.WellFormed) {rules : List Rule}
    (distinct : (rules.map (·.id)).Nodup) (diff : Diff) (id : String) :
    Rule.named id (en.upsertAll rules diff).1.rules =
      match Rule.named id rules with
      | some r => some (r.supersede (Rule.named id en.rules))
      | none => Rule.named id en.rules := by
  unfold Engine.upsertAll
  induction rules generalizing en diff with
  | nil => rfl
  | cons r rest ih =>
    rw [List.map_cons, List.nodup_cons] at distinct
    rw [List.foldl_cons, ih (wf.upsert r diff) distinct.2, wf.named_upsert]
    by_cases hid : r.id = id
    · subst hid
      rw [named_eq_none_iff.mpr distinct.1]
      simp [Rule.named]
    · have hbeq : (r.id == id) = false := beq_eq_false_iff_ne.mpr hid
      simp [hid, Rule.named, hbeq]

theorem WellFormed.state?_upsertAll (wf : en.WellFormed) (rules : List Rule) (diff : Diff)
    (id : String) :
    (en.upsertAll rules diff).1.state? id =
      if (Rule.named id rules).isSome then some (en.memory id) else en.state? id := by
  unfold Engine.upsertAll
  induction rules generalizing en diff with
  | nil => rfl
  | cons r rest ih =>
    have hmemory : (en.upsert r diff).1.memory id = en.memory id := by
      unfold memory
      rw [wf.state?_upsert]
      by_cases hid : r.id = id
      · simp [hid, memory]
      · simp [hid]
    rw [List.foldl_cons, ih (wf.upsert r diff), hmemory, wf.state?_upsert]
    by_cases hid : r.id = id
    · simp [hid, Rule.named]
    · have hbeq : (r.id == id) = false := beq_eq_false_iff_ne.mpr hid
      simp [hid, Rule.named, hbeq]

/-- The ids of a list of definitions. -/
def mentions (rules : List Rule) (id : String) : Bool :=
  (Rule.distinct rules).any fun r => r.id == id

theorem mentions_eq (rules : List Rule) (id : String) :
    mentions rules id = (lastNamed id rules).isSome := by
  rw [Bool.eq_iff_iff, ← named_distinct, named_isSome_iff, mentions, List.any_eq_true,
    List.mem_map]
  simp only [beq_iff_eq]

/-- An update of all rules: what is not mentioned is dropped, each id is supplied with its last
definition, and the rules are ranked anew. -/
theorem updateAll_eq (rules : List Rule) (en : Engine) :
    ∃ diff, (en.updateAll rules).1 =
      let next := ((en.retain (mentions rules)).upsertAll (Rule.distinct rules) diff).1
      { next with rules := ranked (Rule.distinct rules) next.rules } :=
  ⟨_, rfl⟩

theorem WellFormed.rerank (wf : en.WellFormed) (order : List Rule) :
    ({ en with rules := ranked order en.rules } : Engine).WellFormed := by
  have hnamed : ∀ id, Rule.named id (ranked order en.rules) = Rule.named id en.rules := fun id =>
    (named_perm (ranked_perm order en.rules).symm wf.distinct id).symm
  exact
    { distinct := ((ranked_perm order en.rules).map _).symm.nodup wf.distinct
      descending := ranked_descending order en.rules
      stateKeys := wf.stateKeys
      remembered := fun id => by
        rw [hnamed id]
        exact wf.remembered id
      owned := wf.owned
      workerKeys := wf.workerKeys
      staffed := fun id => by
        rw [hnamed id]
        exact wf.staffed id
      halted := wf.halted }

theorem WellFormed.updateAll (wf : en.WellFormed) (rules : List Rule) :
    (en.updateAll rules).1.WellFormed := by
  obtain ⟨diff, heq⟩ := updateAll_eq rules en
  rw [heq]
  exact ((wf.retain (mentions rules)).upsertAll (Rule.distinct rules) diff).rerank _

/-- After an update of all rules an id names its last definition, if that says anything new. -/
theorem WellFormed.named_updateAll (wf : en.WellFormed) (rules : List Rule) (id : String) :
    Rule.named id (en.updateAll rules).1.rules =
      (lastNamed id rules).map fun r => r.supersede (Rule.named id en.rules) := by
  obtain ⟨diff, heq⟩ := updateAll_eq rules en
  have wfRetained := wf.retain (mentions rules)
  have hdistinct := nodup_ids_distinct rules
  have hnamed := wfRetained.named_upsertAll hdistinct diff id
  rw [named_distinct, named_retain] at hnamed
  rw [heq, named_perm (ranked_perm _ _) _ id, hnamed, mentions_eq]
  · cases lastNamed id rules with
    | none => rfl
    | some r => rfl
  · exact ((wfRetained.upsertAll _ diff).rerank _).distinct

/-- After an update of all rules an id that is mentioned has the memory that it had before, or an
empty one. -/
theorem WellFormed.state?_updateAll (wf : en.WellFormed) (rules : List Rule) (id : String) :
    (en.updateAll rules).1.state? id = (lastNamed id rules).map fun _ => en.memory id := by
  obtain ⟨diff, heq⟩ := updateAll_eq rules en
  have hstate := (wf.retain (mentions rules)).state?_upsertAll (Rule.distinct rules) diff id
  rw [named_distinct] at hstate
  have hrerank : (en.updateAll rules).1.state? id =
      ((en.retain (mentions rules)).upsertAll (Rule.distinct rules) diff).1.state? id := by
    rw [heq]
    rfl
  have hmemory : ∀ r, lastNamed id rules = some r →
      (en.retain (mentions rules)).memory id = en.memory id := by
    intro r hlast
    unfold memory
    rw [wf.state?_retain, mentions_eq, hlast]
    rfl
  rw [hrerank, hstate]
  cases hlast : lastNamed id rules with
  | none => simp [wf.state?_retain, mentions_eq, hlast]
  | some r => simp [hmemory r hlast]

end Engine

end VesselWatch
