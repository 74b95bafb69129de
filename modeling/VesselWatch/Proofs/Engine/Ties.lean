/-
  Proofs/Engine/Ties.lean --- rules of equal priority while rules are supplied singly.

  A list of rules ranks those of equal priority as it has them.  A rule that is supplied
  singly afterwards is sorted in by its priority alone, from where the rule of its id stands,
  and no step knows the list any more.

  THE LAST DIFFERENCE.  So two rules stand in the order of the last time at which their
  priorities differed, and in the order of the list as long as they never have (`Outranks`).
  One step of an update either tells the two apart by their priorities or leaves them as they
  stood (`outranks_append_single`); `Standing` carries this through a run, in which events and
  shutdowns may come in between.  A rule that is moved down and up again has lost its place to
  those of equal priority behind it (`ties_not_as_listed`).
-/
import VesselWatch.Proofs.Engine.Agreement

set_option autoImplicit false

namespace VesselWatch

namespace Rule

variable {supplied listed singly : List Rule} {i j : String}

/-! ## The last difference of two priorities -/

/-- The priority that was supplied last for an id. -/
def lastPriority (id : String) (supplied : List Rule) : Option Int :=
  (lastNamed id supplied).map (·.priority)

/-- What was supplied last for `i` has a higher priority than what was supplied last for `j`. -/
def Above (supplied : List Rule) (i j : String) : Prop :=
  ∃ p q, lastPriority i supplied = some p ∧ lastPriority j supplied = some q ∧ q < p

/-- What was supplied last for the two ids has one priority. -/
def Level (supplied : List Rule) (i j : String) : Prop :=
  lastPriority i supplied = lastPriority j supplied

/-- When the priorities of the two ids last differed, since the list was supplied, `i` had the
higher one. -/
def LastAbove (listed singly : List Rule) (i j : String) : Prop :=
  ∃ before, before <+: singly ∧ Above (listed ++ before) i j ∧
    ∀ later, before <+: later → later <+: singly → later ≠ before → Level (listed ++ later) i j

/-- The priorities of the two ids have been equal ever since the list was supplied. -/
def NeverApart (listed singly : List Rule) (i j : String) : Prop :=
  ∀ before, before <+: singly → Level (listed ++ before) i j

/-- `i` had the higher priority when the two last differed; if they never have, it comes first in
the list. -/
def Outranks (listed singly : List Rule) (i j : String) : Prop :=
  LastAbove listed singly i j ∨ NeverApart listed singly i j ∧ rank listed i < rank listed j

theorem Above.asymm (above : Above supplied i j) : ¬ Above supplied j i := by
  obtain ⟨p, q, hi, hj, hlt⟩ := above
  rintro ⟨q', p', hj', hi', hlt'⟩
  rw [hi, Option.some.injEq] at hi'
  rw [hj, Option.some.injEq] at hj'
  omega

theorem Above.not_level (above : Above supplied i j) : ¬ Level supplied i j := by
  obtain ⟨p, q, hi, hj, hlt⟩ := above
  intro level
  rw [Level, hi, hj, Option.some.injEq] at level
  omega

theorem Level.symm (level : Level supplied i j) : Level supplied j i := Eq.symm level

theorem lastPriority_append_single (r : Rule) (id : String) :
    lastPriority id (supplied ++ [r]) =
      if r.id = id then some r.priority else lastPriority id supplied := by
  unfold lastPriority
  rw [lastNamed_append_single]
  split <;> rfl

theorem lastAbove_append_single (r : Rule) :
    LastAbove listed (singly ++ [r]) i j ↔
      Above (listed ++ (singly ++ [r])) i j ∨
        Level (listed ++ (singly ++ [r])) i j ∧ LastAbove listed singly i j := by
  constructor
  · rintro ⟨before, hbefore, habove, hlevel⟩
    rcases List.prefix_concat_iff.mp hbefore with rfl | hbefore
    · exact Or.inl habove
    · have hshorter : singly ++ [r] ≠ before := by
        rintro rfl
        have hlength := hbefore.length_le
        rw [List.length_append, List.length_singleton] at hlength
        omega
      have hlonger : before <+: singly ++ [r] := hbefore.trans (List.prefix_append _ _)
      refine Or.inr ⟨hlevel _ hlonger List.prefix_rfl hshorter, before, hbefore, habove, ?_⟩
      intro later hlater hsingly
      exact hlevel later hlater (hsingly.trans (List.prefix_append _ _))
  · rintro (habove | ⟨hnow, before, hbefore, habove, hlevel⟩)
    · refine ⟨_, List.prefix_rfl, habove, fun later hlater hsingly hne => ?_⟩
      exact absurd (hsingly.eq_of_length_le hlater.length_le) hne
    · refine ⟨before, hbefore.trans (List.prefix_append _ _), habove, ?_⟩
      intro later hlater hsingly hne
      rcases List.prefix_concat_iff.mp hsingly with rfl | hsingly
      · exact hnow
      · exact hlevel later hlater hsingly hne

theorem neverApart_append_single (r : Rule) :
    NeverApart listed (singly ++ [r]) i j ↔
      Level (listed ++ (singly ++ [r])) i j ∧ NeverApart listed singly i j := by
  constructor
  · intro never
    refine ⟨never _ List.prefix_rfl, fun before hbefore => ?_⟩
    exact never before (hbefore.trans (List.prefix_append _ _))
  · rintro ⟨hnow, never⟩ before hbefore
    rcases List.prefix_concat_iff.mp hbefore with rfl | hbefore
    · exact hnow
    · exact never before hbefore

/-- A rule that is supplied tells two ids apart by their priorities, or leaves them as they
were. -/
theorem outranks_append_single (r : Rule) :
    Outranks listed (singly ++ [r]) i j ↔
      Above (listed ++ (singly ++ [r])) i j ∨
        Level (listed ++ (singly ++ [r])) i j ∧ Outranks listed singly i j := by
  unfold Outranks
  rw [lastAbove_append_single, neverApart_append_single]
  tauto

theorem outranks_nil :
    Outranks listed [] i j ↔
      Above listed i j ∨ Level listed i j ∧ rank listed i < rank listed j := by
  unfold Outranks LastAbove NeverApart
  constructor
  · rintro (⟨before, hbefore, habove, -⟩ | ⟨never, hrank⟩)
    · rw [List.prefix_nil.mp hbefore, List.append_nil] at habove
      exact Or.inl habove
    · have hlevel := never [] List.prefix_rfl
      rw [List.append_nil] at hlevel
      exact Or.inr ⟨hlevel, hrank⟩
  · rintro (habove | ⟨hlevel, hrank⟩)
    · refine Or.inl ⟨[], List.prefix_rfl, by rwa [List.append_nil], ?_⟩
      intro later _ hlater hne
      exact absurd (List.prefix_nil.mp hlater) hne
    · refine Or.inr ⟨fun before hbefore => ?_, hrank⟩
      rwa [List.prefix_nil.mp hbefore, List.append_nil]

theorem Outranks.asymm (outranks : Outranks listed singly i j) : ¬ Outranks listed singly j i := by
  induction singly using List.reverseRecOn with
  | nil =>
    rw [outranks_nil] at outranks ⊢
    rintro (habove | ⟨hlevel, hrank⟩)
    · rcases outranks with habove' | ⟨hlevel', -⟩
      · exact habove.asymm habove'
      · exact habove.not_level hlevel'.symm
    · rcases outranks with habove' | ⟨-, hrank'⟩
      · exact habove'.not_level hlevel.symm
      · omega
  | append_singleton singly r ih =>
    rw [outranks_append_single] at outranks ⊢
    rintro (habove | ⟨hlevel, houtranks⟩)
    · rcases outranks with habove' | ⟨hlevel', -⟩
      · exact habove.asymm habove'
      · exact habove.not_level hlevel'.symm
    · rcases outranks with habove' | ⟨-, houtranks'⟩
      · exact habove'.not_level hlevel.symm
      · exact ih houtranks' houtranks

end Rule

namespace Engine

open Rule

variable {en : Engine} {listed singly : List Rule}

/-! ## Rules in the order of their last difference -/

/-- The rules of the engine are those of the list, with the priorities that were supplied last, and
stand in the order of their last difference. -/
structure Standing (listed singly : List Rule) (en : Engine) : Prop where
  wellFormed : en.WellFormed
  ids : ∀ id, id ∈ en.rules.map (·.id) ↔ id ∈ listed.map (·.id)
  priority : ∀ r ∈ en.rules, lastPriority r.id (listed ++ singly) = some r.priority
  order : en.rules.Pairwise fun a b => Outranks listed singly a.id b.id

/-- Rules of different ids that stand by priority and then by rank stand by priority and then
strictly by rank. -/
theorem WellFormed.pairwise_precedes (wf : en.WellFormed) {order : List Rule}
    (listed : ∀ r ∈ en.rules, r.id ∈ order.map (·.id))
    (sorted : en.rules.Pairwise (Precedes order)) :
    en.rules.Pairwise fun a b => b.priority < a.priority ∨
      a.priority = b.priority ∧ rank order a.id < rank order b.id := by
  have hapart : en.rules.Pairwise fun a b => a.id ≠ b.id := List.pairwise_map.mp wf.distinct
  refine (sorted.and hapart).imp_of_mem fun {a b} ha hb h => ?_
  obtain ⟨hprecedes, hne⟩ := h
  refine hprecedes.imp_right fun ⟨hpriority, hrank⟩ => ⟨hpriority, ?_⟩
  have hother : rank order a.id ≠ rank order b.id := fun hsame =>
    hne (eq_of_rank_eq (listed a ha) (listed b hb) hsame)
  omega

theorem WellFormed.standing_updateAll (wf : en.WellFormed)
    (distinct : (listed.map (·.id)).Nodup) : Standing listed [] (en.updateAll listed).1 := by
  have wfNext := wf.updateAll listed
  have hids : ∀ id, id ∈ (en.updateAll listed).1.rules.map (·.id) ↔ id ∈ listed.map (·.id) := by
    intro id
    rw [← named_isSome_iff, ← named_isSome_iff, wf.named_updateAll, Option.isSome_map,
      lastNamed_eq_named distinct]
  have hpriority : ∀ r ∈ (en.updateAll listed).1.rules,
      lastPriority r.id listed = some r.priority := by
    intro r hr
    have hnamed := (named_eq_some_iff wfNext.distinct).mpr ⟨hr, rfl⟩
    rw [wf.named_updateAll, Option.map_eq_some_iff] at hnamed
    obtain ⟨last, hlast, hactive⟩ := hnamed
    rw [lastPriority, hlast, Option.map_some, ← hactive, priority_supersede]
  have hsorted := precedes_updateAll listed en
  rw [distinct_of_nodup distinct] at hsorted
  have hknown : ∀ r ∈ (en.updateAll listed).1.rules, r.id ∈ listed.map (·.id) := fun r hr =>
    (hids r.id).mp (List.mem_map_of_mem hr)
  refine ⟨wfNext, hids, fun r hr => ?_, ?_⟩
  · rw [List.append_nil]
    exact hpriority r hr
  · refine (wfNext.pairwise_precedes hknown hsorted).imp_of_mem fun {a b} ha hb h => ?_
    rw [outranks_nil]
    rcases h with hlt | ⟨heq, hrank⟩
    · exact Or.inl ⟨_, _, hpriority a ha, hpriority b hb, hlt⟩
    · refine Or.inr ⟨?_, hrank⟩
      rw [Level, hpriority a ha, hpriority b hb, heq]

theorem WellFormed.named_updateOne (wf : en.WellFormed) (r : Rule) (id : String) :
    named id (en.updateOne r).1.rules =
      if r.id = id then some (r.supersede (named id en.rules)) else named id en.rules :=
  wf.named_upsert r Diff.none id

namespace Standing

theorem mem_ids_updateOne (standing : Standing listed singly en) {r : Rule}
    (member : r.id ∈ listed.map (·.id)) (id : String) :
    id ∈ (en.updateOne r).1.rules.map (·.id) ↔ id ∈ en.rules.map (·.id) := by
  rw [← named_isSome_iff, ← named_isSome_iff, standing.wellFormed.named_updateOne]
  split
  · next hid =>
    rw [named_isSome_iff, ← hid]
    exact iff_of_true rfl ((standing.ids r.id).mpr member)
  · rfl

theorem priority_updateOne (standing : Standing listed singly en) {r a : Rule}
    (ha : a ∈ (en.updateOne r).1.rules) :
    lastPriority a.id (listed ++ (singly ++ [r])) = some a.priority := by
  have wf := standing.wellFormed
  have wfNext : (en.updateOne r).1.WellFormed := wf.upsert r Diff.none
  have hfound := (named_eq_some_iff wfNext.distinct).mpr ⟨ha, rfl⟩
  rw [wf.named_updateOne] at hfound
  rw [← List.append_assoc, lastPriority_append_single]
  split at hfound
  · next hid =>
    rw [if_pos hid, ← Option.some.inj hfound, priority_supersede]
  · next hid =>
    rw [if_neg hid]
    exact standing.priority a (mem_of_named hfound)

/-- A single rule keeps the rules in the order of their last difference. -/
theorem updateOne (standing : Standing listed singly en) {r : Rule}
    (member : r.id ∈ listed.map (·.id)) :
    Standing listed (singly ++ [r]) (en.updateOne r).1 := by
  have wf := standing.wellFormed
  have wfNext : (en.updateOne r).1.WellFormed := wf.upsert r Diff.none
  have hactive : r.id ∈ en.rules.map (·.id) := (standing.ids r.id).mpr member
  have hids := standing.mem_ids_updateOne member
  -- The ids stand in the list with `r` as they did before.
  have hrank : rank (withRule r en.rules) = rank en.rules := by
    refine rank_congr ?_
    rw [ids_withRule, if_pos hactive]
  have hsorted := wf.precedes_updateOne r
  unfold Precedes at hsorted
  rw [hrank] at hsorted
  have hknown : ∀ a ∈ (en.updateOne r).1.rules, a.id ∈ en.rules.map (·.id) := fun a ha =>
    (hids a.id).mp (List.mem_map_of_mem ha)
  refine ⟨wfNext, fun id => (hids id).trans (standing.ids id),
    fun a ha => standing.priority_updateOne ha, ?_⟩
  refine (wfNext.pairwise_precedes hknown hsorted).imp_of_mem fun {a b} ha hb h => ?_
  have hpa := standing.priority_updateOne ha
  have hpb := standing.priority_updateOne hb
  rw [outranks_append_single]
  rcases h with hlt | ⟨heq, hbefore⟩
  · exact Or.inl ⟨_, _, hpa, hpb, hlt⟩
  · refine Or.inr ⟨?_, ?_⟩
    · rw [Level, hpa, hpb, heq]
    · obtain ⟨a', ha', hida⟩ := List.mem_map.mp (hknown a ha)
      obtain ⟨b', hb', hidb⟩ := List.mem_map.mp (hknown b hb)
      rw [← hida, ← hidb] at hbefore ⊢
      exact of_rank_lt wf.distinct standing.order ha' hb' hbefore

/-- Of two rules that one comes first which outranks the other. -/
theorem rank_lt_iff (standing : Standing listed singly en) {a b : Rule} (ha : a ∈ en.rules)
    (hb : b ∈ en.rules) (other : a.id ≠ b.id) :
    rank en.rules a.id < rank en.rules b.id ↔ Outranks listed singly a.id b.id := by
  have hdistinct := standing.wellFormed.distinct
  refine ⟨of_rank_lt hdistinct standing.order ha hb, fun outranks => ?_⟩
  have hne : rank en.rules a.id ≠ rank en.rules b.id := fun hsame =>
    other (rank_injective ha hb hsame)
  have hnot : ¬ rank en.rules b.id < rank en.rules a.id := fun hlt =>
    outranks.asymm (of_rank_lt hdistinct standing.order hb ha hlt)
  omega

/-- An exclusive rule that matches wins just if it outranks the other ones. -/
theorem wins_iff (standing : Standing listed singly en) {models : Models}
    {seals : String → Seal} {e : VesselEvent} {done : Evaluation}
    (evaluates : en.Evaluates models seals e done) {a : Rule} (ha : a ∈ en.matching models e)
    (exclusive : a.exclusive = true) :
    done.alerts = [Alert.raised (seals a.id) a e] ↔
      ∀ b ∈ en.matching models e, b.exclusive = true → b.id ≠ a.id →
        Outranks listed singly a.id b.id := by
  have wf := standing.wellFormed
  have halerts := evaluates.alerts_eq wf
  have hsorted : (en.matching models e).Pairwise fun a b => Outranks listed singly a.id b.id :=
    standing.order.sublist List.filter_sublist
  cases hfind : (en.matching models e).find? (·.exclusive) with
  | none => exact absurd exclusive (List.find?_eq_none.mp hfind a ha)
  | some first =>
    rw [survivors, hfind, List.map_singleton] at halerts
    obtain ⟨hfirst, before, after, heq, hbefore⟩ := List.find?_eq_some_iff_append.mp hfind
    have hmember : first ∈ en.matching models e := List.mem_of_find?_eq_some hfind
    -- The first exclusive rule outranks the exclusive rules behind it, and before it there are none.
    have houtranks : ∀ b ∈ en.matching models e, b.exclusive = true → b.id ≠ first.id →
        Outranks listed singly first.id b.id := by
      rw [heq] at hsorted ⊢
      intro b hb hexclusive hne
      rcases List.mem_append.mp hb with hb | hb
      · have hplain := hbefore b hb
        rw [hexclusive] at hplain
        cases hplain
      · rcases List.mem_cons.mp hb with rfl | hb
        · exact absurd rfl hne
        · exact List.rel_of_pairwise_cons (List.pairwise_append.mp hsorted).2.1 hb
    rw [halerts]
    constructor
    · intro hsame
      have hid : first.id = a.id := congrArg Alert.ruleId (List.singleton_inj.mp hsame)
      rw [← hid]
      exact houtranks
    · intro hwins
      have hid : first.id = a.id := by
        by_contra hne
        exact (hwins first hmember hfirst hne).asymm (houtranks a ha exclusive (Ne.symm hne))
      have hrule : first = a := List.inj_on_of_nodup_map wf.distinct
        (List.mem_of_mem_filter hmember) (List.mem_of_mem_filter ha) hid
      rw [hrule]

theorem of_rules_eq (standing : Standing listed singly en) {en' : Engine} (wf : en'.WellFormed)
    (rules : en'.rules = en.rules) : Standing listed singly en' where
  wellFormed := wf
  ids := by
    rw [rules]
    exact standing.ids
  priority := by
    rw [rules]
    exact standing.priority
  order := by
    rw [rules]
    exact standing.order

end Standing

end Engine

/-- The rule that an operation supplies singly. -/
def Operation.singly : Operation → List Rule
  | .updateAll _ => []
  | .updateOne r => [r]
  | .evaluate _ _ => []
  | .shutdown => []

namespace Detector

open Engine Rule

variable {source : Path → Option Track.Model} {d next : Detector} {listed singly : List Rule}

theorem exists_run (source : Path → Option Track.Model) (wf : d.engine.WellFormed)
    (ops : List Operation) : ∃ next pushed, Run source d ops next pushed := by
  induction ops generalizing d with
  | nil => exact ⟨d, [], .nil⟩
  | cons op rest ih =>
    obtain ⟨d', now, step⟩ := exists_step source wf op
    obtain ⟨next, later, run⟩ := ih (step.wellFormed wf)
    exact ⟨next, now ++ later, .cons step run⟩

theorem Step.standing (standing : Standing listed singly d.engine) {op : Operation}
    {pushed : List (List Alert)} (step : Step source d op next pushed)
    (single : ∀ others, op ≠ .updateAll others)
    (members : ∀ r ∈ op.singly, r.id ∈ listed.map (·.id)) :
    Standing listed (singly ++ op.singly) next.engine := by
  have wf := standing.wellFormed
  have wfNext := step.wellFormed wf
  cases step with
  | updateAll others => exact absurd rfl (single others)
  | updateOne r => exact standing.updateOne (members r (List.mem_singleton_self r))
  | evaluate delivers =>
    rw [Operation.singly, List.append_nil]
    exact standing.of_rules_eq wfNext (delivers.rules_eq wf)
  | shutdown =>
    rw [Operation.singly, List.append_nil]
    exact standing.of_rules_eq wfNext rfl

theorem Run.standing (standing : Standing listed singly d.engine) {ops : List Operation}
    {pushed : List (List Alert)} (run : Run source d ops next pushed)
    (single : ∀ others, Operation.updateAll others ∉ ops)
    (members : ∀ r ∈ ops.flatMap Operation.singly, r.id ∈ listed.map (·.id)) :
    Standing listed (singly ++ ops.flatMap Operation.singly) next.engine := by
  induction run generalizing singly with
  | nil =>
    rw [List.flatMap_nil, List.append_nil]
    exact standing
  | @cons d d' next op ops now later step _ ih =>
    have hnow : Standing listed (singly ++ op.singly) d'.engine := by
      refine step.standing standing ?_ ?_
      · rintro others rfl
        exact single others (List.mem_cons_self ..)
      · intro r hr
        exact members r (List.mem_flatMap.mpr ⟨op, List.mem_cons_self .., hr⟩)
    rw [List.flatMap_cons, ← List.append_assoc]
    refine ih hnow ?_ ?_
    · intro others hothers
      exact single others (List.mem_cons_of_mem _ hothers)
    · intro r hr
      obtain ⟨op', hop', hr⟩ := List.mem_flatMap.mp hr
      exact members r (List.mem_flatMap.mpr ⟨op', List.mem_cons_of_mem _ hop', hr⟩)

/-- After a list of rules, and while rules of its ids are supplied singly, events and shutdowns
coming in between, one rule stands before another just if it outranks it.  So two of them stand as
the list has them just if the later one did not have the higher priority when the two last differed;
and of the exclusive rules that match an event the one wins which outranks the others. -/
theorem Run.ranked_by_last_difference (reachable : d.engine.Reachable)
    (distinct : (listed.map (·.id)).Nodup) {ops : List Operation}
    (single : ∀ others, Operation.updateAll others ∉ ops)
    (members : ∀ r ∈ ops.flatMap Operation.singly, r.id ∈ listed.map (·.id)) :
    let singly := ops.flatMap Operation.singly
    (∃ next pushed, Run source (d.updateAll listed).1 ops next pushed) ∧
    ∀ next pushed, Run source (d.updateAll listed).1 ops next pushed →
      let active := next.engine.rules
      (∀ id, id ∈ active.map (·.id) ↔ id ∈ listed.map (·.id)) ∧
      (∀ a ∈ active, ∀ b ∈ active, a.id ≠ b.id →
        (rank active a.id < rank active b.id ↔ Outranks listed singly a.id b.id)) ∧
      (∀ a ∈ active, ∀ b ∈ active, rank listed a.id < rank listed b.id →
        (rank active a.id < rank active b.id ↔ ¬ LastAbove listed singly b.id a.id)) ∧
      ∀ models seals e done, next.engine.Evaluates models seals e done →
        ∀ a ∈ next.engine.matching models e, a.exclusive = true →
          (done.alerts = [Alert.raised (seals a.id) a e] ↔
            ∀ b ∈ next.engine.matching models e, b.exclusive = true → b.id ≠ a.id →
              Outranks listed singly a.id b.id) := by
  intro singly
  have wf := reachable.wellFormed
  have start : Standing listed [] (d.updateAll listed).1.engine := wf.standing_updateAll distinct
  refine ⟨exists_run source start.wellFormed ops, fun next pushed run => ?_⟩
  have standing : Standing listed singly next.engine := run.standing start single members
  refine ⟨standing.ids, fun a ha b hb => standing.rank_lt_iff ha hb, ?_, ?_⟩
  · intro a ha b hb hlisted
    have hother : a.id ≠ b.id := fun hid => Nat.ne_of_lt hlisted (congrArg (rank listed) hid)
    rw [standing.rank_lt_iff ha hb hother]
    constructor
    · intro houtranks hlast
      exact houtranks.asymm (Or.inl hlast)
    · intro hnot
      by_contra hbehind
      have hne : rank next.engine.rules a.id ≠ rank next.engine.rules b.id := fun hsame =>
        hother (rank_injective ha hb hsame)
      rw [← standing.rank_lt_iff ha hb hother] at hbehind
      have houtranks := (standing.rank_lt_iff hb ha hother.symm).mp (by omega)
      rcases houtranks with hlast | ⟨-, hrank⟩
      · exact hnot hlast
      · omega
  · intro models seals e done evaluates a ha exclusive
    exact standing.wins_iff evaluates ha exclusive

/-! ## A place that is lost -/

/-- Two exclusive rules of one priority. -/
def equals : List Rule := [sighting "a" 10 true true, sighting "b" 10 true true]

/-- The first of them is moved down, and up again. -/
def detour : List Rule := [sighting "a" 5 true true, sighting "a" 10 true true]

theorem lastAbove_detour : LastAbove equals detour "b" "a" := by
  refine ⟨[sighting "a" 5 true true], ⟨_, rfl⟩, ⟨10, 5, rfl, rfl, by decide⟩, ?_⟩
  intro later hlater hdetour hne
  have hlonger : [sighting "a" 5 true true].length < later.length :=
    Nat.lt_of_le_of_ne hlater.length_le fun hlength => hne (hlater.eq_of_length hlength).symm
  have hwhole : later = detour := hdetour.eq_of_length_le hlonger
  rw [hwhole]
  rfl

theorem standing_detour :
    Standing equals detour (detour.foldl (fun en r => (en.updateOne r).1)
      (Engine.empty.updateAll equals).1) := by
  have wf : Engine.empty.WellFormed := wellFormed_empty
  have start : Standing equals [] (Engine.empty.updateAll equals).1 :=
    wf.standing_updateAll (by decide)
  have down := start.updateOne (r := sighting "a" 5 true true) (by decide)
  exact down.updateOne (r := sighting "a" 10 true true) (by decide)

/-- The rule that was not moved is active as it was supplied, and has seen nothing. -/
theorem active_detour :
    let last := detour.foldl (fun en r => (en.updateOne r).1) (Engine.empty.updateAll equals).1
    sighting "b" 10 true true ∈ last.rules ∧ last.memory "b" = RuleState.fresh "b" := by
  intro last
  have wf : Engine.empty.WellFormed := wellFormed_empty
  have wfAll := wf.updateAll equals
  have wfDown := wfAll.upsert (sighting "a" 5 true true) Diff.none
  have hnamed : named "b" last.rules = some (sighting "b" 10 true true) := by
    have hup := wfDown.named_updateOne (sighting "a" 10 true true) "b"
    have hdown := wfAll.named_updateOne (sighting "a" 5 true true) "b"
    rw [if_neg (by decide)] at hup hdown
    exact (hup.trans hdown).trans (wf.named_updateAll equals "b")
  have hstate : last.state? "b" = some (RuleState.fresh "b") := by
    have hup := wfDown.state?_upsert (sighting "a" 10 true true) Diff.none "b"
    have hdown := wfAll.state?_upsert (sighting "a" 5 true true) Diff.none "b"
    rw [if_neg (by decide)] at hup hdown
    exact (hup.trans hdown).trans (wf.state?_updateAll equals "b")
  refine ⟨mem_of_named hnamed, ?_⟩
  rw [memory, hstate, Option.getD_some]

/-- The rule that has been moved down and up again stands behind the other one, which wins. -/
theorem ranked_by_last_difference_detour :
    let start : Detector := ⟨Engine.empty, Track.Library.empty⟩
    ∃ next pushed, Run (fun _ => none) (start.updateAll equals).1 (detour.map .updateOne)
        next pushed ∧
      rank next.engine.rules "b" < rank next.engine.rules "a" ∧
      (next.engine.evaluate (fun _ => none) (fun _ => default) default).alerts.map (·.ruleId) =
        ["b"] := by
  intro start
  let last := detour.foldl (fun en r => (en.updateOne r).1) (Engine.empty.updateAll equals).1
  have run : Run (fun _ => none) (start.updateAll equals).1 (detour.map .updateOne)
      ⟨last, Track.Library.empty⟩ _ := .cons (.updateOne _) (.cons (.updateOne _) .nil)
  have reachable : start.engine.Reachable := .empty
  have distinct : (equals.map (·.id)).Nodup := by decide
  have single : ∀ others, Operation.updateAll others ∉ detour.map .updateOne := by simp [detour]
  have members : ∀ r ∈ (detour.map .updateOne).flatMap Operation.singly,
      r.id ∈ equals.map (·.id) := by
    simp [detour, equals, sighting, Operation.singly]
  obtain ⟨hids, hrank, -, hwins⟩ :=
    (Run.ranked_by_last_difference reachable distinct single members).2 _ _ run
  have houtranks : Outranks equals detour "b" "a" := Or.inl lastAbove_detour
  obtain ⟨hactive, hmemory⟩ := active_detour
  have hmatches : sighting "b" 10 true true ∈ last.matching (fun _ => none) default := by
    refine List.mem_filter.mpr ⟨hactive, ?_⟩
    rw [show (sighting "b" 10 true true).id = "b" from rfl, hmemory]
    decide
  refine ⟨_, _, run, ?_, ?_⟩
  · obtain ⟨a, ha, hida⟩ := List.mem_map.mp ((hids "a").mpr (by decide))
    have hbefore := hrank _ hactive a ha (by rw [hida]; decide)
    rw [hida] at hbefore
    exact hbefore.mpr houtranks
  · have evaluates : last.Evaluates (fun _ => none) (fun _ => default) default
        (last.evaluate (fun _ => none) (fun _ => default) default) :=
      standing_detour.wellFormed.evaluates
    rw [(hwins _ _ _ _ evaluates _ hmatches rfl).mpr]
    · rfl
    · intro c hc _ hne
      have hidc : c.id = "a" := by
        have hid := (hids c.id).mp (List.mem_map_of_mem (List.mem_of_mem_filter hc))
        exact (List.mem_pair.mp hid).resolve_right hne
      rw [hidc]
      exact houtranks

/-- The order of the list is lost by a rule that is moved down and up again. -/
theorem ties_not_as_listed :
    ¬ ∀ (en : Engine) (listed singly : List Rule), en.Reachable → (listed.map (·.id)).Nodup →
      (∀ r ∈ singly, r.id ∈ listed.map (·.id)) →
      let next := singly.foldl (fun en r => (en.updateOne r).1) (en.updateAll listed).1
      ∀ a ∈ next.rules, ∀ b ∈ next.rules, a.priority = b.priority →
        rank listed a.id < rank listed b.id → rank next.rules a.id < rank next.rules b.id := by
  intro claim
  have standing := standing_detour
  obtain ⟨a, ha, hida⟩ := List.mem_map.mp ((standing.ids "a").mpr (by decide))
  obtain ⟨b, hb, hidb⟩ := List.mem_map.mp ((standing.ids "b").mpr (by decide))
  have hpriority : a.priority = b.priority := by
    have hpa := standing.priority a ha
    have hpb := standing.priority b hb
    rw [hida] at hpa
    rw [hidb] at hpb
    exact (Option.some.inj hpa).symm.trans (Option.some.inj hpb)
  have hlisted : rank equals a.id < rank equals b.id := by
    rw [hida, hidb]
    decide
  have hbefore := claim Engine.empty equals detour .empty (by decide) (by decide) a ha b hb
    hpriority hlisted
  rw [standing.rank_lt_iff ha hb (by rw [hida, hidb]; decide), hida, hidb] at hbefore
  exact hbefore.asymm (Or.inl lastAbove_detour)

end Detector

end VesselWatch
