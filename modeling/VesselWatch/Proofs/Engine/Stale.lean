/-
  Proofs/Engine/Stale.lean --- definitions that stay although others were supplied.

  An update leaves a rule alone if its old definition is the same as the new one, and then
  it is the old one that is applied from then on.  That makes no difference as long as
  the literals of the two have one text and their points are at the same distances from
  everywhere: events get the answers that they would get from the definitions that were
  supplied (`updateAll_literal`).  Where the texts differ it does: an event that the new
  definition matches goes unnoticed (`updateAll_not_literal`).
-/
import VesselWatch.Proofs.Engine.Session

set_option autoImplicit false

namespace VesselWatch

/-- Definitions that are the same are twins, if nothing tells their conditions apart. -/
theorem Rule.twin_of_same {a b : Rule} (same : a.same b = true)
    (indistinct : List.Forall₂ Condition.Indistinct a.conditions b.conditions) : a.Twin b := by
  have hevaluate := fun (models : Models) (coherent : Track.Coherent fun p => models (some p)) =>
    Rule.alike_of_same coherent same indistinct
  simp only [Rule.same, Bool.and_eq_true, beq_iff_eq] at same
  obtain ⟨⟨⟨⟨⟨⟨⟨hid, -⟩, -⟩, henabled⟩, hexclusive⟩, -⟩, -⟩, haction⟩ := same
  exact ⟨hid, henabled, hexclusive, haction, hevaluate⟩

def Operation.isUpdate : Operation → Bool
  | .updateAll _ => true
  | .updateOne _ => true
  | _ => false

namespace Detector

variable {d d' next next' : Detector}

theorem Mirrors.shutdown (mirrors : Mirrors d d') :
    Mirrors { d with engine := d.engine.shutdown } { d' with engine := d'.engine.shutdown } where
  wellFormed := mirrors.wellFormed.shutdown
  wellFormed' := mirrors.wellFormed'.shutdown
  engine := ⟨mirrors.engine.rules, mirrors.engine.state?⟩
  library := mirrors.library

/-- Mirrors answer every row of events alike, with shutdowns in between. -/
theorem Mirrors.session (mirrors : Mirrors d d') {errands : List Errand}
    (settled : ∀ q ∈ errands, q.operation.isUpdate = false) {answers answers' : List Answer}
    (session : Session d errands next answers) (session' : Session d' errands next' answers') :
    Mirrors next next' ∧ answers = answers' := by
  induction errands generalizing d d' answers answers' with
  | nil =>
    cases session
    cases session'
    exact ⟨mirrors, rfl⟩
  | cons q rest ih =>
    rw [List.forall_mem_cons] at settled
    obtain ⟨hq, hrest⟩ := settled
    obtain ⟨files, op⟩ := q
    cases session with
    | cons step session =>
      cases session' with
      | cons step' session' =>
        cases op with
        | updateAll rules => cases hq
        | updateOne r => cases hq
        | evaluate seals e =>
          obtain ⟨hnext, hanswers⟩ :=
            mirrors.evaluate (Track.coherent_loaded files) step step'
          obtain ⟨hend, hlater⟩ := ih hnext hrest session session'
          exact ⟨hend, by rw [hanswers, hlater]⟩
        | shutdown =>
          cases step
          cases step'
          obtain ⟨hend, hlater⟩ := ih mirrors.shutdown hrest session session'
          exact ⟨hend, by rw [hlater]; rfl⟩

end Detector

namespace Engine

open Rule

variable {en literal : Engine}

/-- What is active after a definition has been supplied is a twin of it. -/
theorem twin_supersede {r : Rule} (indistinct : ∀ old ∈ en.rules, old.same r = true →
      List.Forall₂ Condition.Indistinct old.conditions r.conditions) :
    (r.supersede (Rule.named r.id en.rules)).Twin r := by
  unfold supersede
  cases hnamed : Rule.named r.id en.rules with
  | none => exact Twin.refl r
  | some old =>
    by_cases hsame : old.same r = true
    · simp only [if_pos hsame]
      exact twin_of_same hsame (indistinct old (mem_of_named hnamed) hsame)
    · simp only [if_neg hsame]
      exact Twin.refl r

/-- After an update each rule is applied as it was supplied, and events get the answers that they
get from an engine with the same memories and exactly the definitions supplied, provided that an
old definition that counts as the same as a new one cannot be told apart from it. -/
theorem Reachable.updateAll_literal (reachable : en.Reachable) (rules : List Rule)
    (indistinct : ∀ r ∈ lastOfEach rules, ∀ old ∈ en.rules, old.same r = true →
      List.Forall₂ Condition.Indistinct old.conditions r.conditions)
    (wellFormed : literal.WellFormed)
    (definitions : literal.rules = byPriority (lastOfEach rules))
    (memories : ∀ id, literal.state? id = (en.updateAll rules).1.state? id) :
    (∀ r ∈ lastOfEach rules, ∀ active ∈ (en.updateAll rules).1.rules, active.id = r.id →
      active.Twin r) ∧
    ∀ (lib : Track.Library) (errands : List Errand),
      (∀ q ∈ errands, q.operation.isUpdate = false) →
      (∃ next answers, Detector.Session ⟨(en.updateAll rules).1, lib⟩ errands next answers) ∧
      (∃ next answers, Detector.Session ⟨literal, lib⟩ errands next answers) ∧
      ∀ next answers next' answers',
        Detector.Session ⟨(en.updateAll rules).1, lib⟩ errands next answers →
        Detector.Session ⟨literal, lib⟩ errands next' answers' →
        answers = answers' ∧ ∀ id, next.engine.state? id = next'.engine.state? id := by
  have wf := reachable.wellFormed
  have wfNext := wf.updateAll rules
  rw [← distinct_eq_lastOfEach] at indistinct definitions ⊢
  -- What stays is a twin of what was supplied, so the engines mirror each other from the start.
  have htwin : ∀ r ∈ byPriority (Rule.distinct rules),
      (r.supersede (Rule.named r.id en.rules)).Twin r := fun r hr =>
    twin_supersede (indistinct r ((byPriority_perm _).mem_iff.mp hr))
  constructor
  · intro r hr active hactive hid
    rw [wf.rules_updateAll] at hactive
    obtain ⟨r', hr', rfl⟩ := List.mem_map.mp hactive
    have hsupplied : r' ∈ Rule.distinct rules := (byPriority_perm _).mem_iff.mp hr'
    have hsame : r' = r := List.inj_on_of_nodup_map (nodup_ids_distinct rules) hsupplied hr
      ((r'.id_supersede _).symm.trans hid)
    exact hsame ▸ htwin r' hr'
  · intro lib errands settled
    have mirrors : Detector.Mirrors ⟨(en.updateAll rules).1, lib⟩ ⟨literal, lib⟩ :=
      { wellFormed := wfNext
        wellFormed' := wellFormed
        engine :=
          { rules := by
              rw [wf.rules_updateAll, definitions, List.forall₂_map_left_iff, List.forall₂_same]
              exact htwin
            state? := fun id => (memories id).symm }
        library := ⟨rfl, fun _ => rfl⟩ }
    refine ⟨Detector.exists_session wfNext errands, Detector.exists_session wellFormed errands,
      fun next answers next' answers' session session' => ?_⟩
    obtain ⟨hend, hanswers⟩ := mirrors.session settled session session'
    exact ⟨hanswers, hend.engine.state?⟩

/-- An update of a new engine leaves the memories of a new engine with the rules supplied. -/
theorem state?_ofRules_updateAll (olds rules : List Rule) (id : String) :
    (ofRules rules).state? id = ((ofRules olds).updateAll rules).1.state? id := by
  have hmemory : (ofRules olds).memory id = RuleState.fresh id := by
    unfold memory
    rw [state?_ofRules]
    cases lastNamed id olds <;> rfl
  rw [state?_ofRules, (wellFormed_ofRules olds).state?_updateAll, hmemory]

/-- The threshold that stays is a zero of the other sign. -/
theorem updateAll_literal_zero :
    let quota (threshold : Float) : Rule :=
      { sighting "r" 1 true false with
        conditions := [.aggregation ⟨.countInWindow, 60, threshold⟩ none] }
    let en := ofRules [quota 0]
    let event : Errand := ⟨FileTree.empty, .evaluate (fun _ => default) default⟩
    (quota 0).same (quota (-0)) = true ∧
      ∃ next next' answers,
        Detector.Session ⟨(en.updateAll [quota (-0)]).1, Track.Library.empty⟩ [event, event]
          next answers ∧
        Detector.Session ⟨ofRules [quota (-0)], Track.Library.empty⟩ [event, event]
          next' answers ∧
        next.engine.state? "r" = next'.engine.state? "r" := by
  intro quota en event
  have indistinct : ∀ r ∈ lastOfEach [quota (-0)], ∀ old ∈ en.rules, old.same r = true →
      List.Forall₂ Condition.Indistinct old.conditions r.conditions := by
    intro r hr old hold _
    rw [← distinct_eq_lastOfEach] at hr
    obtain rfl : r = quota (-0) := List.mem_singleton.mp (mem_of_mem_distinct hr)
    obtain rfl : old = quota 0 :=
      List.mem_singleton.mp (mem_of_mem_distinct ((byPriority_perm _).mem_iff.mp hold))
    exact .cons trivial .nil
  have definitions : (ofRules [quota (-0)]).rules = byPriority (lastOfEach [quota (-0)]) := by
    rw [← distinct_eq_lastOfEach]
    rfl
  obtain ⟨-, hsessions⟩ := (Reachable.ofRules [quota 0]).updateAll_literal [quota (-0)] indistinct
    (wellFormed_ofRules _) definitions (state?_ofRules_updateAll _ _)
  obtain ⟨⟨next, answers, session⟩, ⟨next', answers', session'⟩, hsame⟩ :=
    hsessions Track.Library.empty [event, event] (by
      intro q hq
      rcases List.mem_pair.mp hq with rfl | rfl <;> rfl)
  obtain ⟨rfl, hstates⟩ := hsame next answers next' answers' session session'
  exact ⟨by decide, next, next', answers, session, session', hstates "r"⟩

/-- A rule that is met by one remark. -/
def remarked (remark : Json) : Rule :=
  { sighting "r" 1 true false with conditions := [.value ⟨"remark", .equal, remark⟩] }

theorem isMatch_remarked (models : Models) (remark : Json) (e : VesselEvent) (s : RuleState) :
    ((remarked remark).evaluate models e s).isMatch =
      ValueTest.holds ⟨"remark", .equal, remark⟩ e := by
  cases hholds : ValueTest.holds ⟨"remark", .equal, remark⟩ e <;>
    simp [remarked, sighting, Rule.evaluate, evaluateUntil, Condition.evaluate, hholds,
      Outcome.ofCondition, Outcome.isMatch, Except.mapError]

theorem WellFormed.alerts_evaluate (wf : en.WellFormed) (models : Models)
    (seals : String → Seal) (e : VesselEvent) :
    (en.evaluate models seals e).alerts =
      (survivors (en.matching models e)).map fun r => Alert.raised (seals r.id) r e := by
  have hevaluates : en.Evaluates models seals e (en.evaluate models seals e) := wf.evaluates
  exact hevaluates.alerts_eq wf

theorem WellFormed.length_alerts_remarked (wf : en.WellFormed) {remark : Json}
    (rules : en.rules = [remarked remark]) (models : Models) (seals : String → Seal)
    (e : VesselEvent) :
    (en.evaluate models seals e).alerts.length =
      if ValueTest.holds ⟨"remark", .equal, remark⟩ e then 1 else 0 := by
  have hmatching : en.matching models e =
      if ValueTest.holds ⟨"remark", .equal, remark⟩ e then [remarked remark] else [] := by
    have henabled : (remarked remark).enabled = true := rfl
    unfold matching
    rw [rules, List.filter_singleton, isMatch_remarked, henabled, Bool.true_and, cond_eq_ite]
  rw [wf.alerts_evaluate, List.length_map, hmatching]
  split <;> rfl

/-- Two remarks that are the same are told apart by an event: the old one, which stays, does not
meet it, and the one that was supplied does. -/
theorem updateAll_not_literal :
    ¬ ∀ (en literal : Engine) (rules : List Rule), en.Reachable → literal.Reachable →
      literal.rules = byPriority (lastOfEach rules) →
      (∀ id, literal.state? id = (en.updateAll rules).1.state? id) →
      ∀ (models : Models) (seals : String → Seal) (e : VesselEvent),
        ((en.updateAll rules).1.evaluate models seals e).alerts =
          (literal.evaluate models seals e).alerts := by
  intro claim
  let old : Json := .object [("a", .number (.int 1)), ("b", .number (.int 2))]
  let new : Json := .object [("b", .number (.int 2)), ("a", .number (.int 1))]
  let e : VesselEvent := { (default : VesselEvent) with attributes := [("remark", new)] }
  have hsingle : ∀ r : Rule, (ofRules [r]).rules = [r] := fun r => by
    refine byPriority_of_descending ?_
    simp [Descending, Rule.distinct, Assoc.ofList, Assoc.put]
  have definitions : (ofRules [remarked new]).rules = byPriority (lastOfEach [remarked new]) := by
    rw [← distinct_eq_lastOfEach]
    rfl
  have halerts := claim (ofRules [remarked old]) (ofRules [remarked new]) [remarked new]
    (.ofRules _) (.ofRules _) definitions (state?_ofRules_updateAll _ _) (fun _ => none)
    (fun _ => default) e
  have hsame : (remarked old).same (remarked new) = true := by decide +kernel
  have hkept : (remarked new).supersede (Rule.named (remarked new).id [remarked old]) =
      remarked old := by
    have hnamed : Rule.named (remarked new).id [remarked old] = some (remarked old) := rfl
    rw [hnamed, supersede, if_pos hsame]
  have hactive : ((ofRules [remarked old]).updateAll [remarked new]).1.rules =
      [remarked old] := by
    have hmap := (wellFormed_ofRules [remarked old]).rules_updateAll [remarked new]
    rw [← distinct_eq_lastOfEach] at definitions
    rw [hmap, ← definitions, hsingle, hsingle, List.map_singleton, hkept]
  have hmissed : ValueTest.holds ⟨"remark", .equal, old⟩ e = false := by decide +kernel
  have hmet : ValueTest.holds ⟨"remark", .equal, new⟩ e = true := by decide +kernel
  have hlength := congrArg List.length halerts
  rw [((wellFormed_ofRules _).updateAll _).length_alerts_remarked hactive,
    (wellFormed_ofRules _).length_alerts_remarked (hsingle _), hmissed, hmet] at hlength
  exact absurd hlength (by decide)

end Engine

end VesselWatch
