/-
  Proofs/Rule/Fault.lean --- conditions that lack what they need.

  Only tests of the position can fail.  An aggregation fails if its filter does, and then it
  has got no further than to prune its window: the filter fails on the first event that it
  is applied to, be it an old one or the new one.  So a condition fails on every event or on
  none, always in the same way (`Condition.Lacks.evaluate`), and a rule that needs all of its
  conditions never matches if one of them fails.
-/
import VesselWatch.Proofs.Engine.Reachable

set_option autoImplicit false

namespace VesselWatch

/-- The condition lacks something.  The error says what: it is that of the position test which is
innermost in the filters. -/
inductive Condition.Lacks : Condition → ConditionError → Prop
  /-- a polygon has three vertices or more -/
  | vertices {t : SpatialTest} : t.op = .inPolygon → t.polygon.length < 3 →
      Lacks (.spatial t) (.polygonTooSmall t.polygon.length)
  /-- a circle has a centre -/
  | center {t : SpatialTest} : t.op = .inCircle → t.circleCenter = none →
      Lacks (.spatial t) .missingCircleCenter
  /-- an aggregation needs what its filter needs -/
  | filter {w : Window} {f : Condition} {err : ConditionError} :
      Lacks f err → Lacks (.aggregation w (some f)) err

/-- What is left of the window by a condition that fails: an aggregation has pruned it. -/
def Condition.pruned : Condition → VesselEvent → List VesselEvent → List VesselEvent
  | .aggregation w _, e, recent => w.unexpired e.timestamp recent
  | _, _, recent => recent

/-! ## Filters that fail always, filters that never do -/

section Filters

variable {filter : Filter} {err : ConditionError}

/-- A filter that always fails, and leaves nothing where there was nothing, stops an aggregation
before it has done more than prune its window. -/
theorem Window.evaluateFiltered_of_failing (left : VesselEvent → List VesselEvent)
    (fails : ∀ e s, s.recent = [] → filter e s = ⟨.error err, { s with recent := left e }, []⟩)
    (w : Window) (e : VesselEvent) (s : RuleState) :
    w.evaluateFiltered filter e s =
      ⟨.error err, { s with recent := w.unexpired e.timestamp s.recent }, []⟩ := by
  cases hpast : w.unexpired e.timestamp s.recent with
  | nil =>
    have hrefiltered : w.refiltered filter e s = ⟨.ok [], { s with recent := [] }, []⟩ := by
      unfold refiltered
      rw [hpast]
      rfl
    have hnew : filter e (w.refiltered filter e s).state =
        ⟨.error err, { s with recent := left e }, []⟩ := by
      rw [hrefiltered]
      exact fails e _ rfl
    rw [evaluateFiltered_of_filter_error (by rw [hrefiltered]) (by rw [hnew]), hnew, hrefiltered]
    rfl
  | cons first rest =>
    have hfirst := fails first { s with recent := [] } rfl
    have hrefiltered : w.refiltered filter e s =
        ⟨.error err, { s with recent := left first }, []⟩ := by
      unfold refiltered
      rw [hpast, refilter, hfirst]
    rw [evaluateFiltered_of_refilter_error (by rw [hrefiltered]), hrefiltered, hpast]

theorem exists_kept_of_never_failing (works : ∀ e s, ∃ b, (filter e s).verdict = .ok b)
    (past : List VesselEvent) (s : RuleState) :
    ∃ kept, (refilter filter past s).kept = .ok kept := by
  induction past generalizing s with
  | nil => exact ⟨[], rfl⟩
  | cons e rest ih =>
    obtain ⟨passes, hpasses⟩ := works e s
    obtain ⟨kept, hkept⟩ := ih (filter e s).state
    unfold refilter
    simp only [hpasses, hkept]
    exact ⟨_, rfl⟩

theorem Window.exists_verdict_of_never_failing
    (works : ∀ e s, ∃ b, (filter e s).verdict = .ok b) (w : Window) (e : VesselEvent)
    (s : RuleState) : ∃ b, (w.evaluateFiltered filter e s).verdict = .ok b := by
  obtain ⟨kept, hkept⟩ := exists_kept_of_never_failing works (w.unexpired e.timestamp s.recent)
    { s with recent := [] }
  obtain ⟨admitted, hadmitted⟩ := works e (w.refiltered filter e s).state
  rw [evaluateFiltered_of_ok hkept hadmitted]
  exact ⟨_, rfl⟩

end Filters

/-! ## Conditions -/

section Conditions

variable {c : Condition} {err : ConditionError}

/-- A condition that lacks something fails on every event, and all it has done is prune its
window. -/
theorem Condition.Lacks.evaluate (models : Models) (lacks : c.Lacks err) (e : VesselEvent)
    (s : RuleState) :
    c.evaluate models e s = ⟨.error err, { s with recent := c.pruned e s.recent }, []⟩ := by
  induction lacks generalizing e s with
  | vertices hop hfew => simp [Condition.evaluate, SpatialTest.evaluate, hop, hfew, pruned]
  | center hop hcenter => simp [Condition.evaluate, SpatialTest.evaluate, hop, hcenter, pruned]
  | @filter w f err _ ih =>
    -- Out of sight of the window there is nothing for the filter to prune.
    refine w.evaluateFiltered_of_failing (fun e => f.pruned e []) ?_ e s
    intro e s hempty
    rw [ih e s, hempty]

theorem SpatialTest.exists_verdict {t : SpatialTest}
    (complete : ∀ err, ¬ (Condition.spatial t).Lacks err) (e : VesselEvent) :
    ∃ b, t.evaluate e = .ok b := by
  unfold SpatialTest.evaluate
  cases hop : t.op with
  | inPolygon =>
    by_cases hfew : t.polygon.length < 3
    · exact absurd (.vertices hop hfew) (complete _)
    · exact ⟨_, if_neg hfew⟩
  | inCircle =>
    cases hcenter : t.circleCenter with
    | none => exact absurd (.center hop hcenter) (complete _)
    | some center => exact ⟨_, rfl⟩
  | nearPoint => cases t.otherEntity <;> exact ⟨_, rfl⟩

/-- A condition that lacks nothing fails on no event. -/
theorem Condition.exists_verdict (models : Models) :
    ∀ c : Condition, (∀ err, ¬ c.Lacks err) →
      ∀ e s, ∃ b, (c.evaluate models e s).verdict = .ok b
  | .value _, _, _, _ => ⟨_, rfl⟩
  | .spatial _, complete, e, _ => SpatialTest.exists_verdict complete e
  | .temporal _, _, _, _ => ⟨_, rfl⟩
  | .aggregation _ none, _, _, _ => ⟨_, rfl⟩
  | .aggregation w (some f), complete, e, s =>
    w.exists_verdict_of_never_failing
      (Condition.exists_verdict models f fun err lacks => complete err (.filter lacks)) e s
  | .positionAnomaly _, _, _, _ => ⟨_, rfl⟩

theorem Condition.verdict_eq_error_iff (models : Models) (c : Condition) (e : VesselEvent)
    (s : RuleState) (err : ConditionError) :
    (c.evaluate models e s).verdict = .error err ↔ c.Lacks err := by
  constructor
  · intro hverdict
    -- If the condition lacks something at all, it is this that the error says.
    by_cases hlacks : ∃ err', c.Lacks err'
    · obtain ⟨err', lacks⟩ := hlacks
      rw [lacks.evaluate models e s] at hverdict
      cases hverdict
      exact lacks
    · obtain ⟨b, hb⟩ := c.exists_verdict models (not_exists.mp hlacks) e s
      rw [hb] at hverdict
      cases hverdict
  · intro lacks
    rw [lacks.evaluate models e s]

end Conditions

/-! ## Rules that need all of their conditions -/

section Rules

variable {models : Models} {c : Condition} {err : ConditionError}

theorem evaluateUntil_of_lacks {cs : List Condition} (member : c ∈ cs) (lacks : c.Lacks err)
    (e : VesselEvent) (s : RuleState) :
    (evaluateUntil models false e cs s).verdict ≠ .ok true := by
  induction cs generalizing s with
  | nil => cases member
  | cons first rest ih =>
    intro hmatch
    unfold evaluateUntil at hmatch
    cases hfirst : (first.evaluate models e s).verdict with
    | error err' => simp [hfirst] at hmatch
    | ok b =>
      cases b with
      | false => simp [hfirst] at hmatch
      | true =>
        -- The first condition holds, so it is another one that fails.
        have hrest : c ∈ rest := by
          rcases List.mem_cons.mp member with rfl | hrest
          · rw [lacks.evaluate models e s] at hfirst
            cases hfirst
          · exact hrest
        exact ih hrest _ (by simpa [hfirst] using hmatch)

theorem Rule.isMatch_of_lacks {r : Rule} (logic : r.combineLogic = .all) (member : c ∈ r.conditions)
    (lacks : c.Lacks err) (e : VesselEvent) (s : RuleState) :
    (r.evaluate models e s).isMatch = false := by
  have hverdict : (evaluateUntil models false e r.conditions s).verdict ≠ .ok true :=
    evaluateUntil_of_lacks member lacks e s
  have hconditions : r.conditions.isEmpty = false :=
    List.isEmpty_eq_false_iff.mpr (List.ne_nil_of_mem member)
  unfold Rule.evaluate Outcome.isMatch Outcome.ofCondition
  simp only [hconditions, Bool.false_eq_true, if_false, logic]
  cases hv : (evaluateUntil models false e r.conditions s).verdict with
  | error err' => rfl
  | ok b =>
    cases b with
    | false => rfl
    | true => exact absurd hv hverdict

end Rules

theorem mem_of_mem_resolveExclusive {rules : List Rule} {alerts : List Alert} {a : Alert}
    (member : a ∈ resolveExclusive rules alerts) : a ∈ alerts := by
  unfold resolveExclusive byRank at member
  split at member
  · exact List.mem_mergeSort.mp (List.mem_of_mem_filter member)
  · exact List.mem_mergeSort.mp member

/-- An alert is of a rule that matches. -/
theorem Engine.Evaluates.exists_matching {en : Engine} (wf : en.WellFormed) {models : Models}
    {seals : String → Seal} {e : VesselEvent} {done : Evaluation}
    (evaluates : en.Evaluates models seals e done) {a : Alert} (member : a ∈ done.alerts) :
    ∃ r ∈ en.matching models e, a.ruleId = r.id := by
  obtain ⟨pushed, delivers, rfl⟩ := evaluates
  have hpushed := (delivers.alerts_perm wf).mem_iff.mp (mem_of_mem_resolveExclusive member)
  obtain ⟨r, hr, rfl⟩ := List.mem_map.mp hpushed
  exact ⟨r, hr, rfl⟩

/-- A condition fails just if it lacks something, whatever the event, the memory and the models
are, and what it lacks is the error.  A failure leaves all of the memory as it was, except that an
aggregation has dropped the events of the window that are too old for it.  A rule that needs all of
its conditions raises no alert if one of them lacks something. -/
theorem Condition.fails_iff_lacks (models : Models) (c : Condition) :
    (∀ e s err, (c.evaluate models e s).verdict = .error err ↔ c.Lacks err) ∧
    (∀ e s err, (c.evaluate models e s).verdict = .error err →
      (c.evaluate models e s).state = { s with recent := c.pruned e s.recent }) ∧
    ∀ r : Rule, r.combineLogic = .all → c ∈ r.conditions → (∃ err, c.Lacks err) →
      ∀ en : Engine, en.Reachable → r ∈ en.rules →
        ∀ seals e done, en.Evaluates models seals e done → ∀ a ∈ done.alerts, a.ruleId ≠ r.id := by
  have hfails := c.verdict_eq_error_iff models
  refine ⟨hfails, ?_, ?_⟩
  · intro e s err hverdict
    rw [((hfails e s err).mp hverdict).evaluate models e s]
  · rintro r logic member ⟨err, lacks⟩ en reachable active seals e done evaluates a ha hid
    have wf := reachable.wellFormed
    obtain ⟨r', hr', hid'⟩ := evaluates.exists_matching wf ha
    obtain ⟨active', hmatch⟩ := List.mem_filter.mp hr'
    have hsame : r' = r :=
      List.inj_on_of_nodup_map wf.distinct active' active (hid'.symm.trans hid)
    rw [hsame, Rule.isMatch_of_lacks logic member lacks, Bool.and_false] at hmatch
    cases hmatch

/-- A circle without a centre, two filters deep: the window is pruned of the event that is too
old, and the rule stays silent. -/
theorem fails_iff_lacks_circle :
    let circle : Condition := .spatial ⟨.inCircle, [], none, 0, 0, none⟩
    let crowd : Condition := .aggregation ⟨.countInWindow, 60, 0⟩
      (some (.aggregation ⟨.countInWindow, 10, 0⟩ (some circle)))
    let r : Rule := { Engine.sighting "r" 1 true false with conditions := [crowd] }
    let event (second : Nat) : VesselEvent :=
      { (default : VesselEvent) with timestamp := ⟨0, second, 0⟩ }
    let s : RuleState := { RuleState.fresh "r" with recent := [event 0, event 50] }
    let o := crowd.evaluate (fun _ => none) (event 90) s
    o.verdict = .error .missingCircleCenter ∧ o.state.recent.map (·.timestamp.second) = [50] ∧
      ((Engine.ofRules [r]).evaluate (fun _ => none) (fun _ => default) (event 90)).alerts.all
        (·.ruleId != "r") = true := by
  intro circle crowd r event s o
  have lacks : crowd.Lacks .missingCircleCenter := .filter (.filter (.center rfl rfl))
  obtain ⟨hfails, hstate, hsilent⟩ := crowd.fails_iff_lacks (fun _ => none)
  have hverdict : o.verdict = .error .missingCircleCenter := (hfails _ _ _).mpr lacks
  have reachable : (Engine.ofRules [r]).Reachable := .ofRules _
  have active : r ∈ (Engine.ofRules [r]).rules :=
    (Rule.byPriority_perm _).mem_iff.mpr (List.mem_singleton_self r)
  refine ⟨hverdict, ?_, ?_⟩
  · rw [hstate _ _ _ hverdict]
    decide +kernel
  · rw [List.all_eq_true]
    intro a ha
    have hid := hsilent r rfl (List.mem_singleton_self _) ⟨_, lacks⟩ _ reachable active _ _ _
      reachable.wellFormed.evaluates a ha
    exact bne_iff_ne.mpr hid

end VesselWatch
