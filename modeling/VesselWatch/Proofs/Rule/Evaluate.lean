/-
  Proofs/Rule/Evaluate.lean --- what evaluating a rule leaves as it was.

  A condition touches a memory only through tests of time and through the window.
  What survives these two survives every condition, however deep its filters are
  (`Condition.evaluate_preserves`), and hence every rule.
-/
import VesselWatch.Rule.Evaluate
import VesselWatch.Engine.Evaluate

set_option autoImplicit false

namespace VesselWatch

variable {models : Models}

/-! ## Spans of time -/

theorem longestSpan_eq : longestSpan = 9223372036854775807000000 := by decide

theorem wholeSeconds?_natCast (seconds : Nat) : wholeSeconds? seconds =
    if (seconds : Int) * 1000000000 ≤ longestSpan then some ((seconds : Int) * 1000000000)
    else none := by
  have hleast : -longestSpan ≤ (seconds : Int) * 1000000000 := by
    rw [longestSpan_eq]
    omega
  simp only [wholeSeconds?, hleast, decide_true, Bool.true_and, decide_eq_true_eq]

/-- A span is as long as its seconds say, up to the longest one. -/
theorem span_eq_ite (seconds : Nat) : span seconds =
    if (seconds : Int) * 1000000000 ≤ longestSpan then (seconds : Int) * 1000000000
    else longestSpan := by
  unfold span signedSeconds?
  split
  · rw [Option.bind_some, wholeSeconds?_natCast]
    split <;> rfl
  · next hunsigned =>
    have hlong : ¬ (seconds : Int) * 1000000000 ≤ longestSpan := by
      rw [longestSpan_eq]
      omega
    rw [if_neg hlong]
    rfl

/-! ## The three ends of a filtered aggregation -/

namespace Window

/-- What is left of the window after it has been pruned and its filter applied to it anew, while
the window itself is out of sight. -/
def refiltered (w : Window) (filter : Filter) (e : VesselEvent) (s : RuleState) : Refiltered :=
  refilter filter (w.unexpired e.timestamp s.recent) { s with recent := [] }

variable {w : Window} {filter : Filter} {e : VesselEvent} {s : RuleState}
  {kept : List VesselEvent} {err : ConditionError} {admitted : Bool}

/-- The filter fails on an event of the window: the pruned window is put back. -/
theorem evaluateFiltered_of_refilter_error
    (hkept : (w.refiltered filter e s).kept = .error err) :
    w.evaluateFiltered filter e s =
      ⟨.error err,
        { (w.refiltered filter e s).state with recent := w.unexpired e.timestamp s.recent },
        (w.refiltered filter e s).consulted⟩ := by
  unfold refiltered at hkept ⊢
  simp [evaluateFiltered, hkept]

/-- The filter fails on the new event: what has passed the filter stays. -/
theorem evaluateFiltered_of_filter_error (hkept : (w.refiltered filter e s).kept = .ok kept)
    (hverdict : (filter e (w.refiltered filter e s).state).verdict = .error err) :
    w.evaluateFiltered filter e s =
      ⟨.error err, { (filter e (w.refiltered filter e s).state).state with recent := kept },
        (w.refiltered filter e s).consulted ++
          (filter e (w.refiltered filter e s).state).consulted⟩ := by
  unfold refiltered at hkept hverdict ⊢
  simp [evaluateFiltered, hkept, hverdict]

/-- The filter fails nowhere: the new event joins the window if it passes, and the window is
counted. -/
theorem evaluateFiltered_of_ok (hkept : (w.refiltered filter e s).kept = .ok kept)
    (hverdict : (filter e (w.refiltered filter e s).state).verdict = .ok admitted) :
    w.evaluateFiltered filter e s =
      ⟨.ok (w.verdict (if admitted then kept ++ [e] else kept)),
        { (filter e (w.refiltered filter e s).state).state with
          recent := if admitted then kept ++ [e] else kept },
        (w.refiltered filter e s).consulted ++
          (filter e (w.refiltered filter e s).state).consulted⟩ := by
  unfold refiltered at hkept hverdict ⊢
  simp [evaluateFiltered, hkept, hverdict]

end Window

/-! ## Conditions in their order -/

/-- The next condition gets its turn. -/
def Outcome.goesOn (last : Bool) (o : Outcome ConditionError) : Bool :=
  match o.verdict with
  | .ok b => b != last
  | .error _ => false

theorem state_evaluateUntil_cons (last : Bool) (e : VesselEvent) (c : Condition)
    (rest : List Condition) (s : RuleState) :
    (evaluateUntil models last e (c :: rest) s).state =
      if (c.evaluate models e s).goesOn last then
        (evaluateUntil models last e rest (c.evaluate models e s).state).state
      else (c.evaluate models e s).state := by
  rw [evaluateUntil]
  unfold Outcome.goesOn
  cases hverdict : (c.evaluate models e s).verdict with
  | error err => simp
  | ok b =>
    by_cases hb : b = last
    · simp [hb]
    · simp [hb]

theorem Rule.state_evaluate (r : Rule) (e : VesselEvent) (s : RuleState) :
    (r.evaluate models e s).state =
      match r.combineLogic with
      | .all => (evaluateUntil models false e r.conditions s).state
      | .any => (evaluateUntil models true e r.conditions s).state
      | .unsupported _ => s := by
  unfold Rule.evaluate
  cases hconditions : r.conditions with
  | nil => cases r.combineLogic <;> rfl
  | cons c rest => cases r.combineLogic <;> rfl

/-! ## What survives a condition -/

section Preserves

variable {P : RuleState → Prop}

theorem refilter_preserves {filter : Filter} (hfilter : ∀ e s, P s → P (filter e s).state)
    (past : List VesselEvent) {s : RuleState} (hs : P s) : P (refilter filter past s).state := by
  induction past generalizing s with
  | nil => exact hs
  | cons e rest ih =>
    have here : P (filter e s).state := hfilter e s hs
    unfold refilter
    cases hverdict : (filter e s).verdict with
    | error err => simpa [hverdict] using here
    | ok passes => simpa [hverdict] using ih here

theorem Window.evaluateFiltered_preserves {filter : Filter}
    (hfilter : ∀ e s, P s → P (filter e s).state)
    (hrecent : ∀ s recent, P s → P { s with recent := recent }) (w : Window) (e : VesselEvent)
    {s : RuleState} (hs : P s) : P (w.evaluateFiltered filter e s).state := by
  have hold : P (w.refiltered filter e s).state := refilter_preserves hfilter _ (hrecent s [] hs)
  cases hkept : (w.refiltered filter e s).kept with
  | error err =>
    rw [evaluateFiltered_of_refilter_error hkept]
    exact hrecent _ _ hold
  | ok kept =>
    have hnew := hfilter e _ hold
    cases hverdict : (filter e (w.refiltered filter e s).state).verdict with
    | error err =>
      rw [evaluateFiltered_of_filter_error hkept hverdict]
      exact hrecent _ _ hnew
    | ok admitted =>
      rw [evaluateFiltered_of_ok hkept hverdict]
      exact hrecent _ _ hnew

/-- What neither a test of time nor a new window destroys, no condition destroys. -/
theorem Condition.evaluate_preserves
    (htime : ∀ (t : TemporalTest) e s, P s → P (t.evaluate e s).2)
    (hrecent : ∀ s recent, P s → P { s with recent := recent }) :
    ∀ (c : Condition) (e : VesselEvent) (s : RuleState), P s → P (c.evaluate models e s).state
  | .value _, _, _, hs => hs
  | .spatial _, _, _, hs => hs
  | .temporal t, e, s, hs => htime t e s hs
  | .aggregation _ none, _, s, hs => hrecent s _ hs
  | .aggregation w (some f), e, _, hs =>
    w.evaluateFiltered_preserves (Condition.evaluate_preserves htime hrecent f) hrecent e hs
  | .positionAnomaly _, _, _, hs => hs

theorem evaluateUntil_preserves
    (htime : ∀ (t : TemporalTest) e s, P s → P (t.evaluate e s).2)
    (hrecent : ∀ s recent, P s → P { s with recent := recent }) (last : Bool) (e : VesselEvent)
    (cs : List Condition) {s : RuleState} (hs : P s) :
    P (evaluateUntil models last e cs s).state := by
  induction cs generalizing s with
  | nil => exact hs
  | cons c rest ih =>
    have here : P (c.evaluate models e s).state :=
      Condition.evaluate_preserves htime hrecent c e s hs
    rw [state_evaluateUntil_cons]
    split
    · exact ih here
    · exact here

/-- What neither a test of time nor a new window destroys, no rule destroys. -/
theorem Rule.evaluate_preserves
    (htime : ∀ (t : TemporalTest) e s, P s → P (t.evaluate e s).2)
    (hrecent : ∀ s recent, P s → P { s with recent := recent }) (r : Rule) (e : VesselEvent)
    {s : RuleState} (hs : P s) : P (r.evaluate models e s).state := by
  rw [Rule.state_evaluate]
  cases r.combineLogic with
  | all => exact evaluateUntil_preserves htime hrecent false e r.conditions hs
  | any => exact evaluateUntil_preserves htime hrecent true e r.conditions hs
  | unsupported word => exact hs

end Preserves

theorem TemporalTest.ruleId_evaluate (t : TemporalTest) (e : VesselEvent) (s : RuleState) :
    (t.evaluate e s).2.ruleId = s.ruleId := by
  unfold evaluate
  split <;> split <;> rfl

/-- A memory stays with its rule. -/
theorem Rule.ruleId_evaluate (r : Rule) (e : VesselEvent) (s : RuleState) :
    (r.evaluate models e s).state.ruleId = s.ruleId :=
  Rule.evaluate_preserves (P := fun s' => s'.ruleId = s.ruleId)
    (fun t e s' hs' => (t.ruleId_evaluate e s').trans hs') (fun _ _ hs' => hs') r e rfl

/-! ## Rules that stop their worker -/

/-- The rule stops its worker: it has conditions, but a word that does not say how to combine
them. -/
def Rule.Halts (r : Rule) : Prop :=
  r.conditions.isEmpty = false ∧ ∃ word, r.combineLogic = .unsupported word

/-- A rule that stops its worker fails on every event and remembers nothing. -/
theorem Rule.Halts.evaluate {r : Rule} (halts : r.Halts) (models : Models) (e : VesselEvent)
    (s : RuleState) :
    ∃ word, r.evaluate models e s = ⟨.error (.unsupportedLogic word), s, []⟩ := by
  obtain ⟨hconditions, word, hword⟩ := halts
  exact ⟨word, by simp [Rule.evaluate, hconditions, hword]⟩

theorem Outcome.stops_ofCondition (o : Outcome ConditionError) : o.ofCondition.stops = false := by
  unfold stops ofCondition
  cases o.verdict <;> rfl

/-- A worker exits only because of a rule that stops it. -/
theorem Rule.halts_of_stops {r : Rule} {e : VesselEvent} {s : RuleState}
    (stops : (r.evaluate models e s).stops = true) : r.Halts := by
  unfold evaluate at stops
  split at stops
  · cases stops
  · next hconditions =>
    split at stops
    · rw [Outcome.stops_ofCondition] at stops
      cases stops
    · rw [Outcome.stops_ofCondition] at stops
      cases stops
    · next word hword => exact ⟨by simpa using hconditions, word, hword⟩

end VesselWatch
