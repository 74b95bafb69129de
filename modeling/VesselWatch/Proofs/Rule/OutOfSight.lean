/-
  Proofs/Rule/OutOfSight.lean --- the window while a filter is at work.

  An aggregation takes its window out of sight before it applies its filter.  A filter that is
  itself an aggregation finds an empty window there and fills it with the events that it is
  applied to, one after the other; so for a while the memory holds a window that is nobody's.
  What comes back to the aggregation is one answer for each event (`answers`), and these alone
  decide which events its window keeps and what it says of them
  (`Condition.window_out_of_sight`).
-/
import VesselWatch.Proofs.Rule.Fault
import VesselWatch.Proofs.Rule.Window

set_option autoImplicit false

namespace VesselWatch

/-! ## Answers -/

/-- What a filter says of events that it is applied to in their order, unless it fails on one. -/
def answers (filter : Filter) : List VesselEvent → RuleState → Except ConditionError (List Bool)
  | [], _ => .ok []
  | e :: rest, s =>
    match (filter e s).verdict with
    | .error err => .error err
    | .ok passes => (answers filter rest (filter e s).state).map (passes :: ·)

/-- The events that were answered with yes. -/
def accepted (es : List VesselEvent) (said : List Bool) : List VesselEvent :=
  ((es.zip said).filter (·.2)).map (·.1)

/-- The events that may be in the window afterwards: those that are not too old, and the new
one. -/
def Window.candidates (w : Window) (e : VesselEvent) (s : RuleState) : List VesselEvent :=
  w.unexpired e.timestamp s.recent ++ [e]

section Answers

variable {filter : Filter} {past : List VesselEvent} {s : RuleState} {e : VesselEvent}
  {said : List Bool}

theorem accepted_cons (e : VesselEvent) (rest : List VesselEvent) (passes : Bool)
    (said : List Bool) :
    accepted (e :: rest) (passes :: said) =
      if passes then e :: accepted rest said else accepted rest said := by
  cases passes <;> rfl

theorem length_of_answers (hsaid : answers filter past s = .ok said) :
    past.length = said.length := by
  induction past generalizing s said with
  | nil =>
    cases hsaid
    rfl
  | cons e rest ih =>
    unfold answers at hsaid
    cases hverdict : (filter e s).verdict with
    | error err => simp [hverdict] at hsaid
    | ok passes =>
      cases hrest : answers filter rest (filter e s).state with
      | error err => simp [hverdict, hrest, Except.map] at hsaid
      | ok later =>
        simp only [hverdict, hrest, Except.map, Except.ok.injEq] at hsaid
        rw [← hsaid, List.length_cons, List.length_cons, ih hrest]

/-- What is kept of the events is decided by the answers. -/
theorem refilter_kept_eq (filter : Filter) (past : List VesselEvent) (s : RuleState) :
    (refilter filter past s).kept = (answers filter past s).map (accepted past) := by
  induction past generalizing s with
  | nil => rfl
  | cons e rest ih =>
    unfold refilter answers
    cases hverdict : (filter e s).verdict with
    | error err => simp only [hverdict, Except.map]
    | ok passes =>
      simp only [hverdict, ih]
      cases answers filter rest (filter e s).state with
      | error err => rfl
      | ok later => simp only [Except.map, accepted_cons]

/-- The last answer is about the event at the end, given what the filter has made of the others. -/
theorem answers_append_single (filter : Filter) (past : List VesselEvent) (e : VesselEvent)
    (s : RuleState) :
    answers filter (past ++ [e]) s =
      (answers filter past s).bind fun said =>
        (filter e (refilter filter past s).state).verdict.map fun passes => said ++ [passes] := by
  induction past generalizing s with
  | nil =>
    rw [List.nil_append, answers]
    cases hverdict : (filter e s).verdict <;>
      simp [answers, refilter, hverdict, Except.bind, Except.map]
  | cons first rest ih =>
    rw [List.cons_append, answers, answers, refilter]
    cases hfirst : (filter first s).verdict with
    | error err => rfl
    | ok passes =>
      simp only [ih]
      cases answers filter rest (filter first s).state with
      | error err => rfl
      | ok said =>
        cases (filter e (refilter filter rest (filter first s).state).state).verdict <;> rfl

end Answers

/-! ## The window that comes back -/

namespace Window

variable {w : Window} {filter : Filter} {e : VesselEvent} {s : RuleState}

/-- An aggregation judges the events that its filter has accepted, and they are what it leaves of
its window. -/
theorem evaluateFiltered_by_answers (w : Window) (filter : Filter) (e : VesselEvent)
    (s : RuleState) :
    let said := answers filter (w.candidates e s) { s with recent := [] }
    (w.evaluateFiltered filter e s).verdict =
        said.map (fun passes => w.verdict (accepted (w.candidates e s) passes)) ∧
      ∀ passes, said = .ok passes →
        (w.evaluateFiltered filter e s).state.recent = accepted (w.candidates e s) passes := by
  intro said
  have hsaid : said =
      (answers filter (w.unexpired e.timestamp s.recent) { s with recent := [] }).bind fun held =>
        (filter e (w.refiltered filter e s).state).verdict.map fun passes => held ++ [passes] :=
    answers_append_single ..
  have hkept : (w.refiltered filter e s).kept =
      (answers filter (w.unexpired e.timestamp s.recent) { s with recent := [] }).map
        (accepted (w.unexpired e.timestamp s.recent)) :=
    refilter_kept_eq ..
  cases hheld : answers filter (w.unexpired e.timestamp s.recent) { s with recent := [] } with
  | error err =>
    rw [hheld] at hsaid hkept
    rw [evaluateFiltered_of_refilter_error hkept, hsaid]
    exact ⟨rfl, nofun⟩
  | ok held =>
    rw [hheld] at hsaid hkept
    cases hnew : (filter e (w.refiltered filter e s).state).verdict with
    | error err =>
      rw [hnew] at hsaid
      rw [evaluateFiltered_of_filter_error hkept hnew, hsaid]
      exact ⟨rfl, nofun⟩
    | ok admitted =>
      rw [hnew] at hsaid
      have hwindow : accepted (w.candidates e s) (held ++ [admitted]) =
          if admitted then accepted (w.unexpired e.timestamp s.recent) held ++ [e]
          else accepted (w.unexpired e.timestamp s.recent) held := by
        unfold candidates accepted
        rw [List.zip_append (length_of_answers hheld)]
        cases admitted <;> simp
      rw [evaluateFiltered_of_ok hkept hnew, hsaid, ← hwindow]
      refine ⟨rfl, ?_⟩
      rintro _ ⟨⟩
      rfl

end Window

/-- An aggregation that fails has pruned its window, however far its filter had got. -/
theorem Condition.recent_of_error {models : Models} {w : Window} {filter : Option Condition}
    {e : VesselEvent} {s : RuleState} {err : ConditionError}
    (fails : ((Condition.aggregation w filter).evaluate models e s).verdict = .error err) :
    ((Condition.aggregation w filter).evaluate models e s).state.recent =
      w.unexpired e.timestamp s.recent := by
  have lacks := ((Condition.aggregation w filter).verdict_eq_error_iff models e s err).mp fails
  rw [lacks.evaluate models e s]
  rfl

/-- Whether a condition comes to a verdict or fails, and however deep its filters are, the window
afterwards holds some of the events that it held, in their order, and behind them at most the new
one; a condition that is no aggregation leaves it as it was.  To an aggregation nothing comes back
from its filter but the answers: the verdict is about those of the events that are not too old, and
of the new one, that were answered with yes, and these are its window; where the filter fails its
window is the one that was put out of sight. -/
theorem Condition.window_out_of_sight (models : Models) (c : Condition) (e : VesselEvent)
    (s : RuleState) :
    let o := c.evaluate models e s
    o.state.recent.Sublist (s.recent ++ [e]) ∧
    (c.isAggregation = false → o.state.recent = s.recent) ∧
    ∀ w f, c = .aggregation w (some f) →
      let said := answers (f.evaluate models) (w.candidates e s) { s with recent := [] }
      o.verdict = said.map (fun passes => w.verdict (accepted (w.candidates e s) passes)) ∧
      o.state.recent =
        match said with
        | .ok passes => accepted (w.candidates e s) passes
        | .error _ => w.unexpired e.timestamp s.recent := by
  intro o
  refine ⟨c.recent_sublist models e s, Condition.recent_of_plain, ?_⟩
  rintro w f rfl said
  obtain ⟨hverdict, hrecent⟩ := w.evaluateFiltered_by_answers (f.evaluate models) e s
  refine ⟨hverdict, ?_⟩
  cases hsaid : said with
  | ok passes => exact hrecent passes hsaid
  | error err =>
    have fails : ((Condition.aggregation w (some f)).evaluate models e s).verdict = .error err := by
      refine hverdict.trans ?_
      simp only [said] at hsaid
      rw [hsaid]
      rfl
    exact Condition.recent_of_error fails

/-- Three windows inside one another: that of the filter has all three events in it in the end, that
of the aggregation the two at which the filter said yes.  A test of time leaves the window alone. -/
theorem Condition.window_out_of_sight_nested :
    let event (id : String) (second : Nat) : VesselEvent :=
      { (default : VesselEvent) with id := id, timestamp := ⟨0, second, 0⟩ }
    let anyone : Condition := .aggregation ⟨.countInWindow, 60, 1⟩ none
    let crowd : Condition := .aggregation ⟨.countInWindow, 60, 2⟩ (some anyone)
    let crowds : Condition := .aggregation ⟨.countInWindow, 60, 2⟩ (some crowd)
    let overdue : Condition := .temporal ⟨.noEventFor, 60⟩
    let models : Models := fun _ => none
    let s : RuleState := { RuleState.fresh "r" with recent := [event "a" 0, event "b" 10] }
    let working := (refilter (crowd.evaluate models) (s.recent ++ [event "c" 20])
      { s with recent := [] }).state.recent
    working.map (·.id) = ["a", "b", "c"] ∧
      (crowds.evaluate models (event "c" 20) s).state.recent = [event "b" 10, event "c" 20] ∧
      (crowds.evaluate models (event "c" 20) s).verdict = .ok true ∧
      overdue.isAggregation = false ∧
      (overdue.evaluate models (event "c" 20) s).state.recent = s.recent := by
  intro event anyone crowd crowds overdue models s working
  obtain ⟨-, -, hwindow⟩ := crowds.window_out_of_sight models (event "c" 20) s
  obtain ⟨-, hplain, -⟩ := overdue.window_out_of_sight models (event "c" 20) s
  obtain ⟨hverdict, hrecent⟩ := hwindow _ crowd rfl
  have hyoung : Window.unexpired ⟨.countInWindow, 60, 2⟩ (event "c" 20).timestamp s.recent =
      s.recent :=
    List.filter_eq_self.mpr (by decide +kernel)
  have hcandidates : Window.candidates ⟨.countInWindow, 60, 2⟩ (event "c" 20) s =
      [event "a" 0, event "b" 10, event "c" 20] := by
    rw [Window.candidates, hyoung]
    rfl
  have hsaid : answers (crowd.evaluate models) [event "a" 0, event "b" 10, event "c" 20]
      { s with recent := [] } = .ok [false, true, true] := by
    decide +kernel
  rw [hcandidates, hsaid] at hverdict hrecent
  refine ⟨by decide +kernel, hrecent, ?_, rfl, hplain rfl⟩
  rw [hverdict]
  decide +kernel

end VesselWatch
