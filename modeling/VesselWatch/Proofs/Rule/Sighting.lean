/-
  Proofs/Rule/Sighting.lean --- what a rule knows of the times of vessels.

  The tests of time of a rule share two tables, one for each kind of test, wherever in the
  rule they stand: also those in the filter of an aggregation, which is applied to old events
  again and again, of whatever vessel and in whatever order their times are.  Which tests are
  applied at all depends on the verdicts before them.  `applications` is the row of all
  conditions that are applied, filters included, in the order in which it happens.

  Along this row (`Leads`) a test adds what it sees to what is known, and what is known stays.
  So the time of a vessel is that of the first event of the vessel that a test of the kind was
  applied to (`Encounter.known_eq_firstSeen`), and no other vessel has a say in it.
-/
import VesselWatch.Proofs.Rule.Evaluate

set_option autoImplicit false

namespace VesselWatch

/-! ## The conditions that are applied -/

/-- A condition at the moment when it is applied. -/
structure Application where
  models : Models
  condition : Condition
  event : VesselEvent
  /-- the memory that it finds -/
  before : RuleState

/-- What comes of it. -/
def Application.outcome (a : Application) : Outcome ConditionError :=
  a.condition.evaluate a.models a.event a.before

/-- The applications of a filter to events in their order, `applications` being those that come
of one event. -/
def refilterApplications (filter : Filter)
    (applications : VesselEvent → RuleState → List Application) :
    List VesselEvent → RuleState → List Application
  | [], _ => []
  | past :: rest, s =>
    applications past s ++
      match (filter past s).verdict with
      | .error _ => []
      | .ok _ => refilterApplications filter applications rest (filter past s).state

/-- The applications of the filter of an aggregation: to the events of the window, then to the new
one. -/
def Window.applicationsFiltered (w : Window) (filter : Filter)
    (applications : VesselEvent → RuleState → List Application) (e : VesselEvent) (s : RuleState) :
    List Application :=
  refilterApplications filter applications (w.unexpired e.timestamp s.recent)
      { s with recent := [] } ++
    match (w.refiltered filter e s).kept with
    | .error _ => []
    | .ok _ => applications e (w.refiltered filter e s).state

/-- The application of a condition, and those of its filter. -/
def Condition.applications (models : Models) :
    Condition → VesselEvent → RuleState → List Application
  | .aggregation w (some f), e, s =>
    ⟨models, .aggregation w (some f), e, s⟩ ::
      w.applicationsFiltered (f.evaluate models) (f.applications models) e s
  | c, e, s => [⟨models, c, e, s⟩]

/-- The applications of conditions in their order until one gives the verdict `last` or fails. -/
def applicationsUntil (models : Models) (last : Bool) (e : VesselEvent) :
    List Condition → RuleState → List Application
  | [], _ => []
  | c :: rest, s =>
    c.applications models e s ++
      if (c.evaluate models e s).goesOn last then
        applicationsUntil models last e rest (c.evaluate models e s).state
      else []

/-- The applications of the conditions of a rule. -/
def Rule.applications (models : Models) (r : Rule) (e : VesselEvent) (s : RuleState) :
    List Application :=
  match r.combineLogic with
  | .all => applicationsUntil models false e r.conditions s
  | .any => applicationsUntil models true e r.conditions s
  | .unsupported _ => []

/-- An event that a rule is applied to, by the definition and the models of its time. -/
structure Encounter where
  models : Models
  rule : Rule
  event : VesselEvent

namespace Encounter

/-- The memory after some encounters. -/
def run (encounters : List Encounter) (s : RuleState) : RuleState :=
  encounters.foldl (fun s n => (n.rule.evaluate n.models n.event s).state) s

/-- The conditions that are applied in the course of some encounters. -/
def applications : List Encounter → RuleState → List Application
  | [], _ => []
  | n :: rest, s =>
    n.rule.applications n.models n.event s ++
      applications rest (n.rule.evaluate n.models n.event s).state

end Encounter

/-! ## What is known of the vessels -/

/-- Since when a vessel has been known to the tests of a kind. -/
def RuleState.known (s : RuleState) (op : TemporalOp) (vessel : String) : Option Instant :=
  match op with
  | .continuousFor => s.temporalStart.lookup vessel
  | .noEventFor => s.lastSeen.lookup vessel

namespace Application

/-- It is a test of this kind, applied to an event of this vessel. -/
def sees (op : TemporalOp) (vessel : String) (a : Application) : Bool :=
  match a.condition with
  | .temporal t => t.op == op && a.event.vesselId == vessel
  | _ => false

/-- What is known afterwards if `known` is known before. -/
def learn (a : Application) (known : TemporalOp → String → Option Instant) :
    TemporalOp → String → Option Instant :=
  fun op vessel =>
    (known op vessel).or (if a.sees op vessel then some a.event.timestamp else none)

end Application

/-- The time of the first event of a vessel that a test of a kind is applied to. -/
def firstSeen (op : TemporalOp) (vessel : String) (trace : List Application) : Option Instant :=
  (trace.find? (·.sees op vessel)).map (·.event.timestamp)

/-- A table that has a time for the vessel is left alone, one that has none gets it: either way a
time that was known stays. -/
theorem lookup_or_of_some {table : List (String × Instant)} {key : String} {old : Instant}
    (found : table.lookup key = some old) (other : String) (new : Instant) :
    table.lookup other = (table.lookup other).or (if key == other then some new else none) := by
  by_cases hkey : key = other
  · rw [← hkey, found, Option.some_or]
  · rw [beq_eq_false_iff_ne.mpr hkey]
    simp

theorem lookup_put_of_none {table : List (String × Instant)} {key : String}
    (absent : table.lookup key = none) (other : String) (new : Instant) :
    (Assoc.put key new table).lookup other =
      (table.lookup other).or (if key == other then some new else none) := by
  rw [Assoc.lookup_put, BEq.comm (a := other)]
  by_cases hkey : key = other
  · rw [← hkey, absent]
    simp
  · rw [beq_eq_false_iff_ne.mpr hkey]
    simp

/-- A test of time adds the vessel to what is known to tests of its kind, if it is not known. -/
theorem TemporalTest.known_evaluate (t : TemporalTest) (e : VesselEvent) (s : RuleState)
    (op : TemporalOp) (vessel : String) :
    (t.evaluate e s).2.known op vessel =
      (s.known op vessel).or
        (if t.op == op && e.vesselId == vessel then some e.timestamp else none) := by
  unfold TemporalTest.evaluate
  cases hop : t.op with
  | continuousFor =>
    cases op with
    | noEventFor => cases s.temporalStart.lookup e.vesselId <;> simp [RuleState.known]
    | continuousFor =>
      cases hfound : s.temporalStart.lookup e.vesselId with
      | some start => exact lookup_or_of_some hfound vessel e.timestamp
      | none => exact lookup_put_of_none hfound vessel e.timestamp
  | noEventFor =>
    cases op with
    | continuousFor => cases s.lastSeen.lookup e.vesselId <;> simp [RuleState.known]
    | noEventFor =>
      cases hfound : s.lastSeen.lookup e.vesselId with
      | some first => exact lookup_or_of_some hfound vessel e.timestamp
      | none => exact lookup_put_of_none hfound vessel e.timestamp

/-- A vessel is under continuous sight since it is known, and since now if it was not. -/
theorem TemporalTest.verdict_continuousFor {t : TemporalTest} (hop : t.op = .continuousFor)
    (e : VesselEvent) (s : RuleState) :
    (t.evaluate e s).1 = decide (span t.durationSeconds ≤
      e.timestamp.since ((s.known .continuousFor e.vesselId).getD e.timestamp)) := by
  unfold TemporalTest.evaluate RuleState.known
  rw [hop]
  cases s.temporalStart.lookup e.vesselId <;> rfl

/-- The first record of a vessel is no match. -/
theorem TemporalTest.verdict_noEventFor {t : TemporalTest} (hop : t.op = .noEventFor)
    (e : VesselEvent) (s : RuleState) :
    (t.evaluate e s).1 = (s.known .noEventFor e.vesselId).any fun first =>
      decide (span t.durationSeconds ≤ e.timestamp.since first) := by
  unfold TemporalTest.evaluate RuleState.known
  rw [hop]
  cases s.lastSeen.lookup e.vesselId <;> rfl

/-! ## Along the applications -/

/-- The applications lead from one state of knowledge to another: each finds what is known at its
time, and what it learns is known to the next. -/
inductive Leads : (TemporalOp → String → Option Instant) → List Application →
    (TemporalOp → String → Option Instant) → Prop
  | nil {known : TemporalOp → String → Option Instant} : Leads known [] known
  | cons {a : Application} {rest : List Application}
      {later : TemporalOp → String → Option Instant} :
      Leads (a.learn a.before.known) rest later → Leads a.before.known (a :: rest) later

section Leads

variable {known mid later : TemporalOp → String → Option Instant}
  {trace rest : List Application}

theorem Leads.append (left : Leads known trace mid) (right : Leads mid rest later) :
    Leads known (trace ++ rest) later := by
  induction left with
  | nil => exact right
  | cons _ ih => exact .cons (ih right)

theorem Leads.split (leads : Leads known (trace ++ rest) later) :
    ∃ mid, Leads known trace mid ∧ Leads mid rest later := by
  induction trace generalizing known with
  | nil => exact ⟨known, .nil, leads⟩
  | cons a trace ih =>
    rw [List.cons_append] at leads
    cases leads with
    | cons leads =>
      obtain ⟨mid, hleft, hright⟩ := ih leads
      exact ⟨mid, .cons hleft, hright⟩

/-- What is known in the end is what was known in the beginning, and else what was seen first. -/
theorem Leads.later_eq (leads : Leads known trace later) (op : TemporalOp) (vessel : String) :
    later op vessel = (known op vessel).or (firstSeen op vessel trace) := by
  induction leads with
  | nil => simp [firstSeen]
  | @cons a rest later _ ih =>
    rw [ih, Application.learn, Option.or_assoc]
    unfold firstSeen
    rw [List.find?_cons]
    cases a.sees op vessel with
    | true => simp
    | false => simp

/-- What an application finds is known from those before it. -/
theorem Leads.before_eq {a : Application} (leads : Leads known (trace ++ a :: rest) later)
    (op : TemporalOp) (vessel : String) :
    a.before.known op vessel = (known op vessel).or (firstSeen op vessel trace) := by
  obtain ⟨mid, hleft, hright⟩ := leads.split
  cases hright with
  | cons _ => exact hleft.later_eq op vessel

end Leads

/-- The applications of a filter lead from what is known before it to what is known after it. -/
def Traces (filter : Filter) (applications : VesselEvent → RuleState → List Application) : Prop :=
  ∀ e s, Leads s.known (applications e s) (filter e s).state.known

section Traces

variable {filter : Filter} {applications : VesselEvent → RuleState → List Application}

theorem Traces.refilter (traces : Traces filter applications) (past : List VesselEvent)
    (s : RuleState) :
    Leads s.known (refilterApplications filter applications past s)
      (refilter filter past s).state.known := by
  induction past generalizing s with
  | nil => exact .nil
  | cons e rest ih =>
    have here := traces e s
    unfold refilterApplications VesselWatch.refilter
    cases hverdict : (filter e s).verdict with
    | error err => simpa [hverdict] using here
    | ok passes => simpa [hverdict] using here.append (ih (filter e s).state)

/-- To take the window out of sight and to put it back is not to learn anything. -/
theorem Traces.evaluateFiltered (traces : Traces filter applications) (w : Window)
    (e : VesselEvent) (s : RuleState) :
    Leads s.known (w.applicationsFiltered filter applications e s)
      (w.evaluateFiltered filter e s).state.known := by
  have hold : Leads s.known
      (refilterApplications filter applications (w.unexpired e.timestamp s.recent)
        { s with recent := [] })
      (w.refiltered filter e s).state.known := traces.refilter _ { s with recent := [] }
  unfold Window.applicationsFiltered
  cases hkept : (w.refiltered filter e s).kept with
  | error err =>
    rw [Window.evaluateFiltered_of_refilter_error hkept, List.append_nil]
    exact hold
  | ok kept =>
    have hboth := hold.append (traces e (w.refiltered filter e s).state)
    cases hverdict : (filter e (w.refiltered filter e s).state).verdict with
    | error err =>
      rw [Window.evaluateFiltered_of_filter_error hkept hverdict]
      exact hboth
    | ok admitted =>
      rw [Window.evaluateFiltered_of_ok hkept hverdict]
      exact hboth

end Traces

/-- An application that is no test of time learns nothing by itself. -/
theorem Application.learn_of_not_temporal {a : Application}
    (other : ∀ t, a.condition ≠ .temporal t) (known : TemporalOp → String → Option Instant) :
    a.learn known = known := by
  funext op vessel
  unfold learn sees
  split
  · next t ht => exact absurd ht (other t)
  · simp

/-- A condition without a filter that is no test of time leads nowhere. -/
theorem Condition.leads_of_plain (models : Models) (c : Condition) (other : ∀ t, c ≠ .temporal t)
    (e : VesselEvent) (s : RuleState) : Leads s.known [⟨models, c, e, s⟩] s.known := by
  have hlearn := Application.learn_of_not_temporal (a := ⟨models, c, e, s⟩) other s.known
  refine .cons (a := ⟨models, c, e, s⟩) ?_
  rw [hlearn]
  exact .nil

theorem Condition.traces (models : Models) :
    ∀ c : Condition, Traces (c.evaluate models) (c.applications models)
  | .value t => Condition.leads_of_plain models (.value t) nofun
  | .spatial t => Condition.leads_of_plain models (.spatial t) nofun
  | .temporal t => fun e s => by
    have hlearn : (⟨models, .temporal t, e, s⟩ : Application).learn s.known =
        (t.evaluate e s).2.known := by
      funext op vessel
      exact (t.known_evaluate e s op vessel).symm
    refine .cons (a := ⟨models, .temporal t, e, s⟩) ?_
    rw [hlearn]
    exact .nil
  | .aggregation w none => Condition.leads_of_plain models (.aggregation w none) nofun
  | .aggregation w (some f) => fun e s => by
    have hfilter := (Condition.traces models f).evaluateFiltered w e s
    have hlearn := Application.learn_of_not_temporal
      (a := ⟨models, .aggregation w (some f), e, s⟩) nofun s.known
    refine .cons (a := ⟨models, .aggregation w (some f), e, s⟩) ?_
    rw [hlearn]
    exact hfilter
  | .positionAnomaly folder => Condition.leads_of_plain models (.positionAnomaly folder) nofun

theorem evaluateUntil_leads (models : Models) (last : Bool) (e : VesselEvent)
    (cs : List Condition) (s : RuleState) :
    Leads s.known (applicationsUntil models last e cs s)
      (evaluateUntil models last e cs s).state.known := by
  induction cs generalizing s with
  | nil => exact .nil
  | cons c rest ih =>
    have here := c.traces models e s
    unfold applicationsUntil
    rw [state_evaluateUntil_cons]
    split
    · exact here.append (ih _)
    · simpa using here

theorem Rule.evaluate_leads (models : Models) (r : Rule) (e : VesselEvent) (s : RuleState) :
    Leads s.known (r.applications models e s) (r.evaluate models e s).state.known := by
  rw [Rule.state_evaluate]
  unfold Rule.applications
  cases r.combineLogic with
  | all => exact evaluateUntil_leads models false e r.conditions s
  | any => exact evaluateUntil_leads models true e r.conditions s
  | unsupported word => exact .nil

namespace Encounter

theorem leads (encounters : List Encounter) (s : RuleState) :
    Leads s.known (applications encounters s) (run encounters s).known := by
  induction encounters generalizing s with
  | nil => exact .nil
  | cons n rest ih => exact (n.rule.evaluate_leads n.models n.event s).append (ih _)

/-- What is known after some encounters is what was seen first. -/
theorem known_eq_firstSeen (encounters : List Encounter) (id : String) (op : TemporalOp)
    (vessel : String) :
    (run encounters (RuleState.fresh id)).known op vessel =
      firstSeen op vessel (applications encounters (RuleState.fresh id)) := by
  rw [(leads encounters (RuleState.fresh id)).later_eq]
  cases op <;> rfl

theorem known_run_of_some {s : RuleState} {op : TemporalOp} {vessel : String} {time : Instant}
    (known : s.known op vessel = some time) (encounters : List Encounter) :
    (run encounters s).known op vessel = some time := by
  rw [(leads encounters s).later_eq, known, Option.some_or]

end Encounter

/-! ## What the tests say -/

theorem firstSeen_append_single (op : TemporalOp) (vessel : String) (trace : List Application)
    (a : Application) :
    firstSeen op vessel (trace ++ [a]) = (firstSeen op vessel trace).or
      (if a.sees op vessel then some a.event.timestamp else none) := by
  unfold firstSeen
  rw [List.find?_append]
  cases trace.find? (·.sees op vessel) with
  | some b => rfl
  | none => cases hsees : a.sees op vessel <;> simp [hsees]

/-- Of the applications before, only the tests of one kind on events of one vessel count. -/
theorem firstSeen_eq_head? (op : TemporalOp) (vessel : String) (trace : List Application) :
    firstSeen op vessel trace =
      ((trace.filter (·.sees op vessel)).map (·.event)).head?.map (·.timestamp) := by
  unfold firstSeen
  rw [List.head?_map, List.head?_filter, Option.map_map]
  rfl

namespace Application

variable {a a' : Application} {t : TemporalTest}

theorem outcome_temporal (test : a.condition = .temporal t) :
    a.outcome.verdict = .ok (t.evaluate a.event a.before).1 ∧
      a.outcome.state = (t.evaluate a.event a.before).2 := by
  unfold outcome
  rw [test]
  exact ⟨rfl, rfl⟩

theorem sees_temporal (test : a.condition = .temporal t) :
    a.sees t.op a.event.vesselId = true := by
  unfold sees
  rw [test]
  simp

/-- The verdict of a test of time depends on nothing but the event and what is known of its vessel
to the tests of the kind. -/
theorem verdict_congr (test : a.condition = .temporal t) (condition : a'.condition = a.condition)
    (event : a'.event = a.event)
    (known : a'.before.known t.op a.event.vesselId = a.before.known t.op a.event.vesselId) :
    a'.outcome.verdict = a.outcome.verdict := by
  rw [(outcome_temporal test).1, (outcome_temporal (condition.trans test)).1, event]
  cases hop : t.op with
  | continuousFor =>
    rw [hop] at known
    rw [t.verdict_continuousFor hop, t.verdict_continuousFor hop, known]
  | noEventFor =>
    rw [hop] at known
    rw [t.verdict_noEventFor hop, t.verdict_noEventFor hop, known]

end Application

namespace Encounter

/-- What an application in the course of some encounters finds is what the applications before it
have seen first. -/
theorem known_before {encounters : List Encounter} {id : String} {before after : List Application}
    {a : Application}
    (split : applications encounters (RuleState.fresh id) = before ++ a :: after)
    (op : TemporalOp) (vessel : String) :
    a.before.known op vessel = firstSeen op vessel before := by
  have hleads := leads encounters (RuleState.fresh id)
  rw [split] at hleads
  rw [hleads.before_eq op vessel]
  cases op <;> rfl

/-- The two times of a vessel are those of the first event of the vessel that a test of the kind
was applied to, wherever it stands in the rule, and they never change, whatever the definition of
the rule becomes and however an application ends.  A test of continuous sight measures from there,
the event itself counted; a test of a first record says no to the first event and measures from it
afterwards.  What was applied to events of other vessels makes no difference. -/
theorem times_of_first_sight (encounters : List Encounter) (id : String) :
    let trace := applications encounters (RuleState.fresh id)
    let s := run encounters (RuleState.fresh id)
    (∀ vessel, s.temporalStart.lookup vessel = firstSeen .continuousFor vessel trace ∧
      s.lastSeen.lookup vessel = firstSeen .noEventFor vessel trace) ∧
    (∀ later op vessel time, s.known op vessel = some time →
      (run (encounters ++ later) (RuleState.fresh id)).known op vessel = some time) ∧
    ∀ before a after t, trace = before ++ a :: after → a.condition = .temporal t →
      let vessel := a.event.vesselId
      (t.op = .continuousFor → ∃ start,
        firstSeen .continuousFor vessel (before ++ [a]) = some start ∧
        a.outcome.state.temporalStart.lookup vessel = some start ∧
        a.outcome.verdict =
          .ok (decide (span t.durationSeconds ≤ a.event.timestamp.since start))) ∧
      (t.op = .noEventFor →
        a.before.lastSeen.lookup vessel = firstSeen .noEventFor vessel before ∧
        a.outcome.verdict = .ok (match firstSeen .noEventFor vessel before with
          | none => false
          | some first => decide (span t.durationSeconds ≤ a.event.timestamp.since first))) ∧
      ∀ encounters' id' before' a' after',
        applications encounters' (RuleState.fresh id') = before' ++ a' :: after' →
        a'.condition = a.condition → a'.event = a.event →
        (before'.filter (·.sees t.op vessel)).map (·.event) =
          (before.filter (·.sees t.op vessel)).map (·.event) →
        a'.outcome.verdict = a.outcome.verdict := by
  intro trace s
  refine ⟨fun vessel => ⟨?_, ?_⟩, ?_, ?_⟩
  · exact known_eq_firstSeen encounters id .continuousFor vessel
  · exact known_eq_firstSeen encounters id .noEventFor vessel
  · intro later op vessel time known
    have hrun : run (encounters ++ later) (RuleState.fresh id) = run later s :=
      List.foldl_append
    rw [hrun]
    exact known_run_of_some known later
  · intro before a after t split test vessel
    have hknown : ∀ op, a.before.known op vessel = firstSeen op vessel before := fun op =>
      known_before split op vessel
    obtain ⟨hverdict, hstate⟩ := a.outcome_temporal test
    refine ⟨?_, ?_, ?_⟩
    · intro hop
      have hsees : a.sees .continuousFor vessel = true := hop ▸ Application.sees_temporal test
      refine ⟨(firstSeen .continuousFor vessel before).getD a.event.timestamp, ?_, ?_, ?_⟩
      · rw [firstSeen_append_single, if_pos hsees]
        cases firstSeen .continuousFor vessel before <;> rfl
      · have hlater := t.known_evaluate a.event a.before .continuousFor vessel
        rw [← hstate, hknown, hop, beq_self_eq_true, beq_self_eq_true, Bool.and_true,
          if_pos rfl] at hlater
        change a.outcome.state.known .continuousFor vessel = _
        rw [hlater]
        cases firstSeen .continuousFor vessel before <;> rfl
      · rw [hverdict, t.verdict_continuousFor hop, hknown]
    · intro hop
      refine ⟨hknown .noEventFor, ?_⟩
      rw [hverdict, t.verdict_noEventFor hop, hknown]
      cases firstSeen .noEventFor vessel before <;> rfl
    · intro encounters' id' before' a' after' split' condition event same
      refine Application.verdict_congr test condition event ?_
      rw [known_before split', hknown, firstSeen_eq_head?, firstSeen_eq_head?, same]

/-- A later event of an earlier time, which a test in a filter is applied to before the rule fails,
leaves the time of the vessel as it is. -/
theorem times_of_first_sight_earlier :
    let event (vessel : String) (second : Nat) : VesselEvent :=
      { (default : VesselEvent) with vesselId := vessel, timestamp := ⟨0, second, 0⟩ }
    let rule (conditions : List Condition) : Rule :=
      ⟨"r", "", 0, true, false, .all, conditions, ⟨"", "", []⟩⟩
    let seen : Condition :=
      .aggregation ⟨.countInWindow, 3600, 1⟩ (some (.temporal ⟨.continuousFor, 0⟩))
    let circle : Condition := .spatial ⟨.inCircle, [], none, 0, 0, none⟩
    let encounters : List Encounter :=
      [⟨fun _ => none, rule [seen], event "v" 100⟩, ⟨fun _ => none, rule [seen], event "w" 30⟩,
        ⟨fun _ => none, rule [seen, circle], event "v" 50⟩]
    (run encounters (RuleState.fresh "r")).temporalStart.lookup "v" = some ⟨0, 100, 0⟩ ∧
      (run encounters (RuleState.fresh "r")).temporalStart.lookup "w" = some ⟨0, 30, 0⟩ ∧
      (run encounters (RuleState.fresh "r")).lastSeen.lookup "v" = none := by
  intro event rule seen circle encounters
  obtain ⟨htimes, -, -⟩ := times_of_first_sight encounters "r"
  refine ⟨(htimes "v").1.trans ?_, (htimes "w").1.trans ?_, (htimes "v").2.trans ?_⟩
  · decide +kernel
  · decide +kernel
  · decide +kernel

end Encounter

end VesselWatch
