/-
  Proofs/Dispatch/Loop.lean --- a processor whose loop runs while it gets requests.

  THE LOOP IN SMALL STEPS.  Taking an event from the queue, evaluating it, dispatching one of its
  alerts and ending are steps of their own (`Scene.Step`), and requests may come between any two of
  them.  A turn of the loop is a row of such steps (`Scene.Run.turn`), in which no request comes.

  THE LEDGER.  What is in the scene follows from the moves that have been made (`Ledger`): the
  events that were accepted are those that were evaluated, the one that is being evaluated and
  those in the queue, in this order; the alerts that the evaluations gave are those that were
  dispatched and those that are still to be.  Every step keeps it (`Ledger.step`), so it holds after
  every run (`Scene.Run.ledger`).
-/
import VesselWatch.Dispatch.Processor
import VesselWatch.Proofs.Dispatch.Dispatcher
import VesselWatch.Proofs.Engine.Session

set_option autoImplicit false

namespace VesselWatch

/-! ## Evaluations -/

namespace Detector

/-- What an event may come to: the detector afterwards, and the alerts that are left. -/
def Evaluates (source : Path → Option Track.Model) (seals : String → Seal) (e : VesselEvent)
    (d d' : Detector) (alerts : List Alert) : Prop :=
  ∃ pushed, Step source d (.evaluate seals e) d' [pushed] ∧
    alerts = resolveExclusive d.engine.rules pushed

/-- Events that are evaluated one after another, each with the alerts that are left of it. -/
inductive EvaluatesAll (source : Path → Option Track.Model) (supply : SealSupply) (d : Detector) :
    List (VesselEvent × List Alert) → Detector → Prop
  | nil : EvaluatesAll source supply d [] d
  | snoc {done : List (VesselEvent × List Alert)} {d' d'' : Detector} {e : VesselEvent}
      {alerts : List Alert} : EvaluatesAll source supply d done d' →
      Evaluates source (supply done.length) e d' d'' alerts →
      EvaluatesAll source supply d (done ++ [(e, alerts)]) d''

variable {source : Path → Option Track.Model} {d : Detector}

/-- The detector evaluates an event in one of the ways. -/
theorem evaluates_evaluate (wf : d.engine.WellFormed) (seals : String → Seal) (e : VesselEvent) :
    Evaluates source seals e d (d.evaluate source seals e).1 (d.evaluate source seals e).2 :=
  step_evaluate wf seals e

end Detector

/-! ## Scenes -/

/-- What can be asked of a processor. -/
inductive Processor.Request where
  | enqueue (e : VesselEvent)
  | start
  | close
  | cancel

/-- What the processor makes of a request. -/
def Processor.Request.apply : Request → Processor → Except ProcessorError Processor
  | .enqueue e, p => p.enqueue e
  | .start, p => p.start
  | .close, p => .ok p.close
  | .cancel, p => .ok p.cancel

/-- A processor and where its loop is: it evaluates the event that it took, it dispatches the
alerts that are left of one, or it does neither. -/
structure Scene where
  processor : Processor
  detector : Detector
  /-- the event that is being evaluated -/
  taken : Option VesselEvent
  /-- the alerts that are still to be dispatched -/
  alerts : List Alert

/-- One thing that happens. -/
inductive Scene.Move where
  /-- a request comes, and is refused or granted -/
  | request (q : Processor.Request) (error : Option ProcessorError)
  /-- the loop takes the first event of the queue -/
  | take
  /-- the loop has evaluated the event -/
  | evaluate (e : VesselEvent) (alerts : List Alert)
  /-- the loop dispatches an alert -/
  | hand (a : Alert)
  /-- the loop ends -/
  | finish

namespace Scene

/-- A processor that is new, in front of a detector. -/
def opening (dispatcher : Dispatcher) (sinks : Sinks) (d : Detector) : Scene :=
  ⟨Processor.fresh dispatcher sinks, d, none, []⟩

/-- The loop is running and waits for what to do next. -/
structure Waits (s : Scene) : Prop where
  running : s.processor.running = true
  taken : s.taken = none
  alerts : s.alerts = []

/-- The processor without the first event of its queue, which counts as evaluated. -/
def takeFrom (p : Processor) (rest : List VesselEvent) : Processor :=
  { p with queue := rest, stats := { p.stats with events := p.stats.events + 1 } }

/-- What can happen next. -/
inductive Step (source : Path → Option Track.Model) (supply : SealSupply) :
    Scene → Move → Scene → Prop
  | granted {s : Scene} {q : Processor.Request} {p : Processor} (ok : q.apply s.processor = .ok p) :
      Step source supply s (.request q none) { s with processor := p }
  | refused {s : Scene} {q : Processor.Request} {error : ProcessorError}
      (no : q.apply s.processor = .error error) :
      Step source supply s (.request q (some error)) s
  | take {s : Scene} {e : VesselEvent} {rest : List VesselEvent} (waits : s.Waits)
      (going : s.processor.cancelled = false) (queue : s.processor.queue = e :: rest) :
      Step source supply s .take { s with processor := takeFrom s.processor rest, taken := some e }
  | evaluate {s : Scene} {e : VesselEvent} {d : Detector} {alerts : List Alert}
      (taken : s.taken = some e) (evaluates :
        s.detector.Evaluates source (supply (s.processor.stats.events - 1)) e d alerts) :
      Step source supply s (.evaluate e alerts)
        { s with detector := d, taken := none, alerts := alerts }
  | hand {s : Scene} {a : Alert} {rest : List Alert} (alerts : s.alerts = a :: rest) :
      Step source supply s (.hand a) { s with processor := s.processor.hand a, alerts := rest }
  | finish {s : Scene} (waits : s.Waits)
      (spent : s.processor.cancelled = true ∨ s.processor.closed = true ∧ s.processor.queue = []) :
      Step source supply s .finish { s with processor := { s.processor with ended := true } }

/-- What can happen one after another. -/
inductive Run (source : Path → Option Track.Model) (supply : SealSupply) (s : Scene) :
    List Move → Scene → Prop
  | nil : Run source supply s [] s
  | snoc {moves : List Move} {m : Move} {s' s'' : Scene} : Run source supply s moves s' →
      Step source supply s' m s'' → Run source supply s (moves ++ [m]) s''

variable {source : Path → Option Track.Model} {supply : SealSupply}

theorem Run.append {s s' s'' : Scene} {moves later : List Move}
    (run : Run source supply s moves s') (run' : Run source supply s' later s'') :
    Run source supply s (moves ++ later) s'' := by
  induction run' with
  | nil => simpa using run
  | snoc _ step ih =>
    rw [← List.append_assoc]
    exact .snoc ih step

/-- A run can be cut in two anywhere. -/
theorem Run.split {s s'' : Scene} {moves later : List Move}
    (run : Run source supply s (moves ++ later) s'') :
    ∃ s', Run source supply s moves s' ∧ Run source supply s' later s'' := by
  induction later using List.reverseRecOn generalizing s'' with
  | nil =>
    rw [List.append_nil] at run
    exact ⟨s'', run, .nil⟩
  | append_singleton later m ih =>
    rw [← List.append_assoc] at run
    generalize hall : moves ++ later ++ [m] = all at run
    cases run with
    | nil => simp at hall
    | snoc run step =>
      obtain ⟨rfl, hm⟩ := List.append_inj' hall rfl
      cases hm
      obtain ⟨s', before, behind⟩ := ih run
      exact ⟨s', before, .snoc behind step⟩

/-! ## The loop of the program -/

theorem Run.hands (s : Scene) (alerts : List Alert) :
    Run source supply { s with alerts := alerts } (alerts.map .hand)
      { s with processor := alerts.foldl Processor.hand s.processor, alerts := [] } := by
  induction alerts generalizing s with
  | nil => exact .nil
  | cons a rest ih =>
    have first : Run source supply { s with alerts := a :: rest } [.hand a]
        { s with processor := s.processor.hand a, alerts := rest } :=
      .snoc .nil (.hand rfl)
    exact first.append (ih { s with processor := s.processor.hand a })

theorem Run.rest {d : Detector} {p : Processor} (waits : Waits ⟨p, d, none, []⟩)
    (empty : p.queue = []) :
    ∃ moves, Run source supply ⟨p, d, none, []⟩ moves
        ⟨{ p with ended := p.closed }, d, none, []⟩ ∧
      ∀ q error, Move.request q error ∉ moves := by
  obtain ⟨queue, closed, started, cancelled, ended, dispatcher, sinks, stats⟩ := p
  have hended : ended = false := by
    have hrunning := waits.running
    unfold Processor.running at hrunning
    simpa using (Bool.and_eq_true_iff.mp hrunning).2
  cases closed with
  | true => exact ⟨[.finish], .snoc .nil (.finish waits (.inr ⟨rfl, empty⟩)), by simp⟩
  | false =>
    subst hended
    exact ⟨[], .nil, by simp⟩

theorem Run.process {d : Detector} (wf : d.engine.WellFormed) {p : Processor}
    (waits : Waits ⟨p, d, none, []⟩) (going : p.cancelled = false) {e : VesselEvent}
    {rest : List VesselEvent} (queue : p.queue = e :: rest) :
    let done := { p with queue := rest }.process source supply e d
    ∃ moves, Run source supply ⟨p, d, none, []⟩ moves ⟨done.1, done.2, none, []⟩ ∧
      ∀ q error, Move.request q error ∉ moves := by
  have taken : Run source supply ⟨p, d, none, []⟩ [.take] ⟨takeFrom p rest, d, some e, []⟩ :=
    .snoc .nil (.take waits going queue)
  have evaluates : d.Evaluates source (supply p.stats.events) e
      (d.evaluate source (supply p.stats.events) e).1
      (d.evaluate source (supply p.stats.events) e).2 :=
    Detector.evaluates_evaluate wf _ e
  have evaluated := taken.snoc (.evaluate rfl evaluates)
  have handed := evaluated.append (hands ⟨takeFrom p rest, _, none, []⟩ _)
  exact ⟨_, handed, by simp⟩

/-- A turn of the loop is a row of steps in which no request comes. -/
theorem Run.turn {d : Detector} (wf : d.engine.WellFormed) (p : Processor) :
    ∃ moves, Run source supply ⟨p, d, none, []⟩ moves
        ⟨(p.turn source supply d).1, (p.turn source supply d).2, none, []⟩ ∧
      ∀ q error, Move.request q error ∉ moves := by
  unfold Processor.turn
  split
  · exact ⟨[], .nil, by simp⟩
  · next running =>
    have waits : Waits ⟨p, d, none, []⟩ := ⟨by simpa using running, rfl, rfl⟩
    split
    · next cancelled => exact ⟨[.finish], .snoc .nil (.finish waits (.inl cancelled)), by simp⟩
    · next going =>
      rw [Bool.not_eq_true] at going
      split
      · next empty => exact Run.rest waits empty
      · next queue => exact Run.process wf waits going queue

/-! ## What has been done -/

/-- The event that a move puts into the queue. -/
def Move.accepted? : Move → Option VesselEvent
  | .request (.enqueue e) none => some e
  | _ => none

/-- The event that a move evaluates, and the alerts that are left of it. -/
def Move.evaluated? : Move → Option (VesselEvent × List Alert)
  | .evaluate e alerts => some (e, alerts)
  | _ => none

/-- The alert that a move dispatches. -/
def Move.handed? : Move → Option Alert
  | .hand a => some a
  | _ => none

/-- The events that were put into the queue. -/
def accepted (moves : List Move) : List VesselEvent := moves.filterMap Move.accepted?

/-- The events that were evaluated, each with the alerts that are left of it. -/
def evaluated (moves : List Move) : List (VesselEvent × List Alert) :=
  moves.filterMap Move.evaluated?

/-- The alerts that were dispatched. -/
def handed (moves : List Move) : List Alert := moves.filterMap Move.handed?

/-- The alerts that are left of the events that were evaluated. -/
def raised (moves : List Move) : List Alert := (evaluated moves).flatMap (·.2)

section Append

variable (moves later : List Move)

theorem accepted_append : accepted (moves ++ later) = accepted moves ++ accepted later :=
  List.filterMap_append

theorem evaluated_append : evaluated (moves ++ later) = evaluated moves ++ evaluated later :=
  List.filterMap_append

theorem handed_append : handed (moves ++ later) = handed moves ++ handed later :=
  List.filterMap_append

variable {m : Move}

theorem accepted_snoc (none : m.accepted? = none) : accepted (moves ++ [m]) = accepted moves := by
  simp [accepted, none]

theorem evaluated_snoc (none : m.evaluated? = none) :
    evaluated (moves ++ [m]) = evaluated moves := by
  simp [evaluated, none]

theorem handed_snoc (none : m.handed? = none) : handed (moves ++ [m]) = handed moves := by
  simp [handed, none]

theorem raised_append : raised (moves ++ later) = raised moves ++ raised later := by
  unfold raised
  rw [evaluated_append, List.flatMap_append]

end Append

/-! ## The ledger -/

/-- The switches of a processor are what was asked for and what its loop did. -/
structure Switches (moves : List Move) (p : Processor) : Prop where
  started : p.started = true ↔ .request .start none ∈ moves
  closed : p.closed = true ↔ .request .close none ∈ moves
  cancelled : p.cancelled = true ↔ .request .cancel none ∈ moves
  ended : p.ended = true ↔ .finish ∈ moves

/-- A loop that has ended had been started and has nothing left to do, and it was cancelled or the
queue is closed and empty. -/
structure Rests (s : Scene) : Prop where
  started : s.processor.started = true
  taken : s.taken = none
  alerts : s.alerts = []
  spent : s.processor.cancelled = true ∨ s.processor.closed = true ∧ s.processor.queue = []

/-- Events are evaluated in the order in which they were accepted. -/
structure InOrder (source : Path → Option Track.Model) (supply : SealSupply) (d : Detector)
    (moves : List Move) (s : Scene) : Prop where
  accepted : accepted moves = (evaluated moves).map (·.1) ++ s.taken.toList ++ s.processor.queue
  evaluates : d.EvaluatesAll source supply (evaluated moves) s.detector
  events : s.processor.stats.events = (evaluated moves).length + s.taken.toList.length
  raised : raised moves = handed moves ++ s.alerts
  pending : s.taken ≠ none → s.alerts = []

/-- The sinks and the counts are what dispatching the alerts one after another makes of them. -/
structure Dispatched (routes : Dispatcher) (unused : Sinks) (moves : List Move)
    (p : Processor) : Prop where
  dispatcher : p.dispatcher = routes
  sinks : p.sinks = (routes.dispatchAll (handed moves) unused).2
  alerts : p.stats.alerts = (handed moves).length
  failed : p.stats.failedDeliveries =
    ((routes.dispatchAll (handed moves) unused).1.filter fun d => !d.success).length

/-- What the moves say about a scene. -/
structure Ledger (source : Path → Option Track.Model) (supply : SealSupply)
    (routes : Dispatcher) (unused : Sinks) (d : Detector) (moves : List Move) (s : Scene) :
    Prop where
  switches : Switches moves s.processor
  rests : s.processor.ended = true → s.Rests
  inOrder : InOrder source supply d moves s
  dispatched : Dispatched routes unused moves s.processor

variable {routes : Dispatcher} {unused : Sinks} {d : Detector} {moves : List Move} {m : Move}
  {s s' : Scene}

theorem ledger_opening : Ledger source supply routes unused d [] (opening routes unused d) where
  switches := by constructor <;> simp [opening, Processor.fresh]
  rests ended := by simp [opening, Processor.fresh] at ended
  inOrder := ⟨rfl, .nil, rfl, rfl, fun _ => rfl⟩
  dispatched := ⟨rfl, rfl, rfl, rfl⟩

/-! ### Requests -/

theorem Switches.granted (switches : Switches moves s.processor) {q : Processor.Request}
    {p : Processor} (ok : q.apply s.processor = .ok p) :
    Switches (moves ++ [.request q none]) p := by
  obtain ⟨started, closed, cancelled, ended⟩ := switches
  cases q with
  | enqueue e =>
    simp only [Processor.Request.apply, Processor.enqueue] at ok
    split at ok
    · cases ok
    · cases ok
      constructor <;> simp [started, closed, cancelled, ended]
  | start =>
    simp only [Processor.Request.apply, Processor.start] at ok
    split at ok
    · cases ok
    · cases ok
      constructor <;> simp [closed, cancelled, ended]
  | close =>
    cases ok
    constructor <;> simp [Processor.close, started, cancelled, ended]
  | cancel =>
    cases ok
    constructor <;> simp [Processor.cancel, started, closed, ended]

/-- A request changes the switches and the queue, and nothing else. -/
theorem apply_keeps {q : Processor.Request} {p p' : Processor} (ok : q.apply p = .ok p') :
    p'.ended = p.ended ∧ p'.dispatcher = p.dispatcher ∧ p'.sinks = p.sinks ∧ p'.stats = p.stats ∧
      p'.queue = p.queue ++ accepted [.request q none] := by
  cases q with
  | enqueue e =>
    simp only [Processor.Request.apply, Processor.enqueue] at ok
    split at ok
    · cases ok
    · cases ok
      exact ⟨rfl, rfl, rfl, rfl, rfl⟩
  | start =>
    simp only [Processor.Request.apply, Processor.start] at ok
    split at ok
    · cases ok
    · cases ok
      exact ⟨rfl, rfl, rfl, rfl, (List.append_nil _).symm⟩
  | close | cancel =>
    cases ok
    exact ⟨rfl, rfl, rfl, rfl, (List.append_nil _).symm⟩

/-- What rests goes on resting: a request is refused or changes nothing that matters. -/
theorem Rests.granted (rests : s.Rests) (ended : s.processor.ended = true)
    {q : Processor.Request} {p : Processor} (ok : q.apply s.processor = .ok p) :
    Rests { s with processor := p } := by
  obtain ⟨started, taken, alerts, spent⟩ := rests
  cases q with
  | enqueue e => simp [Processor.Request.apply, Processor.enqueue, ended] at ok
  | start => simp [Processor.Request.apply, Processor.start, started] at ok
  | close =>
    cases ok
    exact ⟨started, taken, alerts, spent.imp_right fun h => ⟨rfl, h.2⟩⟩
  | cancel =>
    cases ok
    exact ⟨started, taken, alerts, .inl rfl⟩

theorem Ledger.granted (ledger : Ledger source supply routes unused d moves s)
    {q : Processor.Request} {p : Processor} (ok : q.apply s.processor = .ok p) :
    Ledger source supply routes unused d (moves ++ [.request q none])
      { s with processor := p } := by
  obtain ⟨switches, rests, inOrder, dispatched⟩ := ledger
  obtain ⟨hended, hdispatcher, hsinks, hstats, hqueue⟩ := apply_keeps ok
  have hevaluated := evaluated_snoc moves (m := .request q none) rfl
  have hhanded := handed_snoc moves (m := .request q none) rfl
  refine ⟨switches.granted ok, ?_, ⟨?_, ?_, ?_, ?_, inOrder.pending⟩, ⟨?_, ?_, ?_, ?_⟩⟩
  · intro ended
    rw [hended] at ended
    exact (rests ended).granted ended ok
  · rw [accepted_append, inOrder.accepted, hevaluated, hqueue, List.append_assoc]
  · rw [hevaluated]
    exact inOrder.evaluates
  · rw [hevaluated, hstats]
    exact inOrder.events
  · unfold raised
    rw [hevaluated, hhanded]
    exact inOrder.raised
  · rw [hdispatcher]
    exact dispatched.dispatcher
  · rw [hsinks, hhanded]
    exact dispatched.sinks
  · rw [hstats, hhanded]
    exact dispatched.alerts
  · rw [hstats, hhanded]
    exact dispatched.failed

theorem Ledger.refused (ledger : Ledger source supply routes unused d moves s)
    (q : Processor.Request) (error : ProcessorError) :
    Ledger source supply routes unused d (moves ++ [.request q (some error)]) s := by
  obtain ⟨⟨started, closed, cancelled, ended⟩, rests, inOrder, dispatched⟩ := ledger
  have haccepted := accepted_snoc moves (m := .request q (some error)) (by cases q <;> rfl)
  have hevaluated := evaluated_snoc moves (m := .request q (some error)) rfl
  have hhanded := handed_snoc moves (m := .request q (some error)) rfl
  refine ⟨?_, rests, ?_, ?_⟩
  · constructor <;> simp [started, closed, cancelled, ended]
  · obtain ⟨haccepts, hevaluates, hevents, hraised, hpending⟩ := inOrder
    unfold raised at hraised
    constructor <;> simpa only [haccepted, hevaluated, hhanded, raised]
  · obtain ⟨hdispatcher, hsinks, halerts, hfailed⟩ := dispatched
    constructor <;> simpa only [hhanded]

/-! ### The loop -/

theorem Waits.not_ended (waits : s.Waits) : s.processor.ended = false := by
  have hrunning := waits.running
  unfold Processor.running at hrunning
  simpa using (Bool.and_eq_true_iff.mp hrunning).2

theorem Waits.started (waits : s.Waits) : s.processor.started = true := by
  have hrunning := waits.running
  unfold Processor.running at hrunning
  exact (Bool.and_eq_true_iff.mp hrunning).1

theorem Ledger.take (ledger : Ledger source supply routes unused d moves s) (waits : s.Waits)
    {e : VesselEvent} {rest : List VesselEvent} (queue : s.processor.queue = e :: rest) :
    Ledger source supply routes unused d (moves ++ [.take])
      { s with processor := takeFrom s.processor rest, taken := some e } := by
  obtain ⟨⟨started, closed, cancelled, ended⟩, -, inOrder, dispatched⟩ := ledger
  have haccepted := accepted_snoc moves (m := .take) rfl
  have hevaluated := evaluated_snoc moves (m := .take) rfl
  have hhanded := handed_snoc moves (m := .take) rfl
  refine ⟨?_, ?_, ⟨?_, ?_, ?_, ?_, fun _ => waits.alerts⟩, ?_⟩
  · constructor <;> simp [takeFrom, started, closed, cancelled, ended]
  · intro hended
    exact absurd (waits.not_ended.symm.trans hended) Bool.false_ne_true
  · rw [haccepted, hevaluated, inOrder.accepted, waits.taken, queue]
    simp [takeFrom]
  · rw [hevaluated]
    exact inOrder.evaluates
  · have hevents := inOrder.events
    rw [waits.taken] at hevents
    rw [hevaluated]
    simpa [takeFrom] using hevents
  · unfold raised
    rw [hevaluated, hhanded]
    exact inOrder.raised
  · obtain ⟨hdispatcher, hsinks, halerts, hfailed⟩ := dispatched
    constructor <;> simpa only [hhanded]

theorem Ledger.evaluate (ledger : Ledger source supply routes unused d moves s) {e : VesselEvent}
    (taken : s.taken = some e) {d' : Detector} {alerts : List Alert}
    (evaluates :
      s.detector.Evaluates source (supply (s.processor.stats.events - 1)) e d' alerts) :
    Ledger source supply routes unused d (moves ++ [.evaluate e alerts])
      { s with detector := d', taken := none, alerts := alerts } := by
  obtain ⟨⟨started, closed, cancelled, ended⟩, rests, inOrder, dispatched⟩ := ledger
  have haccepted := accepted_snoc moves (m := .evaluate e alerts) rfl
  have hevaluated : evaluated (moves ++ [.evaluate e alerts]) = evaluated moves ++ [(e, alerts)] :=
    evaluated_append _ _
  have hhanded := handed_snoc moves (m := .evaluate e alerts) rfl
  have hnone : s.alerts = [] := inOrder.pending (by simp [taken])
  have hevents := inOrder.events
  simp only [taken, Option.toList_some, List.length_singleton] at hevents
  refine ⟨?_, ?_, ⟨?_, ?_, ?_, ?_, nofun⟩, ?_⟩
  · constructor <;> simp [started, closed, cancelled, ended]
  · intro hended
    have htaken := (rests hended).taken
    rw [taken] at htaken
    cases htaken
  · rw [haccepted, hevaluated, inOrder.accepted, taken]
    simp
  · rw [hevents, Nat.add_sub_cancel] at evaluates
    rw [hevaluated]
    exact .snoc inOrder.evaluates evaluates
  · simpa [hevaluated] using hevents
  · rw [raised_append, hhanded, inOrder.raised, hnone, List.append_nil]
    simp [raised, evaluated, Move.evaluated?]
  · obtain ⟨hdispatcher, hsinks, halerts, hfailed⟩ := dispatched
    constructor <;> simpa only [hhanded]

theorem Dispatched.hand {p : Processor} (dispatched : Dispatched routes unused moves p)
    (a : Alert) : Dispatched routes unused (moves ++ [.hand a]) (p.hand a) := by
  obtain ⟨hdispatcher, hsinks, halerts, hfailed⟩ := dispatched
  have hhanded : handed (moves ++ [.hand a]) = handed moves ++ [a] := handed_append _ _
  have hall := routes.dispatchAll_append (handed moves) [a] unused
  have hlast : routes.dispatchAll [a] p.sinks = routes.dispatch a p.sinks := by
    simp [Dispatcher.dispatchAll]
  rw [← hsinks, hlast] at hall
  unfold Processor.hand
  rw [hdispatcher]
  constructor
  · rfl
  · rw [hhanded, hall]
  · rw [hhanded, List.length_append, ← halerts]
    rfl
  · rw [hhanded, hall, List.filter_append, List.length_append, ← hfailed]

theorem Ledger.hand (ledger : Ledger source supply routes unused d moves s) {a : Alert}
    {rest : List Alert} (alerts : s.alerts = a :: rest) :
    Ledger source supply routes unused d (moves ++ [.hand a])
      { s with processor := s.processor.hand a, alerts := rest } := by
  obtain ⟨⟨started, closed, cancelled, ended⟩, rests, inOrder, dispatched⟩ := ledger
  have haccepted := accepted_snoc moves (m := .hand a) rfl
  have hevaluated := evaluated_snoc moves (m := .hand a) rfl
  have hhanded : handed (moves ++ [.hand a]) = handed moves ++ [a] := handed_append _ _
  refine ⟨?_, ?_, ⟨?_, ?_, ?_, ?_, ?_⟩, dispatched.hand a⟩
  · constructor <;> simp [Processor.hand, started, closed, cancelled, ended]
  · intro hended
    have halerts := (rests hended).alerts
    rw [alerts] at halerts
    cases halerts
  · rw [haccepted, hevaluated]
    exact inOrder.accepted
  · rw [hevaluated]
    exact inOrder.evaluates
  · rw [hevaluated]
    exact inOrder.events
  · unfold raised
    rw [hevaluated, hhanded, List.append_assoc]
    exact inOrder.raised.trans (by rw [alerts]; rfl)
  · intro htaken
    have halerts := inOrder.pending htaken
    rw [alerts] at halerts
    cases halerts

theorem Ledger.finish (ledger : Ledger source supply routes unused d moves s) (waits : s.Waits)
    (spent : s.processor.cancelled = true ∨ s.processor.closed = true ∧ s.processor.queue = []) :
    Ledger source supply routes unused d (moves ++ [.finish])
      { s with processor := { s.processor with ended := true } } := by
  obtain ⟨⟨started, closed, cancelled, ended⟩, -, inOrder, dispatched⟩ := ledger
  have haccepted := accepted_snoc moves (m := .finish) rfl
  have hevaluated := evaluated_snoc moves (m := .finish) rfl
  have hhanded := handed_snoc moves (m := .finish) rfl
  refine ⟨?_, fun _ => ⟨waits.started, waits.taken, waits.alerts, spent⟩, ?_, ?_⟩
  · constructor <;> simp [started, closed, cancelled]
  · obtain ⟨haccepts, hevaluates, hevents, hraised, hpending⟩ := inOrder
    unfold raised at hraised
    constructor <;> simpa only [haccepted, hevaluated, hhanded, raised]
  · obtain ⟨hdispatcher, hsinks, halerts, hfailed⟩ := dispatched
    constructor <;> simpa only [hhanded]

/-- Every step keeps the ledger. -/
theorem Ledger.step (ledger : Ledger source supply routes unused d moves s)
    (step : Step source supply s m s') :
    Ledger source supply routes unused d (moves ++ [m]) s' := by
  cases step with
  | granted ok => exact ledger.granted ok
  | refused => exact ledger.refused _ _
  | take waits _ queue => exact ledger.take waits queue
  | evaluate taken evaluates => exact ledger.evaluate taken evaluates
  | hand alerts => exact ledger.hand alerts
  | finish waits spent => exact ledger.finish waits spent

theorem Run.ledger (run : Run source supply (opening routes unused d) moves s) :
    Ledger source supply routes unused d moves s := by
  induction run with
  | nil => exact ledger_opening
  | snoc _ step ih => exact ih.step step

end Scene

end VesselWatch
