/-
  Proofs/Dispatch/Processor.lean --- what a processor does with its events and alerts.

  However requests come between the steps of the loop, events are evaluated in the order in which
  they were accepted and none is evaluated twice or passed over.  When the loop has ended, the
  counts and the sinks say what dispatching the alerts of these events one after another makes of
  them (`Scene.Run.processes`).
-/
import VesselWatch.Proofs.Dispatch.Loop

set_option autoImplicit false

namespace VesselWatch

/-! ## Answers to requests -/

namespace Processor

theorem enqueue_granted_iff {e : VesselEvent} {p : Processor} :
    (∃ p', p.enqueue e = .ok p') ↔ ¬ (p.closed = true ∨ p.ended = true) := by
  unfold enqueue
  rw [← Bool.or_eq_true]
  split
  · next refuses => simp [refuses]
  · next takes => simp [takes]

theorem start_granted_iff {p : Processor} : (∃ p', p.start = .ok p') ↔ ¬ p.started = true := by
  unfold start
  split
  · next refuses => simp [refuses]
  · next takes => simp [takes]

end Processor

namespace Scene

variable {source : Path → Option Track.Model} {supply : SealSupply} {routes : Dispatcher}
  {unused : Sinks} {d : Detector} {moves : List Move} {s : Scene}

theorem Run.step_of_singleton {s s' : Scene} {m : Move} (run : Run source supply s [m] s') :
    Step source supply s m s' := by
  generalize hrow : [m] = row at run
  cases run with
  | nil => cases hrow
  | snoc before step =>
    rw [← List.nil_append [m]] at hrow
    obtain ⟨rfl, hm⟩ := List.append_inj' hrow rfl
    cases hm
    generalize hnone : ([] : List Move) = none at before
    cases before with
    | nil => exact step
    | snoc => simp at hnone

/-- A request is granted just if the processor grants it when it comes. -/
theorem Run.answer {q : Processor.Request} {error : Option ProcessorError}
    {before after : List Move}
    (run : Run source supply (opening routes unused d) (before ++ .request q error :: after) s) :
    ∃ s', Ledger source supply routes unused d before s' ∧
      (error = none ↔ ∃ p, q.apply s'.processor = .ok p) := by
  obtain ⟨s', first, rest⟩ := run.split
  rw [← List.singleton_append] at rest
  obtain ⟨_, last, -⟩ := rest.split
  refine ⟨s', first.ledger, ?_⟩
  cases last.step_of_singleton with
  | granted ok => simp [ok]
  | refused no => simp [no]

/-- An event is refused when the queue was closed before, or the loop has ended. -/
theorem Run.enqueue_refused_iff {e : VesselEvent} {error : Option ProcessorError}
    {before after : List Move} (run : Run source supply (opening routes unused d)
      (before ++ .request (.enqueue e) error :: after) s) :
    error ≠ none ↔ .request .close none ∈ before ∨ .finish ∈ before := by
  obtain ⟨s', ledger, answer⟩ := run.answer
  rw [← ledger.switches.closed, ← ledger.switches.ended, Ne, answer]
  exact (not_congr Processor.enqueue_granted_iff).trans Classical.not_not

/-- A loop that ended without being cancelled ended because the queue was closed. -/
theorem Ledger.closed_of_finish (ledger : Ledger source supply routes unused d moves s)
    (finished : .finish ∈ moves) (kept : .request .cancel none ∉ moves) :
    .request .close none ∈ moves := by
  obtain ⟨-, -, -, spent⟩ := ledger.rests (ledger.switches.ended.mpr finished)
  rcases spent with cancelled | ⟨closed, -⟩
  · exact absurd (ledger.switches.cancelled.mp cancelled) kept
  · exact ledger.switches.closed.mp closed

/-- As long as nobody cancels the loop, an event is refused just if the queue was closed before. -/
theorem Run.enqueue_refused_iff_closed {e : VesselEvent} {error : Option ProcessorError}
    {before after : List Move} (run : Run source supply (opening routes unused d)
      (before ++ .request (.enqueue e) error :: after) s)
    (kept : .request .cancel none ∉ before) :
    error ≠ none ↔ .request .close none ∈ before := by
  rw [run.enqueue_refused_iff, or_iff_left_of_imp]
  intro finished
  obtain ⟨s', first, -⟩ := run.split
  exact first.ledger.closed_of_finish finished kept

/-- The loop can be started as long as it has not been. -/
theorem Run.start_granted_iff {error : Option ProcessorError} {before after : List Move}
    (run : Run source supply (opening routes unused d)
      (before ++ .request .start error :: after) s) :
    error = none ↔ .request .start none ∉ before := by
  obtain ⟨s', ledger, answer⟩ := run.answer
  rw [← ledger.switches.started, answer]
  exact Processor.start_granted_iff

/-! ## What has been done at the end -/

/-- When the loop has ended, every alert that was raised has been dispatched. -/
theorem Ledger.raised_eq_handed (ledger : Ledger source supply routes unused d moves s)
    (ended : s.processor.ended = true) : raised moves = handed moves := by
  rw [ledger.inOrder.raised, (ledger.rests ended).alerts, List.append_nil]

/-- When the loop has ended without being cancelled, every event that was accepted has been
evaluated. -/
theorem Ledger.evaluated_eq_accepted (ledger : Ledger source supply routes unused d moves s)
    (ended : s.processor.ended = true) (kept : .request .cancel none ∉ moves) :
    (evaluated moves).map (·.1) = accepted moves := by
  obtain ⟨-, taken, -, spent⟩ := ledger.rests ended
  rcases spent with cancelled | ⟨-, empty⟩
  · exact absurd (ledger.switches.cancelled.mp cancelled) kept
  · rw [ledger.inOrder.accepted, taken, empty]
    simp

/-- However requests come between the steps of the loop, the events that are evaluated are the
first of those that were accepted, in their order; an event is refused just if the queue was
closed, unless somebody cancels the loop, and the loop is started only once.  When it has ended, it
had been started; unless it was cancelled all that was accepted has been evaluated; and the counts
and the sinks are what dispatching every alert once, in the order of the evaluations, makes of
them. -/
theorem Run.processes (run : Run source supply (opening routes unused d) moves s) :
    ((evaluated moves).map (·.1) <+: accepted moves ∧
      d.EvaluatesAll source supply (evaluated moves) s.detector) ∧
    (∀ before e error after, moves = before ++ .request (.enqueue e) error :: after →
      .request .cancel none ∉ before →
        (error ≠ none ↔ .request .close none ∈ before)) ∧
    (∀ before error after, moves = before ++ .request .start error :: after →
      (error = none ↔ .request .start none ∉ before)) ∧
    (s.processor.ended = true →
      .request .start none ∈ moves ∧
      (.request .cancel none ∉ moves → (evaluated moves).map (·.1) = accepted moves) ∧
      s.processor.stats.events = (evaluated moves).length ∧
      s.processor.stats.alerts = (raised moves).length ∧
      s.processor.stats.failedDeliveries =
        ((routes.dispatchAll (raised moves) unused).1.filter fun d => !d.success).length ∧
      ∀ label sink, unused.lookup label = some sink →
        ∃ sink', s.processor.sinks.lookup label = some sink' ∧
          sink'.handed = (routes.routed label (raised moves)).reverse ++ sink.handed) := by
  have ledger := run.ledger
  refine ⟨⟨?_, ledger.inOrder.evaluates⟩, ?_, ?_, ?_⟩
  · rw [ledger.inOrder.accepted, List.append_assoc]
    exact List.prefix_append _ _
  · rintro before e error after rfl kept
    exact run.enqueue_refused_iff_closed kept
  · rintro before error after rfl
    exact run.start_granted_iff
  · intro ended
    have rests := ledger.rests ended
    have hraised := ledger.raised_eq_handed ended
    refine ⟨ledger.switches.started.mp rests.started, ledger.evaluated_eq_accepted ended, ?_, ?_,
      ?_, ?_⟩
    · rw [ledger.inOrder.events, rests.taken]
      rfl
    · rw [hraised]
      exact ledger.dispatched.alerts
    · rw [hraised]
      exact ledger.dispatched.failed
    · intro label sink found
      refine ⟨sink.after (routes.routed label (raised moves)), ?_, Sink.handed_after _ _⟩
      rw [ledger.dispatched.sinks, Dispatcher.lookup_dispatchAll, found, hraised]
      rfl

/-- The loop takes an event that was accepted before the queue was closed.  Of the two sinks that
its alert goes to, one fails. -/
theorem processes_sighting :
    let rule := Engine.sighting "a" 1 true false
    let routes := Dispatcher.withDefaults ["keep", "fail"]
    let unused : Sinks := [("keep", Sink.fresh "keep" .collect),
      ("fail", Sink.fresh "fail" (.failing "down"))]
    ∃ moves s, Run (fun _ => none) (fun _ _ => default)
        (opening routes unused ⟨Engine.ofRules [rule], Track.Library.empty⟩) moves s ∧
      (evaluated moves).map (·.1) = accepted moves ∧ s.processor.stats = ⟨1, 1, 1⟩ ∧
      ∃ kept, s.processor.sinks.lookup "keep" = some kept ∧
        kept.handed = [Alert.raised default rule default] := by
  intro rule routes unused
  let start : Detector := ⟨Engine.ofRules [rule], Track.Library.empty⟩
  have evaluates : start.Evaluates (fun _ => none) (fun _ => default) default
      (start.evaluate (fun _ => none) (fun _ => default) default).1
      (start.evaluate (fun _ => none) (fun _ => default) default).2 :=
    Detector.evaluates_evaluate (Engine.wellFormed_ofRules _) _ _
  have halerts : (start.evaluate (fun _ => none) (fun _ => default) default).2 =
      [Alert.raised default rule default] := by decide +kernel
  rw [halerts] at evaluates
  have opens : Run (fun _ => none) (fun _ _ => default) (opening routes unused start) [] _ := .nil
  have asked := opens.snoc (.granted (q := .start) rfl)
    |>.snoc (.granted (q := .enqueue default) rfl) |>.snoc (.granted (q := .close) rfl)
  have worked := asked.snoc (.take ⟨rfl, rfl, rfl⟩ rfl rfl) |>.snoc (.evaluate rfl evaluates)
    |>.snoc (.hand rfl)
  have run := worked.snoc (.finish ⟨rfl, rfl, rfl⟩ (.inr ⟨rfl, rfl⟩))
  obtain ⟨-, -, -, atEnd⟩ := Run.processes run
  obtain ⟨-, hall, -, -, -, hsinks⟩ := atEnd rfl
  obtain ⟨kept, hkept, hhanded⟩ := hsinks "keep" _ rfl
  exact ⟨_, _, run, hall (by simp), rfl, kept, hkept, hhanded⟩

end Scene

end VesselWatch
