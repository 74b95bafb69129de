/-
  Proofs/Engine/Session.lean --- what a detector answers, call by call.

  A session is a row of errands for one detector, each at the files that there are at its
  time, with the answers: the report of an update, the alerts of an event.

  SHUTDOWNS ARE NOT SEEN.  A shutdown ends the workers; what an engine answers follows
  from its rules and memories.  An update done meanwhile starts no worker, the next event
  starts them all, and one that had exited because of its rule is started with them: it
  exits again at the first event without having said anything.  `Shadows` carries this
  through a session, and `shutdown_unseen` says what comes of it.
-/
import VesselWatch.Proofs.Engine.History
import VesselWatch.Proofs.Engine.Mirror
import VesselWatch.Proofs.Engine.Replacement

set_option autoImplicit false

namespace VesselWatch

/-! ## Updates see the rules only -/

namespace Engine

variable {en en' : Engine}

theorem rules_upsert (r : Rule) (en : Engine) (diff : Diff) :
    (en.upsert r diff).1.rules =
      match Rule.named r.id en.rules with
      | some old =>
        if old.same r then en.rules else Rule.byPriority (replaceRule r en.rules)
      | none => Rule.byPriority (en.rules ++ [r]) := by
  unfold upsert Rule.named
  cases en.rules.find? fun old => old.id == r.id with
  | none => simp
  | some old => by_cases hsame : old.same r <;> simp [hsame]

theorem WellFormed.started_upsert (wf : en.WellFormed) (r : Rule) (diff : Diff) :
    (en.upsert r diff).1.started = en.started := by
  rcases wf.upsert_cases r diff with ⟨_, _, _, hsame⟩ | ⟨_, installs⟩
  · rw [hsame]
  · exact installs.started

theorem WellFormed.started_updateAll (wf : en.WellFormed) (rules : List Rule) :
    (en.updateAll rules).1.started = en.started := by
  have hupsertAll : ∀ (incoming : List Rule) (en : Engine) (diff : Diff), en.WellFormed →
      (en.upsertAll incoming diff).1.started = en.started := by
    intro incoming
    unfold Engine.upsertAll
    induction incoming with
    | nil => exact fun _ _ _ => rfl
    | cons r rest ih =>
      intro en diff wf
      rw [List.foldl_cons, ih _ _ (wf.upsert r diff), wf.started_upsert]
  obtain ⟨diff, heq⟩ := updateAll_eq rules en
  rw [heq]
  exact hupsertAll _ _ diff (wf.retain _)

section Equal

variable (wf : en.WellFormed) (wf' : en'.WellFormed) (rules : en.rules = en'.rules)
  (states : ∀ id, en.state? id = en'.state? id)

include rules in
theorem upsert_congr (r : Rule) (diff : Diff) :
    (en.upsert r diff).1.rules = (en'.upsert r diff).1.rules ∧
      (en.upsert r diff).2 = (en'.upsert r diff).2 := by
  rw [rules_upsert, rules_upsert, diff_upsert, diff_upsert, rules]
  exact ⟨rfl, rfl⟩

include wf wf' states in
theorem state?_upsert_congr (r : Rule) (diff : Diff) (id : String) :
    (en.upsert r diff).1.state? id = (en'.upsert r diff).1.state? id := by
  rw [wf.state?_upsert, wf'.state?_upsert, memory, memory, states]

include wf wf' rules in
theorem updateAll_congr (incoming : List Rule) :
    (en.updateAll incoming).1.rules = (en'.updateAll incoming).1.rules ∧
      (en.updateAll incoming).2 = (en'.updateAll incoming).2 := by
  have hdiffers : en.differs = en'.differs := by
    funext r
    rw [differs, differs, rules]
  have hagrees : en.agrees = en'.agrees := by
    funext r
    rw [agrees, agrees, rules]
  rw [wf.rules_updateAll, wf'.rules_updateAll, wf.diff_updateAll, wf'.diff_updateAll, hdiffers,
    hagrees, rules]
  exact ⟨rfl, rfl⟩

include wf wf' states in
theorem state?_updateAll_congr (incoming : List Rule) (id : String) :
    (en.updateAll incoming).1.state? id = (en'.updateAll incoming).1.state? id := by
  rw [wf.state?_updateAll, wf'.state?_updateAll, memory, memory, states]

end Equal

/-- Of two engines with the same rules that have both been started, or neither of which has, one
has as many workers as the other. -/
theorem WellFormed.length_workers (wf : en.WellFormed) (wf' : en'.WellFormed)
    (rules : en.rules = en'.rules) (started : en.started = en'.started) :
    en.workers.length = en'.workers.length := by
  cases hstarted : en.started with
  | false =>
    rw [wf.workers_eq_nil hstarted, wf'.workers_eq_nil (started ▸ hstarted)]
  | true =>
    have hkeys : (en.workers.map (·.1)).Perm (en'.workers.map (·.1)) := by
      refine (List.perm_ext_iff_of_nodup wf.workerKeys wf'.workerKeys).mpr fun id => ?_
      rw [wf.mem_workerKeys hstarted, wf'.mem_workerKeys (started ▸ hstarted), rules]
    simpa using hkeys.length_eq

end Engine

/-! ## Sessions -/

/-- What a detector answers. -/
inductive Answer where
  /-- to an update: what it did -/
  | report (diff : Diff)
  /-- to an event: the alerts that are left -/
  | alerts (alerts : List Alert)

/-- An operation, and the files that there are while it is done. -/
structure Errand where
  files : FileTree
  operation : Operation

namespace Operation

def isShutdown : Operation → Bool
  | .shutdown => true
  | _ => false

/-- What is answered when these alerts are pushed. -/
def answers (d : Detector) : Operation → List (List Alert) → List Answer
  | .updateAll rules, _ => [.report (d.updateAll rules).2]
  | .updateOne r, _ => [.report (d.updateOne r).2]
  | .evaluate _ _, pushed =>
    pushed.map fun alerts => .alerts (resolveExclusive d.engine.rules alerts)
  | .shutdown, _ => []

/-- Whether a shutdown has come and no event since, if `idle` says so of the time before. -/
def idles (idle : Bool) : Operation → Bool
  | .evaluate _ _ => false
  | .shutdown => true
  | _ => idle

end Operation

namespace Detector

/-- Errands in their order, with the answers to them. -/
inductive Session : Detector → List Errand → Detector → List Answer → Prop
  | nil {d : Detector} : Session d [] d []
  | cons {d d' d'' : Detector} {q : Errand} {rest : List Errand} {pushed : List (List Alert)}
      {later : List Answer} :
      Step (Track.Library.loaded q.files.find?) d q.operation d' pushed →
      Session d' rest d'' later →
      Session d (q :: rest) d'' (q.operation.answers d pushed ++ later)

variable {source : Path → Option Track.Model} {d d' next next' : Detector}

theorem Step.wellFormed (wf : d.engine.WellFormed) {op : Operation}
    {pushed : List (List Alert)} (step : Step source d op next pushed) :
    next.engine.WellFormed := by
  cases step with
  | updateAll rules => exact wf.updateAll rules
  | updateOne r => exact wf.upsert r Diff.none
  | evaluate delivers =>
    rw [delivers.engine_eq wf.start]
    exact wf.start.progressed _
  | shutdown => exact wf.shutdown

/-- No operation gets stuck. -/
theorem exists_step (source : Path → Option Track.Model) (wf : d.engine.WellFormed)
    (op : Operation) : ∃ next pushed, Step source d op next pushed := by
  cases op with
  | updateAll rules => exact ⟨_, _, .updateAll rules⟩
  | updateOne r => exact ⟨_, _, .updateOne r⟩
  | evaluate seals e =>
    obtain ⟨pushed, step, -⟩ := step_evaluate wf seals e
    exact ⟨_, _, step⟩
  | shutdown => exact ⟨_, _, .shutdown⟩

theorem exists_session (wf : d.engine.WellFormed) (errands : List Errand) :
    ∃ next answers, Session d errands next answers := by
  induction errands generalizing d with
  | nil => exact ⟨d, [], .nil⟩
  | cons q rest ih =>
    obtain ⟨d', pushed, step⟩ := exists_step (Track.Library.loaded q.files.find?) wf q.operation
    obtain ⟨next, answers, session⟩ := ih (step.wellFormed wf)
    exact ⟨next, _, .cons step session⟩

/-! ## Two detectors side by side -/

/-- The engines mirror each other and the libraries are alike. -/
structure Mirrors (d d' : Detector) : Prop where
  wellFormed : d.engine.WellFormed
  wellFormed' : d'.engine.WellFormed
  engine : d.engine.Mirrors d'.engine
  library : d.library.Alike d'.library

/-- Mirrors answer an event alike and are mirrors afterwards. -/
theorem Mirrors.evaluate (mirrors : Mirrors d d') (coherent : Track.Coherent source)
    {seals : String → Seal} {e : VesselEvent} {pushed pushed' : List (List Alert)}
    (step : Step source d (.evaluate seals e) next pushed)
    (step' : Step source d' (.evaluate seals e) next' pushed') :
    Mirrors next next' ∧
      (Operation.evaluate seals e).answers d pushed =
        (Operation.evaluate seals e).answers d' pushed' := by
  have wfNext := step.wellFormed mirrors.wellFormed
  have wfNext' := step'.wellFormed mirrors.wellFormed'
  cases step with
  | evaluate delivers =>
    cases step' with
    | evaluate delivers' =>
      rw [← mirrors.library.find] at delivers'
      obtain ⟨hengine, halerts, hasked⟩ := mirrors.engine.evaluate mirrors.wellFormed
        mirrors.wellFormed' (Track.Library.coherent_find coherent d.library) delivers delivers'
      refine ⟨⟨wfNext, wfNext', hengine, mirrors.library.recordAll coherent hasked⟩, ?_⟩
      simp only [Operation.answers, List.map_cons, List.map_nil, halerts]

/-! ## Shutdowns -/

/-- `d'` differs from `d` by shutdowns only; `idle` says that the last of them has come to `d'`
after the last event. -/
structure Shadows (idle : Bool) (d d' : Detector) : Prop extends Mirrors d d' where
  rules : d.engine.rules = d'.engine.rules
  started : d'.engine.started = (!idle && d.engine.started)

variable {idle : Bool}

theorem Shadows.refl (wf : d.engine.WellFormed) : Shadows false d d where
  wellFormed := wf
  wellFormed' := wf
  engine := .of_eq rfl fun _ => rfl
  library := ⟨rfl, fun _ => rfl⟩
  rules := rfl
  started := by simp

theorem Shadows.shutdown (shadows : Shadows idle d d') :
    Shadows true d { d' with engine := d'.engine.shutdown } where
  wellFormed := shadows.wellFormed
  wellFormed' := shadows.wellFormed'.shutdown
  engine := ⟨shadows.engine.rules, shadows.engine.state?⟩
  library := shadows.library
  rules := shadows.rules
  started := by simp [Engine.shutdown]

theorem Shadows.updateAll (shadows : Shadows idle d d') (rules : List Rule) :
    Shadows idle (d.updateAll rules).1 (d'.updateAll rules).1 ∧
      (d.updateAll rules).2 = (d'.updateAll rules).2 := by
  have wf := shadows.wellFormed
  have wf' := shadows.wellFormed'
  obtain ⟨hrules, hdiff⟩ := Engine.updateAll_congr wf wf' shadows.rules rules
  have hstates := Engine.state?_updateAll_congr wf wf' shadows.engine.state? rules
  exact
    ⟨{ wellFormed := wf.updateAll rules
       wellFormed' := wf'.updateAll rules
       engine := .of_eq hrules hstates
       library := shadows.library
       rules := hrules
       started := (wf'.started_updateAll rules).trans
         (shadows.started.trans (by rw [← wf.started_updateAll rules]; rfl)) }, hdiff⟩

theorem Shadows.updateOne (shadows : Shadows idle d d') (r : Rule) :
    Shadows idle (d.updateOne r).1 (d'.updateOne r).1 ∧
      (d.updateOne r).2 = (d'.updateOne r).2 := by
  have wf := shadows.wellFormed
  have wf' := shadows.wellFormed'
  obtain ⟨hrules, hdiff⟩ := Engine.upsert_congr shadows.rules r Diff.none
  have hstates := Engine.state?_upsert_congr wf wf' shadows.engine.state? r Diff.none
  exact
    ⟨{ wellFormed := wf.upsert r Diff.none
       wellFormed' := wf'.upsert r Diff.none
       engine := .of_eq hrules hstates
       library := shadows.library
       rules := hrules
       started := (wf'.started_upsert r Diff.none).trans
         (shadows.started.trans (by rw [← wf.started_upsert r Diff.none]; rfl)) }, hdiff⟩

theorem Step.started_evaluate (wf : d.engine.WellFormed) {seals : String → Seal}
    {e : VesselEvent} {pushed : List (List Alert)}
    (step : Step source d (.evaluate seals e) next pushed) : next.engine.started = true := by
  cases step with
  | evaluate delivers =>
    rw [delivers.engine_eq wf.start]
    exact Engine.started_start d.engine

theorem Step.rules_evaluate (wf : d.engine.WellFormed) {seals : String → Seal}
    {e : VesselEvent} {pushed : List (List Alert)}
    (step : Step source d (.evaluate seals e) next pushed) :
    next.engine.rules = d.engine.rules := by
  cases step with
  | evaluate delivers => exact delivers.rules_eq wf

/-- The same operation on both sides is answered alike, and nothing new tells them apart. -/
theorem Shadows.step (shadows : Shadows idle d d') (coherent : Track.Coherent source)
    {op : Operation} (running : op.isShutdown = false) {pushed pushed' : List (List Alert)}
    (step : Step source d op next pushed) (step' : Step source d' op next' pushed') :
    Shadows (op.idles idle) next next' ∧ op.answers d pushed = op.answers d' pushed' := by
  cases op with
  | updateAll rules =>
    obtain ⟨hnext, hdiff⟩ := shadows.updateAll rules
    cases step
    cases step'
    exact ⟨hnext, by simp only [Operation.answers, hdiff]⟩
  | updateOne r =>
    obtain ⟨hnext, hdiff⟩ := shadows.updateOne r
    cases step
    cases step'
    exact ⟨hnext, by simp only [Operation.answers, hdiff]⟩
  | evaluate seals e =>
    obtain ⟨hnext, hanswers⟩ := shadows.evaluate coherent step step'
    have hrules : next.engine.rules = next'.engine.rules := by
      rw [step.rules_evaluate shadows.wellFormed, step'.rules_evaluate shadows.wellFormed',
        shadows.rules]
    have hstarted : next'.engine.started = (!false && next.engine.started) := by
      rw [step.started_evaluate shadows.wellFormed, step'.started_evaluate shadows.wellFormed']
      rfl
    exact ⟨⟨hnext, hrules, hstarted⟩, hanswers⟩
  | shutdown => cases running

/-- Some shutdowns have been put between the errands. -/
theorem Shadows.session (shadows : Shadows idle d d') {errands errands' : List Errand}
    {answers answers' : List Answer} (session' : Session d' errands' next' answers')
    (session : Session d errands next answers)
    (inserted : (errands'.filter fun q => !q.operation.isShutdown) = errands) :
    Shadows (errands'.foldl (fun idle q => q.operation.idles idle) idle) next next' ∧
      answers' = answers := by
  -- On the longer session: the other one stands still while a shutdown is done.
  induction session' generalizing idle d errands answers with
  | nil =>
    subst inserted
    cases session
    exact ⟨shadows, rfl⟩
  | @cons d' d₁' next' q rest' pushed' later' step' _ ih =>
    cases hshutdown : q.operation.isShutdown with
    | true =>
      have hop : q.operation = .shutdown := by
        cases hop : q.operation with
        | shutdown => rfl
        | _ =>
          rw [hop] at hshutdown
          cases hshutdown
      rw [List.filter_cons_of_neg (by simp [hshutdown])] at inserted
      rw [hop] at step'
      rw [List.foldl_cons, hop]
      cases step' with
      | shutdown => exact ih shadows.shutdown session inserted
    | false =>
      rw [List.filter_cons_of_pos (by simp [hshutdown])] at inserted
      subst inserted
      cases session with
      | cons step session =>
        obtain ⟨hnext, hanswers⟩ :=
          shadows.step (Track.coherent_loaded q.files) hshutdown step step'
        obtain ⟨hend, hlater⟩ := ih hnext session rfl
        exact ⟨hend, by rw [hanswers, hlater]⟩

/-- Whatever is asked of an engine, shutdowns in between do not change an answer, nor a later rule
or memory.  Only between a shutdown and the next event there are no workers. -/
theorem Session.shutdown_unseen (reachable : d.engine.Reachable)
    {errands errands' : List Errand} {answers : List Answer}
    (session : Session d errands next answers)
    (inserted : (errands'.filter fun q => !q.operation.isShutdown) = errands) :
    let idle := errands'.foldl (fun idle q => q.operation.idles idle) false
    (∃ next' answers', Session d errands' next' answers') ∧
    ∀ next' answers', Session d errands' next' answers' →
      answers' = answers ∧
      next'.engine.rules = next.engine.rules ∧
      (∀ id, next'.engine.state? id = next.engine.state? id) ∧
      next'.engine.workers.length = if idle then 0 else next.engine.workers.length := by
  have wf := reachable.wellFormed
  refine ⟨exists_session wf errands', fun next' answers' session' => ?_⟩
  obtain ⟨hend, hanswers⟩ := (Shadows.refl wf).session session' session inserted
  refine ⟨hanswers, hend.rules.symm, fun id => (hend.engine.state? id).symm, ?_⟩
  have hstarted := hend.started
  split
  · next hidle =>
    rw [hidle] at hstarted
    rw [hend.wellFormed'.workers_eq_nil hstarted]
    rfl
  · next hidle =>
    rw [Bool.eq_false_iff.mpr hidle] at hstarted
    exact hend.wellFormed'.length_workers hend.wellFormed hend.rules.symm (by simpa using hstarted)

/-- A rule that is supplied after a shutdown is answered for like one supplied without. -/
theorem shutdown_unseen_sighting :
    let start : Detector := ⟨Engine.ofRules [Engine.sighting "a" 1 true false], Track.Library.empty⟩
    let event : Errand := ⟨FileTree.empty, .evaluate (fun _ => default) default⟩
    let addition : Errand := ⟨FileTree.empty, .updateOne (Engine.sighting "b" 2 true true)⟩
    let halt : Errand := ⟨FileTree.empty, .shutdown⟩
    ∃ next next' answers, Session start [event, addition, event] next answers ∧
      Session start [event, halt, addition, halt, event, halt] next' answers ∧
      next'.engine.state? "b" = next.engine.state? "b" ∧ next'.engine.workers.length = 0 := by
  intro start event addition halt
  have reachable : start.engine.Reachable := .ofRules _
  obtain ⟨next, answers, session⟩ := exists_session reachable.wellFormed [event, addition, event]
  have inserted : ([event, halt, addition, halt, event, halt].filter
      fun q => !q.operation.isShutdown) = [event, addition, event] := rfl
  obtain ⟨⟨next', answers', session'⟩, hunseen⟩ := session.shutdown_unseen reachable inserted
  obtain ⟨rfl, -, hstates, hworkers⟩ := hunseen next' answers' session'
  exact ⟨next, next', answers', session, session', hstates "b", hworkers⟩

end Detector

end VesselWatch
