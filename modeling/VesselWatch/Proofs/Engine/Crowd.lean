/-
  Proofs/Engine/Crowd.lean --- many events before rules that remember nothing.

  A condition that looks at the event at hand only (`Condition.IsMomentary`) neither reads the
  memory of its rule nor writes to it, and neither does a rule with none but such conditions
  (`Rule.IsMomentary.evaluate`).  What remains of an event in an engine with such rules is that
  workers have exited, and those would not have said anything to any other event either.

  A CROWD is an engine with several events on their way through its workers at the same time.  A
  worker may have several of them at hand, and takes them in any order: real workers do less than
  that.  `Crowd.Sound` is what holds at every moment.
-/
import VesselWatch.Proofs.Engine.Ranking
import VesselWatch.Proofs.Engine.Reachable

set_option autoImplicit false

namespace VesselWatch

open Relation

/-! ## Rules that look at the event at hand only -/

/-- The condition looks at the event alone, whether or not it has what it needs for that. -/
def Condition.IsMomentary : Condition → Prop
  | .value _ => True
  | .spatial _ => True
  | .positionAnomaly _ => True
  | .temporal _ => False
  | .aggregation _ _ => False

/-- All conditions of the rule look at the event alone. -/
def Rule.IsMomentary (r : Rule) : Prop := ∀ c ∈ r.conditions, c.IsMomentary

/-- The memory goes through the condition unread and unchanged. -/
theorem Condition.IsMomentary.evaluate {c : Condition} (momentary : c.IsMomentary)
    (models : Models) (e : VesselEvent) (s s' : RuleState) :
    c.evaluate models e s = { c.evaluate models e s' with state := s } := by
  cases c with
  | value t => rfl
  | spatial t => rfl
  | positionAnomaly folder => rfl
  | temporal t => exact momentary.elim
  | aggregation w filter => exact momentary.elim

theorem evaluateUntil_of_momentary {cs : List Condition} (momentary : ∀ c ∈ cs, c.IsMomentary)
    (models : Models) (last : Bool) (e : VesselEvent) (s s' : RuleState) :
    evaluateUntil models last e cs s = { evaluateUntil models last e cs s' with state := s } := by
  induction cs with
  | nil => rfl
  | cons c rest ih =>
    have hrest := ih fun c' hc' => momentary c' (List.mem_cons_of_mem _ hc')
    have hc := (momentary c (List.mem_cons_self ..)).evaluate models e
    have hstate : (c.evaluate models e s').state = s' := by rw [hc s' s']
    simp only [evaluateUntil]
    rw [hc s s', hstate]
    cases (c.evaluate models e s').verdict with
    | error err => rfl
    | ok b =>
      simp only
      split
      · rfl
      · rw [hrest]

/-- The memory goes through the rule unread and unchanged. -/
theorem Rule.IsMomentary.evaluate {r : Rule} (momentary : r.IsMomentary) (models : Models)
    (e : VesselEvent) (s s' : RuleState) :
    r.evaluate models e s = { r.evaluate models e s' with state := s } := by
  unfold Rule.evaluate
  split
  · rfl
  · cases r.combineLogic with
    | all => simp only [Outcome.ofCondition, evaluateUntil_of_momentary momentary models _ e s s']
    | any => simp only [Outcome.ofCondition, evaluateUntil_of_momentary momentary models _ e s s']
    | unsupported word => rfl

theorem Rule.IsMomentary.state_evaluate {r : Rule} (momentary : r.IsMomentary) (models : Models)
    (e : VesselEvent) (s : RuleState) : (r.evaluate models e s).state = s := by
  rw [momentary.evaluate models e s s]

theorem Rule.IsMomentary.isMatch_evaluate {r : Rule} (momentary : r.IsMomentary) (models : Models)
    (e : VesselEvent) (s s' : RuleState) :
    (r.evaluate models e s).isMatch = (r.evaluate models e s').isMatch := by
  rw [momentary.evaluate models e s s']
  rfl

namespace Engine

open Rule

variable {models : Models} {seals : String → Seal} {e : VesselEvent} {en en' : Engine}

/-! ## An event on its own -/

/-- The alerts of an event that is the only one that a new engine evaluates. -/
def alone (models : Models) (rules : List Rule) (seals : String → Seal) (e : VesselEvent) :
    List Alert :=
  ((ofRules rules).evaluate models seals e).alerts

/-- Every memory is empty. -/
def Blank (en : Engine) : Prop := ∀ p ∈ en.states, p.2 = RuleState.fresh p.1

theorem blank_ofRules (rules : List Rule) : (ofRules rules).Blank := by
  intro p hp
  obtain ⟨r, -, rfl⟩ := List.mem_map.mp hp
  rfl

/-- A new engine with the rules of another one has them in their order. -/
theorem WellFormed.rules_ofRules (wf : en.WellFormed) : (ofRules en.rules).rules = en.rules := by
  unfold ofRules
  rw [distinct_of_nodup wf.distinct]
  exact byPriority_of_descending wf.descending

/-- Which momentary rules match can be told without their memories. -/
theorem matching_eq_of_rules (momentary : ∀ r ∈ en.rules, r.IsMomentary)
    (rules : en'.rules = en.rules) : en'.matching models e = en.matching models e := by
  unfold matching
  rw [rules]
  refine List.filter_congr fun r hr => ?_
  rw [(momentary r hr).isMatch_evaluate]

theorem WellFormed.alone_eq (wf : en.WellFormed) (momentary : ∀ r ∈ en.rules, r.IsMomentary) :
    alone models en.rules seals e =
      (survivors (en.matching models e)).map fun r => Alert.raised (seals r.id) r e := by
  have wf' := wellFormed_ofRules en.rules
  rw [alone, wf'.evaluates.alerts_eq wf', matching_eq_of_rules momentary wf.rules_ofRules]

/-! ## Events one after another -/

/-- Events are evaluated one after another, each by the engine that the one before has left. -/
inductive EvaluatesInTurn (models : Models) :
    Engine → List ((String → Seal) × VesselEvent) → List (List Alert) → Engine → Prop
  | nil {en : Engine} : EvaluatesInTurn models en [] [] en
  | cons {en : Engine} {seals : String → Seal} {e : VesselEvent} {done : Evaluation}
      {rest : List ((String → Seal) × VesselEvent)} {answers : List (List Alert)} {later : Engine}
      (first : en.Evaluates models seals e done)
      (others : EvaluatesInTurn models done.engine rest answers later) :
      EvaluatesInTurn models en ((seals, e) :: rest) (done.alerts :: answers) later

theorem WellFormed.momentary_of_worker (wf : en.WellFormed)
    (momentary : ∀ r ∈ en.rules, r.IsMomentary) {id : String} {w : Worker}
    (found : en.workers.lookup id = some w) : w.rule.IsMomentary :=
  momentary _ (mem_of_named (wf.worker_rule found).1)

/-- Workers with momentary rules write back what they have read. -/
theorem WellFormed.states_progressed (wf : en.WellFormed)
    (momentary : ∀ r ∈ en.rules, r.IsMomentary) (finished : List String) :
    (en.progressed models e finished).states = en.states := by
  have hsame : ∀ p ∈ en.states, (p.1, if p.1 ∈ finished then
      ((en.workers.lookup p.1).map fun w => (en.reaction models e w p.1).state).getD p.2
        else p.2) = p := by
    intro p hp
    have hmemory : en.memory p.1 = p.2 := by
      have hstate : en.state? p.1 = some p.2 :=
        (Assoc.lookup_eq_some_iff_mem wf.stateKeys).mpr hp
      simp [memory, hstate]
    cases hw : en.workers.lookup p.1 with
    | none => simp
    | some w =>
      have hrule := wf.momentary_of_worker momentary hw
      simp [reaction, hrule.state_evaluate, hmemory]
  calc (en.progressed models e finished).states
      = en.states.map fun p => p := List.map_congr_left hsame
    _ = en.states := List.map_id' _

theorem Evaluates.states_eq (wf : en.WellFormed) (momentary : ∀ r ∈ en.rules, r.IsMomentary)
    {done : Evaluation} (evaluates : en.Evaluates models seals e done) :
    done.engine.states = en.states := by
  rw [evaluates.engine_eq wf, wf.start.states_progressed (by rwa [rules_start]), states_start]

theorem WellFormed.evaluatesInTurn (wf : en.WellFormed)
    (events : List ((String → Seal) × VesselEvent)) :
    ∃ answers later, en.EvaluatesInTurn models events answers later := by
  induction events generalizing en with
  | nil => exact ⟨[], en, .nil⟩
  | cons p rest ih =>
    obtain ⟨seals, e⟩ := p
    have first : en.Evaluates models seals e (en.evaluate models seals e) := wf.evaluates
    obtain ⟨answers, later, hrest⟩ := ih (first.wellFormed wf)
    exact ⟨_, later, .cons first hrest⟩

theorem EvaluatesInTurn.answers_eq (wf : en.WellFormed)
    (momentary : ∀ r ∈ en.rules, r.IsMomentary) {events : List ((String → Seal) × VesselEvent)}
    {answers : List (List Alert)} {later : Engine}
    (evaluates : en.EvaluatesInTurn models events answers later) :
    answers = events.map (fun p => alone models en.rules p.1 p.2) ∧ later.states = en.states := by
  induction evaluates with
  | nil => exact ⟨rfl, rfl⟩
  | @cons en seals e done rest answers later first _ ih =>
    have hrules := first.rules_eq wf
    obtain ⟨hanswers, hstates⟩ := ih (first.wellFormed wf) (by rwa [hrules])
    refine ⟨?_, hstates.trans (first.states_eq wf momentary)⟩
    rw [List.map_cons, hanswers, hrules, wf.alone_eq momentary, first.alerts_eq wf]

end Engine

/-! ## Events at the same time -/

/-- An event on its way through the workers, apart from the engine. -/
structure Passage where
  seals : String → Seal
  event : VesselEvent
  /-- the alerts that have been pushed for it -/
  alerts : List Alert
  /-- the folders whose models were asked for -/
  consulted : List Path
  /-- the workers that have it in their queue -/
  queued : List String
  /-- the workers at work on it, each with what will come of its rule -/
  busy : List (String × Outcome RuleError)
  /-- the workers that are done with it -/
  finished : List String

/-- An engine and the events on their way through its workers. -/
structure Crowd where
  engine : Engine
  passages : List Passage

namespace Passage

/-- The event stands in the queue of every worker. -/
def opening (seals : String → Seal) (e : VesselEvent) (en : Engine) : Passage :=
  ⟨seals, e, [], [], en.workers.map (·.1), [], []⟩

/-- The event before the engine as it is now. -/
def facing (en : Engine) (p : Passage) : Broadcast :=
  ⟨⟨en, p.alerts, p.consulted⟩, p.queued, p.busy, p.finished⟩

/-- The event after a move. -/
def moved (b : Broadcast) (p : Passage) : Passage :=
  ⟨p.seals, p.event, b.done.alerts, b.done.consulted, b.queued, b.busy, b.finished⟩

/-- All workers are done with the event. -/
def Done (p : Passage) : Prop := p.queued = [] ∧ p.busy = []

end Passage

namespace Crowd

/-- What is evaluated. -/
def events (c : Crowd) : List ((String → Seal) × VesselEvent) :=
  c.passages.map fun p => (p.seals, p.event)

/-- One worker makes one move with one of the events. -/
inductive Move (models : Models) : Crowd → Crowd → Prop
  | mk {en : Engine} {before : List Passage} {p : Passage} {after : List Passage} {b : Broadcast}
      (step : Broadcast.Step models p.seals p.event (p.facing en) b) :
      Move models ⟨en, before ++ p :: after⟩ ⟨b.done.engine, before ++ p.moved b :: after⟩

/-- A worker makes a move, or a further event comes in; the first one starts the workers. -/
inductive Step (models : Models) : Crowd → Crowd → Prop
  | enter (seals : String → Seal) (e : VesselEvent) (c : Crowd) :
      Step models c ⟨c.engine.start, c.passages ++ [Passage.opening seals e c.engine.start]⟩
  | move {c c' : Crowd} (move : Move models c c') : Step models c c'

end Crowd

/-! ## Every moment -/

section Moments

variable {models : Models} {en : Engine}

variable (models en) in
/-- What is true of an event on its way through the workers of `en` at every moment. -/
structure Passage.Sound (p : Passage) : Prop where
  /-- each worker has the event in its queue, at hand, or behind it -/
  workers : (p.finished ++ (p.busy.map (·.1) ++ p.queued)).Perm (en.workers.map (·.1))
  busy : ∀ q ∈ p.busy, ∃ w, en.workers.lookup q.1 = some w ∧
    q.2 = en.reaction models p.event w q.1
  alerts : p.alerts = p.finished.flatMap (en.pushes models p.seals p.event)

variable (models en) in
/-- What is true at every moment when `en` is the engine once it has been started. -/
structure Crowd.Sound (c : Crowd) : Prop where
  wellFormed : c.engine.WellFormed
  rules : c.engine.rules = en.rules
  states : c.engine.states = en.states
  /-- the workers were started before the first event -/
  started : c.passages ≠ [] → c.engine.started = true
  passages : ∀ p ∈ c.passages, p.Sound models en

/-- Engines with the same rules have workers with the same rules. -/
theorem Engine.WellFormed.worker_of_rules {en' : Engine} (wf : en.WellFormed)
    (wf' : en'.WellFormed) (running : en.started = true) (rules : en'.rules = en.rules)
    {id : String} {w' : Worker} (found : en'.workers.lookup id = some w') :
    ∃ w, en.workers.lookup id = some w ∧ w.rule = w'.rule := by
  obtain ⟨hnamed, henabled⟩ := wf'.worker_rule found
  rw [rules] at hnamed
  have hid : w'.rule.id = id := Rule.id_of_named hnamed
  rw [← hid]
  exact wf.worker_of_enabled running (Rule.mem_of_named hnamed) henabled

theorem Engine.WellFormed.workerKeys_perm {en' : Engine} (wf : en.WellFormed)
    (wf' : en'.WellFormed) (running : en.started = true) (running' : en'.started = true)
    (rules : en'.rules = en.rules) :
    (en'.workers.map (·.1)).Perm (en.workers.map (·.1)) := by
  refine (List.perm_ext_iff_of_nodup wf'.workerKeys wf.workerKeys).mpr fun id => ?_
  rw [wf.mem_workerKeys running, wf'.mem_workerKeys running', rules]

theorem Engine.memory_eq_of_states {en' : Engine} (states : en'.states = en.states)
    (id : String) : en'.memory id = en.memory id := by
  simp only [memory, state?, states]

/-- The worker of a rule that stops its worker pushes nothing. -/
theorem Engine.pushes_of_halts {seals : String → Seal} {e : VesselEvent} {id : String} {w : Worker}
    (found : en.workers.lookup id = some w) (halts : w.rule.Halts) :
    en.pushes models seals e id = [] := by
  obtain ⟨word, hword⟩ := halts.evaluate models e (en.memory id)
  simp [pushes, found, reaction, hword, Outcome.isMatch]

section Facing

variable {en' : Engine} {p : Passage} {b : Broadcast}

-- `en'` is what has become of the engine `en` by now.
variable (wf : en.WellFormed) (running : en.started = true) (wf' : en'.WellFormed)
  (rules : en'.rules = en.rules) (states : en'.states = en.states)

include wf running wf' rules states

/-- A worker that has the event at hand hands in what would come of its rule now. -/
theorem Passage.Sound.outcome_eq (sound : p.Sound models en) {id : String}
    {o : Outcome RuleError} (member : (id, o) ∈ p.busy) {w' : Worker}
    (found : en'.workers.lookup id = some w') :
    o = en'.reaction models p.event w' id ∧
      ∃ w, en.workers.lookup id = some w ∧ w.rule = w'.rule ∧
        o = en.reaction models p.event w id := by
  obtain ⟨w, hfound, hrule⟩ := wf.worker_of_rules wf' running rules found
  obtain ⟨w₀, hfound₀, ho⟩ := sound.busy (id, o) member
  obtain rfl : w = w₀ := Option.some.inj (hfound.symm.trans hfound₀)
  refine ⟨?_, w, hfound, hrule, ho⟩
  rw [Engine.reaction, ← hrule, Engine.memory_eq_of_states states]
  exact ho

/-- The engine after a move is the one before with some workers done with the event. -/
theorem Passage.Sound.engine_of_step (sound : p.Sound models en)
    (step : Broadcast.Step models p.seals p.event (p.facing en') b) :
    ∃ finished, b.done.engine = en'.progressed models p.event finished := by
  obtain ⟨seals, e, alerts, consulted, queued, busy, finished⟩ := p
  have hnil : en' = en'.progressed models e [] := (Engine.progressed_nil en').symm
  cases step with
  | refuse => exact ⟨[], hnil⟩
  | receive => exact ⟨[], hnil⟩
  | @finish _ _ before id o after _ w' found =>
    have member : (id, o) ∈ before ++ (id, o) :: after := by simp
    obtain ⟨hnow, -⟩ := sound.outcome_eq wf running wf' rules states member found
    have hsame : (⟨en', alerts, consulted⟩ : Evaluation).engine = en'.progressed models e [] := hnil
    exact ⟨[] ++ [id], hnow ▸ wf'.absorb_progressed found seals hsame⟩

/-- One move of one worker keeps what is true of the event. -/
theorem Passage.Sound.step (sound : p.Sound models en)
    (step : Broadcast.Step models p.seals p.event (p.facing en') b) :
    (p.moved b).Sound models en := by
  have hworkers := step.workers_perm.trans sound.workers
  obtain ⟨seals, e, alerts, consulted, queued, busy, finished⟩ := p
  have halerts := sound.alerts
  cases step with
  | @refuse _ before id after _ _ w' found exited =>
    obtain ⟨w, hfound, hrule⟩ := wf.worker_of_rules wf' running rules found
    -- Its rule stops every worker, also one that has not exited yet.
    have hhalts : w.rule.Halts := hrule ▸ wf'.halted id w' found exited
    exact
      { workers := hworkers
        busy := sound.busy
        alerts := by
          simp only [Passage.moved, List.flatMap_append] at halerts ⊢
          rw [← halerts]
          simp [Engine.pushes_of_halts hfound hhalts] }
  | @receive _ before id after _ _ w' found live =>
    obtain ⟨w, hfound, hrule⟩ := wf.worker_of_rules wf' running rules found
    exact
      { workers := hworkers
        busy := by
          intro q hq
          rcases List.mem_append.mp hq with hq | hq
          · exact sound.busy q hq
          · rw [List.mem_singleton] at hq
            subst hq
            refine ⟨w, hfound, ?_⟩
            rw [Engine.memory_eq_of_states states, Engine.reaction, hrule]
            rfl
        alerts := halerts }
  | @finish _ _ before id o after _ w' found =>
    have member : (id, o) ∈ before ++ (id, o) :: after := by simp
    obtain ⟨-, w, hfound, hrule, ho⟩ := sound.outcome_eq wf running wf' rules states member found
    exact
      { workers := hworkers
        busy := by
          intro q hq
          refine sound.busy q ?_
          rcases List.mem_append.mp hq with hq | hq
          · exact List.mem_append_left _ hq
          · exact List.mem_append_right _ (List.mem_cons_of_mem _ hq)
        alerts := by
          simp only [Passage.moved, List.flatMap_append] at halerts ⊢
          rw [← halerts]
          simp [Evaluation.absorb, Engine.pushes, hfound, ho, hrule] }

end Facing

namespace Crowd.Sound

variable {c c' : Crowd}

theorem move (wf : en.WellFormed) (running : en.started = true)
    (momentary : ∀ r ∈ en.rules, r.IsMomentary) (sound : c.Sound models en)
    (move : Move models c c') : c'.Sound models en := by
  cases move with
  | @mk en' before p after b step =>
    have hp := sound.passages p (by simp)
    obtain ⟨finished, hengine⟩ :=
      hp.engine_of_step wf running sound.wellFormed sound.rules sound.states step
    have hsound := hp.step wf running sound.wellFormed sound.rules sound.states step
    have momentary' : ∀ r ∈ en'.rules, r.IsMomentary := fun r hr =>
      momentary r (sound.rules ▸ hr)
    rw [hengine]
    exact
      { wellFormed := sound.wellFormed.progressed finished
        rules := sound.rules
        states := (sound.wellFormed.states_progressed momentary' finished).trans sound.states
        started := fun _ => sound.started (by simp)
        passages := by
          intro q hq
          rcases List.mem_append.mp hq with hq | hq
          · exact sound.passages q (List.mem_append_left _ hq)
          · rcases List.mem_cons.mp hq with rfl | hq
            · exact hsound
            · exact sound.passages q (List.mem_append_right _ (List.mem_cons_of_mem _ hq)) }

theorem enter (wf : en.WellFormed) (running : en.started = true) (sound : c.Sound models en)
    (seals : String → Seal) (e : VesselEvent) :
    (⟨c.engine.start, c.passages ++ [Passage.opening seals e c.engine.start]⟩ : Crowd).Sound
      models en where
  wellFormed := sound.wellFormed.start
  rules := (Engine.rules_start _).trans sound.rules
  states := (Engine.states_start _).trans sound.states
  started := fun _ => Engine.started_start _
  passages := by
    intro q hq
    rcases List.mem_append.mp hq with hq | hq
    · exact sound.passages q hq
    · rw [List.mem_singleton] at hq
      subst hq
      exact
        { workers := wf.workerKeys_perm sound.wellFormed.start running (Engine.started_start _)
            ((Engine.rules_start _).trans sound.rules)
          busy := fun _ h => by cases h
          alerts := rfl }

theorem steps (wf : en.WellFormed) (running : en.started = true)
    (momentary : ∀ r ∈ en.rules, r.IsMomentary) (sound : c.Sound models en)
    (steps : ReflTransGen (Step models) c c') : c'.Sound models en := by
  induction steps with
  | refl => exact sound
  | tail _ step ih =>
    cases step with
    | enter seals e => exact ih.enter wf running seals e
    | move move => exact ih.move wf running momentary move

end Crowd.Sound

/-- What an event has come to when all workers are done with it. -/
theorem Passage.Sound.answer (wf : en.WellFormed) (running : en.started = true)
    (momentary : ∀ r ∈ en.rules, r.IsMomentary) {p : Passage} (sound : p.Sound models en)
    (done : p.Done) :
    resolveExclusive en.rules p.alerts = Engine.alone models en.rules p.seals p.event := by
  have hperm : p.finished.Perm (en.workers.map (·.1)) := by
    simpa [done.1, done.2] using sound.workers
  have halerts : p.alerts.Perm ((en.matching models p.event).map fun r =>
      Alert.raised (p.seals r.id) r p.event) := by
    rw [sound.alerts]
    exact wf.pushed_perm running hperm
  rw [wf.alone_eq momentary]
  exact resolveExclusive_raised wf.distinct (fun _ => rfl) halerts

/-! ## No order of moves gets stuck -/

theorem Crowd.Move.events_eq {c c' : Crowd} (move : Move models c c') : c'.events = c.events := by
  cases move with
  | mk step => simp [events, Passage.moved]

/-- How many moves are left. -/
def Crowd.weight (c : Crowd) : Nat :=
  2 * (c.passages.flatMap (·.queued)).length + (c.passages.flatMap (·.busy)).length

/-- Each move leaves fewer of them. -/
theorem Crowd.Move.weight_lt {c c' : Crowd} (move : Move models c c') : c'.weight < c.weight := by
  cases move with
  | @mk en' before p after b step =>
    have hlt : 2 * b.queued.length + b.busy.length < 2 * p.queued.length + p.busy.length :=
      step.weight_lt
    simp only [weight, List.flatMap_append, List.flatMap_cons, List.length_append, Passage.moved]
    omega

/-- As long as some worker is not done with an event, some worker can move. -/
theorem Crowd.Sound.exists_move (wf : en.WellFormed) {c : Crowd} (sound : c.Sound models en)
    {p : Passage} (member : p ∈ c.passages) (pending : ¬ p.Done) : ∃ c', Move models c c' := by
  obtain ⟨en', passages⟩ := c
  obtain ⟨before, after, rfl⟩ := List.append_of_mem member
  have running : en'.started = true := sound.started (by simp)
  have hp := sound.passages p member
  -- Every worker that has the event is still there.
  have hworker : ∀ id w, en.workers.lookup id = some w →
      ∃ w', en'.workers.lookup id = some w' := fun id w found => by
    obtain ⟨w', found', -⟩ := sound.wellFormed.worker_of_rules wf running sound.rules.symm found
    exact ⟨w', found'⟩
  have hmove : ∃ b, Broadcast.Step models p.seals p.event (p.facing en') b := by
    obtain ⟨seals, e, alerts, consulted, queued, busy, finished⟩ := p
    cases busy with
    | cons q rest =>
      obtain ⟨id, o⟩ := q
      obtain ⟨w, found, -⟩ := hp.busy (id, o) (List.mem_cons_self ..)
      obtain ⟨w', found'⟩ := hworker id w found
      have hfinish : Broadcast.Step models seals e
          ⟨⟨en', alerts, consulted⟩, queued, [] ++ (id, o) :: rest, finished⟩
          ⟨Evaluation.absorb seals e id w' o ⟨en', alerts, consulted⟩, queued, [] ++ rest,
            finished ++ [id]⟩ := .finish found'
      exact ⟨_, hfinish⟩
    | nil =>
      cases queued with
      | nil => exact absurd ⟨rfl, rfl⟩ pending
      | cons id rest =>
        have hkey : id ∈ en.workers.map (·.1) := hp.workers.mem_iff.mp (by simp)
        obtain ⟨w, found⟩ := Option.isSome_iff_exists.mp (Assoc.lookup_isSome_iff_mem_keys.mpr hkey)
        obtain ⟨w', found'⟩ := hworker id w found
        cases exited : w'.exited with
        | true =>
          have hrefuse : Broadcast.Step models seals e
              ⟨⟨en', alerts, consulted⟩, [] ++ id :: rest, [], finished⟩
              ⟨⟨en', alerts, consulted⟩, [] ++ rest, [], finished ++ [id]⟩ := .refuse found' exited
          exact ⟨_, hrefuse⟩
        | false =>
          have hreceive : Broadcast.Step models seals e
              ⟨⟨en', alerts, consulted⟩, [] ++ id :: rest, [], finished⟩
              ⟨⟨en', alerts, consulted⟩, [] ++ rest,
                [] ++ [(id, w'.rule.evaluate models e (en'.memory id))], finished⟩ :=
            .receive found' exited
          exact ⟨_, hreceive⟩
  obtain ⟨b, step⟩ := hmove
  exact ⟨_, .mk step⟩

/-- Whatever the workers have done so far, they can get to an end with all events. -/
theorem Crowd.Sound.completes (wf : en.WellFormed) (running : en.started = true)
    (momentary : ∀ r ∈ en.rules, r.IsMomentary) {c : Crowd} (sound : c.Sound models en) :
    ∃ c', ReflTransGen (Move models) c c' ∧ c'.events = c.events ∧ ∀ p ∈ c'.passages, p.Done := by
  induction hweight : c.weight using Nat.strongRecOn generalizing c with
  | ind n ih =>
    by_cases pending : ∃ p ∈ c.passages, ¬ p.Done
    · obtain ⟨p, member, hp⟩ := pending
      obtain ⟨c', move⟩ := sound.exists_move wf member hp
      obtain ⟨c'', moves, hevents, hdone⟩ :=
        ih c'.weight (hweight ▸ move.weight_lt) (sound.move wf running momentary move) rfl
      exact ⟨c'', .head move moves, hevents.trans move.events_eq, hdone⟩
    · exact ⟨c, .refl, rfl, fun p member => by_contra fun hp => pending ⟨p, member, hp⟩⟩

end Moments

/-! ## No event leaves a trace -/

namespace Engine

/-- In an engine whose rules look at the event at hand only, each event is answered as if it were
the only one, and all memories stay as they are, so that those of a new engine stay empty.  This
holds of events one after another, whatever they are, and at every moment of events at the same
time, the workers taking each of them when they like; and these can always be brought to an end. -/
theorem Reachable.answers_alone {en : Engine} (reachable : en.Reachable)
    (momentary : ∀ r ∈ en.rules, r.IsMomentary) (models : Models) :
    (∀ rules, (Engine.ofRules rules).Blank) ∧
    (∀ events, (∃ answers later, en.EvaluatesInTurn models events answers later) ∧
      ∀ answers later, en.EvaluatesInTurn models events answers later →
        answers = events.map (fun p => alone models en.rules p.1 p.2) ∧
          later.states = en.states) ∧
    ∀ crowd, ReflTransGen (Crowd.Step models) ⟨en, []⟩ crowd →
      crowd.engine.states = en.states ∧
      (∀ p ∈ crowd.passages, p.Done →
        resolveExclusive en.rules p.alerts = alone models en.rules p.seals p.event) ∧
      ∃ crowd', ReflTransGen (Crowd.Move models) crowd crowd' ∧ crowd'.events = crowd.events ∧
        ∀ p ∈ crowd'.passages, p.Done := by
  have wf := reachable.wellFormed
  have running : en.start.started = true := started_start en
  have momentary' : ∀ r ∈ en.start.rules, r.IsMomentary := by rwa [rules_start]
  refine ⟨blank_ofRules, fun events => ⟨wf.evaluatesInTurn events, ?_⟩, ?_⟩
  · intro answers later evaluates
    exact evaluates.answers_eq wf momentary
  · intro crowd steps
    have hinitial : (⟨en, []⟩ : Crowd).Sound models en.start :=
      { wellFormed := wf
        rules := (rules_start en).symm
        states := (states_start en).symm
        started := fun h => absurd rfl h
        passages := fun _ h => by cases h }
    have hsound := hinitial.steps wf.start running momentary' steps
    refine ⟨hsound.states.trans (states_start en), ?_, hsound.completes wf.start running momentary'⟩
    intro p member done
    have hanswer := (hsound.passages p member).answer wf.start running momentary' done
    rwa [rules_start] at hanswer

/-- An event that is met twice is answered twice, in turn and at the same time, though it has ended
one worker and cannot be evaluated by another. -/
theorem answers_alone_remark :
    let remarked : Condition := .value ⟨"remark", .equal, .text "adrift"⟩
    let unread : Rule :=
      { sighting "c" 3 true true with combineLogic := .unsupported "xor", conditions := [remarked] }
    let broken : Rule :=
      { sighting "b" 2 true false with conditions := [.spatial ⟨.inCircle, [], none, 0, 0, none⟩] }
    let sound : Rule := { sighting "a" 1 true false with conditions := [remarked] }
    let en := ofRules [unread, broken, sound]
    let models : Models := fun _ => none
    let adrift : (String → Seal) × VesselEvent :=
      (fun _ => default,
        { (default : VesselEvent) with attributes := [("remark", .text "adrift")] })
    (∃ answers later, en.EvaluatesInTurn models [adrift, adrift] answers later ∧
      answers.map (·.map (·.ruleId)) = [["a"], ["a"]]) ∧
    ∃ crowd, ReflTransGen (Crowd.Step models) ⟨en, []⟩ crowd ∧ crowd.events = [adrift, adrift] ∧
      ∀ p ∈ crowd.passages, (resolveExclusive en.rules p.alerts).map (·.ruleId) = ["a"] := by
  intro remarked unread broken sound en models adrift
  have reachable : en.Reachable := .ofRules _
  have hrules : en.rules = [unread, broken, sound] := by
    refine Rule.byPriority_of_descending ?_
    simp [Rule.Descending, Rule.distinct, Assoc.ofList, Assoc.put, sighting, unread, broken, sound]
  have momentary : ∀ r ∈ en.rules, r.IsMomentary := by
    rw [hrules]
    simp [Rule.IsMomentary, Condition.IsMomentary, sighting, unread, broken, sound, remarked]
  have halone : (alone models en.rules adrift.1 adrift.2).map (·.ruleId) = ["a"] := by
    rw [reachable.wellFormed.alone_eq momentary, matching, hrules]
    decide +kernel
  obtain ⟨-, inTurn, together⟩ := reachable.answers_alone momentary models
  obtain ⟨⟨answers, later, evaluates⟩, hanswers⟩ := inTurn [adrift, adrift]
  refine ⟨⟨answers, later, evaluates, ?_⟩, ?_⟩
  · rw [(hanswers answers later evaluates).1]
    simp [halone]
  · have first : Crowd.Step models ⟨en, []⟩ _ := .enter adrift.1 adrift.2 ⟨en, []⟩
    have both := (ReflTransGen.single first).tail (.enter adrift.1 adrift.2 _)
    obtain ⟨-, -, crowd, moves, hevents, hdone⟩ := together _ both
    have steps := both.trans (ReflTransGen.mono (fun _ _ => Crowd.Step.move) _ _ moves)
    obtain ⟨-, hanswer, -⟩ := together crowd steps
    refine ⟨crowd, steps, hevents, fun p member => ?_⟩
    have hp : (p.seals, p.event) ∈ [adrift, adrift] := by
      have hmem : (p.seals, p.event) ∈ crowd.events := List.mem_map_of_mem member
      rwa [hevents] at hmem
    have hadrift : (p.seals, p.event) = adrift := by simpa using hp
    obtain ⟨hseals, hevent⟩ := Prod.ext_iff.mp hadrift
    rw [hanswer p member (hdone p member), show p.seals = adrift.1 from hseals,
      show p.event = adrift.2 from hevent, halone]

end Engine

end VesselWatch
