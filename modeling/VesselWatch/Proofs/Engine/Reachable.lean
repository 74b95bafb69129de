/-
  Proofs/Engine/Reachable.lean --- the engines that operations lead to, and what they
  say about an event.

  `Reachable` takes in every engine that some sequence of operations leads to, the
  workers taking each event in whatever order they like.  All of them are well formed
  (`Reachable.wellFormed`), and what they say about an event is what one reads off the
  rules and memories, rule by rule (`matching`).
-/
import VesselWatch.Proofs.Engine.Broadcast
import VesselWatch.Proofs.Engine.Exclusive
import VesselWatch.Proofs.Engine.Update

set_option autoImplicit false

namespace VesselWatch

namespace Engine

open Rule Relation

/-- What an event may come to in an engine: the workers are started, each takes the event and
finishes with it, in any order, and the alerts are resolved. -/
def Evaluates (models : Models) (seals : String → Seal) (e : VesselEvent) (en : Engine)
    (done : Evaluation) : Prop :=
  ∃ pushed, en.start.Delivers models seals e pushed ∧
    done = { pushed with alerts := resolveExclusive en.rules pushed.alerts }

/-- The engines that operations lead to. -/
inductive Reachable : Engine → Prop
  | empty : Reachable Engine.empty
  | ofRules (rules : List Rule) : Reachable (ofRules rules)
  | updateAll {en : Engine} (rules : List Rule) :
      Reachable en → Reachable (en.updateAll rules).1
  | updateOne {en : Engine} (r : Rule) : Reachable en → Reachable (en.updateOne r).1
  | evaluate {en : Engine} {models : Models} {seals : String → Seal} {e : VesselEvent}
      {done : Evaluation} : Reachable en → en.Evaluates models seals e done →
      Reachable done.engine
  | shutdown {en : Engine} : Reachable en → Reachable en.shutdown

variable {models : Models} {seals : String → Seal} {e : VesselEvent} {en : Engine}

/-! ## Every engine is well formed -/

theorem Evaluates.engine_eq (wf : en.WellFormed) {done : Evaluation}
    (evaluates : en.Evaluates models seals e done) :
    done.engine = en.start.progressed models e (en.start.workers.map (·.1)) := by
  obtain ⟨pushed, delivers, rfl⟩ := evaluates
  exact delivers.engine_eq wf.start

theorem Evaluates.rules_eq (wf : en.WellFormed) {done : Evaluation}
    (evaluates : en.Evaluates models seals e done) : done.engine.rules = en.rules := by
  rw [evaluates.engine_eq wf]
  exact rules_start en

theorem Evaluates.wellFormed (wf : en.WellFormed) {done : Evaluation}
    (evaluates : en.Evaluates models seals e done) : done.engine.WellFormed := by
  rw [evaluates.engine_eq wf]
  exact wf.start.progressed _

/-- The workers may take the event as they stand. -/
theorem WellFormed.evaluates (wf : en.WellFormed) :
    en.Evaluates models seals e (en.evaluate models seals e) := by
  refine ⟨_, delivers_foldl_visit wf.start (List.Perm.refl _), ?_⟩
  simp [Engine.evaluate, evaluateIn]

theorem Reachable.wellFormed (reachable : en.Reachable) : en.WellFormed := by
  induction reachable with
  | empty => exact wellFormed_empty
  | ofRules rules => exact wellFormed_ofRules rules
  | updateAll rules _ wf => exact wf.updateAll rules
  | updateOne r _ wf => exact wf.upsert r Diff.none
  | evaluate _ evaluates wf => exact evaluates.wellFormed wf
  | shutdown _ wf => exact wf.shutdown

/-- In every engine that operations lead to, the rules, the memories and the workers belong
together. -/
theorem Reachable.tables_agree (reachable : en.Reachable) :
    (en.rules.map (·.id)).Nodup ∧
    en.rules.Pairwise (fun a b => b.priority ≤ a.priority) ∧
    (en.states.map (·.1)).Nodup ∧
    (∀ id, id ∈ en.states.map (·.1) ↔ id ∈ en.rules.map (·.id)) ∧
    (∀ p ∈ en.states, p.2.ruleId = p.1) ∧
    (en.started = false → en.workers = []) ∧
    (en.workers.map (·.1)).Nodup ∧
    (en.started = true → ∀ id, id ∈ en.workers.map (·.1) ↔
      id ∈ (en.rules.filter (·.enabled)).map (·.id)) ∧
    ∀ p ∈ en.workers, p.2.rule ∈ en.rules ∧ p.2.rule.id = p.1 := by
  have wf := reachable.wellFormed
  refine ⟨wf.distinct, wf.descending, wf.stateKeys, ?_, ?_, wf.workers_eq_nil, wf.workerKeys,
    fun running => wf.mem_workerKeys running, ?_⟩
  · intro id
    rw [← named_isSome_iff, ← wf.remembered id, ← Assoc.lookup_isSome_iff_mem_keys]
    rfl
  · intro p member
    exact wf.owned p.1 p.2 ((Assoc.lookup_eq_some_iff_mem wf.stateKeys).mpr member)
  · intro p member
    have found := (Assoc.lookup_eq_some_iff_mem wf.workerKeys).mpr member
    obtain ⟨hnamed, -⟩ := wf.worker_rule found
    exact ⟨mem_of_named hnamed, id_of_named hnamed⟩

/-- A rule that is met at first sight. -/
def sighting (id : String) (priority : Int) (enabled exclusive : Bool) : Rule :=
  { id, description := "", priority, enabled, exclusive, combineLogic := .all
    conditions := [.temporal ⟨.continuousFor, 0⟩]
    action := ⟨id, "low", []⟩ }

theorem rules_ofRules_sighting (enabled : Bool) :
    (Engine.ofRules [sighting "b" 2 true true, sighting "a" 1 enabled false]).rules =
      [sighting "b" 2 true true, sighting "a" 1 enabled false] := by
  refine byPriority_of_descending ?_
  simp [Descending, Rule.distinct, Assoc.ofList, Assoc.put, sighting]

/-- After an event the enabled one of two rules has a worker. -/
theorem tables_agree_sighting :
    let en := Engine.ofRules [sighting "b" 2 true true, sighting "a" 1 false false]
    let later := (en.evaluate (fun _ => none) (fun _ => default) default).engine
    later.Reachable ∧ "b" ∈ later.workers.map (·.1) ∧ "a" ∉ later.workers.map (·.1) := by
  intro en later
  have wf : en.WellFormed := wellFormed_ofRules _
  have reachable : later.Reachable := (Reachable.ofRules _).evaluate wf.evaluates
  have hlater : later = en.start.progressed _ _ _ := wf.evaluates.engine_eq wf
  have hrunning : later.started = true := by
    rw [hlater]
    exact started_start en
  have hrules : later.rules = [sighting "b" 2 true true, sighting "a" 1 false false] := by
    rw [hlater]
    exact (rules_start en).trans (rules_ofRules_sighting false)
  obtain ⟨-, -, -, -, -, -, -, hworkers, -⟩ := reachable.tables_agree
  refine ⟨reachable, ?_, ?_⟩
  · rw [hworkers hrunning, hrules]
    decide
  · rw [hworkers hrunning, hrules]
    decide

/-! ## What an engine says about an event -/

/-- The rules that match an event, each in view of its own memory. -/
def matching (models : Models) (e : VesselEvent) (en : Engine) : List Rule :=
  en.rules.filter fun r => r.enabled && (r.evaluate models e (en.memory r.id)).isMatch

/-- A rule matches if it is enabled and comes to the verdict that it does. -/
theorem matching_eq_filter (models : Models) (e : VesselEvent) (en : Engine) :
    en.matching models e = en.rules.filter fun r =>
      r.enabled && decide ((r.evaluate models e (en.memory r.id)).verdict = .ok true) := by
  refine List.filter_congr fun r _ => congrArg (r.enabled && ·) ?_
  unfold Outcome.isMatch
  cases (r.evaluate models e (en.memory r.id)).verdict with
  | ok b => cases b <;> rfl
  | error err => rfl

/-- Where a rule matches just if `p` says so, the alerts pushed are those of the rules that `p`
picks. -/
theorem flatMap_pushed {rs : List Rule} {pushed : Rule → List Alert} {p : Rule → Bool}
    {raise : Rule → Alert} (h : ∀ r ∈ rs, pushed r = if p r then [raise r] else []) :
    rs.flatMap pushed = (rs.filter p).map raise := by
  induction rs with
  | nil => rfl
  | cons r rest ih =>
    rw [List.flatMap_cons, h r (List.mem_cons_self ..),
      ih fun r' hr' => h r' (List.mem_cons_of_mem _ hr')]
    by_cases hp : p r
    · simp [hp]
    · simp [hp]

theorem WellFormed.pushes_rule (wf : en.WellFormed) (running : en.started = true) {r : Rule}
    (member : r ∈ en.rules) (enabled : r.enabled = true) :
    en.pushes models seals e r.id =
      if (r.evaluate models e (en.memory r.id)).isMatch then [Alert.raised (seals r.id) r e]
      else [] := by
  obtain ⟨w, found, rfl⟩ := wf.worker_of_enabled running member enabled
  unfold pushes
  rw [found]
  rfl

/-- Whatever order the workers finish in, the alerts are those of the matching rules. -/
theorem WellFormed.pushed_perm (wf : en.WellFormed) (running : en.started = true)
    {finished : List String} (perm : finished.Perm (en.workers.map (·.1))) :
    (finished.flatMap (en.pushes models seals e)).Perm
      ((en.matching models e).map fun r => Alert.raised (seals r.id) r e) := by
  have hkeys : (en.workers.map (·.1)).Perm ((en.rules.filter (·.enabled)).map (·.id)) :=
    (List.perm_ext_iff_of_nodup wf.workerKeys (nodup_ids_filter _ wf.distinct)).mpr
      (wf.mem_workerKeys running)
  have hmatching : en.matching models e = (en.rules.filter (·.enabled)).filter
      fun r => (r.evaluate models e (en.memory r.id)).isMatch := by
    rw [List.filter_filter]
    exact List.filter_congr fun r _ => Bool.and_comm _ _
  refine ((perm.trans hkeys).flatMap_right _).trans (List.Perm.of_eq ?_)
  rw [List.flatMap_map, hmatching]
  refine flatMap_pushed fun r hr => ?_
  obtain ⟨member, enabled⟩ := List.mem_filter.mp hr
  exact wf.pushes_rule running member enabled

theorem WellFormed.state?_progressed_rule (wf : en.WellFormed) (running : en.started = true)
    {r : Rule} (member : r ∈ en.rules) :
    (en.progressed models e (en.workers.map (·.1))).state? r.id =
      some (if r.enabled then (r.evaluate models e (en.memory r.id)).state
        else en.memory r.id) := by
  have hactive : named r.id en.rules = some r :=
    (named_eq_some_iff wf.distinct).mpr ⟨member, rfl⟩
  rw [state?_progressed, wf.state?_eq_memory (by rw [hactive]; rfl), Option.map_some]
  cases enabled : r.enabled with
  | true =>
    obtain ⟨w, found, hrule⟩ := wf.worker_of_enabled running member enabled
    have hkey : r.id ∈ en.workers.map (·.1) := by
      rw [← Assoc.lookup_isSome_iff_mem_keys, found]
      rfl
    simp only [if_pos hkey, found, Option.map_some, Option.getD_some, if_true, reaction, hrule]
  | false =>
    have hkey : r.id ∉ en.workers.map (·.1) := by
      intro h
      obtain ⟨r', hr', hid⟩ := List.mem_map.mp ((wf.mem_workerKeys running _).mp h)
      obtain ⟨member', enabled'⟩ := List.mem_filter.mp hr'
      have hsame : r' = r := List.inj_on_of_nodup_map wf.distinct member' member hid
      rw [hsame, enabled] at enabled'
      cases enabled'
    simp only [if_neg hkey, Bool.false_eq_true, if_false]

/-- Whatever order the workers finish in, the alerts pushed are those of the matching rules. -/
theorem Delivers.alerts_perm (wf : en.WellFormed) {done : Evaluation}
    (delivers : en.start.Delivers models seals e done) :
    done.alerts.Perm ((en.matching models e).map fun r => Alert.raised (seals r.id) r e) := by
  obtain ⟨finished, perm, halerts⟩ := delivers.alerts_eq wf.start
  have hmatching : en.start.matching models e = en.matching models e := by
    simp [matching]
  rw [halerts, ← hmatching]
  exact wf.start.pushed_perm (started_start en) perm

/-- What is left of the alerts is those of the surviving rules among the matching ones. -/
theorem Evaluates.alerts_eq (wf : en.WellFormed) {done : Evaluation}
    (evaluates : en.Evaluates models seals e done) :
    done.alerts =
      (survivors (en.matching models e)).map fun r => Alert.raised (seals r.id) r e := by
  obtain ⟨pushed, delivers, rfl⟩ := evaluates
  exact resolveExclusive_raised wf.distinct (fun _ => rfl) (delivers.alerts_perm wf)

theorem Delivers.rules_eq (wf : en.WellFormed) {done : Evaluation}
    (delivers : en.start.Delivers models seals e done) : done.engine.rules = en.rules := by
  rw [delivers.engine_eq wf.start]
  exact rules_start en

/-- An enabled rule has the memory that it left, a rule that is not enabled what it had. -/
theorem Delivers.state?_rule (wf : en.WellFormed) {done : Evaluation}
    (delivers : en.start.Delivers models seals e done) {r : Rule} (member : r ∈ en.rules) :
    done.engine.state? r.id =
      some (if r.enabled then (r.evaluate models e (en.memory r.id)).state
        else en.memory r.id) := by
  have member' : r ∈ en.start.rules := by
    rw [rules_start]
    exact member
  rw [delivers.engine_eq wf.start, wf.start.state?_progressed_rule (started_start en) member',
    memory_start]

theorem Delivers.state?_none (wf : en.WellFormed) {done : Evaluation}
    (delivers : en.start.Delivers models seals e done) {id : String}
    (absent : named id en.rules = none) : done.engine.state? id = none := by
  have hnone : en.start.state? id = none := by
    refine wf.start.state?_eq_none ?_
    rw [rules_start]
    exact absent
  rw [delivers.engine_eq wf.start, state?_progressed, hnone, Option.map_none]

/-- An event always gets through, and whatever order the workers receive it and finish in, the
answer is the same.  There is one alert for each enabled rule that comes to the verdict that it
matches, in the order of the rules, or that of the first exclusive one among them alone; it has its
kind, gravity and receivers from the rule, and says which event of which vessel it is about.  Each
enabled rule then has the memory that it left, each other rule that which it had. -/
theorem Reachable.evaluates_matching (reachable : en.Reachable) (models : Models)
    (seals : String → Seal) (e : VesselEvent) :
    WellFounded (fun b' b => Broadcast.Step models seals e b b') ∧
    (∀ b, ReflTransGen (Broadcast.Step models seals e) (Broadcast.opening en.start) b →
      ∃ done finished, ReflTransGen (Broadcast.Step models seals e) b ⟨done, [], [], finished⟩) ∧
    en.Evaluates models seals e (en.evaluate models seals e) ∧
    ∀ done, en.Evaluates models seals e done →
      done.alerts =
        (survivors (en.rules.filter fun r => r.enabled &&
          decide ((r.evaluate models e (en.memory r.id)).verdict = .ok true))).map (fun r =>
            { id := (seals r.id).id
              ruleId := r.id
              alertType := r.action.alertType
              severity := r.action.severity
              entityId := e.vesselId
              eventId := e.id
              timestamp := (seals r.id).timestamp
              notify := r.action.notify }) ∧
      done.engine.rules = en.rules ∧
      ∀ r ∈ en.rules, en.state? r.id = some (en.memory r.id) ∧
        done.engine.state? r.id =
          some (if r.enabled then (r.evaluate models e (en.memory r.id)).state
            else en.memory r.id) := by
  have wf := reachable.wellFormed
  refine ⟨Broadcast.wellFounded_step, ?_, wf.evaluates, ?_⟩
  · intro b steps
    exact (Broadcast.sound_opening.steps wf.start steps).completes wf.start
  · intro done evaluates
    refine ⟨?_, evaluates.rules_eq wf, ?_⟩
    · rw [← matching_eq_filter]
      exact evaluates.alerts_eq wf
    · intro r member
      have hactive : (named r.id en.rules).isSome := by
        rw [named_isSome_iff]
        exact List.mem_map_of_mem member
      obtain ⟨pushed, delivers, rfl⟩ := evaluates
      exact ⟨wf.state?_eq_memory hactive, delivers.state?_rule wf member⟩

/-- Of two rules that match, the exclusive one is heard, with all that its alert says; the other
one has met the vessel all the same. -/
theorem evaluates_matching_sighting :
    let loud : Rule := { sighting "b" 2 true true with action := ⟨"SEEN", "high", ["ops", "log"]⟩ }
    let en := Engine.ofRules [loud, sighting "a" 1 true false]
    let e : VesselEvent :=
      { (default : VesselEvent) with id := "e", vesselId := "v", timestamp := ⟨19723, 0, 0⟩ }
    let done := en.evaluate (fun _ => none) (fun _ => ⟨⟨7⟩, ⟨19723, 60, 0⟩⟩) e
    en.Reachable ∧
      done.alerts =
        [{ id := ⟨7⟩, ruleId := "b", alertType := "SEEN", severity := "high", entityId := "v"
           eventId := "e", timestamp := ⟨19723, 60, 0⟩, notify := ["ops", "log"] }] ∧
      (done.engine.state? "a").map (·.temporalStart) = some [("v", ⟨19723, 0, 0⟩)] := by
  intro loud en e done
  have reachable : en.Reachable := Reachable.ofRules _
  have hrules : en.rules = [loud, sighting "a" 1 true false] := by
    refine byPriority_of_descending ?_
    simp [Descending, Rule.distinct, Assoc.ofList, Assoc.put, sighting, loud]
  obtain ⟨-, -, evaluates, answer⟩ :=
    reachable.evaluates_matching (fun _ => none) (fun _ => ⟨⟨7⟩, ⟨19723, 60, 0⟩⟩) e
  obtain ⟨halerts, -, hstates⟩ := answer _ evaluates
  have hquiet : sighting "a" 1 true false ∈ en.rules := by
    rw [hrules]
    exact List.mem_cons_of_mem _ (List.mem_singleton_self _)
  obtain ⟨-, hstate⟩ := hstates _ hquiet
  refine ⟨reachable, ?_, ?_⟩
  · rw [halerts, hrules]
    rfl
  · change done.engine.state? "a" = _ at hstate
    rw [hstate]
    rfl

end Engine

end VesselWatch
