/-
  Proofs/Engine/History.lean --- the memory of a rule and what has happened to it.

  WHAT CONCERNS A RULE.  Of all that is done with a detector, a rule hears of three
  things: that its definition is installed, that it is removed, and that an event has
  come (`timeline`).  That other rules are supplied along with it, or that its own
  definition is supplied once more, is no news.

  From the news alone follow its definition, its memory and its matches
  (`Run.keeps`): the memory is what the events have left that came since the rule last
  became active, each applied by the definition of its time (`Account.replay`).  So no
  other rule has a say in them.
-/
import VesselWatch.Engine.Detector
import VesselWatch.Proofs.Engine.Reachable
import VesselWatch.Proofs.Track.Library

set_option autoImplicit false

namespace VesselWatch

open Rule

/-! ## Runs -/

/-- What can be done with a detector. -/
inductive Operation where
  | updateAll (rules : List Rule)
  | updateOne (r : Rule)
  | evaluate (seals : String → Seal) (e : VesselEvent)
  | shutdown

namespace Detector

/-- One operation, the workers taking an event in any order.  Last come the alerts that an event
raises, as they were pushed. -/
inductive Step (source : Path → Option Track.Model) :
    Detector → Operation → Detector → List (List Alert) → Prop
  | updateAll {d : Detector} (rules : List Rule) :
      Step source d (.updateAll rules) (d.updateAll rules).1 []
  | updateOne {d : Detector} (r : Rule) : Step source d (.updateOne r) (d.updateOne r).1 []
  | evaluate {d : Detector} {seals : String → Seal} {e : VesselEvent} {done : Evaluation}
      (delivers : d.engine.start.Delivers (d.library.find source) seals e done) :
      Step source d (.evaluate seals e)
        ⟨done.engine, d.library.recordAll source done.consulted⟩ [done.alerts]
  | shutdown {d : Detector} : Step source d .shutdown { d with engine := d.engine.shutdown } []

/-- Operations in their order, with the alerts of each event. -/
inductive Run (source : Path → Option Track.Model) :
    Detector → List Operation → Detector → List (List Alert) → Prop
  | nil {d : Detector} : Run source d [] d []
  | cons {d d' d'' : Detector} {op : Operation} {ops : List Operation}
      {now later : List (List Alert)} :
      Step source d op d' now → Run source d' ops d'' later →
      Run source d (op :: ops) d'' (now ++ later)

end Detector

/-! ## News of a rule -/

/-- What happens to a rule. -/
inductive News where
  | installed (r : Rule)
  | removed
  | seen (e : VesselEvent)

/-- An active rule: its definition, and the events that it was applied to since it became active,
each with the definition of its time. -/
structure Account where
  definition : Rule
  log : List (Rule × VesselEvent)

namespace Account

/-- What the events of the log leave in an empty memory. -/
def replay (models : Models) (id : String) (a : Account) : RuleState :=
  a.log.foldl (fun s p => (p.1.evaluate models p.2 s).state) (RuleState.fresh id)

/-- The rule matches an event. -/
def isMatch (models : Models) (id : String) (e : VesselEvent) (a : Account) : Bool :=
  a.definition.enabled && (a.definition.evaluate models e (a.replay models id)).isMatch

/-- Puts an event into the log, if the rule is enabled. -/
def see (e : VesselEvent) (a : Account) : Account :=
  if a.definition.enabled then { a with log := a.log ++ [(a.definition, e)] } else a

/-- The account of a rule after the news.  A rule that is removed leaves nothing. -/
def hear : Option Account → News → Option Account
  | some a, .installed r => some { a with definition := r }
  | none, .installed r => some ⟨r, []⟩
  | _, .removed => none
  | acc, .seen e => acc.map (see e)

end Account

/-- What it means for a rule that a definition is supplied for it, or none. -/
def supply : Option Rule → Option Rule → List News
  | none, none => []
  | some _, none => [.removed]
  | none, some r => [.installed r]
  | some old, some r => if old.same r then [] else [.installed r]

namespace Operation

/-- What an operation means for the rule of an id. -/
def news (id : String) (now : Option Rule) : Operation → List News
  | .updateAll rules => supply now (lastNamed id rules)
  | .updateOne r => if r.id = id then supply now (some r) else []
  | .evaluate _ e => [.seen e]
  | .shutdown => []

end Operation

/-- What a row of operations means for the rule of an id. -/
def timeline (id : String) : Option Account → List Operation → List News
  | _, [] => []
  | acc, op :: rest =>
    let news := op.news id (acc.map (·.definition))
    news ++ timeline id (news.foldl Account.hear acc) rest

/-- For each event in the news, whether the rule matches it. -/
def verdicts (models : Models) (id : String) : Option Account → List News → List Bool
  | _, [] => []
  | acc, .seen e :: rest =>
    acc.any (·.isMatch models id e) :: verdicts models id (Account.hear acc (.seen e)) rest
  | acc, n :: rest => verdicts models id (Account.hear acc n) rest

section News

variable (models : Models) (id : String)

theorem verdicts_append (acc : Option Account) (news later : List News) :
    verdicts models id acc (news ++ later) =
      verdicts models id acc news ++ verdicts models id (news.foldl Account.hear acc) later := by
  induction news generalizing acc with
  | nil => rfl
  | cons n rest ih =>
    cases n with
    | installed r => exact ih _
    | removed => exact ih _
    | seen e =>
      rw [List.cons_append, verdicts, verdicts, ih]
      rfl

/-- A definition that is supplied becomes that of the rule, if it says anything new. -/
theorem definition_supply (acc : Option Account) (said : Option Rule) :
    ((supply (acc.map (·.definition)) said).foldl Account.hear acc).map (·.definition) =
      said.map fun r => r.supersede (acc.map (·.definition)) := by
  cases acc with
  | none => cases said <;> rfl
  | some a =>
    cases said with
    | none => rfl
    | some r =>
      by_cases hsame : a.definition.same r
      · simp [supply, supersede, hsame]
      · simp [supply, supersede, hsame, Account.hear]

/-- A definition that is supplied leaves the memory of the rule alone. -/
theorem replay_supply (acc : Option Account) (said : Option Rule) :
    ((supply (acc.map (·.definition)) said).foldl Account.hear acc).map (·.replay models id) =
      said.map fun _ => (acc.map (·.replay models id)).getD (RuleState.fresh id) := by
  cases acc with
  | none => cases said <;> rfl
  | some a =>
    cases said with
    | none => rfl
    | some r =>
      by_cases hsame : a.definition.same r
      · simp [supply, hsame]
      · simp [supply, hsame, Account.hear, Account.replay]

theorem verdicts_supply (acc : Option Account) (now said : Option Rule) :
    verdicts models id acc (supply now said) = [] := by
  cases now with
  | none => cases said <;> rfl
  | some old =>
    cases said with
    | none => rfl
    | some r =>
      by_cases hsame : old.same r
      · simp [supply, hsame, verdicts]
      · simp [supply, hsame, verdicts]

theorem replay_see (e : VesselEvent) (a : Account) :
    (a.see e).replay models id =
      if a.definition.enabled then (a.definition.evaluate models e (a.replay models id)).state
      else a.replay models id := by
  unfold Account.see
  split
  · simp [Account.replay]
  · rfl

theorem definition_see (e : VesselEvent) (a : Account) :
    (a.see e).definition = a.definition := by
  unfold Account.see
  split <;> rfl

end News

/-! ## The detector keeps account -/

namespace Detector

variable {source : Path → Option Track.Model} {models : Models} {id : String}

/-- What a detector has for an id is what the account of the id says. -/
structure Keeps (source : Path → Option Track.Model) (models : Models) (id : String)
    (acc : Option Account) (d : Detector) : Prop where
  wellFormed : d.engine.WellFormed
  library : d.library.find source = models
  definition : Rule.named id d.engine.rules = acc.map (·.definition)
  memory : d.engine.state? id = acc.map (·.replay models id)

variable {acc : Option Account} {d d' : Detector}

theorem keeps_ofRules (lib : Track.Library) (rules : List Rule) :
    Keeps source (lib.find source) id ((supply none (lastNamed id rules)).foldl Account.hear none)
      ⟨Engine.ofRules rules, lib⟩ where
  wellFormed := Engine.wellFormed_ofRules rules
  library := rfl
  definition := by
    have hsupply := definition_supply none (lastNamed id rules)
    rw [Option.map_none] at hsupply
    rw [hsupply, Engine.named_ofRules]
    exact (Option.map_id' ..).symm
  memory := by
    have hsupply := replay_supply (lib.find source) id none (lastNamed id rules)
    rw [Option.map_none] at hsupply
    rw [hsupply]
    exact Engine.state?_ofRules rules id

theorem Keeps.updateAll (keeps : Keeps source models id acc d) (rules : List Rule) :
    Keeps source models id ((supply (acc.map (·.definition)) (lastNamed id rules)).foldl
      Account.hear acc) (d.updateAll rules).1 where
  wellFormed := keeps.wellFormed.updateAll rules
  library := keeps.library
  definition := by
    rw [definition_supply, ← keeps.definition]
    exact keeps.wellFormed.named_updateAll rules id
  memory := by
    rw [replay_supply, ← keeps.memory]
    exact keeps.wellFormed.state?_updateAll rules id

theorem Keeps.updateOne (keeps : Keeps source models id acc d) (r : Rule) :
    Keeps source models id ((if r.id = id then supply (acc.map (·.definition)) (some r)
      else []).foldl Account.hear acc) (d.updateOne r).1 where
  wellFormed := keeps.wellFormed.upsert r Diff.none
  library := keeps.library
  definition := by
    have hnamed := keeps.wellFormed.named_upsert r Diff.none id
    by_cases hid : r.id = id
    · rw [if_pos hid] at hnamed ⊢
      rw [definition_supply, ← keeps.definition]
      exact hnamed
    · rw [if_neg hid] at hnamed ⊢
      exact hnamed.trans keeps.definition
  memory := by
    have hstate := keeps.wellFormed.state?_upsert r Diff.none id
    by_cases hid : r.id = id
    · rw [if_pos hid] at hstate ⊢
      rw [replay_supply, ← keeps.memory]
      exact hstate
    · rw [if_neg hid] at hstate ⊢
      exact hstate.trans keeps.memory

section Evaluate

variable {seals : String → Seal} {e : VesselEvent} {done : Evaluation}

theorem Keeps.evaluate (coherent : Track.Coherent source) (keeps : Keeps source models id acc d)
    (delivers : d.engine.start.Delivers models seals e done) :
    Keeps source models id (acc.map (Account.see e))
      ⟨done.engine, d.library.recordAll source done.consulted⟩ where
  wellFormed := by
    rw [delivers.engine_eq keeps.wellFormed.start]
    exact keeps.wellFormed.start.progressed _
  library := by
    rw [Track.Library.find_recordAll coherent]
    exact keeps.library
  definition := by
    rw [delivers.rules_eq keeps.wellFormed, keeps.definition, Option.map_map]
    simp only [Function.comp_def, definition_see]
  memory := by
    have hnamed := keeps.definition
    have hmemory := keeps.memory
    cases acc with
    | none => exact delivers.state?_none keeps.wellFormed hnamed
    | some a =>
      obtain ⟨member, hid⟩ := (named_eq_some_iff keeps.wellFormed.distinct).mp hnamed
      have hafter := delivers.state?_rule keeps.wellFormed member
      rw [hid] at hafter
      rw [hafter, Option.map_some, Option.map_some, replay_see]
      simp [Engine.memory, hmemory]

/-- There is an alert of the id just if its account says so. -/
theorem Keeps.any_alert (keeps : Keeps source models id acc d)
    (delivers : d.engine.start.Delivers models seals e done) :
    (done.alerts.any fun a => a.ruleId == id) = acc.any (·.isMatch models id e) := by
  have hnamed := keeps.definition
  have hmemory := keeps.memory
  have hany := any_raised_named keeps.wellFormed.distinct (fun _ => rfl)
    (delivers.alerts_perm keeps.wellFormed) id
  rw [hany, hnamed]
  cases acc with
  | none => rfl
  | some a =>
    have hid : a.definition.id = id := id_of_named hnamed
    simp [Account.isMatch, Engine.memory, hid, hmemory]

end Evaluate

theorem Keeps.shutdown (keeps : Keeps source models id acc d) :
    Keeps source models id acc { d with engine := d.engine.shutdown } where
  wellFormed := keeps.wellFormed.shutdown
  library := keeps.library
  definition := keeps.definition
  memory := keeps.memory

/-- Every operation is to the account of an id what its news are. -/
theorem Keeps.step (coherent : Track.Coherent source) (keeps : Keeps source models id acc d)
    {op : Operation} {answers : List (List Alert)} (step : Step source d op d' answers) :
    let news := op.news id (acc.map (·.definition))
    Keeps source models id (news.foldl Account.hear acc) d' ∧
      answers.map (fun alerts => alerts.any fun a => a.ruleId == id) =
        verdicts models id acc news := by
  cases step with
  | updateAll rules => exact ⟨keeps.updateAll rules, (verdicts_supply ..).symm⟩
  | updateOne r =>
    refine ⟨keeps.updateOne r, ?_⟩
    by_cases hid : r.id = id
    · simp only [Operation.news, if_pos hid, verdicts_supply, List.map_nil]
    · simp only [Operation.news, if_neg hid, verdicts, List.map_nil]
  | evaluate delivers =>
    rw [keeps.library] at delivers
    have hhear (e : VesselEvent) : Account.hear acc (.seen e) = acc.map (Account.see e) := by
      cases acc <;> rfl
    refine ⟨?_, ?_⟩
    · simp only [Operation.news, List.foldl_cons, List.foldl_nil, hhear]
      exact keeps.evaluate coherent delivers
    · simp only [Operation.news, verdicts, List.map_cons, List.map_nil]
      rw [keeps.any_alert delivers]
  | shutdown => exact ⟨keeps.shutdown, rfl⟩

/-- Over a whole run, what a detector has for an id follows from the news of the id alone. -/
theorem Run.keeps (coherent : Track.Coherent source) {ops : List Operation}
    {answers : List (List Alert)} (run : Run source d ops d' answers)
    (start : Keeps source models id acc d) :
    Keeps source models id ((timeline id acc ops).foldl Account.hear acc) d' ∧
      answers.map (fun alerts => alerts.any fun a => a.ruleId == id) =
        verdicts models id acc (timeline id acc ops) := by
  -- The account goes along with the detector, so the induction is from the first operation on.
  induction run generalizing acc with
  | nil => exact ⟨start, rfl⟩
  | cons step _ ih =>
    obtain ⟨hkeeps, hnow⟩ := start.step coherent step
    obtain ⟨hend, hlater⟩ := ih hkeeps
    unfold timeline
    rw [List.foldl_append, List.map_append, verdicts_append, hnow, hlater]
    exact ⟨hend, rfl⟩

/-- The detector takes an event by one of the steps. -/
theorem step_evaluate (wf : d.engine.WellFormed) (seals : String → Seal) (e : VesselEvent) :
    ∃ pushed, Step source d (.evaluate seals e) (d.evaluate source seals e).1 [pushed] ∧
      (d.evaluate source seals e).2 = resolveExclusive d.engine.rules pushed := by
  have hevaluates : d.engine.Evaluates (d.library.find source) seals e
      (d.engine.evaluate (d.library.find source) seals e) := wf.evaluates
  obtain ⟨done, delivers, heq⟩ := hevaluates
  refine ⟨done.alerts, ?_, ?_⟩
  · unfold Detector.evaluate
    rw [heq]
    exact Step.evaluate delivers
  · unfold Detector.evaluate
    rw [heq]

/-- Whatever else is done with a detector, its definition for an id is the one supplied last that
said anything new, and its memory is what is left by the events since the id last became active at
which it was enabled, each applied by the definition of its time.  Runs that bring an id the same
news end with the same memory of it, and it matches the same events. -/
theorem Run.history {lib : Track.Library} (coherent : Track.Coherent source)
    {rules : List Rule} {ops : List Operation} {answers : List (List Alert)}
    (run : Run source ⟨Engine.ofRules rules, lib⟩ ops d answers) (id : String) :
    let news := timeline id none (.updateAll rules :: ops)
    let acc := news.foldl Account.hear none
    Rule.named id d.engine.rules = acc.map (·.definition) ∧
    d.engine.state? id = acc.map (·.replay (lib.find source) id) ∧
    answers.map (fun alerts => alerts.any fun a => a.ruleId == id) =
      verdicts (lib.find source) id none news ∧
    ∀ (rules' : List Rule) (ops' : List Operation) (d' : Detector)
      (answers' : List (List Alert)), Run source ⟨Engine.ofRules rules', lib⟩ ops' d' answers' →
      timeline id none (.updateAll rules' :: ops') = news →
      d'.engine.state? id = d.engine.state? id ∧
        answers'.map (fun alerts => alerts.any fun a => a.ruleId == id) =
          answers.map (fun alerts => alerts.any fun a => a.ruleId == id) := by
  have hrun {rules : List Rule} {ops : List Operation} {d : Detector}
      {answers : List (List Alert)}
      (run : Run source ⟨Engine.ofRules rules, lib⟩ ops d answers) :
      let news := timeline id none (.updateAll rules :: ops)
      Keeps source (lib.find source) id (news.foldl Account.hear none) d ∧
        answers.map (fun alerts => alerts.any fun a => a.ruleId == id) =
          verdicts (lib.find source) id none news := by
    obtain ⟨hkeeps, hanswers⟩ := run.keeps coherent (keeps_ofRules lib rules)
    simp only [timeline, Operation.news, Option.map_none, List.foldl_append, verdicts_append,
      verdicts_supply, List.nil_append]
    exact ⟨hkeeps, hanswers⟩
  intro news acc
  obtain ⟨hkeeps, hanswers⟩ := hrun run
  refine ⟨hkeeps.definition, hkeeps.memory, hanswers, ?_⟩
  intro rules' ops' d' answers' run' hsame
  obtain ⟨hkeeps', hanswers'⟩ := hrun run'
  rw [hsame] at hkeeps' hanswers'
  exact ⟨hkeeps'.memory.trans hkeeps.memory.symm, hanswers'.trans hanswers.symm⟩

/-- A rule remembers the vessel that it has seen, although another rule silences it. -/
theorem history_sighting :
    let start : Detector := ⟨Engine.ofRules [Engine.sighting "a" 1 true false], Track.Library.empty⟩
    let ops : List Operation := [.updateOne (Engine.sighting "b" 2 true true),
      .evaluate (fun _ => default) default, .shutdown]
    ∃ d answers, Run (Track.Library.loaded FileTree.empty.find?) start ops d answers ∧
      (d.engine.state? "a").map (·.temporalStart) = some [("", default)] ∧
      answers.map (fun alerts => alerts.any fun a => a.ruleId == "a") = [true] := by
  intro start ops
  have wf : (start.updateOne (Engine.sighting "b" 2 true true)).1.engine.WellFormed :=
    (Engine.wellFormed_ofRules _).upsert _ _
  obtain ⟨pushed, step, -⟩ := step_evaluate wf (fun _ => default) default
  have run : Run (Track.Library.loaded FileTree.empty.find?) start ops _ _ :=
    .cons (.updateOne _) (.cons step (.cons .shutdown .nil))
  obtain ⟨-, hstate, hanswers, -⟩ := run.history (Track.coherent_loaded FileTree.empty) "a"
  refine ⟨_, _, run, ?_, ?_⟩
  · rw [hstate]
    rfl
  · rw [hanswers]
    rfl

end Detector

end VesselWatch
