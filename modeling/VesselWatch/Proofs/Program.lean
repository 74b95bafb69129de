/-
  Proofs/Program.lean --- what the program prints.

  Lines that are no events have no effect at all, whatever stands in them.  The others are
  evaluated one after another, and what is printed is one line for each alert that is left of them,
  from which the alert can be read back (`Program.run_prints`).  It is the same when the loop evaluates while further lines are still
  being read, however the two are interleaved (`Scene.Run.output`).
-/
import VesselWatch.Program
import VesselWatch.Proofs.Dispatch.Lines
import VesselWatch.Proofs.Dispatch.Processor
import VesselWatch.Proofs.Engine.Reload
import VesselWatch.Proofs.Json.Reader

set_option autoImplicit false

namespace VesselWatch

/-! ## Lines -/

namespace VesselEvent

/-- The line is an event with a position on the globe. -/
def accepts (line : String) : Bool := (Report.read line).isOk

/-- The sender gave the event an id and a time. -/
structure Report.Complete (r : Report) : Prop where
  id : r.id.isSome = true
  timestamp : r.timestamp.isSome = true

/-- The event of a line, as it was sent. -/
def sent? (line : String) : Option VesselEvent :=
  match Report.read line with
  | .ok r => do
    let id ← r.id
    let timestamp ← r.timestamp
    some ⟨id, r.vesselId, r.location, r.speed, r.course, timestamp, r.attributes⟩
  | .error _ => none

theorem accepts_of_blank {line : String} (blank : Text.blank line = true) :
    accepts line = false := by
  unfold accepts Report.read
  rw [Json.read?_of_blank blank]
  rfl

theorem sent?_of_not_accepts {line : String} (refused : accepts line = false) :
    sent? line = none := by
  unfold accepts at refused
  unfold sent?
  cases h : Report.read line with
  | ok r =>
    rw [h] at refused
    cases refused
  | error => rfl

theorem filterMap_sent?_filter (lines : List String) :
    (lines.filter accepts).filterMap sent? = lines.filterMap sent? := by
  induction lines with
  | nil => rfl
  | cons line rest ih =>
    cases h : accepts line with
    | true => rw [List.filter_cons_of_pos h, List.filterMap_cons, List.filterMap_cons, ih]
    | false =>
      rw [List.filter_cons_of_neg (by simp [h]), ih,
        List.filterMap_cons_none (sent?_of_not_accepts h)]

/-- An event that came with an id and a time is taken as it was sent. -/
theorem event?_eq_sent? {line : String} (complete : ∀ r, Report.read line = .ok r → r.Complete)
    (arrival : Seal) : Job.event? arrival line = sent? line := by
  unfold Job.event? sent?
  cases h : Report.read line with
  | error => rfl
  | ok r =>
    obtain ⟨hid, htime⟩ := complete r h
    obtain ⟨id, hid⟩ := Option.isSome_iff_exists.mp hid
    obtain ⟨timestamp, htime⟩ := Option.isSome_iff_exists.mp htime
    simp [Report.stamp, hid, htime]

end VesselEvent

/-! ## Events one after another -/

/-- Evaluates events one after another, the first of which has the given number. -/
def Detector.evaluateAll (source : Path → Option Track.Model) (supply : SealSupply) :
    Nat → List VesselEvent → Detector → Detector × List Alert
  | _, [], d => (d, [])
  | n, e :: rest, d =>
    let (d, now) := d.evaluate source (supply n) e
    let (d, later) := evaluateAll source supply (n + 1) rest d
    (d, now ++ later)

/-! ## A processor that waits -/

namespace Processor

/-- The loop is running, no more than asked to go on, and has nothing to do. -/
structure Idle (p : Processor) : Prop where
  queue : p.queue = []
  closed : p.closed = false
  started : p.started = true
  cancelled : p.cancelled = false
  ended : p.ended = false

theorem Idle.hand {p : Processor} (idle : p.Idle) (a : Alert) : (p.hand a).Idle :=
  ⟨idle.queue, idle.closed, idle.started, idle.cancelled, idle.ended⟩

theorem Idle.foldl_hand {p : Processor} (idle : p.Idle) (alerts : List Alert) :
    (alerts.foldl Processor.hand p).Idle := by
  induction alerts generalizing p with
  | nil => exact idle
  | cons a rest ih => exact ih (idle.hand a)

/-- Alerts that are dispatched change the sinks and the counts of alerts. -/
theorem foldl_hand (alerts : List Alert) (p : Processor) :
    (alerts.foldl hand p).dispatcher = p.dispatcher ∧
      (alerts.foldl hand p).stats.events = p.stats.events ∧
      (alerts.foldl hand p).sinks = (p.dispatcher.dispatchAll alerts p.sinks).2 := by
  induction alerts generalizing p with
  | nil => exact ⟨rfl, rfl, rfl⟩
  | cons a rest ih =>
    obtain ⟨hdispatcher, hevents, hsinks⟩ := ih (p.hand a)
    exact ⟨hdispatcher, hevents, hsinks⟩

end Processor

/-! ## The program at work -/

namespace Job

variable {supply : SealSupply}

/-- The job after an event. -/
def takes (supply : SealSupply) (j : Job) (e : VesselEvent) : Job :=
  let done := j.detector.evaluate (Track.Library.loaded j.files)
    (supply j.processor.stats.events) e
  ⟨j.files, done.1, done.2.foldl Processor.hand { j.processor with
    stats := { j.processor.stats with events := j.processor.stats.events + 1 } }⟩

/-- An event is evaluated and its alerts are dispatched at once. -/
theorem feed_of_event {j : Job} (idle : j.processor.Idle) {arrival : Seal} {line : String}
    {e : VesselEvent} (event : event? arrival line = some e) (visible : Text.blank line = false) :
    j.feed arrival supply line = j.takes supply e := by
  obtain ⟨files, d, queue, closed, started, cancelled, ended, dispatcher, sinks, stats⟩ := j
  obtain ⟨rfl, rfl, rfl, rfl, rfl⟩ := idle
  unfold feed
  rw [visible, event]
  rfl

theorem feed_of_none {j : Job} {arrival : Seal} {line : String}
    (none : event? arrival line = none) : j.feed arrival supply line = j := by
  unfold feed
  rw [none]
  split <;> rfl

/-- What a job has come to after some events: they have been evaluated one after another, and
their alerts have been dispatched. -/
structure Comes (supply : SealSupply) (j : Job) (events : List VesselEvent) (j' : Job) : Prop where
  idle : j'.processor.Idle
  sinks : j'.processor.sinks = (j.processor.dispatcher.dispatchAll
    (j.detector.evaluateAll (Track.Library.loaded j.files) supply j.processor.stats.events
      events).2 j.processor.sinks).2

theorem comes_nil {j : Job} (idle : j.processor.Idle) : Comes supply j [] j := ⟨idle, rfl⟩

theorem idle_takes {j : Job} (idle : j.processor.Idle) (e : VesselEvent) :
    (j.takes supply e).processor.Idle := by
  apply Processor.Idle.foldl_hand
  exact ⟨idle.queue, idle.closed, idle.started, idle.cancelled, idle.ended⟩

theorem Comes.cons {j j' : Job} {e : VesselEvent} {rest : List VesselEvent}
    (comes : Comes supply (j.takes supply e) rest j') : Comes supply j (e :: rest) j' where
  idle := comes.idle
  sinks := by
    have hsinks := comes.sinks
    obtain ⟨hdispatcher, hevents, hfirst⟩ := Processor.foldl_hand
      (j.detector.evaluate (Track.Library.loaded j.files) (supply j.processor.stats.events) e).2
      { j.processor with
        stats := { j.processor.stats with events := j.processor.stats.events + 1 } }
    unfold takes at hsinks
    simp only [hdispatcher, hevents, hfirst] at hsinks
    rw [hsinks]
    simp only [Detector.evaluateAll, Dispatcher.dispatchAll_append]

/-- A job takes its lines one after another, and those that are no events change nothing. -/
theorem comes_feedAll {j : Job} (idle : j.processor.Idle) {lines : List String}
    (complete : ∀ line ∈ lines, ∀ r, VesselEvent.Report.read line = .ok r → r.Complete)
    (arrivals : Nat → Seal) (n : Nat) :
    Comes supply j (lines.filterMap VesselEvent.sent?) (j.feedAll arrivals supply n lines) := by
  induction lines generalizing j n with
  | nil => exact comes_nil idle
  | cons line rest ih =>
    rw [List.forall_mem_cons] at complete
    have hevent := VesselEvent.event?_eq_sent? complete.1 (arrivals n)
    unfold feedAll
    cases hsent : VesselEvent.sent? line with
    | none =>
      rw [List.filterMap_cons_none hsent, feed_of_none (hevent.trans hsent)]
      exact ih idle complete.2 (n + 1)
    | some e =>
      have hvisible : Text.blank line = false := by
        refine Bool.eq_false_iff.mpr fun blank => ?_
        rw [VesselEvent.sent?_of_not_accepts (VesselEvent.accepts_of_blank blank)] at hsent
        cases hsent
      rw [List.filterMap_cons_some hsent, feed_of_event idle (hevent.trans hsent) hvisible]
      exact (ih (idle_takes idle e) complete.2 (n + 1)).cons

end Job

/-! ## Evaluating while lines are read -/

namespace Detector

variable {source : Path → Option Track.Model} {supply : SealSupply} {d d' : Detector}

theorem evaluateAll_snoc (n : Nat) (events : List VesselEvent) (e : VesselEvent) (d : Detector) :
    d.evaluateAll source supply n (events ++ [e]) =
      let before := d.evaluateAll source supply n events
      let last := before.1.evaluate source (supply (n + events.length)) e
      (last.1, before.2 ++ last.2) := by
  induction events generalizing n d with
  | nil => simp [evaluateAll]
  | cons first rest ih =>
    have hnumber : n + 1 + rest.length = n + (first :: rest).length := by
      rw [List.length_cons]
      omega
    simp only [List.cons_append, evaluateAll, ih, hnumber, List.append_assoc]

/-- In whatever order the workers take the events, the same alerts are left of them. -/
theorem EvaluatesAll.eq_evaluateAll (coherent : Track.Coherent source)
    (wf : d.engine.WellFormed) {done : List (VesselEvent × List Alert)}
    (all : EvaluatesAll source supply d done d') :
    Mirrors d' (d.evaluateAll source supply 0 (done.map (·.1))).1 ∧
      done.flatMap (·.2) = (d.evaluateAll source supply 0 (done.map (·.1))).2 := by
  induction all with
  | nil => exact ⟨(Shadows.refl wf).toMirrors, rfl⟩
  | @snoc done _ _ e alerts _ evaluates ih =>
    obtain ⟨mirrors, halerts⟩ := ih
    obtain ⟨pushed, step, rfl⟩ := evaluates
    have hsame : Evaluates source (supply done.length) e _ _ _ :=
      evaluates_evaluate mirrors.wellFormed' (supply done.length) e
    obtain ⟨pushed', step', hlast⟩ := hsame
    obtain ⟨hmirrors, hanswers⟩ := mirrors.evaluate coherent step step'
    simp only [Operation.answers, List.map_cons, List.map_nil, List.cons.injEq,
      Answer.alerts.injEq, and_true] at hanswers
    rw [List.map_append, List.flatMap_append, halerts]
    simp only [List.map_cons, List.map_nil, evaluateAll_snoc, List.length_map, Nat.zero_add,
      List.flatMap_cons, List.flatMap_nil, List.append_nil]
    refine ⟨hmirrors, ?_⟩
    rw [hanswers, ← hlast]

end Detector

/-! ## The output -/

namespace Program

/-- The routes of the program: every alert goes to every sink. -/
def routes : Dispatcher := Dispatcher.withDefaults (sinks.map (·.1))

theorem ofTargets_routes (notify : List String) : routes.ofTargets notify = [] := by
  unfold Dispatcher.ofTargets
  induction notify with
  | nil => rfl
  | cons target rest ih => exact ih

/-- Whomever an alert notifies, it goes to every sink once. -/
theorem routed_output (alerts : List Alert) : routes.routed outputLabel alerts = alerts := by
  have hdefaults : routes.defaults.Nodup := by decide
  rw [Dispatcher.routed_eq_filter hdefaults, List.filter_eq_self]
  intro a _
  unfold Dispatcher.receivers
  rw [ofTargets_routes]
  decide

/-- What has been printed when alerts have been dispatched. -/
theorem output_dispatchAll (alerts : List Alert) :
    ∃ sink, (routes.dispatchAll alerts sinks).2.lookup outputLabel = some sink ∧
      sink.written = String.join (alerts.map Sink.lineOf) := by
  have hlookup := routes.lookup_dispatchAll outputLabel alerts sinks
  have hfresh : sinks.lookup outputLabel =
      some (Sink.fresh outputLabel (.lines Writer.unlimited)) := rfl
  rw [routed_output, hfresh] at hlookup
  refine ⟨_, hlookup, ?_⟩
  rw [Sink.written_after_lines rfl, Sink.delivered_unlimited rfl]
  exact String.empty_append

variable {files : Files} {c : Config} {job : Job}

/-- A job that is about to begin: the rules of the folder are in the engine, the configured model is
at hand, and the loop waits. -/
theorem job_eq (starts : Program.job files c = .ok job) :
    job.files = files ∧
      job.detector.engine =
        (Engine.empty.updateAll (RuleFolder.after c.rulesFolder [files]).rules).1 ∧
      library files c.modelFolder = .ok job.detector.library ∧
      job.processor = { Processor.fresh routes sinks with started := true } := by
  unfold Program.job at starts
  cases hlibrary : library files c.modelFolder with
  | error =>
    rw [hlibrary] at starts
    cases starts
  | ok lib =>
    rw [hlibrary] at starts
    change (if canWatch files c then _ else _) = _ at starts
    split at starts
    · cases starts
      exact ⟨rfl, rfl, rfl, rfl⟩
    · cases starts

theorem idle_job (starts : Program.job files c = .ok job) : job.processor.Idle := by
  obtain ⟨-, -, -, hprocessor⟩ := job_eq starts
  rw [hprocessor]
  exact ⟨rfl, rfl, rfl, rfl, rfl⟩

/-- The text that the program works on: that of a file, or its input. -/
def text? (files : Files) (input : String) (o : Options) : Option String :=
  match eventFile? o with
  | none => some input
  | some p => files.text? p

/-- A program that can start works on its text to the end. -/
theorem run_eq {args : List String} {env : Environment} {input : String} {arrivals : Nat → Seal}
    {supply : SealSupply} {o : Options} {text : String}
    (command : CommandLine.read args = some (.run o))
    (starts : Program.job files (settings (environment env files) o) = .ok job)
    (given : text? files input o = some text) :
    Program.run args env files input arrivals supply =
      ⟨Finish.success, (job.feedAll arrivals supply 0 (Text.lines text)).output⟩ := by
  unfold Program.run start
  rw [command]
  simp only [starts]
  unfold text? at given
  cases hfile : eventFile? o with
  | none =>
    rw [hfile] at given
    cases given
    rfl
  | some p =>
    rw [hfile] at given
    simp only [given]

end Program

/-- When the loop evaluates while further events come in, and ends when all of them are done, the
sink of the output holds the lines of the alerts that are left of the events one after another. -/
theorem Scene.Run.output {source : Path → Option Track.Model} {supply : SealSupply} {d : Detector}
    (coherent : Track.Coherent source) (wf : d.engine.WellFormed) {moves : List Scene.Move}
    {s : Scene}
    (run : Scene.Run source supply (Scene.opening Program.routes Program.sinks d) moves s)
    (ended : s.processor.ended = true) (kept : .request .cancel none ∉ moves) :
    ∃ sink, s.processor.sinks.lookup Program.outputLabel = some sink ∧ sink.written =
      String.join ((d.evaluateAll source supply 0 (accepted moves)).2.map Sink.lineOf) := by
  have ledger := run.ledger
  obtain ⟨-, halerts⟩ := ledger.inOrder.evaluates.eq_evaluateAll coherent wf
  rw [ledger.evaluated_eq_accepted ended kept] at halerts
  rw [ledger.dispatched.sinks, ← ledger.raised_eq_handed ended, raised, halerts]
  exact Program.output_dispatchAll _

theorem Job.output_of_lookup {j : Job} {sink : Sink}
    (found : j.processor.sinks.lookup Program.outputLabel = some sink) :
    j.output = sink.written := by
  unfold Job.output
  rw [found]

/-- A program whose arguments are valid and that can start ends with success and has printed one
line of JSON for each alert that is left of the events in its text, which are evaluated one after
another by an engine with the rules of the folder; reading the lines gives these alerts back, if
their times are such as can be written.  So it is however evaluating is interleaved with reading.
Lines that are no events can be put in or left out anywhere. -/
theorem Program.run_prints {args : List String} {env : Environment} {files : Files}
    {input : String} {arrivals : Nat → Seal} {supply : SealSupply} {o : Options} {job : Job}
    {text : String} (command : CommandLine.read args = some (.run o))
    (starts : Program.job files (settings (environment env files) o) = .ok job)
    (given : text? files input o = some text)
    (complete : ∀ line ∈ Text.lines text, ∀ r,
      VesselEvent.Report.read line = .ok r → r.Complete) :
    let source := Track.Library.loaded files
    let rules := (RuleFolder.after (settings (environment env files) o).rulesFolder [files]).rules
    let d : Detector := ⟨(Engine.empty.updateAll rules).1, job.detector.library⟩
    let events := (Text.lines text).filterMap VesselEvent.sent?
    let alerts := (d.evaluateAll source supply 0 events).2
    let output := String.join (alerts.map fun a => a.toJson.render ++ "\n")
    Program.run args env files input arrivals supply = ⟨0, output⟩ ∧
    Text.lines output = alerts.map (fun a => a.toJson.render) ∧
    ((∀ a ∈ alerts, a.timestamp.Valid) →
      (Text.lines output).map Alert.ofLine? = alerts.map some) ∧
    (∀ line, Text.blank line = true → VesselEvent.accepts line = false) ∧
    (∀ lines, lines.filter VesselEvent.accepts = (Text.lines text).filter VesselEvent.accepts →
      ∀ arrivals, (job.feedAll arrivals supply 0 lines).output = output) ∧
    ∀ moves s, Track.Coherent source →
      Scene.Run source supply (Scene.opening routes sinks job.detector) moves s →
      Scene.accepted moves = events → .request .cancel none ∉ moves →
      s.processor.ended = true →
      ∃ sink, s.processor.sinks.lookup outputLabel = some sink ∧ sink.written = output := by
  intro source rules d events alerts output
  obtain ⟨hfiles, hengine, -, hprocessor⟩ := job_eq starts
  have hdetector : job.detector = d :=
    congrArg (fun en => (⟨en, job.detector.library⟩ : Detector)) hengine
  -- What a job prints depends on the lines that are events alone.
  have hprints (lines : List String)
      (same : lines.filter VesselEvent.accepts = (Text.lines text).filter VesselEvent.accepts)
      (arrivals : Nat → Seal) : (job.feedAll arrivals supply 0 lines).output = output := by
    have hcomplete : ∀ line ∈ lines, ∀ r, VesselEvent.Report.read line = .ok r → r.Complete := by
      intro line member r read
      have haccepts : VesselEvent.accepts line = true := by
        unfold VesselEvent.accepts
        rw [read]
        rfl
      have hmember : line ∈ (Text.lines text).filter VesselEvent.accepts := by
        rw [← same]
        exact List.mem_filter.mpr ⟨member, haccepts⟩
      exact complete line (List.mem_of_mem_filter hmember) r read
    have hevents : lines.filterMap VesselEvent.sent? = events := by
      rw [← VesselEvent.filterMap_sent?_filter, same, VesselEvent.filterMap_sent?_filter]
    have hcomes : Job.Comes supply job _ (job.feedAll arrivals supply 0 lines) :=
      Job.comes_feedAll (idle_job starts) hcomplete arrivals 0
    have hsinks := hcomes.sinks
    rw [hevents, hfiles, hdetector, hprocessor] at hsinks
    obtain ⟨sink, hlookup, hwritten⟩ := output_dispatchAll alerts
    have hfound := (congrArg (List.lookup outputLabel) hsinks).trans hlookup
    exact (Job.output_of_lookup hfound).trans hwritten
  have hlines : Text.lines output = alerts.map fun a => a.toJson.render :=
    Sink.lines_join_lineOf alerts
  refine ⟨?_, hlines, ?_, fun line => VesselEvent.accepts_of_blank, hprints, ?_⟩
  · rw [run_eq command starts given, hprints _ rfl arrivals]
    rfl
  · intro valid
    rw [hlines]
    exact Alert.map_ofLine?_render valid
  · intro moves s coherent run haccepted kept ended
    have wf : d.engine.WellFormed := Engine.wellFormed_empty.updateAll rules
    rw [hdetector] at run
    have houtput := run.output coherent wf ended kept
    rw [haccepted] at houtput
    exact houtput

/-- The text of a file with one rule, which is met at first sight. -/
def seenRule : String :=
  "\x7bid: a, conditions: [[TemporalStateCondition, continuous_for, 0]], " ++
  "action: {alertType: x, severity: low, notify: [ops]}\x7d"

/-- A line with an event. -/
def eventLine : String :=
  "\x7b\"id\":\"e\",\"vesselId\":\"v\",\"location\":[0,0]," ++
  "\"timestamp\":\"2024-01-01T00:00:00Z\"\x7d"

/-- The line of the alert that the event of `eventLine` raises under the rule of `seenRule`. -/
def alertLine : String :=
  "\x7b\"id\":\"00000000-0000-0000-0000-000000000000\",\"ruleId\":\"a\"," ++
  "\"alertType\":\"x\",\"severity\":\"low\",\"entityId\":\"v\",\"eventId\":\"e\"," ++
  "\"timestamp\":\"1970-01-01T00:00:00Z\",\"notify\":[\"ops\"]\x7d\n"

/-- The lines about `eventLine`: one is blank, one is no event, and its own has an id and a time. -/
theorem complete_of_mem_eventLines {line : String} (member : line ∈ ["", eventLine, "\x7b"])
    {r : VesselEvent.Report} (read : VesselEvent.Report.read line = .ok r) : r.Complete := by
  have hevent : (VesselEvent.Report.read eventLine).toOption.all
      (fun r => r.id.isSome && r.timestamp.isSome) = true := by decide +kernel
  have refused {line : String} (read : VesselEvent.Report.read line = .ok r) :
      VesselEvent.accepts line ≠ false := by
    rw [VesselEvent.accepts, read]
    nofun
  simp only [List.mem_cons, List.not_mem_nil, or_false] at member
  rcases member with rfl | rfl | rfl
  · exact absurd (VesselEvent.accepts_of_blank rfl) (refused read)
  · rw [read] at hevent
    obtain ⟨hid, htime⟩ := Bool.and_eq_true_iff.mp hevent
    exact ⟨hid, htime⟩
  · exact absurd (by decide +kernel) (refused read)

/-- A folder with `seenRule` in it is enough to start, and no model is at hand then. -/
theorem Program.exists_job_seenRule :
    let files := Files.oneFile (.ofText seenRule)
    ∃ job, Program.job files (settings (environment [("RULES_DIR", "rules")] files)
      CommandLine.noOptions) = .ok job ∧ job.detector.library = Track.Library.empty := by
  intro files
  have hstarts : (Program.job files (settings (environment [("RULES_DIR", "rules")] files)
      CommandLine.noOptions)).toOption.isSome = true := by decide +kernel
  cases starts : Program.job files (settings (environment [("RULES_DIR", "rules")] files)
      CommandLine.noOptions) with
  | ok job =>
    obtain ⟨-, -, hlibrary, -⟩ := job_eq starts
    exact ⟨job, rfl, (Except.ok.inj hlibrary).symm⟩
  | error =>
    rw [starts] at hstarts
    cases hstarts

/-- The event of a line is printed as the line of its alert, which notifies a team that has no sink
of its own; a blank line and one that is no event leave no trace. -/
theorem Program.run_prints_event_line :
    let files := Files.oneFile (.ofText seenRule)
    let env : Environment := [("RULES_DIR", "rules")]
    let text := "\n" ++ eventLine ++ "\n\x7b"
    let alert : Alert := ⟨default, "a", "x", "low", "v", "e", ⟨0, 0, 0⟩, ["ops"]⟩
    Program.run [] env files text (fun _ => default) (fun _ _ => default) = ⟨0, alertLine⟩ ∧
    (Text.lines alertLine).map Alert.ofLine? = [some alert] ∧
    ∃ job, Program.job files (settings (environment env files) CommandLine.noOptions) = .ok job ∧
      (job.feedAll (fun _ => default) (fun _ _ => default) 0 [eventLine]).output = alertLine := by
  intro files env text alert
  obtain ⟨job, starts, hlibrary⟩ := exists_job_seenRule
  have hlines : Text.lines text = ["", eventLine, "\x7b"] := by decide +kernel
  have complete : ∀ line ∈ Text.lines text, ∀ r,
      VesselEvent.Report.read line = .ok r → r.Complete := by
    rw [hlines]
    exact fun _ member _ => complete_of_mem_eventLines member
  obtain ⟨hrun, -, hread, -, hsame, -⟩ := @Program.run_prints [] env files text
    (fun _ => default) (fun _ _ => default) _ job text rfl starts rfl complete
  have hfilter : [eventLine].filter VesselEvent.accepts =
      (Text.lines text).filter VesselEvent.accepts := by
    have hblank : VesselEvent.accepts "" = false := VesselEvent.accepts_of_blank rfl
    have hbrace : VesselEvent.accepts "\x7b" = false := by decide +kernel
    simp only [hlines, List.filter_cons, List.filter_nil, hblank, hbrace, Bool.false_eq_true,
      if_false]
  have hsame := hsame [eventLine] hfilter (fun _ => default)
  have halerts : (Detector.evaluateAll (Track.Library.loaded files) (fun _ _ => default) 0
      ((Text.lines text).filterMap VesselEvent.sent?)
      ⟨(Engine.empty.updateAll (RuleFolder.after (settings (environment env files)
        CommandLine.noOptions).rulesFolder [files]).rules).1, Track.Library.empty⟩).2 = [alert] := by
    decide +kernel
  have hline : String.join ([alert].map fun a => a.toJson.render ++ "\n") = alertLine := by
    decide +kernel
  rw [hlibrary, halerts] at hrun hread hsame
  rw [hline] at hrun hread hsame
  refine ⟨hrun, hread ?_, job, starts, hsame⟩
  exact List.forall_mem_singleton.mpr ⟨by decide, by decide, by decide, by decide, by decide⟩

end VesselWatch
