/-
  Program.lean --- the whole program, without the world around it.

  WHAT THIS FILE FIXES.  From the arguments, the environment and the files follows
  whether the program has something to say, is used wrongly, cannot start, or gets
  to work (`Startup`).  At work it takes one line after the other: blank lines and
  lines that are no events are passed over, every other line is evaluated, and each
  alert becomes a line of the output.
-/
import VesselWatch.CommandLine.Help
import VesselWatch.Dispatch.Processor
import VesselWatch.EnvFile
import VesselWatch.Rule.Folder
import VesselWatch.Text.Lines

set_option autoImplicit false

namespace VesselWatch

/-- A program at work. -/
structure Job where
  /-- what is found at each path -/
  files : Files
  /-- the rules and the models -/
  detector : Detector
  /-- the queue and the sinks -/
  processor : Processor

/-- Why a program cannot start. -/
inductive StartError where
  /-- the configured model cannot be loaded -/
  | model (error : Track.Error)
  /-- the folder of rule files is to be watched and cannot be made -/
  | unwatchable (folder : Path)
  deriving Inhabited

/-- The message of an error. -/
def StartError.message : StartError → String
  | .model error => error.message
  | .unwatchable folder => "cannot watch the rules directory: " ++ folder.text

/-- What becomes of a program when it is started. -/
inductive Startup where
  /-- it prints a text and is done -/
  | say (text : String)
  /-- its arguments are wrong -/
  | misused
  /-- it cannot start -/
  | failed (error : StartError)
  /-- it works on the lines of a file, or on its input when no file is named -/
  | ready (job : Job) (events : Option Path)

/-- How a program ended. -/
structure Finish where
  /-- the exit code -/
  code : Nat
  /-- what it wrote -/
  output : String
  deriving DecidableEq, Repr, Inhabited

/-- Exit code of a program that did what it was asked for. -/
def Finish.success : Nat := 0

/-- Exit code of a program that cannot start or go on. -/
def Finish.failure : Nat := 1

/-- Exit code of a program whose arguments are wrong. -/
def Finish.misuse : Nat := 2

namespace Program

/-! ## Starting -/

/-- The name of the file with variables of the environment. -/
def envFileName : Path := ⟨".env"⟩

/-- The variable that names the profile. -/
def profileVariable : String := "SEAWATCH_PROFILE"

/-- The environment with the variables of the file for them, if there is one.  It is read line by
line. -/
def environment (env : Environment) (files : Files) : Environment :=
  match files.file? envFileName with
  | some text => EnvFile.load env text.readable
  | none => env

/-- The settings under some options. -/
def settings (env : Environment) (o : Options) : Config :=
  let c := Config.forProfile env (o.profile.getD ((env.lookup profileVariable).getD ""))
  { c with
    rulesFolder := o.rulesFolder.getD c.rulesFolder
    modelFolder := o.modelFolder.or c.modelFolder
    watch := c.watch && !o.noWatch }

/-- The models at the start: that of a configured folder, which must be there, is the default and
on the shelf of its folder. -/
def library (files : Files) (modelFolder : Option Path) : Except Track.Error Track.Library :=
  match modelFolder with
  | none => .ok Track.Library.empty
  | some folder =>
    (Track.Model.load files folder).map fun m =>
      (Track.Library.empty.withDefault m).register folder m

/-- The label of the sink whose lines are the output. -/
def outputLabel : String := "stdout"

/-- The sinks: the log, and the output. -/
def sinks : Sinks :=
  [("log", Sink.log), (outputLabel, Sink.fresh outputLabel (.lines Writer.unlimited))]

/-- The folder of rule files can be watched, if it is to be.  It is made when it is not there. -/
def canWatch (files : Files) (c : Config) : Bool := !c.watch || files.canMake c.rulesFolder

/-- A program that is about to work under some settings. -/
def job (files : Files) (c : Config) : Except StartError Job := do
  let library ← (library files c.modelFolder).mapError .model
  if canWatch files c then
    let (_, engine, _) := (RuleFolder.unread c.rulesFolder).reload files Engine.empty
    let p := Processor.fresh (Dispatcher.withDefaults (sinks.map (·.1))) sinks
    pure {
      files := files
      detector := ⟨engine, library⟩
      processor := (p.start).toOption.getD p }
  else throw (.unwatchable c.rulesFolder)

/-- The file of events, unless the input is meant. -/
def eventFile? (o : Options) : Option Path := o.events.filter fun p => !p.same ⟨"-"⟩

/-- The folders that the program looks into when it starts. -/
def folders (args : List String) (env : Environment) (files : Files) : List Path :=
  match CommandLine.read args with
  | some (.run o) =>
    let c := settings (environment env files) o
    c.rulesFolder :: c.modelFolder.toList
  | _ => []

/-- Starts the program. -/
def start (args : List String) (env : Environment) (files : Files) : Startup :=
  let env := environment env files
  match CommandLine.read args with
  | none => .misused
  | some .help => .say (CommandLine.help ((env.lookup profileVariable).getD ""))
  | some .version => .say (CommandLine.versionLine ++ "\n")
  | some (.run o) =>
    match job files (settings env o) with
    | .error e => .failed e
    | .ok job => .ready job (eventFile? o)

end Program

/-! ## Working -/

namespace Job

/-- The folders whose models the rules may ask for. -/
def modelFolders (j : Job) : List Path :=
  j.detector.engine.rules.flatMap fun r => r.conditions.flatMap Condition.modelFolders

/-- One turn of the loop. -/
def turn (supply : SealSupply) (j : Job) : Job :=
  let (p, d) := j.processor.turn (Track.Library.loaded j.files) supply j.detector
  { j with processor := p, detector := d }

/-- The event of a line, if it is one; `arrival` is the id and the time it gets if it lacks them. -/
def event? (arrival : Seal) (line : String) : Option VesselEvent :=
  match VesselEvent.Report.read line with
  | .ok r => some (r.stamp arrival.id.render arrival.timestamp)
  | .error _ => none

/-- Takes one line. -/
def feed (arrival : Seal) (supply : SealSupply) (j : Job) (line : String) : Job :=
  if Text.blank line then j
  else
    match event? arrival line with
    | none => j
    | some e =>
      match j.processor.enqueue e with
      | .ok p => turn supply { j with processor := p }
      | .error _ => j

/-- Takes lines, the first of which has the given number. -/
def feedAll (arrivals : Nat → Seal) (supply : SealSupply) : Nat → Job → List String → Job
  | _, j, [] => j
  | n, j, line :: rest => feedAll arrivals supply (n + 1) (j.feed (arrivals n) supply line) rest

/-- What has been written. -/
def output (j : Job) : String :=
  match j.processor.sinks.lookup Program.outputLabel with
  | some s => s.written
  | none => ""

/-- Forgets what has been written. -/
def clearOutput (j : Job) : Job :=
  match j.processor.sinks.lookup Program.outputLabel with
  | some s =>
    let sinks := Assoc.put Program.outputLabel { s with written := "" } j.processor.sinks
    { j with processor := { j.processor with sinks := sinks } }
  | none => j

end Job

namespace Program

/-- Runs the program on an input. -/
def run (args : List String) (env : Environment) (files : Files) (input : String)
    (arrivals : Nat → Seal) (supply : SealSupply) : Finish :=
  match start args env files with
  | .say text => ⟨Finish.success, text⟩
  | .misused => ⟨Finish.misuse, ""⟩
  | .failed _ => ⟨Finish.failure, ""⟩
  | .ready job events =>
    match (match events with
      | none => some input
      | some p => files.text? p) with
    | none => ⟨Finish.failure, ""⟩
    | some text => ⟨Finish.success, (job.feedAll arrivals supply 0 (Text.lines text)).output⟩

end Program

end VesselWatch
