/-
  Main.lean --- the program in the world.

  WHAT THIS FILE FIXES.  Where the arguments, the environment, the files, the input,
  the random numbers and the time come from, and where the output goes.  All
  decisions are made in `Program`.
-/
import Std.Time.DateTime.Timestamp
import VesselWatch.Program

set_option autoImplicit false

namespace VesselWatch.Main

/-- Reads a file. -/
def readFile (entry : IO.FS.DirEntry) : IO FileTree := do
  let bytes ← IO.FS.readBinFile entry.path
  pure (.file (FileText.ofBytes bytes))

/-- Reads a file or a folder with all that is in it. -/
partial def readTree (entry : IO.FS.DirEntry) : IO FileTree := do
  if ← entry.path.isDir then
    let entries ← entry.path.readDir
    let trees ← entries.toList.mapM fun e => do pure (e.fileName, ← readTree e)
    pure (.folder trees)
  else readFile entry

/-- A path, and what is found there. -/
abbrev Sighting := Path × FileTree

/-- What `read` finds at some paths. -/
def findBy (read : IO.FS.DirEntry → IO FileTree) (paths : List Path) : IO (List Sighting) :=
  paths.filterMapM fun p =>
    try pure (some (p, ← read ⟨".", p.text⟩)) catch _ => pure none

/-- What is found at some paths. -/
def findAll : List Path → IO (List Sighting) := findBy readTree

/-- The files among some paths. -/
def findFiles : List Path → IO (List Sighting) := findBy readFile

/-- The view on what has been found. -/
def view (found : List Sighting) : Files := fun p =>
  (found.find? fun f => f.1.text == p.text).map (·.2)

/-- The variables of the process, as the system lists them. -/
def readEnvironment : IO Environment := do
  try
    let text ← IO.FS.readFile "/proc/self/environ"
    pure ((text.splitOn "\x00").filterMap fun entry =>
      match entry.splitOn "=" with
      | name :: value => some (name, "=".intercalate value)
      | [] => none)
  catch _ => pure []

/-- A new id, and the time. -/
def newSeal : IO Seal := do
  let bytes ← IO.getRandomBytes 16
  let now ← Std.Time.Timestamp.now
  let number := bytes.toList.foldl (fun n b => 256 * n + b.toNat) 0
  pure ⟨Uuid.ofRandom number,
    Instant.ofUnix now.val.second.val now.val.nano.val.toNat⟩

/-- Ids and times for the alerts of one event, made from one seal: each rule has its own. -/
def sealsFrom (first : Seal) (rules : List Rule) : SealSupply := fun _ id =>
  ⟨Uuid.ofRandom (first.id.bits.toNat + 1 + rank rules id), first.timestamp⟩

/-- Works on the lines of an input until it ends. -/
partial def work (input : IO.FS.Stream) (job : Job) : IO Unit := do
  let line ← input.getLine
  if line.isEmpty then return
  let arrival ← newSeal
  let job := job.feed arrival (sealsFrom (← newSeal) job.detector.engine.rules) (Text.chomp line)
  IO.print job.output
  (← IO.getStdout).flush
  work input job.clearOutput

/-- Lets a job work on a file of events, or on the input of the program. -/
def runJob (job : Job) (events : Option Path) : IO UInt32 := do
  try
    let input ← match events with
      | some p => do pure (IO.FS.Stream.ofHandle (← IO.FS.Handle.mk p.text .read))
      | none => IO.getStdin
    work input job
    pure (UInt32.ofNat Finish.success)
  catch e =>
    IO.eprintln (CommandLine.programName ++ ": " ++ toString e)
    pure (UInt32.ofNat Finish.failure)

/-- Runs the program. -/
def run (args : List String) : IO UInt32 := do
  let env ← readEnvironment
  let found ← findAll [Program.envFileName]
  let folders := Program.folders args env (view found)
  let found := found ++ (← findAll folders) ++ (← findFiles (folders.take 1 |>.flatMap Path.above))
  match Program.start args env (view found) with
  | .say text =>
    IO.print text
    pure (UInt32.ofNat Finish.success)
  | .misused =>
    IO.eprintln (CommandLine.programName ++ ": wrong arguments, see --help")
    pure (UInt32.ofNat Finish.misuse)
  | .failed e =>
    IO.eprintln (CommandLine.programName ++ ": " ++ e.message)
    pure (UInt32.ofNat Finish.failure)
  | .ready job events =>
    for folder in folders.take 1 do
      try IO.FS.createDirAll folder.text catch _ => pure ()
    let models ← findAll job.modelFolders
    runJob { job with files := view (found ++ models) } events

end VesselWatch.Main

/-- The program. -/
def main (args : List String) : IO UInt32 := VesselWatch.Main.run args
