/-
  CommandLine/Help.lean --- what the program says about itself.

  WHAT THIS FILE FIXES.  The names of the options stand in bold face in the left
  column and their explanations in the right one.  Lines are not broken; a line feed
  in the profile goes on in the right column.  What is printed has no escape
  sequences, be they those of the bold face or some in the profile.
-/
import VesselWatch.CommandLine
import VesselWatch.Text.Escapes

set_option autoImplicit false

namespace VesselWatch.CommandLine

/-- The name of the program. -/
def programName : String := "seawatch-worker"

/-- The name of the program with its version. -/
def versionLine : String := programName ++ " 0.1.0"

/-- Bold face on a terminal. -/
def bold (s : String) : String := "\x1b[1m" ++ s ++ "\x1b[0m"

/-- `n` spaces. -/
def spaces (n : Nat) : List Char := List.replicate n ' '

/-- The column of the explanations. -/
def helpColumn : Nat := 31

/-- An option as it is explained. -/
structure HelpEntry where
  /-- the column of its first name -/
  indent : Nat
  names : List String
  /-- what stands behind the names -/
  value : String
  /-- the explanation -/
  text : String
  deriving Repr, Inhabited

/-- How wide the names are with what stands behind them. -/
def HelpEntry.width (e : HelpEntry) : Nat :=
  e.indent + (", ".intercalate e.names).length + e.value.length

/-- The explanation of an option for a terminal. -/
def HelpEntry.render (e : HelpEntry) : String :=
  let hang (c : Char) : List Char := if c == '\n' then c :: spaces helpColumn else [c]
  String.ofList (spaces e.indent) ++ ", ".intercalate (e.names.map bold) ++ e.value
    ++ String.ofList (spaces (helpColumn - e.width) ++ e.text.toList.flatMap hang) ++ "\n"

/-- The options, where `profile` is the profile of the environment. -/
def helpEntries (profile : String) : List HelpEntry :=
  [⟨6, ["--profile"], " <PROFILE>",
      "Configuration profile (keys are looked up as \x7bPROFILE\x7d_\x7bKEY\x7d first) "
        ++ "[env: SEAWATCH_PROFILE=" ++ profile ++ "] [default: \"\"]"⟩,
   ⟨6, ["--rules-dir"], " <RULES_DIR>", "Rules directory. Overrides RULES_DIR"⟩,
   ⟨6, ["--model-dir"], " <MODEL_DIR>",
      "Transition model directory to preload. Overrides MODEL_DIR"⟩,
   ⟨6, ["--events"], " <EVENTS>", "JSON-lines event file. Reads stdin when omitted or \x60-\x60"⟩,
   ⟨6, ["--no-watch"], "", "Disable hot-reload of the rules directory"⟩,
   ⟨2, ["-h", "--help"], "", "Print help"⟩,
   ⟨2, ["-V", "--version"], "", "Print version"⟩]

/-- What is printed when help is asked for, where `profile` is the profile of the environment. -/
def help (profile : String) : String :=
  Text.strip <|
    "Vessel rule engine worker\n\nUsage: " ++ bold programName ++ " [OPTIONS]\n\n"
      ++ bold "Options:" ++ "\n" ++ String.join ((helpEntries profile).map (·.render))

end VesselWatch.CommandLine
