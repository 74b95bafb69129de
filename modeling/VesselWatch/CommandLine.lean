/-
  CommandLine.lean --- the arguments of the program.

  WHAT THIS FILE FIXES.  Every option has a long name; its value stands behind an
  equals sign or is the next argument, which may then not look like an option.  No
  option may be given twice, and nothing else may be given.  A request for help or
  for the version is answered as soon as it is met.
-/
import VesselWatch.FilePath

set_option autoImplicit false

namespace VesselWatch

/-- The options as they were given. -/
structure Options where
  profile : Option String
  rulesFolder : Option Path
  /-- the folder of the model to load at the start -/
  modelFolder : Option Path
  events : Option Path
  /-- rule files are not watched -/
  noWatch : Bool
  deriving Repr, Inhabited

/-- What the arguments ask for. -/
inductive Request where
  | run (options : Options)
  | help
  | version
  deriving Repr, Inhabited

namespace CommandLine

/-- No options. -/
def noOptions : Options := ⟨none, none, none, none, false⟩

/-- An option that takes a value. -/
inductive Valued where
  | profile
  | rulesFolder
  | modelFolder
  | events
  deriving DecidableEq, Repr, Inhabited

/-- The long names of the options that take a value. -/
def Valued.names : List (String × Valued) :=
  [("profile", .profile), ("rules-dir", .rulesFolder), ("model-dir", .modelFolder),
   ("events", .events)]

/-- A path that is given for the first time and is not empty. -/
def setPath (old : Option Path) (value : String) : Option Path :=
  if old.isSome || value == "" then none else some ⟨value⟩

/-- Sets an option. -/
def set (o : Options) (name : Valued) (value : String) : Option Options :=
  match name with
  | .profile => if o.profile.isSome then none else some { o with profile := some value }
  | .rulesFolder =>
    (setPath o.rulesFolder value).map fun p => { o with rulesFolder := some p }
  | .modelFolder =>
    (setPath o.modelFolder value).map fun p => { o with modelFolder := some p }
  | .events => (setPath o.events value).map fun p => { o with events := some p }

/-- One argument by its form. -/
inductive Argument where
  /-- `--name`, perhaps with `=value` -/
  | long (name : String) (value : Option String)
  /-- a dash and letters -/
  | short (letters : List Char)
  /-- two dashes alone -/
  | separator
  /-- anything else -/
  | plain
  deriving DecidableEq, Repr, Inhabited

/-- The form of an argument. -/
def Argument.ofText (s : String) : Argument :=
  match s.toList with
  | ['-', '-'] => .separator
  | '-' :: '-' :: rest =>
    let name := rest.takeWhile (· != '=')
    match rest.dropWhile (· != '=') with
    | [] => .long (String.ofList name) none
    | _ :: value => .long (String.ofList name) (some (String.ofList value))
  | '-' :: c :: cs => .short (c :: cs)
  | _ => .plain

/-- Reads the arguments behind those that gave the options `o`; nothing when they are wrong. -/
def readFrom (o : Options) : List String → Option Request
  | [] => some (.run o)
  | arg :: rest =>
    match Argument.ofText arg with
    | .plain => none
    | .separator => if rest.isEmpty then some (.run o) else none
    | .short letters =>
      if letters.head? == some 'h' then some .help
      else if letters.head? == some 'V' then some .version
      else none
    | .long name none =>
      if name == "help" then some .help
      else if name == "version" then some .version
      else if name == "no-watch" then
        if o.noWatch then none else readFrom { o with noWatch := true } rest
      else
        match Valued.names.lookup name, rest with
        | some option, value :: rest =>
          if Argument.ofText value == .plain then
            match set o option value with
            | some o => readFrom o rest
            | none => none
          else none
        | _, _ => none
    | .long name (some value) =>
      match (Valued.names.lookup name).bind fun option => set o option value with
      | some o => readFrom o rest
      | none => none

/-- Reads the arguments; nothing when they are wrong. -/
def read (args : List String) : Option Request := readFrom noOptions args

end CommandLine

end VesselWatch
