/-
  Config.lean --- settings taken from the environment.

  WHAT THIS FILE FIXES.  Under a profile every setting is looked up as
  `PROFILE_KEY` first and as `KEY` then; the profile is raised to upper case, and
  an empty value counts as none.  A number that does not parse gives the default.
-/
import VesselWatch.Json.Basic
import VesselWatch.FilePath
import VesselWatch.Text.LetterCase
import VesselWatch.Decimal.Numeral

set_option autoImplicit false

namespace VesselWatch

/-- Variables of the environment with their values. -/
abbrev Environment := List (String × String)

/-- The settings. -/
structure Config where
  /-- the profile in upper case, empty for none -/
  profile : String
  /-- the folder of rule files -/
  rulesFolder : Path
  /-- rule files are watched for changes -/
  watch : Bool
  /-- the folder of the model to load at the start -/
  modelFolder : Option Path
  /-- how long one evaluation may take, in milliseconds -/
  settleTimeout : Nat
  /-- how long a worker may take to stop, in milliseconds -/
  joinTimeout : Nat
  deriving Repr, Inhabited

namespace Config

/-- The value of a variable, unless it is empty. -/
def value? (env : Environment) (key : String) : Option String :=
  (env.lookup key).filter (· != "")

/-- The value of a setting under a profile. -/
def setting? (env : Environment) (profile key : String) : Option String :=
  (if profile == "" then none else value? env (profile ++ "_" ++ key)).or (value? env key)

/-- The number of a setting. -/
def number (env : Environment) (profile key : String) (default : Nat) : Nat :=
  ((setting? env profile key).bind fun s => Decimal.readWord s.toList).getD default

/-- The settings of a profile. -/
def forProfile (env : Environment) (name : String) : Config :=
  let profile := Text.upper name
  { profile
    rulesFolder := ⟨(setting? env profile "RULES_DIR").getD "data/rules"⟩
    watch := (setting? env profile "RULES_WATCH").getD "true" == "true"
    modelFolder := (setting? env profile "MODEL_DIR").map Path.mk
    settleTimeout := number env profile "SEAWATCH_SETTLE_TIMEOUT_MS" 5000
    joinTimeout := number env profile "SEAWATCH_JOIN_TIMEOUT_MS" 1000 }

/-- The settings of the profile that the environment names. -/
def ofEnvironment (env : Environment) : Config :=
  forProfile env ((env.lookup "SEAWATCH_PROFILE").getD "")

/-- The name of the profile for people. -/
def label (c : Config) : String := if c.profile == "" then "default" else c.profile

/-- The settings as a JSON value. -/
def toJson (c : Config) : Json :=
  .object
    [("profile", .text c.profile),
     ("rules", .object [("dir", .text c.rulesFolder.text), ("watch", .bool c.watch)]),
     ("model", .object
       [("dir", match c.modelFolder with
          | some p => .text p.text
          | none => .null)]),
     ("engine", .object
       [("settle_timeout_ms", .ofInt c.settleTimeout),
        ("join_timeout_ms", .ofInt c.joinTimeout)])]

end Config

end VesselWatch
