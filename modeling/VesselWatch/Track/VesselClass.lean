/-
  Track/VesselClass.lean --- coarse classes of vessels.

  WHAT THIS FILE FIXES.  Nine classes, each with a name, and the class of every
  ship-type code.  A name is read in any ASCII letter case, blanks around it
  forgiven.
-/
import VesselWatch.Text.Blank
import VesselWatch.Text.LetterCase

set_option autoImplicit false

namespace VesselWatch.Track

/-- A class of vessels. -/
inductive VesselClass where
  | fishing
  | pleasure
  | highSpeed
  | tug
  | police
  | passenger
  | cargo
  | tanker
  | other
  deriving DecidableEq, Repr, Inhabited

namespace VesselClass

/-- All classes. -/
def all : List VesselClass :=
  [.fishing, .pleasure, .highSpeed, .tug, .police, .passenger, .cargo, .tanker, .other]

/-- The class of a ship-type code. -/
def ofTypeCode (code : Int) : VesselClass :=
  if 36 ≤ code && code ≤ 39 then .pleasure
  else if 30 ≤ code && code ≤ 35 then .fishing
  else if code == 55 || code == 56 then .police
  else if 50 ≤ code && code ≤ 59 then .tug
  else if 60 ≤ code && code ≤ 69 then .passenger
  else if 70 ≤ code && code ≤ 79 then .cargo
  else if 80 ≤ code && code ≤ 89 then .tanker
  else if 40 ≤ code && code ≤ 49 then .highSpeed
  else .other

/-- The name of a class. -/
def name : VesselClass → String
  | .fishing => "fishing"
  | .pleasure => "pleasure"
  | .highSpeed => "highspeed"
  | .tug => "tug"
  | .police => "police"
  | .passenger => "passenger"
  | .cargo => "cargo"
  | .tanker => "tanker"
  | .other => "other"

/-- How a name is compared: without the blanks around it, in lower case. -/
def nameKey (s : String) : String := Text.lowerAscii (Text.trimmed s)

/-- The class of a name. -/
def ofName? (s : String) : Option VesselClass := all.find? fun c => c.name == nameKey s

/-- The message when no class has the name. -/
def unknownMessage (s : String) : String := "unknown vessel class: '" ++ nameKey s ++ "'"

end VesselClass

end VesselWatch.Track
