/-
  Engine/Detector.lean --- an engine together with its models.

  WHAT THIS FILE FIXES.  Models are loaded when a condition first asks for their
  folder.  During one event a folder gives one and the same model; what was loaded
  is put on its shelf afterwards.
-/
import VesselWatch.Engine.Evaluate
import VesselWatch.Engine.Update
import VesselWatch.Track.Library

set_option autoImplicit false

namespace VesselWatch

/-- An engine together with its models. -/
structure Detector where
  engine : Engine
  /-- its models -/
  library : Track.Library
  deriving Inhabited

namespace Detector

/-- Applies the rules to an event, loading models from `source`. -/
def evaluate (source : Path → Option Track.Model) (seals : String → Seal) (e : VesselEvent)
    (d : Detector) : Detector × List Alert :=
  let done := d.engine.evaluate (d.library.find source) seals e
  (⟨done.engine, d.library.recordAll source done.consulted⟩, done.alerts)

/-- Replaces all rules. -/
def updateAll (rules : List Rule) (d : Detector) : Detector × Diff :=
  let (engine, diff) := d.engine.updateAll rules
  ({ d with engine := engine }, diff)

/-- Adds or replaces one rule. -/
def updateOne (r : Rule) (d : Detector) : Detector × Diff :=
  let (engine, diff) := d.engine.updateOne r
  ({ d with engine := engine }, diff)

end Detector

end VesselWatch
