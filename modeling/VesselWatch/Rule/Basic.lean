/-
  Rule/Basic.lean --- detection rules.

  WHAT THIS FILE FIXES.  A rule has an id, a rank, two switches, conditions with the
  logic that combines them, and an action.  A condition is one of five kinds; a
  window over recent events may have a condition of its own as filter.  Two rules
  are the `same` when nothing that was written differs; floating point numbers are
  compared as numbers, so a NaN differs from itself, and objects without regard to
  the order of their fields.
-/
import VesselWatch.Geo
import VesselWatch.FilePath
import VesselWatch.Text.LetterCase

set_option autoImplicit false

namespace VesselWatch

/-! ## Conditions -/

/-- How a field is compared. -/
inductive CompareOp where
  | greater
  | less
  | atLeast
  | atMost
  | equal
  | different
  /-- contains as a part -/
  | contains
  deriving DecidableEq, Repr, Inhabited

/-- What is tested about a position. -/
inductive SpatialOp where
  /-- it lies in a polygon -/
  | inPolygon
  /-- it lies in a circle -/
  | inCircle
  /-- it lies closer to a point than a distance -/
  | nearPoint
  deriving DecidableEq, Repr, Inhabited

/-- What is tested about the time since a vessel was first seen. -/
inductive TemporalOp where
  /-- it has been seen for so long, the first sight counted -/
  | continuousFor
  /-- its first record is so old; the record itself is no match -/
  | noEventFor
  deriving DecidableEq, Repr, Inhabited

/-- What is tested about the recent events. -/
inductive AggregationOp where
  /-- there are enough of them -/
  | countInWindow
  /-- two of them are close to each other -/
  | pairExists
  deriving DecidableEq, Repr, Inhabited

/-- A comparison of a field with a literal. -/
structure ValueTest where
  field : String
  operator : CompareOp
  value : Json
  deriving Inhabited

/-- A test of the position. -/
structure SpatialTest where
  op : SpatialOp
  polygon : List GeoPoint
  circleCenter : Option GeoPoint
  radiusMeters : Float
  /-- the distance to stay away from a point -/
  distanceMeters : Float
  otherEntity : Option GeoPoint
  deriving Inhabited

/-- A test of time. -/
structure TemporalTest where
  op : TemporalOp
  durationSeconds : Nat
  deriving DecidableEq, Repr, Inhabited

/-- The window of an aggregation, without its filter. -/
structure Window where
  op : AggregationOp
  /-- how far back the window reaches -/
  seconds : Nat
  /-- the least count, or the distance below which two events are close -/
  threshold : Float
  deriving Inhabited

/-- One condition of a rule. -/
inductive Condition where
  | value (test : ValueTest)
  | spatial (test : SpatialTest)
  | temporal (test : TemporalTest)
  /-- a window over the recent events that pass the filter -/
  | aggregation (window : Window) (filter : Option Condition)
  /-- the position is unusual for a model: that of a folder, or the default one -/
  | positionAnomaly (modelFolder : Option Path)
  deriving Inhabited

/-- The name of a kind of condition. -/
def Condition.kind : Condition → String
  | .value _ => "ValueCondition"
  | .spatial _ => "SpatialCondition"
  | .temporal _ => "TemporalStateCondition"
  | .aggregation _ _ => "AggregationCondition"
  | .positionAnomaly _ => "PositionAnomalyCondition"

/-- The folders whose models a condition may ask for. -/
def Condition.modelFolders : Condition → List Path
  | .aggregation _ (some filter) => filter.modelFolders
  | .positionAnomaly (some folder) => [folder]
  | _ => []

/-! ## Rules -/

/-- How the conditions of a rule are combined. -/
inductive CombineLogic where
  /-- all hold -/
  | all
  /-- one holds -/
  | any
  /-- a word that means nothing here, kept as it was written -/
  | unsupported (word : String)
  deriving DecidableEq, Repr, Inhabited

/-- Reads a word, in any ASCII letter case and with blanks around it. -/
def CombineLogic.ofText (s : String) : CombineLogic :=
  let word := Text.upperAscii (Text.trimmed s)
  if word == "AND" then .all else if word == "OR" then .any else .unsupported s

/-- The word of a logic. -/
def CombineLogic.text : CombineLogic → String
  | .all => "AND"
  | .any => "OR"
  | .unsupported s => s

/-- What a match gives. -/
structure Action where
  alertType : String
  severity : String
  notify : List String
  deriving DecidableEq, Repr, Inhabited

/-- A detection rule. -/
structure Rule where
  id : String
  /-- for people -/
  description : String
  /-- rules of higher priority come first -/
  priority : Int
  /-- the rule is evaluated -/
  enabled : Bool
  /-- an alert of this rule suppresses those of rules behind it -/
  exclusive : Bool
  /-- how the conditions are combined -/
  combineLogic : CombineLogic
  conditions : List Condition
  action : Action
  deriving Inhabited

/-! ## Sameness -/

/-- Two optional values are both absent or the same. -/
def sameOption {α : Type} (same : α → α → Bool) : Option α → Option α → Bool
  | none, none => true
  | some a, some b => same a b
  | _, _ => false

/-- Two lists are the same item by item. -/
def sameList {α : Type} (same : α → α → Bool) : List α → List α → Bool
  | [], [] => true
  | a :: as, b :: bs => same a b && sameList same as bs
  | _, _ => false

/-- Nothing that was written differs. -/
def ValueTest.same (a b : ValueTest) : Bool :=
  a.field == b.field && a.operator == b.operator && a.value.same b.value

/-- Nothing that was written differs. -/
def SpatialTest.same (a b : SpatialTest) : Bool :=
  a.op == b.op && sameList GeoPoint.same a.polygon b.polygon
    && sameOption GeoPoint.same a.circleCenter b.circleCenter
    && a.radiusMeters == b.radiusMeters && a.distanceMeters == b.distanceMeters
    && sameOption GeoPoint.same a.otherEntity b.otherEntity

/-- Nothing that was written differs. -/
def Window.same (a b : Window) : Bool :=
  a.op == b.op && a.seconds == b.seconds && a.threshold == b.threshold

/-- Nothing that was written differs. -/
def Condition.same : Condition → Condition → Bool
  | .value a, .value b => a.same b
  | .spatial a, .spatial b => a.same b
  | .temporal a, .temporal b => a == b
  | .aggregation a none, .aggregation b none => a.same b
  | .aggregation a (some f), .aggregation b (some g) => a.same b && f.same g
  | .positionAnomaly a, .positionAnomaly b => sameOption Path.same a b
  | _, _ => false

/-- Nothing that was written differs. -/
def Rule.same (a b : Rule) : Bool :=
  a.id == b.id && a.description == b.description && a.priority == b.priority
    && a.enabled == b.enabled && a.exclusive == b.exclusive && a.combineLogic == b.combineLogic
    && sameList Condition.same a.conditions b.conditions && a.action == b.action

end VesselWatch
