/-
  Rule/Document.lean --- rules in documents.

  WHAT THIS FILE FIXES.  The fields of a rule with their defaults, the same for
  JSON and YAML, and the JSON value that a rule is written as.

  A CONDITION IS A VARIANT.  Its kind is named by the field `type`, which may stand
  anywhere but only once; as a list it has the kind first and the fields in their
  order.  The rest is read whole before the kind is looked at, so everything in a
  condition must be readable, and what is nested in it follows the rules for
  variants whatever the document is.  Inside another condition the kind may also be
  given by its number.
-/
import VesselWatch.Decimal.Numeral
import VesselWatch.Rule.Basic

set_option autoImplicit false

namespace VesselWatch

/-! ## Words of the operators -/

/-- The words of the comparisons. -/
def CompareOp.words : List (String × CompareOp) :=
  [(">", .greater), ("<", .less), (">=", .atLeast), ("<=", .atMost), ("==", .equal),
   ("!=", .different), ("contains", .contains)]

/-- The words of the tests of a position. -/
def SpatialOp.words : List (String × SpatialOp) :=
  [("in_polygon", .inPolygon), ("in_circle", .inCircle), ("side_distance_lt", .nearPoint)]

/-- The words of the tests of time. -/
def TemporalOp.words : List (String × TemporalOp) :=
  [("continuous_for", .continuousFor), ("no_event_for", .noEventFor)]

/-- The words of the tests of a window. -/
def AggregationOp.words : List (String × AggregationOp) :=
  [("count_in_window", .countInWindow), ("pair_exists", .pairExists)]

/-- The word of an operator. -/
def wordOf {α : Type} [BEq α] (words : List (String × α)) (a : α) : String :=
  ((words.find? fun w => w.2 == a).map (·.1)).getD ""

/-- The word that a key is, or whose number it is. -/
def ofKey? {α : Type} (words : List (String × α)) : Node → Option α
  | .text s => words.lookup s
  | .int n => if 0 ≤ n then (words[n.toNat]?).map (·.2) else none
  | _ => none

/-- Reads an operator: its word, or a record with the word as its only key and nothing in it. -/
def operator? {α : Type} (words : List (String × α)) : Node → Option α
  | .text s => words.lookup s
  | .record [(key, .null)] => ofKey? words key
  | .record [(key, .record [])] => ofKey? words key
  | _ => none

/-! ## Reading conditions -/

/-- The kinds of conditions. -/
inductive ConditionKind where
  | value
  | spatial
  | temporal
  | aggregation
  | positionAnomaly
  deriving DecidableEq, Repr, Inhabited

/-- The words of the kinds. -/
def ConditionKind.words : List (String × ConditionKind) :=
  [("ValueCondition", .value), ("SpatialCondition", .spatial),
   ("TemporalStateCondition", .temporal), ("AggregationCondition", .aggregation),
   ("PositionAnomalyCondition", .positionAnomaly)]

/-- Reads a kind: its word, or inside another condition also its number. -/
def ConditionKind.ofNode? (style : Node.Style) (n : Node) : Option ConditionKind :=
  if style.numbersNameFields then ofKey? words n else (n.text? style).bind fun s => words.lookup s

/-- The longest duration that a condition may have, in seconds: as milliseconds it fits 63 bits. -/
def longestSeconds : Nat := 9223372036854775807 / 1000

/-- Reads a duration. -/
def duration? (n : Node) : Option Nat :=
  (n.int? .variant 0 (Int.ofNat longestSeconds)).map Int.toNat

/-- Reads every item of a list. -/
def every? {α : Type} (read : Node → Option α) : List Node → Option (List α)
  | [] => some []
  | n :: ns => do
    let a ← read n
    let rest ← every? read ns
    pure (a :: rest)

/-- Reads a comparison. -/
def ValueTest.ofNode? (n : Node) : Option ValueTest := do
  let [field, operator, value] ← n.slots .variant ["field", "operator", "value"] | none
  let field ← field
  let operator ← operator
  let value ← value
  pure ⟨← field.text? .variant, ← operator? CompareOp.words operator, ← value.toJson?⟩

/-- Reads a test of the position. -/
def SpatialTest.ofNode? (n : Node) : Option SpatialTest := do
  let [op, polygon, center, radius, distance, other] ← n.slots .variant
    ["op", "polygon", "circleCenter", "radiusMeters", "distanceMeters", "otherEntity"] | none
  let op ← op
  let point := GeoPoint.ofNode? .variant
  pure {
    op := ← operator? SpatialOp.words op
    polygon := ← Node.orElse (fun n => (n.list? .variant).bind (every? point)) [] polygon
    circleCenter := ← Node.optional point center
    radiusMeters := ← Node.orElse (Node.float? .variant) 1000 radius
    distanceMeters := ← Node.orElse (Node.float? .variant) 100 distance
    otherEntity := ← Node.optional point other }

/-- Reads a test of time. -/
def TemporalTest.ofNode? (n : Node) : Option TemporalTest := do
  let [op, duration] ← n.slots .variant ["op", "durationSeconds"] | none
  let op ← op
  let duration ← duration
  pure ⟨← operator? TemporalOp.words op, ← duration? duration⟩

/-- Reads an aggregation, its filter by `filter?`. -/
def aggregation? (filter? : Node → Option Condition) (n : Node) : Option Condition := do
  let [op, seconds, threshold, filter] ←
    n.slots .variant ["op", "windowSeconds", "threshold", "filter"] | none
  let op ← op
  let seconds ← seconds
  let threshold ← threshold
  let window : Window :=
    ⟨← operator? AggregationOp.words op, ← duration? seconds, ← threshold.float? .variant⟩
  pure (.aggregation window (← Node.optional filter? filter))

/-- Reads the folder of a model. -/
def positionAnomaly? (n : Node) : Option Condition := do
  let [folder] ← n.slots .variant ["modelFolder"] | none
  pure (.positionAnomaly (← Node.optional (fun n => (n.text? .variant).map Path.mk) folder))

/-- A field of a variant that names its kind. -/
def namesKind (field : Node × Node) : Bool :=
  match field.1 with
  | .text s => s == "type"
  | _ => false

/-- Takes a variant apart: the node of its kind, and the rest. -/
def splitVariant : Node → Option (Node × Node)
  | .record fields =>
    match fields.filter namesKind with
    | [(_, kind)] => some (kind, .record (fields.filter fun f => !namesKind f))
    | _ => none
  | .list (kind :: rest) => some (kind, .list rest)
  | _ => none

/-- Reads a condition in which at most `depth` others are nested. -/
def Condition.decode : Nat → Node.Style → Node → Option Condition
  | 0, _, _ => none
  | depth + 1, style, n => do
    let (kind, rest) ← splitVariant n
    let kind ← ConditionKind.ofNode? style kind
    if rest.readable then
      match kind with
      | .value => (ValueTest.ofNode? rest).map .value
      | .spatial => (SpatialTest.ofNode? rest).map .spatial
      | .temporal => (TemporalTest.ofNode? rest).map .temporal
      | .aggregation => aggregation? (Condition.decode depth .variant) rest
      | .positionAnomaly => positionAnomaly? rest
    else none

/-! ## Nesting -/

mutual

/-- How many nodes lie inside one another. -/
def Node.height : Node → Nat
  | .list items => Node.itemsHeight items + 1
  | .record fields => Node.fieldsHeight fields + 1
  | .tagged _ value => value.height + 1
  | _ => 1

/-- The greatest height of an item. -/
def Node.itemsHeight : List Node → Nat
  | [] => 0
  | n :: ns => max n.height (Node.itemsHeight ns)

/-- The greatest height of a key or value. -/
def Node.fieldsHeight : List (Node × Node) → Nat
  | [] => 0
  | (k, v) :: rest => max (max k.height v.height) (Node.fieldsHeight rest)

end

/-- Reads a condition. -/
def Condition.ofNode? (style : Node.Style) (n : Node) : Option Condition :=
  Condition.decode n.height style n

/-! ## Reading rules -/

/-- Reads a list of texts. -/
def texts? (style : Node.Style) (n : Node) : Option (List String) :=
  (n.list? style).bind (every? (Node.text? style))

/-- Reads an action. -/
def Action.ofNode? (style : Node.Style) (n : Node) : Option Action := do
  let [alertType, severity, notify] ← n.slots style ["alertType", "severity", "notify"] | none
  let alertType ← alertType
  let severity ← severity
  pure ⟨← alertType.text? style, ← severity.text? style,
    ← Node.orElse (texts? style) [] notify⟩

/-- Reads a rule. -/
def Rule.ofNode? (style : Node.Style) (n : Node) : Option Rule := do
  let [id, description, priority, enabled, exclusive, logic, conditions, action] ← n.slots style
    ["id", "description", "priority", "enabled", "exclusive", "combineLogic", "conditions",
     "action"] | none
  let id ← id
  let action ← action
  let conditions? (n : Node) := (n.list? style).bind (every? (Condition.ofNode? style))
  pure {
    id := ← id.text? style
    description := ← Node.orElse (Node.text? style) "" description
    priority := ← Node.orElse (Node.int? style Decimal.leastInt32 Decimal.greatestInt32) 0 priority
    enabled := ← Node.orElse (Node.bool? style) true enabled
    exclusive := ← Node.orElse (Node.bool? style) false exclusive
    combineLogic := ← Node.orElse (fun n => (n.text? style).map CombineLogic.ofText) .all logic
    conditions := ← Node.orElse conditions? [] conditions
    action := ← Action.ofNode? style action }

/-- Reads a list of rules. -/
def Rule.listOfNode? (style : Node.Style) (n : Node) : Option (List Rule) :=
  (n.list? style).bind (every? (Rule.ofNode? style))

/-! ## Writing -/

/-- A field that is left out when it has no value. -/
def optionalField {α : Type} (name : String) (write : α → Json) :
    Option α → List (String × Json)
  | none => []
  | some a => [(name, write a)]

/-- The condition as a JSON value. -/
def Condition.toJson : Condition → Json
  | .value t => .object
      [("type", .text "ValueCondition"), ("field", .text t.field),
       ("operator", .text (wordOf CompareOp.words t.operator)), ("value", t.value)]
  | .spatial t => .object <|
      [("type", .text "SpatialCondition"), ("op", .text (wordOf SpatialOp.words t.op)),
       ("polygon", .array (t.polygon.map GeoPoint.toJson))]
      ++ optionalField "circleCenter" GeoPoint.toJson t.circleCenter
      ++ [("radiusMeters", Json.ofFloat t.radiusMeters),
          ("distanceMeters", Json.ofFloat t.distanceMeters)]
      ++ optionalField "otherEntity" GeoPoint.toJson t.otherEntity
  | .temporal t => .object
      [("type", .text "TemporalStateCondition"), ("op", .text (wordOf TemporalOp.words t.op)),
       ("durationSeconds", .ofInt t.durationSeconds)]
  | .aggregation w none => .object (windowFields w)
  | .aggregation w (some f) => .object (windowFields w ++ [("filter", f.toJson)])
  | .positionAnomaly folder => .object <|
      ("type", .text "PositionAnomalyCondition")
        :: optionalField "modelFolder" (fun p => .text p.text) folder
where
  /-- The fields of an aggregation before its filter. -/
  windowFields (w : Window) : List (String × Json) :=
    [("type", .text "AggregationCondition"), ("op", .text (wordOf AggregationOp.words w.op)),
     ("windowSeconds", .ofInt w.seconds), ("threshold", Json.ofFloat w.threshold)]

/-- The action as a JSON value. -/
def Action.toJson (a : Action) : Json :=
  .object
    [("alertType", .text a.alertType), ("severity", .text a.severity),
     ("notify", .array (a.notify.map .text))]

/-- The rule as a JSON value, every default filled in. -/
def Rule.toJson (r : Rule) : Json :=
  .object
    [("id", .text r.id), ("description", .text r.description), ("priority", .ofInt r.priority),
     ("enabled", .bool r.enabled), ("exclusive", .bool r.exclusive),
     ("combineLogic", .text r.combineLogic.text),
     ("conditions", .array (r.conditions.map Condition.toJson)), ("action", r.action.toJson)]

end VesselWatch
