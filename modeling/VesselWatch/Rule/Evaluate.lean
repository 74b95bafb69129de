/-
  Rule/Evaluate.lean --- conditions and rules applied to an event.

  WHAT THIS FILE FIXES.  What each condition says about an event, given the memory of
  its rule, and what the memory is afterwards.  Times are those of the events, not
  of a clock.  A condition that lacks what it needs is an error.

  THE WINDOW.  An aggregation first drops the events that have grown too old, then
  those that its filter refuses now, then admits the new event if the filter lets
  it pass, and only then counts.  While the filter is at work the window is out of
  its sight; whatever a filter that is itself an aggregation leaves behind there is
  overwritten.

  MODELS are looked up through a function; which folders were asked for is part of
  the outcome, so that whoever keeps the models can remember what was loaded.
-/
import VesselWatch.Rule.Compare
import VesselWatch.Rule.State
import VesselWatch.Track.Model

set_option autoImplicit false

namespace VesselWatch

/-- Why a condition cannot be evaluated. -/
inductive ConditionError where
  /-- the polygon has fewer than three vertices -/
  | polygonTooSmall (vertices : Nat)
  /-- the circle has no centre -/
  | missingCircleCenter
  deriving DecidableEq, Repr, Inhabited

/-- The message of an error. -/
def ConditionError.message : ConditionError → String
  | .polygonTooSmall n => "polygon needs at least 3 vertices, got " ++ toString n
  | .missingCircleCenter => "in_circle requires circleCenter"

/-- What comes of evaluating something: the verdict, the memory afterwards, and the folders whose
models were asked for. -/
structure Outcome (ε : Type) where
  verdict : Except ε Bool
  state : RuleState
  /-- the folders whose models were asked for, in order -/
  consulted : List Path
  deriving Inhabited

/-- A way to look a model up: that of a folder, or the default one. -/
abbrev Models := Option Path → Option Track.Model

/-! ## Position -/

/-- Applies a test of the position. -/
def SpatialTest.evaluate (t : SpatialTest) (e : VesselEvent) : Except ConditionError Bool :=
  match t.op with
  | .inPolygon =>
    if t.polygon.length < 3 then .error (.polygonTooSmall t.polygon.length)
    else .ok (Geo.contains t.polygon e.location)
  | .inCircle =>
    match t.circleCenter with
    | none => .error .missingCircleCenter
    | some center => .ok (Geo.distance e.location center ≤ t.radiusMeters)
  | .nearPoint =>
    match t.otherEntity with
    | none => .ok false
    | some other => .ok (Geo.distance e.location other < t.distanceMeters)

/-! ## Time -/

/-- The longest span of time, in nanoseconds: as milliseconds it fits 63 bits. -/
def longestSpan : Int := 9223372036854775807 * 1000000

/-- A number of seconds with a sign, if 64 bits hold it. -/
def signedSeconds? (seconds : Nat) : Option Int :=
  if seconds ≤ 9223372036854775807 then some (seconds : Int) else none

/-- Whole seconds as a span of time, in nanoseconds, if there is one so long, in either
direction. -/
def wholeSeconds? (seconds : Int) : Option Int :=
  let nanos := seconds * 1000000000
  if -longestSpan ≤ nanos && nanos ≤ longestSpan then some nanos else none

/-- Seconds in nanoseconds, at most the longest span. -/
def span (seconds : Nat) : Int :=
  ((signedSeconds? seconds).bind wholeSeconds?).getD longestSpan

/-- Applies a test of time.  A first record is never refreshed. -/
def TemporalTest.evaluate (t : TemporalTest) (e : VesselEvent) (s : RuleState) :
    Bool × RuleState :=
  match t.op with
  | .continuousFor =>
    match s.temporalStart.lookup e.vesselId with
    | some start => (span t.durationSeconds ≤ e.timestamp.since start, s)
    | none =>
      (span t.durationSeconds ≤ e.timestamp.since e.timestamp,
        { s with temporalStart := Assoc.put e.vesselId e.timestamp s.temporalStart })
  | .noEventFor =>
    match s.lastSeen.lookup e.vesselId with
    | some first => (span t.durationSeconds ≤ e.timestamp.since first, s)
    | none => (false, { s with lastSeen := Assoc.put e.vesselId e.timestamp s.lastSeen })

/-! ## Unusual positions -/

/-- Attributes that may hold the course, the first one present counts. -/
def courseAttributes : List String := ["COG", "Cog", "course", "Course"]

/-- Attributes that may hold the ship-type code, the first one present counts. -/
def typeAttributes : List String := ["VesselType", "vtype", "VesselTypeCode"]

/-- The text of the first attribute that is present. -/
def VesselEvent.firstText (e : VesselEvent) (names : List String) : Option String :=
  names.findSome? e.attributeText

/-- The course in the attributes, zero if there is none or it is no number. -/
def VesselEvent.attributeCourse (e : VesselEvent) : Float :=
  ((e.firstText courseAttributes).bind VesselEvent.number?).getD 0

/-- The ship-type code in the attributes, zero if there is none or it is no 32-bit integer. -/
def VesselEvent.attributeType (e : VesselEvent) : Int :=
  ((e.firstText typeAttributes).bind fun s => Decimal.readInt32 (Text.trim s.toList)).getD 0

/-- The position is unusual for a model; where the model gives no answer, it is not. -/
def VesselEvent.isUnusual (e : VesselEvent) (m : Option Track.Model) : Bool :=
  match m with
  | none => false
  | some m =>
    match m.checkPosition e.location e.attributeCourse e.attributeType with
    | .ok verdict => verdict.isAnomaly
    | .error _ => false

/-! ## Windows -/

/-- The events of a window that are not too old at `now`. -/
def Window.unexpired (w : Window) (now : Instant) (recent : List VesselEvent) :
    List VesselEvent :=
  recent.filter fun past => now.since past.timestamp ≤ span w.seconds

/-- Two of the events are closer to each other than `distance`. -/
def hasClosePair (distance : Float) : List VesselEvent → Bool
  | [] => false
  | a :: rest =>
    (rest.any fun b => Geo.distance a.location b.location < distance)
      || hasClosePair distance rest

/-- What the window says about its events. -/
def Window.verdict (w : Window) (recent : List VesselEvent) : Bool :=
  match w.op with
  | .countInWindow => Float.ofNat recent.length ≥ w.threshold
  | .pairExists => hasClosePair w.threshold recent

/-- A filter at work. -/
abbrev Filter := VesselEvent → RuleState → Outcome ConditionError

/-- What is left of a row of events after a filter has been applied to them. -/
structure Refiltered where
  /-- the events that passed, or the error that ended it -/
  kept : Except ConditionError (List VesselEvent)
  state : RuleState
  /-- the folders whose models were asked for -/
  consulted : List Path
  deriving Inhabited

/-- Applies a filter to events in their order, up to the first error. -/
def refilter (filter : Filter) : List VesselEvent → RuleState → Refiltered
  | [], s => ⟨.ok [], s, []⟩
  | past :: rest, s =>
    let here := filter past s
    match here.verdict with
    | .error err => ⟨.error err, here.state, here.consulted⟩
    | .ok passes =>
      let later := refilter filter rest here.state
      { kept := later.kept.map fun kept => if passes then past :: kept else kept
        state := later.state
        consulted := here.consulted ++ later.consulted }

/-- Applies an aggregation without a filter. -/
def Window.evaluate (w : Window) (e : VesselEvent) (s : RuleState) : Outcome ConditionError :=
  let recent := w.unexpired e.timestamp s.recent ++ [e]
  ⟨.ok (w.verdict recent), { s with recent := recent }, []⟩

/-- Applies an aggregation with a filter. -/
def Window.evaluateFiltered (w : Window) (filter : Filter) (e : VesselEvent) (s : RuleState) :
    Outcome ConditionError :=
  let recent := w.unexpired e.timestamp s.recent
  let old := refilter filter recent { s with recent := [] }
  match old.kept with
  | .error err => ⟨.error err, { old.state with recent := recent }, old.consulted⟩
  | .ok kept =>
    let new := filter e old.state
    let consulted := old.consulted ++ new.consulted
    match new.verdict with
    | .error err => ⟨.error err, { new.state with recent := kept }, consulted⟩
    | .ok admitted =>
      let recent := if admitted then kept ++ [e] else kept
      ⟨.ok (w.verdict recent), { new.state with recent := recent }, consulted⟩

/-! ## Conditions and rules -/

/-- Applies a condition. -/
def Condition.evaluate (models : Models) : Condition → Filter
  | .value t, e, s => ⟨.ok (t.holds e), s, []⟩
  | .spatial t, e, s => ⟨t.evaluate e, s, []⟩
  | .temporal t, e, s =>
    let (b, s) := t.evaluate e s
    ⟨.ok b, s, []⟩
  | .aggregation w none, e, s => w.evaluate e s
  | .aggregation w (some f), e, s => w.evaluateFiltered (f.evaluate models) e s
  | .positionAnomaly folder, e, s => ⟨.ok (e.isUnusual (models folder)), s, folder.toList⟩

/-- Why a rule cannot be evaluated. -/
inductive RuleError where
  /-- a condition cannot be -/
  | condition (error : ConditionError)
  /-- the conditions are combined by a word that means nothing -/
  | unsupportedLogic (word : String)
  deriving DecidableEq, Repr, Inhabited

/-- Applies conditions in their order until one gives the verdict `last` or fails. -/
def evaluateUntil (models : Models) (last : Bool) (e : VesselEvent) :
    List Condition → RuleState → Outcome ConditionError
  | [], s => ⟨.ok !last, s, []⟩
  | c :: rest, s =>
    let here := c.evaluate models e s
    match here.verdict with
    | .error err => ⟨.error err, here.state, here.consulted⟩
    | .ok b =>
      if b == last then ⟨.ok last, here.state, here.consulted⟩
      else
        let later := evaluateUntil models last e rest here.state
        ⟨later.verdict, later.state, here.consulted ++ later.consulted⟩

/-- An outcome among the outcomes of rules. -/
def Outcome.ofCondition (o : Outcome ConditionError) : Outcome RuleError :=
  ⟨o.verdict.mapError .condition, o.state, o.consulted⟩

/-- Applies a rule.  A rule without conditions never matches. -/
def Rule.evaluate (models : Models) (r : Rule) (e : VesselEvent) (s : RuleState) :
    Outcome RuleError :=
  if r.conditions.isEmpty then ⟨.ok false, s, []⟩
  else match r.combineLogic with
    | .all => (evaluateUntil models false e r.conditions s).ofCondition
    | .any => (evaluateUntil models true e r.conditions s).ofCondition
    | .unsupported word => ⟨.error (.unsupportedLogic word), s, []⟩

end VesselWatch
