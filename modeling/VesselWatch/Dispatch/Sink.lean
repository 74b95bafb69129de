/-
  Dispatch/Sink.lean --- where alerts end up.

  WHAT THIS FILE FIXES.  A sink takes one alert at a time and either succeeds or
  says why not.  A sink of lines writes each alert as one line of JSON; a line that
  its writer refuses is not written at all.
-/
import VesselWatch.Alert

set_option autoImplicit false

namespace VesselWatch

/-- Why an alert was not delivered. -/
inductive DeliveryError where
  /-- the sink refuses it -/
  | delivery (message : String)
  /-- it cannot be written -/
  | write (message : String)
  deriving DecidableEq, Repr, Inhabited

/-- The message of an error. -/
def DeliveryError.message : DeliveryError → String
  | .delivery message => "Delivery failed: " ++ message
  | .write message => "IO error: " ++ message

/-- A place for lines.  `refuse attempts written line` says why a line cannot be written, after so
many attempts and behind what is written already. -/
structure Writer where
  /-- why a line cannot be written, if it cannot -/
  refuse : Nat → String → String → Option String

/-- A writer that takes everything. -/
def Writer.unlimited : Writer := ⟨fun _ _ _ => none⟩

/-- A writer that takes so many bytes in total. -/
def Writer.limited (bytes : Nat) : Writer :=
  ⟨fun _ written line =>
    if written.utf8ByteSize + line.utf8ByteSize ≤ bytes then none else some "disk full"⟩

/-- The kinds of sinks. -/
inductive SinkKind where
  /-- keeps the alerts -/
  | collect
  /-- refuses every alert -/
  | failing (message : String)
  /-- writes lines of JSON -/
  | lines (writer : Writer)
  /-- writes to the log, which is not looked at here -/
  | log

/-- A sink. -/
structure Sink where
  name : String
  kind : SinkKind
  /-- the alerts it was handed, last one first -/
  handed : List Alert
  written : String

namespace Sink

/-- A sink that has not been used. -/
def fresh (name : String) (kind : SinkKind) : Sink := ⟨name, kind, [], ""⟩

/-- The sink for the log. -/
def log : Sink := fresh "log" .log

/-- The line of an alert, its end included. -/
def lineOf (a : Alert) : String := a.toJson.render ++ "\n"

/-- Hands an alert to the sink: why it was not delivered, if it was not, and the sink
afterwards. -/
def send (a : Alert) (s : Sink) : Option DeliveryError × Sink :=
  let next := { s with handed := a :: s.handed }
  match s.kind with
  | .collect => (none, next)
  | .failing message => (some (.delivery message), next)
  | .log => (none, next)
  | .lines writer =>
    match writer.refuse s.handed.length s.written (lineOf a) with
    | some message => (some (.write message), next)
    | none => (none, { next with written := s.written ++ lineOf a })

end Sink

end VesselWatch
