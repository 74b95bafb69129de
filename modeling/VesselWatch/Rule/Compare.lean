/-
  Rule/Compare.lean --- comparing a field with a literal.

  WHAT THIS FILE FIXES.  Both sides become texts first; a field that is absent and a
  literal that is `null` compare to nothing.  If both texts write numbers, the
  numbers are compared, equality being within a millionth; otherwise the texts are,
  without regard to letter case, and only for equality and containment.
-/
import VesselWatch.Rule.Basic
import VesselWatch.VesselEvent

set_option autoImplicit false

namespace VesselWatch

namespace CompareOp

/-- Numbers closer than this are equal. -/
def tolerance : Float := 0.000001

/-- Compares numbers. -/
def numbers (op : CompareOp) (a b : Float) : Bool :=
  match op with
  | .greater => a > b
  | .less => a < b
  | .atLeast => a ≥ b
  | .atMost => a ≤ b
  | .equal => (a - b).abs < tolerance
  | .different => (a - b).abs > tolerance
  | .contains => false

/-- Compares texts. -/
def texts (op : CompareOp) (a b : String) : Bool :=
  match op with
  | .equal => Text.sameIgnoringAsciiCase a b
  | .different => !Text.sameIgnoringAsciiCase a b
  | .contains => Text.containsRun (Text.lower b).toList (Text.lower a).toList
  | _ => false

end CompareOp

/-- The comparison holds for an event. -/
def ValueTest.holds (t : ValueTest) (e : VesselEvent) : Bool :=
  match e.fieldText t.field, VesselEvent.valueText t.value with
  | some actual, some expected =>
    match VesselEvent.number? actual, VesselEvent.number? expected with
    | some a, some b => t.operator.numbers a b
    | _, _ => t.operator.texts actual expected
  | _, _ => false

end VesselWatch
