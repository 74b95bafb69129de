/-
  Yaml/Scalar.lean --- what a scalar stands for.

  WHAT THIS FILE FIXES.  A plain scalar without a tag is nothing, a truth value, an
  integer, a double or a text, whichever of them it is a written form of first.
  Digits behind a leading zero are a text.  A scalar in quotes or in a block is a
  text.  The tags of the four simple types insist on their type; a tag of the
  application's own is kept around the value, and any other tag makes a text.
-/
import VesselWatch.Decimal.Numeral
import VesselWatch.Node
import VesselWatch.Yaml.Event
import VesselWatch.Yaml.Quoted

set_option autoImplicit false

namespace VesselWatch.Yaml

open Decimal

/-! ## Integers -/

/-- The value of a digit in a base up to sixteen. -/
def digitIn (base : Nat) (c : Char) : Option Nat := (hexValue? c).filter (· < base)

/-- The number that digits of a base write. -/
def magnitudeIn (base : Nat) (cs : List Char) : Option Nat :=
  if cs.isEmpty then none
  else cs.foldlM (fun n c => (digitIn base c).map fun d => base * n + d) 0

/-- The digits behind the mark of a base, with that base. -/
def basedDigits : List Char → Option (Nat × List Char)
  | '0' :: 'x' :: ds => some (16, ds)
  | '0' :: 'o' :: ds => some (8, ds)
  | '0' :: 'b' :: ds => some (2, ds)
  | _ => none

/-- Digits behind a leading zero, which are no number. -/
def zeroPadded (cs : List Char) : Bool :=
  let body := match cs with
    | '-' :: rest => rest
    | '+' :: rest => rest
    | _ => cs
  1 < body.length && body.head? == some '0' && body.all Char.isDigit

/-- The unsigned number of digits in some base. -/
def unsigned? (cs : List Char) : Option Nat :=
  match basedDigits cs with
  | some (base, ds) => magnitudeIn base ds
  | none => magnitudeIn 10 cs

/-- The integer that a text writes, whatever its size. -/
def integer? (cs : List Char) : Option Int :=
  if zeroPadded cs then none
  else match cs with
    | '-' :: rest => (unsigned? rest).map fun n => -(n : Int)
    | '+' :: rest => (unsigned? rest).map Int.ofNat
    | _ => (unsigned? cs).map Int.ofNat

/-- What the size of an integer makes of it. -/
inductive IntegerRange where
  /-- it fits 64 bits: it is a value -/
  | word
  /-- it fits 128 bits only: it is an error -/
  | tooLarge
  /-- it is no integer at all -/
  | beyond
  deriving DecidableEq, Repr, Inhabited

/-- The range of an integer. -/
def integerRange (n : Int) : IntegerRange :=
  if Number.least ≤ n && n ≤ Number.greatest then .word
  else if -(Nat.pow 2 127 : Int) ≤ n && n < (Nat.pow 2 128 : Int) then .tooLarge
  else .beyond

/-! ## Doubles -/

/-- The double that a text writes; one too large for a double is no number. -/
def double? (cs : List Char) : Option Float :=
  let unsigned := match cs with
    | '+' :: rest => rest
    | _ => cs
  let signs := match cs with
    | '+' :: c :: _ => c == '+' || c == '-'
    | _ => false
  if signs then none
  else if [".inf", ".Inf", ".INF"].contains (String.ofList unsigned) then some (1 / 0)
  else if ["-.inf", "-.Inf", "-.INF"].contains (String.ofList cs) then some (-1 / 0)
  else if [".nan", ".NaN", ".NAN"].contains (String.ofList cs) then some (0 / 0)
  else (readFloat unsigned).filter (·.isFinite)

/-! ## All types -/

/-- The text is a written form of nothing. -/
def isNull (s : String) : Bool := ["null", "Null", "NULL", "~"].contains s

/-- The truth value that a text writes. -/
def bool? (s : String) : Option Bool :=
  if ["true", "True", "TRUE"].contains s then some true
  else if ["false", "False", "FALSE"].contains s then some false
  else none

/-- The value of a plain scalar that is no integer. -/
def doubleOrText (s : String) : Node :=
  if zeroPadded s.toList then .text s
  else match double? s.toList with
    | some x => .real x
    | none => .text s

/-- The value of a plain scalar. -/
def plainNode? (s : String) : Option Node :=
  if s == "" || isNull s then some .null
  else match bool? s with
    | some b => some (.bool b)
    | none =>
      match integer? s.toList with
      | some n =>
        match integerRange n with
        | .word => some (.int n)
        | .tooLarge => none
        | .beyond => some (doubleOrText s)
      | none => some (doubleOrText s)

/-- The integer that a text writes, if it fits 64 bits. -/
def wordNode? (s : String) : Option Node :=
  match integer? s.toList with
  | some n => if integerRange n == .word then some (.int n) else none
  | none => none

/-- Puts the application's own tag around a value; other tags say nothing about it. -/
def ownTag (tag : Option Tag) (n : Node) : Node :=
  match tag.map Tag.kind with
  | some (.own (some name)) => .tagged name n
  | _ => n

/-- The value of a scalar. -/
def scalarNode? (tag : Option Tag) (text : String) (plain : Bool) : Option Node :=
  let untagged := if plain then plainNode? text else some (.text text)
  match tag.map Tag.kind with
  | none => untagged
  | some .bool => (bool? text).map .bool
  | some .int => wordNode? text
  | some .float => (double? text.toList).map .real
  | some .null => if isNull text then some .null else none
  | some (.own _) => untagged.map (ownTag tag)
  | some .other => some (.text text)

end VesselWatch.Yaml
