/-
  Uuid.lean --- identifiers of 128 bits.

  WHAT THIS FILE FIXES.  The written form is five groups of lower-case hexadecimal
  digits joined by hyphens.  Read are, in any letter case of the digits, that form,
  the same in braces or behind `urn:uuid:`, and the bare 32 digits.
-/
import VesselWatch.Json.Token
import VesselWatch.Json.Printer

set_option autoImplicit false

namespace VesselWatch

/-- An identifier of 128 bits. -/
structure Uuid where
  bits : BitVec 128
  deriving DecidableEq, Repr, Inhabited

namespace Uuid

/-- An identifier whose bits are those of a random number, but for the six that say so. -/
def ofRandom (n : Nat) : Uuid :=
  let free := 0xffffffffffff0fff3fffffffffffffff#128
  let fixed := 0x00000000000040008000000000000000#128
  ⟨BitVec.ofNat 128 n &&& free ||| fixed⟩

/-- The `n` last hexadecimal digits of a number. -/
def hexDigits : Nat → Nat → List Char
  | 0, _ => []
  | n + 1, value => hexDigits n (value / 16) ++ [hexDigit (value % 16)]

/-- The sizes of the groups of digits. -/
def groups : List Nat := [8, 4, 4, 4, 12]

/-- Cuts digits into groups joined by hyphens. -/
def hyphenated : List Nat → List Char → List Char
  | [], _ => []
  | [size], ds => ds.take size
  | size :: sizes, ds => ds.take size ++ '-' :: hyphenated sizes (ds.drop size)

/-- The written form. -/
def chars (u : Uuid) : List Char := hyphenated groups (hexDigits 32 u.bits.toNat)

/-- The written form. -/
def render (u : Uuid) : String := String.ofList u.chars

/-- The number that hexadecimal digits write. -/
def hexNumber? (ds : List Char) : Option Nat :=
  ds.foldlM (fun n d => (Json.hexValue d).map fun v => 16 * n + v) 0

/-- Joins groups of the given sizes that are separated by hyphens. -/
def joinGroups? : List Nat → List Char → Option (List Char)
  | [], _ => none
  | [size], ds => if ds.length == size then some ds else none
  | size :: sizes, ds =>
    match ds.drop size with
    | '-' :: rest => (joinGroups? sizes rest).map (ds.take size ++ ·)
    | _ => none

/-- What stands between braces. -/
def unbrace? (cs : List Char) : Option (List Char) :=
  match cs with
  | '{' :: rest => if rest.getLast? == some '}' then some rest.dropLast else none
  | _ => none

/-- What stands in front of an identifier that is written as a name. -/
def nameStart : List Char := "urn:uuid:".toList

/-- The thirty-two digits of an identifier in one of its forms. -/
def digits? (cs : List Char) : Option (List Char) :=
  if cs.length == 32 then some cs
  else
    let body :=
      if nameStart.isPrefixOf cs then cs.drop nameStart.length else (unbrace? cs).getD cs
    joinGroups? groups body

/-- Reads an identifier. -/
def ofText? (s : String) : Option Uuid :=
  ((digits? s.toList).bind hexNumber?).map fun n => ⟨BitVec.ofNat 128 n⟩

end Uuid

end VesselWatch
