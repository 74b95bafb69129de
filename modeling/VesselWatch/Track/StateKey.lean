/-
  Track/StateKey.lean --- where a vessel is and where it is heading.

  WHAT THIS FILE FIXES.  A state is a cell and a sector of the compass; written, it
  is `(cell, sector)`.  Blanks around the whole and around either number are
  forgiven, and a plus sign in front of a number; a sector beyond the last is not.
-/
import VesselWatch.Track.Direction
import VesselWatch.Text.Blank
import VesselWatch.Decimal.Numeral
import VesselWatch.Decimal.Shortest

set_option autoImplicit false

namespace VesselWatch.Track

/-- A cell and a sector. -/
structure StateKey where
  /-- number of the cell -/
  cell : Nat
  /-- sector of the compass -/
  bin : Nat
  deriving DecidableEq, Repr, Inhabited

namespace StateKey

/-- The text between an opening and a closing parenthesis at its ends. -/
def unwrap (cs : List Char) : Option (List Char) :=
  match cs with
  | '(' :: rest => if rest.getLast? == some ')' then some rest.dropLast else none
  | _ => none

/-- Reads the written form. -/
def parse? (raw : List Char) : Option StateKey := do
  let inner ← unwrap (Text.trim raw)
  let (cell, bin) ← Text.splitOnce ',' inner
  let cell ← Decimal.readWord (Text.trim cell)
  let bin ← Decimal.readBelow sectorCount (Text.trim bin)
  pure ⟨cell, bin⟩

/-- The written form. -/
def chars (k : StateKey) : List Char :=
  '(' :: (Decimal.natDigits k.cell ++ ',' :: ' ' :: (Decimal.natDigits k.bin ++ [')']))

/-- The written form. -/
def render (k : StateKey) : String := String.ofList k.chars

end StateKey

end VesselWatch.Track
