/-
  Text/LetterCase.lean --- lower and upper case, for ASCII and for all of Unicode.

  WHAT THIS FILE FIXES.  Names are matched in ASCII case only (`lowerAscii`,
  `sameIgnoringAsciiCase`).  The search for a text inside another one, and the
  name of a profile, use the full mappings of the Unicode standard: a character
  may become several, and a capital sigma at the end of a word is lowered to the
  final form.
-/
import VesselWatch.Text.LetterCase.Table
import VesselWatch.Text.Ranges

set_option autoImplicit false

namespace VesselWatch.Text

/-! ## ASCII -/

/-- Lowers an ASCII capital and keeps every other character. -/
def lowerAsciiChar (c : Char) : Char :=
  if 'A' ≤ c && c ≤ 'Z' then Char.ofNat (c.toNat + 32) else c

/-- Raises an ASCII small letter and keeps every other character. -/
def upperAsciiChar (c : Char) : Char :=
  if 'a' ≤ c && c ≤ 'z' then Char.ofNat (c.toNat - 32) else c

/-- The text with its ASCII capitals lowered. -/
def lowerAscii (s : String) : String := String.ofList (s.toList.map lowerAsciiChar)

/-- The text with its ASCII small letters raised. -/
def upperAscii (s : String) : String := String.ofList (s.toList.map upperAsciiChar)

/-- Two texts are equal up to the case of ASCII letters. -/
def sameIgnoringAsciiCase (a b : String) : Bool :=
  a.toList.map lowerAsciiChar == b.toList.map lowerAsciiChar

/-! ## All of Unicode -/

/-- The partner of a code point in a table of runs. -/
def partner (runs : List CaseRun) (n : Nat) : Option Nat :=
  (runs.find? (·.covers n)).map fun r => (Int.ofNat n + r.shift).toNat

/-- Lower case of one character, away from a capital sigma. -/
def lowerChar (c : Char) : List Char :=
  let n := c.toNat
  if n < 0x80 then [lowerAsciiChar c]
  else if n == 0x130 then ['i', '\u0307']
  else [((partner lowerRuns n).map Char.ofNat).getD c]

/-- Upper case of one character. -/
def upperChar (c : Char) : List Char :=
  let n := c.toNat
  if n < 0x80 then [upperAsciiChar c]
  else match upperExpansions.lookup n with
    | some ns => ns.map Char.ofNat
    | none => [((partner upperRuns n).map Char.ofNat).getD c]

/-- Behind the characters that are passed over comes a letter with case. -/
def casedAhead : List Char → Bool
  | [] => false
  | c :: cs =>
    if inRanges caseSkippedRanges c.toNat then casedAhead cs
    else inRanges casedRanges c.toNat

/-- Lower case of `cs`, where `before` holds the characters already passed, last one first. -/
def lowerFrom (before : List Char) : List Char → List Char
  | [] => []
  | c :: cs =>
    let here :=
      if c == 'Σ' then [if casedAhead before && !casedAhead cs then 'ς' else 'σ']
      else lowerChar c
    here ++ lowerFrom (c :: before) cs

/-- Lower case of a text. -/
def lower (s : String) : String := String.ofList (lowerFrom [] s.toList)

/-- Upper case of a text. -/
def upper (s : String) : String := String.ofList (s.toList.flatMap upperChar)

end VesselWatch.Text
