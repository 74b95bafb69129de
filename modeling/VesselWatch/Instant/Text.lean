/-
  Instant/Text.lean --- instants as text.

  WHAT THIS FILE FIXES.  The written form is `2024-05-01T08:00:00Z` with three, six
  or nine decimals when the fraction needs them, and with a sign and at least four
  digits for a year outside 0 to 9999.  Read is a looser form: numbers need no
  leading zeros, blanks may stand before numbers, before `-` and `:` and around the
  offset, the date and time are joined by `T`, `t` or one space, decimals after the
  ninth are dropped, and the offset is `Z`, `UTC` in any letter case, or a signed
  hour and minute.
-/
import VesselWatch.Instant.Basic
import VesselWatch.Text.Blank
import VesselWatch.Text.LetterCase
import VesselWatch.Decimal.Plain
import VesselWatch.Decimal.Numeral

set_option autoImplicit false

namespace VesselWatch.Instant

open Text Decimal

/-! ## Writing -/

/-- A number with zeros in front up to the given width. -/
def padded (width n : Nat) : List Char :=
  let ds := natDigits n
  zeros (width - ds.length) ++ ds

/-- A year: four digits, or a sign and at least four digits outside 0 to 9999. -/
def yearChars (year : Int) : List Char :=
  if 0 ≤ year && year ≤ 9999 then padded 4 year.toNat
  else (if year < 0 then '-' else '+') :: padded 4 year.natAbs

/-- The decimals of a second, as few groups of three as the fraction needs. -/
def fractionChars (nano : Nat) : List Char :=
  if nano == 0 then []
  else if nano % 1000000 == 0 then '.' :: padded 3 (nano / 1000000)
  else if nano % 1000 == 0 then '.' :: padded 6 (nano / 1000)
  else '.' :: padded 9 nano

/-- The instant as text.  A leap second is second sixty. -/
def chars (t : Instant) : List Char :=
  let (year, month, day) := dateOfDay t.day
  let leap := nanosPerSecond ≤ t.nano
  let second := t.second % 60 + (if leap then 1 else 0)
  let nano := if leap then t.nano - nanosPerSecond else t.nano
  yearChars year ++ '-' :: padded 2 month ++ '-' :: padded 2 day
    ++ 'T' :: padded 2 (t.second / 3600) ++ ':' :: padded 2 (t.second / 60 % 60)
    ++ ':' :: padded 2 second ++ fractionChars nano ++ ['Z']

/-- The instant as text. -/
def render (t : Instant) : String := String.ofList t.chars

/-! ## Reading -/

/-- Digits at the front, at most `limit` of them and at least one. -/
def takeDigits (limit : Nat) (cs : List Char) : Option (Nat × List Char) :=
  let ds := (cs.take limit).takeWhile Char.isDigit
  if ds.isEmpty then none else some (digitsValue ds, cs.drop ds.length)

/-- A number of at most two digits from `low` to `high`, blanks in front. -/
def takeTwo (low high : Nat) (cs : List Char) : Option (Nat × List Char) :=
  (takeDigits 2 (trimStart cs)).filter fun (n, _) => low ≤ n && n ≤ high

/-- A year: up to four digits, or a sign and any number of digits; blanks in front. -/
def takeYear (cs : List Char) : Option (Int × List Char) :=
  match trimStart cs with
  | '-' :: rest => (takeDigits rest.length rest).map fun (n, rest) => (-(n : Int), rest)
  | '+' :: rest => (takeDigits rest.length rest).map fun (n, rest) => ((n : Int), rest)
  | rest => (takeDigits 4 rest).map fun (n, rest) => ((n : Int), rest)

/-- The character `c`, blanks in front. -/
def takeMark (c : Char) (cs : List Char) : Option (List Char) :=
  match trimStart cs with
  | d :: rest => if d == c then some rest else none
  | [] => none

/-- A point and decimals, if there are any; the first nine count. -/
def takeFraction (cs : List Char) : Option (Nat × List Char) :=
  match cs with
  | '.' :: rest =>
    let ds := rest.takeWhile Char.isDigit
    if ds.isEmpty then none
    else
      let kept := ds.take 9
      some (digitsValue kept * Nat.pow 10 (9 - kept.length), rest.drop ds.length)
  | _ => some (0, cs)

/-- Hours and minutes of an offset, in seconds. -/
def takeOffsetDigits (cs : List Char) : Option (Nat × List Char) :=
  match cs with
  | h1 :: h2 :: rest =>
    match rest.dropWhile fun c => c == ':' || isBlank c with
    | m1 :: m2 :: rest =>
      if h1.isDigit && h2.isDigit && '0' ≤ m1 && m1 ≤ '5' && m2.isDigit then
        some (digitsValue [h1, h2] * 3600 + digitsValue [m1, m2] * 60, rest)
      else none
    | _ => none
  | _ => none

/-- The offset from Coordinated Universal Time in seconds, below a day. -/
def takeOffset (cs : List Char) : Option (Int × List Char) :=
  if (cs.take 3).map lowerAsciiChar == "utc".toList then some (0, cs.drop 3)
  else
    let offset : Option (Int × List Char) :=
      match cs with
      | 'Z' :: rest => some (0, rest)
      | 'z' :: rest => some (0, rest)
      | '+' :: rest => (takeOffsetDigits rest).map fun (n, rest) => ((n : Int), rest)
      | '-' :: rest => (takeOffsetDigits rest).map fun (n, rest) => (-(n : Int), rest)
      | '−' :: rest => (takeOffsetDigits rest).map fun (n, rest) => (-(n : Int), rest)
      | _ => none
    offset.filter fun (n, _) => n.natAbs < secondsPerDay

/-- The letter or the space between date and time. -/
def takeJoint : List Char → Option (List Char)
  | c :: rest => if c == 'T' || c == 't' || c == ' ' then some rest else none
  | [] => none

/-- The instant of a local date and time under an offset. -/
def ofLocal (year : Int) (month day hour minute second nano : Nat) (offset : Int) :
    Option Instant :=
  let date := dayOfDate year month day
  let (whole, nano) := if second == 60 then (59, nano + nanosPerSecond) else (second, nano)
  let total : Int := (hour * 3600 + minute * 60 + whole : Nat) - offset
  let utc := date + total.fdiv secondsPerDay
  if firstDay ≤ date && date ≤ lastDay && firstDay ≤ utc && utc ≤ lastDay
      && day ≤ daysInMonth year month then
    some ⟨utc, (total.fmod secondsPerDay).toNat, nano⟩
  else none

/-- Reads an instant. -/
def ofChars? (cs : List Char) : Option Instant := do
  let (year, cs) ← takeYear cs
  let cs ← takeMark '-' cs
  let (month, cs) ← takeTwo 1 12 cs
  let cs ← takeMark '-' cs
  let (day, cs) ← takeTwo 1 31 cs
  let cs ← takeJoint cs
  let (hour, cs) ← takeTwo 0 23 cs
  let cs ← takeMark ':' cs
  let (minute, cs) ← takeTwo 0 59 cs
  let cs ← takeMark ':' cs
  let (second, cs) ← takeTwo 0 60 cs
  let (nano, cs) ← takeFraction cs
  let (offset, cs) ← takeOffset (trimStart cs)
  if cs.all isBlank then ofLocal year month day hour minute second nano offset else none

/-- Reads an instant. -/
def ofText? (s : String) : Option Instant := ofChars? s.toList

end VesselWatch.Instant
