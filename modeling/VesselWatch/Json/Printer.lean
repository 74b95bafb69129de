/-
  Json/Printer.lean --- compact JSON text.

  WHAT THIS FILE FIXES.  No space between tokens, fields in their order.  A double
  has the fewest digits that read back: positionally, with at least one decimal,
  while its point stands within `-5 < point ≤ 16`, and otherwise with a signed
  exponent (`1e-7`, `1.5e+16`).  In strings only the quote, the backslash and the
  control characters are escaped.
-/
import VesselWatch.Json.Basic
import VesselWatch.Decimal.Plain

set_option autoImplicit false

namespace VesselWatch

open Decimal

/-! ## Numbers -/

/-- An integer in decimal. -/
def intChars (n : Int) : List Char := signed (n < 0) (natDigits n.natAbs)

/-- Digits with a signed exponent, one digit before the point. -/
def exponential (d : Digits) : List Char :=
  let e := d.point - 1
  let fraction := match d.digits with
    | [] => []
    | [_] => []
    | _ :: rest => '.' :: rest
  d.digits.take 1 ++ fraction ++ 'e' :: (if e < 0 then '-' else '+') :: natDigits e.natAbs

/-- The text of a finite double. -/
def realChars (x : Float) : List Char :=
  match Binary64.ofFloat x with
  | .finite negative 0 _ => signed negative "0.0".toList
  | .finite negative mantissa exponent =>
    let d := shortest .even mantissa exponent
    signed negative <|
      if -5 < d.point && d.point ≤ 16 then
        let cs := d.positional
        if cs.contains '.' then cs else cs ++ ".0".toList
      else exponential d
  | _ => "null".toList

/-- The text of a number. -/
def Number.chars : Number → List Char
  | .int n => intChars n
  | .real x => realChars x

/-! ## Strings -/

/-- A hexadecimal digit below sixteen, in lower case. -/
def hexDigit (n : Nat) : Char := if n < 10 then Char.ofNat (48 + n) else Char.ofNat (87 + n)

/-- One character inside a string. -/
def escapeChar (c : Char) : List Char :=
  match c with
  | '"' => ['\\', '"']
  | '\\' => ['\\', '\\']
  | '\n' => ['\\', 'n']
  | '\r' => ['\\', 'r']
  | '\t' => ['\\', 't']
  | '\x08' => ['\\', 'b']
  | '\x0c' => ['\\', 'f']
  | _ =>
    let n := c.toNat
    if n < 0x20 then ['\\', 'u', '0', '0', hexDigit (n / 16), hexDigit (n % 16)] else [c]

/-- A quoted string. -/
def quote (s : String) : List Char := '"' :: (s.toList.flatMap escapeChar ++ ['"'])

/-! ## Values -/

/-- Puts commas between the parts. -/
def commaSeparated : List (List Char) → List Char
  | [] => []
  | [x] => x
  | x :: y :: rest => x ++ ',' :: commaSeparated (y :: rest)

mutual

/-- The compact text of a value. -/
def Json.chars : Json → List Char
  | .null => "null".toList
  | .bool true => "true".toList
  | .bool false => "false".toList
  | .number n => n.chars
  | .text s => quote s
  | .array items => '[' :: (commaSeparated (Json.itemChars items) ++ [']'])
  | .object fields => '{' :: (commaSeparated (Json.fieldChars fields) ++ ['}'])

/-- The texts of the items of an array. -/
def Json.itemChars : List Json → List (List Char)
  | [] => []
  | x :: xs => x.chars :: Json.itemChars xs

/-- The texts of the fields of an object. -/
def Json.fieldChars : List (String × Json) → List (List Char)
  | [] => []
  | (k, v) :: rest => (quote k ++ ':' :: v.chars) :: Json.fieldChars rest

end

/-- The compact text of a value. -/
def Json.render (j : Json) : String := String.ofList j.chars

end VesselWatch
