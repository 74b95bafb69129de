/-
  Json/Token.lean --- the tokens of a JSON text.

  WHAT THIS FILE FIXES.  A text is cut into tokens by one pass over its characters
  (`Lexer.step`), with no look-ahead: a number or a word ends where the next
  character cannot belong to it.

  NUMBERS.  An integer that fits 64 bits is kept exactly.  Of any other number the
  leading digits that fit 64 bits are taken as they are, further digits only move
  the point, and the result is that integer multiplied or divided once by a power
  of ten; below `1e-308` the division is done in two parts.  A result beyond the
  doubles has no value, but its token is well formed.

  STRINGS.  An escaped surrogate pair is one character.  A lone surrogate leaves
  the string without a value, and again the token is well formed.
-/
import VesselWatch.Json.Basic
import VesselWatch.Decimal.Numeral

set_option autoImplicit false

namespace VesselWatch.Json

open Decimal

/-! ## Numbers -/

/-- A power of ten as a double. -/
def powerOfTen (n : Nat) : Float := nearest 1 n

/-- `x * 10 ^ exponent`, unless that is beyond the doubles. -/
def scaled (x : Float) (exponent : Int) : Option Float :=
  if 0 ≤ exponent then
    if 308 < exponent then (if x == 0 then some x else none)
    else
      let y := x * powerOfTen exponent.toNat
      if y.isInf then none else some y
  else if -308 ≤ exponent then some (x / powerOfTen (-exponent).toNat)
  else if -616 ≤ exponent then some (x / powerOfTen 308 / powerOfTen (-exponent - 308).toNat)
  else some (x / powerOfTen 308 / powerOfTen 308)

/-- Takes digits as long as the number they form fits 64 bits; the digits left over come
back too. -/
def gather (significand : Nat) : List Char → Nat × List Char
  | [] => (significand, [])
  | d :: ds =>
    let next := 10 * significand + digitValue d
    if next < wordCount then gather next ds else (significand, d :: ds)

/-- The parts of a number as written. -/
structure Literal where
  /-- a minus sign -/
  negative : Bool
  /-- digits before the point -/
  whole : List Char
  /-- digits after the point, if there is one -/
  fraction : Option (List Char)
  /-- the exponent, if there is one -/
  exponent : Option Int
  deriving DecidableEq, Repr, Inhabited

/-- The number that is written, if there is one. -/
def Literal.value (l : Literal) : Option Number :=
  let (w, dropped) := gather 0 l.whole
  if dropped.isEmpty && l.fraction.isNone && l.exponent.isNone && !l.negative then
    some (.int w)
  else if dropped.isEmpty && l.fraction.isNone && l.exponent.isNone && 0 < w
      && Number.least ≤ -(w : Int) then
    some (.int (-w))
  else
    let part := l.fraction.getD []
    let (s, unused) := gather w part
    let point : Int := dropped.length - (part.length - unused.length : Nat)
    let magnitude := scaled (Float.ofNat s) (point + l.exponent.getD 0)
    magnitude.map fun x => .real (if l.negative then -x else x)

/-- The exponent of a literal: a letter, an optional sign, digits. -/
def literalExponent : List Char → Option (Option Int)
  | [] => some none
  | c :: cs =>
    if c == 'e' || c == 'E' then
      let (negative, ds) := readSign cs
      if allDigits ds then
        some (some (if negative then -(digitsValue ds : Int) else digitsValue ds))
      else none
    else none

/-- Takes a literal apart; a zero may only stand alone before the point. -/
def Literal.ofChars (cs : List Char) : Option Literal :=
  let (negative, body) := match cs with
    | '-' :: rest => (true, rest)
    | _ => (false, cs)
  let whole := body.takeWhile Char.isDigit
  let rest := body.dropWhile Char.isDigit
  if whole.isEmpty || (whole.head? == some '0' && 1 < whole.length) then none
  else match rest with
    | '.' :: more =>
      let part := more.takeWhile Char.isDigit
      if part.isEmpty then none
      else (literalExponent (more.dropWhile Char.isDigit)).map fun e =>
        ⟨negative, whole, some part, e⟩
    | _ => (literalExponent rest).map fun e => ⟨negative, whole, none, e⟩

/-! ## Tokens -/

/-- A token of a JSON text. -/
inductive Token where
  /-- `[` -/
  | openList
  /-- `]` -/
  | closeList
  /-- an opening brace -/
  | openRecord
  /-- a closing brace -/
  | closeRecord
  /-- `,` -/
  | comma
  /-- `:` -/
  | colon
  /-- `null` -/
  | null
  /-- `true` or `false` -/
  | bool (b : Bool)
  /-- a number, if it has a value -/
  | number (n : Option Number)
  /-- a string, if it has a value -/
  | text (s : Option String)
  deriving Inhabited

/-- Where an escape sequence stands. -/
inductive Escape where
  /-- not in an escape sequence -/
  | out
  /-- behind a backslash -/
  | start
  /-- inside `\uXXXX`: the value so far and the number of digits still to come -/
  | hex (value : Nat) (missing : Nat)
  deriving DecidableEq, Repr, Inhabited

/-- What the characters since the last token belong to. -/
inductive Mode where
  /-- nothing -/
  | between
  /-- a word, its letters last one first -/
  | word (letters : List Char)
  /-- a number, its characters last one first -/
  | number (chars : List Char)
  /-- a string: its characters last one first, whether it has a value so far, a leading surrogate
  that waits for its partner, and the state of an escape sequence -/
  | text (chars : List Char) (valued : Bool) (leading : Option Nat) (escape : Escape)
  deriving Inhabited

/-- A text that has been cut up to some place: the tokens, last one first, and what is unfinished. -/
structure Lexer where
  /-- the finished tokens, last one first -/
  tokens : List Token
  /-- the unfinished token -/
  mode : Mode
  deriving Inhabited

/-- The value of a hexadecimal digit. -/
def hexValue (c : Char) : Option Nat :=
  if '0' ≤ c && c ≤ '9' then some (c.toNat - 48)
  else if 'a' ≤ c && c ≤ 'f' then some (c.toNat - 87)
  else if 'A' ≤ c && c ≤ 'F' then some (c.toNat - 55)
  else none

/-- The token of a word. -/
def wordToken (letters : List Char) : Option Token :=
  if letters == "null".toList then some .null
  else if letters == "true".toList then some (.bool true)
  else if letters == "false".toList then some (.bool false)
  else none

/-- A character that may stand between tokens. -/
def isSpace (c : Char) : Bool := c == ' ' || c == '\n' || c == '\t' || c == '\r'

/-- A character where nothing is unfinished. -/
def Lexer.begin (tokens : List Token) (c : Char) : Option Lexer :=
  if isSpace c then some ⟨tokens, .between⟩
  else match c with
    | '[' => some ⟨.openList :: tokens, .between⟩
    | ']' => some ⟨.closeList :: tokens, .between⟩
    | '{' => some ⟨.openRecord :: tokens, .between⟩
    | '}' => some ⟨.closeRecord :: tokens, .between⟩
    | ',' => some ⟨.comma :: tokens, .between⟩
    | ':' => some ⟨.colon :: tokens, .between⟩
    | '"' => some ⟨tokens, .text [] true none .out⟩
    | _ =>
      if c == '-' || c.isDigit then some ⟨tokens, .number [c]⟩
      else if c.isLower then some ⟨tokens, .word [c]⟩
      else none

/-- Finishes a word or a number. -/
def Lexer.finish (l : Lexer) : Option (List Token) :=
  match l.mode with
  | .between => some l.tokens
  | .word letters => (wordToken letters.reverse).map (· :: l.tokens)
  | .number chars =>
    (Literal.ofChars chars.reverse).map fun literal => .number literal.value :: l.tokens
  | .text _ _ _ _ => none

/-- The code unit of a finished `\uXXXX` inside a string. -/
def unitMode (chars : List Char) (valued : Bool) (leading : Option Nat) (unit : Nat) : Mode :=
  if 0xDC00 ≤ unit && unit ≤ 0xDFFF then
    match leading with
    | some first =>
      .text (Char.ofNat (0x10000 + (first - 0xD800) * 0x400 + (unit - 0xDC00)) :: chars) valued
        none .out
    | none => .text chars false none .out
  else
    let valued := valued && leading.isNone
    if 0xD800 ≤ unit && unit ≤ 0xDBFF then .text chars valued (some unit) .out
    else .text (Char.ofNat unit :: chars) valued none .out

/-- The character that a short escape stands for. -/
def shortEscape (c : Char) : Option Char :=
  match c with
  | '"' => some '"'
  | '\\' => some '\\'
  | '/' => some '/'
  | 'b' => some '\x08'
  | 'f' => some '\x0c'
  | 'n' => some '\n'
  | 'r' => some '\r'
  | 't' => some '\t'
  | _ => none

/-- A character inside a string. -/
def Lexer.inText (tokens : List Token) (chars : List Char) (valued : Bool) (leading : Option Nat)
    (escape : Escape) (c : Char) : Option Lexer :=
  match escape with
  | .out =>
    if c == '"' then
      let value := if valued && leading.isNone then some (String.ofList chars.reverse) else none
      some ⟨.text value :: tokens, .between⟩
    else if c == '\\' then some ⟨tokens, .text chars valued leading .start⟩
    else if c.toNat < 0x20 then none
    else some ⟨tokens, .text (c :: chars) (valued && leading.isNone) none .out⟩
  | .start =>
    if c == 'u' then some ⟨tokens, .text chars valued leading (.hex 0 4)⟩
    else (shortEscape c).map fun x => ⟨tokens, .text (x :: chars) (valued && leading.isNone) none .out⟩
  | .hex value missing =>
    (hexValue c).map fun d =>
      let value := 16 * value + d
      if missing ≤ 1 then ⟨tokens, unitMode chars valued leading value⟩
      else ⟨tokens, .text chars valued leading (.hex value (missing - 1))⟩

/-- The character belongs to a number that has begun. -/
def inNumber (c : Char) : Bool :=
  c.isDigit || c == '.' || c == 'e' || c == 'E' || c == '+' || c == '-'

/-- Takes one character in. -/
def Lexer.step (l : Lexer) (c : Char) : Option Lexer :=
  match l.mode with
  | .between => Lexer.begin l.tokens c
  | .word letters =>
    if c.isLower then some ⟨l.tokens, .word (c :: letters)⟩
    else l.finish.bind (Lexer.begin · c)
  | .number chars =>
    if inNumber c then some ⟨l.tokens, .number (c :: chars)⟩
    else l.finish.bind (Lexer.begin · c)
  | .text chars valued leading escape => Lexer.inText l.tokens chars valued leading escape c

/-- The tokens of a text. -/
def tokens? (cs : List Char) : Option (List Token) := do
  let l ← cs.foldlM Lexer.step (⟨[], .between⟩ : Lexer)
  let ts ← l.finish
  pure ts.reverse

end VesselWatch.Json
