/-
  Text/Escapes.lean --- a text for a terminal without its escape sequences.

  WHAT THIS FILE FIXES.  An escape character begins a sequence that a terminal
  obeys and does not show; the characters behind it tell how the sequence ends.
  `strip` keeps what is shown and the white space, and drops sequences and all other
  control characters.  A sequence that is not ended hides what follows, up to the
  next escape character.
-/

set_option autoImplicit false

namespace VesselWatch.Text

/-- Where a character stands. -/
inductive EscapeState where
  /-- outside escape sequences -/
  | shown
  /-- behind an escape character -/
  | escape
  /-- behind an escape character and punctuation -/
  | punctuation
  /-- in a sequence that gives parameters and ends with a letter -/
  | control
  /-- in the parameters of a string for the device -/
  | parameters
  /-- in a string for the device or the application -/
  | string
  /-- in a command for the system, which a bell ends too -/
  | command
  deriving DecidableEq, Repr, Inhabited

namespace EscapeState

/-- A tab, or a character that begins a line or a page. -/
def isSpacing (n : Nat) : Bool := n == 0x09 || n == 0x0A || n == 0x0C || n == 0x0D

/-- A character that is shown or is white space. -/
def isVisible (n : Nat) : Bool := isSpacing n || (0x20 ≤ n && n != 0x7F)

/-- The state behind a character that follows an escape character. -/
def ofIntroducer (n : Nat) : EscapeState :=
  if n < 0x30 then .punctuation
  else if n == '['.toNat then .control
  else if n == ']'.toNat then .command
  else if n == 'P'.toNat then .parameters
  else if n == 'X'.toNat || n == '^'.toNat || n == '_'.toNat then .string
  else .shown

/-- The state behind a printable ASCII character. -/
def afterGraphic (s : EscapeState) (n : Nat) : EscapeState :=
  match s with
  | .escape => ofIntroducer n
  | .punctuation => if n < 0x30 then .punctuation else .shown
  | .control => if n < 0x40 then .control else .shown
  | .parameters => if n < 0x40 then .parameters else .string
  | s => s

/-- A sequence in this state is broken off by white space, which is kept. -/
def yieldsToSpacing (s : EscapeState) : Bool :=
  s == .escape || s == .punctuation || s == .control

/-- The character ends a sequence in this state that is none of graphic characters.  A string ends
at the byte `9C`, also inside the code of a character. -/
def isEndedBy (s : EscapeState) (c : Char) : Bool :=
  (s == .command && c.toNat == 0x07) || (s == .string && (String.utf8EncodeChar c).contains 0x9C)

/-- The state behind a character, and whether the character is kept. -/
def next (s : EscapeState) (c : Char) : EscapeState × Bool :=
  let n := c.toNat
  if n == 0x1B then (.escape, false)
  else if n == 0x18 || n == 0x1A then (.shown, false)
  else if s == .shown then (.shown, isVisible n)
  else if s.yieldsToSpacing && isSpacing n then (.shown, true)
  else if s.isEndedBy c then (.shown, false)
  else if 0x20 ≤ n && n < 0x7F then (s.afterGraphic n, false)
  else (s, false)

end EscapeState

/-- The characters that are kept, from a state on. -/
def stripFrom (s : EscapeState) : List Char → List Char
  | [] => []
  | c :: cs =>
    let (next, kept) := s.next c
    if kept then c :: stripFrom next cs else stripFrom next cs

/-- A text without escape sequences and control characters. -/
def strip (text : String) : String := String.ofList (stripFrom .shown text.toList)

end VesselWatch.Text
