/-
  Yaml/Cursor.lean --- a place in a YAML text.

  WHAT THIS FILE FIXES.  The characters that a YAML text may hold, the classes of
  blanks and line breaks, and a place in the text with its line and column.  Columns
  count characters, the distance from the beginning counts bytes.  White space
  between the parts of a scalar is a `Gap`: within a line it stays as it is, a
  single line break becomes a space, and of several the first one is dropped.
-/

set_option autoImplicit false

namespace VesselWatch.Yaml

/-! ## Characters -/

/-- A space or a tab. -/
def isBlank (c : Char) : Bool := c == ' ' || c == '\t'

/-- A character that ends a line. -/
def isBreak (c : Char) : Bool :=
  c == '\n' || c == '\r' || c == '\u0085' || c == '\u2028' || c == '\u2029'

/-- A letter, a digit, `_` or `-`. -/
def isWordChar (c : Char) : Bool := c.isAlphanum || c == '_' || c == '-'

/-- A character that a text may hold. -/
def isPrintable (c : Char) : Bool :=
  let n := c.toNat
  n == 9 || n == 10 || n == 13 || (0x20 ≤ n && n ≤ 0x7E) || n == 0x85 ||
  (0xA0 ≤ n && n ≤ 0xD7FF) || (0xE000 ≤ n && n ≤ 0xFFFD) || 0x10000 ≤ n

/-- The text ends here, or a blank or a line break comes. -/
def blankAhead : List Char → Bool
  | [] => true
  | c :: _ => isBlank c || isBreak c

/-- The text ends here, or a line break comes. -/
def breakAhead : List Char → Bool
  | [] => true
  | c :: _ => isBreak c

/-- The mark that begins (`-`) or ends (`.`) a document. -/
def documentMark (mark : Char) (cs : List Char) : Bool :=
  cs.take 3 == [mark, mark, mark] && blankAhead (cs.drop 3)

/-! ## Places -/

/-- The size of characters in UTF-8. -/
def byteSize (cs : List Char) : Nat := cs.foldl (fun n c => n + c.utf8Size) 0

/-- A place in a text. -/
structure Cursor where
  rest : List Char
  /-- bytes of UTF-8 before this place -/
  index : Nat
  /-- lines before this place -/
  line : Nat
  /-- characters before this place on its line -/
  column : Nat
  deriving Repr, Inhabited

namespace Cursor

/-- The beginning of a text. -/
def start (cs : List Char) : Cursor := ⟨cs, 0, 0, 0⟩

/-- `n` characters further on the line. -/
def advance (n : Nat) (c : Cursor) : Cursor :=
  ⟨c.rest.drop n, c.index + byteSize (c.rest.take n), c.line, c.column + n⟩

/-- The next character, if there is one and it satisfies `p`. -/
def sees (c : Cursor) (p : Char → Bool) : Bool :=
  match c.rest with
  | [] => false
  | x :: _ => p x

/-- Behind all characters that satisfy `p`. -/
def skipWhile (p : Char → Bool) (c : Cursor) : Cursor :=
  c.advance (c.rest.takeWhile p).length

/-- The text of a line break and the place behind it; nothing when no line break comes. -/
def takeBreak (c : Cursor) : List Char × Cursor :=
  let next (n : Nat) (rest : List Char) : Cursor := ⟨rest, c.index + n, c.line + 1, 0⟩
  match c.rest with
  | '\r' :: '\n' :: rest => (['\n'], next 2 rest)
  | x :: rest =>
    if x == '\u2028' || x == '\u2029' then ([x], next x.utf8Size rest)
    else if isBreak x then (['\n'], next x.utf8Size rest)
    else ([], c)
  | [] => ([], c)

/-- Behind a line break, if one comes. -/
def skipBreak (c : Cursor) : Cursor := c.takeBreak.2

/-- At the end of the line: blanks and a comment are passed, anything else is an error. -/
def restOfLine (c : Cursor) : Option Cursor :=
  let c := c.skipWhile isBlank
  let c := if c.sees (· == '#') then c.skipWhile (!isBreak ·) else c
  if breakAhead c.rest then some c.skipBreak else none

/-- A document begins or ends here. -/
def atDocumentMark (c : Cursor) : Bool :=
  c.column == 0 && (documentMark '-' c.rest || documentMark '.' c.rest)

end Cursor

/-! ## Gaps -/

/-- White space between two parts of a scalar. -/
structure Gap where
  /-- the blanks, while there was no line break -/
  blanks : List Char
  /-- there was a line break -/
  broken : Bool
  /-- the first line break -/
  first : List Char
  /-- the other line breaks -/
  more : List Char
  deriving Repr, Inhabited

/-- No white space. -/
def Gap.none : Gap := ⟨[], false, [], []⟩

/-- What a gap stands for in the text of the scalar. -/
def Gap.fold (g : Gap) : List Char :=
  if g.broken then
    if g.first == ['\n'] then (if g.more.isEmpty then [' '] else g.more) else g.first ++ g.more
  else g.blanks

/-- Passes white space.  With `limit`, a tab before that column is an error on a new line. -/
def Cursor.takeGap (limit : Option Nat) : Nat → Gap → Cursor → Option (Gap × Cursor)
  | 0, _, _ => Option.none
  | fuel + 1, g, c =>
    match c.rest with
    | [] => some (g, c)
    | x :: _ =>
      if isBlank x then
        if g.broken then
          if x == '\t' && (limit.any fun n => c.column < n) then Option.none
          else Cursor.takeGap limit fuel g (c.advance 1)
        else Cursor.takeGap limit fuel { g with blanks := g.blanks ++ [x] } (c.advance 1)
      else if isBreak x then
        let (text, next) := c.takeBreak
        let g := if g.broken then { g with more := g.more ++ text } else ⟨[], true, text, []⟩
        Cursor.takeGap limit fuel g next
      else some (g, c)

end VesselWatch.Yaml
