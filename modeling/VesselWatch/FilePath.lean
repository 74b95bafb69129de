/-
  FilePath.lean --- names of files.

  WHAT THIS FILE FIXES.  A path is the text it was given as, and that text is what
  is shown.  It is compared by its parts: repeated and trailing slashes and inner
  `.` do not count, a leading `.` does.  The extension is what follows the last dot
  of the last part, unless that dot is its first character.
-/
import VesselWatch.Text.Blank

set_option autoImplicit false

namespace VesselWatch

/-- The name of a file or folder. -/
structure Path where
  /-- the path as it was given -/
  text : String
  deriving Repr, Inhabited

namespace Path

/-- One part of a path.  Their order is the order of the constructors, names by their text. -/
inductive Part where
  /-- the slash at the front -/
  | root
  /-- a leading `.` -/
  | current
  /-- `..` -/
  | parent
  | name (s : String)
  deriving DecidableEq, Repr, Inhabited

/-- The part that a piece between slashes stands for, if any. -/
def Part.ofPiece (piece : String) : Option Part :=
  if piece == "" || piece == "." then none
  else if piece == ".." then some .parent
  else some (.name piece)

/-- Cuts at every slash. -/
def cut : List Char → List Char → List String
  | piece, [] => [String.ofList piece.reverse]
  | piece, c :: cs =>
    if c == '/' then String.ofList piece.reverse :: cut [] cs else cut (c :: piece) cs

/-- The pieces between slashes, empty ones included. -/
def pieces (p : Path) : List String := cut [] p.text.toList

/-- The path begins at the root. -/
def isAbsolute (p : Path) : Bool := p.text.toList.head? == some '/'

/-- The parts of a path. -/
def parts (p : Path) : List Part :=
  let names := p.pieces.filterMap Part.ofPiece
  if p.isAbsolute then .root :: names
  else if p.pieces.head? == some "." then .current :: names
  else names

/-- Two paths have the same parts. -/
def same (p q : Path) : Bool := p.parts == q.parts

instance : BEq Path := ⟨same⟩

/-- A part comes before another one. -/
def Part.before : Part → Part → Bool
  | .name a, .name b => a < b
  | a, b => rank a < rank b
where
  /-- the place among the kinds of parts -/
  rank : Part → Nat
    | .root => 0
    | .current => 1
    | .parent => 2
    | .name _ => 3

/-- Lexicographic order of parts. -/
def partsBefore : List Part → List Part → Bool
  | _, [] => false
  | [], _ :: _ => true
  | a :: as, b :: bs => a.before b || (a == b && partsBefore as bs)

/-- The path comes before another one, part by part. -/
def before (p q : Path) : Bool := partsBefore p.parts q.parts

/-- The paths that end in front of a slash of `p`, outermost first: the folders on the way to it. -/
def above (p : Path) : List Path := go [] p.text.toList
where
  /-- the paths among `cs`, with `back` in front of them, last character first -/
  go (back : List Char) : List Char → List Path
    | [] => []
    | c :: cs =>
      if c == '/' && !back.isEmpty then ⟨String.ofList back.reverse⟩ :: go (c :: back) cs
      else go (c :: back) cs

/-- The path of an entry of the folder `p`. -/
def join (p : Path) (name : String) : Path :=
  if p.text == "" then ⟨name⟩
  else if p.text.toList.getLast? == some '/' then ⟨p.text ++ name⟩
  else ⟨p.text ++ "/" ++ name⟩

/-- A file name cut at its last dot: what stands before it and the extension, if there is one. -/
def splitName (name : String) : String × Option String :=
  let back := name.toList.reverse
  let ext := back.takeWhile (· != '.')
  let front := (back.dropWhile (· != '.')).drop 1
  if front.isEmpty then (name, none)
  else (String.ofList front.reverse, some (String.ofList ext.reverse))

end Path

end VesselWatch
