/-
  FileText.lean --- what can be read of a file.

  WHAT THIS FILE FIXES.  A file holds bytes.  When they are UTF-8 the file has a
  text.  When they are not, a reader that goes line by line still gets the lines
  before the first one that is no UTF-8, and a reader of the whole gets nothing.
-/

set_option autoImplicit false

namespace VesselWatch

/-- What can be read of a file. -/
structure FileText where
  /-- the lines before the first one that is no text -/
  readable : String
  /-- these are all lines -/
  complete : Bool
  deriving DecidableEq, Repr, Inhabited

namespace FileText

/-- A file with a text. -/
def ofText (s : String) : FileText := ⟨s, true⟩

/-- Bytes cut behind each line feed. -/
def byteLines : List UInt8 → List (List UInt8)
  | [] => []
  | b :: rest =>
    if b == 10 then [b] :: byteLines rest
    else match byteLines rest with
      | [] => [[b]]
      | line :: lines => (b :: line) :: lines

/-- The texts of the lines before the first one that has none. -/
def leading : List (List UInt8) → List String
  | [] => []
  | line :: lines =>
    match String.fromUTF8? ⟨line.toArray⟩ with
    | some text => text :: leading lines
    | none => []

/-- What can be read of a file with these bytes. -/
def ofBytes (bytes : ByteArray) : FileText :=
  match String.fromUTF8? bytes with
  | some text => ofText text
  | none => ⟨String.join (leading (byteLines bytes.data.toList)), false⟩

/-- The text of the whole file. -/
def whole? (t : FileText) : Option String := if t.complete then some t.readable else none

end FileText

end VesselWatch
