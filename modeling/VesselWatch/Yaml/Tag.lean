/-
  Yaml/Tag.lean --- the tags of YAML nodes.

  WHAT THIS FILE FIXES.  A tag is a row of bytes, since an escape `%XX` writes any
  byte.  Escaped bytes come in whole sequences whose first byte tells how long they
  are; whether such a sequence is the code of a character is not asked.  Nothing
  behind a zero byte belongs to a tag.

  WHAT A TAG SAYS.  A tag that begins with `!` is the application's own, and the
  rest is its name.  Four tags insist on a simple type.
-/
import VesselWatch.Yaml.Cursor
import VesselWatch.Yaml.Quoted

set_option autoImplicit false

namespace VesselWatch.Yaml

/-- A tag. -/
structure Tag where
  bytes : List UInt8
  deriving DecidableEq, Repr, Inhabited

namespace Tag

/-- The tag that a text writes. -/
def ofText (s : String) : Tag := ⟨s.toUTF8.data.toList⟩

/-- The text of a tag, if its bytes are one. -/
def text? (t : Tag) : Option String := String.fromUTF8? ⟨t.bytes.toArray⟩

/-- The bytes before the first zero byte, as a tag. -/
def ofBytes (bytes : List UInt8) : Tag := ⟨bytes.takeWhile (· != 0)⟩

/-- A tag without bytes. -/
def isEmpty (t : Tag) : Bool := t.bytes.isEmpty

/-- One tag behind the other. -/
def append (s t : Tag) : Tag := ⟨s.bytes ++ t.bytes⟩

/-- The tag `!`, by which a node says that it has none. -/
def mark : Tag := ofText "!"

/-! ## Writing tags -/

/-- A character that may stand in a tag; inside angle brackets there are more of them. -/
def isTagChar (bracketed : Bool) (c : Char) : Bool :=
  isWordChar c || ";/?:@&=+$.%!~*'()".toList.contains c || (bracketed && ",[]".toList.contains c)

/-- How many bytes follow the first one of a sequence; no sequence begins with another byte. -/
def following? (first : Nat) : Option Nat :=
  if first < 0x80 then some 0
  else if first / 0x20 == 6 then some 1
  else if first / 0x10 == 14 then some 2
  else if first / 8 == 30 then some 3
  else none

/-- The bytes that characters of a tag stand for, when `due` escapes of a sequence are still to
come. -/
def unescape? : Nat → List Char → Option (List UInt8)
  | due, '%' :: a :: b :: cs =>
    match hexNumber? [a, b] with
    | none => none
    | some n =>
      let due? := if due == 0 then following? n else if n / 0x40 == 2 then some (due - 1) else none
      match due? with
      | none => none
      | some due => (unescape? due cs).map (UInt8.ofNat n :: ·)
  | due, [] => if due == 0 then some [] else none
  | due, c :: cs =>
    if due == 0 && c != '%' then (unescape? 0 cs).map (UInt8.ofNat c.toNat :: ·) else none

/-- The bytes that the next characters of a tag stand for. -/
def takeBytes (bracketed : Bool) (c : Cursor) : Option (List UInt8 × Cursor) :=
  let run := c.rest.takeWhile (isTagChar bracketed)
  (unescape? 0 run).map fun bytes => (bytes, c.advance run.length)

/-- A handle: `!`, word characters, and perhaps another `!`. -/
def takeHandle (c : Cursor) : Option (List Char × Cursor) :=
  match c.rest with
  | '!' :: rest =>
    let word := rest.takeWhile isWordChar
    let mark := if (rest.drop word.length).head? == some '!' then ['!'] else []
    let handle := '!' :: (word ++ mark)
    some (handle, c.advance handle.length)
  | _ => none

/-- The handle is `!` or closed by a second one. -/
def closedHandle (handle : List Char) : Bool :=
  handle == ['!'] || (1 < handle.length && handle.getLast? == some '!')

/-- Handle and suffix of a tag, from its `!` on.  A tag that is written in full has no handle. -/
def takeParts (c : Cursor) : Option (List Char × Tag × Cursor) := do
  if c.rest.drop 1 |>.head? |>.any (· == '<') then
    let (bytes, c) ← takeBytes true (c.advance 2)
    if !bytes.isEmpty && c.sees (· == '>') then pure ([], ofBytes bytes, c.advance 1) else none
  else
    let (handle, c) ← takeHandle c
    let (bytes, c) ← takeBytes false c
    if closedHandle handle && handle != ['!'] then
      if bytes.isEmpty then none else pure (handle, ofBytes bytes, c)
    else
      let suffix := (ofText (String.ofList (handle.drop 1))).append (ofBytes bytes)
      if suffix.isEmpty then pure ([], mark, c) else pure (['!'], suffix, c)

/-! ## Reading tags -/

/-- The name in a tag of the application's own: what follows its `!`, or `!` when nothing does. -/
def ownName? (t : Tag) : Option Tag :=
  match t.bytes with
  | first :: rest =>
    if mark.bytes == [first] then some (if rest.isEmpty then mark else ⟨rest⟩) else none
  | [] => none

/-- What a tag says about a value. -/
inductive Kind where
  /-- it is a truth value -/
  | bool
  /-- it is an integer -/
  | int
  /-- it is a double -/
  | float
  /-- it is nothing -/
  | null
  /-- it is the application's value of this name, if the name can be read -/
  | own (name : Option String)
  /-- nothing that matters here -/
  | other
  deriving DecidableEq, Repr, Inhabited

/-- The kind of a tag. -/
def kind (t : Tag) : Kind :=
  if t == ofText "tag:yaml.org,2002:bool" then .bool
  else if t == ofText "tag:yaml.org,2002:int" then .int
  else if t == ofText "tag:yaml.org,2002:float" then .float
  else if t == ofText "tag:yaml.org,2002:null" then .null
  else match t.ownName? with
    | some name => .own name.text?
    | none => .other

end Tag

end VesselWatch.Yaml
