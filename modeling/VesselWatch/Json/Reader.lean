/-
  Json/Reader.lean --- JSON documents.

  WHAT THIS FILE FIXES.  One value and nothing behind it; tokens are taken in one
  by one (`Builder.step`) over a stack of the lists and records that are open.  A
  list or record inside more than 127 others is well formed but has no value.
-/
import VesselWatch.Json.Token
import VesselWatch.Node

set_option autoImplicit false

namespace VesselWatch.Json

/-- How many lists and records can lie inside one another. -/
def depthLimit : Nat := 127

/-- A list or record that is open. -/
inductive Frame where
  /-- a list, its items last one first -/
  | list (items : List Node)
  /-- a record: its fields last one first, whether all its keys have a value, and the key whose
  value comes next -/
  | record (fields : List (Node × Node)) (valued : Bool) (key : Option String)
  deriving Inhabited

/-- What may come next. -/
inductive Expect where
  | value
  /-- a value or the end of the list -/
  | firstItem
  /-- a key or the end of the record -/
  | firstKey
  | key
  | colon
  /-- a comma, or the end of what is open -/
  | more
  /-- nothing: the document is complete -/
  | nothing (root : Node)
  deriving Inhabited

/-- A document up to some place. -/
structure Builder where
  /-- the open lists and records, innermost first -/
  stack : List Frame
  /-- what may come next -/
  expect : Expect
  deriving Inhabited

/-- Puts a finished value where it belongs. -/
def Builder.put (stack : List Frame) (n : Node) : Builder :=
  match stack with
  | [] => ⟨[], .nothing n⟩
  | .list items :: rest => ⟨.list (n :: items) :: rest, .more⟩
  | .record fields valued (some key) :: rest =>
    ⟨.record ((.text key, n) :: fields) valued none :: rest, .more⟩
  | .record fields valued none :: rest => ⟨.record fields valued none :: rest, .more⟩

/-- The node of a frame that is closed over `outer` open frames. -/
def Frame.close (outer : Nat) : Frame → Node
  | .list items => if outer < depthLimit then .list items.reverse else .unreadable
  | .record fields valued _ =>
    if valued && outer < depthLimit then .record fields.reverse else .unreadable

/-- Takes in a token where a value may come. -/
def Builder.begin (stack : List Frame) : Token → Option Builder
  | .openList => some ⟨.list [] :: stack, .firstItem⟩
  | .openRecord => some ⟨.record [] true none :: stack, .firstKey⟩
  | .null => some (Builder.put stack .null)
  | .bool b => some (Builder.put stack (.bool b))
  | .number (some (.int n)) => some (Builder.put stack (.int n))
  | .number (some (.real x)) => some (Builder.put stack (.real x))
  | .number none => some (Builder.put stack .unreadable)
  | .text (some s) => some (Builder.put stack (.text s))
  | .text none => some (Builder.put stack .unreadable)
  | _ => none

/-- Takes in a key. -/
def Builder.key (stack : List Frame) : Token → Option Builder
  | .text s =>
    match stack with
    | .record fields valued _ :: rest =>
      some ⟨.record fields (valued && s.isSome) (some (s.getD "")) :: rest, .colon⟩
    | _ => none
  | _ => none

/-- Closes the innermost frame. -/
def Builder.close (stack : List Frame) (t : Token) : Option Builder :=
  match stack, t with
  | .list items :: rest, .closeList => some (Builder.put rest (Frame.close rest.length (.list items)))
  | .record fields valued key :: rest, .closeRecord =>
    some (Builder.put rest (Frame.close rest.length (.record fields valued key)))
  | _, _ => none

/-- Takes in one token. -/
def Builder.step (b : Builder) (t : Token) : Option Builder :=
  match b.expect with
  | .value => Builder.begin b.stack t
  | .firstItem => (Builder.close b.stack t).or (Builder.begin b.stack t)
  | .firstKey => (Builder.close b.stack t).or (Builder.key b.stack t)
  | .key => Builder.key b.stack t
  | .colon =>
    match t with
    | .colon => some ⟨b.stack, .value⟩
    | _ => none
  | .more =>
    match t, b.stack with
    | .comma, .list _ :: _ => some ⟨b.stack, .value⟩
    | .comma, .record _ _ _ :: _ => some ⟨b.stack, .key⟩
    | _, _ => Builder.close b.stack t
  | .nothing _ => none

/-- The document that the tokens form. -/
def document? (ts : List Token) : Option Node := do
  let b ← ts.foldlM Builder.step (⟨[], .value⟩ : Builder)
  match b.expect with
  | .nothing root => some root
  | _ => none

/-- Reads a JSON text. -/
def read? (s : String) : Option Node := (tokens? s.toList).bind document?

end VesselWatch.Json
