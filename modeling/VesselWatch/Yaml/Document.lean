/-
  Yaml/Document.lean --- YAML documents.

  WHAT THIS FILE FIXES.  The tree of a document.  References are followed wherever
  they stand, and a mapping must not hold a key twice.  Collections nest up to 128
  deep, which also ends a node that refers to itself, and references may be
  followed a hundred times for each event of the document.
-/
import VesselWatch.Yaml.Token.Lexer
import VesselWatch.Yaml.Scalar

set_option autoImplicit false

namespace VesselWatch

/-! ## Equal keys -/

/-- Equality of doubles in which NaN is equal to itself. -/
def sameKeyFloat (x y : Float) : Bool := x == y || (x.isNaN && y.isNaN)

/-- A tag as it is compared: without a leading `!`, unless it is nothing else. -/
def bareTag (tag : String) : String :=
  match tag.toList with
  | '!' :: c :: cs => String.ofList (c :: cs)
  | _ => tag

mutual

/-- Two nodes are the same key: mappings are compared without regard to order. -/
def Node.sameKey : Node → Node → Bool
  | .null, .null => true
  | .bool a, .bool b => a == b
  | .int a, .int b => a == b
  | .real x, .real y => sameKeyFloat x y
  | .text a, .text b => a == b
  | .list as, .list bs => Node.sameKeyItems as bs
  | .record fs, .record gs => fs.length == gs.length && Node.sameKeyFields fs gs
  | .tagged s a, .tagged t b => bareTag s == bareTag t && a.sameKey b
  | _, _ => false

/-- Two lists are the same item by item. -/
def Node.sameKeyItems : List Node → List Node → Bool
  | [], [] => true
  | a :: as, b :: bs => a.sameKey b && Node.sameKeyItems as bs
  | _, _ => false

/-- Every field of the first list is in the second. -/
def Node.sameKeyFields : List (Node × Node) → List (Node × Node) → Bool
  | [], _ => true
  | (k, v) :: rest, gs =>
    (gs.any fun g => k.sameKey g.1 && v.sameKey g.2) && Node.sameKeyFields rest gs

end

namespace Yaml

/-- How deep collections may nest. -/
def depthLimit : Nat := 128

/-- How often references may be followed for each event. -/
def jumpsPerEvent : Nat := 100

/-- What is left of a row of events, and how often a reference has been followed. -/
structure Reading where
  rest : List Event
  /-- how often a reference has been followed -/
  jumps : Nat
  deriving Repr, Inhabited

/-- Reads the nodes of a sequence up to its end. -/
def items? (read : Reading → Option (Node × Reading)) :
    Nat → List Node → Reading → Option (Node × Reading)
  | 0, _, _ => none
  | fuel + 1, done, r =>
    match r.rest with
    | .sequenceEnd :: rest => some (.list done.reverse, { r with rest := rest })
    | _ =>
      match read r with
      | none => none
      | some (n, r) => items? read fuel (n :: done) r

/-- Reads the keys and values of a mapping up to its end. -/
def fields? (read : Reading → Option (Node × Reading)) :
    Nat → List (Node × Node) → Reading → Option (Node × Reading)
  | 0, _, _ => none
  | fuel + 1, done, r =>
    match r.rest with
    | .mappingEnd :: rest => some (.record done.reverse, { r with rest := rest })
    | _ =>
      match read r with
      | none => none
      | some (key, r) =>
        if done.any fun f => f.1.sameKey key then none
        else match read r with
          | none => none
          | some (value, r) => fields? read fuel ((key, value) :: done) r

/-- Reads a node that is no reference; `read` reads the nodes in it, if there may be any. -/
def heldNode? (read : Option (Reading → Option (Node × Reading))) (r : Reading) :
    Option (Node × Reading) :=
  match r.rest with
  | .scalar tag text plain :: rest =>
    (scalarNode? tag text plain).map fun n => (n, { r with rest := rest })
  | .sequenceStart tag :: rest => do
    let (n, r) ← items? (← read) (rest.length + 1) [] { r with rest := rest }
    pure (ownTag tag n, r)
  | .mappingStart tag :: rest => do
    let (n, r) ← fields? (← read) (rest.length + 1) [] { r with rest := rest }
    pure (ownTag tag n, r)
  | _ => none

/-- Reads a node by `read`, at the place it refers to if it is a reference. -/
def followed? (es : Events) (read : Reading → Option (Node × Reading)) (r : Reading) :
    Option (Node × Reading) :=
  match r.rest with
  | .reference number :: rest => do
    let place ← es.places.lookup number
    if r.jumps < jumpsPerEvent * es.events.length then
      let (n, r) ← read ⟨es.events.drop place, r.jumps + 1⟩
      pure (n, ⟨rest, r.jumps⟩)
    else none
  | _ => read r

/-- Reads a node in which collections nest at most `depth` deep. -/
def node? (es : Events) : Nat → Reading → Option (Node × Reading)
  | 0 => followed? es (heldNode? none)
  | depth + 1 => followed? es (heldNode? (some (node? es depth)))

/-- The tree of a document; a text without a document is nothing. -/
def Events.node? (es : Events) : Option Node :=
  if es.events.isEmpty then some .null
  else (Yaml.node? es depthLimit ⟨es.events, 0⟩).map (·.1)

/-- Reads a YAML text. -/
def read? (s : String) : Option Node := do
  let ts ← tokens? s.toList
  let es ← events? ts
  let n ← es.node?
  pure n

end Yaml

end VesselWatch
