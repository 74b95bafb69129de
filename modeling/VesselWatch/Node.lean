/-
  Node.lean --- a document that has been read but not yet understood.

  WHAT THIS FILE FIXES.  JSON and YAML texts become the same tree, and every
  record of the domain is taken out of that tree by the same few functions.  They
  differ only in a `Style`: whether a list can stand for a record, whether `null`
  is an empty collection, whether tags are looked through, whether a number can
  name a field.

  WHAT CANNOT BE READ.  A text can be well formed and still hold a value that no
  type here represents: a number beyond the doubles, an unpaired surrogate, nesting
  beyond the limit.  Such a place is `unreadable`.  It spoils the value that needs
  it and nothing else: a field nobody asks for may be unreadable.
-/
import VesselWatch.Assoc
import VesselWatch.Json.Basic

set_option autoImplicit false

namespace VesselWatch

/-- A node of a document. -/
inductive Node where
  /-- nothing -/
  | null
  /-- a truth value -/
  | bool (b : Bool)
  /-- an integer from `-2^63` to `2^64 - 1` -/
  | int (n : Int)
  /-- a double -/
  | real (x : Float)
  | text (s : String)
  | list (items : List Node)
  /-- keys with their values, in the order written, keys possibly repeated -/
  | record (fields : List (Node × Node))
  /-- a value under an application tag -/
  | tagged (tag : String) (value : Node)
  /-- a well-formed place whose value cannot be represented -/
  | unreadable
  deriving Inhabited

/-- How a kind of document writes the records of the domain. -/
structure Node.Style where
  /-- a list of the fields in their declared order stands for a record -/
  listAsRecord : Bool
  /-- `null` stands for an empty list or record -/
  nullAsEmpty : Bool
  /-- an application tag is looked through -/
  looksThroughTags : Bool
  /-- an unsigned integer names a field by its position -/
  numbersNameFields : Bool
  deriving DecidableEq, Repr, Inhabited

/-- JSON documents. -/
def Node.Style.json : Node.Style := ⟨true, false, false, false⟩

/-- YAML documents. -/
def Node.Style.yaml : Node.Style := ⟨false, true, true, false⟩

/-- The inside of a variant record, whatever document it comes from: such a record is read whole
before its variant is known. -/
def Node.Style.variant : Node.Style := ⟨true, false, false, true⟩

/-! ## Single values -/

/-- The value below its tags, where the style looks through them. -/
def Node.bare (style : Node.Style) : Node → Node
  | .tagged tag value => if style.looksThroughTags then value.bare style else .tagged tag value
  | n => n

/-- A text. -/
def Node.text? (style : Node.Style) (n : Node) : Option String :=
  match n.bare style with
  | .text s => some s
  | _ => none

/-- A truth value. -/
def Node.bool? (style : Node.Style) (n : Node) : Option Bool :=
  match n.bare style with
  | .bool b => some b
  | _ => none

/-- An integer from `low` to `high`. -/
def Node.int? (style : Node.Style) (low high : Int) (n : Node) : Option Int :=
  match n.bare style with
  | .int k => if low ≤ k && k ≤ high then some k else none
  | _ => none

/-- A double; an integer counts as the double nearest to it. -/
def Node.float? (style : Node.Style) (n : Node) : Option Float :=
  match n.bare style with
  | .int k => some (Float.ofInt k)
  | .real x => some x
  | _ => none

/-- The items of a list. -/
def Node.list? (style : Node.Style) (n : Node) : Option (List Node) :=
  match n.bare style with
  | .list items => some items
  | .null => if style.nullAsEmpty then some [] else none
  | _ => none

/-- An optional value: absent and `null` say the same. -/
def Node.optional {α : Type} (read : Node → Option α) : Option Node → Option (Option α)
  | none => some none
  | some .null => some none
  | some n => (read n).map some

/-- A value with a default: only an absent one takes it. -/
def Node.orElse {α : Type} (read : Node → Option α) (default : α) : Option Node → Option α
  | none => some default
  | some n => read n

/-! ## Records -/

/-- A key that a record can have: a text, or where the style says so an unsigned integer. -/
def Node.legalKey (style : Node.Style) : Node → Bool
  | .text _ => true
  | .int n => style.numbersNameFields && 0 ≤ n
  | .tagged _ (.text _) => style.looksThroughTags
  | _ => false

/-- The key names the field `name`, which stands at `position`. -/
def Node.namesField (style : Node.Style) (position : Nat) (name : String) (key : Node) : Bool :=
  match key.bare style with
  | .text s => s == name
  | .int n => style.numbersNameFields && n == Int.ofNat position
  | _ => false

/-- The value of a field: absent, or given exactly once. -/
def Node.single (style : Node.Style) (fields : List (Node × Node)) (position : Nat)
    (name : String) : Option (Option Node) :=
  match fields.filter fun f => f.1.namesField style position name with
  | [] => some none
  | [(_, value)] => some (some value)
  | _ => none

/-- The values of the fields `names`, from position `position` on. -/
def Node.singles (style : Node.Style) (fields : List (Node × Node)) :
    Nat → List String → Option (List (Option Node))
  | _, [] => some []
  | position, name :: names => do
    let value ← Node.single style fields position name
    let rest ← Node.singles style fields (position + 1) names
    pure (value :: rest)

/-- One slot for each of `names`, in that order.  A repeated field spoils the record, unknown
fields do not. -/
def Node.slots (style : Node.Style) (names : List String) (n : Node) :
    Option (List (Option Node)) :=
  match n.bare style with
  | .record fields =>
    if fields.all fun f => f.1.legalKey style then Node.singles style fields 0 names else none
  | .list items =>
    if style.listAsRecord && items.length ≤ names.length then
      some (items.map some ++ List.replicate (names.length - items.length) none)
    else none
  | .null => if style.nullAsEmpty then some (names.map fun _ => none) else none
  | _ => none

/-! ## Between nodes and JSON values -/

mutual

/-- Everything in the node can be represented and nothing carries a tag. -/
def Node.readable : Node → Bool
  | .list items => Node.readableItems items
  | .record fields => Node.readableFields fields
  | .tagged _ _ => false
  | .unreadable => false
  | _ => true

/-- Every item is readable. -/
def Node.readableItems : List Node → Bool
  | [] => true
  | n :: ns => n.readable && Node.readableItems ns

/-- Every key and value is readable. -/
def Node.readableFields : List (Node × Node) → Bool
  | [] => true
  | (k, v) :: rest => k.readable && v.readable && Node.readableFields rest

end

mutual

/-- The node as a JSON value.  Of a repeated key the last value stands at the first place. -/
def Node.toJson? : Node → Option Json
  | .null => some .null
  | .bool b => some (.bool b)
  | .int n => some (.number (.int n))
  | .real x => some (Json.ofFloat x)
  | .text s => some (.text s)
  | .list items => (Node.itemsToJson? items).map .array
  | .record fields => (Node.fieldsToJson? [] fields).map .object
  | .tagged _ _ => none
  | .unreadable => none

/-- The items as JSON values. -/
def Node.itemsToJson? : List Node → Option (List Json)
  | [] => some []
  | n :: ns => do
    let x ← n.toJson?
    let xs ← Node.itemsToJson? ns
    pure (x :: xs)

/-- The fields as those of an object that has the fields `done` already. -/
def Node.fieldsToJson? (done : List (String × Json)) :
    List (Node × Node) → Option (List (String × Json))
  | [] => some done
  | (.text key, value) :: rest => do
    let v ← value.toJson?
    Node.fieldsToJson? (Assoc.put key v done) rest
  | _ :: _ => none

end

mutual

/-- A JSON value as a document. -/
def Json.toNode : Json → Node
  | .null => .null
  | .bool b => .bool b
  | .number (.int n) => .int n
  | .number (.real x) => .real x
  | .text s => .text s
  | .array items => .list (Json.itemsToNode items)
  | .object fields => .record (Json.fieldsToNode fields)

/-- The items of an array as nodes. -/
def Json.itemsToNode : List Json → List Node
  | [] => []
  | x :: xs => x.toNode :: Json.itemsToNode xs

/-- The fields of an object as nodes. -/
def Json.fieldsToNode : List (String × Json) → List (Node × Node)
  | [] => []
  | (k, v) :: rest => (.text k, v.toNode) :: Json.fieldsToNode rest

end

end VesselWatch
