/-
  Yaml/Event.lean --- the structure of a YAML document as a row of events.

  WHAT THIS FILE FIXES.  Which rows of tokens form one document, and the events of
  that document: scalars, beginnings and ends of sequences and mappings, and
  references.  An entry that is left out is an empty scalar.  The machine keeps
  what it expects next and, on a stack, what it expects after that.

  NAMES OF NODES.  A named node gets a number: how many different names have been
  used before it.  When a name is used again the count does not grow, so the next
  name may get a number that is taken already; the number then leads to the later
  node, for references written before it too.
-/
import VesselWatch.Yaml.Token
import VesselWatch.Assoc

set_option autoImplicit false

namespace VesselWatch.Yaml

/-- An event of a document. -/
inductive Event where
  /-- a scalar with its tag; `plain` when it was written without any marks -/
  | scalar (tag : Option Tag) (text : String) (plain : Bool)
  /-- a sequence begins -/
  | sequenceStart (tag : Option Tag)
  /-- the innermost sequence ends -/
  | sequenceEnd
  /-- a mapping begins: keys and values come in turn -/
  | mappingStart (tag : Option Tag)
  /-- the innermost mapping ends -/
  | mappingEnd
  /-- the node with this number -/
  | reference (number : Nat)
  deriving DecidableEq, Repr, Inhabited

/-- What comes next. -/
inductive Expect where
  /-- the first document -/
  | document
  /-- the content behind `---` -/
  | content
  /-- the root node -/
  | root
  | documentEnd
  /-- an entry of a block sequence -/
  | blockEntry
  /-- an entry of a sequence that has no indentation of its own -/
  | indentlessEntry
  /-- a key of a block mapping -/
  | blockKey
  /-- a value of a block mapping -/
  | blockValue
  /-- an entry of a flow sequence, the first one or a later one -/
  | flowEntry (first : Bool)
  /-- the key of a single pair in a flow sequence -/
  | pairKey
  /-- the value of a single pair in a flow sequence -/
  | pairValue
  /-- the end of a single pair in a flow sequence -/
  | pairEnd
  /-- a key of a flow mapping, the first one or a later one -/
  | flowKey (first : Bool)
  /-- a value of a flow mapping -/
  | flowValue
  /-- the value that a key of a flow mapping lacks -/
  | flowNoValue
  /-- the end of the text -/
  | finish
  | nothing
  deriving DecidableEq, Repr, Inhabited

/-- A document up to some place. -/
structure Grammar where
  tokens : List Token
  expect : Expect
  /-- what is expected after that, next one first -/
  after : List Expect
  /-- the events so far, last one first -/
  events : List Event
  /-- the numbers of the names -/
  numbers : List (String × Nat)
  /-- the events that the numbers lead to -/
  places : List (Nat × Nat)
  /-- the handles for tags that the document declares -/
  handles : List (String × Tag)
  deriving Repr, Inhabited

/-- A document: its events, and the events that the numbers of references lead to. -/
structure Events where
  events : List Event
  /-- where the numbers lead -/
  places : List (Nat × Nat)
  deriving Repr, Inhabited

namespace Grammar

/-- The beginning of a row of tokens. -/
def start (ts : List Token) : Grammar := ⟨ts, .document, [], [], [], [], []⟩

/-- Passes one token. -/
def skip (g : Grammar) : Grammar := { g with tokens := g.tokens.drop 1 }

/-- Expects something else. -/
def next (e : Expect) (g : Grammar) : Grammar := { g with expect := e }

/-- Expects what was put off. -/
def pop (g : Grammar) : Grammar :=
  match g.after with
  | [] => { g with expect := .nothing }
  | e :: rest => { g with expect := e, after := rest }

/-- Adds an event. -/
def emit (e : Event) (g : Grammar) : Grammar := { g with events := e :: g.events }

/-- Adds an empty scalar. -/
def emitEmpty (g : Grammar) : Grammar := g.emit (.scalar none "" true)

/-- The next token is one of `ts`; the end of the text is not. -/
def sees (g : Grammar) (ts : List Token) : Bool := g.tokens.head?.any ts.contains

/-! ## Nodes -/

/-- Gives the next event the number of a name. -/
def name (s : String) (g : Grammar) : Grammar :=
  let number := g.numbers.length
  { g with
    numbers := Assoc.put s number g.numbers
    places := Assoc.put number g.events.length g.places }

/-- Takes a name and a tag, in either order. -/
def properties (g : Grammar) : Option String × Option (String × Tag) × Grammar :=
  match g.tokens with
  | .anchor a :: .tag h s :: _ => (some a, some (h, s), g.skip.skip)
  | .tag h s :: .anchor a :: _ => (some a, some (h, s), g.skip.skip)
  | .anchor a :: _ => (some a, none, g.skip)
  | .tag h s :: _ => (none, some (h, s), g.skip)
  | _ => (none, none, g)

/-- The full form of a tag. -/
def resolveTag (g : Grammar) (tag : String × Tag) : Option Tag :=
  if tag.1 == "" then some tag.2
  else
    let meaning := (g.handles.lookup tag.1).or <|
      if tag.1 == "!" then some Tag.mark
      else if tag.1 == "!!" then some (Tag.ofText "tag:yaml.org,2002:")
      else none
    meaning.map (·.append tag.2)

/-- Gives the next event its name, if it has one. -/
def nameNext (anchor : Option String) (g : Grammar) : Grammar :=
  match anchor with
  | some a => g.name a
  | none => g

/-- Takes a node behind its name and tag. -/
def body (block indentless : Bool) (anchor : Option String) (tag : Option Tag)
    (g : Grammar) : Option Grammar :=
  let named := g.nameNext anchor
  match g.tokens with
  | .blockEntry :: _ =>
    if indentless then some ((named.emit (.sequenceStart tag)).next .indentlessEntry)
    else absent
  | .scalar text plain :: _ =>
    let tag := if tag == some Tag.mark then none else tag
    some (named.skip.emit (.scalar tag text plain)).pop
  | .flowSequenceStart :: _ =>
    some ((named.skip.emit (.sequenceStart tag)).next (.flowEntry true))
  | .flowMappingStart :: _ =>
    some ((named.skip.emit (.mappingStart tag)).next (.flowKey true))
  | .blockSequenceStart :: _ =>
    if block then some ((named.skip.emit (.sequenceStart tag)).next .blockEntry) else absent
  | .blockMappingStart :: _ =>
    if block then some ((named.skip.emit (.mappingStart tag)).next .blockKey) else absent
  | _ => absent
where
  /-- a node that consists of its name and tag alone -/
  absent : Option Grammar :=
    if anchor.isSome || tag.isSome then some ((g.nameNext anchor).emit (.scalar tag "" true)).pop
    else none

/-- Takes a node.  `block` allows blocks, `indentless` a sequence without indentation. -/
def node (block indentless : Bool) (g : Grammar) : Option Grammar :=
  match g.tokens with
  | .reference s :: _ =>
    (g.numbers.lookup s).map fun number => (g.skip.emit (.reference number)).pop
  | _ =>
    let (anchor, tag, g) := g.properties
    match tag with
    | none => g.body block indentless anchor none
    | some tag =>
      match g.resolveTag tag with
      | none => none
      | some tag => g.body block indentless anchor (some tag)

/-- Takes a node, then expects `e`. -/
def nodeThen (e : Expect) (block indentless : Bool) (g : Grammar) : Option Grammar :=
  ({ g with after := e :: g.after }).node block indentless

/-- Takes a node, or an empty scalar when one of `ends` comes; then expects `e`. -/
def nodeOrEmpty (e : Expect) (block indentless : Bool) (ends : List Token) (g : Grammar) :
    Option Grammar :=
  if g.sees ends then some (g.emitEmpty.next e) else g.nodeThen e block indentless

/-- Leaves a collection. -/
def close (e : Event) (g : Grammar) : Grammar := (g.emit e).pop

/-! ## Documents -/

/-- Takes the directives of a document. -/
def directives : Bool → List (String × Tag) → List Token →
    Option (List (String × Tag) × List Token)
  | versioned, handles, .versionDirective major minor :: ts =>
    if versioned || major != 1 || !(minor == 1 || minor == 2) then none
    else directives true handles ts
  | versioned, handles, .tagDirective handle meaning :: ts =>
    if Assoc.has handle handles then none
    else directives versioned (handles ++ [(handle, meaning)]) ts
  | _, handles, ts => some (handles, ts)

/-- Takes the beginning of the document. -/
def document (g : Grammar) : Option Grammar :=
  match g.tokens with
  | [] => some (g.next .nothing)
  | _ =>
    match directives false [] g.tokens with
    | none => none
    | some (handles, .documentStart :: ts) =>
      some { g with tokens := ts, handles := handles, expect := .content, after := [.documentEnd] }
    | some (_, ts) =>
      if ts.length == g.tokens.length then
        some { g with expect := .root, after := [.documentEnd] }
      else none

/-- The tokens before which a document has no content. -/
def isDocumentMark : Token → Bool
  | .versionDirective _ _ => true
  | .tagDirective _ _ => true
  | .documentStart => true
  | .documentEnd => true
  | _ => false

/-- Takes one step. -/
def step (g : Grammar) : Option Grammar :=
  match g.expect with
  | .document => g.document
  | .content =>
    if g.tokens.isEmpty || g.tokens.head?.any isDocumentMark then some g.emitEmpty.pop
    else g.node true false
  | .root => g.node true false
  | .documentEnd => some { g with tokens := g.tokens.dropWhile (· == .documentEnd), expect := .finish }
  | .finish => if g.tokens.isEmpty then some (g.next .nothing) else none
  | .blockEntry =>
    match g.tokens with
    | .blockEntry :: _ => g.skip.nodeOrEmpty .blockEntry true false [.blockEntry, .blockEnd]
    | .blockEnd :: _ => some (g.skip.close .sequenceEnd)
    | _ => none
  | .indentlessEntry =>
    match g.tokens with
    | .blockEntry :: _ =>
      g.skip.nodeOrEmpty .indentlessEntry true false [.blockEntry, .key, .value, .blockEnd]
    | _ => some (g.close .sequenceEnd)
  | .blockKey =>
    match g.tokens with
    | .key :: _ => g.skip.nodeOrEmpty .blockValue true true [.key, .value, .blockEnd]
    | .blockEnd :: _ => some (g.skip.close .mappingEnd)
    | _ => none
  | .blockValue =>
    match g.tokens with
    | .value :: _ => g.skip.nodeOrEmpty .blockKey true true [.key, .value, .blockEnd]
    | _ => some (g.emitEmpty.next .blockKey)
  | .flowEntry first =>
    if g.sees [.flowSequenceEnd] then some (g.skip.close .sequenceEnd)
    else if !first && !g.sees [.flowEntry] then none
    else
      let g := if first then g else g.skip
      match g.tokens with
      | .key :: _ => some ((g.skip.emit (.mappingStart none)).next .pairKey)
      | .flowSequenceEnd :: _ => some (g.skip.close .sequenceEnd)
      | _ => g.nodeThen (.flowEntry false) false false
  | .pairKey =>
    if g.sees [.value, .flowEntry, .flowSequenceEnd] then
      some (g.skip.emitEmpty.next .pairValue)
    else g.nodeThen .pairValue false false
  | .pairValue =>
    match g.tokens with
    | .value :: _ => g.skip.nodeOrEmpty .pairEnd false false [.flowEntry, .flowSequenceEnd]
    | _ => some (g.emitEmpty.next .pairEnd)
  | .pairEnd => some ((g.emit .mappingEnd).next (.flowEntry false))
  | .flowKey first =>
    if g.sees [.flowMappingEnd] then some (g.skip.close .mappingEnd)
    else if !first && !g.sees [.flowEntry] then none
    else
      let g := if first then g else g.skip
      match g.tokens with
      | .key :: _ =>
        g.skip.nodeOrEmpty .flowValue false false [.value, .flowEntry, .flowMappingEnd]
      | .flowMappingEnd :: _ => some (g.skip.close .mappingEnd)
      | _ => g.nodeThen .flowNoValue false false
  | .flowValue =>
    match g.tokens with
    | .value :: _ =>
      g.skip.nodeOrEmpty (.flowKey false) false false [.flowEntry, .flowMappingEnd]
    | _ => some (g.emitEmpty.next (.flowKey false))
  | .flowNoValue => some (g.emitEmpty.next (.flowKey false))
  | .nothing => some g

/-- Takes steps until nothing is expected. -/
def run : Nat → Grammar → Option Events
  | 0, _ => none
  | fuel + 1, g =>
    match g.expect with
    | .nothing => some ⟨g.events.reverse, g.places⟩
    | _ => g.step.bind (run fuel)

end Grammar

/-- The events of the one document that the tokens form.  Every step but those that end a node
takes a token, and no token ends more than a few nodes, so the steps are bounded. -/
def events? (ts : List Token) : Option Events :=
  Grammar.run (6 * ts.length + 16) (Grammar.start ts)

end VesselWatch.Yaml
