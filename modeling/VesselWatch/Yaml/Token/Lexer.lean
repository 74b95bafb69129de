/-
  Yaml/Token/Lexer.lean --- a YAML text cut into tokens.

  WHAT THIS FILE FIXES.  Where each token begins and ends, and where the tokens for
  indentation go.  A column deeper than the current block opens a block, a
  shallower one closes blocks until it fits.

  SIMPLE KEYS.  Whether something is a key is known only at the colon behind it.
  So the lexer remembers where a key could have begun (`Candidate`), one place for
  each level of brackets, and puts the `key` token there when the colon comes.  A
  key stays on one line and has at most 1024 bytes; one that must be a key, because
  it stands where a block expects one, and turns out not to be, is an error.
-/
import VesselWatch.Yaml.Token
import VesselWatch.Yaml.Quoted

set_option autoImplicit false

namespace VesselWatch.Yaml

/-- A place where a key may have begun. -/
structure Candidate where
  /-- how many tokens come before it -/
  number : Nat
  /-- it must be a key -/
  required : Bool
  place : Cursor
  deriving Repr, Inhabited

/-- A text that has been cut up to some place. -/
structure Lexer where
  /-- the place -/
  cursor : Cursor
  /-- the tokens so far, last one first -/
  tokens : List Token
  /-- column of the innermost block, `-1` outside all blocks -/
  indent : Int
  /-- columns of the blocks around it, innermost first -/
  outer : List Int
  /-- a key may begin here -/
  keyAllowed : Bool
  /-- the candidate of each level of brackets, innermost first; the last is outside all brackets -/
  candidates : List (Option Candidate)
  deriving Repr, Inhabited

namespace Lexer

/-- The beginning of a text. -/
def start (cs : List Char) : Lexer := ⟨Cursor.start cs, [], -1, [], true, [none]⟩

/-- The place lies inside brackets. -/
def inFlow (l : Lexer) : Bool := 1 < l.candidates.length

/-- Adds a token. -/
def add (t : Token) (l : Lexer) : Lexer := { l with tokens := t :: l.tokens }

/-- Adds a token before all but the first `number` tokens. -/
def insert (number : Nat) (t : Token) (l : Lexer) : Lexer :=
  let later := l.tokens.length - number
  { l with tokens := l.tokens.take later ++ t :: l.tokens.drop later }

/-- Goes to another place. -/
def goTo (c : Cursor) (l : Lexer) : Lexer := { l with cursor := c }

/-- Passes `n` characters. -/
def advance (n : Nat) (l : Lexer) : Lexer := l.goTo (l.cursor.advance n)

/-- Says whether a key may begin here. -/
def allow (b : Bool) (l : Lexer) : Lexer := { l with keyAllowed := b }

/-! ## Indentation -/

/-- Closes the blocks that are deeper than `column`. -/
def unroll (column : Int) (l : Lexer) : Lexer :=
  if l.inFlow then l else go l.indent l.outer l.tokens
where
  /-- closes one block after the other -/
  go (indent : Int) (outer : List Int) (tokens : List Token) : Lexer :=
    if column < indent then
      match outer with
      | [] => { l with indent := -1, outer := [], tokens := .blockEnd :: tokens }
      | next :: outer => go next outer (.blockEnd :: tokens)
    else { l with indent := indent, outer := outer, tokens := tokens }

/-- Opens a block at `column` when that is deeper than the current one; its token goes before all
but the first `number` tokens. -/
def roll (column : Nat) (number : Nat) (t : Token) (l : Lexer) : Lexer :=
  if !l.inFlow && l.indent < column then
    { l.insert number t with indent := column, outer := l.indent :: l.outer }
  else l

/-! ## Simple keys -/

/-- Replaces the candidate of the innermost level. -/
def setCandidate (k : Option Candidate) (l : Lexer) : Lexer :=
  { l with candidates := k :: l.candidates.drop 1 }

/-- The candidate of the innermost level. -/
def candidate? (l : Lexer) : Option Candidate := l.candidates.head?.join

/-- Drops the candidate of the innermost level, which must not be a required one. -/
def dropCandidate (l : Lexer) : Option Lexer :=
  if l.candidate?.any (·.required) then none else some (l.setCandidate none)

/-- Remembers this place, if a key may begin here. -/
def saveCandidate (l : Lexer) : Option Lexer :=
  if l.keyAllowed then
    let required := !l.inFlow && l.indent == l.cursor.column
    l.dropCandidate.map (·.setCandidate (some ⟨l.tokens.length, required, l.cursor⟩))
  else some l

/-- The candidate is on an earlier line, or too far back. -/
def Candidate.isStale (here : Cursor) (k : Candidate) : Bool :=
  k.place.line < here.line || k.place.index + 1024 < here.index

/-- Drops all stale candidates, none of which may be a required one. -/
def dropStale (l : Lexer) : Option Lexer :=
  let stale (k : Option Candidate) : Bool := k.any (Candidate.isStale l.cursor)
  if l.candidates.any fun k => stale k && k.any (·.required) then none
  else some { l with candidates := l.candidates.map fun k => if stale k then none else k }

/-! ## Space between tokens -/

/-- Goes to the next token: past blanks, comments and line breaks.  Where a key may begin, a tab is
no blank.  A byte order mark at the beginning of a line is passed, and counts as a column. -/
def toNextToken : Nat → Lexer → Lexer
  | 0, l => l
  | fuel + 1, l =>
    let c := if l.cursor.column == 0 && l.cursor.sees (· == '\uFEFF') then l.cursor.advance 1
      else l.cursor
    let c := c.skipWhile fun x => x == ' ' || ((l.inFlow || !l.keyAllowed) && x == '\t')
    let c := if c.sees (· == '#') then c.skipWhile (!isBreak ·) else c
    if c.sees isBreak then
      toNextToken fuel { l with cursor := c.skipBreak, keyAllowed := l.keyAllowed || !l.inFlow }
    else l.goTo c

/-! ## Directives -/

/-- A number of at most nine digits. -/
def takeVersion (c : Cursor) : Option (Nat × Cursor) :=
  let ds := c.rest.takeWhile Char.isDigit
  if ds.isEmpty || 9 < ds.length then none
  else some (ds.foldl (fun n d => 10 * n + (d.toNat - 48)) 0, c.advance ds.length)

/-- A directive, from its `%` on. -/
def takeDirective (c : Cursor) : Option (Token × Cursor) := do
  let c := c.advance 1
  let name := c.rest.takeWhile isWordChar
  let c := c.advance name.length
  if !blankAhead c.rest then none
  else if name == "YAML".toList then
    let (major, c) ← takeVersion (c.skipWhile isBlank)
    if c.sees (· == '.') then
      let (minor, c) ← takeVersion (c.advance 1)
      pure (.versionDirective major minor, ← c.restOfLine)
    else none
  else if name == "TAG".toList then
    let (handle, c) ← Tag.takeHandle (c.skipWhile isBlank)
    if Tag.closedHandle handle && c.sees isBlank then
      let (bytes, c) ← Tag.takeBytes true (c.skipWhile isBlank)
      if bytes.isEmpty || !blankAhead c.rest then none
      else pure (.tagDirective (String.ofList handle) (Tag.ofBytes bytes), ← c.restOfLine)
    else none
  else none

/-! ## Names and tags -/

/-- The name behind `&` or `*`. -/
def takeName (c : Cursor) : Option (String × Cursor) :=
  let c := c.advance 1
  let name := c.rest.takeWhile isWordChar
  let next := c.advance name.length
  if name.isEmpty then none
  else if blankAhead next.rest || next.sees ("?:,]\x7d%@\x60".toList.contains ·) then
    some (String.ofList name, next)
  else none

/-- A tag, from its `!` on. -/
def takeTag (inFlow : Bool) (c : Cursor) : Option (Token × Cursor) := do
  let (handle, suffix, c) ← Tag.takeParts c
  if blankAhead c.rest || (inFlow && c.sees (· == ',')) then
    pure (.tag (String.ofList handle) suffix, c)
  else none

/-! ## One token -/

/-- The text ends. -/
def finish (l : Lexer) : Option (List Token) :=
  (l.unroll (-1)).dropCandidate.map fun l => l.tokens.reverse

/-- A directive. -/
def directive (l : Lexer) : Option Lexer := do
  let l ← (l.unroll (-1)).dropCandidate
  let (t, c) ← takeDirective l.cursor
  pure (((l.allow false).goTo c).add t)

/-- A document begins or ends. -/
def document (t : Token) (l : Lexer) : Option Lexer := do
  let l ← (l.unroll (-1)).dropCandidate
  pure (((l.allow false).advance 3).add t)

/-- An opening bracket. -/
def openFlow (t : Token) (l : Lexer) : Option Lexer := do
  let l ← l.saveCandidate
  let l := { l with candidates := none :: l.candidates }
  pure (((l.allow true).advance 1).add t)

/-- A closing bracket. -/
def closeFlow (t : Token) (l : Lexer) : Option Lexer := do
  let l ← l.dropCandidate
  let l := if l.inFlow then { l with candidates := l.candidates.drop 1 } else l
  pure (((l.allow false).advance 1).add t)

/-- A comma. -/
def flowEntry (l : Lexer) : Option Lexer := do
  let l ← l.dropCandidate
  pure (((l.allow true).advance 1).add .flowEntry)

/-- A dash before an item. -/
def blockEntry (l : Lexer) : Option Lexer := do
  if l.inFlow || l.keyAllowed then
    let l ← (l.roll l.cursor.column l.tokens.length .blockSequenceStart).dropCandidate
    pure (((l.allow true).advance 1).add .blockEntry)
  else none

/-- A question mark before a key. -/
def explicitKey (l : Lexer) : Option Lexer := do
  if l.inFlow || l.keyAllowed then
    let l ← (l.roll l.cursor.column l.tokens.length .blockMappingStart).dropCandidate
    pure (((l.allow (!l.inFlow)).advance 1).add .key)
  else none

/-- A colon before a value. -/
def value (l : Lexer) : Option Lexer :=
  match l.candidate? with
  | some k =>
    let l := (l.insert k.number .key).roll k.place.column k.number .blockMappingStart
    some ((((l.setCandidate none).allow false).advance 1).add .value)
  | none =>
    if l.inFlow || l.keyAllowed then
      let l := l.roll l.cursor.column l.tokens.length .blockMappingStart
      some (((l.allow (!l.inFlow)).advance 1).add .value)
    else none

/-- A name, a tag or a quoted scalar. -/
def item (take : Cursor → Option (Token × Cursor)) (l : Lexer) : Option Lexer := do
  let l ← l.saveCandidate
  let (t, c) ← take l.cursor
  pure (((l.allow false).goTo c).add t)

/-- The name of a node, or a reference to one. -/
def named (make : String → Token) (c : Cursor) : Option (Token × Cursor) :=
  (takeName c).map fun (name, c) => (make name, c)

/-- A quoted scalar. -/
def quoted (single : Bool) (c : Cursor) : Option (Token × Cursor) :=
  (quotedScalar single c).map fun (text, c) => (.scalar (String.ofList text) false, c)

/-- A literal or folded scalar. -/
def block (literal : Bool) (l : Lexer) : Option Lexer := do
  let l ← l.dropCandidate
  let (text, c) ← blockScalar literal l.indent l.cursor
  pure (((l.allow true).goTo c).add (.scalar (String.ofList text) false))

/-- A plain scalar. -/
def plain (l : Lexer) : Option Lexer := do
  let l ← l.saveCandidate
  let (text, c, broken) ← plainScalar l.inFlow (l.indent + 1) l.cursor
  pure (((l.allow broken).goTo c).add (.scalar (String.ofList text) true))

/-- A plain scalar may begin with `c`, which `rest` follows. -/
def beginsPlain (inFlow : Bool) (c : Char) (rest : List Char) : Bool :=
  if c == '-' then !(rest.head?.any isBlank)
  else if c == '?' || c == ':' then !inFlow && !blankAhead rest
  else !(isBlank c || isBreak c || ",[]\x7b\x7d#&*!|>'\"%@\x60".toList.contains c)

/-- Takes the token that begins with `c`, which `rest` follows. -/
def token (c : Char) (rest : List Char) (l : Lexer) : Option Lexer :=
  let free := l.inFlow || blankAhead rest
  if l.cursor.column == 0 && c == '%' then l.directive
  else if l.cursor.column == 0 && documentMark '-' (c :: rest) then l.document .documentStart
  else if l.cursor.column == 0 && documentMark '.' (c :: rest) then l.document .documentEnd
  else if c == '[' then l.openFlow .flowSequenceStart
  else if c == '\x7b' then l.openFlow .flowMappingStart
  else if c == ']' then l.closeFlow .flowSequenceEnd
  else if c == '\x7d' then l.closeFlow .flowMappingEnd
  else if c == ',' then l.flowEntry
  else if c == '-' && blankAhead rest then l.blockEntry
  else if c == '?' && free then l.explicitKey
  else if c == ':' && free then l.value
  else if c == '*' then l.item (named .reference)
  else if c == '&' then l.item (named .anchor)
  else if c == '!' then l.item (takeTag l.inFlow)
  else if c == '|' && !l.inFlow then l.block true
  else if c == '>' && !l.inFlow then l.block false
  else if c == '\'' then l.item (quoted true)
  else if c == '"' then l.item (quoted false)
  else if beginsPlain l.inFlow c rest then l.plain
  else none

/-- Takes token after token. -/
def run : Nat → Lexer → Option (List Token)
  | 0, _ => none
  | fuel + 1, l => do
    let l ← (l.toNextToken (l.cursor.rest.length + 1)).dropStale
    let l := l.unroll l.cursor.column
    match l.cursor.rest with
    | [] => l.finish
    | c :: rest =>
      let l ← l.token c rest
      run fuel l

end Lexer

/-- The tokens of a text. -/
def tokens? (cs : List Char) : Option (List Token) :=
  if cs.all isPrintable then Lexer.run (cs.length + 1) (Lexer.start cs) else none

end VesselWatch.Yaml
