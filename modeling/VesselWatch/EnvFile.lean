/-
  EnvFile.lean --- variables of the environment in a file.

  WHAT THIS FILE FIXES.  A line is `NAME=value`, perhaps behind `export`; blank lines
  and comments are passed over.  A value may be bare, in single quotes, where
  everything stands for itself, or in double quotes, and these may be mixed.  Outside
  single quotes a backslash takes the next character as it is (`n` as a line feed),
  and `$NAME` or the name in braces stands for the value of a variable; behind the
  dollar sign the letters and digits of all scripts make up the name.  A quoted value
  may run over several lines.

  A VARIABLE THAT IS SET KEEPS ITS VALUE.  At the first line that is malformed
  reading ends; the lines before it have been taken.
-/
import VesselWatch.Assoc
import VesselWatch.Config
import VesselWatch.Text.Alphanumeric
import VesselWatch.Text.Blank

set_option autoImplicit false

namespace VesselWatch.EnvFile

open Text

/-! ## Logical lines -/

/-- Where the end of a line lies. -/
inductive LineState where
  /-- outside quotes -/
  | complete
  /-- behind a backslash -/
  | escape
  /-- behind a blank -/
  | blank
  /-- in single quotes -/
  | single
  /-- behind a backslash in single quotes -/
  | singleEscape
  /-- in double quotes -/
  | double
  /-- behind a backslash in double quotes -/
  | doubleEscape
  deriving DecidableEq, Repr, Inhabited

/-- The state behind a character outside quotes. -/
def LineState.outside (c : Char) : LineState :=
  match c with
  | '\\' => .escape
  | '"' => .double
  | '\'' => .single
  | _ => .complete

/-- The state behind a character. -/
def LineState.next (s : LineState) (c : Char) : LineState :=
  match s with
  | .complete =>
    if isBlank c && c != '\n' && c != '\r' then .blank else LineState.outside c
  | .blank => LineState.outside c
  | .escape => .complete
  | .single => if c == '\\' then .singleEscape else if c == '\'' then .complete else .single
  | .singleEscape => .single
  | .double => if c == '\\' then .doubleEscape else if c == '"' then .complete else .double
  | .doubleEscape => .double

/-- Passes one line of the text, its line feed included.  Gives its characters up to a comment, the
state at its end, and whether a comment ended it. -/
def passLine (s : LineState) : List Char → List Char × LineState × Bool × List Char
  | [] => ([], s, false, [])
  | c :: cs =>
    if s == .blank && c == '#' then
      ([], s, true, (cs.dropWhile (· != '\n')).drop 1)
    else if c == '\n' then (['\n'], s.next c, false, cs)
    else
      let (line, state, comment, rest) := passLine (s.next c) cs
      (c :: line, state, comment, rest)

/-- Takes the next logical line: as many lines as it needs for its quotes to close.  `start` holds
the lines before.  Gives nothing when the text ends inside quotes. -/
def takeLine : Nat → List Char → LineState → List Char → Option (List Char × List Char)
  | 0, _, _, _ => none
  | fuel + 1, start, s, cs =>
    if cs.isEmpty then none
    else
      let (line, state, comment, rest) := passLine s cs
      let text := start ++ line
      if (trimStart (start ++ cs.takeWhile (· != '\n'))).head? == some '#' then
        some ([], (cs.dropWhile (· != '\n')).drop 1)
      else if comment || state == .complete then some (text, rest)
      else takeLine fuel text state rest

/-! ## Values -/

/-- What is known about variables: those of the environment, and those of the lines before. -/
structure Known where
  env : Environment
  /-- the lines before -/
  lines : Environment
  deriving Repr, Inhabited

/-- What a name stands for; an unknown one for nothing. -/
def Known.get (k : Known) (name : List Char) : List Char :=
  let name := String.ofList name
  ((k.env.lookup name).getD ((k.lines.lookup name).getD "")).toList

/-- Where a value has been read up to. -/
inductive ValueState where
  /-- outside quotes -/
  | bare
  /-- behind a backslash, in double quotes or not -/
  | escape (quoted : Bool)
  /-- in single quotes -/
  | single
  /-- in double quotes -/
  | double
  /-- in a name behind a dollar sign, the name last character first, in double quotes or not -/
  | name (back : List Char) (quoted : Bool)
  /-- in a name in braces, the name last character first, in double quotes or not -/
  | braced (back : List Char) (quoted : Bool)
  /-- behind the value -/
  | done
  deriving DecidableEq, Repr, Inhabited

/-- Outside quotes or in double quotes. -/
def ValueState.open (quoted : Bool) : ValueState := if quoted then .double else .bare

/-- The characters that a character adds to the value, and the state behind it. -/
def valueStep (k : Known) (s : ValueState) (c : Char) : Option (List Char × ValueState) :=
  match s with
  | .done => if c == ' ' || c == '\t' then some ([], .done) else none
  | .escape quoted =>
    if c == 'n' then some (['\n'], .open quoted)
    else if "\\'\"$ ".toList.contains c then some ([c], .open quoted)
    else none
  | .single => if c == '\'' then some ([], .bare) else some ([c], .single)
  | .name back quoted =>
    if isAlphanumeric c then some ([], .name (c :: back) quoted)
    else if c == '{' && back.isEmpty then some ([], .braced [] quoted)
    else
      let text := k.get back.reverse
      if c == '$' then some (text, .name [] quoted) else some (text ++ [c], .open quoted)
  | .braced back quoted =>
    if c == '}' then some (k.get back.reverse, .open quoted)
    else some ([], .braced (c :: back) quoted)
  | .double =>
    if c == '$' then some ([], .name [] true)
    else if c == '"' then some ([], .bare)
    else if c == '\\' then some ([], .escape true)
    else some ([c], .double)
  | .bare =>
    if c == '$' then some ([], .name [] false)
    else if c == '\'' then some ([], .single)
    else if c == '"' then some ([], .double)
    else if c == '\\' then some ([], .escape false)
    else if c == ' ' || c == '\t' then some ([], .done)
    else some ([c], .bare)

/-- What the end of the line adds to the value, if the value may end there. -/
def valueEnd (k : Known) : ValueState → Option (List Char)
  | .single => none
  | .double => none
  | .escape true => none
  | .braced _ _ => none
  | .name _ true => none
  | .name back false => some (k.get back.reverse)
  | _ => some []

/-- Reads a value. -/
def value? (k : Known) (s : ValueState) : List Char → Option (List Char)
  | [] => valueEnd k s
  | c :: cs =>
    if s == .done && c == '#' then some []
    else
      match valueStep k s c with
      | none => none
      | some (text, s) => (value? k s cs).map (text ++ ·)

/-! ## Lines -/

/-- The name of a variable, and what follows it. -/
def takeName (cs : List Char) : Option (List Char × List Char) :=
  match cs with
  | [] => none
  | c :: _ =>
    if c.isAlpha || c == '_' then
      let isName (c : Char) : Bool := c.isAlphanum || c == '_' || c == '.'
      some (cs.takeWhile isName, cs.dropWhile isName)
    else none

/-- What follows an equals sign. -/
def takeEquals (cs : List Char) : Option (List Char) :=
  match cs with
  | '=' :: rest => some rest
  | _ => none

/-- Name and text of the value of a line. -/
def splitLine (cs : List Char) : Option (List Char × List Char) := do
  let (name, rest) ← takeName cs
  let rest := trimStart rest
  match takeEquals rest with
  | some value => pure (name, trimStart value)
  | none =>
    if name == "export".toList then
      let (name, rest) ← takeName rest
      let value ← takeEquals (trimStart rest)
      pure (name, trimStart value)
    else none

/-- What a line says: nothing, or a variable and its value. -/
def readLine (k : Known) (line : List Char) : Option (Option (String × String)) :=
  let cs := trim line
  if cs.isEmpty || cs.head? == some '#' then some none
  else do
    let (name, text) ← splitLine cs
    let value ← if text.isEmpty || text.head? == some '#' then some [] else value? k .bare text
    pure (some (String.ofList name, String.ofList value))

/-! ## Files -/

/-- Sets a variable that is not set. -/
def Known.set (name value : String) (k : Known) : Known :=
  { env := if Assoc.has name k.env then k.env else k.env ++ [(name, value)]
    lines := Assoc.put name value k.lines }

/-- Reads line after line. -/
def run : Nat → Known → List Char → Known
  | 0, k, _ => k
  | fuel + 1, k, cs =>
    match takeLine (cs.length + 1) [] .complete cs with
    | none => k
    | some (line, rest) =>
      match readLine k line with
      | none => k
      | some none => run fuel k rest
      | some (some (name, value)) => run fuel (k.set name value) rest

/-- The environment with the variables of a file. -/
def load (env : Environment) (text : String) : Environment :=
  let cs := match text.toList with
    | '\uFEFF' :: rest => rest
    | cs => cs
  (run (cs.length + 1) ⟨env, []⟩ cs).env

end VesselWatch.EnvFile
