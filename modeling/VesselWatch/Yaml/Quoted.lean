/-
  Yaml/Quoted.lean --- the five ways to write a scalar.

  WHAT THIS FILE FIXES.  Plain, single-quoted, double-quoted, literal and folded
  scalars.  The first three may run over several lines, joined by their gaps.  A
  block scalar takes the lines that are indented deep enough; its chomping mark says
  what becomes of the line breaks at its end.
-/
import VesselWatch.Yaml.Cursor

set_option autoImplicit false

namespace VesselWatch.Yaml

/-! ## Plain scalars -/

/-- A character that ends a plain scalar inside brackets. -/
def isFlowMark (c : Char) : Bool :=
  c == ',' || c == '[' || c == ']' || c == '{' || c == '}'

/-- The next characters of a plain scalar up to a blank or an end.  Inside brackets a colon right
before a bracket is an error. -/
def plainRun (flow : Bool) : List Char → Option (List Char)
  | [] => some []
  | c :: cs =>
    if isBlank c || isBreak c then some []
    else if flow && c == ':' && (cs.head?.any fun d => isFlowMark d || d == '?') then none
    else if (c == ':' && blankAhead cs) || (flow && isFlowMark c) then some []
    else (plainRun flow cs).map (c :: ·)

/-- Takes in the runs of a plain scalar.  Gives its text, the place behind it, and whether a line
break came last. -/
def plainRuns (flow : Bool) (indent : Int) :
    Nat → List Char → Gap → Cursor → Option (List Char × Cursor × Bool)
  | 0, _, _, _ => none
  | fuel + 1, text, gap, c =>
    if c.atDocumentMark || c.sees (· == '#') then some (text, c, gap.broken)
    else
      match plainRun flow c.rest with
      | none => none
      | some run =>
        let (text, gap) :=
          if run.isEmpty then (text, gap) else (text ++ gap.fold ++ run, Gap.none)
        let c := c.advance run.length
        if c.sees fun x => isBlank x || isBreak x then
          match c.takeGap (some indent.toNat) (c.rest.length + 1) gap with
          | none => none
          | some (gap, c) =>
            if !flow && (c.column : Int) < indent then some (text, c, gap.broken)
            else plainRuns flow indent fuel text gap c
        else some (text, c, gap.broken)

/-- A plain scalar. -/
def plainScalar (flow : Bool) (indent : Int) (c : Cursor) :
    Option (List Char × Cursor × Bool) :=
  plainRuns flow indent (c.rest.length + 1) [] Gap.none c

/-! ## Quoted scalars -/

/-- The next characters between single quotes: their text and how many they are. -/
def singleRun : List Char → List Char × Nat
  | '\'' :: '\'' :: cs =>
    let (text, n) := singleRun cs
    ('\'' :: text, n + 2)
  | [] => ([], 0)
  | c :: cs =>
    if c == '\'' || isBlank c || isBreak c then ([], 0)
    else
      let (text, n) := singleRun cs
      (c :: text, n + 1)

/-- The value of a hexadecimal digit. -/
def hexValue? (c : Char) : Option Nat :=
  if '0' ≤ c && c ≤ '9' then some (c.toNat - 48)
  else if 'a' ≤ c && c ≤ 'f' then some (c.toNat - 87)
  else if 'A' ≤ c && c ≤ 'F' then some (c.toNat - 55)
  else none

/-- The number that hexadecimal digits write. -/
def hexNumber? (cs : List Char) : Option Nat :=
  cs.foldlM (fun n c => (hexValue? c).map fun d => 16 * n + d) 0

/-- The character that a letter behind a backslash stands for. -/
def escaped? (c : Char) : Option Char :=
  match c with
  | '0' => some '\x00'
  | 'a' => some '\x07'
  | 'b' => some '\x08'
  | 't' => some '\t'
  | '\t' => some '\t'
  | 'n' => some '\n'
  | 'v' => some '\x0b'
  | 'f' => some '\x0c'
  | 'r' => some '\r'
  | 'e' => some '\x1b'
  | ' ' => some ' '
  | '"' => some '"'
  | '/' => some '/'
  | '\\' => some '\\'
  | 'N' => some '\u0085'
  | '_' => some '\u00a0'
  | 'L' => some '\u2028'
  | 'P' => some '\u2029'
  | _ => none

/-- How many hexadecimal digits follow a letter behind a backslash. -/
def escapeDigits (c : Char) : Nat :=
  if c == 'x' then 2 else if c == 'u' then 4 else if c == 'U' then 8 else 0

/-- The character with a given number, surrogates excluded. -/
def charOfNumber? (n : Nat) : Option Char :=
  if h : n.isValidChar then some (Char.ofNatAux n h) else none

/-- What an escape sequence behind its backslash stands for, and how many characters it has. -/
def escape? : List Char → Option (Char × Nat)
  | [] => none
  | c :: cs =>
    let digits := escapeDigits c
    if digits == 0 then (escaped? c).map fun x => (x, 1)
    else
      let ds := cs.take digits
      if ds.length == digits then
        ((hexNumber? ds).bind charOfNumber?).map fun x => (x, digits + 1)
      else none

/-- The next characters between double quotes: their text, how many they are, and whether a
backslash before a line break ended them. -/
def doubleRun : Nat → List Char → Option (List Char × Nat × Bool)
  | 0, _ => none
  | _ + 1, [] => some ([], 0, false)
  | fuel + 1, c :: cs =>
    if c == '"' || isBlank c || isBreak c then some ([], 0, false)
    else if c == '\\' then
      if cs.head?.any isBreak then some ([], 1, true)
      else
        match escape? cs with
        | none => none
        | some (x, n) =>
          (doubleRun fuel (cs.drop n)).map fun (text, m, broken) => (x :: text, m + n + 1, broken)
    else (doubleRun fuel cs).map fun (text, m, broken) => (c :: text, m + 1, broken)

/-- Takes in the runs of a quoted scalar up to its closing quote. -/
def quotedRuns (single : Bool) : Nat → List Char → Cursor → Option (List Char × Cursor)
  | 0, _, _ => none
  | fuel + 1, text, c =>
    if c.atDocumentMark || c.rest.isEmpty then none
    else
      let run :=
        if single then
          let (run, n) := singleRun c.rest
          some (run, n, false)
        else doubleRun (c.rest.length + 1) c.rest
      match run with
      | none => none
      | some (run, n, broken) =>
        let text := text ++ run
        let c := c.advance n
        if !broken && c.sees (· == if single then '\'' else '"') then some (text, c.advance 1)
        else
          let c := if broken then c.skipBreak else c
          match c.takeGap none (c.rest.length + 1) { Gap.none with broken := broken } with
          | none => none
          | some (gap, c) => quotedRuns single fuel (text ++ gap.fold) c

/-- A quoted scalar, from its opening quote on. -/
def quotedScalar (single : Bool) (c : Cursor) : Option (List Char × Cursor) :=
  quotedRuns single (c.rest.length + 1) [] (c.advance 1)

/-! ## Block scalars -/

/-- What becomes of the line breaks at the end of a block scalar. -/
inductive Chomp where
  /-- all go -/
  | strip
  /-- one stays -/
  | clip
  /-- all stay -/
  | keep
  deriving DecidableEq, Repr, Inhabited

/-- A chomping mark, if one comes. -/
def takeChomp (c : Cursor) : Option (Chomp × Cursor) :=
  match c.rest with
  | '+' :: _ => some (.keep, c.advance 1)
  | '-' :: _ => some (.strip, c.advance 1)
  | _ => none

/-- An indentation mark, if one comes; zero is an error. -/
def takeIncrement (c : Cursor) : Option (Nat × Cursor) :=
  match c.rest with
  | d :: _ =>
    if d.isDigit then (if d == '0' then none else some (d.toNat - 48, c.advance 1))
    else some (0, c)
  | [] => some (0, c)

/-- The marks behind the indicator of a block scalar, in either order. -/
def blockHeader (c : Cursor) : Option (Chomp × Nat × Cursor) := do
  match takeChomp c with
  | some (chomp, c) =>
    let (increment, c) ← takeIncrement c
    pure (chomp, increment, c)
  | none =>
    let (increment, c) ← takeIncrement c
    match (if increment == 0 then none else takeChomp c) with
    | some (chomp, c) => pure (chomp, increment, c)
    | none => pure (.clip, increment, c)

/-- Passes empty lines and the indentation of the next line.  Gives the line breaks and the
indentation, which is taken from the widest line while it is not known (zero). -/
def blockBreaks (outer : Int) : Nat → Nat → Nat → List Char → Cursor →
    Option (Nat × List Char × Cursor)
  | 0, _, _, _, _ => none
  | fuel + 1, indent, widest, breaks, c =>
    let spaces := (c.rest.takeWhile (· == ' ')).length
    let c := c.advance (if indent == 0 then spaces else min spaces (indent - c.column))
    let widest := max widest c.column
    if (indent == 0 || c.column < indent) && c.sees (· == '\t') then none
    else if c.sees isBreak then
      let (text, c) := c.takeBreak
      blockBreaks outer fuel indent widest (breaks ++ text) c
    else
      let indent := if indent == 0 then max widest (max (outer + 1) 1).toNat else indent
      some (indent, breaks, c)

/-- Takes in the lines of a block scalar.  `last` is the break behind the last line, `breaks` those
of the empty lines after it, `wasBlank` says that the last line began with a blank. -/
def blockLines (literal : Bool) (outer : Int) (indent : Nat) :
    Nat → List Char → List Char → List Char → Bool → Cursor →
    Option (List Char × List Char × List Char × Cursor)
  | 0, _, _, _, _, _ => none
  | fuel + 1, text, last, breaks, wasBlank, c =>
    if c.column == indent && !c.rest.isEmpty then
      let nowBlank := c.sees isBlank
      let joint :=
        if !literal && last == ['\n'] && !wasBlank && !nowBlank then
          (if breaks.isEmpty then [' '] else [])
        else last
      let line := c.rest.takeWhile (!isBreak ·)
      let text := text ++ joint ++ breaks ++ line
      let (last, c) := (c.advance line.length).takeBreak
      match blockBreaks outer (c.rest.length + 1) indent 0 [] c with
      | none => none
      | some (_, breaks, c) => blockLines literal outer indent fuel text last breaks nowBlank c
    else some (text, last, breaks, c)

/-- A block scalar, from its indicator on, inside a block of indentation `outer`. -/
def blockScalar (literal : Bool) (outer : Int) (c : Cursor) : Option (List Char × Cursor) := do
  let (chomp, increment, c) ← blockHeader (c.advance 1)
  let c ← c.restOfLine
  let given := if increment == 0 then 0 else (max outer 0).toNat + increment
  let (indent, breaks, c) ← blockBreaks outer (c.rest.length + 1) given 0 [] c
  let (text, last, breaks, c) ←
    blockLines literal outer indent (c.rest.length + 1) [] [] breaks false c
  match chomp with
  | .strip => pure (text, c)
  | .clip => pure (text ++ last, c)
  | .keep => pure (text ++ last ++ breaks, c)

end VesselWatch.Yaml
