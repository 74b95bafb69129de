/-
  Yaml/Token.lean --- the tokens of a YAML text.

  WHAT THIS FILE FIXES.  Indentation has become tokens of its own: a block begins
  with `blockSequenceStart` or `blockMappingStart` and ends with `blockEnd`.  What
  stands before a colon is marked by a `key` token in front of it.
-/
import VesselWatch.Yaml.Tag

set_option autoImplicit false

namespace VesselWatch.Yaml

/-- A token of a YAML text. -/
inductive Token where
  /-- the version the text claims to be written in -/
  | versionDirective (major minor : Nat)
  /-- a handle for tags and what it stands for -/
  | tagDirective (handle : String) (meaning : Tag)
  /-- `---` -/
  | documentStart
  /-- `...` -/
  | documentEnd
  /-- a sequence by indentation begins -/
  | blockSequenceStart
  /-- a mapping by indentation begins -/
  | blockMappingStart
  /-- the innermost block ends -/
  | blockEnd
  /-- `[` -/
  | flowSequenceStart
  /-- `]` -/
  | flowSequenceEnd
  /-- an opening brace -/
  | flowMappingStart
  /-- a closing brace -/
  | flowMappingEnd
  /-- `-` -/
  | blockEntry
  /-- `,` -/
  | flowEntry
  | key
  | value
  /-- another place of a named node -/
  | reference (name : String)
  /-- the name of the node that comes -/
  | anchor (name : String)
  /-- the tag of the node that comes; without a handle the suffix is all of it -/
  | tag (handle : String) (suffix : Tag)
  /-- a scalar; `plain` when it was written without any marks -/
  | scalar (text : String) (plain : Bool)
  deriving DecidableEq, Repr, Inhabited

end VesselWatch.Yaml
