/-
  Rule/File.lean --- rules in files.

  WHAT THIS FILE FIXES.  A file holds one rule, a list of rules, or nothing.  It is
  taken as a whole or not at all: one rule without an id refuses them all.
-/
import VesselWatch.FileTree
import VesselWatch.Rule.Document
import VesselWatch.Text.Blank
import VesselWatch.Yaml.Document

set_option autoImplicit false

namespace VesselWatch.RuleFile

/-- Why a file gives no rules. -/
inductive Error where
  /-- its text cannot be read -/
  | unreadable
  /-- its text is not a document with rules -/
  | malformed
  /-- the id of a rule is empty or blank; the kind of alert says which rule it is -/
  | emptyId (alertType : String)
  deriving DecidableEq, Repr, Inhabited

/-- The message of an error. -/
def Error.message : Error → String
  | .unreadable => "IO error"
  | .malformed => "parse error"
  | .emptyId alertType =>
    "validation error: rule id must not be empty (alertType '" ++ alertType ++ "')"

/-- The rules of a document. -/
def rulesOfNode? : Node → Option (List Rule)
  | .list items => every? (Rule.ofNode? .yaml) items
  | .null => some []
  | n => (Rule.ofNode? .yaml n).map fun r => [r]

/-- Refuses rules of which one has no id. -/
def validate (rules : List Rule) : Except Error (List Rule) :=
  match rules.find? fun r => Text.blank r.id with
  | some r => .error (.emptyId r.action.alertType)
  | none => .ok rules

/-- The rules in a text. -/
def read (text : String) : Except Error (List Rule) :=
  match (Yaml.read? text).bind rulesOfNode? with
  | none => .error .malformed
  | some rules => validate rules

/-- The rules in a file. -/
def load (files : Files) (p : Path) : Except Error (List Rule) :=
  match files.text? p with
  | none => .error .unreadable
  | some text => read text

end VesselWatch.RuleFile
