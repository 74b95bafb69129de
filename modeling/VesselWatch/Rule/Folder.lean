/-
  Rule/Folder.lean --- a folder of rule files.

  WHAT THIS FILE FIXES.  Every file in the folder and the folders below it is looked
  at, in the order of paths, except in folders whose name begins with a dot.  A file
  that cannot be taken keeps the rules it gave last; a file that is gone loses them.
  The rules of all files together are those in the order of paths, and of one id the
  last definition counts, at the place of the first.
-/
import VesselWatch.Engine.Update
import VesselWatch.Rule.File

set_option autoImplicit false

namespace VesselWatch

/-- Why a file is not read. -/
inductive SkipReason where
  /-- its name begins with a dot -/
  | dotfile
  /-- it has not the extension of a rule file -/
  | notRuleFile
  deriving DecidableEq, Repr, Inhabited

/-- The words of a reason. -/
def SkipReason.text : SkipReason → String
  | .dotfile => "dotfile"
  | .notRuleFile => "not a rule file"

/-- What became of a file. -/
inductive LoadStatus where
  /-- it gave rules with these ids -/
  | loaded (ids : List String)
  /-- it was not read -/
  | skipped (reason : SkipReason)
  /-- it cannot be taken -/
  | failed (error : RuleFile.Error)
  deriving DecidableEq, Repr, Inhabited

/-- The extensions of rule files. -/
def ruleExtensions : List String := ["yml", "yaml", "json"]

/-- The name begins with a dot. -/
def isDotName (name : String) : Bool := name.toList.head? == some '.'

/-- A file of this name holds rules. -/
def isRuleFile (name : String) : Bool :=
  !isDotName name
    && (Path.splitName name).2.any fun ext =>
      ruleExtensions.any fun known => Text.sameIgnoringAsciiCase ext known

/-- What is found at a file: its rules, the error, or why it is not read. -/
def lookAt (name : String) (text : Option String) :
    Except SkipReason (Except RuleFile.Error (List Rule)) :=
  if isDotName name then .error .dotfile
  else if !isRuleFile name then .error .notRuleFile
  else match text with
    | none => .ok (.error .unreadable)
    | some text => .ok (RuleFile.read text)

/-- A file that was found, and what is in it. -/
structure Found where
  path : Path
  /-- its rules, the error, or why it is not read -/
  content : Except SkipReason (Except RuleFile.Error (List Rule))
  deriving Inhabited

/-- What became of a file that was found. -/
def Found.status (f : Found) : LoadStatus :=
  match f.content with
  | .error reason => .skipped reason
  | .ok (.error err) => .failed err
  | .ok (.ok rules) => .loaded (rules.map (·.id))

mutual

/-- The files below a place of the given path and name. -/
def filesBelow (p : Path) (name : String) : FileTree → List Found
  | .file text => [⟨p, lookAt name text.whole?⟩]
  | .folder entries => if isDotName name then [] else filesOfEntries p entries

/-- The files below the entries of a folder. -/
def filesOfEntries (p : Path) : List (String × FileTree) → List Found
  | [] => []
  | (name, tree) :: rest => filesBelow (p.join name) name tree ++ filesOfEntries p rest

end

/-- The files of a folder in the order of their paths. -/
def scan (files : Files) (folder : Path) : List Found :=
  let found := match files folder with
    | some (.folder entries) => filesOfEntries folder entries
    | _ => []
  found.mergeSort fun a b => !b.path.before a.path

/-- A folder of rule files and the rules that each file gives. -/
structure RuleFolder where
  path : Path
  /-- the files that give rules, in the order of their paths -/
  files : List (Path × List Rule)
  deriving Inhabited

namespace RuleFolder

/-- A folder of which nothing has been read. -/
def unread (p : Path) : RuleFolder := ⟨p, []⟩

/-- The rules that a file gives now, where `previous` are those it gave before. -/
def contribution (previous : List (Path × List Rule)) (f : Found) :
    Option (Path × List Rule) :=
  match f.content with
  | .error _ => none
  | .ok (.ok rules) => some (f.path, rules)
  | .ok (.error _) => (previous.lookup f.path).map fun rules => (f.path, rules)

/-- Reads all files.  Gives what became of each. -/
def loadAll (files : Files) (rf : RuleFolder) : RuleFolder × List (Path × LoadStatus) :=
  let found := scan files rf.path
  ({ rf with files := found.filterMap (contribution rf.files) },
    found.map fun f => (f.path, f.status))

/-- The rules of all files. -/
def rules (rf : RuleFolder) : List Rule := Rule.distinct (rf.files.flatMap (·.2))

/-- Reads all files and gives their rules to an engine. -/
def reload (files : Files) (rf : RuleFolder) (en : Engine) : RuleFolder × Engine × Diff :=
  let rf := (rf.loadAll files).1
  let (en, diff) := en.updateAll rf.rules
  (rf, en, diff)

end RuleFolder

end VesselWatch
