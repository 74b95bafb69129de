/-
  FileTree.lean --- a folder with all that is in it.

  WHAT THIS FILE FIXES.  Of a file only what can be read of it matters.  Everything
  the library reads from files, it reads through `Files`, which says what is found
  at a path.  A tree gives such a view: a relative path is followed from the root of
  the tree, and paths that leave the tree lead nowhere.
-/
import VesselWatch.Assoc
import VesselWatch.FilePath
import VesselWatch.FileText

set_option autoImplicit false

namespace VesselWatch

/-- A file or a folder. -/
inductive FileTree where
  /-- a file with what can be read of it -/
  | file (text : FileText)
  /-- a folder with its entries by name -/
  | folder (entries : List (String × FileTree))
  deriving Inhabited

namespace FileTree

/-- The empty folder. -/
def empty : FileTree := .folder []

/-! ## Finding -/

/-- Follows pieces of a path; the folders above the place come along, nearest first. -/
def follow (above : List FileTree) (here : FileTree) : List String → Option FileTree
  | [] => some here
  | piece :: rest =>
    match here with
    | .file _ => none
    | .folder entries =>
      if piece == "" || piece == "." then follow above here rest
      else if piece == ".." then
        match above with
        | [] => none
        | up :: above => follow above up rest
      else
        match entries.lookup piece with
        | some next => follow (here :: above) next rest
        | none => none

/-- What is found at a path of the tree. -/
def find? (tree : FileTree) (p : Path) : Option FileTree :=
  if p.text == "" || p.isAbsolute then none else follow [] tree p.pieces

/-! ## Changing -/

/-- The names that lead from the root to a path. -/
def names (p : Path) : List String :=
  p.parts.foldl (fun names part =>
    match part with
    | .name s => names ++ [s]
    | .parent => names.dropLast
    | _ => names) []

/-- Puts `new` at the end of a row of names, making the folders on the way.  A file in the way
stays. -/
def put (new : FileTree) : List String → FileTree → FileTree
  | [], _ => new
  | name :: rest, .folder entries =>
    let old := (entries.lookup name).getD empty
    .folder (Assoc.put name (put new rest old) entries)
  | _ :: _, .file text => .file text

/-- Writes a file. -/
def write (p : Path) (text : FileText) (tree : FileTree) : FileTree :=
  put (.file text) (names p) tree

/-- Makes the folders of a row of names that do not exist yet. -/
def makeFolders : List String → FileTree → FileTree
  | [], tree => tree
  | name :: rest, .folder entries =>
    let old := (entries.lookup name).getD empty
    .folder (Assoc.put name (makeFolders rest old) entries)
  | _ :: _, .file text => .file text

/-- Makes a folder and those above it. -/
def makeFolder (p : Path) (tree : FileTree) : FileTree :=
  if p.isAbsolute then tree else makeFolders (names p) tree

/-- Removes what a row of names leads to. -/
def remove : List String → FileTree → FileTree
  | [name], .folder entries => .folder (Assoc.erase name entries)
  | name :: rest, .folder entries =>
    match entries.lookup name with
    | some old => .folder (Assoc.put name (remove rest old) entries)
    | none => .folder entries
  | _, tree => tree

end FileTree

/-! ## Looking -/

/-- What is found at each path. -/
abbrev Files := Path → Option FileTree

namespace Files

/-- Something is found at the path. -/
def contains (files : Files) (p : Path) : Bool := (files p).isSome

/-- The file at the path. -/
def file? (files : Files) (p : Path) : Option FileText :=
  match files p with
  | some (.file text) => some text
  | _ => none

/-- Something is found at the path, or a folder can be made there because no file is in the way. -/
def canMake (files : Files) (p : Path) : Bool :=
  files.contains p || !p.above.any fun q => (files.file? q).isSome

/-- The text of the file at the path. -/
def text? (files : Files) (p : Path) : Option String := (files.file? p).bind (·.whole?)

/-- The entries of the folder at the path, by name. -/
def entries? (files : Files) (p : Path) : Option (List (String × FileTree)) :=
  match files p with
  | some (.folder entries) => some (entries.mergeSort fun a b => !decide (b.1 < a.1))
  | _ => none

end Files

end VesselWatch
