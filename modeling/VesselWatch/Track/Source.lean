/-
  Track/Source.lean --- models in files.

  WHAT THIS FILE FIXES.  A model is a folder with one JSON file for each class,
  named after the class with or without `h3_transition_model_class_` in front.  A
  file maps the written form of states to objects, and these map numbers of cells
  to probabilities.  An entry that is none of this is skipped by itself; a file
  that cannot be read or is no JSON object is skipped as a whole; of two files for
  one class the later one counts.
-/
import VesselWatch.Track.Model
import VesselWatch.FileTree
import VesselWatch.Json.Reader

set_option autoImplicit false

namespace VesselWatch.Track

/-! ## One table -/

/-- An entry of a row, unless it is malformed. -/
def entry? (key : String) (value : Json) : Option (Nat × Float) := do
  let cell ← Decimal.readWord (Text.trim key.toList)
  match value with
  | .number n => pure (cell, n.toFloat)
  | _ => none

/-- The entries of a row that are well formed. -/
def entries (outcomes : List (String × Json)) : List (Nat × Float) :=
  outcomes.filterMap fun (key, value) => entry? key value

/-- A state and its outcomes, unless malformed. -/
def row? (key : String) (value : Json) : Option (StateKey × List (String × Json)) := do
  let state ← StateKey.parse? key.toList
  match value with
  | .object outcomes => pure (state, outcomes)
  | _ => none

/-- The rows that are well formed, with their outcomes. -/
def rows (document : List (String × Json)) : List (StateKey × List (String × Json)) :=
  document.filterMap fun (key, value) => row? key value

/-- The table of a document. -/
def Table.ofDocument (document : List (String × Json)) : Table :=
  Assoc.ofList ((rows document).map fun (state, outcomes) =>
    (state, Assoc.ofList (entries outcomes)))

/-- How many entries of a document are skipped: rows, and outcomes of the rows that are kept. -/
def skipped (document : List (String × Json)) : Nat :=
  (rows document).foldl (fun n (_, outcomes) => n + (outcomes.length - (entries outcomes).length))
    (document.length - (rows document).length)

/-- The table in a JSON text. -/
def Table.read? (raw : String) : Option Table := do
  match (← Json.read? raw).toJson? with
  | some (.object document) => pure (Table.ofDocument document)
  | _ => none

/-! ## A folder of tables -/

/-- What may stand in front of the name of a class, in any letter case. -/
def fileNameStart : String := "h3_transition_model_class_"

/-- The class of a file. -/
def classOfFile? (name : String) : Option VesselClass :=
  let (stem, extension) := Path.splitName name
  if extension == some "json" then
    let start := String.ofList (stem.toList.take fileNameStart.length)
    VesselClass.ofName? <|
      if Text.sameIgnoringAsciiCase start fileNameStart then
        String.ofList (stem.toList.drop fileNameStart.length)
      else stem
  else none

/-- The table in a file. -/
def tableOfFile? : FileTree → Option Table
  | .file text => text.whole?.bind Table.read?
  | .folder _ => none

/-- The model without a table, and what each entry of the folder adds to it. -/
def Model.ofEntries (entries : List (String × FileTree)) : Model :=
  entries.foldl (fun m (name, file) =>
    match classOfFile? name, tableOfFile? file with
    | some c, some t => m.insert c t
    | _, _ => m) Model.empty

/-- Loads the model of a folder. -/
def Model.load (files : Files) (folder : Path) : Except Error Model :=
  match files.entries? folder with
  | some entries => .ok (Model.ofEntries entries)
  | none => .error (.missingSource folder)

end VesselWatch.Track
