/-
  Track/Library.lean --- the models at hand.

  WHAT THIS FILE FIXES.  A library has a default model and a shelf for each folder.
  What stands on a shelf stays there: the first model that was registered, or what
  loading the folder gave when it was first asked for, a failure included.  Folders
  are told apart as paths, not by their spelling.
-/
import VesselWatch.Track.Source

set_option autoImplicit false

namespace VesselWatch.Track

/-- The models at hand. -/
structure Library where
  /-- the model for conditions that name no folder -/
  default : Option Model
  /-- what stands on the shelf of each folder; `none` remembers a failure -/
  shelves : List (Path × Option Model)
  deriving Inhabited

namespace Library

/-- The library without models. -/
def empty : Library := ⟨none, []⟩

/-- Sets the default model. -/
def withDefault (m : Model) (lib : Library) : Library := { lib with default := some m }

/-- Puts something on the shelf of a folder, unless there is something already. -/
def shelve (folder : Path) (m : Option Model) (lib : Library) : Library :=
  if Assoc.has folder lib.shelves then lib
  else { lib with shelves := lib.shelves ++ [(folder, m)] }

/-- Registers a model for a folder. -/
def register (folder : Path) (m : Model) (lib : Library) : Library := lib.shelve folder (some m)

/-- What loading a folder gives now. -/
def loaded (files : Files) (folder : Path) : Option Model := (Model.load files folder).toOption

/-- The model that a request for a folder gets, or for the default model when it names none. -/
def find (source : Path → Option Model) (lib : Library) : Option Path → Option Model
  | none => lib.default
  | some folder => (lib.shelves.lookup folder).getD (source folder)

/-- The library after requests for some folders. -/
def recordAll (source : Path → Option Model) (folders : List Path) (lib : Library) : Library :=
  folders.foldl (fun lib folder => lib.shelve folder (source folder)) lib

end Library

end VesselWatch.Track
