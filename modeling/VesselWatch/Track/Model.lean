/-
  Track/Model.lean --- where vessels of a class went from where they were.

  WHAT THIS FILE FIXES.  A model has a table for some classes; a table has rows for
  some states; a row lists the cells that followed, each with its probability, in
  the order of its source.  From a model a path is predicted (`predict`) and a
  movement or a position is judged (`checkTransition`, `checkPosition`): what has a
  probability below the threshold is an anomaly.

  All of this asks a grid where the cells are and nothing else about them, so it is
  defined for any `Grid`; the tables are those of the hexagons (`Grid.hexagons`).
-/
import VesselWatch.Track.StateKey
import VesselWatch.Track.VesselClass
import VesselWatch.HexGrid.Cell
import VesselWatch.FilePath
import VesselWatch.VesselEvent

set_option autoImplicit false

namespace VesselWatch.Track

/-- The cells that followed a state, with their probabilities. -/
abbrev Row := List (Nat × Float)

/-- The rows of one class. -/
abbrev Table := List (StateKey × Row)

/-- The tables of all classes that have one. -/
structure Model where
  tables : List (VesselClass × Table)
  deriving Inhabited

/-- Why a model gives no answer. -/
inductive Error where
  /-- there is no folder to load a model from -/
  | missingSource (folder : Path)
  /-- the model has no table for the class -/
  | classNotLoaded (vesselClass : VesselClass)
  /-- the position is not on the globe -/
  | invalidCoordinate (location : GeoPoint)
  deriving Inhabited

/-- The message of an error. -/
def Error.message : Error → String
  | .missingSource p => "model directory not found: " ++ p.text
  | .classNotLoaded c => "no transition table loaded for vessel class '" ++ c.name ++ "'"
  | .invalidCoordinate p => "invalid " ++ p.words

/-! ## Cells of positions -/

/-- The resolution of all tables. -/
def resolution : Nat := 10

/-- Cells that cover the globe. -/
structure Grid where
  /-- the number of the cell that contains a position on the globe -/
  cellOf : GeoPoint → Nat
  /-- the middle of a cell, if there is one with this number -/
  centre? : Nat → Option GeoPoint

namespace Grid

/-- The hexagons. -/
def hexagons : Grid where
  cellOf p := (HexGrid.Cell.ofPoint resolution p).toIndex
  centre? cell := (HexGrid.Cell.ofIndex? cell).map HexGrid.Cell.centre

/-- The number of the cell that contains a position. -/
def cellAt (g : Grid) (p : GeoPoint) : Except Error Nat :=
  if p.isValid then .ok (g.cellOf p) else .error (.invalidCoordinate p)

end Grid

/-- The number of the hexagon that contains a position. -/
def cellAt (p : GeoPoint) : Except Error Nat := Grid.hexagons.cellAt p

/-! ## Verdicts -/

/-- Why a verdict was reached. -/
inductive Reason where
  /-- both positions lie in one cell -/
  | sameCell
  /-- the state has no row -/
  | stateNeverObserved
  /-- the row does not list the cell -/
  | transitionNeverObserved
  /-- the probability is below the threshold -/
  | lowProbability
  /-- the probability reaches the threshold -/
  | normal
  /-- the mean probability of the row is below the threshold -/
  | rareState
  /-- the mean probability of the row reaches the threshold -/
  | commonState
  deriving DecidableEq, Repr, Inhabited

/-- The name of a reason. -/
def Reason.name : Reason → String
  | .sameCell => "same_cell"
  | .stateNeverObserved => "state_never_observed"
  | .transitionNeverObserved => "transition_never_observed"
  | .lowProbability => "low_probability"
  | .normal => "normal"
  | .rareState => "rare_state"
  | .commonState => "common_state"

/-- A reason in words. -/
def Reason.words : Reason → String
  | .sameCell => "movement within the same cell"
  | .stateNeverObserved => "state never observed"
  | .transitionNeverObserved => "transition never observed"
  | .lowProbability => "low-probability transition"
  | .normal => "normal transition"
  | .rareState => "rare state"
  | .commonState => "common state"

/-- The outcome of a check. -/
structure Verdict where
  /-- it is unusual -/
  isAnomaly : Bool
  /-- the probability it was judged by -/
  probability : Float
  /-- why -/
  reason : Reason
  deriving Repr, Inhabited

/-- Probabilities below this are unusual. -/
def threshold : Float := 0.1

/-! ## The model -/

namespace Model

/-- The model without tables. -/
def empty : Model := ⟨[]⟩

/-- Sets the table of a class. -/
def insert (c : VesselClass) (t : Table) (m : Model) : Model := ⟨Assoc.put c t m.tables⟩

/-- The classes that have a table. -/
def classes (m : Model) : List VesselClass := m.tables.map (·.1)

/-- No class has a table. -/
def isEmpty (m : Model) : Bool := m.tables.isEmpty

/-- The table for a ship-type code. -/
def tableFor (m : Model) (typeCode : Int) : Except Error Table :=
  let c := VesselClass.ofTypeCode typeCode
  match m.tables.lookup c with
  | some t => .ok t
  | none => .error (.classNotLoaded c)

end Model

/-- The most probable entry of a row, the first of several. -/
def Row.best? (row : Row) : Option (Nat × Float) :=
  row.foldl (fun best entry =>
    match best with
    | none => some entry
    | some (_, p) => if entry.2 > p then some entry else best) none

/-- The arithmetic mean of the probabilities of a row, zero for an empty one. -/
def Row.mean (row : Row) : Float :=
  if row.isEmpty then 0
  else row.foldl (fun sum entry => sum + entry.2) (-0.0) / Float.ofNat row.length

/-- One step of a predicted path. -/
structure Step where
  /-- the next cell -/
  cell : Nat
  /-- its middle -/
  location : GeoPoint
  probability : Float
  deriving Repr, Inhabited

namespace Grid

/-- The most probable step from a state.  There is none if the state has no row, the row is empty,
or its most probable cell is no cell of the grid. -/
def step? (g : Grid) (t : Table) (state : StateKey) : Option Step := do
  let row ← t.lookup state
  let (cell, probability) ← Row.best? row
  let location ← g.centre? cell
  pure ⟨cell, location, probability⟩

/-- Follows the most probable steps of a table as far as there are any, but at most `steps`. -/
def walk (g : Grid) (t : Table) (bin : Nat) : Nat → GeoPoint → Except Error (List Step)
  | 0, _ => .ok []
  | steps + 1, here =>
    match g.cellAt here with
    | .error e => .error e
    | .ok cell =>
      match g.step? t ⟨cell, bin⟩ with
      | none => .ok []
      | some step => (g.walk t bin steps step.location).map (step :: ·)

/-- The path that a vessel is expected to take, at most `steps` cells long. -/
def predict (g : Grid) (m : Model) (start : GeoPoint) (course : Float) (typeCode : Int)
    (steps : Nat) : Except Error (List Step) := do
  let t ← m.tableFor typeCode
  g.walk t (sector course) steps start

/-- Judges a movement. -/
def checkTransition (g : Grid) (m : Model) (start stop : GeoPoint) (course : Float)
    (typeCode : Int) : Except Error Verdict := do
  let a ← g.cellAt start
  let b ← g.cellAt stop
  if a == b then pure ⟨false, 1, .sameCell⟩
  else
    let t ← m.tableFor typeCode
    match t.lookup ⟨a, sector course⟩ with
    | none => pure ⟨true, 0, .stateNeverObserved⟩
    | some row =>
      match row.lookup b with
      | none => pure ⟨true, 0, .transitionNeverObserved⟩
      | some p =>
        if p < threshold then pure ⟨true, p, .lowProbability⟩ else pure ⟨false, p, .normal⟩

/-- Judges a position by the mean probability of what followed it. -/
def checkPosition (g : Grid) (m : Model) (p : GeoPoint) (course : Float) (typeCode : Int) :
    Except Error Verdict := do
  let t ← m.tableFor typeCode
  let cell ← g.cellAt p
  match t.lookup ⟨cell, sector course⟩ with
  | none => pure ⟨true, 0, .stateNeverObserved⟩
  | some row =>
    let mean := Row.mean row
    if mean < threshold then pure ⟨true, mean, .rareState⟩ else pure ⟨false, mean, .commonState⟩

end Grid

namespace Model

/-- The path that a vessel is expected to take over the hexagons. -/
def predict (m : Model) (start : GeoPoint) (course : Float) (typeCode : Int) (steps : Nat) :
    Except Error (List Step) := Grid.hexagons.predict m start course typeCode steps

/-- Judges a movement over the hexagons. -/
def checkTransition (m : Model) (start stop : GeoPoint) (course : Float) (typeCode : Int) :
    Except Error Verdict := Grid.hexagons.checkTransition m start stop course typeCode

/-- Judges a position in the hexagon around it. -/
def checkPosition (m : Model) (p : GeoPoint) (course : Float) (typeCode : Int) :
    Except Error Verdict := Grid.hexagons.checkPosition m p course typeCode

end Model

end VesselWatch.Track
