/-
  Proofs/Track/Walk.lean --- predicted paths.

  A walk looks up the row of the state it is in, takes the best step of that row and is in another
  state.  A path is the one that was predicted if each of its steps is the best one of the state
  before it, and if its last state has none where it is shorter than it could be
  (`walk_eq_ok_iff`).

  All states of a path have the same sector, and what happens in a state depends on the state alone.
  So a walk that comes to a state again goes round from there (`states_repeat`): it never ends by
  itself, and a walk that does end has been in no state twice.  As each step uses up a row of the
  sector, a path is longer than there are such rows only if it goes round
  (`predict_ends_or_goes_round`).
-/
import Mathlib.Algebra.Order.Group.Nat
import Mathlib.Data.List.Perm.Subperm
import VesselWatch.Proofs.Track.Table

set_option autoImplicit false

namespace VesselWatch.Track.Grid

variable {g : Grid} {t : Table} {bin steps : Nat} {start : GeoPoint} {path : List Step}

/-! ## The states of a path -/

/-- The state in a sector at a position. -/
def stateAt (g : Grid) (bin : Nat) (p : GeoPoint) : StateKey := ⟨g.cellOf p, bin⟩

/-- The positions that a path leads through, from the start to the end. -/
def positions (start : GeoPoint) (path : List Step) : List GeoPoint :=
  start :: path.map (·.location)

/-- The states that a path leads through. -/
def states (g : Grid) (bin : Nat) (start : GeoPoint) (path : List Step) : List StateKey :=
  (positions start path).map (g.stateAt bin)

@[simp] theorem length_states : (g.states bin start path).length = path.length + 1 := by
  simp [states, positions]

theorem states_cons (s : Step) (rest : List Step) :
    g.states bin start (s :: rest) = g.stateAt bin start :: g.states bin s.location rest := rfl

theorem getElem?_states_succ (k : Nat) :
    (g.states bin start path)[k + 1]? = path[k]?.map fun s => g.stateAt bin s.location := by
  simp [states, positions, Function.comp_def]

theorem cellAt_eq_ok_iff {p : GeoPoint} {cell : Nat} :
    g.cellAt p = .ok cell ↔ p.isValid = true ∧ g.cellOf p = cell := by
  unfold cellAt
  split <;> simp_all

/-! ## One step -/

theorem step?_eq_some_iff {state : StateKey} {s : Step} :
    g.step? t state = some s ↔
      ∃ row, t.lookup state = some row ∧ Row.best? row = some (s.cell, s.probability) ∧
        g.centre? s.cell = some s.location := by
  obtain ⟨cell, location, probability⟩ := s
  simp [step?, Option.bind_eq_some_iff]

theorem step?_of_mem (proper : t.Proper) {state : StateKey} {row : Row} {s : Step}
    (member : (state, row) ∈ t) (best : Row.best? row = some (s.cell, s.probability))
    (centre : g.centre? s.cell = some s.location) : g.step? t state = some s :=
  step?_eq_some_iff.mpr ⟨row, (Assoc.lookup_eq_some_iff_mem proper.states).mpr member, best, centre⟩

theorem walk_zero : g.walk t bin 0 start = .ok [] := rfl

theorem walk_succ : g.walk t bin (steps + 1) start =
    match g.cellAt start with
    | .error e => .error e
    | .ok cell =>
      match g.step? t ⟨cell, bin⟩ with
      | none => .ok []
      | some step => (g.walk t bin steps step.location).map (step :: ·) := rfl

theorem walk_succ_eq_ok_iff :
    g.walk t bin (steps + 1) start = .ok path ↔
      start.isValid = true ∧
        match g.step? t (g.stateAt bin start) with
        | none => path = []
        | some s => ∃ rest, g.walk t bin steps s.location = .ok rest ∧ s :: rest = path := by
  rw [walk_succ]
  cases hvalid : start.isValid with
  | false => simp [cellAt, hvalid]
  | true =>
    rw [cellAt_eq_ok_iff.mpr ⟨hvalid, rfl⟩]
    dsimp only [stateAt]
    cases g.step? t ⟨g.cellOf start, bin⟩ with
    | none => simp [eq_comm]
    | some s => cases hrest : g.walk t bin steps s.location <;> simp [hrest, Except.map]

/-! ## Many steps -/

/-- The path of a walk is as long as the walk may be or ends where there is no step, and its steps
are those of the states before them. -/
theorem walk_eq_ok_iff :
    g.walk t bin steps start = .ok path ↔ path.length ≤ steps ∧
      (∀ p ∈ (positions start path).take steps, p.isValid = true) ∧
      ∀ k < steps, path[k]? = (g.states bin start path)[k]?.bind (g.step? t) := by
  induction steps generalizing start path with
  | zero =>
    rw [walk_zero, Except.ok.injEq, eq_comm]
    simp
  | succ steps ih =>
    rw [Nat.forall_lt_succ_left, walk_succ_eq_ok_iff]
    cases path with
    | nil =>
      cases hstep : g.step? t (g.stateAt bin start) <;> simp [positions, states, hstep]
    | cons s rest =>
      cases hstep : g.step? t (g.stateAt bin start) with
      | none => simp [positions, states, hstep]
      | some next =>
        simp only [ih, hstep, positions, states_cons, List.length_cons, Nat.add_le_add_iff_right,
          List.map_cons, List.take_succ_cons, List.forall_mem_cons, List.getElem?_cons_zero,
          List.getElem?_cons_succ, Option.bind_some, Option.some.injEq, List.cons.injEq,
          exists_eq_right_right]
        constructor
        · rintro ⟨valid, ⟨hlength, hpositions, hsteps⟩, rfl⟩
          exact ⟨hlength, ⟨valid, hpositions⟩, rfl, hsteps⟩
        · rintro ⟨hlength, ⟨valid, hpositions⟩, rfl, hsteps⟩
          exact ⟨valid, ⟨hlength, hpositions, hsteps⟩, rfl⟩

/-- A step of a path is that of the state at the position before it. -/
theorem step_of_getElem? (walked : g.walk t bin steps start = .ok path) {k : Nat} {here : GeoPoint}
    {s : Step} (before : (positions start path)[k]? = some here) (step : path[k]? = some s) :
    here.isValid = true ∧ g.step? t (g.stateAt bin here) = some s := by
  obtain ⟨hlength, hpositions, hsteps⟩ := walk_eq_ok_iff.mp walked
  have hk : k < steps := ((List.getElem?_eq_some_iff.mp step).1).trans_le hlength
  refine ⟨hpositions here ?_, ?_⟩
  · exact List.mem_of_getElem? ((List.getElem?_take_of_lt hk).trans before)
  · rw [← step, hsteps k hk, states, List.getElem?_map, before]
    rfl

/-! ## Going round -/

variable {i j : Nat}

theorem getElem?_path (walked : g.walk t bin steps start = .ok path) {k : Nat} (hk : k < steps) :
    path[k]? = (g.states bin start path)[k]?.bind (g.step? t) :=
  (walk_eq_ok_iff.mp walked).2.2 k hk

theorem length_path_le (walked : g.walk t bin steps start = .ok path) : path.length ≤ steps :=
  (walk_eq_ok_iff.mp walked).1

/-- From one state a walk goes on in one way, whenever it is there. -/
theorem states_repeat (walked : g.walk t bin steps start = .ok path) (earlier : i ≤ j)
    (same : (g.states bin start path)[i]? = (g.states bin start path)[j]?) (n : Nat)
    (within : j + n ≤ path.length) :
    (g.states bin start path)[i + n]? = (g.states bin start path)[j + n]? := by
  induction n with
  | zero => exact same
  | succ n ih =>
    have hlength := length_path_le walked
    rw [← Nat.add_assoc, ← Nat.add_assoc, getElem?_states_succ, getElem?_states_succ,
      getElem?_path walked (by omega), getElem?_path walked (by omega), ih (by omega)]

/-- A walk that ends by itself is in no state twice. -/
theorem nodup_states (walked : g.walk t bin steps start = .ok path) (short : path.length < steps) :
    (g.states bin start path).Nodup := by
  rw [List.nodup_iff_getElem?_ne_getElem?]
  intro i j hij hj same
  rw [length_states] at hj
  obtain ⟨n, hn⟩ := Nat.exists_eq_add_of_le (Nat.le_of_lt_succ hj)
  -- As often as the walk goes on after the second time, it must go on after the first.
  have hrepeat := states_repeat walked hij.le same n hn.ge
  have hend : path[i + n]? = path[path.length]? := by
    rw [getElem?_path walked (by omega), getElem?_path walked short, hrepeat, ← hn]
  rw [List.getElem?_eq_none (le_refl _), List.getElem?_eq_none_iff] at hend
  omega

/-! ## Rows that are used up -/

/-- The rows of a sector that are not empty. -/
def rowsOf (t : Table) (bin : Nat) : List (StateKey × Row) :=
  t.filter fun row => row.1.bin == bin && !row.2.isEmpty

theorem mem_rowsOf_of_step {state : StateKey} {s : Step} (step : g.step? t state = some s) :
    state ∈ (rowsOf t state.bin).map (·.1) := by
  obtain ⟨row, hrow, hbest, -⟩ := step?_eq_some_iff.mp step
  have hne : row ≠ [] := by
    rintro rfl
    cases hbest
  refine List.mem_map.mpr ⟨(state, row), List.mem_filter.mpr ⟨?_, ?_⟩, rfl⟩
  · exact Assoc.mem_of_lookup_eq_some hrow
  · simp [hne]

/-- Each state but the last has a row that is not empty. -/
theorem take_states_subset (walked : g.walk t bin steps start = .ok path) :
    (g.states bin start path).take path.length ⊆ (rowsOf t bin).map (·.1) := by
  intro state hstate
  obtain ⟨k, hk, hget⟩ := List.mem_take_iff_getElem.mp hstate
  have hlength := length_path_le walked
  obtain ⟨p, -, rfl⟩ := List.mem_map.mp (List.mem_of_mem_take hstate)
  have hstep : g.step? t (g.stateAt bin p) = path[k]? := by
    rw [getElem?_path walked (by omega), List.getElem?_eq_getElem (by omega), hget,
      Option.bind_some]
  rw [List.getElem?_eq_getElem (by omega)] at hstep
  exact mem_rowsOf_of_step hstep

/-- States that a walk was in are no more than there are such rows, unless one comes twice. -/
theorem le_length_rowsOf (walked : g.walk t bin steps start = .ok path) {n : Nat}
    (within : n ≤ path.length) (nodup : ((g.states bin start path).take n).Nodup) :
    n ≤ (rowsOf t bin).length := by
  have hsub : (g.states bin start path).take n ⊆ (rowsOf t bin).map (·.1) := fun state hstate =>
    take_states_subset walked (List.take_subset_take_left _ within hstate)
  have hle := (nodup.subperm hsub).length_le
  rw [List.length_take, length_states, List.length_map] at hle
  omega

/-- A walk with more steps than there are rows for goes round. -/
theorem path_periodic (walked : g.walk t bin steps start = .ok path)
    (long : (rowsOf t bin).length < path.length) :
    ∃ first period, 0 < period ∧ first + period ≤ (rowsOf t bin).length ∧
      ∀ k, first ≤ k → k + period < path.length → path[k + period]? = path[k]? := by
  have hlength := length_path_le walked
  -- One state more than there are rows for, so one of them comes twice.
  have htwice : ¬ ((g.states bin start path).take ((rowsOf t bin).length + 1)).Nodup := fun nodup =>
    absurd (le_length_rowsOf walked long nodup) (Nat.not_succ_le_self _)
  rw [List.nodup_iff_getElem?_ne_getElem?] at htwice
  push Not at htwice
  obtain ⟨i, j, hij, hj, same⟩ := htwice
  rw [List.length_take, length_states] at hj
  rw [List.getElem?_take_of_lt (by omega), List.getElem?_take_of_lt (by omega)] at same
  refine ⟨i, j - i, by omega, by omega, fun k hk hwithin => ?_⟩
  obtain ⟨n, rfl⟩ := Nat.exists_eq_add_of_le hk
  have hlater : i + n + (j - i) = j + n := by omega
  rw [hlater] at hwithin ⊢
  rw [getElem?_path walked (by omega), getElem?_path walked (by omega),
    states_repeat walked hij.le same n hwithin.le]

/-! ## Predicted paths -/

theorem predict_eq_ok_iff {m : Model} {course : Float} {typeCode : Int} :
    g.predict m start course typeCode steps = .ok path ↔
      ∃ t, m.tableFor typeCode = .ok t ∧ g.walk t (sector course) steps start = .ok path := by
  unfold predict
  cases m.tableFor typeCode <;> simp [bind, Except.bind]

/-! ## Three hexagons -/

/-- The middles of three hexagons in a row. -/
def west : GeoPoint := ⟨22.290276318874465, 114.17934694986437⟩

@[inherit_doc west]
def middle : GeoPoint := ⟨22.29004587679053, 114.18058536137526⟩

@[inherit_doc west]
def east : GeoPoint := ⟨22.289815427937928, 114.1818237546943⟩

/-- The three hexagons, and nothing else of their grid. -/
def threeHexagons : Grid where
  cellOf p := if p.same west then 622640466597216255 else
    if p.same middle then 622640466596921343 else 622640466596888575
  centre? cell := List.lookup cell
    [(622640466597216255, west), (622640466596921343, middle), (622640466596888575, east)]

theorem cellAt_threeHexagons :
    threeHexagons.cellAt west = .ok 622640466597216255 ∧
      threeHexagons.cellAt middle = .ok 622640466596921343 ∧
      threeHexagons.cellAt east = .ok 622640466596888575 := by
  simp only [cellAt_eq_ok_iff]
  decide

/-- Rows that lead from the hexagon in the west to the one in the east. -/
def eastward (bin : Nat) : Table :=
  [(⟨622640466597216255, bin⟩, [(622640466596921343, 0.6), (622640466596888575, 0.4)]),
    (⟨622640466596921343, bin⟩, [(622640466596888575, 0.05)])]

/-- The path from the hexagon in the west to the one in the east. -/
def eastwardPath : List Step :=
  [⟨622640466596921343, middle, 0.6⟩, ⟨622640466596888575, east, 0.05⟩]

theorem proper_eastward (bin : Nat) : (eastward bin).Proper where
  states := by simp [eastward]
  cells := by simp [eastward]

theorem walk_eastward (bin : Nat) :
    threeHexagons.walk (eastward bin) bin 5 west = .ok eastwardPath := by
  obtain ⟨hwest, hmiddle, heast⟩ := cellAt_threeHexagons
  have hproper := proper_eastward bin
  have hfirst : threeHexagons.step? (eastward bin) ⟨622640466597216255, bin⟩ =
      some ⟨622640466596921343, middle, 0.6⟩ :=
    step?_of_mem hproper (List.mem_cons_self ..) (by decide) rfl
  have hsecond : threeHexagons.step? (eastward bin) ⟨622640466596921343, bin⟩ =
      some ⟨622640466596888575, east, 0.05⟩ :=
    step?_of_mem hproper (List.mem_cons_of_mem _ (List.mem_cons_self ..)) rfl rfl
  have hend : threeHexagons.step? (eastward bin) ⟨622640466596888575, bin⟩ = none := by
    have hrow : (eastward bin).lookup ⟨622640466596888575, bin⟩ = none :=
      Assoc.lookup_eq_none_iff_not_mem_keys.mpr (by simp [eastward])
    simp [step?, hrow]
  simp only [walk_succ, hwest, hmiddle, heast, hfirst, hsecond, hend]
  rfl

/-- Rows that lead from the hexagon in the west to the next one and back. -/
def thereAndBack (bin : Nat) : Table :=
  [(⟨622640466597216255, bin⟩, [(622640466596921343, 1)]),
    (⟨622640466596921343, bin⟩, [(622640466597216255, 1)])]

/-- The path from the hexagon in the west, twice there and back and there again. -/
def roundPath : List Step :=
  [⟨622640466596921343, middle, 1⟩, ⟨622640466597216255, west, 1⟩,
    ⟨622640466596921343, middle, 1⟩, ⟨622640466597216255, west, 1⟩,
    ⟨622640466596921343, middle, 1⟩]

theorem walk_thereAndBack (bin : Nat) :
    threeHexagons.walk (thereAndBack bin) bin 5 west = .ok roundPath := by
  obtain ⟨hwest, hmiddle, -⟩ := cellAt_threeHexagons
  have hproper : (thereAndBack bin).Proper :=
    { states := by simp [thereAndBack], cells := by simp [thereAndBack] }
  have hthere : threeHexagons.step? (thereAndBack bin) ⟨622640466597216255, bin⟩ =
      some ⟨622640466596921343, middle, 1⟩ := step?_of_mem hproper (List.mem_cons_self ..) rfl rfl
  have hback : threeHexagons.step? (thereAndBack bin) ⟨622640466596921343, bin⟩ =
      some ⟨622640466597216255, west, 1⟩ :=
    step?_of_mem hproper (List.mem_cons_of_mem _ (List.mem_cons_self ..)) rfl rfl
  simp only [walk_succ, hwest, hmiddle, hthere, hback]
  rfl

/-! ## Paths that end and paths that do not -/

/-- A path that ends before it has as many steps as were asked for leads through no state twice, so
it is no longer than there are rows in the sector that are not empty.  A path that is longer has all
the steps, and they come again from a place on. -/
theorem predict_ends_or_goes_round {m : Model} {course : Float} {typeCode : Int}
    (predicted : g.predict m start course typeCode steps = .ok path) :
    ∃ t, m.tableFor typeCode = .ok t ∧
      let states := g.states (sector course) start path
      let rows := rowsOf t (sector course)
      (∀ k < steps, path[k]? = states[k]?.bind (g.step? t)) ∧
      (path.length < steps → states.Nodup ∧ path.length ≤ rows.length) ∧
      (rows.length < path.length → path.length = steps ∧
        ∃ first period, 0 < period ∧ first + period ≤ rows.length ∧
          ∀ k, first ≤ k → k + period < path.length → path[k + period]? = path[k]?) := by
  obtain ⟨t, htable, walked⟩ := predict_eq_ok_iff.mp predicted
  have hshort (short : path.length < steps) : path.length ≤ (rowsOf t (sector course)).length :=
    le_length_rowsOf walked le_rfl ((nodup_states walked short).sublist (List.take_sublist _ _))
  refine ⟨t, htable, fun k => getElem?_path walked, fun short => ?_, fun long => ⟨?_, ?_⟩⟩
  · exact ⟨nodup_states walked short, hshort short⟩
  · have hlength := length_path_le walked
    by_contra hne
    have hle := hshort (by omega)
    omega
  · exact path_periodic walked long

/-- The path to the east ends where there is no row and was in no state twice; the one that goes
there and back has more steps than there are rows. -/
theorem predict_ends_or_goes_round_hexagons :
    let bin := sector 90
    let model (t : Table) := Model.empty.insert (VesselClass.ofTypeCode 70) t
    threeHexagons.predict (model (eastward bin)) west 90 70 5 = .ok eastwardPath ∧
    (threeHexagons.states bin west eastwardPath).Nodup ∧
    threeHexagons.predict (model (thereAndBack bin)) west 90 70 5 = .ok roundPath ∧
    ∃ first period, 0 < period ∧ first + period ≤ (rowsOf (thereAndBack bin) bin).length ∧
      ∀ k, first ≤ k → k + period < 5 → roundPath[k + period]? = roundPath[k]? := by
  intro bin model
  have hends : threeHexagons.predict (model (eastward bin)) west 90 70 5 = .ok eastwardPath :=
    predict_eq_ok_iff.mpr ⟨_, Model.tableFor_insert _ _ _, walk_eastward bin⟩
  have hround : threeHexagons.predict (model (thereAndBack bin)) west 90 70 5 = .ok roundPath :=
    predict_eq_ok_iff.mpr ⟨_, Model.tableFor_insert _ _ _, walk_thereAndBack bin⟩
  obtain ⟨_, -, -, hshort, -⟩ := predict_ends_or_goes_round hends
  obtain ⟨t, htable, -, -, hlong⟩ := predict_ends_or_goes_round hround
  obtain rfl : thereAndBack bin = t :=
    Except.ok.inj ((Model.tableFor_insert _ _ _).symm.trans htable)
  have hlonger : (rowsOf (thereAndBack bin) bin).length < roundPath.length :=
    (List.length_filter_le _ _).trans_lt (by decide)
  exact ⟨hends, (hshort (by decide)).1, hround, (hlong hlonger).2⟩

end VesselWatch.Track.Grid
