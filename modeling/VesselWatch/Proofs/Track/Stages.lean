/-
  Proofs/Track/Stages.lean --- predicted paths in stages.

  How a path goes on from a position depends on the position alone and on the steps that are left.
  So a prediction of fewer steps gives the first steps of the path (`walk_take`), and one that
  starts at a position of the path gives what comes after it (`walk_drop`).

  A prediction asks for the cell of each position that it comes to, and there would be none off the
  globe.  But all positions behind the start are middles of cells.  Where these are on the globe, a
  prediction fails before its first step or not at all (`walk_eq_error_iff`).
-/
import VesselWatch.Proofs.Track.Walk

set_option autoImplicit false

namespace VesselWatch.Track.Grid

variable {g : Grid} {t : Table} {bin steps : Nat} {start : GeoPoint} {path : List Step}

/-- The middles of all cells are on the globe. -/
def CentresValid (g : Grid) : Prop := ∀ cell p, g.centre? cell = some p → p.isValid = true

/-! ## Cutting -/

/-- With fewer steps a walk comes less far on the same path. -/
theorem walk_take (walked : g.walk t bin steps start = .ok path) {n : Nat} (fewer : n ≤ steps) :
    g.walk t bin n start = .ok (path.take n) := by
  induction n generalizing steps start path with
  | zero => rfl
  | succ n ih =>
    obtain ⟨more, rfl⟩ := Nat.exists_eq_add_of_lt fewer
    rw [walk_succ_eq_ok_iff] at walked ⊢
    obtain ⟨hvalid, hstep⟩ := walked
    refine ⟨hvalid, ?_⟩
    cases hnext : g.step? t (g.stateAt bin start) with
    | none =>
      rw [hnext] at hstep
      rw [hstep]
      rfl
    | some s =>
      rw [hnext] at hstep
      obtain ⟨rest, hrest, rfl⟩ := hstep
      exact ⟨rest.take n, ih hrest (Nat.le_add_right n more), rfl⟩

/-- From each of its positions the path is what a walk from there gives, with the steps left. -/
theorem walk_drop (walked : g.walk t bin steps start = .ok path) {n : Nat} {here : GeoPoint}
    (reached : (positions start path)[n]? = some here) :
    g.walk t bin (steps - n) here = .ok (path.drop n) := by
  induction n generalizing steps start path with
  | zero =>
    obtain rfl := Option.some.inj reached
    exact walked
  | succ n ih =>
    cases path with
    | nil => cases reached
    | cons s rest =>
      cases steps with
      | zero => cases walked
      | succ steps =>
        obtain ⟨-, hstep⟩ := walk_succ_eq_ok_iff.mp walked
        cases hnext : g.step? t (g.stateAt bin start) with
        | none =>
          rw [hnext] at hstep
          cases hstep
        | some next =>
          rw [hnext] at hstep
          obtain ⟨_, hrest, hpath⟩ := hstep
          cases hpath
          rw [Nat.add_sub_add_right]
          exact ih hrest reached

/-! ## Failing -/

/-- Where the middles of cells are on the globe, a walk fails before its first step or not at
all. -/
theorem walk_eq_error_iff (centres : g.CentresValid) {e : Error} :
    g.walk t bin steps start = .error e ↔
      0 < steps ∧ start.isValid = false ∧ e = .invalidCoordinate start := by
  induction steps generalizing start e with
  | zero => simp [walk_zero]
  | succ steps ih =>
    rw [walk_succ]
    cases hvalid : start.isValid with
    | false => simp [cellAt, hvalid, eq_comm]
    | true =>
      rw [cellAt_eq_ok_iff.mpr ⟨hvalid, rfl⟩]
      cases hnext : g.step? t ⟨g.cellOf start, bin⟩ with
      | none => simp [hnext]
      | some s =>
        obtain ⟨-, -, -, hcentre⟩ := step?_eq_some_iff.mp hnext
        cases hrest : g.walk t bin steps s.location with
        | error later =>
          -- The walk goes on from the middle of a cell, so not from a position off the globe.
          have hoff := (ih.mp hrest).2.1
          rw [centres _ _ hcentre] at hoff
          cases hoff
        | ok rest => simp [hnext, hrest, Except.map]

theorem predict_eq_error_iff {m : Model} {course : Float} {typeCode : Int}
    (centres : g.CentresValid) {e : Error} :
    g.predict m start course typeCode steps = .error e ↔
      (VesselClass.ofTypeCode typeCode ∉ m.classes ∧
        e = .classNotLoaded (VesselClass.ofTypeCode typeCode)) ∨
      (VesselClass.ofTypeCode typeCode ∈ m.classes ∧ 0 < steps ∧ start.isValid = false ∧
        e = .invalidCoordinate start) := by
  unfold predict
  cases htable : m.tableFor typeCode with
  | error missing =>
    obtain ⟨habsent, rfl⟩ := Model.tableFor_eq_error_iff.mp htable
    simp only [bind, Except.bind, Except.error.injEq, habsent, not_false_eq_true, true_and,
      false_and, or_false]
    exact eq_comm
  | ok t =>
    have hloaded := Model.mem_classes_of_tableFor htable
    simp [bind, Except.bind, hloaded, walk_eq_error_iff centres]

/-! ## Stages of a prediction -/

/-- A predicted path has no more steps than were asked for.  With fewer steps the prediction gives
the first of them, and from any of its positions on, with the steps that are left, the rest.  If the
middles of cells are on the globe, a prediction fails for want of a table or because it starts off
the globe, and never on the way. -/
theorem predict_in_stages (g : Grid) (m : Model) (start : GeoPoint) (course : Float)
    (typeCode : Int) (steps : Nat) :
    (∀ path, g.predict m start course typeCode steps = .ok path →
      path.length ≤ steps ∧
      (∀ n ≤ steps, g.predict m start course typeCode n = .ok (path.take n)) ∧
      ∀ n s, path[n]? = some s →
        g.predict m s.location course typeCode (steps - (n + 1)) = .ok (path.drop (n + 1))) ∧
    (g.CentresValid → ∀ e, g.predict m start course typeCode steps = .error e ↔
      (VesselClass.ofTypeCode typeCode ∉ m.classes ∧
        e = .classNotLoaded (VesselClass.ofTypeCode typeCode)) ∨
      (VesselClass.ofTypeCode typeCode ∈ m.classes ∧ 0 < steps ∧ start.isValid = false ∧
        e = .invalidCoordinate start)) := by
  refine ⟨fun path predicted => ?_, fun centres e => predict_eq_error_iff centres⟩
  obtain ⟨t, htable, walked⟩ := predict_eq_ok_iff.mp predicted
  refine ⟨length_path_le walked, fun n fewer => ?_, fun n s hs => ?_⟩
  · exact predict_eq_ok_iff.mpr ⟨t, htable, walk_take walked fewer⟩
  · have reached : (positions start path)[n + 1]? = some s.location := by
      simp [positions, hs]
    exact predict_eq_ok_iff.mpr ⟨t, htable, walk_drop walked reached⟩

theorem centresValid_threeHexagons : threeHexagons.CentresValid := by
  intro cell p hcentre
  have hmem := Assoc.mem_of_lookup_eq_some hcentre
  simp only [List.mem_cons, Prod.mk.injEq, List.not_mem_nil, or_false] at hmem
  obtain ⟨hwest, hmiddle, heast⟩ := cellAt_threeHexagons
  obtain ⟨-, rfl⟩ | ⟨-, rfl⟩ | ⟨-, rfl⟩ := hmem
  · exact (cellAt_eq_ok_iff.mp hwest).1
  · exact (cellAt_eq_ok_iff.mp hmiddle).1
  · exact (cellAt_eq_ok_iff.mp heast).1

/-- The way to the east is cut behind its first step and taken up again there.  North of the pole
there is no first step. -/
theorem predict_in_stages_hexagons :
    let m := Model.empty.insert (VesselClass.ofTypeCode 70) (eastward (sector 90))
    threeHexagons.CentresValid ∧ threeHexagons.predict m west 90 70 5 = .ok eastwardPath ∧
    threeHexagons.predict m west 90 70 1 = .ok [⟨622640466596921343, middle, 0.6⟩] ∧
    threeHexagons.predict m middle 90 70 4 = .ok [⟨622640466596888575, east, 0.05⟩] ∧
    threeHexagons.predict m ⟨91, 0⟩ 90 70 5 = .error (.invalidCoordinate ⟨91, 0⟩) := by
  intro m
  have hloaded : m.tableFor 70 = .ok (eastward (sector 90)) := Model.tableFor_insert _ _ _
  have predicted : threeHexagons.predict m west 90 70 5 = .ok eastwardPath :=
    predict_eq_ok_iff.mpr ⟨_, hloaded, walk_eastward _⟩
  obtain ⟨hstages, -⟩ := predict_in_stages threeHexagons m west 90 70 5
  obtain ⟨-, hfirst, hrest⟩ := hstages _ predicted
  obtain ⟨-, herror⟩ := predict_in_stages threeHexagons m ⟨91, 0⟩ 90 70 5
  refine ⟨centresValid_threeHexagons, predicted, hfirst 1 (by decide), hrest 0 _ rfl, ?_⟩
  refine (herror centresValid_threeHexagons _).mpr (Or.inr ⟨?_, by decide, by decide, rfl⟩)
  exact Model.mem_classes_of_tableFor hloaded

end VesselWatch.Track.Grid
