/-
  Proofs/Track/Verdict.lean --- what movements and positions are judged by.

  A judgement has two halves.  Whether there is one at all is a matter of coordinates, cells and
  classes, asked for in an order of its own for movements (`checkTransition_eq`) and for positions
  (`checkPosition_eq`).  Which one it is depends on the row of a state and on nothing else
  (`Verdict.ofMovement`, `Verdict.ofPosition`).

  Each verdict carries a probability, and it is an anomaly just if that is below the threshold
  (`Verdict.Fair`), also where the probability is none that stands in the row.
-/
import VesselWatch.Proofs.Track.Walk

set_option autoImplicit false

namespace VesselWatch.Track

/-! ## Verdicts on what followed a state -/

namespace Verdict

/-- It is an anomaly just if it was judged by a probability below the threshold. -/
def Fair (v : Verdict) : Prop := v.isAnomaly = true ↔ v.probability < threshold

/-- The verdict by a probability, with one reason for those below the threshold and one for the
others. -/
def byProbability (p : Float) (below notBelow : Reason) : Verdict :=
  if p < threshold then ⟨true, p, below⟩ else ⟨false, p, notBelow⟩

/-- The verdict on a movement to a cell, by the row of the state it began in. -/
def ofMovement (row : Option Row) (cell : Nat) : Verdict :=
  match row with
  | none => ⟨true, 0, .stateNeverObserved⟩
  | some row =>
    match row.lookup cell with
    | none => ⟨true, 0, .transitionNeverObserved⟩
    | some p => byProbability p .lowProbability .normal

/-- The verdict on a position, by the row of its state. -/
def ofPosition (row : Option Row) : Verdict :=
  match row with
  | none => ⟨true, 0, .stateNeverObserved⟩
  | some row => byProbability row.mean .rareState .commonState

theorem zero_lt_threshold : (0 : Float) < threshold := by decide

theorem not_one_lt_threshold : ¬ (1 : Float) < threshold := by decide

theorem fair_byProbability (p : Float) (below notBelow : Reason) :
    (byProbability p below notBelow).Fair := by
  unfold byProbability
  split
  · next hbelow => exact iff_of_true rfl hbelow
  · next hnot => exact iff_of_false Bool.false_ne_true hnot

theorem fair_ofMovement (row : Option Row) (cell : Nat) : (ofMovement row cell).Fair := by
  have hunseen (reason : Reason) : (⟨true, 0, reason⟩ : Verdict).Fair :=
    iff_of_true rfl zero_lt_threshold
  cases row with
  | none => exact hunseen _
  | some row =>
    dsimp only [ofMovement]
    cases row.lookup cell with
    | none => exact hunseen _
    | some p => exact fair_byProbability p _ _

theorem fair_ofPosition (row : Option Row) : (ofPosition row).Fair := by
  cases row with
  | none => exact iff_of_true rfl zero_lt_threshold
  | some row => exact fair_byProbability row.mean _ _

theorem fair_sameCell : (⟨false, 1, .sameCell⟩ : Verdict).Fair :=
  iff_of_false Bool.false_ne_true not_one_lt_threshold

theorem ofPosition_empty : ofPosition (some []) = ⟨true, 0, .rareState⟩ := by
  unfold ofPosition byProbability
  exact if_pos zero_lt_threshold

theorem reason_byProbability_ne (p : Float) :
    (byProbability p .rareState .commonState).reason ≠ .stateNeverObserved := by
  unfold byProbability
  split <;> exact Reason.noConfusion

theorem reason_ofPosition_iff (row : Option Row) :
    (ofPosition row).reason = .stateNeverObserved ↔ row = none := by
  cases row with
  | none => exact iff_of_true rfl rfl
  | some row => exact iff_of_false (reason_byProbability_ne row.mean) (Option.some_ne_none row)

end Verdict

namespace Grid

variable {g : Grid} {m : Model} {start stop p : GeoPoint} {course : Float} {typeCode : Int}

theorem checkTransition_eq :
    g.checkTransition m start stop course typeCode =
      if start.isValid = false then .error (.invalidCoordinate start)
      else if stop.isValid = false then .error (.invalidCoordinate stop)
      else if g.cellOf start = g.cellOf stop then .ok ⟨false, 1, .sameCell⟩
      else (m.tableFor typeCode).map fun t =>
        .ofMovement (t.lookup (g.stateAt (sector course) start)) (g.cellOf stop) := by
  unfold checkTransition cellAt
  cases start.isValid with
  | false => rfl
  | true =>
    cases stop.isValid with
    | false => rfl
    | true =>
      simp only [bind, Except.bind, if_true, beq_iff_eq, Bool.true_eq_false, if_false]
      split
      · rfl
      · cases m.tableFor typeCode with
        | error e => rfl
        | ok t =>
          dsimp only [Except.map, stateAt, Verdict.ofMovement]
          cases t.lookup ⟨g.cellOf start, sector course⟩ with
          | none => rfl
          | some row =>
            dsimp only
            cases row.lookup (g.cellOf stop) with
            | none => rfl
            | some p =>
              dsimp only [Verdict.byProbability]
              split <;> rfl

theorem checkPosition_eq :
    g.checkPosition m p course typeCode =
      (m.tableFor typeCode).bind fun t =>
        if p.isValid = false then .error (.invalidCoordinate p)
        else .ok (.ofPosition (t.lookup (g.stateAt (sector course) p))) := by
  unfold checkPosition cellAt
  cases m.tableFor typeCode with
  | error e => rfl
  | ok t =>
    cases p.isValid with
    | false => rfl
    | true =>
      simp only [bind, Except.bind, if_true, Bool.true_eq_false, if_false]
      dsimp only [stateAt, Verdict.ofPosition]
      cases t.lookup ⟨g.cellOf p, sector course⟩ with
      | none => rfl
      | some row =>
        dsimp only [Verdict.byProbability]
        split <;> rfl

theorem checkTransition_eq_error_iff {e : Error} :
    g.checkTransition m start stop course typeCode = .error e ↔
      (start.isValid = false ∧ e = .invalidCoordinate start) ∨
      (start.isValid = true ∧ stop.isValid = false ∧ e = .invalidCoordinate stop) ∨
      (start.isValid = true ∧ stop.isValid = true ∧ g.cellOf start ≠ g.cellOf stop ∧
        VesselClass.ofTypeCode typeCode ∉ m.classes ∧
        e = .classNotLoaded (VesselClass.ofTypeCode typeCode)) := by
  rw [checkTransition_eq]
  cases hstart : start.isValid with
  | false => simp [@eq_comm _ e]
  | true =>
    cases hstop : stop.isValid with
    | false => simp [@eq_comm _ e]
    | true =>
      by_cases hcell : g.cellOf start = g.cellOf stop
      · simp [hcell]
      · rw [← Model.tableFor_eq_error_iff]
        cases m.tableFor typeCode <;> simp [hcell, Except.map]

theorem checkPosition_eq_error_iff {e : Error} :
    g.checkPosition m p course typeCode = .error e ↔
      (VesselClass.ofTypeCode typeCode ∉ m.classes ∧
        e = .classNotLoaded (VesselClass.ofTypeCode typeCode)) ∨
      (VesselClass.ofTypeCode typeCode ∈ m.classes ∧ p.isValid = false ∧
        e = .invalidCoordinate p) := by
  rw [checkPosition_eq]
  cases htable : m.tableFor typeCode with
  | error missing =>
    obtain ⟨habsent, rfl⟩ := Model.tableFor_eq_error_iff.mp htable
    simp [Except.bind, habsent, @eq_comm _ e]
  | ok t =>
    have hloaded := Model.mem_classes_of_tableFor htable
    cases hvalid : p.isValid <;> simp [Except.bind, hloaded, @eq_comm _ e]

theorem fair_of_checkTransition {v : Verdict}
    (judged : g.checkTransition m start stop course typeCode = .ok v) : v.Fair := by
  rw [checkTransition_eq] at judged
  split at judged
  · cases judged
  · split at judged
    · cases judged
    · split at judged
      · cases judged
        exact Verdict.fair_sameCell
      · cases htable : m.tableFor typeCode with
        | error e =>
          rw [htable] at judged
          cases judged
        | ok t =>
          rw [htable] at judged
          cases judged
          exact Verdict.fair_ofMovement _ _

theorem fair_of_checkPosition {v : Verdict}
    (judged : g.checkPosition m p course typeCode = .ok v) : v.Fair := by
  rw [checkPosition_eq] at judged
  cases htable : m.tableFor typeCode with
  | error e =>
    rw [htable] at judged
    cases judged
  | ok t =>
    rw [htable] at judged
    dsimp only [Except.bind] at judged
    split at judged
    · cases judged
    · cases judged
      exact Verdict.fair_ofPosition _

/-- Every verdict on a movement or on a position is an anomaly just if its probability is below the
threshold.  There is no verdict on a movement if one of its ends is off the globe, or if the ends
lie in different cells and the class has no table; inside one cell a movement is normal whatever the
model contains.  There is no verdict on a position if the class has no table or the position is off
the globe.  A state that has a row is never called unobserved: if the row is empty, it is rare. -/
theorem checks_by_threshold (g : Grid) (m : Model) (start stop : GeoPoint) (course : Float)
    (typeCode : Int) :
    let c := VesselClass.ofTypeCode typeCode
    let movement := g.checkTransition m start stop course typeCode
    let position := g.checkPosition m start course typeCode
    (∀ v, movement = .ok v ∨ position = .ok v → (v.isAnomaly = true ↔ v.probability < threshold)) ∧
    (∀ e, movement = .error e ↔
      (start.isValid = false ∧ e = .invalidCoordinate start) ∨
      (start.isValid = true ∧ stop.isValid = false ∧ e = .invalidCoordinate stop) ∨
      (start.isValid = true ∧ stop.isValid = true ∧ g.cellOf start ≠ g.cellOf stop ∧
        c ∉ m.classes ∧ e = .classNotLoaded c)) ∧
    (start.isValid = true → stop.isValid = true → g.cellOf start = g.cellOf stop →
      movement = .ok ⟨false, 1, .sameCell⟩) ∧
    (∀ e, position = .error e ↔
      (c ∉ m.classes ∧ e = .classNotLoaded c) ∨
      (c ∈ m.classes ∧ start.isValid = false ∧ e = .invalidCoordinate start)) ∧
    ∀ t, m.tableFor typeCode = .ok t → start.isValid = true →
      let row := t.lookup ⟨g.cellOf start, sector course⟩
      ∃ v, position = .ok v ∧ (v.reason = .stateNeverObserved ↔ row = none) ∧
        (row = some [] → v = ⟨true, 0, .rareState⟩) := by
  intro c movement position
  refine ⟨?_, fun e => checkTransition_eq_error_iff, ?_, fun e => checkPosition_eq_error_iff, ?_⟩
  · rintro v (judged | judged)
    · exact fair_of_checkTransition judged
    · exact fair_of_checkPosition judged
  · intro hstart hstop hcell
    simp only [movement, checkTransition_eq, hstart, hstop, hcell, Bool.true_eq_false, if_false,
      if_true]
  · intro t htable hvalid row
    have hposition : position = .ok (.ofPosition row) := by
      simp only [position, checkPosition_eq, htable, hvalid, Except.bind, Bool.true_eq_false,
        if_false]
      rfl
    refine ⟨_, hposition, Verdict.reason_ofPosition_iff row, fun hempty => ?_⟩
    rw [hempty]
    exact Verdict.ofPosition_empty

/-- The state of a vessel in the west that heads east is known, though nothing followed it.  Without
any table the vessel may stay in its cell, but not leave it. -/
theorem checks_by_threshold_empty_row :
    let c := VesselClass.ofTypeCode 70
    let m := Model.empty.insert c [(⟨622640466597216255, sector 90⟩, [])]
    threeHexagons.checkPosition m west 90 70 = .ok ⟨true, 0, .rareState⟩ ∧
    (0 : Float) < threshold ∧
    threeHexagons.checkTransition Model.empty west west 90 70 = .ok ⟨false, 1, .sameCell⟩ ∧
    threeHexagons.checkTransition Model.empty west east 90 70 = .error (.classNotLoaded c) := by
  intro c m
  obtain ⟨hwest, -, heast⟩ := cellAt_threeHexagons
  obtain ⟨hwest, hwestCell⟩ := cellAt_eq_ok_iff.mp hwest
  obtain ⟨heast, heastCell⟩ := cellAt_eq_ok_iff.mp heast
  obtain ⟨hfair, -, -, -, hknown⟩ := checks_by_threshold threeHexagons m west east 90 70
  obtain ⟨v, hjudged, -, hrare⟩ := hknown _ (Model.tableFor_insert _ _ _) hwest
  obtain rfl := hrare (by rw [hwestCell]; simp)
  obtain ⟨-, -, hsame, -⟩ := checks_by_threshold threeHexagons Model.empty west west 90 70
  obtain ⟨-, herror, -⟩ := checks_by_threshold threeHexagons Model.empty west east 90 70
  refine ⟨hjudged, (hfair _ (.inr hjudged)).mp rfl, hsame hwest hwest rfl, (herror _).mpr ?_⟩
  have hcells : threeHexagons.cellOf west ≠ threeHexagons.cellOf east := by
    rw [hwestCell, heastCell]
    decide
  exact .inr (.inr ⟨hwest, heast, hcells, List.not_mem_nil, rfl⟩)

end Grid

end VesselWatch.Track
