/-
  Proofs/Track/Prediction.lean --- predicted steps, and what is said of them when they are taken.

  A predicted step goes to the first of the most probable cells in the row of the state before it.
  A vessel that takes the step from there is judged by the same row: where the grid has the middle
  of the cell in the cell itself, the judgement finds the entry that the prediction took
  (`predict_takes_most_probable`).
-/
import VesselWatch.Proofs.Track.Walk

set_option autoImplicit false

namespace VesselWatch.Track.Grid

variable {g : Grid} {m : Model} {t : Table} {course : Float} {typeCode : Int}

/-- The judgement of a movement whose row has an entry for the cell it leads to. -/
theorem checkTransition_of_entry {start stop : GeoPoint} {a b : Nat} {row : Row} {p : Float}
    (hstart : g.cellAt start = .ok a) (hstop : g.cellAt stop = .ok b)
    (table : m.tableFor typeCode = .ok t) (found : t.lookup ⟨a, sector course⟩ = some row)
    (entry : row.lookup b = some p) :
    g.checkTransition m start stop course typeCode = .ok
      (if a = b then ⟨false, 1, .sameCell⟩
      else if p < threshold then ⟨true, p, .lowProbability⟩ else ⟨false, p, .normal⟩) := by
  unfold checkTransition
  simp only [hstart, hstop, table, found, entry, bind, Except.bind, pure, Except.pure, beq_iff_eq]
  split
  · rfl
  · split <;> rfl

/-- Each step of a predicted path goes to the middle of the first cell of the greatest probability
in the row of the state before it.  A movement from there to the predicted position is judged by
that probability, if the position lies in the predicted cell, and is never one that has not been
observed. -/
theorem predict_takes_most_probable {start : GeoPoint} {steps : Nat} {path : List Step}
    (proper : m.Proper) (predicted : g.predict m start course typeCode steps = .ok path)
    (numbers : ∀ s ∈ path, s.probability.isNaN = false) :
    ∃ t, m.tableFor typeCode = .ok t ∧
      ∀ (k : Nat) (here : GeoPoint) (s : Step),
        (positions start path)[k]? = some here → path[k]? = some s →
        ∃ cell row, g.cellAt here = .ok cell ∧ t.lookup ⟨cell, sector course⟩ = some row ∧
          row.FirstGreatest (s.cell, s.probability) ∧ g.centre? s.cell = some s.location ∧
          (g.cellAt s.location = .ok s.cell →
            g.checkTransition m here s.location course typeCode = .ok
              (if cell = s.cell then ⟨false, 1, .sameCell⟩
              else if s.probability < threshold then ⟨true, s.probability, .lowProbability⟩
              else ⟨false, s.probability, .normal⟩)) := by
  obtain ⟨t, htable, walked⟩ := predict_eq_ok_iff.mp predicted
  refine ⟨t, htable, fun k here s hhere hs => ?_⟩
  obtain ⟨hvalid, hstep⟩ := step_of_getElem? walked hhere hs
  obtain ⟨row, hrow, hbest, hcentre⟩ := step?_eq_some_iff.mp hstep
  have hgreatest := Row.firstGreatest_of_best? hbest (numbers s (List.mem_of_getElem? hs))
  have hcell : g.cellAt here = .ok (g.cellOf here) := cellAt_eq_ok_iff.mpr ⟨hvalid, rfl⟩
  refine ⟨g.cellOf here, row, hcell, hrow, hgreatest, hcentre, fun hback => ?_⟩
  have hcells := (proper.tableFor htable).cells _ (Assoc.mem_of_lookup_eq_some hrow)
  exact checkTransition_of_entry hcell hback htable hrow
    ((Assoc.lookup_eq_some_iff_mem hcells).mpr hgreatest.mem)

/-- On the way to the east the first step is judged to be normal and the second one unlikely, each
by the probability it was predicted with. -/
theorem predict_takes_most_probable_hexagons :
    let m := Model.empty.insert (VesselClass.ofTypeCode 70) (eastward (sector 90))
    m.Proper ∧ threeHexagons.predict m west 90 70 5 = .ok eastwardPath ∧
    (∀ s ∈ eastwardPath, s.probability.isNaN = false) ∧
    threeHexagons.checkTransition m west middle 90 70 = .ok ⟨false, 0.6, .normal⟩ ∧
    threeHexagons.checkTransition m middle east 90 70 = .ok ⟨true, 0.05, .lowProbability⟩ := by
  intro m
  have proper : m.Proper := Model.proper_empty.insert _ (proper_eastward _)
  have predicted : threeHexagons.predict m west 90 70 5 = .ok eastwardPath :=
    predict_eq_ok_iff.mpr ⟨_, Model.tableFor_insert _ _ _, walk_eastward _⟩
  have numbers : ∀ s ∈ eastwardPath, s.probability.isNaN = false := by decide
  obtain ⟨t, htable, hsteps⟩ := predict_takes_most_probable proper predicted numbers
  obtain ⟨hwest, hmiddle, heast⟩ := cellAt_threeHexagons
  obtain ⟨cell, -, hcell, -, -, -, hfirst⟩ := hsteps 0 west _ rfl rfl
  obtain ⟨cell', -, hcell', -, -, -, hsecond⟩ := hsteps 1 middle _ rfl rfl
  obtain rfl := Except.ok.inj (hcell.symm.trans hwest)
  obtain rfl := Except.ok.inj (hcell'.symm.trans hmiddle)
  refine ⟨proper, predicted, numbers, (hfirst hmiddle).trans ?_, (hsecond heast).trans ?_⟩
  · rw [if_neg (by decide), if_neg (by decide)]
  · rw [if_neg (by decide), if_pos (by decide)]

end VesselWatch.Track.Grid
