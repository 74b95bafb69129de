/-
  Proofs/Rule/Indistinct.lean --- definitions that nothing tells apart.

  Two definitions that are the same need not say the same.  A literal is compared with a
  field as a text, and in the text of an object the fields stand in their order and a zero
  has its sign, neither of which sameness looks at.  Where the literals have one text and
  the points are at the same distances from everywhere (`Condition.Indistinct`), the same
  definitions have the same verdict on every event and leave the same memory
  (`Rule.alike_of_same`): thresholds, radii and the vertices of polygons may be zeros of
  different signs, and folders may be spelled differently.
-/
import VesselWatch.Proofs.Geo
import VesselWatch.Proofs.Rule.Same
import VesselWatch.Proofs.Track.Library

set_option autoImplicit false

namespace VesselWatch

open Decimal

/-! ## What sameness does not look at -/

/-- Every position is as far from the points of the one test as from those of the other.  Points
that differ in the sign of a zero are told apart by sine and cosine, of which nothing is known
here. -/
structure SpatialTest.SameDistances (a b : SpatialTest) : Prop where
  circleCenter : ∀ p, a.circleCenter.map (Geo.distance p) = b.circleCenter.map (Geo.distance p)
  otherEntity : ∀ p, a.otherEntity.map (Geo.distance p) = b.otherEntity.map (Geo.distance p)

/-- The literals of two conditions have one text, and their points are at the same distances from
everywhere, in filters too. -/
def Condition.Indistinct : Condition → Condition → Prop
  | .value a, .value b => VesselEvent.valueText a.value = VesselEvent.valueText b.value
  | .spatial a, .spatial b => a.SameDistances b
  | .aggregation _ (some f), .aggregation _ (some g) => f.Indistinct g
  | _, _ => True

/-- One verdict, one memory, and models of the same folders asked for. -/
structure Outcome.Alike {ε : Type} (o o' : Outcome ε) : Prop where
  verdict : o.verdict = o'.verdict
  state : o.state = o'.state
  consulted : o.consulted.map Path.parts = o'.consulted.map Path.parts

theorem Outcome.Alike.refl {ε : Type} (o : Outcome ε) : o.Alike o := ⟨rfl, rfl, rfl⟩

/-! ## Tests without memory -/

theorem ValueTest.holds_congr {a b : ValueTest} (same : a.same b = true)
    (text : VesselEvent.valueText a.value = VesselEvent.valueText b.value) (e : VesselEvent) :
    a.holds e = b.holds e := by
  simp only [ValueTest.same, Bool.and_eq_true, beq_iff_eq] at same
  obtain ⟨⟨hfield, hoperator⟩, -⟩ := same
  unfold ValueTest.holds
  rw [hfield, hoperator, text]

theorem SpatialTest.evaluate_congr {a b : SpatialTest} (same : a.same b = true)
    (distances : a.SameDistances b) (e : VesselEvent) : a.evaluate e = b.evaluate e := by
  simp only [SpatialTest.same, Bool.and_eq_true, beq_iff_eq, sameList_iff] at same
  obtain ⟨⟨⟨⟨⟨hop, hpolygon⟩, -⟩, hradius⟩, hdistance⟩, -⟩ := same
  unfold SpatialTest.evaluate
  rw [hop]
  cases b.op with
  | inPolygon =>
    simp only [hpolygon.length_eq, Geo.contains_congr hpolygon]
  | inCircle =>
    have hcenter := distances.circleCenter e.location
    cases hb : b.circleCenter with
    | none =>
      rw [hb, Option.map_none, Option.map_eq_none_iff] at hcenter
      rw [hcenter]
    | some center =>
      rw [hb, Option.map_some, Option.map_eq_some_iff] at hcenter
      obtain ⟨center', ha, heq⟩ := hcenter
      simp only [ha, heq, (near_of_beq hradius).le_right]
  | nearPoint =>
    have hother := distances.otherEntity e.location
    cases hb : b.otherEntity with
    | none =>
      rw [hb, Option.map_none, Option.map_eq_none_iff] at hother
      rw [hother]
    | some other =>
      rw [hb, Option.map_some, Option.map_eq_some_iff] at hother
      obtain ⟨other', ha, heq⟩ := hother
      simp only [ha, heq, (near_of_beq hdistance).lt_right]

/-! ## Windows -/

theorem hasClosePair_congr {x y : Float} (equal : (x == y) = true) (recent : List VesselEvent) :
    hasClosePair x recent = hasClosePair y recent := by
  induction recent with
  | nil => rfl
  | cons a rest ih => simp only [hasClosePair, ih, (near_of_beq equal).lt_right]

namespace Window

variable {w w' : Window}

theorem unexpired_congr (same : w.same w' = true) (now : Instant) (recent : List VesselEvent) :
    w.unexpired now recent = w'.unexpired now recent := by
  simp only [Window.same, Bool.and_eq_true, beq_iff_eq] at same
  unfold unexpired
  rw [same.1.2]

theorem verdict_congr (same : w.same w' = true) (recent : List VesselEvent) :
    w.verdict recent = w'.verdict recent := by
  simp only [Window.same, Bool.and_eq_true, beq_iff_eq] at same
  obtain ⟨⟨hop, -⟩, hthreshold⟩ := same
  unfold Window.verdict
  rw [hop]
  cases w'.op with
  | countInWindow => simp only [ge_iff_le, (near_of_beq hthreshold).le_left]
  | pairExists => exact hasClosePair_congr hthreshold recent

end Window

/-- What is left of a row of events under filters that are alike is alike. -/
theorem refilter_congr {f g : Filter} (alike : ∀ e s, (f e s).Alike (g e s))
    (past : List VesselEvent) (s : RuleState) :
    (refilter f past s).kept = (refilter g past s).kept ∧
      (refilter f past s).state = (refilter g past s).state ∧
      (refilter f past s).consulted.map Path.parts =
        (refilter g past s).consulted.map Path.parts := by
  induction past generalizing s with
  | nil => exact ⟨rfl, rfl, rfl⟩
  | cons e rest ih =>
    obtain ⟨hverdict, hstate, hconsulted⟩ := alike e s
    unfold refilter
    cases hg : (g e s).verdict with
    | error err =>
      rw [hg] at hverdict
      simp only [hverdict, hg]
      exact ⟨trivial, hstate, hconsulted⟩
    | ok passes =>
      rw [hg] at hverdict
      obtain ⟨hkept, hend, hasked⟩ := ih (g e s).state
      simp only [hverdict, hg, hstate, List.map_append]
      rw [hkept, hend, hasked, hconsulted]
      exact ⟨rfl, rfl, rfl⟩

theorem Window.evaluateFiltered_congr {w w' : Window} (same : w.same w' = true) {f g : Filter}
    (alike : ∀ e s, (f e s).Alike (g e s)) (e : VesselEvent) (s : RuleState) :
    (w.evaluateFiltered f e s).Alike (w'.evaluateFiltered g e s) := by
  have hrecent := unexpired_congr same e.timestamp s.recent
  obtain ⟨hkept, hstate, hconsulted⟩ :
      (w.refiltered f e s).kept = (w'.refiltered g e s).kept ∧
        (w.refiltered f e s).state = (w'.refiltered g e s).state ∧
        (w.refiltered f e s).consulted.map Path.parts =
          (w'.refiltered g e s).consulted.map Path.parts := by
    unfold refiltered
    rw [hrecent]
    exact refilter_congr alike _ _
  cases hend : (w'.refiltered g e s).kept with
  | error err =>
    rw [evaluateFiltered_of_refilter_error (hkept.trans hend),
      evaluateFiltered_of_refilter_error hend, hstate, hrecent]
    exact ⟨rfl, rfl, hconsulted⟩
  | ok kept =>
    obtain ⟨hverdict, hnew, hasked⟩ :
        (f e (w.refiltered f e s).state).Alike (g e (w'.refiltered g e s).state) := by
      rw [hstate]
      exact alike e _
    have hconsulted :
        ((w.refiltered f e s).consulted ++ (f e (w.refiltered f e s).state).consulted).map
            Path.parts =
          ((w'.refiltered g e s).consulted ++ (g e (w'.refiltered g e s).state).consulted).map
            Path.parts := by
      rw [List.map_append, List.map_append, hconsulted, hasked]
    cases hlast : (g e (w'.refiltered g e s).state).verdict with
    | error err =>
      rw [evaluateFiltered_of_filter_error (hkept.trans hend) (hverdict.trans hlast),
        evaluateFiltered_of_filter_error hend hlast, hnew]
      exact ⟨rfl, rfl, hconsulted⟩
    | ok admitted =>
      rw [evaluateFiltered_of_ok (hkept.trans hend) (hverdict.trans hlast),
        evaluateFiltered_of_ok hend hlast, hnew, verdict_congr same]
      exact ⟨rfl, rfl, hconsulted⟩

/-! ## Conditions and rules -/

section Alike

variable {models : Models}

theorem Condition.alike_of_same (coherent : Track.Coherent fun p => models (some p)) :
    ∀ (c d : Condition), c.same d = true → c.Indistinct d → ∀ (e : VesselEvent) (s : RuleState),
      (c.evaluate models e s).Alike (d.evaluate models e s)
  | .value a, .value b, same, text, e, s => by
    unfold Condition.evaluate
    rw [ValueTest.holds_congr same text]
    exact .refl _
  | .spatial a, .spatial b, same, distances, e, s => by
    unfold Condition.evaluate
    rw [SpatialTest.evaluate_congr same distances]
    exact .refl _
  | .temporal a, .temporal b, same, _, e, s => by
    obtain rfl : a = b := eq_of_beq same
    exact .refl _
  | .aggregation w none, .aggregation w' none, same, _, e, s => by
    have same : w.same w' = true := same
    simp only [Condition.evaluate, Window.evaluate, Window.unexpired_congr same,
      Window.verdict_congr same]
    exact .refl _
  | .aggregation w (some f), .aggregation w' (some g), same, indistinct, e, s => by
    obtain ⟨hwindow, hfilter⟩ := Bool.and_eq_true_iff.mp same
    exact Window.evaluateFiltered_congr hwindow
      (Condition.alike_of_same coherent f g hfilter indistinct) e s
  | .positionAnomaly none, .positionAnomaly none, _, _, e, s => .refl _
  | .positionAnomaly (some p), .positionAnomaly (some q), same, _, e, s => by
    have hfolder : (p == q) = true := same
    have hmodel : models (some p) = models (some q) := coherent p q hfolder
    unfold Condition.evaluate
    rw [hmodel]
    exact ⟨rfl, rfl, congrArg (· :: []) (Path.parts_eq_of_beq hfolder)⟩

/-- Conditions that are alike one by one are alike when one is applied after another. -/
theorem evaluateUntil_congr {cs ds : List Condition}
    (alike : List.Forall₂ (fun c d => ∀ e s,
      (c.evaluate models e s).Alike (d.evaluate models e s)) cs ds)
    (last : Bool) (e : VesselEvent) (s : RuleState) :
    (evaluateUntil models last e cs s).Alike (evaluateUntil models last e ds s) := by
  induction alike generalizing s with
  | nil => exact .refl _
  | @cons c d cs ds here _ ih =>
    obtain ⟨hverdict, hstate, hconsulted⟩ := here e s
    unfold evaluateUntil
    cases hd : (d.evaluate models e s).verdict with
    | error err =>
      rw [hd] at hverdict
      simp only [hverdict, hd]
      exact ⟨rfl, hstate, hconsulted⟩
    | ok b =>
      rw [hd] at hverdict
      simp only [hverdict, hd]
      split
      · exact ⟨rfl, hstate, hconsulted⟩
      · obtain ⟨hlater, hend, hasked⟩ := ih (d.evaluate models e s).state
        rw [hstate]
        refine ⟨hlater, hend, ?_⟩
        rw [List.map_append, List.map_append, hconsulted, hasked]

theorem Outcome.Alike.ofCondition {o o' : Outcome ConditionError} (alike : o.Alike o') :
    o.ofCondition.Alike o'.ofCondition := by
  obtain ⟨hverdict, hstate, hconsulted⟩ := alike
  refine ⟨?_, hstate, hconsulted⟩
  unfold Outcome.ofCondition
  rw [hverdict]

/-- The same definitions have the same say on every event, if their literals have one text and
their points are at the same distances from everywhere. -/
theorem Rule.alike_of_same (coherent : Track.Coherent fun p => models (some p)) {a b : Rule}
    (same : a.same b = true)
    (indistinct : List.Forall₂ Condition.Indistinct a.conditions b.conditions)
    (e : VesselEvent) (s : RuleState) :
    (a.evaluate models e s).Alike (b.evaluate models e s) := by
  simp only [Rule.same, Bool.and_eq_true, beq_iff_eq, sameList_iff] at same
  obtain ⟨⟨⟨-, hlogic⟩, hsame⟩, -⟩ := same
  have halike : List.Forall₂ (fun c d => ∀ e s,
      (c.evaluate models e s).Alike (d.evaluate models e s)) a.conditions b.conditions := by
    rw [List.forall₂_iff_get] at hsame indistinct ⊢
    refine ⟨hsame.1, fun i hi hi' => ?_⟩
    exact Condition.alike_of_same coherent _ _ (hsame.2 i hi hi') (indistinct.2 i hi hi')
  have hempty : a.conditions.isEmpty = b.conditions.isEmpty := by
    rw [Bool.eq_iff_iff, List.isEmpty_iff_length_eq_zero, List.isEmpty_iff_length_eq_zero,
      halike.length_eq]
  unfold Rule.evaluate
  rw [hempty, hlogic]
  split
  · exact .refl _
  · cases b.combineLogic with
    | all => exact (evaluateUntil_congr halike false e s).ofCondition
    | any => exact (evaluateUntil_congr halike true e s).ofCondition
    | unsupported word => exact .refl _

end Alike

end VesselWatch
