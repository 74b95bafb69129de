/-
  Proofs/Rule/Same.lean --- when two definitions are the same, and what they then share.

  Definitions are the same when nothing that was written differs, where numbers count as
  numbers and objects as tables.
-/
import VesselWatch.Proofs.Rule.Evaluate
import VesselWatch.Proofs.Decimal.Order
import VesselWatch.Proofs.Assoc

set_option autoImplicit false

namespace VesselWatch

open Decimal

/-! ## Definitions that are the same as themselves -/

mutual

/-- No number in the value is a NaN, and no object has a key twice. -/
def Json.Proper : Json → Prop
  | .number (.real x) => x.isNaN = false
  | .array items => Json.ProperItems items
  | .object fields => (fields.map (·.1)).Nodup ∧ Json.ProperFields fields
  | _ => True

/-- Every item is proper. -/
def Json.ProperItems : List Json → Prop
  | [] => True
  | item :: rest => item.Proper ∧ Json.ProperItems rest

/-- Every field has a proper value. -/
def Json.ProperFields : List (String × Json) → Prop
  | [] => True
  | (_, value) :: rest => value.Proper ∧ Json.ProperFields rest

end

/-- Neither coordinate is a NaN. -/
def GeoPoint.Proper (p : GeoPoint) : Prop := p.lat.isNaN = false ∧ p.lon.isNaN = false

/-- No number in the test is a NaN. -/
structure SpatialTest.Proper (t : SpatialTest) : Prop where
  polygon : ∀ p ∈ t.polygon, p.Proper
  circleCenter : ∀ p ∈ t.circleCenter, p.Proper
  otherEntity : ∀ p ∈ t.otherEntity, p.Proper
  radiusMeters : t.radiusMeters.isNaN = false
  distanceMeters : t.distanceMeters.isNaN = false

/-- No number in the condition is a NaN, and no object in it has a key twice. -/
def Condition.Proper : Condition → Prop
  | .value t => t.value.Proper
  | .spatial t => t.Proper
  | .temporal _ => True
  | .aggregation w none => w.threshold.isNaN = false
  | .aggregation w (some f) => w.threshold.isNaN = false ∧ f.Proper
  | .positionAnomaly _ => True

/-- No number in the rule is a NaN, and no object in it has a key twice. -/
def Rule.Proper (r : Rule) : Prop := ∀ c ∈ r.conditions, c.Proper

section Reflexivity

theorem sameList_iff {α : Type} {same : α → α → Bool} {as bs : List α} :
    sameList same as bs = true ↔ List.Forall₂ (fun a b => same a b = true) as bs := by
  induction as generalizing bs with
  | nil => cases bs <;> simp [sameList]
  | cons a as ih =>
    cases bs with
    | nil => simp [sameList]
    | cons b bs => simp [sameList, ih]

theorem sameList_self {α : Type} {same : α → α → Bool} {as : List α}
    (h : ∀ a ∈ as, same a a = true) : sameList same as as = true := by
  induction as with
  | nil => rfl
  | cons a as ih =>
    rw [List.forall_mem_cons] at h
    simp [sameList, h.1, ih h.2]

theorem sameOption_self {α : Type} {same : α → α → Bool} {o : Option α}
    (h : ∀ a ∈ o, same a a = true) : sameOption same o o = true := by
  cases o with
  | none => rfl
  | some a => exact h a rfl

mutual

theorem Json.same_self : ∀ j : Json, j.Proper → j.same j = true
  | .null, _ => by unfold Json.same; rfl
  | .bool _, _ => by unfold Json.same; exact beq_self_eq_true _
  | .number (.int _), _ => by unfold Json.same; exact beq_self_eq_true _
  | .number (.real _), proper => by
    unfold Json.Proper at proper
    unfold Json.same
    exact beq_self_of_not_isNaN proper
  | .text _, _ => by unfold Json.same; exact beq_self_eq_true _
  | .array items, proper => by
    unfold Json.Proper at proper
    unfold Json.same
    exact Json.sameItems_self items proper
  | .object fields, proper => by
    unfold Json.Proper at proper
    obtain ⟨keys, values⟩ := proper
    unfold Json.same
    rw [beq_self_eq_true, Bool.true_and]
    refine Json.sameFields_self fields fields values fun p member => ?_
    exact (Assoc.lookup_eq_some_iff_mem keys).mpr member

theorem Json.sameItems_self : ∀ items : List Json, Json.ProperItems items →
    Json.sameItems items items = true
  | [], _ => by unfold Json.sameItems; rfl
  | item :: rest, proper => by
    unfold Json.ProperItems at proper
    unfold Json.sameItems
    rw [Json.same_self item proper.1, Json.sameItems_self rest proper.2]
    rfl

theorem Json.sameFields_self : ∀ (fields all : List (String × Json)), Json.ProperFields fields →
    (∀ p ∈ fields, all.lookup p.1 = some p.2) → Json.sameFields fields all = true
  | [], _, _, _ => by unfold Json.sameFields; rfl
  | (key, value) :: rest, all, proper, found => by
    unfold Json.ProperFields at proper
    rw [List.forall_mem_cons] at found
    unfold Json.sameFields
    simp only [found.1]
    rw [Json.same_self value proper.1, Json.sameFields_self rest all proper.2 found.2]
    rfl

end

theorem GeoPoint.same_self {p : GeoPoint} (proper : p.Proper) : p.same p = true := by
  unfold GeoPoint.same
  rw [beq_self_of_not_isNaN proper.1, beq_self_of_not_isNaN proper.2]
  rfl

theorem SpatialTest.same_self {t : SpatialTest} (proper : t.Proper) : t.same t = true := by
  have hpolygon : sameList GeoPoint.same t.polygon t.polygon = true :=
    sameList_self fun p hp => GeoPoint.same_self (proper.polygon p hp)
  have hcenter : sameOption GeoPoint.same t.circleCenter t.circleCenter = true :=
    sameOption_self fun p hp => GeoPoint.same_self (proper.circleCenter p hp)
  have hother : sameOption GeoPoint.same t.otherEntity t.otherEntity = true :=
    sameOption_self fun p hp => GeoPoint.same_self (proper.otherEntity p hp)
  simp [SpatialTest.same, hpolygon, hcenter, hother, beq_self_of_not_isNaN proper.radiusMeters,
    beq_self_of_not_isNaN proper.distanceMeters]

theorem Window.same_self {w : Window} (number : w.threshold.isNaN = false) :
    w.same w = true := by
  simp [Window.same, beq_self_of_not_isNaN number]

theorem Path.same_self (p : Path) : p.same p = true := beq_self_eq_true p.parts

theorem Condition.same_self : ∀ c : Condition, c.Proper → c.same c = true
  | .value t, proper => by
    have hvalue : t.value.same t.value = true := t.value.same_self proper
    simp [Condition.same, ValueTest.same, hvalue]
  | .spatial _, proper => SpatialTest.same_self proper
  | .temporal t, _ => beq_self_eq_true t
  | .aggregation _ none, proper => Window.same_self proper
  | .aggregation w (some f), proper => by
    have hwindow : w.same w = true := Window.same_self proper.1
    simp [Condition.same, hwindow, Condition.same_self f proper.2]
  | .positionAnomaly _, _ => sameOption_self fun p _ => p.same_self

/-- A rule is the same as itself, unless there is a NaN in it. -/
theorem Rule.same_self {r : Rule} (proper : r.Proper) : r.same r = true := by
  have hconditions : sameList Condition.same r.conditions r.conditions = true :=
    sameList_self fun c hc => c.same_self (proper c hc)
  simp [Rule.same, hconditions]

end Reflexivity

end VesselWatch
