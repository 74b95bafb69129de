/-
  Proofs/Geo.lean --- polygons with equal vertices.

  Vertices that are equal may differ in the signs of their zeros.  A polygon contains the
  same points all the same: where an edge is met by the ray at all, one of its ends lies on
  this side of the point and the other one beyond it, so that the division is not by a zero
  (`Geo.contains_congr`).
-/
import VesselWatch.Geo
import VesselWatch.Proofs.Decimal.SignOfZero
import Mathlib.Data.List.Forall2

set_option autoImplicit false

namespace VesselWatch.Geo

open Decimal

/-- Each vertex equals the one at its place. -/
abbrev SameRing (ring ring' : List GeoPoint) : Prop :=
  List.Forall₂ (fun a b => GeoPoint.same a b = true) ring ring'

theorem crosses_congr {a a' b b' : GeoPoint} (ha : a.same a' = true) (hb : b.same b' = true)
    (p : GeoPoint) : crosses p (a, b) = crosses p (a', b') := by
  obtain ⟨halat, halon⟩ := Bool.and_eq_true_iff.mp ha
  obtain ⟨hblat, hblon⟩ := Bool.and_eq_true_iff.mp hb
  have hside : ∀ {x y : Float}, (x == y) = true → decide (x > p.lon) = decide (y > p.lon) :=
    fun equal => decide_eq_decide.mpr ((near_of_beq equal).lt_right p.lon)
  unfold crosses
  simp only [hside halon, hside hblon]
  -- Where both ends lie on one side nothing is crossed, whatever the quotient comes to.
  by_cases hmeets : p.lon < b'.lon ↔ p.lon < a'.lon
  · have hsame : decide (a'.lon > p.lon) = decide (b'.lon > p.lon) :=
      decide_eq_decide.mpr hmeets.symm
    simp [hsame]
  · have hapart : ¬(p.lon < b.lon ↔ p.lon < a.lon) := by
      rw [(near_of_beq hblon).lt_right, (near_of_beq halon).lt_right]
      exact hmeets
    have hwidth : b.lon - a.lon = b'.lon - a'.lon :=
      sub_eq_of_apart (near_of_beq hblon) (near_of_beq halon) hapart
    have hat : Near ((b.lat - a.lat) * (p.lon - a.lon) / (b.lon - a.lon) + a.lat)
        ((b'.lat - a'.lat) * (p.lon - a'.lon) / (b'.lon - a'.lon) + a'.lat) := by
      rw [hwidth]
      have hrise := (near_of_beq hblat).sub (near_of_beq halat)
      have hrun := (Near.refl p.lon).sub (near_of_beq halon)
      exact ((hrise.mul hrun).div _).add (near_of_beq halat)
    rw [decide_eq_decide.mpr (hat.lt_right p.lat)]

theorem edges_append_single (ring : List GeoPoint) (last : GeoPoint) :
    edges (ring ++ [last]) = (ring ++ [last]).zip (last :: ring) := by
  simp [edges]

theorem zip_forall₂ {ring ring' others others' : List GeoPoint} (same : SameRing ring ring')
    (sameOthers : SameRing others others') :
    List.Forall₂ (fun e e' : GeoPoint × GeoPoint => e.1.same e'.1 = true ∧ e.2.same e'.2 = true)
      (ring.zip others) (ring'.zip others') := by
  induction same generalizing others others' with
  | nil => exact .nil
  | cons here _ ih =>
    cases sameOthers with
    | nil => exact .nil
    | cons there rest => exact .cons ⟨here, there⟩ (ih rest)

theorem edges_forall₂ {ring ring' : List GeoPoint} (same : SameRing ring ring') :
    List.Forall₂ (fun e e' : GeoPoint × GeoPoint => e.1.same e'.1 = true ∧ e.2.same e'.2 = true)
      (edges ring) (edges ring') := by
  have hreverse : SameRing ring.reverse ring'.reverse := List.forall₂_reverse_iff.mpr same
  rw [← ring.reverse_reverse, ← ring'.reverse_reverse]
  generalize ring.reverse = back, ring'.reverse = back' at hreverse
  cases hreverse with
  | nil => exact .nil
  | cons last rest =>
    rw [List.reverse_cons, List.reverse_cons, edges_append_single, edges_append_single]
    have hfront := List.forall₂_reverse_iff.mpr rest
    exact zip_forall₂ (List.rel_append hfront (.cons last .nil)) (.cons last hfront)

/-- Polygons with equal vertices contain the same points. -/
theorem contains_congr {ring ring' : List GeoPoint} (same : SameRing ring ring')
    (p : GeoPoint) : contains ring p = contains ring' p := by
  have hfold : ∀ {es es' : List (GeoPoint × GeoPoint)} (inside : Bool),
      List.Forall₂ (fun e e' => e.1.same e'.1 = true ∧ e.2.same e'.2 = true) es es' →
      es.foldl (fun inside edge => inside != crosses p edge) inside =
        es'.foldl (fun inside edge => inside != crosses p edge) inside := by
    intro es es' inside hes
    induction hes generalizing inside with
    | nil => rfl
    | cons here _ ih =>
      rw [List.foldl_cons, List.foldl_cons, crosses_congr here.1 here.2]
      exact ih _
  unfold contains
  rw [same.length_eq, hfold false (edges_forall₂ same)]

end VesselWatch.Geo
