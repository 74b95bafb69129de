/-
  Proofs/Geo/Ring.lean --- one ring, drawn in several ways.

  Whether a polygon contains a point depends on how many of its edges the ray from the point crosses
  (`contains_iff_odd`).  So it does not matter with which vertex the list of vertices begins: the
  edges of a rotated ring are the same ones, rotated (`edges_rotate`).  Nor does it matter whether
  a vertex is listed again right after itself: the edge from it to itself has both its ends on one
  side of the point and is not crossed (`crossings_cons_cons`).  All of this holds for any doubles,
  as the place where an edge is met is computed from the edge and the point alone.
-/
import Mathlib.Algebra.Ring.Parity
import Mathlib.Data.List.Rotate
import VesselWatch.Proofs.Geo

set_option autoImplicit false

namespace VesselWatch.Geo

variable {ring ring' : List GeoPoint} {p : GeoPoint}

/-! ## Counting the edges that are crossed -/

/-- An edge with both its ends on one side of the point is not crossed. -/
theorem crosses_eq_false_of_iff {a b : GeoPoint} (side : p.lon < a.lon ↔ p.lon < b.lon) :
    crosses p (a, b) = false := by
  simp [crosses, decide_eq_decide.mpr side]

/-- How many edges the ray from a point crosses. -/
def crossings (ring : List GeoPoint) (p : GeoPoint) : Nat := (edges ring).countP (crosses p)

/-- A switch that is turned at each edge that is crossed counts them. -/
theorem foldl_crosses (es : List (GeoPoint × GeoPoint)) (inside : Bool) :
    es.foldl (fun inside edge => inside != crosses p edge) inside =
      (inside != decide (Odd (es.countP (crosses p)))) := by
  induction es generalizing inside with
  | nil => simp
  | cons edge rest ih =>
    rw [List.foldl_cons, ih, List.countP_cons]
    cases crosses p edge with
    | false => simp
    | true =>
      rw [if_pos rfl, decide_eq_decide.mpr Nat.odd_add_one, decide_not]
      cases inside <;> simp

/-- The ray leads from inside to outside where it has an odd number of edges to cross. -/
theorem contains_iff_odd : contains ring p = true ↔ 3 ≤ ring.length ∧ Odd (crossings ring p) := by
  unfold contains
  rw [foldl_crosses, Bool.false_bne]
  split
  · next few => exact iff_of_false Bool.false_ne_true fun h => absurd h.1 (Nat.not_le.mpr few)
  · next enough => rw [decide_eq_true_iff, crossings, and_iff_right (Nat.not_lt.mp enough)]

theorem contains_congr_crossings (enough : 3 ≤ ring.length) (enough' : 3 ≤ ring'.length)
    (same : crossings ring p = crossings ring' p) : contains ring p = contains ring' p := by
  rw [Bool.eq_iff_iff, contains_iff_odd, contains_iff_odd, same]
  exact and_congr_left fun _ => iff_of_true enough enough'

/-! ## Where the list begins -/

theorem edges_eq_zip_rotate (ring : List GeoPoint) :
    edges ring = ring.zip (ring.rotate (ring.length - 1)) := by
  cases ring using List.reverseRecOn with
  | nil => rfl
  | append_singleton front last =>
    have hlength : (front ++ [last]).length - 1 = front.length := by simp
    rw [hlength, List.rotate_append_length_eq, edges_append_single]
    rfl

theorem edges_rotate (ring : List GeoPoint) (n : Nat) :
    edges (ring.rotate n) = (edges ring).rotate n := by
  rw [edges_eq_zip_rotate, edges_eq_zip_rotate, List.length_rotate, List.rotate_rotate,
    Nat.add_comm n, ← List.rotate_rotate]
  exact (List.zipWith_rotate_distrib _ _ _ _ (List.length_rotate _ _).symm).symm

theorem crossings_rotate (ring : List GeoPoint) (n : Nat) (p : GeoPoint) :
    crossings (ring.rotate n) p = crossings ring p := by
  rw [crossings, edges_rotate]
  exact (List.rotate_perm _ _).countP_eq _

theorem crossings_append_comm (front back : List GeoPoint) (p : GeoPoint) :
    crossings (front ++ back) p = crossings (back ++ front) p := by
  rw [← List.rotate_append_length_eq, crossings_rotate]

/-! ## Vertices that are repeated -/

theorem zip_dropLast_cons {α : Type} (v : α) (rest : List α) :
    rest.zip (v :: rest).dropLast = rest.zip (v :: rest) := by
  induction rest generalizing v with
  | nil => rfl
  | cons w rest ih => rw [List.dropLast_cons_cons, List.zip_cons_cons, ih, List.zip_cons_cons]

theorem edges_cons (v : GeoPoint) (rest : List GeoPoint) :
    edges (v :: rest) = (v, rest.getLast?.getD v) :: rest.zip (v :: rest) := by
  rw [edges, List.getLast?_cons]
  exact congrArg _ (zip_dropLast_cons v rest)

/-- The edge from a vertex to itself is not crossed. -/
theorem crossings_cons_cons (v : GeoPoint) (rest : List GeoPoint) (p : GeoPoint) :
    crossings (v :: v :: rest) p = crossings (v :: rest) p := by
  unfold crossings
  rw [edges_cons, edges_cons, List.getLast?_cons, List.zip_cons_cons, List.countP_cons,
    List.countP_cons, List.countP_cons, crosses_eq_false_of_iff Iff.rfl]
  simp

theorem crossings_replicate_append (k : Nat) (v : GeoPoint) (rest : List GeoPoint) (p : GeoPoint) :
    crossings (List.replicate (k + 1) v ++ rest) p = crossings (v :: rest) p := by
  induction k with
  | zero => rfl
  | succ k ih =>
    rw [← ih]
    exact crossings_cons_cons v (List.replicate k v ++ rest) p

/-! ## Ways to draw a ring -/

/-- The second list draws the ring of the first one: it begins with another vertex, a vertex is
listed several times in a row, or both of this, any number of times. -/
inductive Redrawn : List GeoPoint → List GeoPoint → Prop
  | rotate (ring : List GeoPoint) (n : Nat) : Redrawn ring (ring.rotate n)
  | repeated (before : List GeoPoint) (v : GeoPoint) (after : List GeoPoint) (k : Nat) :
    Redrawn (before ++ v :: after) (before ++ List.replicate (k + 1) v ++ after)
  | trans {first second third : List GeoPoint} :
    Redrawn first second → Redrawn second third → Redrawn first third

theorem Redrawn.crossings_eq (redrawn : Redrawn ring ring') (p : GeoPoint) :
    crossings ring' p = crossings ring p := by
  induction redrawn with
  | rotate ring n => exact crossings_rotate ring n p
  | repeated before v after k =>
    -- The repeated vertex is brought to the front.
    rw [List.append_assoc, crossings_append_comm before, List.append_assoc,
      crossings_replicate_append, crossings_append_comm before, List.cons_append]
  | trans _ _ ih ih' => exact ih'.trans ih

theorem Redrawn.length_le (redrawn : Redrawn ring ring') : ring.length ≤ ring'.length := by
  induction redrawn with
  | rotate ring n => exact (List.length_rotate _ _).ge
  | repeated before v after k =>
    simp only [List.length_append, List.length_cons, List.length_replicate]
    omega
  | trans _ _ ih ih' => exact ih.trans ih'

theorem Redrawn.contains_eq (redrawn : Redrawn ring ring') (enough : 3 ≤ ring.length)
    (p : GeoPoint) : contains ring' p = contains ring p :=
  contains_congr_crossings (enough.trans redrawn.length_le) enough (redrawn.crossings_eq p)

/-- A ring may be closed by its first vertex. -/
theorem redrawn_closed (v : GeoPoint) (rest : List GeoPoint) :
    Redrawn (v :: rest) (v :: rest ++ [v]) := by
  have hback : (v :: rest).rotate 1 = rest ++ [v] := by simp
  have hfront : (rest ++ [v] ++ [v]).rotate (rest ++ [v]).length = v :: rest ++ [v] :=
    List.rotate_append_length_eq _ _
  have htwice : Redrawn (rest ++ [v]) (rest ++ [v] ++ [v]) := by
    simpa using Redrawn.repeated rest v [] 1
  exact (hback ▸ Redrawn.rotate _ 1).trans (htwice.trans (hfront ▸ Redrawn.rotate _ _))

/-! ## Points beside a ring -/

theorem mem_of_mem_edges {a b : GeoPoint} (edge : (a, b) ∈ edges ring) : a ∈ ring ∧ b ∈ ring := by
  rw [edges_eq_zip_rotate] at edge
  have hends := List.of_mem_zip edge
  exact ⟨hends.1, List.mem_rotate.mp hends.2⟩

/-- A ring whose vertices lie all on one side of the point does not contain it. -/
theorem contains_eq_false_of_iff (side : ∀ a ∈ ring, ∀ b ∈ ring, p.lon < a.lon ↔ p.lon < b.lon) :
    contains ring p = false := by
  have hnone : crossings ring p = 0 := by
    refine List.countP_eq_zero.mpr ?_
    rintro ⟨a, b⟩ hedge
    obtain ⟨ha, hb⟩ := mem_of_mem_edges hedge
    rw [crosses_eq_false_of_iff (side a ha b hb)]
    exact Bool.false_ne_true
  rw [← Bool.not_eq_true, contains_iff_odd, hnone]
  simp

/-! ## All of it -/

/-- A polygon contains the same points if its list of vertices is rotated, if a vertex is repeated
right after itself, if the ring is closed by its first vertex, and if it is redrawn by any row of
such changes.  It contains no point that lies below all its longitudes, and none that no longitude
exceeds. -/
theorem contains_redrawn (polygon : List GeoPoint) (enough : 3 ≤ polygon.length) (p : GeoPoint) :
    (∀ n, contains (polygon.rotate n) p = contains polygon p) ∧
    (∀ before v after k, polygon = before ++ v :: after →
      contains (before ++ List.replicate (k + 1) v ++ after) p = contains polygon p) ∧
    (∀ v ∈ polygon.head?, contains (polygon ++ [v]) p = contains polygon p) ∧
    (∀ ring, Redrawn polygon ring → contains ring p = contains polygon p) ∧
    ((∀ v ∈ polygon, p.lon < v.lon) → contains polygon p = false) ∧
    ((∀ v ∈ polygon, ¬ v.lon > p.lon) → contains polygon p = false) := by
  refine ⟨fun n => ?_, ?_, ?_, fun ring redrawn => ?_, fun below => ?_, fun beyond => ?_⟩
  · exact (Redrawn.rotate polygon n).contains_eq enough p
  · rintro before v after k rfl
    exact (Redrawn.repeated before v after k).contains_eq enough p
  · intro v hv
    obtain ⟨rest, rfl⟩ := List.head?_eq_some_iff.mp hv
    exact (redrawn_closed v rest).contains_eq enough p
  · exact redrawn.contains_eq enough p
  · exact contains_eq_false_of_iff fun a ha b hb => iff_of_true (below a ha) (below b hb)
  · exact contains_eq_false_of_iff fun a ha b hb => iff_of_false (beyond a ha) (beyond b hb)

/-- A basin that is open to the north. -/
def basin : List GeoPoint :=
  [⟨0, 0⟩, ⟨0, 3⟩, ⟨3, 3⟩, ⟨3, 2⟩, ⟨1, 2⟩, ⟨1, 1⟩, ⟨3, 1⟩, ⟨3, 0⟩]

/-- The west wall of the basin belongs to it wherever the drawing of its outline starts and though
the outline is closed; the water between the walls and what lies in the east do not. -/
theorem contains_redrawn_basin :
    3 ≤ basin.length ∧ contains basin ⟨2, 0.5⟩ = true ∧
    contains (basin.rotate 5) ⟨2, 0.5⟩ = true ∧ contains (basin ++ [⟨0, 0⟩]) ⟨2, 0.5⟩ = true ∧
    contains (basin.rotate 5) ⟨2, 1.5⟩ = false ∧ contains basin ⟨2, 3⟩ = false := by
  have enough : 3 ≤ basin.length := by decide
  have hwall : contains basin ⟨2, 0.5⟩ = true := by decide
  have hwater : contains basin ⟨2, 1.5⟩ = false := by decide
  obtain ⟨hrotate, -, hclosed, -⟩ := contains_redrawn basin enough ⟨2, 0.5⟩
  obtain ⟨hrotate', -⟩ := contains_redrawn basin enough ⟨2, 1.5⟩
  obtain ⟨-, -, -, -, -, heast⟩ := contains_redrawn basin enough ⟨2, 3⟩
  exact ⟨enough, hwall, (hrotate 5).trans hwall, (hclosed _ rfl).trans hwall,
    (hrotate' 5).trans hwater, heast (by decide)⟩

end VesselWatch.Geo
