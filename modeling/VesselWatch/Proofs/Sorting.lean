/-
  Proofs/Sorting.lean --- rows that ascend by a key.

  Sorting puts items in strict order if no two of them share a key (`pairwise_lt_mergeSort`).  A row
  in strict order is known by its members (`eq_of_ascending`), and the last of its members with some
  property is the one whose key no other of them exceeds (`exists_last_iff`).
-/
import Mathlib.Data.List.Sort

set_option autoImplicit false

namespace VesselWatch.Sorting

variable {α β : Type}

/-- Items sorted by a key that no two of them share stand in strict order. -/
theorem pairwise_lt_mergeSort [LinearOrder β] (key : α → β) {le : α → α → Bool}
    (hle : ∀ a b, le a b = true ↔ key a ≤ key b) {items : List α}
    (distinct : items.Pairwise fun a b => key a ≠ key b) :
    (items.mergeSort le).Pairwise fun a b => key a < key b := by
  have hsorted : (items.mergeSort le).Pairwise fun a b => key a ≤ key b := by
    refine (List.pairwise_mergeSort (fun a b c => ?_) (fun a b => ?_) _).imp fun h => (hle _ _).mp h
    · rw [hle, hle, hle]
      exact le_trans
    · rw [Bool.or_eq_true, hle, hle]
      exact le_total _ _
  have hdistinct : (items.mergeSort le).Pairwise fun a b => key a ≠ key b :=
    ((List.mergeSort_perm items le).pairwise_iff fun h => h.symm).mpr distinct
  exact (hsorted.and hdistinct).imp fun h => lt_of_le_of_ne h.1 h.2

section Ascending

variable [Preorder β] (key : α → β) {items others : List α}

/-- Rows in strict order are the same if their members are. -/
theorem eq_of_ascending (ascending : items.Pairwise fun a b => key a < key b)
    (ascending' : others.Pairwise fun a b => key a < key b)
    (same : ∀ a, a ∈ items ↔ a ∈ others) : items = others := by
  let earlier (a b : α) : Prop := key a < key b
  have : Std.Antisymm earlier := ⟨fun a b hab hba => absurd hba (lt_asymm hab)⟩
  have : Std.Irrefl earlier := ⟨fun a => lt_irrefl (key a)⟩
  exact List.Pairwise.eq_of_mem_iff (r := earlier) ascending ascending' same

/-- Where items ascend, none of a kind stands behind an item just if none of that kind has a greater
key. -/
theorem exists_last_iff (ascending : items.Pairwise fun a b => key a < key b) {P Q : α → Prop} :
    (∃ before item after, items = before ++ item :: after ∧ P item ∧ ∀ later ∈ after, ¬ Q later) ↔
      ∃ item ∈ items, P item ∧ ∀ other ∈ items, Q other → ¬ key item < key other := by
  constructor
  · rintro ⟨before, item, after, rfl, hitem, hafter⟩
    refine ⟨item, List.mem_append_right _ (List.mem_cons_self ..), hitem, fun other hother hQ => ?_⟩
    rw [List.pairwise_append] at ascending
    rcases List.mem_append.mp hother with hbefore | hrest
    · exact lt_asymm (ascending.2.2 other hbefore item (List.mem_cons_self ..))
    · rcases List.mem_cons.mp hrest with rfl | hmem
      · exact lt_irrefl _
      · exact absurd hQ (hafter other hmem)
  · rintro ⟨item, hmem, hitem, hlast⟩
    obtain ⟨before, after, rfl⟩ := List.append_of_mem hmem
    refine ⟨before, item, after, rfl, hitem, fun later hlater hQ => ?_⟩
    have hrest := (List.pairwise_append.mp ascending).2.1
    have hmem' : later ∈ before ++ item :: after :=
      List.mem_append_right _ (List.mem_cons_of_mem _ hlater)
    exact hlast later hmem' hQ (List.rel_of_pairwise_cons hrest hlater)

end Ascending

end VesselWatch.Sorting
