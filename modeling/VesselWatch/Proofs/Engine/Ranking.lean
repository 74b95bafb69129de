/-
  Proofs/Engine/Ranking.lean --- the order in which rules stand.

  Rules stand by descending priority, and those of one priority as some list has them.
  `Precedes` is that order.  It tells any two ids of the list apart, so that the rules of
  a list with distinct ids can stand in one way only (`eq_of_precedes`).  Sorting a list
  by priority leaves its rules in this order (`byPriority_precedes`), and so does ranking
  other rules by it (`ranked_precedes`).
-/
import VesselWatch.Proofs.Engine.Exclusive

set_option autoImplicit false

namespace VesselWatch

namespace Rule

variable {rules others : List Rule}

/-! ## Lists of rules known by what ids name -/

/-- A list with distinct ids holds what its ids name, in their order. -/
theorem filterMap_named (distinct : (rules.map (·.id)).Nodup) :
    (rules.map (·.id)).filterMap (fun id => named id rules) = rules := by
  have hnamed : ∀ r ∈ rules, named r.id rules = some r := fun r member =>
    (named_eq_some_iff distinct).mpr ⟨member, rfl⟩
  rw [List.filterMap_map]
  exact (List.filterMap_congr hnamed).trans List.filterMap_some

/-- Lists with distinct ids in which ids name the same rules have the same rules. -/
theorem perm_of_named_eq (distinct : (rules.map (·.id)).Nodup)
    (distinct' : (others.map (·.id)).Nodup) (same : ∀ id, named id rules = named id others) :
    rules.Perm others := by
  refine (List.perm_ext_iff_of_nodup distinct.of_map distinct'.of_map).mpr fun r => ?_
  have hleft : named r.id rules = some r ↔ r ∈ rules := by
    rw [named_eq_some_iff distinct]
    exact and_iff_left rfl
  have hright : named r.id others = some r ↔ r ∈ others := by
    rw [named_eq_some_iff distinct']
    exact and_iff_left rfl
  rw [← hleft, ← hright, same]

/-- A change that keeps ids changes what each id names. -/
theorem named_map {change : Rule → Rule} (keeps : ∀ r, (change r).id = r.id) (id : String) :
    named id (rules.map change) = (named id rules).map change := by
  unfold named
  rw [List.find?_map]
  simp only [Function.comp_def, keeps]

/-- The last definition of each id of a list, at the place where the id comes first. -/
def lastOfEach (rules : List Rule) : List Rule :=
  (rules.map (·.id)).eraseDups.filterMap fun id => lastNamed id rules

theorem ids_distinct_eq (rules : List Rule) :
    (distinct rules).map (·.id) = (rules.map (·.id)).eraseDups := by
  rw [ids_distinct, Assoc.keys_ofList, List.map_map]
  rfl

theorem distinct_eq_lastOfEach (rules : List Rule) : distinct rules = lastOfEach rules := by
  have hself := filterMap_named (nodup_ids_distinct rules)
  rw [ids_distinct_eq] at hself
  rw [← hself]
  exact List.filterMap_congr fun id _ => named_distinct id rules

theorem eraseDups_of_nodup {ids : List String} (nodup : ids.Nodup) : ids.eraseDups = ids := by
  induction ids with
  | nil => rfl
  | cons id rest ih =>
    obtain ⟨hfresh, hrest⟩ := List.nodup_cons.mp nodup
    have hkept : (rest.filter fun other => !other == id) = rest := by
      refine List.filter_eq_self.mpr fun other hother => ?_
      have hne : (other == id) = false := beq_eq_false_iff_ne.mpr fun h => hfresh (h ▸ hother)
      rw [hne]
      rfl
    rw [List.eraseDups_cons, hkept, ih hrest]

/-- Where no id comes twice, nothing is dropped. -/
theorem distinct_of_nodup (nodup : (rules.map (·.id)).Nodup) : distinct rules = rules := by
  have hlast : lastOfEach rules = (rules.map (·.id)).filterMap fun id => named id rules := by
    rw [lastOfEach, eraseDups_of_nodup nodup]
    exact List.filterMap_congr fun id _ => lastNamed_eq_named nodup id
  rw [distinct_eq_lastOfEach, hlast, filterMap_named nodup]

/-! ## Priority first, then the place in a list -/

/-- Of two rules the one has the higher priority, or the same and an earlier place in `order`. -/
def Precedes (order : List Rule) (a b : Rule) : Prop :=
  b.priority < a.priority ∨ a.priority = b.priority ∧ rank order a.id ≤ rank order b.id

/-- A rule stands where its id ranks. -/
theorem getElem?_rank (distinct : (rules.map (·.id)).Nodup) {r : Rule} (member : r ∈ rules) :
    rules[rank rules r.id]? = some r := by
  have hlt : rank rules r.id < rules.length := rank_lt_length_iff.mpr (List.mem_map_of_mem member)
  have hfound : (rules[rank rules r.id].id == r.id) = true :=
    List.findIdx_getElem (p := fun other : Rule => other.id == r.id) (w := hlt)
  rw [List.getElem?_eq_getElem hlt]
  exact congrArg some
    (List.inj_on_of_nodup_map distinct (List.getElem_mem hlt) member (eq_of_beq hfound))

/-- What holds of all rules in their order holds of two of which one ranks before the other. -/
theorem of_rank_lt {R : Rule → Rule → Prop} (distinct : (rules.map (·.id)).Nodup)
    (sorted : rules.Pairwise R) {a b : Rule} (ha : a ∈ rules) (hb : b ∈ rules)
    (before : rank rules a.id < rank rules b.id) : R a b := by
  obtain ⟨hlta, hgeta⟩ := List.getElem?_eq_some_iff.mp (getElem?_rank distinct ha)
  obtain ⟨hltb, hgetb⟩ := List.getElem?_eq_some_iff.mp (getElem?_rank distinct hb)
  have hrelated := List.pairwise_iff_getElem.mp sorted _ _ hlta hltb before
  rwa [hgeta, hgetb] at hrelated

theorem rank_eq_of_mem_zipIdx (distinct : (rules.map (·.id)).Nodup) {p : Rule × Nat}
    (member : p ∈ rules.zipIdx) : rank rules p.1.id = p.2 := by
  obtain ⟨hlt, hget⟩ := List.getElem?_eq_some_iff.mp (List.mem_zipIdx_iff_getElem?.mp member)
  have hapart : rules.Pairwise fun a b => a.id ≠ b.id := List.pairwise_map.mp distinct
  have hearlier : ∀ j (hj : j < p.2), (rules[j].id == p.1.id) = false := by
    intro j hj
    have hne := List.pairwise_iff_getElem.mp hapart j p.2 (by omega) hlt hj
    rw [hget] at hne
    exact beq_eq_false_iff_ne.mpr hne
  unfold rank
  rw [List.findIdx_eq hlt]
  refine ⟨?_, fun j hj => hearlier j hj⟩
  rw [hget]
  exact beq_self_eq_true _

/-- Sorting by priority leaves the rules of one priority as they stood. -/
theorem byPriority_precedes (distinct : (rules.map (·.id)).Nodup) :
    (byPriority rules).Pairwise (Precedes rules) := by
  let le (a b : Rule) : Bool := b.priority ≤ a.priority
  have htrans : ∀ a b c, le a b = true → le b c = true → le a c = true := by
    intro a b c hab hbc
    simp only [le, decide_eq_true_eq] at *
    omega
  have htotal : ∀ a b, (le a b || le b a) = true := by
    intro a b
    simp only [le, Bool.or_eq_true, decide_eq_true_eq]
    omega
  -- Sorting the rules together with their places makes stability visible.
  have hplaces : (rules.zipIdx.mergeSort (List.zipIdxLE le)).Pairwise
      (fun p q => List.zipIdxLE le p q = true) :=
    List.pairwise_mergeSort (List.zipIdxLE_trans htrans) (List.zipIdxLE_total htotal) _
  have hsorted : byPriority rules = (rules.zipIdx.mergeSort (List.zipIdxLE le)).map (·.1) :=
    List.mergeSort_zipIdx.symm
  rw [hsorted, List.pairwise_map]
  refine hplaces.imp_of_mem fun {p q} hp hq hpq => ?_
  have hrankp := rank_eq_of_mem_zipIdx distinct (List.mem_mergeSort.mp hp)
  have hrankq := rank_eq_of_mem_zipIdx distinct (List.mem_mergeSort.mp hq)
  unfold Precedes
  rw [hrankp, hrankq]
  simp only [List.zipIdxLE, le, decide_eq_true_eq] at hpq
  split at hpq
  · split at hpq
    · rw [decide_eq_true_eq] at hpq
      omega
    · omega
  · cases hpq

theorem ranked_precedes (order rules : List Rule) :
    (Engine.ranked order rules).Pairwise (Precedes order) := by
  unfold Engine.ranked Precedes rank
  refine (List.pairwise_mergeSort ?_ ?_ rules).imp ?_
  · intro a b c hab hbc
    simp only [Bool.or_eq_true, Bool.and_eq_true, decide_eq_true_eq, beq_iff_eq] at *
    omega
  · intro a b
    simp only [Bool.or_eq_true, Bool.and_eq_true, decide_eq_true_eq, beq_iff_eq]
    omega
  · intro a b h
    simpa only [Bool.or_eq_true, Bool.and_eq_true, decide_eq_true_eq, beq_iff_eq] using h

/-- Rules that stand in the order are left where they are. -/
theorem ranked_of_precedes {order : List Rule} (sorted : rules.Pairwise (Precedes order)) :
    Engine.ranked order rules = rules := by
  unfold Engine.ranked
  refine List.mergeSort_of_pairwise (sorted.imp fun {a b} h => ?_)
  unfold Precedes rank at h
  simpa only [Bool.or_eq_true, Bool.and_eq_true, decide_eq_true_eq, beq_iff_eq] using h

/-- There is one way only in which rules can stand in the order. -/
theorem eq_of_precedes {order : List Rule} (perm : rules.Perm others)
    (distinct : (rules.map (·.id)).Nodup)
    (listed : ∀ r ∈ rules, r.id ∈ order.map (·.id))
    (sorted : rules.Pairwise (Precedes order)) (sorted' : others.Pairwise (Precedes order)) :
    rules = others := by
  refine perm.eq_of_pairwise ?_ sorted sorted'
  intro a b ha hb hab hba
  have hb : b ∈ rules := perm.mem_iff.mpr hb
  have hrank : rank order a.id = rank order b.id := by
    rcases hab with hab | ⟨hab, hplace⟩
    · rcases hba with hba | ⟨hba, -⟩ <;> omega
    · rcases hba with hba | ⟨-, hplace'⟩
      · omega
      · exact Nat.le_antisymm hplace hplace'
  have hid : a.id = b.id := eq_of_rank_eq (listed a ha) (listed b hb) hrank
  exact List.inj_on_of_nodup_map distinct ha hb hid

end Rule

end VesselWatch
