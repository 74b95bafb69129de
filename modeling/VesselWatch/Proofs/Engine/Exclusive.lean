/-
  Proofs/Engine/Exclusive.lean --- which alerts are left.

  Alerts reach the engine in the order in which the workers finish.  Where each
  matching rule has raised one alert, what is left of them depends on the rules only:
  `resolveExclusive_raised`.
-/
import VesselWatch.Engine.Exclusive
import VesselWatch.Proofs.Engine.Rules

set_option autoImplicit false

namespace VesselWatch

/-- The first exclusive rule alone, or all rules if none of them is exclusive. -/
def Rule.survivors (matched : List Rule) : List Rule :=
  match matched.find? (·.exclusive) with
  | some r => [r]
  | none => matched

variable {rules : List Rule}

/-! ## Ranks -/

theorem rank_cons_self (r : Rule) (rest : List Rule) : rank (r :: rest) r.id = 0 := by
  simp [rank, List.findIdx_cons]

theorem rank_cons_of_ne {r : Rule} {id : String} (other : r.id ≠ id) (rest : List Rule) :
    rank (r :: rest) id = rank rest id + 1 := by
  have hbeq : (r.id == id) = false := beq_eq_false_iff_ne.mpr other
  simp [rank, List.findIdx_cons, hbeq]

theorem rank_injective {a b : Rule} (ha : a ∈ rules) (hb : b ∈ rules)
    (same : rank rules a.id = rank rules b.id) : a.id = b.id := by
  induction rules with
  | nil => cases ha
  | cons r rest ih =>
    by_cases hra : r.id = a.id
    · by_cases hrb : r.id = b.id
      · exact hra.symm.trans hrb
      · rw [← hra, rank_cons_self, rank_cons_of_ne hrb] at same
        omega
    · by_cases hrb : r.id = b.id
      · rw [← hrb, rank_cons_self, rank_cons_of_ne hra] at same
        omega
      · rw [rank_cons_of_ne hra, rank_cons_of_ne hrb] at same
        have ha' : a ∈ rest := (List.mem_cons.mp ha).resolve_left fun h => hra (h ▸ rfl)
        have hb' : b ∈ rest := (List.mem_cons.mp hb).resolve_left fun h => hrb (h ▸ rfl)
        exact ih ha' hb' (by omega)

theorem rank_lt_length_iff {id : String} : rank rules id < rules.length ↔ id ∈ rules.map (·.id) := by
  unfold rank
  rw [List.findIdx_lt_length, List.mem_map]
  simp only [beq_iff_eq]

theorem rank_eq_length {id : String} (unknown : id ∉ rules.map (·.id)) :
    rank rules id = rules.length :=
  Nat.le_antisymm List.findIdx_le_length (Nat.le_of_not_lt (mt rank_lt_length_iff.mp unknown))

theorem eq_of_rank_eq {id other : String} (known : id ∈ rules.map (·.id))
    (known' : other ∈ rules.map (·.id)) (same : rank rules id = rank rules other) : id = other := by
  obtain ⟨r, hr, rfl⟩ := List.mem_map.mp known
  obtain ⟨r', hr', rfl⟩ := List.mem_map.mp known'
  exact rank_injective hr hr' same

theorem pairwise_rank (distinct : (rules.map (·.id)).Nodup) :
    rules.Pairwise fun a b => rank rules a.id ≤ rank rules b.id := by
  induction rules with
  | nil => exact List.Pairwise.nil
  | cons r rest ih =>
    rw [List.map_cons, List.nodup_cons] at distinct
    obtain ⟨hr, hrest⟩ := distinct
    have hne : ∀ a ∈ rest, r.id ≠ a.id := fun a ha h => hr (h ▸ List.mem_map_of_mem ha)
    refine List.Pairwise.cons ?_ ((ih hrest).imp_of_mem ?_)
    · intro a _
      rw [rank_cons_self]
      exact Nat.zero_le _
    · intro a b ha hb hab
      rw [rank_cons_of_ne (hne a ha), rank_cons_of_ne (hne b hb)]
      omega

/-! ## Alerts by rank -/

theorem byRank_perm (rules : List Rule) (alerts : List Alert) :
    (byRank rules alerts).Perm alerts :=
  List.mergeSort_perm _ _

/-- The comparison of alerts by rank is transitive. -/
theorem rank_le_trans (a b c : Alert) :
    decide (rank rules a.ruleId ≤ rank rules b.ruleId) = true →
      decide (rank rules b.ruleId ≤ rank rules c.ruleId) = true →
      decide (rank rules a.ruleId ≤ rank rules c.ruleId) = true := by
  simp only [decide_eq_true_eq]
  exact Nat.le_trans

/-- The comparison of alerts by rank is total. -/
theorem rank_le_total (a b : Alert) :
    (decide (rank rules a.ruleId ≤ rank rules b.ruleId) ||
      decide (rank rules b.ruleId ≤ rank rules a.ruleId)) = true := by
  simp only [Bool.or_eq_true, decide_eq_true_eq]
  exact Nat.le_total _ _

theorem byRank_sorted (rules : List Rule) (alerts : List Alert) :
    (byRank rules alerts).Pairwise fun a b => rank rules a.ruleId ≤ rank rules b.ruleId :=
  (List.pairwise_mergeSort rank_le_trans rank_le_total alerts).imp fun h => of_decide_eq_true h

/-! ## Alerts of the matching rules -/

section Raised

variable {matches? : Rule → Bool} {raise : Rule → Alert} {alerts : List Alert}

/-- Sorted by rank, the alerts stand in the order of the rules that raised them. -/
theorem byRank_raised (distinct : (rules.map (·.id)).Nodup)
    (ruleId_raise : ∀ r, (raise r).ruleId = r.id)
    (perm : alerts.Perm ((rules.filter matches?).map raise)) :
    byRank rules alerts = (rules.filter matches?).map raise := by
  have hsorted := byRank_sorted rules alerts
  have hraised : ((rules.filter matches?).map raise).Pairwise
      fun a b => rank rules a.ruleId ≤ rank rules b.ruleId := by
    rw [List.pairwise_map]
    simp only [ruleId_raise]
    exact (pairwise_rank distinct).sublist List.filter_sublist
  have hperm : (byRank rules alerts).Perm ((rules.filter matches?).map raise) :=
    (byRank_perm rules alerts).trans perm
  -- Two sorted lists with the same alerts are the same, as no two of these have one rank.
  refine hperm.eq_of_pairwise ?_ hsorted hraised
  intro a b ha hb hab hba
  obtain ⟨r, hr, rfl⟩ := List.mem_map.mp (hperm.mem_iff.mp ha)
  obtain ⟨r', hr', rfl⟩ := List.mem_map.mp hb
  rw [ruleId_raise, ruleId_raise] at hab hba
  have hid := rank_injective (List.mem_of_mem_filter hr) (List.mem_of_mem_filter hr')
    (Nat.le_antisymm hab hba)
  have hsame : r = r' := List.inj_on_of_nodup_map distinct (List.mem_of_mem_filter hr)
    (List.mem_of_mem_filter hr') hid
  rw [hsame]

theorem any_raised (distinct : (rules.map (·.id)).Nodup)
    (ruleId_raise : ∀ r, (raise r).ruleId = r.id)
    (perm : alerts.Perm ((rules.filter matches?).map raise)) {r : Rule} (member : r ∈ rules) :
    (alerts.any fun a => a.ruleId == r.id) = matches? r := by
  rw [Bool.eq_iff_iff, List.any_eq_true]
  constructor
  · rintro ⟨a, ha, hid⟩
    obtain ⟨r', hr', rfl⟩ := List.mem_map.mp (perm.mem_iff.mp ha)
    rw [ruleId_raise] at hid
    obtain ⟨member', hmatch⟩ := List.mem_filter.mp hr'
    have hsame : r' = r := List.inj_on_of_nodup_map distinct member' member (eq_of_beq hid)
    exact hsame ▸ hmatch
  · intro hmatch
    refine ⟨raise r, perm.mem_iff.mpr (List.mem_map_of_mem (List.mem_filter.mpr ⟨member, hmatch⟩)),
      ?_⟩
    rw [ruleId_raise]
    exact beq_self_eq_true _

/-- There is an alert of an id if the rule that it names matches. -/
theorem any_raised_named (distinct : (rules.map (·.id)).Nodup)
    (ruleId_raise : ∀ r, (raise r).ruleId = r.id)
    (perm : alerts.Perm ((rules.filter matches?).map raise)) (id : String) :
    (alerts.any fun a => a.ruleId == id) = (Rule.named id rules).any matches? := by
  cases hnamed : Rule.named id rules with
  | some r =>
    rw [← Rule.id_of_named hnamed]
    exact any_raised distinct ruleId_raise perm (Rule.mem_of_named hnamed)
  | none =>
    rw [Option.any_none, List.any_eq_false]
    intro a ha hid
    obtain ⟨r, hr, rfl⟩ := List.mem_map.mp (perm.mem_iff.mp ha)
    rw [ruleId_raise, beq_iff_eq] at hid
    exact Rule.named_eq_none_iff.mp hnamed
      (hid ▸ List.mem_map_of_mem (List.mem_of_mem_filter hr))

theorem winner?_raised (distinct : (rules.map (·.id)).Nodup)
    (ruleId_raise : ∀ r, (raise r).ruleId = r.id)
    (perm : alerts.Perm ((rules.filter matches?).map raise)) :
    winner? rules alerts = (rules.filter matches?).find? (·.exclusive) := by
  unfold winner?
  rw [← List.head?_filter, ← List.head?_filter, List.filter_filter]
  congr 1
  refine List.filter_congr fun r hr => ?_
  rw [any_raised distinct ruleId_raise perm hr]

theorem filter_id_eq_single (distinct : (rules.map (·.id)).Nodup) {r : Rule} (member : r ∈ rules) :
    (rules.filter fun a => a.id == r.id) = [r] := by
  induction rules with
  | nil => cases member
  | cons first rest ih =>
    rw [List.map_cons, List.nodup_cons] at distinct
    obtain ⟨hfirst, hrest⟩ := distinct
    rcases List.mem_cons.mp member with rfl | hr
    · rw [List.filter_cons_of_pos (by simp), List.filter_eq_nil_iff.mpr]
      intro a ha hid
      exact hfirst (eq_of_beq hid ▸ List.mem_map_of_mem ha)
    · have hne : first.id ≠ r.id := fun h => hfirst (h ▸ List.mem_map_of_mem hr)
      rw [List.filter_cons_of_neg (by simpa using hne)]
      exact ih hrest hr

/-- The alerts that are left are those of the surviving rules in the order of the rules, whatever
order they were pushed in. -/
theorem resolveExclusive_raised (distinct : (rules.map (·.id)).Nodup)
    (ruleId_raise : ∀ r, (raise r).ruleId = r.id)
    (perm : alerts.Perm ((rules.filter matches?).map raise)) :
    resolveExclusive rules alerts = (Rule.survivors (rules.filter matches?)).map raise := by
  unfold resolveExclusive Rule.survivors
  rw [byRank_raised distinct ruleId_raise perm, winner?_raised distinct ruleId_raise perm]
  cases hwinner : (rules.filter matches?).find? (·.exclusive) with
  | none => rfl
  | some r =>
    have member : r ∈ rules.filter matches? := List.mem_of_find?_eq_some hwinner
    have hleft := filter_id_eq_single (Rule.nodup_ids_filter matches? distinct) member
    simp only [List.filter_map, Function.comp_def, ruleId_raise, hleft, List.map_cons,
      List.map_nil]

end Raised

end VesselWatch
