/-
  Proofs/Engine/Suppression.lean --- what is left of any alerts.

  Here nothing is asked of the alerts: several of them may name one rule, and some may name
  none.  Nor is anything asked of the rules, which may come in any order and share ids.

  TWO NOTIONS OF THE RULE OF AN ALERT.  An alert ranks by the first rule with its id, be it
  exclusive or not; it is heard above the others if any rule with its id is exclusive
  (`winner?`).  The two never get in each other's way: of one id all alerts rank alike, so that
  the alerts of the winner come out in the order in which they came in (`filter_byRank`), and
  which rule wins depends on nothing but the ids of the alerts (`winner?_of_subset`).
-/
import VesselWatch.Proofs.Engine.Exclusive
import Mathlib.Data.List.Perm.Basic

set_option autoImplicit false

namespace VesselWatch

variable {rules : List Rule} {alerts others : List Alert}

/-! ## Alerts in the order of their rules -/

/-- Alerts of one rank keep their order. -/
theorem filter_byRank {picks : Alert → Bool}
    (level : ∀ a b, picks a = true → picks b = true → rank rules a.ruleId = rank rules b.ruleId) :
    (byRank rules alerts).filter picks = alerts.filter picks := by
  have hperm : ((byRank rules alerts).filter picks).Perm (alerts.filter picks) :=
    (byRank_perm rules alerts).filter picks
  -- The picked alerts stand by rank as they are, and sorting does not disturb what is in order.
  have hlevel : (alerts.filter picks).Pairwise fun a b =>
      decide (rank rules a.ruleId ≤ rank rules b.ruleId) = true := by
    refine List.pairwise_of_forall_mem_list fun a ha b hb => decide_eq_true ?_
    exact Nat.le_of_eq (level a b (List.mem_filter.mp ha).2 (List.mem_filter.mp hb).2)
  have hsublist : (alerts.filter picks).Sublist (byRank rules alerts) :=
    List.sublist_mergeSort rank_le_trans rank_le_total hlevel List.filter_sublist
  have hpicked := hsublist.filter picks
  simp only [List.filter_filter, Bool.and_self] at hpicked
  exact (hpicked.eq_of_length hperm.length_eq.symm).symm

theorem byRank_of_sorted
    (sorted : alerts.Pairwise fun a b => rank rules a.ruleId ≤ rank rules b.ruleId) :
    byRank rules alerts = alerts :=
  List.mergeSort_of_pairwise (sorted.imp fun h => decide_eq_true h)

/-- Behind an alert that names no rule there are only such alerts. -/
theorem byRank_unknown_last :
    (byRank rules alerts).Pairwise fun a b =>
      a.ruleId ∉ rules.map (·.id) → b.ruleId ∉ rules.map (·.id) := by
  refine (byRank_sorted rules alerts).imp fun {a b} h unknown known => ?_
  rw [rank_eq_length unknown] at h
  exact Nat.not_lt.mpr h (rank_lt_length_iff.mpr known)

/-- Alerts of different rules stand in one order only. -/
theorem byRank_eq_of_perm (perm : others.Perm alerts) (distinct : (alerts.map (·.ruleId)).Nodup)
    (known : ∀ a ∈ alerts, a.ruleId ∈ rules.map (·.id)) :
    byRank rules others = byRank rules alerts := by
  have hperm : (byRank rules others).Perm (byRank rules alerts) :=
    ((byRank_perm rules others).trans perm).trans (byRank_perm rules alerts).symm
  refine hperm.eq_of_pairwise ?_ (byRank_sorted rules others) (byRank_sorted rules alerts)
  intro a b ha hb hab hba
  have ha' : a ∈ alerts := perm.mem_iff.mp ((byRank_perm rules others).mem_iff.mp ha)
  have hb' : b ∈ alerts := (byRank_perm rules alerts).mem_iff.mp hb
  have hid : a.ruleId = b.ruleId :=
    eq_of_rank_eq (known a ha') (known b hb') (Nat.le_antisymm hab hba)
  exact List.inj_on_of_nodup_map distinct ha' hb' hid

/-! ## The winner -/

theorem any_ruleId_iff {id : String} :
    (alerts.any fun a => a.ruleId == id) = true ↔ id ∈ alerts.map (·.ruleId) := by
  rw [List.any_eq_true, List.mem_map]
  simp only [beq_iff_eq]

/-- The winner is the first of the exclusive rules that have an alert. -/
theorem winner?_eq_some_iff {r : Rule} :
    winner? rules alerts = some r ↔
      ∃ before after, rules = before ++ r :: after ∧ r.exclusive = true ∧
        r.id ∈ alerts.map (·.ruleId) ∧
        ∀ other ∈ before, other.exclusive = true → other.id ∉ alerts.map (·.ruleId) := by
  unfold winner?
  rw [List.find?_eq_some_iff_append]
  simp only [Bool.and_eq_true, any_ruleId_iff, Bool.not_eq_true', ← Bool.not_eq_true, not_and]
  constructor
  · rintro ⟨⟨hexclusive, hraised⟩, before, after, heq, hbefore⟩
    exact ⟨before, after, heq, hexclusive, hraised, hbefore⟩
  · rintro ⟨before, after, heq, hexclusive, hraised, hbefore⟩
    exact ⟨⟨hexclusive, hraised⟩, before, after, heq, hbefore⟩

theorem winner?_eq_none_iff :
    winner? rules alerts = none ↔
      ∀ r ∈ rules, r.exclusive = true → r.id ∉ alerts.map (·.ruleId) := by
  unfold winner?
  rw [List.find?_eq_none]
  simp only [Bool.and_eq_true, any_ruleId_iff, not_and]

/-- The winner wins also where fewer alerts are pushed, as long as there is one of its own. -/
theorem winner?_of_subset {r : Rule} (wins : winner? rules alerts = some r)
    (subset : others ⊆ alerts) (raised : r.id ∈ others.map (·.ruleId)) :
    winner? rules others = some r := by
  obtain ⟨before, after, heq, hexclusive, -, hbefore⟩ := winner?_eq_some_iff.mp wins
  refine winner?_eq_some_iff.mpr ⟨before, after, heq, hexclusive, raised, ?_⟩
  intro other hother hexclusive' hraised
  exact hbefore other hother hexclusive' (List.map_subset _ subset hraised)

theorem winner?_perm (perm : others.Perm alerts) : winner? rules others = winner? rules alerts := by
  have hraised : ∀ id, id ∈ others.map (·.ruleId) ↔ id ∈ alerts.map (·.ruleId) := fun id =>
    (perm.map _).mem_iff
  cases hwinner : winner? rules alerts with
  | none =>
    rw [winner?_eq_none_iff] at hwinner ⊢
    exact fun r hr hexclusive => mt (hraised r.id).mp (hwinner r hr hexclusive)
  | some r =>
    obtain ⟨-, -, -, -, hr, -⟩ := winner?_eq_some_iff.mp hwinner
    exact winner?_of_subset hwinner perm.subset ((hraised r.id).mpr hr)

/-! ## What is left -/

theorem resolveExclusive_of_winner {r : Rule} (wins : winner? rules alerts = some r) :
    resolveExclusive rules alerts = alerts.filter fun a => a.ruleId == r.id := by
  unfold resolveExclusive
  rw [wins]
  refine filter_byRank fun a b ha hb => ?_
  rw [eq_of_beq ha, eq_of_beq hb]

theorem resolveExclusive_of_no_winner (none : winner? rules alerts = none) :
    resolveExclusive rules alerts = byRank rules alerts := by
  unfold resolveExclusive
  rw [none]

/-- Nothing is left that was not there. -/
theorem subperm_resolveExclusive (rules : List Rule) (alerts : List Alert) :
    (resolveExclusive rules alerts).Subperm alerts := by
  cases hwinner : winner? rules alerts with
  | none =>
    rw [resolveExclusive_of_no_winner hwinner]
    exact (byRank_perm rules alerts).subperm
  | some r =>
    rw [resolveExclusive_of_winner hwinner]
    exact List.filter_sublist.subperm

/-- What is left stays when it is resolved once more. -/
theorem resolveExclusive_idem (rules : List Rule) (alerts : List Alert) :
    resolveExclusive rules (resolveExclusive rules alerts) = resolveExclusive rules alerts := by
  cases hwinner : winner? rules alerts with
  | none =>
    have hagain : winner? rules (byRank rules alerts) = none :=
      (winner?_perm (byRank_perm rules alerts)).trans hwinner
    rw [resolveExclusive_of_no_winner hwinner, resolveExclusive_of_no_winner hagain]
    exact byRank_of_sorted (byRank_sorted rules alerts)
  | some r =>
    obtain ⟨-, -, -, -, hraised, -⟩ := winner?_eq_some_iff.mp hwinner
    obtain ⟨a, ha, hid⟩ := List.mem_map.mp hraised
    have hkept : r.id ∈ (alerts.filter fun a => a.ruleId == r.id).map (·.ruleId) :=
      List.mem_map.mpr ⟨a, List.mem_filter.mpr ⟨ha, beq_iff_eq.mpr hid⟩, hid⟩
    have hagain := winner?_of_subset hwinner (List.filter_subset_self _) hkept
    rw [resolveExclusive_of_winner hwinner, resolveExclusive_of_winner hagain]
    simp only [List.filter_filter, Bool.and_self]

/-- Where an exclusive rule has an alert, the alerts with the id of the first such rule are left, in
the order in which they were pushed.  Where none has, all are left, in the order of the first rules
with their ids and those of unknown rules last, such as stand equal in the order in which they were
pushed.  Either way nothing is left that was not pushed, and what is left stays.  Alerts of
different known rules may be pushed in any order. -/
theorem resolveExclusive_leaves (rules : List Rule) (alerts : List Alert) :
    let left := resolveExclusive rules alerts
    let raised := alerts.map (·.ruleId)
    let known := rules.map (·.id)
    ((∃ r ∈ rules, r.exclusive = true ∧ r.id ∈ raised) →
      ∃ before r after, rules = before ++ r :: after ∧ r.exclusive = true ∧ r.id ∈ raised ∧
        (∀ other ∈ before, other.exclusive = true → other.id ∉ raised) ∧
        left = alerts.filter fun a => a.ruleId == r.id) ∧
    ((∀ r ∈ rules, r.exclusive = true → r.id ∉ raised) →
      left.Perm alerts ∧
      left.Pairwise (fun a b => rank rules a.ruleId ≤ rank rules b.ruleId) ∧
      (∀ place, (left.filter fun a => rank rules a.ruleId == place) =
        alerts.filter fun a => rank rules a.ruleId == place) ∧
      left.Pairwise fun a b => a.ruleId ∉ known → b.ruleId ∉ known) ∧
    resolveExclusive rules left = left ∧
    left.Subperm alerts ∧
    (raised.Nodup → (∀ id ∈ raised, id ∈ known) →
      ∀ others : List Alert, others.Perm alerts → resolveExclusive rules others = left) := by
  intro left raised known
  refine ⟨?_, ?_, resolveExclusive_idem rules alerts, subperm_resolveExclusive rules alerts, ?_⟩
  · rintro ⟨r, hr, hexclusive, hraised⟩
    cases hwinner : winner? rules alerts with
    | none => exact absurd hraised (winner?_eq_none_iff.mp hwinner r hr hexclusive)
    | some first =>
      obtain ⟨before, after, heq, hfirst, hheard, hbefore⟩ := winner?_eq_some_iff.mp hwinner
      exact ⟨before, first, after, heq, hfirst, hheard, hbefore, resolveExclusive_of_winner hwinner⟩
  · intro silent
    have hleft : left = byRank rules alerts :=
      resolveExclusive_of_no_winner (winner?_eq_none_iff.mpr silent)
    rw [hleft]
    refine ⟨byRank_perm rules alerts, byRank_sorted rules alerts, ?_, byRank_unknown_last⟩
    intro place
    refine filter_byRank fun a b ha hb => ?_
    rw [eq_of_beq ha, eq_of_beq hb]
  · intro distinct listed others perm
    have hwinner : winner? rules others = winner? rules alerts := winner?_perm perm
    have horder : byRank rules others = byRank rules alerts := by
      refine byRank_eq_of_perm perm distinct fun a ha => ?_
      exact listed a.ruleId (List.mem_map_of_mem ha)
    simp only [left, resolveExclusive, hwinner, horder]

/-- An id that a plain rule shares with an exclusive one behind it, an exclusive rule without an
alert, and alerts that name no rule. -/
theorem resolveExclusive_leaves_shared_id :
    let rule (id : String) (exclusive : Bool) : Rule :=
      { (default : Rule) with id := id, exclusive := exclusive }
    let alert (ruleId eventId : String) : Alert :=
      { (default : Alert) with ruleId := ruleId, eventId := eventId }
    let rules := [rule "b" false, rule "x" true, rule "a" false, rule "a" true]
    let heard := [alert "b" "1", alert "a" "2", alert "?" "3", alert "a" "4"]
    let plain := [alert "?" "1", alert "b" "2", alert "!" "3", alert "b" "4"]
    let single := [alert "a" "1", alert "b" "2"]
    ((∃ r ∈ rules, r.exclusive = true ∧ r.id ∈ heard.map (·.ruleId)) ∧
      resolveExclusive rules heard = [alert "a" "2", alert "a" "4"]) ∧
    ((∀ r ∈ rules, r.exclusive = true → r.id ∉ plain.map (·.ruleId)) ∧
      ((resolveExclusive rules plain).filter fun a => rank rules a.ruleId == 4) =
        [alert "?" "1", alert "!" "3"]) ∧
    ((single.map (·.ruleId)).Nodup ∧
      resolveExclusive rules single.reverse = resolveExclusive rules single) := by
  intro rule alert rules heard plain single
  have hheard : ∃ r ∈ rules, r.exclusive = true ∧ r.id ∈ heard.map (·.ruleId) :=
    ⟨rule "a" true, by simp [rules], rfl, by decide⟩
  have hplain : ∀ r ∈ rules, r.exclusive = true → r.id ∉ plain.map (·.ruleId) := by
    simp [rules, rule, plain, alert]
  have hsingle : (single.map (·.ruleId)).Nodup := by decide
  refine ⟨⟨hheard, ?_⟩, ⟨hplain, ?_⟩, hsingle, ?_⟩
  · obtain ⟨before, r, after, heq, hexclusive, hraised, -, hleft⟩ :=
      (resolveExclusive_leaves rules heard).1 hheard
    have hid : r.id = "a" := by
      have hr : r ∈ rules := by simp [heq]
      simp only [rules, List.mem_cons, List.not_mem_nil, or_false] at hr
      rcases hr with rfl | rfl | rfl | rfl
      · cases hexclusive
      · exact absurd hraised (by decide)
      · rfl
      · rfl
    rw [hleft, hid]
    decide
  · obtain ⟨-, -, hlevel, -⟩ := (resolveExclusive_leaves rules plain).2.1 hplain
    rw [hlevel]
    decide
  · exact (resolveExclusive_leaves rules single).2.2.2.2 hsingle (by decide) _
      (List.reverse_perm single)

end VesselWatch
