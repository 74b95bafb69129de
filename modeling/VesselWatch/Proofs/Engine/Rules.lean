/-
  Proofs/Engine/Rules.lean --- the rules of an engine, by id.

  What later files need of a list of rules is its row of ids, the rule that an id
  names (`Rule.named`) and the order of priorities.  The operations on lists of rules
  are described by these; where ids are distinct, the order of a list does not matter
  to what an id names (`named_perm`).
-/
import VesselWatch.Engine.Update
import VesselWatch.Proofs.Assoc
import Mathlib.Tactic.Tauto

set_option autoImplicit false

namespace VesselWatch

namespace Rule

/-- The rule that an id names. -/
def named (id : String) (rules : List Rule) : Option Rule := rules.find? fun r => r.id == id

variable {rules : List Rule}

theorem mem_of_named {id : String} {r : Rule} (found : named id rules = some r) : r ∈ rules :=
  List.mem_of_find?_eq_some found

theorem id_of_named {id : String} {r : Rule} (found : named id rules = some r) : r.id = id := by
  unfold named at found
  simpa using List.find?_some found

theorem named_eq_none_iff {id : String} : named id rules = none ↔ id ∉ rules.map (·.id) := by
  unfold named
  rw [List.find?_eq_none, List.mem_map]
  constructor
  · rintro absent ⟨r, hr, rfl⟩
    exact absent r hr (beq_self_eq_true _)
  · intro absent r hr heq
    exact absent ⟨r, hr, eq_of_beq heq⟩

theorem named_isSome_iff {id : String} : (named id rules).isSome ↔ id ∈ rules.map (·.id) := by
  rw [Option.isSome_iff_ne_none, ne_eq, named_eq_none_iff, not_not]

/-- Where ids are distinct, a rule of the list is what its id names. -/
theorem named_eq_some_iff (distinct : (rules.map (·.id)).Nodup) {id : String} {r : Rule} :
    named id rules = some r ↔ r ∈ rules ∧ r.id = id := by
  refine ⟨fun found => ⟨mem_of_named found, id_of_named found⟩, ?_⟩
  rintro ⟨member, rfl⟩
  cases hfound : named r.id rules with
  | none => exact absurd (List.mem_map_of_mem member) (named_eq_none_iff.mp hfound)
  | some other =>
    have hsame := List.inj_on_of_nodup_map distinct (mem_of_named hfound) member
      (id_of_named hfound)
    rw [hsame]

/-- The order of a list with distinct ids does not matter to what an id names. -/
theorem named_perm {others : List Rule} (perm : rules.Perm others)
    (distinct : (rules.map (·.id)).Nodup) (id : String) : named id rules = named id others := by
  have distinct' : (others.map (·.id)).Nodup := (perm.map _).nodup distinct
  ext r
  rw [named_eq_some_iff distinct, named_eq_some_iff distinct', perm.mem_iff]

theorem nodup_ids_filter (keep : Rule → Bool) (distinct : (rules.map (·.id)).Nodup) :
    ((rules.filter keep).map (·.id)).Nodup :=
  distinct.sublist (List.filter_sublist.map _)

theorem named_filter (keep : Rule → Bool) (distinct : (rules.map (·.id)).Nodup) (id : String) :
    named id (rules.filter keep) = (named id rules).filter keep := by
  ext r
  rw [named_eq_some_iff (nodup_ids_filter keep distinct), Option.filter_eq_some_iff,
    named_eq_some_iff distinct, List.mem_filter]
  tauto

theorem named_append_single (r : Rule) (id : String) :
    named id (rules ++ [r]) = (named id rules).or (if r.id = id then some r else none) := by
  unfold named
  rw [List.find?_append]
  by_cases h : r.id = id
  · simp [h]
  · simp [h, beq_eq_false_iff_ne.mpr h]

theorem named_filter_ids (keep : String → Bool) (id : String) :
    named id (rules.filter fun r => keep r.id) = if keep id then named id rules else none := by
  unfold named
  induction rules with
  | nil => simp
  | cons r rest ih =>
    by_cases hid : r.id = id
    · subst hid
      by_cases hkeep : keep r.id
      · simp [hkeep]
      · simpa [hkeep] using ih
    · have hbeq : (r.id == id) = false := beq_eq_false_iff_ne.mpr hid
      by_cases hkeep : keep r.id
      · simpa [hkeep, List.find?_cons, hbeq] using ih
      · simpa [hkeep, List.find?_cons, hbeq] using ih

/-! ## Sorting -/

theorem byPriority_perm (rules : List Rule) : (byPriority rules).Perm rules :=
  List.mergeSort_perm _ _

/-- Each rule comes behind those of higher priority. -/
def Descending (rules : List Rule) : Prop := rules.Pairwise fun a b => b.priority ≤ a.priority

theorem byPriority_descending (rules : List Rule) : Descending (byPriority rules) := by
  refine (List.pairwise_mergeSort ?_ ?_ rules).imp fun h => of_decide_eq_true h
  · intro a b c hab hbc
    rw [decide_eq_true_eq] at *
    exact Int.le_trans hbc hab
  · intro a b
    rw [Bool.or_eq_true, decide_eq_true_eq, decide_eq_true_eq]
    exact Int.le_total _ _

/-- Rules that stand by descending priority are left where they are. -/
theorem byPriority_of_descending (sorted : Descending rules) : byPriority rules = rules :=
  List.mergeSort_of_pairwise (sorted.imp fun h => decide_eq_true h)

/-! ## Reducing a list to distinct ids -/

theorem id_eq_key_of_mem_ofList {p : String × Rule} {rules : List Rule}
    (member : p ∈ Assoc.ofList (rules.map fun r => (r.id, r))) : p.2.id = p.1 := by
  obtain ⟨r, _, rfl⟩ := List.mem_map.mp (Assoc.mem_of_mem_ofList member)
  rfl

theorem ids_distinct (rules : List Rule) :
    (distinct rules).map (·.id) =
      (Assoc.ofList (rules.map fun r => (r.id, r))).map (·.1) := by
  unfold distinct
  rw [List.map_map]
  exact List.map_congr_left fun p hp => id_eq_key_of_mem_ofList hp

theorem nodup_ids_distinct (rules : List Rule) : ((distinct rules).map (·.id)).Nodup := by
  rw [ids_distinct]
  exact Assoc.nodup_keys_ofList _

/-- The last definition of an id in a list. -/
def lastNamed (id : String) (rules : List Rule) : Option Rule :=
  (rules.filter fun r => r.id == id).getLast?

theorem lastNamed_append_single (r : Rule) (id : String) :
    lastNamed id (rules ++ [r]) = if r.id = id then some r else lastNamed id rules := by
  unfold lastNamed
  by_cases hid : r.id = id
  · simp [List.filter_append, hid]
  · simp [List.filter_append, hid]

theorem lastNamed_eq_named (distinct : (rules.map (·.id)).Nodup) (id : String) :
    lastNamed id rules = named id rules := by
  unfold lastNamed
  cases hlast : (rules.filter fun r => r.id == id).getLast? with
  | none =>
    rw [List.getLast?_eq_none_iff, List.filter_eq_nil_iff] at hlast
    refine (named_eq_none_iff.mpr fun member => ?_).symm
    obtain ⟨r, hr, hid⟩ := List.mem_map.mp member
    exact hlast r hr (beq_iff_eq.mpr hid)
  | some r =>
    obtain ⟨hr, hid⟩ := List.mem_filter.mp (List.mem_of_getLast? hlast)
    exact ((named_eq_some_iff distinct).mpr ⟨hr, eq_of_beq hid⟩).symm

theorem named_distinct (id : String) (rules : List Rule) :
    named id (distinct rules) = lastNamed id rules := by
  have hlast : lastNamed id rules = (Assoc.ofList (rules.map fun r => (r.id, r))).lookup id := by
    rw [Assoc.lookup_ofList]
    simp [lastNamed, List.filter_map, Function.comp_def]
  rw [hlast]
  ext r
  rw [named_eq_some_iff (nodup_ids_distinct rules),
    Assoc.lookup_eq_some_iff_mem (Assoc.nodup_keys_ofList _)]
  constructor
  · rintro ⟨member, rfl⟩
    obtain ⟨p, hp, rfl⟩ := List.mem_map.mp member
    rw [id_eq_key_of_mem_ofList hp]
    exact hp
  · intro member
    exact ⟨List.mem_map.mpr ⟨_, member, rfl⟩, id_eq_key_of_mem_ofList member⟩

end Rule

namespace Engine

open Rule

variable {rules : List Rule}

theorem ids_replaceRule (r : Rule) : (replaceRule r rules).map (·.id) = rules.map (·.id) := by
  induction rules with
  | nil => rfl
  | cons old rest ih =>
    by_cases h : old.id = r.id
    · simp [replaceRule, h]
    · simp [replaceRule, h, ih]

theorem named_replaceRule {r : Rule} (present : r.id ∈ rules.map (·.id)) (id : String) :
    named id (replaceRule r rules) = if r.id = id then some r else named id rules := by
  unfold named
  induction rules with
  | nil => simp at present
  | cons old rest ih =>
    by_cases hold : old.id = r.id
    · by_cases hid : r.id = id
      · simp [replaceRule, hold, hid]
      · have hbeq : (r.id == id) = false := beq_eq_false_iff_ne.mpr hid
        simp [replaceRule, hold, hid, hbeq]
    · have hrest : r.id ∈ rest.map (·.id) := by
        rw [List.map_cons, List.mem_cons] at present
        exact present.resolve_left fun h => hold h.symm
      by_cases hid : old.id = id
      · subst hid
        have hne : ¬ r.id = old.id := fun h => hold h.symm
        simp [replaceRule, hold, hne]
      · have hbeq : (old.id == id) = false := beq_eq_false_iff_ne.mpr hid
        simpa [replaceRule, hold, List.find?_cons, hbeq] using ih hrest

/-! ## Ranking -/

theorem ranked_perm (order rules : List Rule) : (ranked order rules).Perm rules :=
  List.mergeSort_perm _ _

theorem ranked_descending (order rules : List Rule) : Descending (ranked order rules) := by
  refine (List.pairwise_mergeSort ?_ ?_ rules).imp ?_
  · intro a b c hab hbc
    simp only [Bool.or_eq_true, Bool.and_eq_true, decide_eq_true_eq, beq_iff_eq] at *
    omega
  · intro a b
    simp only [Bool.or_eq_true, Bool.and_eq_true, decide_eq_true_eq, beq_iff_eq]
    omega
  · intro a b h
    simp only [Bool.or_eq_true, Bool.and_eq_true, decide_eq_true_eq, beq_iff_eq] at h
    omega

end Engine

end VesselWatch
