/-
  Proofs/Dispatch/Routing.lean --- which sinks an alert goes to, and how often.

  The sinks that are listed for the targets of an alert get it once each, in the order in which
  they come up first (`Dispatcher.receivers_of_listed`).  An alert for which none is listed goes
  down the row of default sinks as it stands, and a sink that stands there twice gets it twice.
  Nothing else makes a sink get an alert more than once (`Dispatcher.handed_once_iff`).
-/
import VesselWatch.Proofs.Dispatch.Dispatcher

set_option autoImplicit false

namespace VesselWatch

namespace Dispatcher

/-! ## Rows without repetitions -/

theorem addNew_nil (row : List String) : addNew [] row = row.eraseDups := by
  unfold addNew
  induction row using List.reverseRecOn with
  | nil => rfl
  | append_singleton row label ih =>
    rw [List.foldl_append, ih, List.foldl_cons, List.foldl_nil, List.eraseDups_append]
    by_cases old : label ∈ row
    · simp [List.removeAll, old]
    · simp [List.removeAll, old, List.eraseDups_cons]

/-- A row without its repetitions is in the order in which things come up first. -/
theorem eraseDups_pairwise (row : List String) :
    row.eraseDups.Pairwise fun x y => row.idxOf x < row.idxOf y := by
  induction row using List.reverseRecOn with
  | nil => exact .nil
  | append_singleton row label ih =>
    have hkept : row.eraseDups.Pairwise fun x y =>
        (row ++ [label]).idxOf x < (row ++ [label]).idxOf y := by
      refine ih.imp_of_mem fun hx hy before => ?_
      rwa [List.idxOf_append_of_mem (List.mem_eraseDups.mp hx),
        List.idxOf_append_of_mem (List.mem_eraseDups.mp hy)]
    rw [List.eraseDups_append]
    by_cases old : label ∈ row
    · simpa [List.removeAll, old] using hkept
    · have hlast : ([label].removeAll row).eraseDups = [label] := by
        simp [List.removeAll, old, List.eraseDups_cons]
      rw [hlast]
      refine List.pairwise_append.mpr ⟨hkept, List.pairwise_singleton _ _, ?_⟩
      intro x hx y hy
      rw [List.mem_singleton.mp hy, List.idxOf_append_of_notMem old,
        List.idxOf_append_of_mem (List.mem_eraseDups.mp hx)]
      exact Nat.lt_add_right _ (List.idxOf_lt_length_of_mem (List.mem_eraseDups.mp hx))

/-! ## Dispatchers as they are made -/

/-- The sinks that are listed for a target. -/
def sinksFor (d : Dispatcher) (target : String) : List String := (d.targets.lookup target).getD []

/-- A dispatcher that was made with some default sinks and then had the sinks of targets set, one
target after another. -/
inductive Made : List String → List (String × List String) → Dispatcher → Prop
  | empty : Made [] [] Dispatcher.empty
  | withDefaults (labels : List String) : Made labels [] (Dispatcher.withDefaults labels)
  | setTarget {labels : List String} {calls : List (String × List String)} {d : Dispatcher}
      (before : Made labels calls d) (target : String) (sinks : List String) :
      Made labels (calls ++ [(target, sinks)]) (d.setTarget target sinks)

/-- The sinks that were set for a target last. -/
def lastSet (calls : List (String × List String)) (target : String) : List String :=
  (calls.reverse.lookup target).getD []

section Made

variable {labels : List String} {calls : List (String × List String)} {d : Dispatcher}

theorem Made.defaults (made : Made labels calls d) : d.defaults = labels := by
  induction made with
  | empty => rfl
  | withDefaults => rfl
  | setTarget _ _ _ ih => exact ih

theorem Made.lookup_targets (made : Made labels calls d) (target : String) :
    d.targets.lookup target = calls.reverse.lookup target := by
  induction made with
  | empty => rfl
  | withDefaults => rfl
  | setTarget _ key sinks ih =>
    rw [List.reverse_concat, List.lookup_cons, ← ih, Dispatcher.setTarget, Assoc.lookup_put]
    cases target == key <;> rfl

theorem Made.sinksFor (made : Made labels calls d) : d.sinksFor = lastSet calls := by
  funext target
  rw [Dispatcher.sinksFor, made.lookup_targets, lastSet]

theorem exists_of_mem_lastSet {label target : String} (listed : label ∈ lastSet calls target) :
    ∃ call ∈ calls, label ∈ call.2 := by
  unfold lastSet at listed
  cases found : calls.reverse.lookup target with
  | none => simp [found] at listed
  | some sinks =>
    rw [found] at listed
    have hmem := Assoc.mem_of_lookup_eq_some found
    exact ⟨(target, sinks), List.mem_reverse.mp hmem, listed⟩

end Made

/-! ## The sinks of an alert -/

section Receivers

variable {d : Dispatcher} {a : Alert}

theorem ofTargets_eq (d : Dispatcher) (notify : List String) :
    d.ofTargets notify = (notify.flatMap d.sinksFor).eraseDups := by
  rw [← addNew_nil, addNew, List.foldl_flatMap]
  rfl

theorem mem_ofTargets {label : String} {notify : List String} :
    label ∈ d.ofTargets notify ↔ ∃ target ∈ notify, label ∈ d.sinksFor target := by
  rw [ofTargets_eq, List.mem_eraseDups, List.mem_flatMap]

theorem ofTargets_eq_nil_iff {notify : List String} :
    d.ofTargets notify = [] ↔ ¬ ∃ target ∈ notify, d.sinksFor target ≠ [] := by
  rw [List.eq_nil_iff_forall_not_mem]
  constructor
  · rintro none ⟨target, notified, some⟩
    obtain ⟨label, listed⟩ := List.exists_mem_of_ne_nil _ some
    exact none label (mem_ofTargets.mpr ⟨target, notified, listed⟩)
  · intro none label member
    obtain ⟨target, notified, listed⟩ := mem_ofTargets.mp member
    exact none ⟨target, notified, List.ne_nil_of_mem listed⟩

/-- An alert goes to the sinks that are listed for its targets. -/
theorem receivers_of_listed (some : ∃ target ∈ a.notify, d.sinksFor target ≠ []) :
    d.receivers a = (a.notify.flatMap d.sinksFor).eraseDups := by
  have hsome : ¬ (d.ofTargets a.notify).isEmpty = true := by
    rw [List.isEmpty_iff, ofTargets_eq_nil_iff, not_not]
    exact some
  rw [receivers, if_neg hsome, ofTargets_eq]

theorem nodup_receivers_of_listed (some : ∃ target ∈ a.notify, d.sinksFor target ≠ []) :
    (d.receivers a).Nodup := by
  rw [receivers_of_listed some, ← ofTargets_eq]
  exact d.nodup_ofTargets a.notify

theorem mem_receivers_of_listed (some : ∃ target ∈ a.notify, d.sinksFor target ≠ [])
    {label : String} : label ∈ d.receivers a ↔ ∃ target ∈ a.notify, label ∈ d.sinksFor target := by
  rw [receivers_of_listed some, ← ofTargets_eq, mem_ofTargets]

/-- An alert for whose targets no sink is listed goes to the default sinks. -/
theorem receivers_of_unlisted (none : ¬ ∃ target ∈ a.notify, d.sinksFor target ≠ []) :
    d.receivers a = d.defaults := by
  rw [receivers, if_pos (List.isEmpty_iff.mpr (ofTargets_eq_nil_iff.mpr none))]

end Receivers

/-! ## How often a sink gets an alert -/

/-- How often a label is handed an alert. -/
def timesHanded (d : Dispatcher) (a : Alert) (label : String) : Nat :=
  if ∃ target ∈ a.notify, d.sinksFor target ≠ [] then
    if ∃ target ∈ a.notify, label ∈ d.sinksFor target then 1 else 0
  else d.defaults.count label

/-- No sink is handed the alert more than once when it is dispatched. -/
def HandsOnce (d : Dispatcher) (a : Alert) (sinks : Sinks) : Prop :=
  ∀ label before after, sinks.lookup label = some before →
    (d.dispatch a sinks).2.lookup label = some after →
      after.handed = before.handed ∨ after.handed = a :: before.handed

theorem count_receivers (d : Dispatcher) (a : Alert) (label : String) :
    (d.receivers a).count label = d.timesHanded a label := by
  unfold timesHanded
  split
  · next some =>
    have hmem : label ∈ d.receivers a ↔ _ := mem_receivers_of_listed some
    split
    · next listed =>
      exact List.count_eq_one_of_mem (nodup_receivers_of_listed some) (hmem.mpr listed)
    · next unlisted => exact List.count_eq_zero_of_not_mem (unlisted ∘ hmem.mp)
  · next none => rw [receivers_of_unlisted none]

theorem timesHanded_of_unlisted {d : Dispatcher} {a : Alert}
    (none : ¬ ∃ target ∈ a.notify, d.sinksFor target ≠ []) (label : String) :
    d.timesHanded a label = d.defaults.count label :=
  if_neg none

theorem timesHanded_le_one {d : Dispatcher} {a : Alert}
    (safe : (∃ target ∈ a.notify, d.sinksFor target ≠ []) ∨ d.defaults.Nodup) (label : String) :
    d.timesHanded a label ≤ 1 := by
  by_cases some : ∃ target ∈ a.notify, d.sinksFor target ≠ []
  · rw [timesHanded, if_pos some]
    split <;> simp
  · rw [timesHanded_of_unlisted some]
    exact List.nodup_iff_count_le_one.mp (safe.resolve_left some) label

/-- A sink holds the alert as many times more as its label was handed it. -/
theorem handed_dispatch (d : Dispatcher) (a : Alert) {sinks : Sinks} {label : String}
    {before : Sink} (found : sinks.lookup label = some before) :
    ∃ after, (d.dispatch a sinks).2.lookup label = some after ∧
      after.handed = List.replicate (d.timesHanded a label) a ++ before.handed := by
  refine ⟨before.after (List.replicate (d.timesHanded a label) a), ?_, ?_⟩
  · rw [dispatch, lookup_deliverAll, found, count_receivers]
    rfl
  · rw [Sink.handed_after, List.reverse_replicate]

theorem HandsOnce.timesHanded_le_one {d : Dispatcher} {a : Alert} {sinks : Sinks}
    (once : d.HandsOnce a sinks) {label : String} {before : Sink}
    (found : sinks.lookup label = some before) : d.timesHanded a label ≤ 1 := by
  obtain ⟨after, hafter, handed⟩ := d.handed_dispatch a found
  have hlength := congrArg List.length handed
  rw [List.length_append, List.length_replicate] at hlength
  rcases once label before after found hafter with same | more
  · rw [same] at hlength
    omega
  · rw [more, List.length_cons] at hlength
    omega

/-- The number of times that a sink is handed an alert: once if it is listed for a target of the
alert, however often; if none is listed for any, as often as it stands among the default sinks.
That is at most once for every sink just if a sink is listed for some target of the alert or no
default sink is repeated. -/
theorem handed_once_iff (d : Dispatcher) (a : Alert) (sinks : Sinks)
    (known : ∀ label ∈ d.defaults, (sinks.lookup label).isSome) :
    (∀ label before, sinks.lookup label = some before →
      ∃ after, (d.dispatch a sinks).2.lookup label = some after ∧
        after.handed = List.replicate (d.timesHanded a label) a ++ before.handed) ∧
    (d.HandsOnce a sinks ↔
      (∃ target ∈ a.notify, d.sinksFor target ≠ []) ∨ d.defaults.Nodup) := by
  refine ⟨fun label before found => d.handed_dispatch a found, ?_, ?_⟩
  · intro once
    rw [or_iff_not_imp_left]
    intro none
    refine List.nodup_iff_count_le_one.mpr fun label => ?_
    by_cases listed : label ∈ d.defaults
    · obtain ⟨before, found⟩ := Option.isSome_iff_exists.mp (known label listed)
      rw [← timesHanded_of_unlisted none]
      exact once.timesHanded_le_one found
    · rw [List.count_eq_zero_of_not_mem listed]
      exact Nat.zero_le 1
  · intro safe label before after found hafter
    obtain ⟨after', hafter', handed⟩ := d.handed_dispatch a found
    cases hafter.symm.trans hafter'
    rw [handed]
    rcases Nat.le_one_iff_eq_zero_or_eq_one.mp (timesHanded_le_one safe label) with none | one
    · rw [none]
      exact .inl rfl
    · rw [one]
      exact .inr rfl

/-- A sink that comes up three times, and twice more among the default sinks. -/
theorem handed_once_shared :
    let d := (withDefaults ["s", "s"]).setTarget "t" ["s", "r", "s"] |>.setTarget "u" ["s"]
    let a : Alert := { (default : Alert) with notify := ["t", "u"] }
    let sinks : Sinks := [("s", Sink.fresh "s" .collect), ("r", Sink.fresh "r" .collect)]
    (∀ label ∈ d.defaults, (sinks.lookup label).isSome) ∧ d.HandsOnce a sinks := by
  intro d a sinks
  have known : ∀ label ∈ d.defaults, (sinks.lookup label).isSome := by decide
  exact ⟨known, (handed_once_iff d a sinks known).2.mpr (.inl ⟨"t", by decide, by decide⟩)⟩

/-- A sink that stands twice among the default sinks is handed the alert twice. -/
theorem default_handed_twice :
    let d := withDefaults ["s", "s"]
    let sinks : Sinks := [("s", Sink.fresh "s" .collect)]
    ((d.dispatch default sinks).2.lookup "s").map (·.handed) = some [default, default] ∧
    ¬ d.HandsOnce default sinks := by
  intro d sinks
  refine ⟨rfl, fun once => ?_⟩
  rcases once "s" _ _ rfl rfl with same | more
  · exact absurd (congrArg List.length same) (by decide)
  · exact absurd (congrArg List.length more) (by decide)

end Dispatcher

end VesselWatch
