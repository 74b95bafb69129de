/-
  Proofs/Dispatch/Reports.lean --- what is reported of dispatching an alert.

  There is one report for each sink that an alert goes to, in their order, and it says what this
  sink answered (`Dispatcher.report_deliverAll`).  A sink answers by what it was handed before, so
  it makes no difference to the others if one of them fails (`Dispatcher.Made.dispatches`).
-/
import VesselWatch.Proofs.Dispatch.Routing

set_option autoImplicit false

namespace VesselWatch

/-! ## What a sink answers -/

namespace Sink

theorem send_name (a : Alert) (s : Sink) : (s.send a).2.name = s.name := by
  obtain ⟨error, written, hsend⟩ := s.exists_send a
  rw [hsend]

theorem name_after (s : Sink) (alerts : List Alert) : (s.after alerts).name = s.name := by
  induction alerts generalizing s with
  | nil => rfl
  | cons a rest ih => exact (ih (s.send a).2).trans (send_name a s)

/-- The report of handing an alert to the sink. -/
def report (s : Sink) (a : Alert) : Delivery := ⟨s.name, a.ruleId, (s.send a).1⟩

theorem report_failed_iff {s : Sink} {a : Alert} :
    (s.report a).success = false ↔ (s.send a).1 ≠ none := by
  rw [Delivery.success, report, Option.isNone_eq_false_iff, Option.isSome_iff_ne_none]

end Sink

namespace Dispatcher

/-! ## Reports of a row of sinks -/

section Row

variable {a : Alert} {labels : List String} {sinks : Sinks}

theorem deliver_of_some {label : String} {s : Sink} (found : sinks.lookup label = some s) :
    deliver a label sinks = ([s.report a], Assoc.put label (s.send a).2 sinks) := by
  simp only [deliver, found, Sink.report, Sink.send_name]

theorem deliverAll_append (a : Alert) (labels more : List String) (sinks : Sinks) :
    deliverAll a (labels ++ more) sinks =
      ((deliverAll a labels sinks).1 ++ (deliverAll a more (deliverAll a labels sinks).2).1,
        (deliverAll a more (deliverAll a labels sinks).2).2) := by
  induction labels generalizing sinks with
  | nil => rfl
  | cons label rest ih => simp only [List.cons_append, deliverAll, ih, List.append_assoc]

theorem length_deliverAll (known : ∀ label ∈ labels, (sinks.lookup label).isSome) :
    (deliverAll a labels sinks).1.length = labels.length := by
  induction labels generalizing sinks with
  | nil => rfl
  | cons label rest ih =>
    obtain ⟨hlabel, hrest⟩ := List.forall_mem_cons.mp known
    obtain ⟨s, found⟩ := Option.isSome_iff_exists.mp hlabel
    have later : ∀ other ∈ rest, ((deliver a label sinks).2.lookup other).isSome := by
      intro other mem
      rw [lookup_deliver, Option.isSome_map]
      exact hrest other mem
    simp only [deliverAll, List.length_append]
    rw [ih later, deliver_of_some found, List.length_singleton, Nat.add_comm, List.length_cons]

/-- The report at a place of the row is the answer of the sink there, as the sinks before it have
left it. -/
theorem report_deliverAll (known : ∀ label ∈ labels, (sinks.lookup label).isSome) {i : Nat}
    {label : String} {s : Sink} (place : labels[i]? = some label)
    (found : sinks.lookup label = some s) :
    (deliverAll a labels sinks).1[i]? =
      some ((s.after (List.replicate ((labels.take i).count label) a)).report a) := by
  obtain ⟨hi, hlabel⟩ := List.getElem?_eq_some_iff.mp place
  have hrow : labels = labels.take i ++ label :: labels.drop (i + 1) := by
    rw [← hlabel, ← List.drop_eq_getElem_cons hi, List.take_append_drop]
  have hlength : (deliverAll a (labels.take i) sinks).1.length = i := by
    rw [length_deliverAll fun other mem => known other (List.mem_of_mem_take mem),
      List.length_take_of_le (Nat.le_of_lt hi)]
  have hturn := lookup_deliverAll a label (labels.take i) sinks
  rw [found] at hturn
  conv_lhs => rw [hrow, deliverAll_append, deliverAll, deliver_of_some hturn]
  rw [List.getElem?_append_right (Nat.le_of_eq hlength), hlength, Nat.sub_self]
  rfl

end Row

/-! ## Reports of an alert among others -/

section Dispatch

variable {d : Dispatcher} {sinks : Sinks} {labels : List String}
  {calls : List (String × List String)}

/-- Every sink that an alert goes to was a default sink or was set for a target. -/
theorem Made.mem_receivers (made : Made labels calls d) {a : Alert} {label : String}
    (member : label ∈ d.receivers a) : label ∈ labels ∨ ∃ call ∈ calls, label ∈ call.2 := by
  by_cases some : ∃ target ∈ a.notify, d.sinksFor target ≠ []
  · rw [mem_receivers_of_listed some, made.sinksFor] at member
    obtain ⟨target, -, listed⟩ := member
    exact .inr (exists_of_mem_lastSet listed)
  · rw [receivers_of_unlisted some, made.defaults] at member
    exact .inl member

/-- The sinks that an alert goes to, as they follow from what was set. -/
theorem Made.receivers_spec (made : Made labels calls d) (a : Alert) :
    ((∃ target ∈ a.notify, lastSet calls target ≠ []) →
      (d.receivers a).Nodup ∧
      (∀ label, label ∈ d.receivers a ↔ ∃ target ∈ a.notify, label ∈ lastSet calls target) ∧
      (d.receivers a).Pairwise fun x y =>
        (a.notify.flatMap (lastSet calls)).idxOf x < (a.notify.flatMap (lastSet calls)).idxOf y) ∧
    ((¬ ∃ target ∈ a.notify, lastSet calls target ≠ []) → d.receivers a = labels) := by
  rw [← made.sinksFor]
  constructor
  · intro some
    refine ⟨nodup_receivers_of_listed some, fun label => mem_receivers_of_listed some, ?_⟩
    rw [receivers_of_listed some]
    exact eraseDups_pairwise _
  · intro none
    rw [receivers_of_unlisted none, made.defaults]

section After

variable (known : ∀ a, ∀ label ∈ d.receivers a, (sinks.lookup label).isSome)
include known

/-- The sinks that alerts go to are there, also after some alerts. -/
theorem known_dispatchAll (earlier : List Alert) (a : Alert) :
    ∀ label ∈ d.receivers a, ((d.dispatchAll earlier sinks).2.lookup label).isSome := by
  intro label mem
  rw [lookup_dispatchAll, Option.isSome_map]
  exact known a label mem

theorem length_dispatch (earlier : List Alert) (a : Alert) :
    (d.dispatch a (d.dispatchAll earlier sinks).2).1.length = (d.receivers a).length :=
  length_deliverAll (known_dispatchAll known earlier a)

/-- What is reported of a sink depends on nothing but what this sink was handed before. -/
theorem report_dispatch (earlier : List Alert) {a : Alert} {i : Nat} {label : String} {s : Sink}
    (place : (d.receivers a)[i]? = some label) (found : sinks.lookup label = some s) :
    (d.dispatch a (d.dispatchAll earlier sinks).2).1[i]? =
      some ((s.after (d.routed label earlier ++
        List.replicate (((d.receivers a).take i).count label) a)).report a) := by
  have hnow := lookup_dispatchAll d label earlier sinks
  rw [found] at hnow
  rw [dispatch, report_deliverAll (known_dispatchAll known earlier a) place hnow, s.after_append]

end After

theorem lookup_dispatch (d : Dispatcher) (label : String) (earlier : List Alert) (a : Alert)
    (sinks : Sinks) :
    (d.dispatch a (d.dispatchAll earlier sinks).2).2.lookup label =
      (sinks.lookup label).map fun s =>
        s.after (d.routed label earlier ++ List.replicate ((d.receivers a).count label) a) := by
  rw [dispatch, lookup_deliverAll, lookup_dispatchAll, Option.map_map]
  congr 1
  funext s
  exact (s.after_append _ _).symm

/-- A dispatcher hands an alert to the sinks that were set last for the targets of the alert, once
each and in the order in which they come up first; if there are none, to the default sinks as they
are listed.  After any alerts before it, there is a report for each of them, in this order: it
bears the name of the sink and says what the sink answered, and it tells of a failure just if the
sink did not take the alert.  Each sink is left as it is by the alerts that were routed to it.  Were
any one sink another, nothing else would change: the other sinks would be left the same, and the
same would be reported of them. -/
theorem Made.dispatches (made : Made labels calls d)
    (known : ∀ label, (label ∈ labels ∨ ∃ call ∈ calls, label ∈ call.2) →
      (sinks.lookup label).isSome) :
    (∀ a : Alert,
      ((∃ target ∈ a.notify, lastSet calls target ≠ []) →
        (d.receivers a).Nodup ∧
        (∀ label, label ∈ d.receivers a ↔ ∃ target ∈ a.notify, label ∈ lastSet calls target) ∧
        (d.receivers a).Pairwise fun x y =>
          (a.notify.flatMap (lastSet calls)).idxOf x < (a.notify.flatMap (lastSet calls)).idxOf y) ∧
      ((¬ ∃ target ∈ a.notify, lastSet calls target ≠ []) → d.receivers a = labels)) ∧
    ∀ (earlier : List Alert) (a : Alert),
      let now := (d.dispatchAll earlier sinks).2
      let reports := (d.dispatch a now).1
      let left := (d.dispatch a now).2
      reports.length = (d.receivers a).length ∧
      (∀ (i : Nat) label s, (d.receivers a)[i]? = some label → sinks.lookup label = some s →
        let asked := s.after (d.routed label earlier ++
          List.replicate (((d.receivers a).take i).count label) a)
        ∃ r, reports[i]? = some r ∧ r.sink = s.name ∧ r.ruleId = a.ruleId ∧
          r.error = (asked.send a).1 ∧ (r.success = false ↔ (asked.send a).1 ≠ none)) ∧
      (∀ label s, sinks.lookup label = some s →
        left.lookup label = some (s.after (d.routed label earlier ++
          List.replicate ((d.receivers a).count label) a))) ∧
      ∀ culprit broken,
        let now' := (d.dispatchAll earlier (Assoc.put culprit broken sinks)).2
        (d.dispatch a now').1.length = reports.length ∧
        ∀ label, label ≠ culprit →
          (d.dispatch a now').2.lookup label = left.lookup label ∧
          ∀ i : Nat, (d.receivers a)[i]? = some label → (d.dispatch a now').1[i]? = reports[i]? := by
  have hknown (a : Alert) (label : String) (mem : label ∈ d.receivers a) :
      (sinks.lookup label).isSome :=
    known label (made.mem_receivers mem)
  refine ⟨made.receivers_spec, fun earlier a => ⟨length_dispatch hknown earlier a, ?_, ?_, ?_⟩⟩
  · intro i label s place found
    refine ⟨_, report_dispatch hknown earlier place found, ?_, rfl, rfl, Sink.report_failed_iff⟩
    exact Sink.name_after s _
  · intro label s found
    rw [lookup_dispatch, found]
    rfl
  · intro culprit broken now'
    have hput (a : Alert) (label : String) (mem : label ∈ d.receivers a) :
        ((Assoc.put culprit broken sinks).lookup label).isSome := by
      rw [Assoc.lookup_put]
      split
      · rfl
      · exact hknown a label mem
    refine ⟨(length_dispatch hput earlier a).trans (length_dispatch hknown earlier a).symm, ?_⟩
    intro label other
    have same : (Assoc.put culprit broken sinks).lookup label = sinks.lookup label := by
      rw [Assoc.lookup_put, if_neg (by simpa using other)]
    refine ⟨by rw [lookup_dispatch, lookup_dispatch, same], fun i place => ?_⟩
    obtain ⟨s, found⟩ := Option.isSome_iff_exists.mp (hknown a label (List.mem_of_getElem? place))
    rw [report_dispatch hput earlier place (same.trans found),
      report_dispatch hknown earlier place found]

/-- The first sinks of a target are replaced, one target has none, and two share a failing one.  The
sink behind it gets the alert, and would get it whatever stood in the place of the failing one. -/
theorem dispatches_past_failure :
    let calls := [("t", ["d"]), ("u", []), ("v", ["a", "f"]), ("t", ["b", "f", "b"])]
    let d := calls.foldl (fun d call => d.setTarget call.1 call.2) (withDefaults ["d"])
    let a : Alert := { (default : Alert) with notify := ["x", "v", "t", "u", "v"] }
    let sinks : Sinks := ["a", "b", "d"].map (fun label => (label, Sink.fresh label .collect)) ++
      [("f", Sink.fresh "f" (.failing "down"))]
    d.receivers a = ["a", "f", "b"] ∧ (d.receivers a).Nodup ∧
    (∃ r, (d.dispatch a sinks).1[1]? = some r ∧ r.sink = "f" ∧ r.success = false) ∧
    ∀ broken, (d.dispatch a (Assoc.put "f" broken sinks)).2.lookup "b" =
      some ((Sink.fresh "b" .collect).after [a]) := by
  intro calls d a sinks
  have made : Made ["d"] calls d :=
    (Made.withDefaults ["d"]).setTarget "t" ["d"] |>.setTarget "u" [] |>.setTarget "v" ["a", "f"]
      |>.setTarget "t" ["b", "f", "b"]
  have hsinks : ∀ label ∈ ["d"] ++ calls.flatMap (·.2), (sinks.lookup label).isSome := by decide
  have known (label : String) (mem : label ∈ ["d"] ∨ ∃ call ∈ calls, label ∈ call.2) :
      (sinks.lookup label).isSome := by
    apply hsinks
    rw [List.mem_append, List.mem_flatMap]
    exact mem
  have hrow : d.receivers a = ["a", "f", "b"] := by decide
  obtain ⟨routes, after⟩ := made.dispatches known
  obtain ⟨-, reported, left, isolated⟩ := after [] a
  rw [hrow] at reported left isolated
  obtain ⟨r, hr, hname, -, -, hfailed⟩ := reported 1 "f" _ rfl rfl
  refine ⟨hrow, ((routes a).1 ⟨"v", by decide, by decide⟩).1, ⟨r, hr, hname, ?_⟩, fun broken => ?_⟩
  · exact hfailed.mpr (Option.some_ne_none _)
  · exact ((isolated "f" broken).2 "b" (by decide)).1.trans (left "b" _ rfl)

end Dispatch

end Dispatcher

end VesselWatch
