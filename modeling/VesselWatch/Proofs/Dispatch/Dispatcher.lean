/-
  Proofs/Dispatch/Dispatcher.lean --- what becomes of the sinks when alerts are dispatched.

  A sink hears of nothing but the alerts that are routed to its label, in their order and each as
  often as its label is among the receivers (`Dispatcher.lookup_dispatchAll`).  That is once, as
  long as the default sinks are listed once each (`Dispatcher.routed_eq_filter`).
-/
import VesselWatch.Dispatch.Dispatcher
import VesselWatch.Proofs.Assoc

set_option autoImplicit false

namespace VesselWatch

/-! ## Sinks -/

namespace Sink

/-- The sink after some alerts were handed to it, one after another. -/
def after (s : Sink) (alerts : List Alert) : Sink :=
  alerts.foldl (fun s a => (s.send a).2) s

@[simp] theorem after_nil (s : Sink) : s.after [] = s := rfl

theorem after_append (s : Sink) (alerts later : List Alert) :
    s.after (alerts ++ later) = (s.after alerts).after later :=
  List.foldl_append

/-- Whatever a sink answers, it has been handed the alert. -/
theorem exists_send (a : Alert) (s : Sink) : ∃ error written,
    s.send a = (error, { s with handed := a :: s.handed, written := written }) := by
  unfold send
  split
  · exact ⟨_, _, rfl⟩
  · exact ⟨_, _, rfl⟩
  · exact ⟨_, _, rfl⟩
  · split <;> exact ⟨_, _, rfl⟩

theorem send_handed (a : Alert) (s : Sink) : (s.send a).2.handed = a :: s.handed := by
  obtain ⟨error, written, hsend⟩ := s.exists_send a
  rw [hsend]

theorem send_kind (a : Alert) (s : Sink) : (s.send a).2.kind = s.kind := by
  obtain ⟨error, written, hsend⟩ := s.exists_send a
  rw [hsend]

theorem handed_after (s : Sink) (alerts : List Alert) :
    (s.after alerts).handed = alerts.reverse ++ s.handed := by
  induction alerts generalizing s with
  | nil => rfl
  | cons a rest ih =>
    change ((s.send a).2.after rest).handed = _
    rw [ih, send_handed, List.reverse_cons, List.append_assoc]
    rfl

end Sink

/-! ## Receivers -/

namespace Dispatcher

theorem nodup_addNew {labels : List String} (nodup : labels.Nodup) (new : List String) :
    (addNew labels new).Nodup := by
  unfold addNew
  induction new generalizing labels with
  | nil => exact nodup
  | cons l rest ih =>
    rw [List.foldl_cons]
    apply ih
    split
    · exact nodup
    · next absent =>
      rw [List.contains_iff_mem] at absent
      refine List.nodup_append.mpr ⟨nodup, List.nodup_singleton l, ?_⟩
      intro x hx y hy
      rw [List.mem_singleton.mp hy]
      rintro rfl
      exact absent hx

theorem nodup_ofTargets (d : Dispatcher) (notify : List String) : (d.ofTargets notify).Nodup := by
  unfold ofTargets
  have hfold {labels : List String} (nodup : labels.Nodup) :
      (notify.foldl (fun labels target => addNew labels ((d.targets.lookup target).getD []))
        labels).Nodup := by
    induction notify generalizing labels with
    | nil => exact nodup
    | cons target rest ih => exact ih (nodup_addNew nodup _)
  exact hfold List.nodup_nil

/-- No sink gets an alert twice, unless the default sinks are listed twice. -/
theorem nodup_receivers {d : Dispatcher} (nodup : d.defaults.Nodup) (a : Alert) :
    (d.receivers a).Nodup := by
  unfold receivers
  simp only
  split
  · exact nodup
  · exact d.nodup_ofTargets a.notify

/-- The alerts that are routed to a label, each as often as the label is among its receivers. -/
def routed (d : Dispatcher) (label : String) (alerts : List Alert) : List Alert :=
  alerts.flatMap fun a => List.replicate ((d.receivers a).count label) a

theorem routed_eq_filter {d : Dispatcher} (nodup : d.defaults.Nodup) (label : String)
    (alerts : List Alert) :
    d.routed label alerts = alerts.filter fun a => (d.receivers a).contains label := by
  unfold routed
  induction alerts with
  | nil => rfl
  | cons a rest ih =>
    rw [List.flatMap_cons, ih, List.filter_cons]
    split
    · next member =>
      rw [List.contains_iff_mem] at member
      rw [List.count_eq_one_of_mem (nodup_receivers nodup a) member]
      rfl
    · next absent =>
      rw [List.contains_iff_mem] at absent
      rw [List.count_eq_zero_of_not_mem absent]
      rfl

/-! ## Dispatching -/

/-- Dispatches alerts one after another. -/
def dispatchAll (d : Dispatcher) : List Alert → Sinks → List Delivery × Sinks
  | [], sinks => ([], sinks)
  | a :: rest, sinks =>
    let (now, sinks) := d.dispatch a sinks
    let (later, sinks) := dispatchAll d rest sinks
    (now ++ later, sinks)

theorem dispatchAll_append (d : Dispatcher) (alerts later : List Alert) (sinks : Sinks) :
    d.dispatchAll (alerts ++ later) sinks =
      ((d.dispatchAll alerts sinks).1 ++ (d.dispatchAll later (d.dispatchAll alerts sinks).2).1,
        (d.dispatchAll later (d.dispatchAll alerts sinks).2).2) := by
  induction alerts generalizing sinks with
  | nil => rfl
  | cons a rest ih => simp only [List.cons_append, dispatchAll, ih, List.append_assoc]

theorem lookup_deliver (a : Alert) (label l : String) (sinks : Sinks) :
    (deliver a l sinks).2.lookup label =
      (sinks.lookup label).map fun s => s.after (List.replicate ([l].count label) a) := by
  unfold deliver
  rcases eq_or_ne l label with rfl | other
  · cases h : sinks.lookup l with
    | none => simp [h]
    | some s => simp [Assoc.lookup_put, Sink.after]
  · have hcount : [l].count label = 0 := List.count_eq_zero_of_not_mem (by simpa using other.symm)
    rw [hcount]
    cases h : sinks.lookup l with
    | none => simp
    | some s => simp [Assoc.lookup_put, other.symm]

theorem lookup_deliverAll (a : Alert) (label : String) (labels : List String) (sinks : Sinks) :
    (deliverAll a labels sinks).2.lookup label =
      (sinks.lookup label).map fun s => s.after (List.replicate (labels.count label) a) := by
  induction labels generalizing sinks with
  | nil => simp [deliverAll]
  | cons l rest ih =>
    have hcount : (l :: rest).count label = [l].count label + rest.count label := by
      rw [← List.count_append]
      rfl
    simp only [deliverAll]
    rw [ih, lookup_deliver, Option.map_map, hcount, List.replicate_add]
    congr 1
    funext s
    exact (s.after_append _ _).symm

/-- A sink is left as it is by the alerts that are routed to it. -/
theorem lookup_dispatchAll (d : Dispatcher) (label : String) (alerts : List Alert) (sinks : Sinks) :
    (d.dispatchAll alerts sinks).2.lookup label =
      (sinks.lookup label).map fun s => s.after (d.routed label alerts) := by
  induction alerts generalizing sinks with
  | nil => simp [dispatchAll, routed]
  | cons a rest ih =>
    have hrouted : d.routed label (a :: rest) =
        List.replicate ((d.receivers a).count label) a ++ d.routed label rest := rfl
    simp only [dispatchAll]
    rw [ih, dispatch, lookup_deliverAll, Option.map_map, hrouted]
    congr 1
    funext s
    exact (s.after_append _ _).symm

end Dispatcher

end VesselWatch
