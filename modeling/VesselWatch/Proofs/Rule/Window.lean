/-
  Proofs/Rule/Window.lean --- what aggregations hold and count.

  A rule has one window for all its aggregations.  Each of them prunes it, applies its
  filter to it anew, lets the new event in and counts; a filter that is itself an
  aggregation does the same with a window of its own.  `looks` is the row of all these
  occasions, filters included, in the order in which they arise.

  ONE EVENT TWICE.  An aggregation does not ask whether the event that it lets in is
  there already.  It is when another aggregation of the rule has let it in, and then
  the event is counted twice.  Where no event is let in again none is there twice
  (`Rule.after_careful`), and a rule with one aggregation of its own lets none in again
  (`Rule.looksAt_single`).
-/
import VesselWatch.Proofs.Rule.Evaluate

set_option autoImplicit false

namespace VesselWatch

/-- No event is among them twice. -/
def DistinctIds (es : List VesselEvent) : Prop := (es.map (·.id)).Nodup

theorem DistinctIds.sublist {es others : List VesselEvent} (distinct : DistinctIds es)
    (sublist : others.Sublist es) : DistinctIds others :=
  List.Nodup.sublist (sublist.map _) distinct

theorem distinctIds_append_single {es : List VesselEvent} {e : VesselEvent} :
    DistinctIds (es ++ [e]) ↔ DistinctIds es ∧ e.id ∉ es.map (·.id) := by
  unfold DistinctIds
  rw [List.map_append, List.nodup_append]
  constructor
  · rintro ⟨hes, -, hapart⟩
    exact ⟨hes, fun h => hapart e.id h e.id (List.mem_singleton_self _) rfl⟩
  · rintro ⟨hes, hnew⟩
    refine ⟨hes, by simp, ?_⟩
    intro a ha b hb hab
    have hb' : b = e.id := List.mem_singleton.mp hb
    exact hnew (hb' ▸ hab ▸ ha)

theorem append_single_sublist (es : List VesselEvent) (e : VesselEvent)
    (rest : List VesselEvent) : (es ++ [e]).Sublist (es ++ e :: rest) :=
  ((List.nil_sublist rest).cons_cons e).append_left es

/-! ## What a condition leaves of the window -/

theorem unexpired_sublist (w : Window) (now : Instant) (recent : List VesselEvent) :
    (w.unexpired now recent).Sublist recent :=
  List.filter_sublist

theorem refilter_kept_sublist {filter : Filter} {past kept : List VesselEvent} {s : RuleState}
    (hkept : (refilter filter past s).kept = .ok kept) : kept.Sublist past := by
  induction past generalizing s kept with
  | nil =>
    cases hkept
    exact List.Sublist.refl _
  | cons e rest ih =>
    unfold refilter at hkept
    cases hverdict : (filter e s).verdict with
    | error err => simp [hverdict] at hkept
    | ok passes =>
      cases hrest : (refilter filter rest (filter e s).state).kept with
      | error err => simp [hverdict, hrest, Except.map] at hkept
      | ok later =>
        simp only [hverdict, hrest, Except.map, Except.ok.injEq] at hkept
        subst hkept
        cases passes with
        | true => exact (ih hrest).cons_cons e
        | false => exact (ih hrest).cons e

theorem Window.refiltered_kept_sublist {w : Window} {filter : Filter} {e : VesselEvent}
    {s : RuleState} {kept : List VesselEvent}
    (hkept : (w.refiltered filter e s).kept = .ok kept) : kept.Sublist s.recent :=
  (refilter_kept_sublist hkept).trans (unexpired_sublist ..)

theorem Window.evaluateFiltered_recent_sublist (w : Window) (filter : Filter) (e : VesselEvent)
    (s : RuleState) : (w.evaluateFiltered filter e s).state.recent.Sublist (s.recent ++ [e]) := by
  cases hkept : (w.refiltered filter e s).kept with
  | error err =>
    rw [evaluateFiltered_of_refilter_error hkept]
    exact (unexpired_sublist ..).trans (List.sublist_append_left ..)
  | ok kept =>
    have hsub := refiltered_kept_sublist hkept
    cases hverdict : (filter e (w.refiltered filter e s).state).verdict with
    | error err =>
      rw [evaluateFiltered_of_filter_error hkept hverdict]
      exact hsub.trans (List.sublist_append_left ..)
    | ok admitted =>
      rw [evaluateFiltered_of_ok hkept hverdict]
      cases admitted with
      | true => exact hsub.append_right [e]
      | false => exact hsub.trans (List.sublist_append_left ..)

theorem TemporalTest.recent_evaluate (t : TemporalTest) (e : VesselEvent) (s : RuleState) :
    (t.evaluate e s).2.recent = s.recent := by
  unfold TemporalTest.evaluate
  split <;> split <;> rfl

/-- A condition only takes events away from the window and lets the new one in at its end. -/
theorem Condition.recent_sublist (models : Models) (c : Condition) (e : VesselEvent)
    (s : RuleState) : (c.evaluate models e s).state.recent.Sublist (s.recent ++ [e]) := by
  cases c with
  | value t => exact List.sublist_append_left ..
  | spatial t => exact List.sublist_append_left ..
  | temporal t =>
    unfold Condition.evaluate
    rw [t.recent_evaluate e s]
    exact List.sublist_append_left ..
  | aggregation w filter =>
    cases filter with
    | none => exact (unexpired_sublist ..).append_right [e]
    | some f => exact w.evaluateFiltered_recent_sublist (f.evaluate models) e s
  | positionAnomaly folder => exact List.sublist_append_left ..

/-! ## The occasions on which a window is counted -/

/-- An aggregation at the point of counting. -/
structure Look where
  /-- the aggregation -/
  window : Window
  /-- the events left of its window -/
  held : List VesselEvent
  /-- the new event -/
  event : VesselEvent
  /-- the new event passes the filter -/
  admitted : Bool

namespace Look

/-- The events that are counted. -/
def judged (look : Look) : List VesselEvent :=
  if look.admitted then look.held ++ [look.event] else look.held

/-- An event is let in that is there already. -/
def Readmits (look : Look) : Prop :=
  look.admitted = true ∧ look.event.id ∈ look.held.map (·.id)

theorem distinct_judged_iff {look : Look} (distinct : DistinctIds look.held) :
    DistinctIds look.judged ↔ ¬ look.Readmits := by
  unfold judged Readmits
  cases look.admitted with
  | true =>
    rw [if_pos rfl, distinctIds_append_single]
    exact ⟨fun h hin => h.2 hin.2, fun h => ⟨distinct, fun hin => h ⟨rfl, hin⟩⟩⟩
  | false => simpa using distinct

theorem not_readmits_of_distinct {look : Look} (distinct : DistinctIds look.judged) :
    ¬ look.Readmits := by
  rintro ⟨hadmitted, hin⟩
  unfold judged at distinct
  rw [if_pos hadmitted, distinctIds_append_single] at distinct
  exact distinct.2 hin

end Look

/-- The occasions that arise while a filter is applied to events in their order. -/
def refilterLooks (filter : Filter) (looks : VesselEvent → RuleState → List Look) :
    List VesselEvent → RuleState → List Look
  | [], _ => []
  | past :: rest, s =>
    looks past s ++
      match (filter past s).verdict with
      | .error _ => []
      | .ok _ => refilterLooks filter looks rest (filter past s).state

/-- The occasions that arise in an aggregation with a filter, its own coming last. -/
def Window.looksFiltered (w : Window) (filter : Filter)
    (looks : VesselEvent → RuleState → List Look) (e : VesselEvent) (s : RuleState) :
    List Look :=
  refilterLooks filter looks (w.unexpired e.timestamp s.recent) { s with recent := [] } ++
    match (w.refiltered filter e s).kept with
    | .error _ => []
    | .ok kept =>
      looks e (w.refiltered filter e s).state ++
        match (filter e (w.refiltered filter e s).state).verdict with
        | .error _ => []
        | .ok admitted => [⟨w, kept, e, admitted⟩]

/-- The occasions that arise in a condition. -/
def Condition.looks (models : Models) : Condition → VesselEvent → RuleState → List Look
  | .aggregation w none, e, s => [⟨w, w.unexpired e.timestamp s.recent, e, true⟩]
  | .aggregation w (some f), e, s => w.looksFiltered (f.evaluate models) (f.looks models) e s
  | _, _, _ => []

/-- The occasions that arise in conditions applied in their order until one gives the verdict
`last` or fails. -/
def looksUntil (models : Models) (last : Bool) (e : VesselEvent) :
    List Condition → RuleState → List Look
  | [], _ => []
  | c :: rest, s =>
    c.looks models e s ++
      if (c.evaluate models e s).goesOn last then
        looksUntil models last e rest (c.evaluate models e s).state
      else []

namespace Rule

/-- The occasions that arise in a rule. -/
def looks (models : Models) (r : Rule) (e : VesselEvent) (s : RuleState) : List Look :=
  match r.combineLogic with
  | .all => looksUntil models false e r.conditions s
  | .any => looksUntil models true e r.conditions s
  | .unsupported _ => []

/-- The memory after some events. -/
def after (models : Models) (r : Rule) (es : List VesselEvent) (s : RuleState) : RuleState :=
  es.foldl (fun s e => (r.evaluate models e s).state) s

/-- The occasions that arise in the course of some events. -/
def looksAt (models : Models) (r : Rule) : List VesselEvent → RuleState → List Look
  | [], _ => []
  | e :: rest, s => r.looks models e s ++ r.looksAt models rest (r.evaluate models e s).state

end Rule

/-- The verdict of an aggregation, if it comes to one, is what its window says on the last of the
occasions, and the events counted there are those that it leaves. -/
theorem Condition.evaluate_aggregation_ok {models : Models} {w : Window}
    {filter : Option Condition} {e : VesselEvent} {s : RuleState} {b : Bool}
    (hverdict : ((Condition.aggregation w filter).evaluate models e s).verdict = .ok b) :
    ∃ look, ((Condition.aggregation w filter).looks models e s).getLast? = some look ∧
      look.window = w ∧ b = w.verdict look.judged ∧
      ((Condition.aggregation w filter).evaluate models e s).state.recent = look.judged := by
  cases filter with
  | none =>
    have hb : w.verdict (w.unexpired e.timestamp s.recent ++ [e]) = b := Except.ok.inj hverdict
    exact ⟨_, rfl, rfl, hb.symm, rfl⟩
  | some f =>
    unfold Condition.evaluate at hverdict ⊢
    unfold Condition.looks Window.looksFiltered
    cases hkept : (w.refiltered (f.evaluate models) e s).kept with
    | error err =>
      rw [Window.evaluateFiltered_of_refilter_error hkept] at hverdict
      cases hverdict
    | ok kept =>
      cases hnew : (f.evaluate models e (w.refiltered (f.evaluate models) e s).state).verdict with
      | error err =>
        rw [Window.evaluateFiltered_of_filter_error hkept hnew] at hverdict
        cases hverdict
      | ok admitted =>
        rw [Window.evaluateFiltered_of_ok hkept hnew] at hverdict ⊢
        have hb : w.verdict (if admitted then kept ++ [e] else kept) = b :=
          Except.ok.inj hverdict
        refine ⟨⟨w, kept, e, admitted⟩, ?_, rfl, hb.symm, rfl⟩
        simp

/-! ## Where no event is readmitted, none is there twice -/

/-- As long as no event is readmitted, the filter leaves no duplicates and counts none. -/
def Careful (filter : Filter) (looks : VesselEvent → RuleState → List Look) : Prop :=
  ∀ e s, DistinctIds s.recent → (∀ look ∈ looks e s, ¬ look.Readmits) →
    (∀ look ∈ looks e s, DistinctIds look.judged) ∧ DistinctIds (filter e s).state.recent

theorem Careful.refilter {filter : Filter} {looks : VesselEvent → RuleState → List Look}
    (careful : Careful filter looks) (past : List VesselEvent) {s : RuleState}
    (hs : DistinctIds s.recent)
    (fresh : ∀ look ∈ refilterLooks filter looks past s, ¬ look.Readmits) :
    (∀ look ∈ refilterLooks filter looks past s, DistinctIds look.judged) ∧
      DistinctIds (refilter filter past s).state.recent := by
  induction past generalizing s with
  | nil => exact ⟨List.forall_mem_nil _, hs⟩
  | cons e rest ih =>
    unfold refilterLooks at fresh ⊢
    rw [List.forall_mem_append] at fresh ⊢
    obtain ⟨hjudged, hstate⟩ := careful e s hs fresh.1
    unfold VesselWatch.refilter
    cases hverdict : (filter e s).verdict with
    | error err =>
      simp only [hverdict]
      exact ⟨⟨hjudged, List.forall_mem_nil _⟩, hstate⟩
    | ok passes =>
      simp only [hverdict] at fresh ⊢
      obtain ⟨hlater, hend⟩ := ih hstate fresh.2
      exact ⟨⟨hjudged, hlater⟩, hend⟩

theorem Careful.evaluateFiltered {filter : Filter}
    {looks : VesselEvent → RuleState → List Look} (careful : Careful filter looks) (w : Window) :
    Careful (w.evaluateFiltered filter) (w.looksFiltered filter looks) := by
  intro e s hs fresh
  have hunexpired : DistinctIds (w.unexpired e.timestamp s.recent) :=
    hs.sublist (unexpired_sublist ..)
  unfold Window.looksFiltered at fresh ⊢
  rw [List.forall_mem_append] at fresh ⊢
  -- The filter starts with a window of its own, which is empty.
  have hempty : DistinctIds ({ s with recent := [] } : RuleState).recent := List.nodup_nil
  obtain ⟨hold, hstate⟩ := careful.refilter (w.unexpired e.timestamp s.recent) hempty fresh.1
  cases hkept : (w.refiltered filter e s).kept with
  | error err =>
    rw [Window.evaluateFiltered_of_refilter_error hkept]
    exact ⟨⟨hold, List.forall_mem_nil _⟩, hunexpired⟩
  | ok kept =>
    have hheld : DistinctIds kept := hs.sublist (Window.refiltered_kept_sublist hkept)
    have hfresh := fresh.2
    simp only [hkept, List.forall_mem_append] at hfresh ⊢
    obtain ⟨hnew, -⟩ := careful e _ hstate hfresh.1
    cases hverdict : (filter e (w.refiltered filter e s).state).verdict with
    | error err =>
      rw [Window.evaluateFiltered_of_filter_error hkept hverdict]
      exact ⟨⟨hold, hnew, List.forall_mem_nil _⟩, hheld⟩
    | ok admitted =>
      rw [Window.evaluateFiltered_of_ok hkept hverdict]
      have hown : ¬ Look.Readmits ⟨w, kept, e, admitted⟩ := by
        refine hfresh.2 _ ?_
        rw [hverdict]
        exact List.mem_singleton_self _
      have hjudged : DistinctIds (Look.judged ⟨w, kept, e, admitted⟩) :=
        (Look.distinct_judged_iff hheld).mpr hown
      refine ⟨⟨hold, hnew, ?_⟩, hjudged⟩
      intro look hlook
      rw [List.mem_singleton.mp hlook]
      exact hjudged

theorem Condition.careful (models : Models) :
    ∀ c : Condition, Careful (c.evaluate models) (c.looks models)
  | .value _ => fun _ _ hs _ => ⟨List.forall_mem_nil _, hs⟩
  | .spatial _ => fun _ _ hs _ => ⟨List.forall_mem_nil _, hs⟩
  | .temporal t => fun e s hs _ => by
    refine ⟨List.forall_mem_nil _, ?_⟩
    unfold Condition.evaluate
    rw [t.recent_evaluate e s]
    exact hs
  | .aggregation w none => fun e s hs fresh => by
    have hheld : DistinctIds (w.unexpired e.timestamp s.recent) :=
      hs.sublist (unexpired_sublist ..)
    have hown := fresh _ (List.mem_singleton_self _)
    have hjudged := (Look.distinct_judged_iff hheld).mpr hown
    refine ⟨?_, hjudged⟩
    intro look hlook
    rw [List.mem_singleton.mp hlook]
    exact hjudged
  | .aggregation w (some f) => (Condition.careful models f).evaluateFiltered w
  | .positionAnomaly _ => fun _ _ hs _ => ⟨List.forall_mem_nil _, hs⟩

theorem evaluateUntil_careful (models : Models) (last : Bool) (e : VesselEvent)
    (cs : List Condition) {s : RuleState} (hs : DistinctIds s.recent)
    (fresh : ∀ look ∈ looksUntil models last e cs s, ¬ look.Readmits) :
    (∀ look ∈ looksUntil models last e cs s, DistinctIds look.judged) ∧
      DistinctIds (evaluateUntil models last e cs s).state.recent := by
  induction cs generalizing s with
  | nil => exact ⟨List.forall_mem_nil _, hs⟩
  | cons c rest ih =>
    unfold looksUntil at fresh ⊢
    rw [List.forall_mem_append] at fresh ⊢
    obtain ⟨hjudged, hstate⟩ := c.careful models e s hs fresh.1
    rw [state_evaluateUntil_cons]
    by_cases hon : (c.evaluate models e s).goesOn last
    · rw [if_pos hon] at fresh ⊢
      obtain ⟨hlater, hend⟩ := ih hstate fresh.2
      rw [if_pos hon]
      exact ⟨⟨hjudged, hlater⟩, hend⟩
    · rw [if_neg hon, if_neg hon]
      exact ⟨⟨hjudged, List.forall_mem_nil _⟩, hstate⟩

theorem Rule.evaluate_careful (models : Models) (r : Rule) (e : VesselEvent) {s : RuleState}
    (hs : DistinctIds s.recent) (fresh : ∀ look ∈ r.looks models e s, ¬ look.Readmits) :
    (∀ look ∈ r.looks models e s, DistinctIds look.judged) ∧
      DistinctIds (r.evaluate models e s).state.recent := by
  rw [Rule.state_evaluate]
  unfold Rule.looks at fresh ⊢
  cases hlogic : r.combineLogic with
  | all =>
    simp only [hlogic] at fresh ⊢
    exact evaluateUntil_careful models false e r.conditions hs fresh
  | any =>
    simp only [hlogic] at fresh ⊢
    exact evaluateUntil_careful models true e r.conditions hs fresh
  | unsupported word => exact ⟨List.forall_mem_nil _, hs⟩

theorem Rule.after_careful (models : Models) (r : Rule) (es : List VesselEvent) {s : RuleState}
    (hs : DistinctIds s.recent) (fresh : ∀ look ∈ r.looksAt models es s, ¬ look.Readmits) :
    (∀ look ∈ r.looksAt models es s, DistinctIds look.judged) ∧
      DistinctIds (r.after models es s).recent := by
  induction es generalizing s with
  | nil => exact ⟨List.forall_mem_nil _, hs⟩
  | cons e rest ih =>
    unfold Rule.looksAt at fresh ⊢
    rw [List.forall_mem_append] at fresh ⊢
    obtain ⟨hjudged, hstate⟩ := r.evaluate_careful models e hs fresh.1
    obtain ⟨hlater, hend⟩ := ih hstate fresh.2
    exact ⟨⟨hjudged, hlater⟩, hend⟩

/-! ## One aggregation readmits nothing -/

/-- An event that is new to the window is not readmitted. -/
def Unrepeating (looks : VesselEvent → RuleState → List Look) : Prop :=
  ∀ e s, DistinctIds (s.recent ++ [e]) → ∀ look ∈ looks e s, ¬ look.Readmits

section Unrepeating

variable {filter : Filter} {looks : VesselEvent → RuleState → List Look}

theorem refilter_recent_sublist
    (hsub : ∀ e s, (filter e s).state.recent.Sublist (s.recent ++ [e]))
    (past : List VesselEvent) (s : RuleState) :
    (refilter filter past s).state.recent.Sublist (s.recent ++ past) := by
  induction past generalizing s with
  | nil =>
    rw [List.append_nil]
    exact List.Sublist.refl _
  | cons e rest ih =>
    have hfront := append_single_sublist s.recent e rest
    unfold refilter
    cases hverdict : (filter e s).verdict with
    | error err =>
      simp only [hverdict]
      exact (hsub e s).trans hfront
    | ok passes =>
      simp only [hverdict]
      have hlater := (ih (filter e s).state).trans ((hsub e s).append_right rest)
      simpa using hlater

theorem Unrepeating.refilter (unrepeating : Unrepeating looks)
    (hsub : ∀ e s, (filter e s).state.recent.Sublist (s.recent ++ [e]))
    (past : List VesselEvent) {s : RuleState} (distinct : DistinctIds (s.recent ++ past)) :
    ∀ look ∈ refilterLooks filter looks past s, ¬ look.Readmits := by
  induction past generalizing s with
  | nil => exact List.forall_mem_nil _
  | cons e rest ih =>
    have hfront := append_single_sublist s.recent e rest
    unfold refilterLooks
    rw [List.forall_mem_append]
    refine ⟨unrepeating e s (distinct.sublist hfront), ?_⟩
    cases hverdict : (filter e s).verdict with
    | error err => exact List.forall_mem_nil _
    | ok passes =>
      refine ih (distinct.sublist ?_)
      simpa using (hsub e s).append_right rest

theorem Unrepeating.evaluateFiltered (unrepeating : Unrepeating looks)
    (hsub : ∀ e s, (filter e s).state.recent.Sublist (s.recent ++ [e])) (w : Window) :
    Unrepeating (w.looksFiltered filter looks) := by
  intro e s distinct
  have hunexpired := unexpired_sublist w e.timestamp s.recent
  have hpast : DistinctIds (([] : List VesselEvent) ++ w.unexpired e.timestamp s.recent) :=
    distinct.sublist (hunexpired.trans (List.sublist_append_left ..))
  unfold Window.looksFiltered
  rw [List.forall_mem_append]
  refine ⟨unrepeating.refilter hsub _ hpast, ?_⟩
  cases hkept : (w.refiltered filter e s).kept with
  | error err => exact List.forall_mem_nil _
  | ok kept =>
    have hheld := Window.refiltered_kept_sublist hkept
    have hstate : (w.refiltered filter e s).state.recent.Sublist s.recent :=
      (refilter_recent_sublist hsub _ _).trans hunexpired
    simp only [List.forall_mem_append]
    refine ⟨unrepeating e _ (distinct.sublist (hstate.append_right [e])), ?_⟩
    cases hverdict : (filter e (w.refiltered filter e s).state).verdict with
    | error err => exact List.forall_mem_nil _
    | ok admitted =>
      intro look hlook
      rw [List.mem_singleton.mp hlook]
      rintro ⟨-, hin⟩
      exact (distinctIds_append_single.mp (distinct.sublist (hheld.append_right [e]))).2 hin

end Unrepeating

theorem Condition.unrepeating (models : Models) :
    ∀ c : Condition, Unrepeating (c.looks models)
  | .value _ => fun _ _ _ _ h => absurd h List.not_mem_nil
  | .spatial _ => fun _ _ _ _ h => absurd h List.not_mem_nil
  | .temporal _ => fun _ _ _ _ h => absurd h List.not_mem_nil
  | .aggregation w none => fun e s distinct look hlook => by
    rw [List.mem_singleton.mp hlook]
    rintro ⟨-, hin⟩
    have hheld : DistinctIds (w.unexpired e.timestamp s.recent ++ [e]) :=
      distinct.sublist ((unexpired_sublist ..).append_right [e])
    exact (distinctIds_append_single.mp hheld).2 hin
  | .aggregation w (some f) =>
    (Condition.unrepeating models f).evaluateFiltered (f.recent_sublist models) w
  | .positionAnomaly _ => fun _ _ _ _ h => absurd h List.not_mem_nil

/-- The condition is an aggregation itself, whatever stands in its filter. -/
def Condition.isAggregation : Condition → Bool
  | .aggregation _ _ => true
  | _ => false

section Plain

variable {models : Models} {c : Condition} {e : VesselEvent} {s : RuleState}

theorem Condition.looks_of_plain (plain : c.isAggregation = false) : c.looks models e s = [] := by
  cases c with
  | aggregation w filter => cases plain
  | value t => rfl
  | spatial t => rfl
  | temporal t => rfl
  | positionAnomaly folder => rfl

theorem Condition.recent_of_plain (plain : c.isAggregation = false) :
    (c.evaluate models e s).state.recent = s.recent := by
  cases c with
  | aggregation w filter => cases plain
  | value t => rfl
  | spatial t => rfl
  | temporal t => exact t.recent_evaluate e s
  | positionAnomaly folder => rfl

theorem looksUntil_of_plain {last : Bool} {cs : List Condition}
    (plain : ∀ c ∈ cs, c.isAggregation = false) :
    looksUntil models last e cs s = [] ∧
      (evaluateUntil models last e cs s).state.recent = s.recent := by
  induction cs generalizing s with
  | nil => exact ⟨rfl, rfl⟩
  | cons c rest ih =>
    obtain ⟨hc, hrest⟩ := List.forall_mem_cons.mp plain
    have hrecent : (c.evaluate models e s).state.recent = s.recent := c.recent_of_plain hc
    obtain ⟨hlooks, hend⟩ := @ih (c.evaluate models e s).state hrest
    unfold looksUntil
    rw [Condition.looks_of_plain hc, state_evaluateUntil_cons, hlooks]
    split
    · exact ⟨rfl, hend.trans hrecent⟩
    · exact ⟨rfl, hrecent⟩

/-- With one aggregation among the conditions an event gets into the window once. -/
theorem looksUntil_single {last : Bool} {cs : List Condition}
    (single : cs.countP (·.isAggregation) ≤ 1) (distinct : DistinctIds (s.recent ++ [e])) :
    (∀ look ∈ looksUntil models last e cs s, ¬ look.Readmits) ∧
      (evaluateUntil models last e cs s).state.recent.Sublist (s.recent ++ [e]) := by
  induction cs generalizing s with
  | nil => exact ⟨List.forall_mem_nil _, List.sublist_append_left ..⟩
  | cons c rest ih =>
    unfold looksUntil
    rw [List.forall_mem_append, state_evaluateUntil_cons]
    cases hc : c.isAggregation with
    | true =>
      have hplain : ∀ c ∈ rest, c.isAggregation = false := by
        rw [List.countP_cons_of_pos hc] at single
        have hnone := List.countP_eq_zero.mp (Nat.le_zero.mp (Nat.le_of_succ_le_succ single))
        exact fun c hin => Bool.eq_false_iff.mpr (hnone c hin)
      have hown := c.unrepeating models e s distinct
      have hsub := c.recent_sublist models e s
      -- Behind the one aggregation nothing touches the window any more.
      obtain ⟨hlooks, hend⟩ := @looksUntil_of_plain models e (c.evaluate models e s).state last rest
        hplain
      rw [hlooks]
      split
      · rw [hend]
        exact ⟨⟨hown, List.forall_mem_nil _⟩, hsub⟩
      · exact ⟨⟨hown, List.forall_mem_nil _⟩, hsub⟩
    | false =>
      have hrecent : (c.evaluate models e s).state.recent = s.recent := c.recent_of_plain hc
      have hsingle : rest.countP (·.isAggregation) ≤ 1 := by
        rw [List.countP_cons_of_neg (by simp [hc])] at single
        exact single
      have hrest := @ih (c.evaluate models e s).state hsingle (by rw [hrecent]; exact distinct)
      rw [hrecent] at hrest
      rw [Condition.looks_of_plain hc]
      refine ⟨⟨List.forall_mem_nil _, ?_⟩, ?_⟩
      · split
        · exact hrest.1
        · exact List.forall_mem_nil _
      · split
        · exact hrest.2
        · rw [hrecent]
          exact List.sublist_append_left ..

end Plain

theorem Rule.evaluate_single (models : Models) {r : Rule}
    (single : r.conditions.countP (·.isAggregation) ≤ 1) {e : VesselEvent} {s : RuleState}
    (distinct : DistinctIds (s.recent ++ [e])) :
    (∀ look ∈ r.looks models e s, ¬ look.Readmits) ∧
      (r.evaluate models e s).state.recent.Sublist (s.recent ++ [e]) := by
  rw [Rule.state_evaluate]
  unfold Rule.looks
  cases r.combineLogic with
  | all => exact looksUntil_single single distinct
  | any => exact looksUntil_single single distinct
  | unsupported word =>
    exact ⟨List.forall_mem_nil _, List.sublist_append_left ..⟩

theorem Rule.looksAt_single (models : Models) {r : Rule}
    (single : r.conditions.countP (·.isAggregation) ≤ 1) (es : List VesselEvent) {s : RuleState}
    (distinct : DistinctIds (s.recent ++ es)) :
    ∀ look ∈ r.looksAt models es s, ¬ look.Readmits := by
  induction es generalizing s with
  | nil => exact List.forall_mem_nil _
  | cons e rest ih =>
    have hfront := append_single_sublist s.recent e rest
    obtain ⟨hnow, hsub⟩ := Rule.evaluate_single models single (distinct.sublist hfront)
    unfold Rule.looksAt
    rw [List.forall_mem_append]
    refine ⟨hnow, ih (distinct.sublist ?_)⟩
    simpa using hsub.append_right rest

/-- Over events with distinct ids, an event is never in the window nor counted twice exactly when
no aggregation lets in an event that its window holds already.  A rule with one aggregation among
its conditions never does that, however many there are in its filter. -/
theorem Rule.windows_distinct (models : Models) (r : Rule) (es : List VesselEvent)
    (distinct : DistinctIds es) :
    let looks := r.looksAt models es (RuleState.fresh r.id)
    ((DistinctIds (r.after models es (RuleState.fresh r.id)).recent ∧
        ∀ look ∈ looks, DistinctIds look.judged) ↔
      ∀ look ∈ looks, ¬ look.Readmits) ∧
    (r.conditions.countP (·.isAggregation) ≤ 1 → ∀ look ∈ looks, ¬ look.Readmits) := by
  intro looks
  have hfresh : DistinctIds (RuleState.fresh r.id).recent := List.nodup_nil
  refine ⟨⟨?_, ?_⟩, ?_⟩
  · rintro ⟨-, hjudged⟩ look hlook
    exact Look.not_readmits_of_distinct (hjudged look hlook)
  · intro hnone
    obtain ⟨hjudged, hend⟩ := r.after_careful models es hfresh hnone
    exact ⟨hend, hjudged⟩
  · intro single
    exact Rule.looksAt_single models single es distinct

/-- A rule that is met by a meeting or by a crowd. -/
def meetingOrCrowd : Rule :=
  { id := "r", description := "", priority := 0, enabled := true, exclusive := false
    combineLogic := .any
    conditions :=
      [.aggregation ⟨.pairExists, 600, 50⟩ none, .aggregation ⟨.countInWindow, 3600, 2⟩ none]
    action := ⟨"busy", "low", []⟩ }

/-- Two vessels, one after the other. -/
def arrivals : List VesselEvent := [{ (default : VesselEvent) with id := "e1" },
  { (default : VesselEvent) with id := "e2" }]

theorem windows_distinct_crowd :
    let crowd := { meetingOrCrowd with conditions := [.aggregation ⟨.countInWindow, 3600, 2⟩ none] }
    DistinctIds arrivals ∧
      DistinctIds (crowd.after (fun _ => none) arrivals (RuleState.fresh "r")).recent := by
  intro crowd
  have distinct : DistinctIds arrivals := by
    unfold DistinctIds
    decide
  obtain ⟨hiff, hsingle⟩ := crowd.windows_distinct (fun _ => none) arrivals distinct
  exact ⟨distinct, (hiff.mpr (hsingle (by decide))).1⟩

/-- The crowd that the second condition counts is the one vessel that the first one let in. -/
theorem windows_not_distinct :
    ¬ ∀ (models : Models) (r : Rule) (es : List VesselEvent), DistinctIds es →
      DistinctIds (r.after models es (RuleState.fresh r.id)).recent ∧
        ∀ look ∈ r.looksAt models es (RuleState.fresh r.id), DistinctIds look.judged := by
  intro claim
  have hone : DistinctIds [(default : VesselEvent)] := by
    unfold DistinctIds
    decide
  have hrecent : (meetingOrCrowd.after (fun _ => none) [default] (RuleState.fresh "r")).recent =
      [default, default] := by
    unfold Rule.after
    rw [List.foldl_cons, List.foldl_nil, Rule.state_evaluate]
    simp only [meetingOrCrowd]
    rw [state_evaluateUntil_cons, if_pos, state_evaluateUntil_cons]
    · split <;> rfl
    · rfl
  obtain ⟨hdistinct, -⟩ := claim (fun _ => none) meetingOrCrowd [default] hone
  change DistinctIds (meetingOrCrowd.after _ _ (RuleState.fresh "r")).recent at hdistinct
  rw [hrecent] at hdistinct
  exact absurd hdistinct (by unfold DistinctIds; decide)

end VesselWatch
