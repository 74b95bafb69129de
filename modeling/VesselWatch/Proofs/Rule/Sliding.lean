/-
  Proofs/Rule/Sliding.lean --- what a window holds after a row of events.

  Each event drops what has grown too old by its own time and what its filter refuses, and
  is admitted if the filter lets it pass.  What was dropped is gone for good, though a later
  event may be of an earlier time.  So an event is still there exactly if it was admitted
  and every event behind it has kept it (`Turn.survivors`), and that is what is counted
  (`Turn.recent_eq_survivors`).

  The window and the filter may be others for each event.  The filters are those that
  look at one event and lack nothing (`Condition.IsPlain`).
-/
import VesselWatch.Proofs.Rule.Evaluate
import Mathlib.Data.List.Induction

set_option autoImplicit false

namespace VesselWatch

/-- The condition looks at the event alone and has what it needs. -/
def Condition.IsPlain : Condition → Prop
  | .value _ => True
  | .spatial t =>
    match t.op with
    | .inPolygon => 3 ≤ t.polygon.length
    | .inCircle => t.circleCenter.isSome
    | .nearPoint => True
  | .positionAnomaly _ => True
  | .temporal _ => False
  | .aggregation _ _ => False

/-- The condition holds for an event, by a rule that has seen nothing. -/
def Condition.holds (models : Models) (c : Condition) (e : VesselEvent) : Bool :=
  match (c.evaluate models e (RuleState.fresh "")).verdict with
  | .ok b => b
  | .error _ => false

/-- An event that is met by an aggregation. -/
structure Turn where
  window : Window
  filter : Option Condition
  event : VesselEvent

namespace Turn

variable (models : Models)

/-- The filter lets an event pass. -/
def passes (t : Turn) (e : VesselEvent) : Bool := t.filter.all fun f => f.holds models e

/-- An event of the window is not too old and the filter lets it pass. -/
def keeps (t : Turn) (past : VesselEvent) : Bool :=
  decide (t.event.timestamp.since past.timestamp ≤ span t.window.seconds) && t.passes models past

/-- Applies the aggregation to its event. -/
def evaluate (t : Turn) (s : RuleState) : Outcome ConditionError :=
  (Condition.aggregation t.window t.filter).evaluate models t.event s

/-- The memory after a row of events. -/
def run (turns : List Turn) (s : RuleState) : RuleState :=
  turns.foldl (fun s t => (t.evaluate models s).state) s

/-- The events that were admitted and that each later turn has kept, in the order of their
arrival. -/
def survivors : List Turn → List VesselEvent
  | [] => []
  | t :: later =>
    if t.passes models t.event && later.all fun u => u.keeps models t.event then
      t.event :: survivors later
    else survivors later

/-! ## The survivors -/

theorem survivors_append_single (turns : List Turn) (t : Turn) :
    survivors models (turns ++ [t]) =
      (survivors models turns).filter (t.keeps models) ++
        if t.passes models t.event then [t.event] else [] := by
  induction turns with
  | nil => simp [survivors]
  | cons u later ih =>
    -- The last turn has its say about every survivor of the turns before it.
    have hall : (later ++ [t]).all (fun v => v.keeps models u.event) =
        ((later.all fun v => v.keeps models u.event) && t.keeps models u.event) := by
      rw [List.all_append, List.all_cons, List.all_nil, Bool.and_true]
    rw [List.cons_append, survivors, survivors, ih, hall, ← Bool.and_assoc]
    cases hheld : u.passes models u.event && later.all fun v => v.keeps models u.event with
    | false => simp
    | true => cases hkept : t.keeps models u.event <;> simp [hkept]

/-- No turn gives more than one entry, and the entries stand in the order of their turns. -/
theorem survivors_sublist (turns : List Turn) :
    (survivors models turns).Sublist (turns.map (·.event)) := by
  induction turns with
  | nil => exact .slnil
  | cons t later ih =>
    rw [survivors, List.map_cons]
    split
    · exact ih.cons_cons _
    · exact ih.cons _

end Turn

/-! ## One turn -/

section Plain

variable (models : Models)

theorem SpatialTest.evaluate_of_isPlain {t : SpatialTest} (plain : (Condition.spatial t).IsPlain)
    (e : VesselEvent) : ∃ b, t.evaluate e = .ok b := by
  simp only [Condition.IsPlain] at plain
  unfold SpatialTest.evaluate
  cases hop : t.op with
  | inPolygon =>
    rw [hop] at plain
    exact ⟨_, if_neg (Nat.not_lt.mpr plain)⟩
  | inCircle =>
    rw [hop] at plain
    obtain ⟨center, hcenter⟩ := Option.isSome_iff_exists.mp plain
    exact ⟨_, by rw [hcenter]⟩
  | nearPoint => cases t.otherEntity <;> exact ⟨_, rfl⟩

theorem Condition.IsPlain.evaluate {c : Condition} (plain : c.IsPlain) (e : VesselEvent)
    (s : RuleState) :
    (c.evaluate models e s).verdict = .ok (c.holds models e) ∧
      (c.evaluate models e s).state = s := by
  cases c with
  | value t => exact ⟨rfl, rfl⟩
  | positionAnomaly folder => exact ⟨rfl, rfl⟩
  | temporal t => cases plain
  | aggregation w f => cases plain
  | spatial t =>
    obtain ⟨b, hb⟩ := SpatialTest.evaluate_of_isPlain plain e
    simp [Condition.holds, Condition.evaluate, hb]

theorem refilter_of_isPlain {f : Condition} (plain : f.IsPlain) (past : List VesselEvent)
    (s : RuleState) :
    (refilter (f.evaluate models) past s).kept = .ok (past.filter (f.holds models)) ∧
      (refilter (f.evaluate models) past s).state = s := by
  induction past with
  | nil => exact ⟨rfl, rfl⟩
  | cons e rest ih =>
    obtain ⟨hverdict, hstate⟩ := plain.evaluate models e s
    obtain ⟨hkept, hend⟩ := ih
    unfold refilter
    simp only [hverdict, hstate, hkept, hend]
    cases hpasses : f.holds models e <;> simp [hpasses, Except.map]

end Plain

namespace Turn

variable (models : Models)

/-- What a turn leaves in the window, and what it says of it. -/
theorem evaluate_eq (t : Turn) (plain : ∀ f ∈ t.filter, f.IsPlain) (s : RuleState) :
    let recent := s.recent.filter (t.keeps models) ++
      if t.passes models t.event then [t.event] else []
    (t.evaluate models s).verdict = .ok (t.window.verdict recent) ∧
      (t.evaluate models s).state = { s with recent := recent } := by
  obtain ⟨w, filter, e⟩ := t
  cases filter with
  | none =>
    have hkeeps : w.unexpired e.timestamp s.recent =
        s.recent.filter (keeps models ⟨w, none, e⟩) :=
      List.filter_congr fun past _ => by simp [keeps, passes]
    simp only [evaluate, Condition.evaluate, Window.evaluate, hkeeps, passes, Option.all_none,
      if_true]
    exact ⟨trivial, trivial⟩
  | some f =>
    have hplain : f.IsPlain := plain f rfl
    obtain ⟨hkept, hstate⟩ := refilter_of_isPlain models hplain
      (w.unexpired e.timestamp s.recent) { s with recent := [] }
    -- Pruning and filtering anew, one after the other, are one filter.
    have hkeeps : (w.unexpired e.timestamp s.recent).filter (f.holds models) =
        s.recent.filter (keeps models ⟨w, some f, e⟩) := by
      unfold Window.unexpired
      rw [List.filter_filter]
      exact List.filter_congr fun past _ => by simp [keeps, passes, Bool.and_comm]
    rw [hkeeps] at hkept
    obtain ⟨hverdict, hnew⟩ :=
      hplain.evaluate models e (w.refiltered (f.evaluate models) e s).state
    have heq := Window.evaluateFiltered_of_ok hkept hverdict
    have hadmitted : (if f.holds models e then
          s.recent.filter (keeps models ⟨w, some f, e⟩) ++ [e]
        else s.recent.filter (keeps models ⟨w, some f, e⟩)) =
        s.recent.filter (keeps models ⟨w, some f, e⟩) ++
          if f.holds models e then [e] else [] := by
      cases f.holds models e <;> simp
    rw [hadmitted, hnew] at heq
    have hturn : evaluate models ⟨w, some f, e⟩ s =
        w.evaluateFiltered (f.evaluate models) e s := rfl
    rw [hturn, heq]
    refine ⟨rfl, ?_⟩
    unfold Window.refiltered
    rw [hstate]
    rfl

/-! ## A row of turns -/

theorem run_fresh {turns : List Turn} (plain : ∀ t ∈ turns, ∀ f ∈ t.filter, f.IsPlain)
    (id : String) :
    run models turns (RuleState.fresh id) =
      { RuleState.fresh id with recent := survivors models turns } := by
  -- By the last turn, which sees what the turns before it have left.
  induction turns using List.reverseRecOn with
  | nil => rfl
  | append_singleton before t ih =>
    have hbefore := ih fun u hu => plain u (List.mem_append_left _ hu)
    have ht := plain t (List.mem_append_right _ (List.mem_singleton_self t))
    have hrun : run models (before ++ [t]) (RuleState.fresh id) =
        (t.evaluate models (run models before (RuleState.fresh id))).state := by
      unfold run
      rw [List.foldl_append, List.foldl_cons, List.foldl_nil]
    rw [hrun, hbefore, (t.evaluate_eq models ht _).2, survivors_append_single]

end Turn

/-- There is a close pair if some event and a later one are close. -/
theorem hasClosePair_iff {distance : Float} {recent : List VesselEvent} :
    hasClosePair distance recent = true ↔
      ∃ a b, [a, b].Sublist recent ∧ Geo.distance a.location b.location < distance := by
  induction recent with
  | nil => simp [hasClosePair]
  | cons first rest ih =>
    rw [hasClosePair, Bool.or_eq_true, ih, List.any_eq_true]
    constructor
    · rintro (⟨b, hb, hclose⟩ | ⟨a, b, hsub, hclose⟩)
      · refine ⟨first, b, (List.singleton_sublist.mpr hb).cons_cons first, ?_⟩
        exact of_decide_eq_true hclose
      · exact ⟨a, b, hsub.cons first, hclose⟩
    · rintro ⟨a, b, hsub, hclose⟩
      rcases List.sublist_cons_iff.mp hsub with hsub | ⟨later, hlater, hsub⟩
      · exact Or.inr ⟨a, b, hsub, hclose⟩
      · obtain ⟨rfl, rfl⟩ := List.cons.inj hlater
        exact Or.inl ⟨b, List.singleton_sublist.mp hsub, decide_eq_true hclose⟩

/-- After a row of events, whatever their times are, the window holds those that were admitted and
that every later event has kept, in the order of their arrival; nothing else is remembered.  The
verdict on the last event is about these, whether or not it is one of them. -/
theorem Turn.recent_eq_survivors (models : Models) (before : List Turn) (last : Turn)
    (plain : ∀ t ∈ before ++ [last], ∀ f ∈ t.filter, f.IsPlain) (id : String) :
    let recent := survivors models (before ++ [last])
    let o := last.evaluate models (run models before (RuleState.fresh id))
    o.state = { RuleState.fresh id with recent := recent } ∧
    recent.Sublist ((before ++ [last]).map (·.event)) ∧
    (last.window.op = .countInWindow →
      o.verdict = .ok (decide (last.window.threshold ≤ Float.ofNat recent.length))) ∧
    (last.window.op = .pairExists → ∃ b, o.verdict = .ok b ∧ (b = true ↔
      ∃ x y, [x, y].Sublist recent ∧
        Geo.distance x.location y.location < last.window.threshold)) := by
  intro recent o
  have hbefore := run_fresh models (fun t ht => plain t (List.mem_append_left _ ht)) id
  have hlast := plain last (List.mem_append_right _ (List.mem_singleton_self last))
  have hstep := last.evaluate_eq models hlast (run models before (RuleState.fresh id))
  rw [hbefore] at hstep
  have hrecent : (survivors models before).filter (last.keeps models) ++
      (if last.passes models last.event then [last.event] else []) = recent :=
    (survivors_append_single models before last).symm
  have hverdict : o.verdict = .ok (last.window.verdict recent) := by
    rw [← hrecent]
    simpa only [o, hbefore] using hstep.1
  have hstate : o.state = { RuleState.fresh id with recent := recent } := by
    rw [← hrecent]
    simpa only [o, hbefore] using hstep.2
  refine ⟨hstate, survivors_sublist models _, fun hop => ?_, fun hop => ⟨_, hverdict, ?_⟩⟩
  · rw [hverdict, Window.verdict, hop]
  · rw [Window.verdict, hop]
    exact hasClosePair_iff

/-- A filter that nothing passes empties the window, and an event of a later time drops the one
before it for good, though the last event would have kept it. -/
theorem recent_eq_survivors_late :
    let turn (id : String) (second : Nat) (filter : Option Condition) : Turn :=
      ⟨⟨.countInWindow, 60, 2⟩, filter,
        { (default : VesselEvent) with id := id, timestamp := ⟨0, second, 0⟩ }⟩
    let nowhere : Condition := .spatial ⟨.nearPoint, [], none, 0, 0, none⟩
    let before := [turn "a" 0 none, turn "b" 0 (some nowhere), turn "c" 0 none, turn "d" 100 none]
    let o := (turn "e" 50 none).evaluate (fun _ => none)
      (Turn.run (fun _ => none) before (RuleState.fresh "r"))
    (∀ t ∈ before ++ [turn "e" 50 none], ∀ f ∈ t.filter, f.IsPlain) ∧
      o.state.recent.map (·.id) = ["d", "e"] ∧ o.verdict = .ok true := by
  intro turn nowhere before o
  have plain : ∀ t ∈ before ++ [turn "e" 50 none], ∀ f ∈ t.filter, f.IsPlain := by
    intro t ht f hf
    simp only [before, List.cons_append, List.nil_append, List.mem_cons, List.not_mem_nil,
      or_false] at ht
    rcases ht with rfl | rfl | rfl | rfl | rfl
    · cases hf
    · cases hf
      trivial
    · cases hf
    · cases hf
    · cases hf
  obtain ⟨hstate, -, hcount, -⟩ :=
    Turn.recent_eq_survivors (fun _ => none) before (turn "e" 50 none) plain "r"
  have hids : (Turn.survivors (fun _ => none) (before ++ [turn "e" 50 none])).map (·.id) =
      ["d", "e"] := by decide +kernel
  refine ⟨plain, ?_, ?_⟩
  · have hrecent : o.state.recent =
        Turn.survivors (fun _ => none) (before ++ [turn "e" 50 none]) := by
      rw [hstate]
    rw [hrecent]
    exact hids
  · have hlength := congrArg List.length hids
    rw [List.length_map] at hlength
    rw [hcount rfl, hlength]
    decide +kernel

end VesselWatch
