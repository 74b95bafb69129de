/-
  Proofs/Rule/Duration.lean --- how long a duration may be, and how long it lasts.

  A duration is looked at twice: when a condition is read its seconds are held against the limit
  `longestSeconds`, and when the condition is applied they are turned into a span, which is cut
  off where there is none so long.  The two agree to the second: the limit is the greatest number
  of seconds that makes a span (`isGreatest_longestSeconds`), so no condition that was read is cut
  off (`span_of_le`).
-/
import VesselWatch.Proofs.Rule.Limit
import VesselWatch.Proofs.Rule.Sighting
import Mathlib.Order.Bounds.Basic

set_option autoImplicit false

namespace VesselWatch

/-! ## Spans -/

/-- The longest duration that is read is the greatest number of seconds that makes a span. -/
theorem isGreatest_longestSeconds :
    IsGreatest {seconds : Nat | (wholeSeconds? seconds).isSome} longestSeconds := by
  have hwhole (seconds : Nat) :
      (wholeSeconds? seconds).isSome ↔ (seconds : Int) * 1000000000 ≤ longestSpan := by
    rw [wholeSeconds?_natCast]
    split <;> simp [*]
  constructor
  · rw [Set.mem_ofPred_eq, hwhole, longestSpan_eq, longestSeconds_eq]
    decide
  · intro seconds hseconds
    rw [Set.mem_ofPred_eq, hwhole, longestSpan_eq] at hseconds
    rw [longestSeconds_eq]
    omega

/-- What was read is not cut off. -/
theorem span_of_le {seconds : Nat} (le : seconds ≤ longestSeconds) :
    span seconds = (seconds : Int) * 1000000000 ∧ span seconds < longestSpan := by
  have hshort : (seconds : Int) * 1000000000 < longestSpan := by
    rw [longestSeconds_eq] at le
    rw [longestSpan_eq]
    omega
  rw [span_eq_ite, if_pos (Int.le_of_lt hshort)]
  exact ⟨rfl, hshort⟩

section Longer

variable {shorter longer : Nat}

theorem span_mono (le : shorter ≤ longer) : span shorter ≤ span longer := by
  rw [span_eq_ite, span_eq_ite]
  split <;> split <;> omega

/-- A longer window drops nothing that a shorter one keeps. -/
theorem Window.unexpired_sublist_of_le (le : shorter ≤ longer) (op : AggregationOp)
    (threshold : Float) (now : Instant) (recent : List VesselEvent) :
    (unexpired ⟨op, shorter, threshold⟩ now recent).Sublist
      (unexpired ⟨op, longer, threshold⟩ now recent) := by
  refine List.monotone_filter_right recent fun past hyoung => ?_
  exact decide_eq_true (Int.le_trans (of_decide_eq_true hyoung) (span_mono le))

/-- A longer time is not over before a shorter one. -/
theorem TemporalTest.holds_of_longer (le : shorter ≤ longer) (op : TemporalOp) (e : VesselEvent)
    (s : RuleState) (elapsed : (evaluate ⟨op, longer⟩ e s).1 = true) :
    (evaluate ⟨op, shorter⟩ e s).1 = true := by
  cases op with
  | continuousFor =>
    rw [verdict_continuousFor rfl] at elapsed ⊢
    exact decide_eq_true (Int.le_trans (span_mono le) (of_decide_eq_true elapsed))
  | noEventFor =>
    rw [verdict_noEventFor rfl, Option.any_eq_true] at elapsed ⊢
    obtain ⟨first, hfirst, elapsed⟩ := elapsed
    exact ⟨first, hfirst, decide_eq_true (Int.le_trans (span_mono le) (of_decide_eq_true elapsed))⟩

/-- How long the time is makes no difference to what is remembered. -/
theorem TemporalTest.state_evaluate_of_seconds (op : TemporalOp) (e : VesselEvent)
    (s : RuleState) : (evaluate ⟨op, longer⟩ e s).2 = (evaluate ⟨op, shorter⟩ e s).2 := by
  unfold evaluate
  cases op with
  | continuousFor => cases s.temporalStart.lookup e.vesselId <;> rfl
  | noEventFor => cases s.lastSeen.lookup e.vesselId <;> rfl

end Longer

/-! ## Reading and lasting -/

/-- In a rule that was read every duration, at any depth of the filters, lasts as many seconds as it
says and is never cut off.  Among the durations that 64 bits hold just those are refused, and the
conditions with them, that are beyond the greatest number of seconds that makes a span.  A longer
duration is never over before a shorter one, cut off or not: its window drops nothing that the
shorter one keeps, and its test of time does not hold where the shorter one does not yet. -/
theorem Rule.durations_exact (style : Node.Style) :
    (∀ n r, Rule.ofNode? style n = some r → ∀ c ∈ r.conditions, ∀ seconds ∈ c.durations,
      span seconds = (seconds : Int) * 1000000000 ∧ span seconds < longestSpan) ∧
    (∃ longest, IsGreatest {seconds : Nat | (wholeSeconds? seconds).isSome} longest ∧
      ∀ n c, Condition.ofNode? style n = some c ↔
        Condition.within? 18446744073709551615 style n = some c ∧
          ∀ seconds ∈ c.durations, seconds ≤ longest) ∧
    ∀ shorter longer, shorter ≤ longer →
      span shorter ≤ span longer ∧
      (∀ op threshold now recent,
        (Window.unexpired ⟨op, shorter, threshold⟩ now recent).Sublist
          (Window.unexpired ⟨op, longer, threshold⟩ now recent)) ∧
      ∀ op e s,
        (TemporalTest.evaluate ⟨op, longer⟩ e s).2 = (TemporalTest.evaluate ⟨op, shorter⟩ e s).2 ∧
        ((TemporalTest.evaluate ⟨op, longer⟩ e s).1 = true →
          (TemporalTest.evaluate ⟨op, shorter⟩ e s).1 = true) := by
  refine ⟨?_, ⟨longestSeconds, isGreatest_longestSeconds, ?_⟩, ?_⟩
  · intro n r read c hc seconds hseconds
    obtain ⟨m, hm⟩ := Rule.exists_read_of_mem_conditions read c hc
    exact span_of_le ((Condition.ofNode?_iff.mp hm).2 seconds hseconds)
  · intro n c
    exact Condition.ofNode?_iff
  · intro shorter longer le
    exact ⟨span_mono le, Window.unexpired_sublist_of_le le, fun op e s =>
      ⟨TemporalTest.state_evaluate_of_seconds op e s, TemporalTest.holds_of_longer le op e s⟩⟩

/-- A rule with one condition in the filter of another, which waits for a number of seconds. -/
def Node.waitingCrowd (seconds : Int) : Node :=
  .record
    [(.text "id", .text "crowd"), (.text "conditions", .list [crowd]),
     (.text "action",
       .record [(.text "alertType", .text "CROWD"), (.text "severity", .text "low")])]
where
  /-- The condition. -/
  crowd : Node :=
    .record
      [(.text "type", .text "AggregationCondition"), (.text "op", .text "count_in_window"),
       (.text "windowSeconds", .int 600), (.text "threshold", .int 2), (.text "filter", waiting)]
  /-- The condition in its filter. -/
  waiting : Node :=
    .record
      [(.text "type", .text "TemporalStateCondition"), (.text "op", .text "no_event_for"),
       (.text "durationSeconds", .int seconds)]

/-- The condition in `waitingCrowd`. -/
def Condition.waitingCrowd (seconds : Nat) : Condition :=
  .aggregation ⟨.countInWindow, 600, Float.ofInt 2⟩ (some (.temporal ⟨.noEventFor, seconds⟩))

/-- The longest duration is read and lasts as long as it says, and a second more is refused.  Of two
that are both cut off the longer one is not over before the other. -/
theorem Rule.durations_exact_longest :
    (∃ r, Rule.ofNode? .yaml (Node.waitingCrowd 9223372036854775) = some r ∧
      r.conditions = [Condition.waitingCrowd 9223372036854775]) ∧
    span 9223372036854775 = 9223372036854775000000000 ∧
    Condition.ofNode? .yaml (Node.waitingCrowd.crowd 9223372036854776) = none ∧
    (18446744073709551614 : Nat) ≤ 18446744073709551615 ∧
    span 18446744073709551614 ≤ span 18446744073709551615 := by
  obtain ⟨hexact, ⟨longest, hgreatest, hreads⟩, hlonger⟩ := Rule.durations_exact .yaml
  have hread : Rule.ofNode? .yaml (Node.waitingCrowd 9223372036854775) = some
      { id := "crowd", description := "", priority := 0, enabled := true, exclusive := false
        combineLogic := .all, conditions := [Condition.waitingCrowd 9223372036854775]
        action := ⟨"CROWD", "low", []⟩ } := by rfl
  have hwithin : Condition.within? 18446744073709551615 .yaml
      (Node.waitingCrowd.crowd 9223372036854776) =
        some (Condition.waitingCrowd 9223372036854776) := by rfl
  refine ⟨⟨_, hread, rfl⟩, ?_, ?_, by decide, (hlonger _ _ (by decide)).1⟩
  · exact (hexact _ _ hread _ (List.mem_singleton_self _) 9223372036854775
      (by simp [Condition.waitingCrowd, Condition.durations])).1
  · refine Option.eq_none_iff_forall_ne_some.mpr fun c hc => ?_
    obtain ⟨hc, hshort⟩ := (hreads _ c).mp hc
    obtain rfl := Option.some.inj (hwithin.symm.trans hc)
    have hle := hshort 9223372036854776 (by simp [Condition.waitingCrowd, Condition.durations])
    rw [hgreatest.unique isGreatest_longestSeconds, longestSeconds_eq] at hle
    omega

end VesselWatch
