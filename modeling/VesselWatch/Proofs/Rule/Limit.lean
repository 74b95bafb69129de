/-
  Proofs/Rule/Limit.lean --- which conditions are refused for their durations.

  The reader of conditions takes no duration beyond `longestSeconds`.  To say that this is all it
  has against a condition, the reader is given with its limit left open (`Condition.within?`); the
  one in use is the member with that limit (`Condition.decodeWithin_longestSeconds`).  A reader
  with a lower limit reads what one with a higher limit reads, as long as every duration, at every
  depth of the filters, is within the lower one (`Condition.decodeWithin_iff`).
-/
import VesselWatch.Proofs.Rule.Document

set_option autoImplicit false

namespace VesselWatch

/-! ## Durations at every depth -/

namespace Condition

/-- The durations of the tests of time and of the windows in a condition, at every depth of its
filters. -/
def durations : Condition → List Nat
  | .temporal t => [t.durationSeconds]
  | .aggregation w none => [w.seconds]
  | .aggregation w (some f) => w.seconds :: f.durations
  | _ => []

/-- No duration is longer than `limit` seconds. -/
def DurationsWithin (limit : Nat) (c : Condition) : Prop :=
  ∀ seconds ∈ c.durations, seconds ≤ limit

theorem durationsWithin_aggregation {limit : Nat} {w : Window} {filter : Option Condition} :
    (aggregation w filter).DurationsWithin limit ↔
      w.seconds ≤ limit ∧ ∀ f ∈ filter, f.DurationsWithin limit := by
  unfold DurationsWithin
  cases filter <;> simp [durations]

end Condition

/-! ## Readers with any limit -/

/-- Reads a duration of at most `limit` seconds. -/
def durationWithin? (limit : Nat) (n : Node) : Option Nat :=
  (n.int? .variant 0 (Int.ofNat limit)).map Int.toNat

/-- Reads a test of time. -/
def TemporalTest.within? (limit : Nat) (n : Node) : Option TemporalTest := do
  let [op, duration] ← n.slots .variant ["op", "durationSeconds"] | none
  let op ← op
  let duration ← duration
  pure ⟨← operator? TemporalOp.words op, ← durationWithin? limit duration⟩

/-- Reads an aggregation, its filter by `filter?`. -/
def aggregationWithin? (limit : Nat) (filter? : Node → Option Condition) (n : Node) :
    Option Condition := do
  let [op, seconds, threshold, filter] ←
    n.slots .variant ["op", "windowSeconds", "threshold", "filter"] | none
  let op ← op
  let seconds ← seconds
  let threshold ← threshold
  let window : Window :=
    ⟨← operator? AggregationOp.words op, ← durationWithin? limit seconds,
      ← threshold.float? .variant⟩
  pure (.aggregation window (← Node.optional filter? filter))

/-- Reads the fields of a condition of a kind, the filter of an aggregation by `filter?`. -/
def ConditionKind.within? (limit : Nat) (filter? : Node → Option Condition) :
    ConditionKind → Node → Option Condition
  | .value, n => (ValueTest.ofNode? n).map .value
  | .spatial, n => (SpatialTest.ofNode? n).map .spatial
  | .temporal, n => (TemporalTest.within? limit n).map .temporal
  | .aggregation, n => aggregationWithin? limit filter? n
  | .positionAnomaly, n => positionAnomaly? n

/-- Reads a condition in which at most `depth` others are nested. -/
def Condition.decodeWithin (limit : Nat) : Nat → Node.Style → Node → Option Condition
  | 0, _, _ => none
  | depth + 1, style, n => do
    let (kind, rest) ← splitVariant n
    let kind ← ConditionKind.ofNode? style kind
    if rest.readable then kind.within? limit (Condition.decodeWithin limit depth .variant) rest
    else none

/-- Reads a condition whose durations are at most `limit` seconds. -/
def Condition.within? (limit : Nat) (style : Node.Style) (n : Node) : Option Condition :=
  Condition.decodeWithin limit n.height style n

/-- The limit of the reader that is in use. -/
theorem Condition.decodeWithin_longestSeconds (depth : Nat) :
    Condition.decodeWithin longestSeconds depth = Condition.decode depth := by
  induction depth with
  | zero => rfl
  | succ depth ih =>
    funext style n
    rw [decodeWithin, decode, ih]
    refine congrArg (Option.bind _) (funext fun parts => congrArg (Option.bind _) (funext ?_))
    intro kind
    cases kind <;> rfl

/-! ## What a limit does -/

theorem longestSeconds_eq : longestSeconds = 9223372036854775 := by decide

section Limit

variable {limit higher seconds : Nat} {n : Node}

theorem durationWithin?_eq_some_iff :
    durationWithin? limit n = some seconds ↔ n.bare .variant = .int seconds ∧ seconds ≤ limit := by
  unfold durationWithin? Node.int?
  cases n.bare .variant with
  | int k =>
    simp only [Option.map_eq_some_iff, Option.ite_none_right_eq_some, Option.some.injEq,
      Bool.and_eq_true, decide_eq_true_eq, Node.int.injEq]
    constructor
    · rintro ⟨_, ⟨⟨hlow, hhigh⟩, rfl⟩, rfl⟩
      exact ⟨(Int.toNat_of_nonneg hlow).symm, Int.toNat_le.mpr hhigh⟩
    · rintro ⟨rfl, hle⟩
      exact ⟨_, ⟨⟨Int.natCast_nonneg _, Int.ofNat_le.mpr hle⟩, rfl⟩, Int.toNat_natCast _⟩
  | _ => simp

theorem durationWithin?_iff (le : limit ≤ higher) :
    durationWithin? limit n = some seconds ↔
      durationWithin? higher n = some seconds ∧ seconds ≤ limit := by
  rw [durationWithin?_eq_some_iff, durationWithin?_eq_some_iff, and_assoc]
  exact and_congr_right fun _ => (and_iff_right_of_imp fun h => Nat.le_trans h le).symm

theorem TemporalTest.within?_eq_some_iff {t : TemporalTest} :
    TemporalTest.within? limit n = some t ↔
      ∃ op duration, n.slots .variant ["op", "durationSeconds"] = some [some op, some duration] ∧
        operator? TemporalOp.words op = some t.op ∧
        durationWithin? limit duration = some t.durationSeconds := by
  unfold TemporalTest.within?
  simp only [Option.bind_eq_bind, Option.bind_eq_some_iff]
  constructor
  · rintro ⟨slots, hslots, hread⟩
    split at hread
    · simp only [Option.bind_eq_some_iff] at hread
      obtain ⟨op, rfl, duration, rfl, _, hop, _, hduration, hread⟩ := hread
      cases hread
      exact ⟨op, duration, hslots, hop, hduration⟩
    · cases hread
  · rintro ⟨op, duration, hslots, hop, hduration⟩
    exact ⟨_, hslots, by simp [hop, hduration]⟩

theorem TemporalTest.within?_iff (le : limit ≤ higher) {t : TemporalTest} :
    TemporalTest.within? limit n = some t ↔
      TemporalTest.within? higher n = some t ∧ t.durationSeconds ≤ limit := by
  simp only [TemporalTest.within?_eq_some_iff, durationWithin?_iff le]
  constructor
  · rintro ⟨op, duration, hslots, hop, hduration, hlimit⟩
    exact ⟨⟨op, duration, hslots, hop, hduration⟩, hlimit⟩
  · rintro ⟨⟨op, duration, hslots, hop, hduration⟩, hlimit⟩
    exact ⟨op, duration, hslots, hop, hduration, hlimit⟩

theorem aggregationWithin?_eq_some_iff {filter? : Node → Option Condition} {c : Condition} :
    aggregationWithin? limit filter? n = some c ↔
      ∃ op seconds threshold filter w f,
        n.slots .variant ["op", "windowSeconds", "threshold", "filter"] =
          some [some op, some seconds, some threshold, filter] ∧
        operator? AggregationOp.words op = some w.op ∧
        durationWithin? limit seconds = some w.seconds ∧
        threshold.float? .variant = some w.threshold ∧
        Node.optional filter? filter = some f ∧ c = .aggregation w f := by
  unfold aggregationWithin?
  simp only [Option.bind_eq_bind, Option.bind_eq_some_iff]
  constructor
  · rintro ⟨slots, hslots, hread⟩
    split at hread
    · simp only [Option.bind_eq_some_iff] at hread
      obtain ⟨op, rfl, seconds, rfl, threshold, rfl, o, hop, k, hseconds, x, hthreshold, f, hfilter,
        hread⟩ := hread
      cases hread
      exact ⟨op, seconds, threshold, _, ⟨o, k, x⟩, f, hslots, hop, hseconds, hthreshold, hfilter,
        rfl⟩
    · cases hread
  · rintro ⟨op, seconds, threshold, filter, w, f, hslots, hop, hseconds, hthreshold, hfilter, rfl⟩
    exact ⟨_, hslots, by simp [hop, hseconds, hthreshold, hfilter]⟩

theorem Node.optional_iff {α : Type} {read wider : Node → Option α} {P : α → Prop}
    (h : ∀ n a, read n = some a ↔ wider n = some a ∧ P a) {slot : Option Node} {found : Option α} :
    Node.optional read slot = some found ↔
      Node.optional wider slot = some found ∧ ∀ a ∈ found, P a := by
  have hnone (absent : some none = some found) : ∀ a ∈ found, P a := by
    cases absent
    exact nofun
  unfold Node.optional
  split
  · exact iff_self_and.mpr hnone
  · exact iff_self_and.mpr hnone
  · simp only [Option.map_eq_some_iff, h]
    constructor
    · rintro ⟨a, ⟨hread, hP⟩, rfl⟩
      refine ⟨⟨a, hread, rfl⟩, ?_⟩
      rintro _ ⟨⟩
      exact hP
    · rintro ⟨⟨a, hread, rfl⟩, hP⟩
      exact ⟨a, ⟨hread, hP a rfl⟩, rfl⟩

theorem aggregationWithin?_iff (le : limit ≤ higher) {filter? wider? : Node → Option Condition}
    (hfilter : ∀ m f, filter? m = some f ↔ wider? m = some f ∧ f.DurationsWithin limit)
    {c : Condition} :
    aggregationWithin? limit filter? n = some c ↔
      aggregationWithin? higher wider? n = some c ∧ c.DurationsWithin limit := by
  simp only [aggregationWithin?_eq_some_iff, durationWithin?_iff le, Node.optional_iff hfilter]
  constructor
  · rintro ⟨op, seconds, threshold, filter, w, f, hslots, hop, ⟨hseconds, hlimit⟩, hthreshold,
      ⟨hread, hinner⟩, rfl⟩
    exact ⟨⟨op, seconds, threshold, filter, w, f, hslots, hop, hseconds, hthreshold, hread, rfl⟩,
      Condition.durationsWithin_aggregation.mpr ⟨hlimit, hinner⟩⟩
  · rintro ⟨⟨op, seconds, threshold, filter, w, f, hslots, hop, hseconds, hthreshold, hread, rfl⟩,
      hdurations⟩
    obtain ⟨hlimit, hinner⟩ := Condition.durationsWithin_aggregation.mp hdurations
    exact ⟨op, seconds, threshold, filter, w, f, hslots, hop, ⟨hseconds, hlimit⟩, hthreshold,
      ⟨hread, hinner⟩, rfl⟩

theorem ConditionKind.within?_iff (le : limit ≤ higher) {filter? wider? : Node → Option Condition}
    (hfilter : ∀ m f, filter? m = some f ↔ wider? m = some f ∧ f.DurationsWithin limit)
    (kind : ConditionKind) {c : Condition} :
    kind.within? limit filter? n = some c ↔
      kind.within? higher wider? n = some c ∧ c.DurationsWithin limit := by
  cases kind with
  | value =>
    refine iff_self_and.mpr fun hread => ?_
    obtain ⟨t, -, rfl⟩ := Option.map_eq_some_iff.mp hread
    exact List.forall_mem_nil _
  | spatial =>
    refine iff_self_and.mpr fun hread => ?_
    obtain ⟨t, -, rfl⟩ := Option.map_eq_some_iff.mp hread
    exact List.forall_mem_nil _
  | temporal =>
    simp only [within?, Option.map_eq_some_iff, TemporalTest.within?_iff le]
    constructor
    · rintro ⟨t, ⟨hread, hlimit⟩, rfl⟩
      exact ⟨⟨t, hread, rfl⟩, List.forall_mem_singleton.mpr hlimit⟩
    · rintro ⟨⟨t, hread, rfl⟩, hlimit⟩
      exact ⟨t, ⟨hread, hlimit _ (List.mem_singleton_self _)⟩, rfl⟩
  | aggregation => exact aggregationWithin?_iff le hfilter
  | positionAnomaly =>
    refine iff_self_and.mpr fun hread => ?_
    obtain ⟨folder, rfl⟩ := positionAnomaly_of_read hread
    exact List.forall_mem_nil _

/-- A lower limit refuses a condition just if one of its durations, at any depth, is beyond it. -/
theorem Condition.decodeWithin_iff (le : limit ≤ higher) {depth : Nat} {style : Node.Style}
    {c : Condition} :
    Condition.decodeWithin limit depth style n = some c ↔
      Condition.decodeWithin higher depth style n = some c ∧ c.DurationsWithin limit := by
  induction depth generalizing style n c with
  | zero => simp [decodeWithin]
  | succ depth ih =>
    simp only [decodeWithin, Option.bind_eq_bind, Option.bind_eq_some_iff,
      Option.ite_none_right_eq_some, ConditionKind.within?_iff le fun _ _ => ih]
    constructor
    · rintro ⟨parts, hsplit, kind, hkind, hreadable, hread, hlimit⟩
      exact ⟨⟨parts, hsplit, kind, hkind, hreadable, hread⟩, hlimit⟩
    · rintro ⟨⟨parts, hsplit, kind, hkind, hreadable, hread⟩, hlimit⟩
      exact ⟨parts, hsplit, kind, hkind, hreadable, hread, hlimit⟩

end Limit

/-- Of the conditions whose durations are numbers of 64 bits, those are read whose durations are
all within the limit. -/
theorem Condition.ofNode?_iff {style : Node.Style} {n : Node} {c : Condition} :
    Condition.ofNode? style n = some c ↔
      Condition.within? 18446744073709551615 style n = some c ∧
        c.DurationsWithin longestSeconds := by
  have hread : Condition.ofNode? style n = Condition.within? longestSeconds style n := by
    rw [Condition.ofNode?, Condition.within?, Condition.decodeWithin_longestSeconds]
  rw [hread]
  exact Condition.decodeWithin_iff (by rw [longestSeconds_eq]; omega)

end VesselWatch
