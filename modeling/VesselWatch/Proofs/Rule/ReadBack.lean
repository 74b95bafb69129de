/-
  Proofs/Rule/ReadBack.lean --- rules that were read, written and read again.

  EVERY RULE THAT WAS READ CAN BE WRITTEN (`Rule.writable_of_ofNode?`).  A JSON value has no other
  numbers than integers of 64 bits and finite doubles, the bounds of durations and priorities were
  checked, the literals are settled, and no word for the logic is kept that means one.

  Writing therefore loses nothing of a rule that was read, and a second round changes nothing
  (`Rule.reads_back`).
-/
import VesselWatch.Proofs.Rule.Written
import VesselWatch.Proofs.Rule.Limit
import Mathlib.Data.List.Forall2

set_option autoImplicit false

namespace VesselWatch

/-! ## What is read can be written -/

section Sound

variable {style : Node.Style} {n : Node}

theorem GeoPoint.finite_of_ofNode? (legal : n.Legal) {p : GeoPoint}
    (read : GeoPoint.ofNode? style n = some p) : p.Finite := by
  unfold GeoPoint.ofNode? at read
  simp only [Option.bind_eq_bind, Option.bind_eq_some_iff] at read
  obtain ⟨slots, hslots, read⟩ := read
  have hlegal := legal.slots hslots
  split at read
  · simp only [Option.bind_eq_some_iff] at read
    obtain ⟨lat, rfl, lon, rfl, x, hx, y, hy, hread⟩ := read
    cases hread
    exact ⟨(hlegal lat (by simp)).isFinite hx, (hlegal lon (by simp)).isFinite hy⟩
  · cases read

theorem forall_of_every? {α : Type} {read : Node → Option α} {P : α → Prop} {ns : List Node}
    {as : List α} (sound : ∀ m ∈ ns, ∀ a, read m = some a → P a)
    (hread : every? read ns = some as) : ∀ a ∈ as, P a := by
  induction ns generalizing as with
  | nil =>
    cases hread
    exact List.forall_mem_nil _
  | cons m ns ih =>
    simp only [every?, Option.bind_eq_bind, Option.bind_eq_some_iff] at hread
    obtain ⟨a, ha, rest, hrest, heq⟩ := hread
    cases heq
    rw [List.forall_mem_cons] at sound
    exact List.forall_mem_cons.mpr ⟨sound.1 a ha, ih sound.2 hrest⟩

theorem forall_of_optional {α : Type} {read : Node → Option α} {P : α → Prop} {slot : Option Node}
    {value : Option α} (sound : ∀ m ∈ slot, ∀ a, read m = some a → P a)
    (hread : Node.optional read slot = some value) : ∀ a ∈ value, P a := by
  unfold Node.optional at hread
  split at hread
  · cases hread
    exact nofun
  · cases hread
    exact nofun
  · next m _ =>
    obtain ⟨a, ha, rfl⟩ := Option.map_eq_some_iff.mp hread
    rintro _ ⟨⟩
    exact sound m rfl a ha

theorem of_orElse {α : Type} {read : Node → Option α} {P : α → Prop} {slot : Option Node}
    {default value : α} (hdefault : P default) (sound : ∀ m ∈ slot, ∀ a, read m = some a → P a)
    (hread : Node.orElse read default slot = some value) : P value := by
  unfold Node.orElse at hread
  split at hread
  · cases hread
    exact hdefault
  · next m => exact sound m rfl value hread

/-- The literal of a comparison that was read is settled. -/
theorem ValueTest.settled_of_ofNode? {t : ValueTest} (read : ValueTest.ofNode? n = some t) :
    t.value.Settled := by
  unfold ValueTest.ofNode? at read
  simp only [Option.bind_eq_bind, Option.bind_eq_some_iff] at read
  obtain ⟨slots, -, read⟩ := read
  split at read
  · simp only [Option.bind_eq_some_iff] at read
    obtain ⟨_, -, _, -, value, -, _, -, _, -, literal, hliteral, hread⟩ := read
    cases hread
    exact Node.settled_of_toJson? value hliteral
  · cases read

theorem SpatialTest.writable_of_ofNode? (legal : n.Legal) {t : SpatialTest}
    (read : SpatialTest.ofNode? n = some t) : t.Writable := by
  unfold SpatialTest.ofNode? at read
  simp only [Option.bind_eq_bind, Option.bind_eq_some_iff] at read
  obtain ⟨slots, hslots, read⟩ := read
  have hlegal := legal.slots hslots
  split at read
  · next slots op polygon center radius distance other =>
    simp only [Option.bind_eq_some_iff] at read
    obtain ⟨_, rfl, _, -, vertices, hvertices, middle, hmiddle, r, hr, d, hd, entity, hentity,
      hread⟩ := read
    cases hread
    constructor
    · refine of_orElse (P := fun ps => ∀ p ∈ ps, p.Finite) (List.forall_mem_nil _) ?_ hvertices
      rintro m ⟨⟩ ps hps
      obtain ⟨ns, hns, hread⟩ := Option.bind_eq_some_iff.mp hps
      have hitems := (hlegal m (by simp)).list hns
      exact forall_of_every? (fun k hk p hp => GeoPoint.finite_of_ofNode? (hitems k hk) hp) hread
    · refine forall_of_optional ?_ hmiddle
      rintro m ⟨⟩ p hp
      exact GeoPoint.finite_of_ofNode? (hlegal m (by simp)) hp
    · refine forall_of_optional ?_ hentity
      rintro m ⟨⟩ p hp
      exact GeoPoint.finite_of_ofNode? (hlegal m (by simp)) hp
    · refine of_orElse (P := fun x : Float => x.isFinite = true)
        (Decimal.isFinite_ofInt (n := 1000) (by decide)) ?_ hr
      rintro m ⟨⟩ x hx
      exact (hlegal m (by simp)).isFinite hx
    · refine of_orElse (P := fun x : Float => x.isFinite = true)
        (Decimal.isFinite_ofInt (n := 100) (by decide)) ?_ hd
      rintro m ⟨⟩ x hx
      exact (hlegal m (by simp)).isFinite hx
  · cases read

theorem Node.bounds_of_int? {low high k : Int} (read : n.int? style low high = some k) :
    low ≤ k ∧ k ≤ high := by
  unfold Node.int? at read
  split at read
  · split at read
    · next h =>
      cases read
      simpa using h
    · cases read
  · cases read

theorem TemporalTest.bounded_of_ofNode? {t : TemporalTest}
    (read : TemporalTest.ofNode? n = some t) : t.durationSeconds ≤ longestSeconds := by
  have hread : TemporalTest.within? longestSeconds n = some t := read
  obtain ⟨_, _, -, -, hduration⟩ := TemporalTest.within?_eq_some_iff.mp hread
  exact (durationWithin?_eq_some_iff.mp hduration).2

theorem writable_of_aggregation? {filter? : Node → Option Condition} (legal : n.Legal)
    (sound : ∀ m, m.Legal → ∀ f, filter? m = some f → f.Writable) {c : Condition}
    (read : aggregation? filter? n = some c) : c.Writable := by
  have hread : aggregationWithin? longestSeconds filter? n = some c := read
  obtain ⟨op, seconds, threshold, slot, w, filter, hslots, -, hseconds, hthreshold, hfilter, rfl⟩ :=
    aggregationWithin?_eq_some_iff.mp hread
  have hlegal := legal.slots hslots
  have hwindow : w.Writable :=
    ⟨(durationWithin?_eq_some_iff.mp hseconds).2, (hlegal threshold (by simp)).isFinite hthreshold⟩
  have hinner : ∀ f ∈ filter, f.Writable := by
    refine forall_of_optional ?_ hfilter
    rintro m rfl f hf
    exact sound m (hlegal m (by simp)) f hf
  cases filter with
  | none => exact hwindow
  | some f => exact ⟨hwindow, hinner f rfl⟩

theorem splitVariant_legal (legal : n.Legal) {kind rest : Node}
    (split : splitVariant n = some (kind, rest)) : rest.Legal := by
  unfold splitVariant at split
  split at split
  · next fields =>
    split at split
    · cases split
      refine Node.legalFields_iff.mpr fun field hfield => ?_
      exact Node.legalFields_iff.mp legal field (List.mem_of_mem_filter hfield)
    · cases split
  · cases split
    exact legal.2
  · cases split

theorem Condition.writable_of_decode {depth : Nat} (legal : n.Legal) {c : Condition}
    (read : Condition.decode depth style n = some c) : c.Writable := by
  induction depth generalizing style n c with
  | zero => cases read
  | succ depth ih =>
    unfold Condition.decode at read
    simp only [Option.bind_eq_bind, Option.bind_eq_some_iff] at read
    obtain ⟨⟨_, rest⟩, hsplit, kind, -, read⟩ := read
    have hrest := splitVariant_legal legal hsplit
    split at read
    · cases kind with
      | value =>
        obtain ⟨t, ht, rfl⟩ := Option.map_eq_some_iff.mp read
        exact ValueTest.settled_of_ofNode? ht
      | spatial =>
        obtain ⟨t, ht, rfl⟩ := Option.map_eq_some_iff.mp read
        exact SpatialTest.writable_of_ofNode? hrest ht
      | temporal =>
        obtain ⟨t, ht, rfl⟩ := Option.map_eq_some_iff.mp read
        exact TemporalTest.bounded_of_ofNode? ht
      | aggregation => exact writable_of_aggregation? hrest (fun m hm f hf => ih hm hf) read
      | positionAnomaly =>
        obtain ⟨folder, rfl⟩ := positionAnomaly_of_read read
        trivial
    · cases read

theorem Rule.writable_of_ofNode? (legal : n.Legal) {r : Rule}
    (read : Rule.ofNode? style n = some r) : r.Writable := by
  unfold Rule.ofNode? at read
  simp only [Option.bind_eq_bind, Option.bind_eq_some_iff] at read
  obtain ⟨slots, hslots, read⟩ := read
  have hlegal := legal.slots hslots
  split at read
  · next conditions _ =>
    simp only [Option.bind_eq_some_iff] at read
    obtain ⟨_, -, _, -, _, -, _, -, priority, hpriority, _, -, _, -, logic, hlogic, rules,
      hrules, _, -, hread⟩ := read
    cases hread
    constructor
    · refine of_orElse (P := fun k => Decimal.leastInt32 ≤ k ∧ k ≤ Decimal.greatestInt32)
        (by decide) ?_ hpriority
      intro m _ k hk
      exact Node.bounds_of_int? hk
    · refine of_orElse (P := fun l => CombineLogic.ofText l.text = l) (by decide) ?_ hlogic
      intro m _ l hl
      obtain ⟨s, -, rfl⟩ := Option.map_eq_some_iff.mp hl
      exact CombineLogic.ofText_text s
    · refine of_orElse (P := fun cs => ∀ c ∈ cs, c.Writable) (List.forall_mem_nil _) ?_ hrules
      rintro m ⟨⟩ cs hcs
      obtain ⟨ns, hns, hread⟩ := Option.bind_eq_some_iff.mp hcs
      have hitems := (hlegal m (by simp)).list hns
      exact forall_of_every? (fun k hk c hc => Condition.writable_of_decode (hitems k hk) hc) hread
  · cases read

end Sound

/-! ## A rule that is written holds no NaN -/

theorem GeoPoint.Finite.proper {p : GeoPoint} (finite : p.Finite) : p.Proper :=
  ⟨Decimal.isNaN_of_isFinite finite.lat, Decimal.isNaN_of_isFinite finite.lon⟩

theorem SpatialTest.Writable.proper {t : SpatialTest} (writable : t.Writable) : t.Proper where
  polygon p hp := (writable.polygon p hp).proper
  circleCenter p hp := (writable.circleCenter p hp).proper
  otherEntity p hp := (writable.otherEntity p hp).proper
  radiusMeters := Decimal.isNaN_of_isFinite writable.radiusMeters
  distanceMeters := Decimal.isNaN_of_isFinite writable.distanceMeters

theorem Condition.nanFree_of_writable : ∀ c : Condition, c.Writable → c.NanFree
  | .value _, _ => trivial
  | .spatial _, writable => SpatialTest.Writable.proper writable
  | .temporal _, _ => trivial
  | .aggregation _ none, writable => Decimal.isNaN_of_isFinite (Window.Writable.threshold writable)
  | .aggregation _ (some f), writable =>
    ⟨Decimal.isNaN_of_isFinite writable.1.threshold, nanFree_of_writable f writable.2⟩
  | .positionAnomaly _, _ => trivial

/-! ## Kinds -/

/-- The word that names the kind of a condition in a document. -/
def Node.kindWord? (n : Node) : Option String :=
  (splitVariant n).bind fun parts => parts.1.text? .json

/-- The word of a kind of condition. -/
def ConditionKind.word : ConditionKind → String
  | .value => "ValueCondition"
  | .spatial => "SpatialCondition"
  | .temporal => "TemporalStateCondition"
  | .aggregation => "AggregationCondition"
  | .positionAnomaly => "PositionAnomalyCondition"

theorem ConditionKind.eq_word_of_lookup {word : String} {kind : ConditionKind}
    (found : words.lookup word = some kind) : word = kind.word := by
  have hmem := Assoc.mem_of_lookup_eq_some found
  unfold words at hmem
  simp only [List.mem_cons, Prod.mk.injEq, List.not_mem_nil, or_false] at hmem
  rcases hmem with ⟨rfl, rfl⟩ | ⟨rfl, rfl⟩ | ⟨rfl, rfl⟩ | ⟨rfl, rfl⟩ | ⟨rfl, rfl⟩ <;> rfl

theorem Condition.kindWord?_of_decode {depth : Nat} {n : Node} {c : Condition}
    (read : Condition.decode depth .json n = some c) : n.kindWord? = some c.kind := by
  cases depth with
  | zero => cases read
  | succ depth =>
    unfold Condition.decode at read
    simp only [Option.bind_eq_bind, Option.bind_eq_some_iff] at read
    obtain ⟨⟨first, rest⟩, hsplit, kind, hkind, read⟩ := read
    obtain ⟨word, hword, hlookup⟩ := Option.bind_eq_some_iff.mp hkind
    have hnode : n.kindWord? = some kind.word := by
      rw [Node.kindWord?, hsplit, ← ConditionKind.eq_word_of_lookup hlookup]
      exact hword
    rw [hnode]
    split at read
    · cases kind with
      | value =>
        obtain ⟨t, -, rfl⟩ := Option.map_eq_some_iff.mp read
        rfl
      | spatial =>
        obtain ⟨t, -, rfl⟩ := Option.map_eq_some_iff.mp read
        rfl
      | temporal =>
        obtain ⟨t, -, rfl⟩ := Option.map_eq_some_iff.mp read
        rfl
      | aggregation =>
        obtain ⟨w, rfl | ⟨m, f, -, rfl⟩⟩ := filter_of_aggregation? read
        · rfl
        · rfl
      | positionAnomaly =>
        obtain ⟨folder, rfl⟩ := positionAnomaly_of_read read
        rfl
    · cases read

/-- A condition is written with its kind. -/
theorem Condition.kindWord?_toJson (c : Condition) : c.toJson.toNode.kindWord? = some c.kind := by
  rw [toJson_eq, Node.kindWord?, splitVariant_object c.kind c.type_notMem_fields]
  rfl

theorem forall₂_of_every? {α : Type} {read : Node → Option α} {ns : List Node} {as : List α}
    (hread : every? read ns = some as) : List.Forall₂ (fun n a => read n = some a) ns as := by
  induction ns generalizing as with
  | nil =>
    cases hread
    exact .nil
  | cons n ns ih =>
    simp only [every?, Option.bind_eq_bind, Option.bind_eq_some_iff] at hread
    obtain ⟨a, ha, rest, hrest, heq⟩ := hread
    cases heq
    exact .cons ha (ih hrest)

/-! ## The round -/

/-- The fields of a rule, in their order. -/
def Rule.fieldNames : List String :=
  ["id", "description", "priority", "enabled", "exclusive", "combineLogic", "conditions", "action"]

/-- What a document gives for a field of a rule. -/
def Node.ruleField? (n : Node) (name : String) : Option Node :=
  (n.slots .json Rule.fieldNames).bind fun slots => ((Rule.fieldNames.zip slots).lookup name).join

/-- What is read for the conditions and the logic, when a document gives them. -/
theorem Rule.given_of_ofNode? {n : Node} {r : Rule} (read : Rule.ofNode? .json n = some r) :
    (∀ m, n.ruleField? "conditions" = some m →
      ∃ ns, m.list? .json = some ns ∧ every? (Condition.ofNode? .json) ns = some r.conditions) ∧
    ∀ m, n.ruleField? "combineLogic" = some m →
      (m.text? .json).map CombineLogic.ofText = some r.combineLogic := by
  unfold Rule.ofNode? at read
  simp only [Option.bind_eq_bind, Option.bind_eq_some_iff] at read
  obtain ⟨slots, hslots, read⟩ := read
  unfold Node.ruleField? Rule.fieldNames
  rw [hslots]
  split at read
  · simp only [Option.bind_eq_some_iff] at read
    obtain ⟨_, -, _, -, _, -, _, -, _, -, _, -, _, -, logic, hlogic, conditions, hconditions, _, -,
      hread⟩ := read
    cases hread
    constructor
    · rintro m ⟨⟩
      exact Option.bind_eq_some_iff.mp hconditions
    · rintro m ⟨⟩
      exact hlogic
  · cases read

/-- A rule that was read from a JSON value is read again from what it is written as, so that a
second round writes the same value.  Every condition is written at its place with its kind, and
the word for the logic as it was given, unless trimmed and in upper case it means one. -/
theorem Rule.reads_back {j : Json} (legal : j.toNode.Legal) {r : Rule}
    (read : Rule.ofNode? .json j.toNode = some r) :
    (Rule.ofNode? .json r.toJson.toNode = some r ∧ r.same r = true ∧
      (Rule.ofNode? .json r.toJson.toNode).map Rule.toJson = some r.toJson) ∧
    (∀ given, j.toNode.ruleField? "conditions" = some (.list given) →
      ∃ written, r.toJson.field? "conditions" = some (.array written) ∧
        List.Forall₂ (fun n w => ∃ c, Condition.ofNode? .json n = some c ∧ w = c.toJson ∧
          n.kindWord? = some c.kind ∧ w.toNode.kindWord? = some c.kind) given written) ∧
    ∀ word, j.toNode.ruleField? "combineLogic" = some (.text word) →
      r.toJson.field? "combineLogic" = some (.text (
        if Text.upperAscii (Text.trimmed word) = "AND" then "AND"
        else if Text.upperAscii (Text.trimmed word) = "OR" then "OR" else word)) := by
  have hwritable : r.Writable := Rule.writable_of_ofNode? legal read
  have hback : Rule.ofNode? .json r.toJson.toNode = some r := Rule.ofNode?_toJson .json hwritable
  have hproper : r.Proper := Rule.proper_of_ofNode? read fun c hc =>
    c.nanFree_of_writable (hwritable.conditions c hc)
  obtain ⟨hconditions, hlogic⟩ := Rule.given_of_ofNode? read
  refine ⟨⟨hback, Rule.same_self hproper, by rw [hback]; rfl⟩, ?_, ?_⟩
  · intro given hgiven
    obtain ⟨ns, ⟨⟩, hread⟩ := hconditions _ hgiven
    refine ⟨r.conditions.map Condition.toJson, rfl, ?_⟩
    rw [List.forall₂_map_right_iff]
    refine (forall₂_of_every? hread).imp fun n c hc => ?_
    exact ⟨c, hc, rfl, Condition.kindWord?_of_decode hc, c.kindWord?_toJson⟩
  · intro word hgiven
    have htext : CombineLogic.ofText word = r.combineLogic := Option.some.inj (hlogic _ hgiven)
    rw [← CombineLogic.text_ofText, htext]
    rfl

/-- A rule of two conditions, the first with one inside it, with few of its optional fields. -/
def Rule.crowdDocument : Json :=
  .object
    [("conditions", .array
       [.object
          [("op", .text "count_in_window"), ("windowSeconds", .ofInt 60), ("threshold", .ofInt 3),
           ("filter", .object
             [("field", .text "sog"), ("operator", .text ">"), ("value", .array [.ofInt 20]),
              ("type", .text "ValueCondition")]),
           ("type", .text "AggregationCondition")],
        .object [("type", .text "SpatialCondition"), ("op", .text "in_circle")]]),
     ("combineLogic", .text " Or "), ("id", .text "crowd"),
     ("action", .object [("alertType", .text "CROWD"), ("severity", .text "low")])]

/-- The rule in `crowdDocument`. -/
def Rule.crowd : Rule where
  id := "crowd"
  description := ""
  priority := 0
  enabled := true
  exclusive := false
  combineLogic := .any
  conditions :=
    [.aggregation ⟨.countInWindow, 60, Float.ofInt 3⟩
       (some (.value ⟨"sog", .greater, .array [.ofInt 20]⟩)),
     .spatial ⟨.inCircle, [], none, 1000, 100, none⟩]
  action := ⟨"CROWD", "low", []⟩

theorem Rule.reads_back_crowd :
    Rule.ofNode? .json crowd.toJson.toNode = some crowd ∧
      crowd.toJson.field? "combineLogic" = some (.text "OR") := by
  have hlegal : crowdDocument.toNode.Legal := by
    simp [crowdDocument, Json.toNode, Json.itemsToNode, Json.fieldsToNode, Json.ofInt, Node.Legal,
      Node.LegalItems, Node.LegalFields, Number.least, Number.greatest]
  have hread : Rule.ofNode? .json crowdDocument.toNode = some crowd := by rfl
  obtain ⟨⟨hback, -, -⟩, -, hlogic⟩ := Rule.reads_back hlegal hread
  exact ⟨hback, hlogic " Or " rfl⟩

end VesselWatch
