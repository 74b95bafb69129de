/-
  Proofs/Rule/Written.lean --- reading a rule from what it is written as.

  WRITING KEEPS EVERYTHING.  A rule that can be written (`Rule.Writable`) is read back from the
  document that it is written as (`Rule.ofNode?_toJson`), in which every default is filled in and
  every condition is a record that begins with its kind.  A number that is not finite cannot be
  written, nor a literal that holds a key twice, nor a word for the logic that means one and is
  kept as if it did not.
-/
import VesselWatch.Proofs.Node
import VesselWatch.Rule.Document

set_option autoImplicit false

namespace VesselWatch

/-! ## What can be written -/

/-- Both coordinates are finite. -/
structure GeoPoint.Finite (p : GeoPoint) : Prop where
  lat : p.lat.isFinite = true
  lon : p.lon.isFinite = true

/-- Every number in the test is finite. -/
structure SpatialTest.Writable (t : SpatialTest) : Prop where
  polygon : ∀ p ∈ t.polygon, p.Finite
  circleCenter : ∀ p ∈ t.circleCenter, p.Finite
  otherEntity : ∀ p ∈ t.otherEntity, p.Finite
  radiusMeters : t.radiusMeters.isFinite = true
  distanceMeters : t.distanceMeters.isFinite = true

/-- The length can be written, and the threshold is finite. -/
structure Window.Writable (w : Window) : Prop where
  seconds : w.seconds ≤ longestSeconds
  threshold : w.threshold.isFinite = true

/-- The condition can be written. -/
def Condition.Writable : Condition → Prop
  | .value t => t.value.Settled
  | .spatial t => t.Writable
  | .temporal t => t.durationSeconds ≤ longestSeconds
  | .aggregation w none => w.Writable
  | .aggregation w (some f) => w.Writable ∧ f.Writable
  | .positionAnomaly _ => True

/-- The rule can be written. -/
structure Rule.Writable (r : Rule) : Prop where
  priority : Decimal.leastInt32 ≤ r.priority ∧ r.priority ≤ Decimal.greatestInt32
  combineLogic : CombineLogic.ofText r.combineLogic.text = r.combineLogic
  conditions : ∀ c ∈ r.conditions, c.Writable

/-! ## Reading what is written -/

/-- A word for the logic is kept as it was written, unless it means one. -/
theorem CombineLogic.text_ofText (s : String) :
    (CombineLogic.ofText s).text =
      if Text.upperAscii (Text.trimmed s) = "AND" then "AND"
      else if Text.upperAscii (Text.trimmed s) = "OR" then "OR" else s := by
  unfold ofText
  simp only [beq_iff_eq]
  split
  · rfl
  · split
    · rfl
    · rfl

/-- A word that was read is written as a word that is read alike. -/
theorem CombineLogic.ofText_text (s : String) :
    CombineLogic.ofText (CombineLogic.ofText s).text = CombineLogic.ofText s := by
  by_cases hand : Text.upperAscii (Text.trimmed s) = "AND"
  · have hall : ofText s = .all := by simp [ofText, hand]
    rw [hall]
    decide
  · by_cases hor : Text.upperAscii (Text.trimmed s) = "OR"
    · have hany : ofText s = .any := by simp [ofText, hor]
      rw [hany]
      decide
    · have hkept : ofText s = .unsupported s := by simp [ofText, hand, hor]
      rw [hkept, text, hkept]

theorem CompareOp.read_wordOf (op : CompareOp) : words.lookup (wordOf words op) = some op := by
  cases op <;> decide

theorem SpatialOp.read_wordOf (op : SpatialOp) : words.lookup (wordOf words op) = some op := by
  cases op <;> decide

theorem TemporalOp.read_wordOf (op : TemporalOp) : words.lookup (wordOf words op) = some op := by
  cases op <;> decide

theorem AggregationOp.read_wordOf (op : AggregationOp) :
    words.lookup (wordOf words op) = some op := by
  cases op <;> decide

/-- A list that is written item by item is read item by item. -/
theorem every?_itemsToNode {α : Type} {read : Node → Option α} {write : α → Json} {as : List α}
    (h : ∀ a ∈ as, read (write a).toNode = some a) :
    every? read (Json.itemsToNode (as.map write)) = some as := by
  induction as with
  | nil => rfl
  | cons a rest ih =>
    rw [List.forall_mem_cons] at h
    rw [List.map_cons, Json.itemsToNode, every?, h.1, ih h.2]
    rfl

section Reading

variable (style : Node.Style)

theorem Node.float?_ofFloat {x : Float} (finite : x.isFinite = true) :
    (Json.ofFloat x).toNode.float? style = some x := by
  rw [Json.ofFloat, if_pos finite]
  rfl

theorem GeoPoint.ofNode?_toJson {p : GeoPoint} (finite : p.Finite) :
    GeoPoint.ofNode? style p.toJson.toNode = some p := by
  unfold GeoPoint.ofNode? GeoPoint.toJson
  rw [Node.slots_object style (by simp)]
  change (do
    let lat ← (Json.ofFloat p.lat).toNode.float? style
    let lon ← (Json.ofFloat p.lon).toNode.float? style
    pure (GeoPoint.mk lat lon)) = some p
  rw [Node.float?_ofFloat style finite.lat, Node.float?_ofFloat style finite.lon]
  rfl

theorem Node.int?_ofInt {low high n : Int} (hlow : low ≤ n) (hhigh : n ≤ high) :
    (Json.ofInt n).toNode.int? style low high = some n := by
  change (if (decide (low ≤ n) && decide (n ≤ high)) = true then some n else none) = some n
  rw [if_pos (by simp [hlow, hhigh])]

theorem duration?_ofInt {seconds : Nat} (bounded : seconds ≤ longestSeconds) :
    duration? (Json.ofInt seconds).toNode = some seconds := by
  have hread : (Json.ofInt seconds).toNode.int? .variant 0 (Int.ofNat longestSeconds) =
      some (seconds : Int) :=
    Node.int?_ofInt .variant (Int.natCast_nonneg _) (Int.ofNat_le.mpr bounded)
  rw [duration?, hread]
  rfl

/-- An optional value is read from the field that it is written to, or left out of. -/
theorem Node.optional_map {α : Type} {read : Node → Option α} {write : α → Json} {a : Option α}
    (present : ∀ x ∈ a, (write x).toNode ≠ .null ∧ read (write x).toNode = some x) :
    Node.optional read (a.map fun x => (write x).toNode) = some a := by
  cases a with
  | none => rfl
  | some x =>
    obtain ⟨hnull, hread⟩ := present x rfl
    change Node.optional read (some (write x).toNode) = _
    unfold Node.optional
    split
    · next h => cases h
    · next h => exact absurd (Option.some.inj h) hnull
    · next n _ h =>
      rw [← Option.some.inj h, hread]
      rfl

end Reading

/-! ## Conditions -/

/-- How many conditions lie inside one another. -/
def Condition.nesting : Condition → Nat
  | .aggregation _ (some f) => f.nesting + 1
  | _ => 1

section Conditions

variable (style : Node.Style)

theorem splitVariant_object (word : String) {fields : List (String × Json)}
    (absent : "type" ∉ fields.map (·.1)) :
    splitVariant (Json.object (("type", .text word) :: fields)).toNode =
      some (.text word, (Json.object fields).toNode) := by
  have hother : ∀ field ∈ Json.fieldsToNode fields, namesKind field = false := by
    rw [Json.fieldsToNode_eq_map]
    intro field hfield
    obtain ⟨p, hp, rfl⟩ := List.mem_map.mp hfield
    refine beq_eq_false_iff_ne.mpr fun h => absent ?_
    exact List.mem_map.mpr ⟨p, hp, h⟩
  have hkind : (Json.fieldsToNode fields).filter namesKind = [] := by
    rw [List.filter_eq_nil_iff]
    intro field hfield
    rw [hother field hfield]
    exact Bool.false_ne_true
  have hrest : ((Json.fieldsToNode fields).filter fun f => !namesKind f) =
      Json.fieldsToNode fields := by
    rw [List.filter_eq_self]
    intro field hfield
    rw [hother field hfield]
    rfl
  have hfirst : namesKind (.text "type", .text word) = true := rfl
  have hkinds : ((.text "type", .text word) :: Json.fieldsToNode fields).filter namesKind =
      [(.text "type", .text word)] := by
    rw [List.filter_cons_of_pos hfirst, hkind]
  have hothers : (((.text "type", .text word) :: Json.fieldsToNode fields).filter fun f =>
      !namesKind f) = Json.fieldsToNode fields := by
    rw [List.filter_cons_of_neg (by simp [hfirst]), hrest]
  simp only [Json.toNode, Json.fieldsToNode, splitVariant, hkinds, hothers]

theorem ConditionKind.ofNode?_text {word : String} {kind : ConditionKind}
    (found : words.lookup word = some kind) :
    ConditionKind.ofNode? style (.text word) = some kind := by
  unfold ConditionKind.ofNode?
  split
  · exact found
  · exact found

/-- A record that names its kind is read by the reader of that kind. -/
theorem Condition.decode_object (depth : Nat) (kind : ConditionKind) {word : String}
    (found : ConditionKind.words.lookup word = some kind) {fields : List (String × Json)}
    (absent : "type" ∉ fields.map (·.1)) :
    Condition.decode (depth + 1) style (Json.object (("type", .text word) :: fields)).toNode =
      match kind with
      | .value => (ValueTest.ofNode? (Json.object fields).toNode).map .value
      | .spatial => (SpatialTest.ofNode? (Json.object fields).toNode).map .spatial
      | .temporal => (TemporalTest.ofNode? (Json.object fields).toNode).map .temporal
      | .aggregation => aggregation? (Condition.decode depth .variant) (Json.object fields).toNode
      | .positionAnomaly => positionAnomaly? (Json.object fields).toNode := by
  rw [Condition.decode, splitVariant_object word absent]
  change (do
    let kind ← ConditionKind.ofNode? style (.text word)
    if (Json.object fields).toNode.readable = true then _ else none) = _
  rw [ConditionKind.ofNode?_text style found, Json.readable_toNode]
  rfl

end Conditions

theorem ValueTest.ofNode?_fields {t : ValueTest} (settled : t.value.Settled) :
    ValueTest.ofNode? (Json.object [("field", .text t.field),
      ("operator", .text (wordOf CompareOp.words t.operator)), ("value", t.value)]).toNode =
      some t := by
  unfold ValueTest.ofNode?
  rw [Node.slots_object .variant (by simp)]
  change (do
    let operator ← CompareOp.words.lookup (wordOf CompareOp.words t.operator)
    let value ← t.value.toNode.toJson?
    pure (ValueTest.mk t.field operator value)) = some t
  rw [CompareOp.read_wordOf, settled]
  rfl

theorem TemporalTest.ofNode?_fields {t : TemporalTest}
    (bounded : t.durationSeconds ≤ longestSeconds) :
    TemporalTest.ofNode? (Json.object [("op", .text (wordOf TemporalOp.words t.op)),
      ("durationSeconds", .ofInt t.durationSeconds)]).toNode = some t := by
  unfold TemporalTest.ofNode?
  rw [Node.slots_object .variant (by simp)]
  change (do
    let op ← TemporalOp.words.lookup (wordOf TemporalOp.words t.op)
    let seconds ← duration? (Json.ofInt t.durationSeconds).toNode
    pure (TemporalTest.mk op seconds)) = some t
  rw [TemporalOp.read_wordOf, duration?_ofInt bounded]
  rfl

theorem positionAnomaly?_fields (folder : Option Path) :
    positionAnomaly?
      (Json.object (optionalField "modelFolder" (fun p => .text p.text) folder)).toNode =
      some (.positionAnomaly folder) := by
  cases folder with
  | none => rfl
  | some folder =>
    unfold positionAnomaly? optionalField
    rw [Node.slots_object .variant (by simp)]
    rfl

/-- What a test of the position is written as, its kind left out. -/
def SpatialTest.fields (t : SpatialTest) : List (String × Json) :=
  [("op", .text (wordOf SpatialOp.words t.op)),
   ("polygon", .array (t.polygon.map GeoPoint.toJson))]
  ++ optionalField "circleCenter" GeoPoint.toJson t.circleCenter
  ++ [("radiusMeters", Json.ofFloat t.radiusMeters),
      ("distanceMeters", Json.ofFloat t.distanceMeters)]
  ++ optionalField "otherEntity" GeoPoint.toJson t.otherEntity

theorem SpatialTest.nodup_fields (t : SpatialTest) : (t.fields.map (·.1)).Nodup := by
  obtain ⟨_, _, center, _, _, other⟩ := t
  cases center <;> cases other <;> simp [SpatialTest.fields, optionalField]

theorem SpatialTest.ofNode?_fields {t : SpatialTest} (writable : t.Writable) :
    SpatialTest.ofNode? (Json.object t.fields).toNode = some t := by
  obtain ⟨op, polygon, center, radius, distance, other⟩ := t
  have hpolygon : every? (GeoPoint.ofNode? .variant)
      (Json.itemsToNode (polygon.map GeoPoint.toJson)) = some polygon :=
    every?_itemsToNode fun p hp => GeoPoint.ofNode?_toJson .variant (writable.polygon p hp)
  have hcenter : Node.optional (GeoPoint.ofNode? .variant)
      (center.map fun p : GeoPoint => p.toJson.toNode) = some center :=
    Node.optional_map fun p hp =>
      ⟨nofun, GeoPoint.ofNode?_toJson .variant (writable.circleCenter p hp)⟩
  have hother : Node.optional (GeoPoint.ofNode? .variant)
      (other.map fun p : GeoPoint => p.toJson.toNode) = some other :=
    Node.optional_map fun p hp =>
      ⟨nofun, GeoPoint.ofNode?_toJson .variant (writable.otherEntity p hp)⟩
  unfold SpatialTest.ofNode?
  rw [Node.slots_object .variant (SpatialTest.nodup_fields _)]
  have hslots : (["op", "polygon", "circleCenter", "radiusMeters", "distanceMeters",
      "otherEntity"].map fun name =>
        ((SpatialTest.fields ⟨op, polygon, center, radius, distance, other⟩).lookup name).map
          Json.toNode) =
      [some (.text (wordOf SpatialOp.words op)),
       some (.list (Json.itemsToNode (polygon.map GeoPoint.toJson))),
       center.map fun p : GeoPoint => p.toJson.toNode, some (Json.ofFloat radius).toNode,
       some (Json.ofFloat distance).toNode, other.map fun p : GeoPoint => p.toJson.toNode] := by
    cases center <;> cases other <;> rfl
  rw [hslots]
  change (do
    let op ← SpatialOp.words.lookup (wordOf SpatialOp.words op)
    let polygon ← every? (GeoPoint.ofNode? .variant)
      (Json.itemsToNode (polygon.map GeoPoint.toJson))
    let center ← Node.optional (GeoPoint.ofNode? .variant)
      (center.map fun p : GeoPoint => p.toJson.toNode)
    let radius ← (Json.ofFloat radius).toNode.float? .variant
    let distance ← (Json.ofFloat distance).toNode.float? .variant
    let other ← Node.optional (GeoPoint.ofNode? .variant)
      (other.map fun p : GeoPoint => p.toJson.toNode)
    pure (SpatialTest.mk op polygon center radius distance other)) = _
  rw [SpatialOp.read_wordOf, hpolygon, hcenter, hother,
    Node.float?_ofFloat .variant writable.radiusMeters,
    Node.float?_ofFloat .variant writable.distanceMeters]
  rfl

theorem Condition.toNode_toJson_ne_null (c : Condition) : c.toJson.toNode ≠ .null := by
  unfold Condition.toJson
  split <;> nofun

/-- What an aggregation is written as, its kind left out. -/
def Window.fields (w : Window) (filter : Option Condition) : List (String × Json) :=
  [("op", .text (wordOf AggregationOp.words w.op)), ("windowSeconds", .ofInt w.seconds),
   ("threshold", Json.ofFloat w.threshold)]
  ++ optionalField "filter" Condition.toJson filter

theorem Window.nodup_fields (w : Window) (filter : Option Condition) :
    ((w.fields filter).map (·.1)).Nodup := by
  cases filter <;> simp [Window.fields, optionalField]

theorem aggregation?_fields {filter? : Node → Option Condition} {w : Window}
    (writable : w.Writable) {filter : Option Condition}
    (read : ∀ f ∈ filter, filter? f.toJson.toNode = some f) :
    aggregation? filter? (Json.object (w.fields filter)).toNode =
      some (.aggregation w filter) := by
  have hfilter : Node.optional filter? (filter.map fun f : Condition => f.toJson.toNode) =
      some filter :=
    Node.optional_map fun f hf => ⟨f.toNode_toJson_ne_null, read f hf⟩
  unfold aggregation?
  rw [Node.slots_object .variant (w.nodup_fields filter)]
  have hslots : (["op", "windowSeconds", "threshold", "filter"].map fun name =>
        ((w.fields filter).lookup name).map Json.toNode) =
      [some (.text (wordOf AggregationOp.words w.op)), some (Json.ofInt w.seconds).toNode,
       some (Json.ofFloat w.threshold).toNode,
       filter.map fun f : Condition => f.toJson.toNode] := by
    cases filter <;> rfl
  rw [hslots]
  change (do
    let op ← AggregationOp.words.lookup (wordOf AggregationOp.words w.op)
    let seconds ← duration? (Json.ofInt w.seconds).toNode
    let threshold ← (Json.ofFloat w.threshold).toNode.float? .variant
    let filter ← Node.optional filter? (filter.map fun f : Condition => f.toJson.toNode)
    pure (Condition.aggregation ⟨op, seconds, threshold⟩ filter)) = _
  rw [AggregationOp.read_wordOf, duration?_ofInt writable.seconds,
    Node.float?_ofFloat .variant writable.threshold, hfilter]
  rfl

/-- The fields of a condition, its kind left out. -/
def Condition.fields : Condition → List (String × Json)
  | .value t => [("field", .text t.field),
      ("operator", .text (wordOf CompareOp.words t.operator)), ("value", t.value)]
  | .spatial t => t.fields
  | .temporal t => [("op", .text (wordOf TemporalOp.words t.op)),
      ("durationSeconds", .ofInt t.durationSeconds)]
  | .aggregation w filter => w.fields filter
  | .positionAnomaly folder => optionalField "modelFolder" (fun p => .text p.text) folder

theorem Condition.toJson_eq (c : Condition) :
    c.toJson = .object (("type", .text c.kind) :: c.fields) := by
  unfold Condition.toJson
  split <;> rfl

theorem Condition.type_notMem_fields (c : Condition) : "type" ∉ c.fields.map (·.1) := by
  cases c with
  | value | temporal => simp [fields]
  | spatial t =>
    obtain ⟨_, _, center, _, _, other⟩ := t
    cases center <;> cases other <;> simp [fields, SpatialTest.fields, optionalField]
  | aggregation w filter => cases filter <;> simp [fields, Window.fields, optionalField]
  | positionAnomaly folder => cases folder <;> simp [fields, optionalField]

/-- A condition is read from what it is written as, if there is room for those inside it. -/
theorem Condition.decode_toJson (style : Node.Style) : ∀ (c : Condition) (depth : Nat),
    c.Writable → c.nesting ≤ depth → Condition.decode depth style c.toJson.toNode = some c
  | c, 0, _, room => by
    unfold nesting at room
    split at room <;> omega
  | .value t, depth + 1, writable, _ => by
    rw [toJson_eq, decode_object style depth .value rfl (type_notMem_fields _)]
    exact congrArg (Option.map Condition.value) (ValueTest.ofNode?_fields writable)
  | .spatial t, depth + 1, writable, _ => by
    rw [toJson_eq, decode_object style depth .spatial rfl (type_notMem_fields _)]
    exact congrArg (Option.map Condition.spatial) (SpatialTest.ofNode?_fields writable)
  | .temporal t, depth + 1, writable, _ => by
    rw [toJson_eq, decode_object style depth .temporal rfl (type_notMem_fields _)]
    exact congrArg (Option.map Condition.temporal) (TemporalTest.ofNode?_fields writable)
  | .aggregation w none, depth + 1, writable, _ => by
    rw [toJson_eq, decode_object style depth .aggregation rfl (type_notMem_fields _)]
    exact aggregation?_fields writable nofun
  | .aggregation w (some f), depth + 1, writable, room => by
    have hfilter : Condition.decode depth .variant f.toJson.toNode = some f :=
      decode_toJson .variant f depth writable.2 (Nat.le_of_succ_le_succ room)
    rw [toJson_eq, decode_object style depth .aggregation rfl (type_notMem_fields _)]
    refine aggregation?_fields writable.1 ?_
    rintro _ ⟨⟩
    exact hfilter
  | .positionAnomaly folder, depth + 1, _, _ => by
    rw [toJson_eq, decode_object style depth .positionAnomaly rfl (type_notMem_fields _)]
    exact positionAnomaly?_fields folder

theorem Node.height_le_fieldsHeight {key value : Node} {fields : List (Node × Node)}
    (member : (key, value) ∈ fields) : value.height ≤ Node.fieldsHeight fields := by
  induction fields with
  | nil => cases member
  | cons field rest ih =>
    obtain ⟨k, v⟩ := field
    rw [Node.fieldsHeight]
    rcases List.mem_cons.mp member with heq | member
    · cases heq
      omega
    · have := ih member
      omega

theorem Condition.nesting_le_height : ∀ c : Condition, c.nesting ≤ c.toJson.toNode.height
  | .aggregation w (some f) => by
    have hfield : (Node.text "filter", f.toJson.toNode) ∈
        Json.fieldsToNode (("type", .text (aggregation w (some f)).kind)
          :: (aggregation w (some f)).fields) := by
      rw [Json.fieldsToNode_eq_map]
      refine List.mem_map.mpr ⟨("filter", f.toJson), ?_, rfl⟩
      simp [fields, Window.fields, optionalField]
    have hheight := Node.height_le_fieldsHeight hfield
    have hinner := nesting_le_height f
    rw [toJson_eq, Json.toNode, Node.height]
    change f.nesting + 1 ≤ _
    omega
  | .value _ | .spatial _ | .temporal _ | .aggregation _ none | .positionAnomaly _ => by
    rw [toJson_eq, Json.toNode, Node.height]
    exact Nat.le_add_left 1 _

theorem Condition.ofNode?_toJson (style : Node.Style) {c : Condition} (writable : c.Writable) :
    Condition.ofNode? style c.toJson.toNode = some c :=
  decode_toJson style c _ writable c.nesting_le_height

/-! ## Rules -/

section Rules

variable (style : Node.Style)

theorem texts?_written (texts : List String) :
    texts? style (Json.array (texts.map .text)).toNode = some texts :=
  every?_itemsToNode fun _ _ => rfl

theorem Action.ofNode?_toJson (a : Action) : Action.ofNode? style a.toJson.toNode = some a := by
  unfold Action.ofNode? Action.toJson
  rw [Node.slots_object style (by simp)]
  change (do
    let notify ← texts? style (Json.array (a.notify.map .text)).toNode
    pure (Action.mk a.alertType a.severity notify)) = some a
  rw [texts?_written]
  rfl

/-- A rule is read from what it is written as. -/
theorem Rule.ofNode?_toJson {r : Rule} (writable : r.Writable) :
    Rule.ofNode? style r.toJson.toNode = some r := by
  obtain ⟨id, description, priority, enabled, exclusive, logic, conditions, action⟩ := r
  have hconditions : every? (Condition.ofNode? style)
      (Json.itemsToNode (conditions.map Condition.toJson)) = some conditions :=
    every?_itemsToNode fun c hc => Condition.ofNode?_toJson style (writable.conditions c hc)
  unfold Rule.ofNode? Rule.toJson
  rw [Node.slots_object style (by simp)]
  change (do
    let priority ← (Json.ofInt priority).toNode.int? style Decimal.leastInt32 Decimal.greatestInt32
    let conditions ← every? (Condition.ofNode? style)
      (Json.itemsToNode (conditions.map Condition.toJson))
    let action ← Action.ofNode? style action.toJson.toNode
    pure (Rule.mk id description priority enabled exclusive (CombineLogic.ofText logic.text)
      conditions action)) = _
  rw [Node.int?_ofInt style writable.priority.1 writable.priority.2, hconditions,
    Action.ofNode?_toJson, writable.combineLogic]
  rfl

end Rules

end VesselWatch
