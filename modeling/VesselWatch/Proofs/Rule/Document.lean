/-
  Proofs/Rule/Document.lean --- what holds of every rule that was read.

  The literal of a comparison that was read holds no NaN and no object with a key twice
  (`Node.proper_of_toJson?`): a double that is no number is read as `null`, and of a repeated key
  one value stays.  What a document can bring a NaN to are the other numbers of a
  condition.  A rule in which none of these is one (`Rule.NanFree`) is therefore proper when it
  was read from a file (`RuleFile.proper_of_read`).
-/
import VesselWatch.Proofs.Rule.Same
import VesselWatch.Rule.File

set_option autoImplicit false

namespace VesselWatch

/-! ## Literals -/

theorem Json.properFields_iff {fields : List (String × Json)} :
    Json.ProperFields fields ↔ ∀ field ∈ fields, field.2.Proper := by
  induction fields with
  | nil => simp [Json.ProperFields]
  | cons field rest ih =>
    obtain ⟨key, value⟩ := field
    rw [Json.ProperFields, ih, List.forall_mem_cons]

theorem Decimal.isNaN_of_isFinite {x : Float} (finite : x.isFinite = true) : x.isNaN = false := by
  change x.toModel.unpack.isFinite = true at finite
  change x.toModel.unpack.isNaN = false
  cases hx : x.toModel.unpack with
  | notANumber =>
    rw [hx] at finite
    cases finite
  | infinity _ => rfl
  | zero _ => rfl
  | finite _ _ _ _ => rfl

theorem Json.proper_ofFloat (x : Float) : (Json.ofFloat x).Proper := by
  unfold Json.ofFloat
  split
  · next finite =>
    rw [Json.Proper]
    exact Decimal.isNaN_of_isFinite finite
  · simp [Json.Proper]

/-- One field more, or one that is replaced. -/
theorem Json.Proper.putField {fields : List (String × Json)} (proper : (Json.object fields).Proper)
    (key : String) {value : Json} (hvalue : value.Proper) :
    (Json.object (Assoc.put key value fields)).Proper := by
  rw [Json.Proper, Json.properFields_iff] at proper ⊢
  refine ⟨Assoc.nodup_keys_put key value proper.1, fun field hfield => ?_⟩
  rcases Assoc.eq_or_mem_of_mem_put hfield with rfl | hfield
  · exact hvalue
  · exact proper.2 field hfield

mutual

theorem Node.proper_of_toJson? (n : Node) {j : Json} (read : n.toJson? = some j) : j.Proper := by
  cases n with
  | null | bool | int | text =>
    cases read
    simp [Json.Proper]
  | real x =>
    cases read
    exact Json.proper_ofFloat x
  | list items =>
    obtain ⟨items', hitems, rfl⟩ := Option.map_eq_some_iff.mp read
    rw [Json.Proper]
    exact Node.proper_of_itemsToJson? items hitems
  | record fields =>
    obtain ⟨fields', hfields, rfl⟩ := Option.map_eq_some_iff.mp read
    refine Node.proper_of_fieldsToJson? fields ?_ hfields
    rw [Json.Proper]
    exact ⟨List.nodup_nil, trivial⟩
  | tagged | unreadable => cases read

theorem Node.proper_of_itemsToJson? (ns : List Node) {items : List Json}
    (read : Node.itemsToJson? ns = some items) : Json.ProperItems items := by
  cases ns with
  | nil =>
    cases read
    trivial
  | cons n ns =>
    simp only [Node.itemsToJson?, Option.bind_eq_bind, Option.bind_eq_some_iff] at read
    obtain ⟨x, hx, xs, hxs, hread⟩ := read
    cases hread
    exact ⟨Node.proper_of_toJson? n hx, Node.proper_of_itemsToJson? ns hxs⟩

theorem Node.proper_of_fieldsToJson? (fields : List (Node × Node)) {done all : List (String × Json)}
    (proper : (Json.object done).Proper) (read : Node.fieldsToJson? done fields = some all) :
    (Json.object all).Proper := by
  cases fields with
  | nil =>
    cases read
    exact proper
  | cons field rest =>
    obtain ⟨key, value⟩ := field
    cases key with
    | text key =>
      simp only [Node.fieldsToJson?, Option.bind_eq_bind, Option.bind_eq_some_iff] at read
      obtain ⟨v, hv, hrest⟩ := read
      have hput := proper.putField key (Node.proper_of_toJson? value hv)
      exact Node.proper_of_fieldsToJson? rest hput hrest
    | _ => cases read

end

/-! ## Conditions -/

/-- No number in the condition is a NaN.  Of the literal of a comparison this says nothing. -/
def Condition.NanFree : Condition → Prop
  | .value _ => True
  | .spatial t => t.Proper
  | .temporal _ => True
  | .aggregation w none => w.threshold.isNaN = false
  | .aggregation w (some f) => w.threshold.isNaN = false ∧ f.NanFree
  | .positionAnomaly _ => True

/-- No number in the rule is a NaN. -/
def Rule.NanFree (r : Rule) : Prop := ∀ c ∈ r.conditions, c.NanFree

theorem ValueTest.proper_of_ofNode? {n : Node} {t : ValueTest}
    (read : ValueTest.ofNode? n = some t) : t.value.Proper := by
  unfold ValueTest.ofNode? at read
  simp only [Option.bind_eq_bind, Option.bind_eq_some_iff] at read
  obtain ⟨slots, -, read⟩ := read
  split at read
  · simp only [Option.bind_eq_some_iff] at read
    obtain ⟨_, -, _, -, value, -, _, -, _, -, literal, hliteral, hread⟩ := read
    cases hread
    exact Node.proper_of_toJson? value hliteral
  · cases read

/-- An aggregation that was read has no filter or one that was read. -/
theorem filter_of_aggregation? {filter? : Node → Option Condition} {n : Node} {c : Condition}
    (read : aggregation? filter? n = some c) :
    ∃ w, c = .aggregation w none ∨ ∃ m f, filter? m = some f ∧ c = .aggregation w (some f) := by
  unfold aggregation? at read
  simp only [Option.bind_eq_bind, Option.bind_eq_some_iff] at read
  obtain ⟨slots, -, read⟩ := read
  split at read
  · next filter =>
    simp only [Option.bind_eq_some_iff] at read
    obtain ⟨_, -, _, -, _, -, _, -, _, -, _, -, filter', hfilter, hread⟩ := read
    cases hread
    unfold Node.optional at hfilter
    split at hfilter
    · cases hfilter
      exact ⟨_, .inl rfl⟩
    · cases hfilter
      exact ⟨_, .inl rfl⟩
    · next m _ =>
      obtain ⟨f, hf, rfl⟩ := Option.map_eq_some_iff.mp hfilter
      exact ⟨_, .inr ⟨m, f, hf, rfl⟩⟩
  · cases read

theorem positionAnomaly_of_read {n : Node} {c : Condition} (read : positionAnomaly? n = some c) :
    ∃ folder, c = .positionAnomaly folder := by
  unfold positionAnomaly? at read
  simp only [Option.bind_eq_bind, Option.bind_eq_some_iff] at read
  obtain ⟨slots, -, read⟩ := read
  split at read
  · simp only [Option.bind_eq_some_iff] at read
    obtain ⟨folder, -, hread⟩ := read
    cases hread
    exact ⟨folder, rfl⟩
  · cases read

theorem Condition.proper_of_decode {depth : Nat} {style : Node.Style} {n : Node} {c : Condition}
    (read : Condition.decode depth style n = some c) (numbers : c.NanFree) : c.Proper := by
  induction depth generalizing style n c with
  | zero => cases read
  | succ depth ih =>
    unfold Condition.decode at read
    simp only [Option.bind_eq_bind, Option.bind_eq_some_iff] at read
    obtain ⟨⟨_, rest⟩, -, kind, -, read⟩ := read
    split at read
    · cases kind with
      | value =>
        obtain ⟨t, ht, rfl⟩ := Option.map_eq_some_iff.mp read
        exact ValueTest.proper_of_ofNode? ht
      | spatial =>
        obtain ⟨t, -, rfl⟩ := Option.map_eq_some_iff.mp read
        exact numbers
      | temporal =>
        obtain ⟨t, -, rfl⟩ := Option.map_eq_some_iff.mp read
        trivial
      | aggregation =>
        obtain ⟨w, rfl | ⟨m, f, hf, rfl⟩⟩ := filter_of_aggregation? read
        · exact numbers
        · exact ⟨numbers.1, ih hf numbers.2⟩
      | positionAnomaly =>
        obtain ⟨folder, rfl⟩ := positionAnomaly_of_read read
        trivial
    · cases read

/-! ## Rules -/

theorem exists_read_of_mem_every? {α : Type} {read : Node → Option α} {ns : List Node}
    {as : List α} (hread : every? read ns = some as) : ∀ a ∈ as, ∃ n, read n = some a := by
  induction ns generalizing as with
  | nil =>
    cases hread
    exact List.forall_mem_nil _
  | cons n ns ih =>
    simp only [every?, Option.bind_eq_bind, Option.bind_eq_some_iff] at hread
    obtain ⟨a, ha, rest, hrest, heq⟩ := hread
    cases heq
    exact List.forall_mem_cons.mpr ⟨⟨n, ha⟩, ih hrest⟩

/-- Every condition of a rule that was read was read itself. -/
theorem Rule.exists_read_of_mem_conditions {style : Node.Style} {n : Node} {r : Rule}
    (read : Rule.ofNode? style n = some r) :
    ∀ c ∈ r.conditions, ∃ m, Condition.ofNode? style m = some c := by
  unfold Rule.ofNode? at read
  simp only [Option.bind_eq_bind, Option.bind_eq_some_iff] at read
  obtain ⟨slots, -, read⟩ := read
  split at read
  · simp only [Option.bind_eq_some_iff] at read
    obtain ⟨_, -, _, -, _, -, _, -, _, -, _, -, _, -, _, -, conditions, hconditions, _, -, hread⟩ :=
      read
    cases hread
    intro c hc
    unfold Node.orElse at hconditions
    split at hconditions
    · cases hconditions
      exact absurd hc List.not_mem_nil
    · obtain ⟨ns, -, hns⟩ := Option.bind_eq_some_iff.mp hconditions
      exact exists_read_of_mem_every? hns c hc
  · cases read

theorem Rule.proper_of_ofNode? {style : Node.Style} {n : Node} {r : Rule}
    (read : Rule.ofNode? style n = some r) (numbers : r.NanFree) : r.Proper := by
  intro c hc
  obtain ⟨m, hm⟩ := Rule.exists_read_of_mem_conditions read c hc
  exact Condition.proper_of_decode hm (numbers c hc)

theorem RuleFile.proper_of_rulesOfNode? {n : Node} {rules : List Rule}
    (read : RuleFile.rulesOfNode? n = some rules) : ∀ r ∈ rules, r.NanFree → r.Proper := by
  intro r hr
  unfold RuleFile.rulesOfNode? at read
  split at read
  · obtain ⟨m, hm⟩ := exists_read_of_mem_every? read r hr
    exact Rule.proper_of_ofNode? hm
  · cases read
    exact absurd hr List.not_mem_nil
  · obtain ⟨r', hr', rfl⟩ := Option.map_eq_some_iff.mp read
    obtain rfl := List.mem_singleton.mp hr
    exact Rule.proper_of_ofNode? hr'

theorem RuleFile.eq_of_validate {rules taken : List Rule} (valid : validate rules = .ok taken) :
    taken = rules := by
  unfold validate at valid
  split at valid
  · cases valid
  · cases valid
    rfl

/-- A rule that a file gives is proper, unless one of its numbers is a NaN. -/
theorem RuleFile.proper_of_read {text : String} {rules : List Rule}
    (hread : RuleFile.read text = .ok rules) : ∀ r ∈ rules, r.NanFree → r.Proper := by
  unfold RuleFile.read at hread
  split at hread
  · cases hread
  · next hdocument =>
    obtain rfl := RuleFile.eq_of_validate hread
    obtain ⟨n, -, hn⟩ := Option.bind_eq_some_iff.mp hdocument
    exact RuleFile.proper_of_rulesOfNode? hn

end VesselWatch
