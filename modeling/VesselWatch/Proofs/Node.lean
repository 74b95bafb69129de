/-
  Proofs/Node.lean --- JSON values taken as documents.

  An object whose keys are distinct is a record with one slot for each field that is asked for
  (`slots_object`), so that what a writer of an object puts under a name is what its reader finds
  there.  A value that was taken out of a document is settled: taken once more, it is the same
  value (`Json.Settled`).

  A JSON value holds integers of 64 bits and finite doubles (`Node.Legal`); every double that is
  read from it is finite (`Node.Legal.isFinite`).
-/
import VesselWatch.Node
import VesselWatch.Proofs.Assoc
import VesselWatch.Proofs.Decimal.Finite

set_option autoImplicit false

namespace VesselWatch

/-! ## Readable -/

theorem Json.fieldsToNode_eq_map (fields : List (String × Json)) :
    Json.fieldsToNode fields = fields.map fun field => (.text field.1, field.2.toNode) := by
  induction fields with
  | nil => rfl
  | cons field rest ih =>
    obtain ⟨key, value⟩ := field
    rw [Json.fieldsToNode, ih, List.map_cons]

mutual

theorem Json.readable_toNode : ∀ j : Json, j.toNode.readable = true
  | .null | .bool _ | .number (.int _) | .number (.real _) | .text _ => by
    simp [Json.toNode, Node.readable]
  | .array items => by
    rw [Json.toNode, Node.readable]
    exact Json.readable_itemsToNode items
  | .object fields => by
    rw [Json.toNode, Node.readable]
    exact Json.readable_fieldsToNode fields

theorem Json.readable_itemsToNode : ∀ items : List Json,
    Node.readableItems (Json.itemsToNode items) = true
  | [] => rfl
  | item :: rest => by
    rw [Json.itemsToNode, Node.readableItems, Json.readable_toNode item,
      Json.readable_itemsToNode rest]
    rfl

theorem Json.readable_fieldsToNode : ∀ fields : List (String × Json),
    Node.readableFields (Json.fieldsToNode fields) = true
  | [] => rfl
  | (_, value) :: rest => by
    rw [Json.fieldsToNode, Node.readableFields, Json.readable_toNode value,
      Json.readable_fieldsToNode rest]
    rfl

end

/-! ## Slots -/

section Slots

variable (style : Node.Style) {fields : List (String × Json)}

/-- A field that is asked for by its name is found by its name. -/
theorem Node.single_fieldsToNode (nodup : (fields.map (·.1)).Nodup) (position : Nat)
    (name : String) :
    Node.single style (Json.fieldsToNode fields) position name =
      some ((fields.lookup name).map Json.toNode) := by
  have hfilter : (Json.fieldsToNode fields).filter (fun f => f.1.namesField style position name) =
      ((fields.lookup name).map fun v => (Node.text name, v.toNode)).toList := by
    have hnames : ((fun f : Node × Node => f.1.namesField style position name) ∘
        fun field : String × Json => (Node.text field.1, field.2.toNode)) = fun p => p.1 == name :=
      rfl
    rw [Json.fieldsToNode_eq_map, List.filter_map, hnames, Assoc.filter_key nodup]
    cases fields.lookup name <;> rfl
  unfold Node.single
  rw [hfilter]
  cases fields.lookup name <;> rfl

theorem Node.singles_fieldsToNode (nodup : (fields.map (·.1)).Nodup) (position : Nat)
    (names : List String) :
    Node.singles style (Json.fieldsToNode fields) position names =
      some (names.map fun name => (fields.lookup name).map Json.toNode) := by
  induction names generalizing position with
  | nil => rfl
  | cons name names ih =>
    rw [Node.singles, Node.single_fieldsToNode style nodup, ih]
    rfl

/-- An object gives what its fields hold. -/
theorem Node.slots_object (nodup : (fields.map (·.1)).Nodup) (names : List String) :
    Node.slots style names (Json.object fields).toNode =
      some (names.map fun name => (fields.lookup name).map Json.toNode) := by
  have hlegal : (Json.fieldsToNode fields).all (fun f => f.1.legalKey style) = true := by
    rw [Json.fieldsToNode_eq_map, List.all_map]
    exact List.all_eq_true.mpr fun _ _ => rfl
  rw [Json.toNode, Node.slots]
  simp only [Node.bare, hlegal, if_true]
  exact Node.singles_fieldsToNode style nodup 0 names

end Slots

/-! ## Values that were taken out of a document -/

/-- Taken as a document and back, the value is the same. -/
def Json.Settled (j : Json) : Prop := j.toNode.toJson? = some j

theorem Json.settled_ofFloat (x : Float) : (Json.ofFloat x).Settled := by
  unfold Json.ofFloat
  split
  · next finite =>
    change some (Json.ofFloat x) = _
    rw [Json.ofFloat, if_pos finite]
  · rfl

theorem Json.Settled.array {items : List Json} (settled : ∀ item ∈ items, item.Settled) :
    (Json.array items).Settled := by
  have hitems : Node.itemsToJson? (Json.itemsToNode items) = some items := by
    induction items with
    | nil => rfl
    | cons item rest ih =>
      rw [List.forall_mem_cons] at settled
      rw [Json.itemsToNode, Node.itemsToJson?, settled.1, ih settled.2]
      rfl
  unfold Json.Settled
  rw [Json.toNode, Node.toJson?, hitems]
  rfl

theorem Json.fieldsToJson?_fieldsToNode {done fields : List (String × Json)}
    (nodup : ((done ++ fields).map (·.1)).Nodup) (settled : ∀ field ∈ fields, field.2.Settled) :
    Node.fieldsToJson? done (Json.fieldsToNode fields) = some (done ++ fields) := by
  induction fields generalizing done with
  | nil =>
    rw [List.append_nil]
    rfl
  | cons field rest ih =>
    obtain ⟨key, value⟩ := field
    rw [List.forall_mem_cons] at settled
    have habsent : key ∉ done.map (·.1) := by
      intro member
      rw [List.map_append, List.nodup_append] at nodup
      exact nodup.2.2 key member key (List.mem_cons_self ..) rfl
    have hput : Assoc.put key value done = done ++ [(key, value)] :=
      Assoc.put_of_notMem value habsent
    rw [Json.fieldsToNode, Node.fieldsToJson?, settled.1]
    change Node.fieldsToJson? (Assoc.put key value done) _ = _
    rw [hput, ih (by simpa using nodup) settled.2, List.append_assoc]
    rfl

theorem Json.Settled.object {fields : List (String × Json)} (nodup : (fields.map (·.1)).Nodup)
    (settled : ∀ field ∈ fields, field.2.Settled) : (Json.object fields).Settled := by
  have hfields : Node.fieldsToJson? [] (Json.fieldsToNode fields) = some fields :=
    Json.fieldsToJson?_fieldsToNode nodup settled
  unfold Json.Settled
  rw [Json.toNode, Node.toJson?, hfields]
  rfl

mutual

/-- What was read is settled. -/
theorem Node.settled_of_toJson? (n : Node) {j : Json} (read : n.toJson? = some j) : j.Settled := by
  cases n with
  | null | bool | int | text =>
    cases read
    rfl
  | real x =>
    cases read
    exact Json.settled_ofFloat x
  | list items =>
    obtain ⟨items', hitems, rfl⟩ := Option.map_eq_some_iff.mp read
    exact .array (Node.settled_of_itemsToJson? items hitems)
  | record fields =>
    obtain ⟨fields', hfields, rfl⟩ := Option.map_eq_some_iff.mp read
    have hnone : (([] : List (String × Json)).map (·.1)).Nodup := List.nodup_nil
    obtain ⟨nodup, settled⟩ :=
      Node.settled_of_fieldsToJson? fields hnone (List.forall_mem_nil _) hfields
    exact .object nodup settled
  | tagged | unreadable => cases read

theorem Node.settled_of_itemsToJson? (ns : List Node) {items : List Json}
    (read : Node.itemsToJson? ns = some items) : ∀ item ∈ items, item.Settled := by
  cases ns with
  | nil =>
    cases read
    exact List.forall_mem_nil _
  | cons n ns =>
    simp only [Node.itemsToJson?, Option.bind_eq_bind, Option.bind_eq_some_iff] at read
    obtain ⟨x, hx, xs, hxs, hread⟩ := read
    cases hread
    exact List.forall_mem_cons.mpr
      ⟨Node.settled_of_toJson? n hx, Node.settled_of_itemsToJson? ns hxs⟩

theorem Node.settled_of_fieldsToJson? (fields : List (Node × Node))
    {done all : List (String × Json)} (nodup : (done.map (·.1)).Nodup)
    (settled : ∀ field ∈ done, field.2.Settled)
    (read : Node.fieldsToJson? done fields = some all) :
    (all.map (·.1)).Nodup ∧ ∀ field ∈ all, field.2.Settled := by
  cases fields with
  | nil =>
    cases read
    exact ⟨nodup, settled⟩
  | cons field rest =>
    obtain ⟨key, value⟩ := field
    cases key with
    | text key =>
      simp only [Node.fieldsToJson?, Option.bind_eq_bind, Option.bind_eq_some_iff] at read
      obtain ⟨v, hv, hrest⟩ := read
      have hvalue := Node.settled_of_toJson? value hv
      refine Node.settled_of_fieldsToJson? rest (Assoc.nodup_keys_put key v nodup) ?_ hrest
      intro field hfield
      rcases Assoc.eq_or_mem_of_mem_put hfield with rfl | hfield
      · exact hvalue
      · exact settled field hfield
    | _ => cases read

end

/-! ## Numbers -/

mutual

/-- Every number in the node is an integer of 64 bits or a finite double. -/
def Node.Legal : Node → Prop
  | .int n => Number.least ≤ n ∧ n ≤ Number.greatest
  | .real x => x.isFinite = true
  | .list items => Node.LegalItems items
  | .record fields => Node.LegalFields fields
  | .tagged _ value => value.Legal
  | _ => True

/-- Every item is legal. -/
def Node.LegalItems : List Node → Prop
  | [] => True
  | n :: ns => n.Legal ∧ Node.LegalItems ns

/-- Every value is legal. -/
def Node.LegalFields : List (Node × Node) → Prop
  | [] => True
  | (_, v) :: rest => v.Legal ∧ Node.LegalFields rest

end

theorem Node.legalItems_iff {ns : List Node} : Node.LegalItems ns ↔ ∀ n ∈ ns, n.Legal := by
  induction ns with
  | nil => simp [Node.LegalItems]
  | cons n ns ih => rw [Node.LegalItems, ih, List.forall_mem_cons]

theorem Node.legalFields_iff {fields : List (Node × Node)} :
    Node.LegalFields fields ↔ ∀ field ∈ fields, field.2.Legal := by
  induction fields with
  | nil => simp [Node.LegalFields]
  | cons field rest ih =>
    obtain ⟨key, value⟩ := field
    rw [Node.LegalFields, ih, List.forall_mem_cons]

theorem Node.Legal.bare {n : Node} (legal : n.Legal) (style : Node.Style) :
    (n.bare style).Legal := by
  induction n using Node.bare.induct style with
  | case1 tag value looks ih =>
    rw [Node.bare, if_pos looks]
    exact ih legal
  | case2 tag value looks =>
    rw [Node.bare, if_neg looks]
    exact legal
  | case3 n h =>
    rw [Node.bare]
    · exact legal
    · exact h

/-- A double that is read is finite. -/
theorem Node.Legal.isFinite {n : Node} (legal : n.Legal) {style : Node.Style} {x : Float}
    (read : n.float? style = some x) : x.isFinite = true := by
  have hbare := legal.bare style
  unfold Node.float? at read
  split at read
  · next k hk =>
    cases read
    rw [hk] at hbare
    obtain ⟨hleast, hgreatest⟩ := hbare
    refine Decimal.isFinite_ofInt ?_
    unfold Number.least at hleast
    unfold Number.greatest at hgreatest
    omega
  · next y hy =>
    cases read
    rw [hy] at hbare
    exact hbare
  · cases read

theorem Node.Legal.list {n : Node} (legal : n.Legal) {style : Node.Style} {items : List Node}
    (read : n.list? style = some items) : ∀ item ∈ items, item.Legal := by
  have hbare := legal.bare style
  unfold Node.list? at read
  split at read
  · next hlist =>
    cases read
    rw [hlist] at hbare
    exact Node.legalItems_iff.mp hbare
  · split at read
    · cases read
      exact List.forall_mem_nil _
    · cases read
  · cases read

theorem Node.legal_of_single {style : Node.Style} {fields : List (Node × Node)} {position : Nat}
    {name : String} {n : Node} (legal : ∀ field ∈ fields, field.2.Legal)
    (read : Node.single style fields position name = some (some n)) : n.Legal := by
  unfold Node.single at read
  split at read
  · cases read
  · next key value hfilter =>
    cases read
    exact legal (key, n) (List.mem_of_mem_filter (hfilter ▸ List.mem_singleton_self _))
  · cases read

theorem Node.legal_of_singles {style : Node.Style} {fields : List (Node × Node)}
    (legal : ∀ field ∈ fields, field.2.Legal) {names : List String} {position : Nat}
    {slots : List (Option Node)} (read : Node.singles style fields position names = some slots) :
    ∀ n, some n ∈ slots → n.Legal := by
  induction names generalizing position slots with
  | nil =>
    cases read
    exact fun _ member => absurd member List.not_mem_nil
  | cons name names ih =>
    simp only [Node.singles, Option.bind_eq_bind, Option.bind_eq_some_iff] at read
    obtain ⟨value, hvalue, rest, hrest, hread⟩ := read
    cases hread
    intro n member
    rcases List.mem_cons.mp member with rfl | member
    · exact Node.legal_of_single legal hvalue
    · exact ih hrest n member

/-- What stands in a slot is legal. -/
theorem Node.Legal.slots {n : Node} (legal : n.Legal) {style : Node.Style} {names : List String}
    {slots : List (Option Node)} (read : n.slots style names = some slots) :
    ∀ m, some m ∈ slots → m.Legal := by
  have hbare := legal.bare style
  unfold Node.slots at read
  split at read
  · next hrecord =>
    rw [hrecord] at hbare
    split at read
    · exact Node.legal_of_singles (Node.legalFields_iff.mp hbare) read
    · cases read
  · next hlist =>
    rw [hlist] at hbare
    split at read
    · cases read
      intro m member
      rcases List.mem_append.mp member with member | member
      · obtain ⟨item, hitem, heq⟩ := List.mem_map.mp member
        cases heq
        exact Node.legalItems_iff.mp hbare m hitem
      · cases List.eq_of_mem_replicate member
    · cases read
  · split at read
    · cases read
      intro m member
      obtain ⟨_, -, heq⟩ := List.mem_map.mp member
      cases heq
    · cases read
  · cases read

end VesselWatch
