/-
  Proofs/Track/Document.lean --- what a table keeps of its document.

  Rows and outcomes are well formed or not, each by itself (`RowGives`, `OutcomeGives`).  But
  well-formed ones can be in each other's way, since states and cells can be spelled in several
  ways.  Of several rows for one state the last one is taken as a whole; several outcomes for one
  cell share the place of the first and have the probability of the last (`RowOf`).

  Both are tables made of a list of items, in which the last item for a key counts
  (`Assoc.lookup_ofList_filterMap_iff`).  What is malformed gives nothing to them, so they are the
  same without it (`ofDocument_cleaned`).
-/
import Mathlib
import VesselWatch.Proofs.Track.Table

set_option autoImplicit false

namespace VesselWatch.Track

/-! ## Rows and outcomes that are well formed -/

/-- The row is that of a state and has these outcomes: its key is the written form of the state, and
its value an object. -/
def RowGives (row : String × Json) (state : StateKey) (outcomes : List (String × Json)) : Prop :=
  StateKey.parse? row.1.toList = some state ∧ row.2 = .object outcomes

/-- The outcome is that of a cell: its key is the number of the cell, with blanks around it at most,
and its value a number. -/
def OutcomeGives (outcome : String × Json) (cell : Nat) (p : Float) : Prop :=
  Decimal.readWord (Text.trim outcome.1.toList) = some cell ∧
    ∃ n, outcome.2 = .number n ∧ n.toFloat = p

theorem row?_eq_some_iff {row : String × Json} {state : StateKey}
    {outcomes : List (String × Json)} :
    row? row.1 row.2 = some (state, outcomes) ↔ RowGives row state outcomes := by
  unfold row? RowGives
  cases StateKey.parse? row.1.toList with
  | none => simp
  | some parsed => cases row.2 <;> simp

theorem entry?_eq_some_iff {outcome : String × Json} {cell : Nat} {p : Float} :
    entry? outcome.1 outcome.2 = some (cell, p) ↔ OutcomeGives outcome cell p := by
  unfold entry? OutcomeGives
  cases Decimal.readWord (Text.trim outcome.1.toList) with
  | none => simp
  | some read => cases outcome.2 <;> simp

/-- The row is well formed. -/
def KeepsRow (row : String × Json) : Prop := ∃ state outcomes, RowGives row state outcomes

/-- The outcome is well formed. -/
def KeepsOutcome (outcome : String × Json) : Prop := ∃ cell p, OutcomeGives outcome cell p

theorem keepsRow_iff {row : String × Json} : KeepsRow row ↔ (row? row.1 row.2).isSome = true := by
  simp only [KeepsRow, ← row?_eq_some_iff, Option.isSome_iff_exists, Prod.exists]

theorem keepsOutcome_iff {outcome : String × Json} :
    KeepsOutcome outcome ↔ ( entry? outcome.1 outcome.2).isSome = true := by
  simp only [KeepsOutcome, ← entry?_eq_some_iff, Option.isSome_iff_exists, Prod.exists]

instance : DecidablePred KeepsRow := fun _ => decidable_of_iff' _ keepsRow_iff

instance : DecidablePred KeepsOutcome := fun _ => decidable_of_iff' _ keepsOutcome_iff

/-- A row is dropped, or it is that of a state. -/
theorem row?_cases (row : String × Json) :
    (¬ KeepsRow row ∧ row? row.1 row.2 = none) ∨
      ∃ state outcomes, RowGives row state outcomes ∧ KeepsRow row ∧
        row? row.1 row.2 = some (state, outcomes) := by
  by_cases hkeeps : KeepsRow row
  · obtain ⟨state, outcomes, hgives⟩ := hkeeps
    exact .inr ⟨state, outcomes, hgives, ⟨state, outcomes, hgives⟩, row?_eq_some_iff.mpr hgives⟩
  · have hnone := hkeeps
    rw [keepsRow_iff, Option.not_isSome_iff_eq_none] at hnone
    exact .inl ⟨hkeeps, hnone⟩

/-- An outcome is dropped, or it is that of a cell. -/
theorem entry?_cases (outcome : String × Json) :
    (¬ KeepsOutcome outcome ∧ entry? outcome.1 outcome.2 = none) ∨
      ∃ cell p, OutcomeGives outcome cell p ∧ KeepsOutcome outcome ∧
        entry? outcome.1 outcome.2 = some (cell, p) := by
  by_cases hkeeps : KeepsOutcome outcome
  · obtain ⟨cell, p, hgives⟩ := hkeeps
    exact .inr ⟨cell, p, hgives, ⟨cell, p, hgives⟩, entry?_eq_some_iff.mpr hgives⟩
  · have hnone := hkeeps
    rw [keepsOutcome_iff, Option.not_isSome_iff_eq_none] at hnone
    exact .inl ⟨hkeeps, hnone⟩

/-! ## Rows -/

/-- The row of a table for the outcomes of a row: their cells in the order in which they come first,
each with the probability that comes last. -/
structure RowOf (outcomes : List (String × Json)) (row : Row) : Prop where
  cells : row.map (·.1) = ((outcomes.filter KeepsOutcome).filterMap fun outcome =>
    Decimal.readWord (Text.trim outcome.1.toList)).eraseDups
  last : ∀ cell p, row.lookup cell = some p ↔
    ∃ before outcome after, outcomes = before ++ outcome :: after ∧ OutcomeGives outcome cell p ∧
      ∀ later ∈ after, ∀ q, ¬ OutcomeGives later cell q

theorem keys_entries (outcomes : List (String × Json)) :
    (entries outcomes).map (·.1) = (outcomes.filter KeepsOutcome).filterMap fun outcome =>
      Decimal.readWord (Text.trim outcome.1.toList) := by
  rw [entries, List.map_filterMap, List.filterMap_filter]
  congr 1
  funext outcome
  obtain ⟨hdropped, hnone⟩ | ⟨cell, p, hgives, hkeeps, hentry⟩ := entry?_cases outcome
  · simp [hnone, hdropped]
  · simp [hentry, hkeeps, hgives.1]

theorem rowOf_ofList (outcomes : List (String × Json)) :
    RowOf outcomes (Assoc.ofList (entries outcomes)) where
  cells := by rw [Assoc.keys_ofList, keys_entries]
  last := by
    intro cell p
    unfold entries
    rw [Assoc.lookup_ofList_filterMap_iff]
    simp only [entry?_eq_some_iff, ne_eq]

theorem rowOf_iff {outcomes : List (String × Json)} {row : Row} :
    RowOf outcomes row ↔ row = Assoc.ofList (entries outcomes) := by
  constructor
  · intro h
    have hmade := rowOf_ofList outcomes
    refine (Assoc.eq_of_lookup_eq (Assoc.nodup_keys_ofList _) ?_ fun cell => ?_).symm
    · exact hmade.cells.trans h.cells.symm
    · exact Option.ext fun p => (hmade.last cell p).trans (h.last cell p).symm
  · rintro rfl
    exact rowOf_ofList outcomes

/-! ## Tables -/

theorem ofDocument_eq (document : List (String × Json)) :
    Table.ofDocument document = Assoc.ofList (document.filterMap fun row =>
      (row? row.1 row.2).map fun given => (given.1, Assoc.ofList (entries given.2))) := by
  rw [Table.ofDocument, rows, List.map_filterMap]

theorem row?_map_eq_some_iff {row : String × Json} {state : StateKey} {made : Row} :
    (row? row.1 row.2).map (fun given => (given.1, Assoc.ofList (entries given.2))) =
        some (state, made) ↔
      ∃ outcomes, RowGives row state outcomes ∧ RowOf outcomes made := by
  simp only [Option.map_eq_some_iff, Prod.exists, Prod.mk.injEq, row?_eq_some_iff, rowOf_iff]
  constructor
  · rintro ⟨given, outcomes, hgives, rfl, rfl⟩
    exact ⟨outcomes, hgives, rfl⟩
  · rintro ⟨outcomes, hgives, rfl⟩
    exact ⟨state, outcomes, hgives, rfl, rfl⟩

/-- The row of a state is made from the last row of the document that is one of the state. -/
theorem lookup_ofDocument_eq_some_iff {document : List (String × Json)} {state : StateKey}
    {row : Row} :
    (Table.ofDocument document).lookup state = some row ↔
      ∃ before source after outcomes, document = before ++ source :: after ∧
        RowGives source state outcomes ∧ RowOf outcomes row ∧
        ∀ later ∈ after, ∀ others, ¬ RowGives later state others := by
  rw [ofDocument_eq, Assoc.lookup_ofList_filterMap_iff]
  simp only [ne_eq, row?_map_eq_some_iff]
  constructor
  · rintro ⟨before, source, after, hsplit, ⟨outcomes, hgives, hrow⟩, hafter⟩
    refine ⟨before, source, after, outcomes, hsplit, hgives, hrow, ?_⟩
    intro later hlater others hothers
    exact hafter later hlater _ ⟨others, hothers, rowOf_ofList others⟩
  · rintro ⟨before, source, after, outcomes, hsplit, hgives, hrow, hafter⟩
    refine ⟨before, source, after, hsplit, ⟨outcomes, hgives, hrow⟩, ?_⟩
    rintro later hlater other ⟨others, hothers, -⟩
    exact hafter later hlater others hothers

theorem mem_states_ofDocument_iff {document : List (String × Json)} {state : StateKey} :
    state ∈ (Table.ofDocument document).map (·.1) ↔
      ∃ source ∈ document, ∃ outcomes, RowGives source state outcomes := by
  rw [ofDocument_eq, Assoc.mem_keys_ofList_filterMap_iff]
  simp only [row?_map_eq_some_iff]
  constructor
  · rintro ⟨source, hsource, made, outcomes, hgives, -⟩
    exact ⟨source, hsource, outcomes, hgives⟩
  · rintro ⟨source, hsource, outcomes, hgives⟩
    exact ⟨source, hsource, _, outcomes, hgives, rowOf_ofList outcomes⟩

/-! ## What is dropped -/

/-- The outcomes of a row, if its value is an object. -/
def outcomesOf (row : String × Json) : List (String × Json) :=
  match row.2 with
  | .object outcomes => outcomes
  | _ => []

/-- The document without the rows and the outcomes that are malformed. -/
def cleaned (document : List (String × Json)) : List (String × Json) :=
  (document.filter KeepsRow).map fun row =>
    (row.1, .object ((outcomesOf row).filter KeepsOutcome))

theorem RowGives.outcomesOf {row : String × Json} {state : StateKey}
    {outcomes : List (String × Json)} (gives : RowGives row state outcomes) :
    outcomesOf row = outcomes := by
  unfold Track.outcomesOf
  rw [gives.2]

theorem outcomes_rows (document : List (String × Json)) :
    (rows document).map (·.2) = (document.filter KeepsRow).map outcomesOf := by
  rw [rows, List.map_filterMap, ← List.filterMap_eq_map, List.filterMap_filter]
  congr 1
  funext row
  obtain ⟨hdropped, hnone⟩ | ⟨state, outcomes, hgives, hkeeps, hrow⟩ := row?_cases row
  · simp [hnone, hdropped]
  · simp [hrow, hkeeps, hgives.outcomesOf]

/-- What a choice leaves out is what is not chosen. -/
theorem length_sub_length_filterMap {α β : Type} {choose : α → Option β} {Chosen : α → Prop}
    [DecidablePred Chosen] (chosen : ∀ a, Chosen a ↔ (choose a).isSome = true) (items : List α) :
    items.length - (items.filterMap choose).length = items.countP fun a => ¬ Chosen a := by
  have hchosen : items.countP (fun a => (choose a).isSome) = items.countP fun a => Chosen a :=
    List.countP_congr fun a _ => by rw [← chosen, decide_eq_true_iff]
  have hsplit := items.length_eq_countP_add_countP fun a => decide (Chosen a)
  rw [List.length_filterMap_eq_countP, hchosen]
  simp only [decide_eq_true_eq] at hsplit
  omega

theorem foldl_dropped (n : Nat) (all : List (List (String × Json))) :
    all.foldl (fun n outcomes => n + (outcomes.length - (entries outcomes).length)) n =
      n + all.flatten.countP fun outcome => ¬ KeepsOutcome outcome := by
  induction all generalizing n with
  | nil => rfl
  | cons outcomes rest ih =>
    have hdropped : outcomes.length - (entries outcomes).length =
        outcomes.countP fun outcome => ¬ KeepsOutcome outcome :=
      length_sub_length_filterMap (fun _ => keepsOutcome_iff) outcomes
    rw [List.foldl_cons, ih, List.flatten_cons, List.countP_append, hdropped, Nat.add_assoc]

theorem skipped_eq (document : List (String × Json)) :
    skipped document = (document.countP fun row => ¬ KeepsRow row) +
      ((document.filter KeepsRow).flatMap outcomesOf).countP fun outcome =>
        ¬ KeepsOutcome outcome := by
  have hrows : document.length - (rows document).length =
      document.countP fun row => ¬ KeepsRow row :=
    length_sub_length_filterMap (fun _ => keepsRow_iff) document
  have hfold := foldl_dropped (document.length - (rows document).length)
    ((rows document).map (·.2))
  rw [List.foldl_map, outcomes_rows, hrows, ← List.flatMap_def] at hfold
  rw [← hfold, ← hrows]
  rfl

/-! ## Documents without what is dropped -/

theorem entries_filter (outcomes : List (String × Json)) :
    entries (outcomes.filter KeepsOutcome) = entries outcomes := by
  rw [entries, entries, List.filterMap_filter]
  congr 1
  funext outcome
  obtain ⟨hdropped, hnone⟩ | ⟨cell, p, -, hkeeps, -⟩ := entry?_cases outcome
  · simp [hdropped, hnone]
  · simp [hkeeps]

theorem rows_cleaned (document : List (String × Json)) :
    rows (cleaned document) =
      (rows document).map fun given => (given.1, given.2.filter KeepsOutcome) := by
  rw [rows, rows, cleaned, List.filterMap_map, List.filterMap_filter, List.map_filterMap]
  congr 1
  funext row
  obtain ⟨hdropped, hnone⟩ | ⟨state, outcomes, hgives, hkeeps, hrow⟩ := row?_cases row
  · simp [hdropped, hnone]
  · have hclean : RowGives (row.1, .object (outcomes.filter KeepsOutcome)) state
        (outcomes.filter KeepsOutcome) := ⟨hgives.1, rfl⟩
    have hcleanRow := row?_eq_some_iff.mpr hclean
    simp [hkeeps, hrow, hgives.outcomesOf, hcleanRow]

theorem ofDocument_cleaned (document : List (String × Json)) :
    Table.ofDocument (cleaned document) = Table.ofDocument document := by
  rw [Table.ofDocument, Table.ofDocument, rows_cleaned, List.map_map]
  simp only [Function.comp_def, entries_filter]

theorem keepsRow_of_mem_cleaned {document : List (String × Json)} {row : String × Json}
    (member : row ∈ cleaned document) :
    KeepsRow row ∧ ∀ outcome ∈ outcomesOf row, KeepsOutcome outcome := by
  obtain ⟨source, hsource, rfl⟩ := List.mem_map.mp member
  obtain ⟨state, outcomes, hgives⟩ := of_decide_eq_true (List.mem_filter.mp hsource).2
  refine ⟨⟨state, _, hgives.1, rfl⟩, fun outcome houtcome => ?_⟩
  exact of_decide_eq_true (List.mem_filter.mp houtcome).2

theorem skipped_cleaned (document : List (String × Json)) : skipped (cleaned document) = 0 := by
  rw [skipped_eq, Nat.add_eq_zero_iff, List.countP_eq_zero, List.countP_eq_zero]
  refine ⟨fun row hrow => ?_, fun outcome houtcome => ?_⟩
  · have hkeeps := (keepsRow_of_mem_cleaned hrow).1
    simp [hkeeps]
  · obtain ⟨row, hrow, hmem⟩ := List.mem_flatMap.mp houtcome
    have hkeeps := (keepsRow_of_mem_cleaned (List.mem_of_mem_filter hrow)).2 outcome hmem
    simp [hkeeps]

/-! ## All of it -/

/-- A table has a row for each state that a well-formed row of its document is of, made from the
last such row alone.  In a row each cell stands where a well-formed outcome of it comes first, with
the probability of the last one.  What is skipped are the malformed rows, and the malformed outcomes
of the others.  Without these the document gives the same table, and nothing is skipped. -/
theorem Table.keeps_well_formed (document : List (String × Json)) :
    let t := Table.ofDocument document
    (∀ raw, (Json.read? raw).bind Node.toJson? = some (.object document) →
      Table.read? raw = some t) ∧
    (∀ state, state ∈ t.map (·.1) ↔
      ∃ source ∈ document, ∃ outcomes, RowGives source state outcomes) ∧
    (∀ state row, t.lookup state = some row ↔
      ∃ before source after outcomes, document = before ++ source :: after ∧
        RowGives source state outcomes ∧ RowOf outcomes row ∧
        ∀ later ∈ after, ∀ others, ¬ RowGives later state others) ∧
    skipped document = (document.countP fun row => ¬ KeepsRow row) +
      (((document.filter KeepsRow).flatMap outcomesOf).countP fun outcome =>
        ¬ KeepsOutcome outcome) ∧
    Table.ofDocument (cleaned document) = t ∧ skipped (cleaned document) = 0 := by
  intro t
  refine ⟨fun raw decoded => ?_, fun state => ?_, fun state row => ?_, skipped_eq document, ?_, ?_⟩
  · exact Table.read?_eq_some_iff.mpr ⟨document, decoded, rfl⟩
  · exact mem_states_ofDocument_iff
  · exact lookup_ofDocument_eq_some_iff
  · exact ofDocument_cleaned document
  · exact skipped_cleaned document

/-- Two spellings of one state, and below the second one two spellings of one cell. -/
def spelledTable : String :=
  "\x7b\"(1, 2)\": \x7b\"7\": 1\x7d, \"bad\": 3, \"( 01,+2 )\": " ++
    "\x7b\"5\": 1, \"x\": 2, \"6\": 3, \" 05\": 4\x7d\x7d"

@[inherit_doc spelledTable]
def spelledRows : List (String × Json) :=
  [("(1, 2)", .object [("7", .number (.int 1))]), ("bad", .number (.int 3)),
    ("( 01,+2 )", .object [("5", .number (.int 1)), ("x", .number (.int 2)),
      ("6", .number (.int 3)), (" 05", .number (.int 4))])]

/-- The second of two rows for one state takes the place of the first; in it the cell that is listed
twice keeps its place and has the second probability.  A row and an outcome are skipped. -/
theorem Table.keeps_well_formed_spelled :
    (Json.read? spelledTable).bind Node.toJson? = some (.object spelledRows) ∧
    Table.read? spelledTable = some [(⟨1, 2⟩, [(5, 4), (6, 3)])] ∧ skipped spelledRows = 2 := by
  have decoded : (Json.read? spelledTable).bind Node.toJson? = some (.object spelledRows) := by cbv
  have htable : Table.ofDocument spelledRows = [(⟨1, 2⟩, [(5, 4), (6, 3)])] := rfl
  obtain ⟨hread, -⟩ := Table.keeps_well_formed spelledRows
  exact ⟨decoded, htable ▸ hread spelledTable decoded, by decide⟩

end VesselWatch.Track
