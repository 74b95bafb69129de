/-
  Proofs/Track/Table.lean --- tables in which nothing comes twice, and the best entry of a row.

  A table has one row for a state and a row one entry for a cell (`Table.Proper`).  Every model that
  is put together from proper tables is proper (`Model.Proper.insert`), and so is one that was
  loaded (`Model.proper_load`).

  The search for the best entry goes through the row once and holds on to what it has unless it
  finds something better.  So if it ends with a number, that is the greatest probability in the row,
  at the first entry that has it (`Row.firstGreatest_of_best?`).
-/
import VesselWatch.Proofs.Assoc
import VesselWatch.Proofs.Decimal.Line
import VesselWatch.Track.Source

set_option autoImplicit false

namespace VesselWatch.Track

/-! ## The table of a file -/

theorem Table.read?_eq_some_iff {raw : String} {t : Table} :
    Table.read? raw = some t ↔
      ∃ document, (Json.read? raw).bind Node.toJson? = some (.object document) ∧
        Table.ofDocument document = t := by
  unfold Table.read?
  cases Json.read? raw with
  | none => simp
  | some node =>
    simp only [bind, Option.bind_some]
    cases node.toJson? with
    | none => simp
    | some value => cases value <;> simp

theorem tableOfFile?_eq_some_iff {file : FileTree} {t : Table} :
    tableOfFile? file = some t ↔
      ∃ text raw, file = .file text ∧ text.whole? = some raw ∧ Table.read? raw = some t := by
  cases file with
  | file text => simp [tableOfFile?, Option.bind_eq_some_iff]
  | folder entries => simp [tableOfFile?]

/-! ## Nothing comes twice -/

/-- No state has two rows, and no row has two entries for a cell. -/
structure Table.Proper (t : Table) : Prop where
  states : (t.map (·.1)).Nodup
  cells : ∀ row ∈ t, (row.2.map (·.1)).Nodup

/-- No class has two tables, and the tables are proper. -/
structure Model.Proper (m : Model) : Prop where
  classes : (m.tables.map (·.1)).Nodup
  tables : ∀ entry ∈ m.tables, entry.2.Proper

theorem Table.proper_ofDocument (document : List (String × Json)) :
    (Table.ofDocument document).Proper where
  states := Assoc.nodup_keys_ofList _
  cells := by
    intro row hrow
    obtain ⟨source, -, rfl⟩ := List.mem_map.mp (Assoc.mem_of_mem_ofList hrow)
    exact Assoc.nodup_keys_ofList _

theorem proper_of_tableOfFile? {file : FileTree} {t : Table} (given : tableOfFile? file = some t) :
    t.Proper := by
  obtain ⟨text, raw, -, -, hread⟩ := tableOfFile?_eq_some_iff.mp given
  obtain ⟨document, -, rfl⟩ := Table.read?_eq_some_iff.mp hread
  exact Table.proper_ofDocument document

namespace Model

theorem proper_empty : empty.Proper where
  classes := List.nodup_nil
  tables := List.forall_mem_nil _

theorem Proper.insert {m : Model} (proper : m.Proper) (c : VesselClass) {t : Table}
    (ht : t.Proper) : (m.insert c t).Proper where
  classes := Assoc.nodup_keys_put c t proper.classes
  tables := by
    intro entry hentry
    rcases Assoc.eq_or_mem_of_mem_put hentry with rfl | hmem
    · exact ht
    · exact proper.tables entry hmem

theorem proper_ofEntries (entries : List (String × FileTree)) : (ofEntries entries).Proper := by
  unfold ofEntries
  refine List.foldlRecOn entries _ proper_empty ?_
  rintro m proper ⟨name, file⟩ -
  dsimp only
  split
  · next c t _ ht => exact proper.insert c (proper_of_tableOfFile? ht)
  · exact proper

theorem proper_load {files : Files} {folder : Path} {m : Model}
    (loaded : load files folder = .ok m) : m.Proper := by
  unfold load at loaded
  split at loaded
  · cases loaded
    exact proper_ofEntries _
  · cases loaded

theorem tableFor_eq_ok_iff {m : Model} {typeCode : Int} {t : Table} :
    m.tableFor typeCode = .ok t ↔ m.tables.lookup (VesselClass.ofTypeCode typeCode) = some t := by
  simp only [tableFor]
  cases m.tables.lookup (VesselClass.ofTypeCode typeCode) <;> simp

theorem mem_classes_iff {m : Model} {c : VesselClass} :
    c ∈ m.classes ↔ ∃ t, m.tables.lookup c = some t := by
  rw [classes, ← Assoc.lookup_isSome_iff_mem_keys, Option.isSome_iff_exists]

theorem tableFor_eq_error_iff {m : Model} {typeCode : Int} {e : Error} :
    m.tableFor typeCode = .error e ↔
      VesselClass.ofTypeCode typeCode ∉ m.classes ∧
        e = .classNotLoaded (VesselClass.ofTypeCode typeCode) := by
  rw [classes, ← Assoc.lookup_eq_none_iff_not_mem_keys]
  simp only [tableFor]
  cases m.tables.lookup (VesselClass.ofTypeCode typeCode) <;> simp [eq_comm]

theorem mem_classes_of_tableFor {m : Model} {typeCode : Int} {t : Table}
    (found : m.tableFor typeCode = .ok t) : VesselClass.ofTypeCode typeCode ∈ m.classes :=
  mem_classes_iff.mpr ⟨t, tableFor_eq_ok_iff.mp found⟩

theorem tableFor_insert (m : Model) (typeCode : Int) (t : Table) :
    (m.insert (VesselClass.ofTypeCode typeCode) t).tableFor typeCode = .ok t := by
  rw [tableFor_eq_ok_iff, insert, Assoc.lookup_put, if_pos (beq_self_eq_true _)]

theorem Proper.tableFor {m : Model} (proper : m.Proper) {typeCode : Int} {t : Table}
    (found : m.tableFor typeCode = .ok t) : t.Proper :=
  proper.tables _ (Assoc.mem_of_lookup_eq_some (tableFor_eq_ok_iff.mp found))

end Model

/-! ## The best entry -/

namespace Row

variable {row : Row} {entry : Nat × Float}

/-- The entry is in the row; those behind it are not greater, and those before it are less.  Entries
that are no numbers do not count. -/
def FirstGreatest (row : Row) (entry : Nat × Float) : Prop :=
  ∃ before after, row = before ++ entry :: after ∧
    (∀ other ∈ before, other.2 < entry.2 ∨ other.2.isNaN = true) ∧
    ∀ other ∈ after, other.2 ≤ entry.2 ∨ other.2.isNaN = true

theorem FirstGreatest.mem (greatest : row.FirstGreatest entry) : entry ∈ row := by
  obtain ⟨before, after, rfl, -, -⟩ := greatest
  exact List.mem_append_right _ (List.mem_cons_self ..)

theorem best?_concat (row : Row) (entry : Nat × Float) :
    best? (row ++ [entry]) =
      match best? row with
      | none => some entry
      | some (cell, p) => if entry.2 > p then some entry else some (cell, p) := by
  unfold best?
  rw [List.foldl_append, List.foldl_cons, List.foldl_nil]
  rcases List.foldl _ none row with _ | ⟨cell, p⟩ <;> rfl

theorem best?_eq_none_iff : best? row = none ↔ row = [] := by
  induction row using List.reverseRecOn with
  | nil => exact ⟨fun _ => rfl, fun _ => rfl⟩
  | append_singleton row entry ih =>
    rw [best?_concat]
    constructor
    · intro hnone
      split at hnone
      · cases hnone
      · split at hnone <;> cases hnone
    · intro hnil
      simp at hnil

/-- A greater entry behind a row takes over from the greatest one in it. -/
theorem FirstGreatest.concat_greater {best : Nat × Float} (greatest : row.FirstGreatest best)
    (greater : best.2 < entry.2) : FirstGreatest (row ++ [entry]) entry := by
  obtain ⟨before, after, rfl, hbefore, hafter⟩ := greatest
  refine ⟨_, [], rfl, fun other hother => ?_, List.forall_mem_nil _⟩
  rcases List.mem_append.mp hother with hmem | hmem
  · exact (hbefore other hmem).imp_left fun hless => Decimal.lt_trans hless greater
  · rcases List.mem_cons.mp hmem with rfl | hmem
    · exact Or.inl greater
    · exact (hafter other hmem).imp_left fun hle => Decimal.lt_of_le_of_lt hle greater

/-- Nothing changes with an entry that is not greater. -/
theorem FirstGreatest.concat_not_greater {best : Nat × Float} (greatest : row.FirstGreatest best)
    (number : best.2.isNaN = false) (notGreater : ¬ best.2 < entry.2) :
    FirstGreatest (row ++ [entry]) best := by
  obtain ⟨before, after, rfl, hbefore, hafter⟩ := greatest
  refine ⟨before, after ++ [entry], by simp, hbefore, fun other hother => ?_⟩
  rcases List.mem_append.mp hother with hmem | hmem
  · exact hafter other hmem
  · obtain rfl := List.mem_singleton.mp hmem
    exact Decimal.le_or_isNaN_of_not_lt number notGreater

/-- The search ends with the first of the greatest entries, unless with one that is no number. -/
theorem firstGreatest_of_best? (found : best? row = some entry) (number : entry.2.isNaN = false) :
    row.FirstGreatest entry := by
  -- The row grows at its end, where the search goes on with what it had found before.
  induction row using List.reverseRecOn generalizing entry with
  | nil => cases found
  | append_singleton row next ih =>
    rw [best?_concat] at found
    split at found
    · next hnone =>
      cases found
      rw [best?_eq_none_iff.mp hnone]
      exact ⟨[], [], rfl, List.forall_mem_nil _, List.forall_mem_nil _⟩
    · next cell p hbest =>
      split at found
      · next hgreater =>
        cases found
        -- What was overtaken is a number, since nothing is greater than a NaN.
        exact (ih hbest (Decimal.not_isNaN_of_lt hgreater).1).concat_greater hgreater
      · next hnot =>
        cases found
        exact (ih hbest number).concat_not_greater number hnot

end Row

end VesselWatch.Track
