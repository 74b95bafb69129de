/-
  Proofs/Track/Folder.lean --- which files of a folder make its model.

  An entry of a folder holds a table for a class (`Holds`) or is skipped for one of five reasons
  (`Skipped`), and never both (`skipped_iff`).  A model is the table of what its entries hold, in
  the order of their paths (`Model.ofEntries_eq`), so for each class the last entry that holds one
  counts, and what is skipped adds nothing wherever it stands.

  The name of a class may stand alone or behind the start of file names.  That no file is of two
  classes rests on the underscores of this start: there are none in the names of classes
  (`not_sameIgnoringAsciiCase_of_isPrefix`).
-/
import Mathlib
import VesselWatch.Proofs.FileTree.Names
import VesselWatch.Proofs.Text.Blank
import VesselWatch.Proofs.Track.Table

set_option autoImplicit false

namespace VesselWatch

/-! ## Characters that stay -/

namespace Text

theorem lowerAsciiChar_of_isBlank {c : Char} (blank : isBlank c = true) : lowerAsciiChar c = c := by
  unfold lowerAsciiChar
  rw [if_neg]
  rw [Bool.and_eq_true, decide_eq_true_eq, decide_eq_true_eq]
  rintro ⟨hlow, hhigh⟩
  have hlow : 65 ≤ c.toNat := hlow
  have hhigh : c.toNat ≤ 90 := hhigh
  simp [isBlank] at blank
  omega

end Text

namespace Track

/-! ## Names of classes -/

namespace VesselClass

theorem mem_all (c : VesselClass) : c ∈ all := by
  cases c <;> decide

theorem name_injective : Function.Injective name := by
  have hnodup : (all.map name).Nodup := by decide
  intro c c' h
  exact List.inj_on_of_nodup_map hnodup (mem_all c) (mem_all c') h

theorem name_of_ofName? {s : String} {c : VesselClass} (found : ofName? s = some c) :
    c.name = nameKey s := by
  unfold ofName? at found
  have hname := List.find?_some found
  exact eq_of_beq hname

theorem ofName?_eq_some_iff {s : String} {c : VesselClass} :
    ofName? s = some c ↔ nameKey s = c.name := by
  constructor
  · intro h
    exact (name_of_ofName? h).symm
  · intro h
    have hsome : (ofName? s).isSome = true := by
      rw [ofName?, List.find?_isSome]
      exact ⟨c, mem_all c, beq_iff_eq.mpr h.symm⟩
    obtain ⟨c', hc'⟩ := Option.isSome_iff_exists.mp hsome
    rw [hc', name_injective ((name_of_ofName? hc').trans h)]

theorem nameKey_empty_ne_name (c : VesselClass) : nameKey "" ≠ c.name := by
  cases c <;> decide

theorem underscore_notMem_name (c : VesselClass) : '_' ∉ c.name.toList := by
  cases c <;> decide

/-- What is no blank stays in the key of a name. -/
theorem mem_nameKey {s : String} {d : Char} (member : d ∈ s.toList)
    (graphic : Text.isBlank d = false) : Text.lowerAsciiChar d ∈ (nameKey s).toList := by
  rw [nameKey, Text.lowerAscii, String.toList_ofList, Text.trimmed, String.toList_ofList]
  exact List.mem_map_of_mem (Text.mem_trim_of_not_isBlank member graphic)

end VesselClass

/-! ## Names of files -/

/-- The file is named after the class: its extension is `json`, and its stem is the name of the
class, with or without the start of file names in front of it. -/
def NamesClass (name : String) (c : VesselClass) : Prop :=
  ∃ front word, name = front ++ word ++ ".json" ∧
    (front = "" ∨ Text.sameIgnoringAsciiCase front fileNameStart = true) ∧
    VesselClass.nameKey word = c.name

theorem map_lowerAsciiChar_of_same {front : String}
    (same : Text.sameIgnoringAsciiCase front fileNameStart = true) :
    front.toList.map Text.lowerAsciiChar = fileNameStart.toList.map Text.lowerAsciiChar :=
  eq_of_beq same

/-- The name of a class does not begin with the start of file names. -/
theorem not_sameIgnoringAsciiCase_of_isPrefix {front word : String} {c : VesselClass}
    (named : VesselClass.nameKey word = c.name) (leads : front.toList <+: word.toList) :
    Text.sameIgnoringAsciiCase front fileNameStart = false := by
  rw [← Bool.not_eq_true]
  intro hsame
  -- The underscores of the start are neither blanks nor letters, so the key would have them too.
  have hunderscore : '_' ∈ front.toList.map Text.lowerAsciiChar := by
    rw [map_lowerAsciiChar_of_same hsame]
    decide
  obtain ⟨d, hd, hlower⟩ := List.mem_map.mp hunderscore
  have hgraphic : Text.isBlank d = false := by
    rw [← Bool.not_eq_true]
    intro hblank
    rw [Text.lowerAsciiChar_of_isBlank hblank] at hlower
    subst hlower
    cases hblank
  have hkey := VesselClass.mem_nameKey (leads.subset hd) hgraphic
  rw [hlower, named] at hkey
  exact VesselClass.underscore_notMem_name c hkey

theorem splitName_of_nameKey {front word : String} {c : VesselClass}
    (named : VesselClass.nameKey word = c.name) :
    Path.splitName (front ++ word ++ ".json") = (front ++ word, some "json") := by
  have hdot : ".json" = "." ++ "json" := rfl
  rw [hdot, ← String.append_assoc]
  refine Path.splitName_eq_some_iff.mpr ⟨fun hempty => ?_, by decide, rfl⟩
  rw [(String.append_eq_empty_iff.mp hempty).2] at named
  exact VesselClass.nameKey_empty_ne_name c named

theorem classOfFile?_eq_some_iff {name : String} {c : VesselClass} :
    classOfFile? name = some c ↔ NamesClass name c := by
  have hdot : ".json" = "." ++ "json" := rfl
  unfold classOfFile?
  constructor
  · intro h
    rcases hsplit : Path.splitName name with ⟨stem, extension⟩
    rw [hsplit] at h
    dsimp only at h
    split at h
    · next hjson =>
      obtain rfl := eq_of_beq hjson
      obtain ⟨-, -, rfl⟩ := Path.splitName_eq_some_iff.mp hsplit
      rw [VesselClass.ofName?_eq_some_iff] at h
      split at h
      · next hsame =>
        refine ⟨_, _, ?_, .inr hsame, h⟩
        rw [← String.ofList_append, List.take_append_drop, String.ofList_toList, hdot,
          String.append_assoc]
      · refine ⟨"", stem, ?_, .inl rfl, h⟩
        rw [String.empty_append, hdot, String.append_assoc]
    · cases h
  · rintro ⟨front, word, rfl, hfront, hkey⟩
    rw [splitName_of_nameKey hkey]
    dsimp only
    rw [if_pos (beq_self_eq_true _), VesselClass.ofName?_eq_some_iff]
    rcases hfront with rfl | hsame
    · have hleads : (String.ofList (word.toList.take fileNameStart.length)).toList <+:
          word.toList := by
        rw [String.toList_ofList]
        exact List.take_prefix _ _
      rw [String.empty_append, not_sameIgnoringAsciiCase_of_isPrefix hkey hleads,
        if_neg Bool.false_ne_true, hkey]
    · have hlength : front.toList.length = fileNameStart.length := by
        rw [← String.length_toList]
        simpa only [List.length_map] using congrArg List.length (map_lowerAsciiChar_of_same hsame)
      rw [String.toList_append, List.take_left' hlength, List.drop_left' hlength,
        String.ofList_toList, String.ofList_toList, if_pos hsame, hkey]

/-! ## What an entry holds -/

/-- The entry is a file that is named after the class, and its text is that of the table. -/
structure Holds (entry : String × FileTree) (c : VesselClass) (t : Table) : Prop where
  named : NamesClass entry.1 c
  read : ∃ text raw, entry.2 = .file text ∧ text.whole? = some raw ∧ Table.read? raw = some t

/-- Why an entry of a folder does not count. -/
inductive Skipped (entry : String × FileTree) : Prop where
  | otherExtension (other : ∀ stem, entry.1 ≠ stem ++ ".json")
  | unknownClass (unknown : ∀ c, ¬ NamesClass entry.1 c)
  | folder (entries : List (String × FileTree)) (found : entry.2 = .folder entries)
  /-- the file cannot be read, or its bytes are not UTF-8 -/
  | notText (text : FileText) (found : entry.2 = .file text) (unreadable : text.whole? = none)
  | noTable (text : FileText) (raw : String) (found : entry.2 = .file text)
      (readable : text.whole? = some raw) (malformed : Table.read? raw = none)

/-- What an entry gives to the model of its folder. -/
def held? (entry : String × FileTree) : Option (VesselClass × Table) := do
  let c ← classOfFile? entry.1
  let t ← tableOfFile? entry.2
  pure (c, t)

theorem held?_eq_some_iff {entry : String × FileTree} {c : VesselClass} {t : Table} :
    held? entry = some (c, t) ↔ Holds entry c t := by
  constructor
  · intro h
    obtain ⟨c', hc, h⟩ := Option.bind_eq_some_iff.mp h
    obtain ⟨t', ht, h⟩ := Option.bind_eq_some_iff.mp h
    cases h
    exact ⟨classOfFile?_eq_some_iff.mp hc, tableOfFile?_eq_some_iff.mp ht⟩
  · rintro ⟨hnamed, hread⟩
    rw [held?, classOfFile?_eq_some_iff.mpr hnamed, tableOfFile?_eq_some_iff.mpr hread]
    rfl

/-- An entry is skipped, or it holds a table. -/
theorem skipped_iff {entry : String × FileTree} :
    Skipped entry ↔ ∀ c t, ¬ Holds entry c t := by
  constructor
  · rintro hskipped c t ⟨hnamed, text, raw, hfile, hwhole, hread⟩
    cases hskipped with
    | otherExtension other =>
      obtain ⟨front, word, hname, -, -⟩ := hnamed
      exact other _ hname
    | unknownClass unknown => exact unknown c hnamed
    | folder entries found => exact absurd (found.symm.trans hfile) (by simp)
    | notText text' found unreadable =>
      cases found.symm.trans hfile
      cases unreadable.symm.trans hwhole
    | noTable text' raw' found readable malformed =>
      cases found.symm.trans hfile
      cases readable.symm.trans hwhole
      cases malformed.symm.trans hread
  · intro hnone
    by_cases hnamed : ∃ c, NamesClass entry.1 c
    · obtain ⟨c, hc⟩ := hnamed
      rcases hfile : entry.2 with text | entries
      · rcases hwhole : text.whole? with _ | raw
        · exact .notText text hfile hwhole
        · rcases hread : Table.read? raw with _ | t
          · exact .noTable text raw hfile hwhole hread
          · exact absurd ⟨hc, text, raw, hfile, hwhole, hread⟩ (hnone c t)
      · exact .folder entries hfile
    · exact .unknownClass (not_exists.mp hnamed)

/-! ## The tables of a folder -/

namespace Model

/-- A model is the table of what the entries give, one after another. -/
theorem ofEntries_eq (entries : List (String × FileTree)) :
    ofEntries entries = ⟨Assoc.ofList (entries.filterMap held?)⟩ := by
  induction entries using List.reverseRecOn with
  | nil => rfl
  | append_singleton entries entry ih =>
    unfold ofEntries at ih ⊢
    rw [List.foldl_append, List.foldl_cons, List.foldl_nil, ih, List.filterMap_append,
      Assoc.ofList, Assoc.ofList, List.foldl_append]
    rcases hclass : classOfFile? entry.1 with _ | c
    · simp [held?, hclass]
    · rcases htable : tableOfFile? entry.2 with _ | t
      · simp [held?, hclass, htable]
      · simp [held?, hclass, htable, insert]

/-- The entries of a folder in the order of their names. -/
def inOrder (entries : List (String × FileTree)) : List (String × FileTree) :=
  entries.mergeSort fun a b => !decide (b.1 < a.1)

section Order

variable {entries : List (String × FileTree)}

theorem mem_inOrder {entry : String × FileTree} : entry ∈ inOrder entries ↔ entry ∈ entries :=
  List.mem_mergeSort

theorem inOrder_ascending (nodup : (entries.map (·.1)).Nodup) :
    (inOrder entries).Pairwise fun a b =>
      (Path.Part.name a.1).place < (Path.Part.name b.1).place := by
  refine Sorting.pairwise_lt_mergeSort
    (fun entry : String × FileTree => (Path.Part.name entry.1).place) (fun a b => ?_) ?_
  · rw [Bool.not_eq_true', ← Bool.not_eq_true, ← not_lt]
    exact not_congr (Path.Part.before_iff (.name b.1) (.name a.1))
  · refine (List.pairwise_map.mp nodup).imp (mt fun same => ?_)
    exact Path.Part.name.inj (Path.Part.place_injective same)

/-- What is skipped gives nothing. -/
theorem filterMap_held?_eq (entries : List (String × FileTree)) :
    entries.filterMap held? =
      (entries.filter fun entry => (held? entry).isSome).filterMap held? := by
  rw [List.filterMap_filter]
  congr 1
  funext entry
  cases held? entry <;> rfl

theorem held?_isSome_iff {entry : String × FileTree} :
    (held? entry).isSome = true ↔ ¬ Skipped entry := by
  simp only [skipped_iff, Option.isSome_iff_exists, Prod.exists, held?_eq_some_iff, not_forall,
    not_not]

/-- The model of a folder depends on the entries that are not skipped, and on nothing else. -/
theorem ofEntries_inOrder_congr {entries' : List (String × FileTree)}
    (nodup : (entries.map (·.1)).Nodup) (nodup' : (entries'.map (·.1)).Nodup)
    (same : ∀ entry, ¬ Skipped entry → (entry ∈ entries ↔ entry ∈ entries')) :
    ofEntries (inOrder entries) = ofEntries (inOrder entries') := by
  have hfilter : (inOrder entries).filter (fun entry => (held? entry).isSome) =
      (inOrder entries').filter fun entry => (held? entry).isSome := by
    refine Sorting.eq_of_ascending _ ((inOrder_ascending nodup).filter _)
      ((inOrder_ascending nodup').filter _) fun entry => ?_
    rw [List.mem_filter, List.mem_filter, mem_inOrder, mem_inOrder, held?_isSome_iff]
    exact and_congr_left (same entry)
  rw [ofEntries_eq, ofEntries_eq, filterMap_held?_eq, hfilter, ← filterMap_held?_eq]

end Order

/-! ## Loading -/

section Loading

variable {files : Files} {folder : Path} {entries : List (String × FileTree)}

theorem load_of_folder (found : files folder = some (.folder entries)) :
    load files folder = .ok (ofEntries (inOrder entries)) := by
  unfold load Files.entries?
  rw [found]
  rfl

theorem load_eq_error_iff {e : Error} :
    load files folder = .error e ↔
      (∀ entries, files folder ≠ some (.folder entries)) ∧ e = .missingSource folder := by
  rcases hfound : files folder with _ | (text | entries)
  · simp [load, Files.entries?, hfound, @eq_comm _ e]
  · simp [load, Files.entries?, hfound, @eq_comm _ e]
  · rw [load_of_folder hfound]
    simp

theorem mem_classes_ofEntries_iff {c : VesselClass} :
    c ∈ (ofEntries (inOrder entries)).classes ↔ ∃ entry ∈ entries, ∃ t, Holds entry c t := by
  rw [classes, ofEntries_eq, Assoc.mem_keys_ofList_filterMap_iff]
  simp only [mem_inOrder, held?_eq_some_iff]

/-- The table of a class is that of the last entry that holds one for it. -/
theorem lookup_ofEntries_eq_some_iff (proper : (FileTree.folder entries).Proper) (folder : Path)
    {c : VesselClass} {t : Table} :
    (ofEntries (inOrder entries)).tables.lookup c = some t ↔
      ∃ entry ∈ entries, Holds entry c t ∧ ∀ other ∈ entries, (∃ u, Holds other c u) →
        ¬ (folder.join entry.1).before (folder.join other.1) = true := by
  obtain ⟨hnodup, hnames⟩ := FileTree.proper_folder_iff.mp proper
  have hlast := Sorting.exists_last_iff _ (inOrder_ascending hnodup) (P := fun entry => Holds entry c t)
    (Q := fun entry => ∃ u, Holds entry c u)
  simp only [not_exists] at hlast
  rw [ofEntries_eq, Assoc.lookup_ofList_filterMap_iff]
  simp only [held?_eq_some_iff, ne_eq]
  rw [hlast]
  simp only [mem_inOrder]
  refine exists_congr fun entry => and_congr_right fun hentry => and_congr_right fun _ => ?_
  refine forall_congr' fun other => forall_congr' fun hother => ?_
  rw [Path.before_join_iff folder (hnames entry hentry).1 (hnames other hother).1]

/-- Loading fails just if there is no folder.  Otherwise the model has a table for the classes that
an entry holds one for, and it is that of the last such entry in the order of the paths.  Entries
that are skipped can come and go in any place: the model stays the same. -/
theorem load_takes_last_held (files : Files) (folder : Path) :
    (∀ e, load files folder = .error e ↔
      (∀ entries, files folder ≠ some (.folder entries)) ∧ e = .missingSource folder) ∧
    ∀ entries, files folder = some (.folder entries) → (FileTree.folder entries).Proper →
      ∃ m, load files folder = .ok m ∧
        (∀ c, c ∈ m.classes ↔ ∃ entry ∈ entries, ∃ t, Holds entry c t) ∧
        (∀ c t, m.tables.lookup c = some t ↔
          ∃ entry ∈ entries, Holds entry c t ∧ ∀ other ∈ entries, (∃ u, Holds other c u) →
            ¬ (folder.join entry.1).before (folder.join other.1) = true) ∧
        ∀ others folder' entries', others folder' = some (.folder entries') →
          (FileTree.folder entries').Proper →
          (∀ entry, ¬ Skipped entry → (entry ∈ entries ↔ entry ∈ entries')) →
            load others folder' = .ok m := by
  refine ⟨fun e => load_eq_error_iff, fun entries found proper => ?_⟩
  refine ⟨_, load_of_folder found, fun c => mem_classes_ofEntries_iff, fun c t => ?_, ?_⟩
  · exact lookup_ofEntries_eq_some_iff proper folder
  · intro others folder' entries' found' proper' same
    have hnodup := (FileTree.proper_folder_iff.mp proper).1
    have hnodup' := (FileTree.proper_folder_iff.mp proper').1
    rw [load_of_folder found', ofEntries_inOrder_congr hnodup hnodup' same]

/-- Two files with tables of cargo vessels. -/
def cargoFiles : List (String × FileTree) :=
  [("CARGO.json", .file (.ofText "\x7b\x7d")),
    ("H3_Transition_Model_Class_Cargo.json", .file (.ofText "\x7b\"(1, 2)\": \x7b\x7d\x7d"))]

/-- A file without a table and a folder, both with names like those of tables. -/
def brokenFiles : List (String × FileTree) :=
  [("cargo.json", .file (.ofText "none")), ("tug.json", .folder [])]

/-- Of two files the later one gives the table of cargo vessels, and what is skipped comes later
still without taking it away. -/
theorem load_takes_last_held_broken :
    (FileTree.folder (cargoFiles ++ brokenFiles)).Proper ∧ (FileTree.folder cargoFiles).Proper ∧
      ∃ m, load (fun _ => some (.folder (cargoFiles ++ brokenFiles))) ⟨"models"⟩ = .ok m ∧
        m.tables.lookup .cargo = some [(⟨1, 2⟩, [])] ∧
        load (fun _ => some (.folder cargoFiles)) ⟨"models"⟩ = .ok m := by
  have hproper' : (FileTree.folder cargoFiles).Proper :=
    (FileTree.proper_empty.write ⟨"CARGO.json"⟩ _).write
      ⟨"H3_Transition_Model_Class_Cargo.json"⟩ _
  have hproper : (FileTree.folder (cargoFiles ++ brokenFiles)).Proper :=
    (hproper'.write ⟨"cargo.json"⟩ _).makeFolder ⟨"tug.json"⟩
  have hmalformed : Table.read? "none" = none := by cbv
  have hread : Table.read? "\x7b\"(1, 2)\": \x7b\x7d\x7d" = some [(⟨1, 2⟩, [])] := by cbv
  have hskipped : ∀ entry ∈ brokenFiles, Skipped entry := by
    refine List.forall_mem_cons.mpr ⟨?_, List.forall_mem_singleton.mpr ?_⟩
    · exact .noTable _ _ rfl rfl hmalformed
    · exact .folder [] rfl
  obtain ⟨-, hload⟩ := load_takes_last_held (fun _ => some (.folder (cargoFiles ++ brokenFiles)))
    ⟨"models"⟩
  obtain ⟨m, hm, -, hlookup, hothers⟩ := hload _ rfl hproper
  refine ⟨hproper, hproper', m, hm, (hlookup _ _).mpr ?_, hothers _ _ _ rfl hproper' ?_⟩
  · have hnamed : NamesClass "H3_Transition_Model_Class_Cargo.json" .cargo :=
      ⟨"H3_Transition_Model_Class_", "Cargo", rfl, .inr (by decide), by decide⟩
    have hlast : ∀ other ∈ cargoFiles,
        ¬ (Path.join ⟨"models"⟩ "H3_Transition_Model_Class_Cargo.json").before
          (Path.join ⟨"models"⟩ other.1) = true :=
      List.forall_mem_cons.mpr ⟨by decide, List.forall_mem_singleton.mpr (by decide)⟩
    refine ⟨_, List.mem_append_left _ (List.mem_cons_of_mem _ (List.mem_cons_self ..)),
      ⟨hnamed, _, _, rfl, rfl, hread⟩, fun other hother holds => ?_⟩
    obtain ⟨u, hu⟩ := holds
    rcases List.mem_append.mp hother with hmem | hmem
    · exact hlast other hmem
    · exact absurd hu (skipped_iff.mp (hskipped other hmem) _ u)
  · intro entry hkept
    rw [List.mem_append]
    exact or_iff_left fun hmem => hkept (hskipped entry hmem)

end Loading

end Model

end Track

end VesselWatch
