/-
  Proofs/Rule/Folder.lean --- what the files of a folder give after any number of readings.

  `RuleFolder.after` is a folder that has been read time and again while the tree changed
  between the readings.  What one reading does to the rules of a path is `lookup_loadAll`.  By
  induction over the readings, a path gives the rules of the last reading that could take its
  file, as long as a file has been found there at every reading since (`lookup_after_iff`).

  So the rules of the folder stay as they are while nothing happens but that files break and are
  mended (`rules_after_breaks`).
-/
import VesselWatch.Proofs.Rule.Scan
import Mathlib.Data.List.Sort

set_option autoImplicit false

namespace VesselWatch

/-! ## Tables of files -/

/-- The paths of the table ascend. -/
def Ascending (table : List (Path × List Rule)) : Prop :=
  table.Pairwise fun a b => a.1.before b.1 = true

theorem ascending_iff {table : List (Path × List Rule)} :
    Ascending table ↔ table.Pairwise fun a b => a.1.place < b.1.place := by
  unfold Ascending
  simp only [Path.before_iff]

/-- Where paths ascend, an entry is what its path finds. -/
theorem Ascending.lookup_eq_some_iff {table : List (Path × List Rule)} (ascending : Ascending table)
    {q : Path} {rules : List Rule} :
    table.lookup q = some rules ↔ ∃ p, (p, rules) ∈ table ∧ (p == q) = true := by
  induction table with
  | nil => simp
  | cons entry rest ih =>
    obtain ⟨p, here⟩ := entry
    obtain ⟨hp, hrest⟩ := List.pairwise_cons.mp (ascending_iff.mp ascending)
    rw [List.lookup_cons]
    by_cases hq : (q == p) = true
    · rw [hq]
      constructor
      · rintro ⟨⟩
        exact ⟨p, List.mem_cons_self .., by rw [Path.beq_comm]; exact hq⟩
      · rintro ⟨p', hmem, hp'⟩
        rcases List.mem_cons.mp hmem with heq | hmem
        · cases heq
          rfl
        · have hplace : p.place = p'.place := by
            rw [Path.place_eq_iff, ← Path.beq_congr_left hq, Path.beq_comm]
            exact hp'
          exact absurd hplace (hp _ hmem).ne
    · rw [Bool.eq_false_iff.mpr hq]
      rw [ih (ascending_iff.mpr hrest)]
      constructor
      · rintro ⟨p', hmem, hp'⟩
        exact ⟨p', List.mem_cons_of_mem _ hmem, hp'⟩
      · rintro ⟨p', hmem, hp'⟩
        rcases List.mem_cons.mp hmem with heq | hmem
        · cases heq
          rw [Path.beq_comm] at hp'
          exact absurd hp' hq
        · exact ⟨p', hmem, hp'⟩

theorem lookup_congr {p q : Path} (same : (p == q) = true) (table : List (Path × List Rule)) :
    table.lookup p = table.lookup q := by
  induction table with
  | nil => rfl
  | cons entry rest ih => rw [List.lookup_cons, List.lookup_cons, Path.beq_congr_left same, ih]

/-- Tables whose paths ascend have the same rules in the same order if the same is found in them. -/
theorem Ascending.values_eq {table other : List (Path × List Rule)} (ascending : Ascending table)
    (ascending' : Ascending other) (same : ∀ q, table.lookup q = other.lookup q) :
    table.map (·.2) = other.map (·.2) := by
  let key (entry : Path × List Rule) : List (ℕ ×ₗ String) × List Rule := (entry.1.place, entry.2)
  -- Paths may be written differently in the two tables, so only their places are compared.
  have hsub : ∀ {t u : List (Path × List Rule)}, Ascending t → Ascending u →
      (∀ q, t.lookup q = u.lookup q) → ∀ a ∈ t.map key, a ∈ u.map key := by
    intro t u ht hu hsame a ha
    obtain ⟨⟨p, rules⟩, hp, rfl⟩ := List.mem_map.mp ha
    have hfound := ht.lookup_eq_some_iff.mpr ⟨p, hp, Path.place_eq_iff.mp rfl⟩
    rw [hsame, hu.lookup_eq_some_iff] at hfound
    obtain ⟨p', hp', hsame'⟩ := hfound
    exact List.mem_map.mpr ⟨(p', rules), hp', by simp only [key, Path.place_eq_iff.mpr hsame']⟩
  have hkeys : table.map key = other.map key := by
    refine Sorting.eq_of_ascending Prod.fst ?_ ?_ fun a => ⟨?_, ?_⟩
    · exact List.pairwise_map.mpr (ascending_iff.mp ascending)
    · exact List.pairwise_map.mpr (ascending_iff.mp ascending')
    · exact hsub ascending ascending' same a
    · exact hsub ascending' ascending (fun q => (same q).symm) a
  have hvalues : ∀ t : List (Path × List Rule), t.map (·.2) = (t.map key).map (·.2) := by
    intro t
    rw [List.map_map]
    rfl
  rw [hvalues, hvalues, hkeys]

/-! ## One reading -/

namespace RuleFolder

theorem fst_of_contribution {previous : List (Path × List Rule)} {f : Found}
    {entry : Path × List Rule} (given : contribution previous f = some entry) :
    entry.1 = f.path := by
  unfold contribution at given
  split at given
  · cases given
  · cases given
    rfl
  · obtain ⟨_, _, rfl⟩ := Option.map_eq_some_iff.mp given
    rfl

/-- A file gives what it was read to hold, or what it gave before if it cannot be taken. -/
theorem contribution_eq_some_iff {previous : List (Path × List Rule)} {f : Found}
    {rules : List Rule} :
    contribution previous f = some (f.path, rules) ↔
      f.content = .ok (.ok rules) ∨
        (∃ err, f.content = .ok (.error err)) ∧ previous.lookup f.path = some rules := by
  unfold contribution
  split <;> simp_all

theorem ascending_loadAll {files : Files} {rf : RuleFolder} (regular : files.Regular rf.path) :
    Ascending (rf.loadAll files).1.files := by
  refine ascending_iff.mpr (List.Pairwise.filterMap _ ?_ (scan_ascending regular))
  intro f g hlt entry hentry other hother
  rw [fst_of_contribution hentry, fst_of_contribution hother]
  exact hlt

/-- What one reading makes of the rules of a path. -/
theorem lookup_loadAll {files : Files} {rf : RuleFolder} (regular : files.Regular rf.path)
    (q : Path) (rules : List Rule) :
    (rf.loadAll files).1.files.lookup q = some rules ↔
      Finds files rf.path q (.ok rules) ∨
        (∃ err, Finds files rf.path q (.error err)) ∧ rf.files.lookup q = some rules := by
  rw [(ascending_loadAll regular).lookup_eq_some_iff, finds_iff_mem_scan regular]
  simp only [finds_iff_mem_scan regular]
  constructor
  · rintro ⟨p, hmem, hpq⟩
    obtain ⟨f, hf, hgiven⟩ := List.mem_filterMap.mp hmem
    obtain rfl : p = f.path := fst_of_contribution hgiven
    rcases contribution_eq_some_iff.mp hgiven with hok | ⟨⟨err, herr⟩, hkept⟩
    · exact .inl ⟨f, hf, hpq, hok⟩
    · exact .inr ⟨⟨err, f, hf, hpq, herr⟩, lookup_congr hpq rf.files ▸ hkept⟩
  · rintro (⟨f, hf, hfq, hok⟩ | ⟨⟨err, f, hf, hfq, herr⟩, hkept⟩)
    · exact ⟨f.path, List.mem_filterMap.mpr ⟨f, hf, contribution_eq_some_iff.mpr (.inl hok)⟩, hfq⟩
    · rw [← lookup_congr hfq] at hkept
      have hgiven := contribution_eq_some_iff.mpr (.inr ⟨⟨err, herr⟩, hkept⟩)
      exact ⟨f.path, List.mem_filterMap.mpr ⟨f, hf, hgiven⟩, hfq⟩

/-! ## Any number of readings -/

/-- The folder after it has been read at each of these states of the file system in turn. -/
def after (folder : Path) (history : List Files) : RuleFolder :=
  history.foldl (fun rf files => (rf.loadAll files).1) (unread folder)

theorem after_snoc (folder : Path) (history : List Files) (files : Files) :
    after folder (history ++ [files]) = ((after folder history).loadAll files).1 := by
  rw [after, List.foldl_append]
  rfl

theorem path_after (folder : Path) (history : List Files) :
    (after folder history).path = folder := by
  induction history using List.reverseRecOn with
  | nil => rfl
  | append_singleton history files ih =>
    rw [after_snoc]
    exact ih

theorem ascending_after {folder : Path} {history : List Files}
    (regular : ∀ files ∈ history, files.Regular folder) :
    Ascending (after folder history).files := by
  induction history using List.reverseRecOn with
  | nil => exact List.Pairwise.nil
  | append_singleton history files _ =>
    rw [after_snoc]
    refine ascending_loadAll ?_
    rw [path_after]
    exact regular files (List.mem_append_right _ (List.mem_singleton_self _))

theorem lookup_after_snoc_iff {folder : Path} {history : List Files} {files : Files}
    (regular : files.Regular folder) (q : Path) (rules : List Rule) :
    (after folder (history ++ [files])).files.lookup q = some rules ↔
      Finds files folder q (.ok rules) ∨
        (∃ err, Finds files folder q (.error err)) ∧
          (after folder history).files.lookup q = some rules := by
  rw [← path_after folder history] at regular
  rw [after_snoc, lookup_loadAll regular, path_after]

/-- The path was taken with these rules, and at each reading since then it was found but could
not be taken. -/
def Stands (folder q : Path) (rules : List Rule) (history : List Files) : Prop :=
  ∃ earlier files later, history = earlier ++ files :: later ∧
    Finds files folder q (.ok rules) ∧
    ∀ since ∈ later, ∃ err, Finds since folder q (.error err)

theorem not_stands_nil (folder q : Path) (rules : List Rule) : ¬ Stands folder q rules [] := by
  rintro ⟨earlier, files, later, hnil, -⟩
  cases earlier <;> cases hnil

/-- One reading more. -/
theorem stands_snoc {folder q : Path} {rules : List Rule} {history : List Files} {files : Files} :
    Stands folder q rules (history ++ [files]) ↔
      Finds files folder q (.ok rules) ∨
        (∃ err, Finds files folder q (.error err)) ∧ Stands folder q rules history := by
  constructor
  · rintro ⟨earlier, good, later, hsplit, hgood, hlater⟩
    cases later using List.reverseRecOn with
    | nil =>
      obtain ⟨-, rfl⟩ := List.append_inj' hsplit rfl |>.imp_right List.singleton_inj.mp
      exact .inl hgood
    | append_singleton later last =>
      rw [← List.cons_append, ← List.append_assoc] at hsplit
      obtain ⟨rfl, hlast⟩ := List.append_inj' hsplit rfl
      obtain rfl := List.singleton_inj.mp hlast
      rw [List.forall_mem_append, List.forall_mem_singleton] at hlater
      exact .inr ⟨hlater.2, earlier, good, later, rfl, hgood, hlater.1⟩
  · rintro (hgood | ⟨hfailed, earlier, good, later, rfl, hgood, hlater⟩)
    · exact ⟨history, files, [], rfl, hgood, List.forall_mem_nil _⟩
    · refine ⟨earlier, good, later ++ [files], by simp, hgood, ?_⟩
      rw [List.forall_mem_append, List.forall_mem_singleton]
      exact ⟨hlater, hfailed⟩

theorem lookup_after_iff {folder : Path} {history : List Files}
    (regular : ∀ files ∈ history, files.Regular folder) (q : Path) (rules : List Rule) :
    (after folder history).files.lookup q = some rules ↔ Stands folder q rules history := by
  induction history using List.reverseRecOn with
  | nil => exact iff_of_false nofun (not_stands_nil folder q rules)
  | append_singleton history files ih =>
    rw [List.forall_mem_append, List.forall_mem_singleton] at regular
    rw [lookup_after_snoc_iff regular.2, ih regular.1, stands_snoc]

/-- Two states of the file system in which the same is found at the path. -/
def AgreeAt (folder q : Path) (files others : Files) : Prop :=
  ∀ outcome, Finds files folder q outcome ↔ Finds others folder q outcome

theorem AgreeAt.forall_fails {folder q : Path} {history others : List Files}
    (agree : List.Forall₂ (AgreeAt folder q) others history)
    (fails : ∀ files ∈ history, ∃ err, Finds files folder q (.error err)) :
    ∀ files ∈ others, ∃ err, Finds files folder q (.error err) := by
  induction agree with
  | nil => exact List.forall_mem_nil _
  | cons hfiles _ ih =>
    rw [List.forall_mem_cons] at fails ⊢
    exact ⟨fails.1.imp fun err => (hfiles _).mpr, ih fails.2⟩

theorem Stands.congr {folder q : Path} {rules : List Rule} {history others : List Files}
    (agree : List.Forall₂ (AgreeAt folder q) others history)
    (stands : Stands folder q rules history) : Stands folder q rules others := by
  obtain ⟨earlier, files, later, rfl, hgood, hlater⟩ := stands
  have hrest := List.forall₂_drop_append others earlier (files :: later) agree
  obtain ⟨files', later', hfiles, hagree, hdrop⟩ := List.forall₂_cons_right_iff.mp hrest
  refine ⟨others.take earlier.length, files', later', ?_, (hfiles _).mpr hgood,
    AgreeAt.forall_fails hagree hlater⟩
  rw [← hdrop, List.take_append_drop]

theorem AgreeAt.flip {folder q : Path} {history others : List Files}
    (agree : List.Forall₂ (AgreeAt folder q) history others) :
    List.Forall₂ (AgreeAt folder q) others history :=
  agree.flip.imp fun _ _ h outcome => (h outcome).symm

/-- Whatever happened to the tree between the readings, each path comes once in the table.  It gives
the rules of one reading, the last that took its file, if at every reading since then a file
was found there that could not be taken, and else it gives none.  What the readings found at
other paths does not count. -/
theorem gives_what_was_read_last (folder : Path) (history : List Files)
    (regular : ∀ files ∈ history, files.Regular folder) :
    Ascending (after folder history).files ∧
    ∀ q : Path,
      (∀ files ∈ history, ∀ one other, Finds files folder q one → Finds files folder q other →
        one = other) ∧
      (∀ rules, (after folder history).files.lookup q = some rules ↔
        ∃ earlier files later, history = earlier ++ files :: later ∧
          Finds files folder q (.ok rules) ∧
          ∀ since ∈ later, ∃ err, Finds since folder q (.error err)) ∧
      ∀ others : List Files, (∀ files ∈ others, files.Regular folder) →
        List.Forall₂ (AgreeAt folder q) history others →
        (after folder others).files.lookup q = (after folder history).files.lookup q := by
  refine ⟨ascending_after regular, fun q => ⟨?_, lookup_after_iff regular q, ?_⟩⟩
  · intro files hfiles one other hone hother
    exact Finds.unique (regular files hfiles) hone hother
  · intro others hothers agree
    refine Option.ext fun rules => ?_
    rw [lookup_after_iff hothers, lookup_after_iff regular]
    exact ⟨Stands.congr agree, Stands.congr (AgreeAt.flip agree)⟩

/-- A file is taken and then broken twice: it goes on giving its rule. -/
theorem gives_what_was_read_last_broken_twice :
    let good := Files.oneFile (.ofText plainRule)
    let broken := Files.oneFile (.ofText "[")
    (∀ files ∈ [good, broken, broken], files.Regular ⟨"rules"⟩) ∧
    ∃ rules, rules.map (·.id) = ["a"] ∧
      (after ⟨"rules"⟩ [good, broken, broken]).files.lookup ⟨"rules//a.yml"⟩ = some rules := by
  intro good broken
  have hregular : ∀ files ∈ [good, broken, broken], files.Regular ⟨"rules"⟩ := by
    simp only [List.forall_mem_cons, good, broken]
    exact ⟨Files.regular_oneFile _, Files.regular_oneFile _, Files.regular_oneFile _,
      List.forall_mem_nil _⟩
  obtain ⟨rules, hread, hids, -⟩ := outcome_plainRule
  obtain ⟨err, hfails⟩ := outcome_bracket
  have hgood : Finds good ⟨"rules"⟩ ⟨"rules//a.yml"⟩ (.ok rules) :=
    Files.finds_oneFile_iff.mpr ⟨by decide, hread⟩
  have hbroken : Finds broken ⟨"rules"⟩ ⟨"rules//a.yml"⟩ (.error err) :=
    Files.finds_oneFile_iff.mpr ⟨by decide, hfails⟩
  have hlookup := ((gives_what_was_read_last ⟨"rules"⟩ [good, broken, broken] hregular).2
    ⟨"rules//a.yml"⟩).2.1 rules
  refine ⟨hregular, rules, hids, hlookup.mpr ⟨[], good, [broken, broken], rfl, hgood, ?_⟩⟩
  simp only [List.forall_mem_cons]
  exact ⟨⟨err, hbroken⟩, ⟨err, hbroken⟩, List.forall_mem_nil _⟩

/-! ## Files that break -/

/-- In `new` there are rule files at the same paths as in `old`, and those that can be taken give
what they gave in `old`. -/
def Breaks (folder : Path) (old new : Files) : Prop :=
  ∀ q, ((∃ outcome, Finds new folder q outcome) ↔ ∃ outcome, Finds old folder q outcome) ∧
    ∀ rules, Finds new folder q (.ok rules) → Finds old folder q (.ok rules)

/-- Where the rules of a path are those that it was taken with in `old`, or older ones if it was
found there but not taken, a reading in which files have broken since does not touch them. -/
theorem lookup_after_snoc_of_breaks {folder : Path} {history : List Files} {old new : Files}
    (regular : new.Regular folder) (breaks : Breaks folder old new) {q : Path}
    (taken : ∀ rules, Finds old folder q (.ok rules) →
      (after folder history).files.lookup q = some rules)
    (found : ∀ rules, (after folder history).files.lookup q = some rules →
      ∃ outcome, Finds old folder q outcome) :
    (after folder (history ++ [new])).files.lookup q = (after folder history).files.lookup q := by
  obtain ⟨hfound, htaken⟩ := breaks q
  refine Option.ext fun rules => ?_
  rw [lookup_after_snoc_iff regular]
  constructor
  · rintro (hgood | ⟨-, hkept⟩)
    · exact taken rules (htaken rules hgood)
    · exact hkept
  · intro hkept
    obtain ⟨outcome, houtcome⟩ := hfound.mpr (found rules hkept)
    cases outcome with
    | error err => exact .inr ⟨⟨err, houtcome⟩, hkept⟩
    | ok rules' =>
      have hagain := taken rules' (htaken rules' houtcome)
      rw [hkept] at hagain
      cases hagain
      exact .inl houtcome

/-- Files that break, and files that are whole again, make no difference. -/
theorem lookup_after_breaks {folder : Path} {earlier later : List Files} {old : Files}
    (regular : ∀ files ∈ earlier ++ old :: later, files.Regular folder)
    (breaks : ∀ new ∈ later, Breaks folder old new) (q : Path) :
    (after folder (earlier ++ old :: later)).files.lookup q =
      (after folder (earlier ++ [old])).files.lookup q := by
  induction later using List.reverseRecOn with
  | nil => rfl
  | append_singleton later new ih =>
    rw [← List.cons_append, ← List.append_assoc] at regular ⊢
    rw [List.forall_mem_append, List.forall_mem_singleton] at regular breaks
    have hsame := ih regular.1 breaks.1
    have hregular := regular.1 old (List.mem_append_right _ (List.mem_cons_self ..))
    rw [lookup_after_snoc_of_breaks regular.2 breaks.2, hsame]
    · intro rules hgood
      rw [hsame, lookup_after_snoc_iff hregular]
      exact .inl hgood
    · intro rules hkept
      rw [hsame, lookup_after_snoc_iff hregular] at hkept
      rcases hkept with hgood | ⟨⟨err, herr⟩, -⟩
      · exact ⟨_, hgood⟩
      · exact ⟨_, herr⟩

theorem rules_after_breaks {folder : Path} {earlier later : List Files} {old : Files}
    (regular : ∀ files ∈ earlier ++ old :: later, files.Regular folder)
    (breaks : ∀ new ∈ later, Breaks folder old new) :
    (after folder (earlier ++ old :: later)).rules = (after folder (earlier ++ [old])).rules := by
  have hbase : ∀ files ∈ earlier ++ [old], files.Regular folder := by
    intro files hfiles
    refine regular files ?_
    rw [List.append_cons]
    exact List.mem_append_left _ hfiles
  have hvalues := Ascending.values_eq (ascending_after regular) (ascending_after hbase)
    (lookup_after_breaks regular breaks)
  unfold RuleFolder.rules
  rw [List.flatMap_def, List.flatMap_def, hvalues]

end RuleFolder

end VesselWatch
