/-
  Proofs/Rule/Scan.lean --- what a scan of a folder finds.

  `Files.Shows` says without scanning which files there are: names lead from the folder
  through visible folders to a file.  A scan comes to just these (`mem_scan_iff`).  Those among
  them that are rule files, and what their texts read as, are what `Finds` gives for a path
  (`finds_iff_mem_scan`).  In a proper tree a scan finds no path twice, so its files ascend
  strictly (`scan_ascending`) and a path has one outcome (`Finds.unique`).
-/
import VesselWatch.Rule.Folder
import VesselWatch.Proofs.FileTree.Names

set_option autoImplicit false

namespace VesselWatch

open FileTree (ProperEntries)

/-! ## The paths of a scan -/

mutual

theorem prefix_of_mem_filesBelow (p : Path) (name : String) (tree : FileTree)
    (proper : tree.Proper) : ∀ f ∈ filesBelow p name tree, p.parts <+: f.path.parts := by
  intro f hf
  cases tree with
  | file text =>
    obtain rfl := List.mem_singleton.mp hf
    exact List.prefix_refl _
  | folder entries =>
    rw [filesBelow] at hf
    split at hf
    · exact absurd hf List.not_mem_nil
    · obtain ⟨entry, -, hprefix⟩ := prefix_of_mem_filesOfEntries p entries proper.2 f hf
      exact (List.prefix_append _ _).trans hprefix

theorem prefix_of_mem_filesOfEntries (p : Path) (entries : List (String × FileTree))
    (proper : ProperEntries entries) : ∀ f ∈ filesOfEntries p entries,
      ∃ name ∈ entries.map (·.1), p.parts ++ [.name name] <+: f.path.parts := by
  intro f hf
  cases entries with
  | nil => exact absurd hf List.not_mem_nil
  | cons entry rest =>
    obtain ⟨name, tree⟩ := entry
    obtain ⟨hname, htree, hrest⟩ := proper
    rcases List.mem_append.mp hf with hf | hf
    · have hprefix := prefix_of_mem_filesBelow (p.join name) name tree htree f hf
      rw [Path.parts_join p hname] at hprefix
      exact ⟨name, List.mem_cons_self .., hprefix⟩
    · obtain ⟨other, hother, hprefix⟩ := prefix_of_mem_filesOfEntries p rest hrest f hf
      exact ⟨other, List.mem_cons_of_mem _ hother, hprefix⟩

end

/-- Paths that go on with different names are different. -/
theorem Path.name_eq_of_prefix {front : List Path.Part} {a b : String} {parts : List Path.Part}
    (ha : front ++ [.name a] <+: parts) (hb : front ++ [.name b] <+: parts) : a = b := by
  obtain ⟨as, rfl⟩ := ha
  obtain ⟨bs, hparts⟩ := hb
  have hnames : a = b ∧ as = bs := by simpa using hparts.symm
  exact hnames.1

mutual

theorem nodup_parts_filesBelow (p : Path) (name : String) (tree : FileTree)
    (proper : tree.Proper) : ((filesBelow p name tree).map (·.path.parts)).Nodup := by
  cases tree with
  | file text => exact List.nodup_singleton _
  | folder entries =>
    rw [filesBelow]
    split
    · exact List.nodup_nil
    · exact nodup_parts_filesOfEntries p entries proper.1 proper.2

theorem nodup_parts_filesOfEntries (p : Path) (entries : List (String × FileTree))
    (nodup : (entries.map (·.1)).Nodup) (proper : ProperEntries entries) :
    ((filesOfEntries p entries).map (·.path.parts)).Nodup := by
  cases entries with
  | nil => exact List.nodup_nil
  | cons entry rest =>
    obtain ⟨name, tree⟩ := entry
    obtain ⟨hname, htree, hrest⟩ := proper
    obtain ⟨hfresh, hnodup⟩ := List.nodup_cons.mp nodup
    rw [filesOfEntries, List.map_append, List.nodup_append]
    refine ⟨nodup_parts_filesBelow (p.join name) name tree htree,
      nodup_parts_filesOfEntries p rest hnodup hrest, ?_⟩
    intro here hhere there hthere heq
    obtain ⟨f, hf, rfl⟩ := List.mem_map.mp hhere
    obtain ⟨g, hg, rfl⟩ := List.mem_map.mp hthere
    have hfirst := prefix_of_mem_filesBelow (p.join name) name tree htree f hf
    rw [Path.parts_join p hname, heq] at hfirst
    obtain ⟨other, hother, hsecond⟩ := prefix_of_mem_filesOfEntries p rest hrest g hg
    exact hfresh (Path.name_eq_of_prefix hfirst hsecond ▸ hother)

end

/-- What is found at the path is proper. -/
def Files.Regular (files : Files) (folder : Path) : Prop :=
  ∀ tree, files folder = some tree → tree.Proper

theorem FileTree.Proper.regular {tree : FileTree} (proper : tree.Proper) (folder : Path) :
    Files.Regular tree.find? folder :=
  fun _ found => proper.find? found

/-- Files stand in the order of their paths, and no two have one path. -/
theorem scan_ascending {files : Files} {folder : Path} (regular : files.Regular folder) :
    (scan files folder).Pairwise fun a b => a.path.place < b.path.place := by
  refine Path.mergeSort_ascending Found.path ?_
  split
  · next entries hfolder =>
    have proper := regular _ hfolder
    exact nodup_parts_filesOfEntries folder entries proper.1 proper.2
  · exact List.nodup_nil

/-! ## What there is at a path -/

/-- The file that a row of names leads to. -/
def FileTree.fileAt? : List String → FileTree → Option FileText
  | [], .file text => some text
  | name :: rest, .folder entries =>
    match entries.lookup name with
    | some next => fileAt? rest next
    | none => none
  | _, _ => none

/-- What a rule file with this text gives: its rules, or why there are none. -/
def FileText.outcome (text : FileText) : Except RuleFile.Error (List Rule) :=
  match text.whole? with
  | none => .error .unreadable
  | some text => RuleFile.read text

/-- The names lead to a rule file: none begins with a dot, and the last has the extension. -/
def LeadsToRules (names : List String) : Prop :=
  (∀ name ∈ names, isDotName name = false) ∧ ∃ last ∈ names.getLast?, isRuleFile last = true

/-- There is a rule file at the path, in the folder or below it, with this outcome. -/
def Finds (files : Files) (folder q : Path) (outcome : Except RuleFile.Error (List Rule)) : Prop :=
  ∃ tree names text, files folder = some tree ∧ tree.fileAt? names = some text ∧
    q.parts = folder.parts ++ names.map .name ∧ LeadsToRules names ∧ text.outcome = outcome

theorem lookAt_eq_ok_iff {name : String} {text : FileText}
    {outcome : Except RuleFile.Error (List Rule)} :
    lookAt name text.whole? = .ok outcome ↔ LeadsToRules [name] ∧ text.outcome = outcome := by
  have hlast : LeadsToRules [name] ↔ isDotName name = false ∧ isRuleFile name = true := by
    simp [LeadsToRules]
  rw [hlast]
  unfold lookAt FileText.outcome
  cases hdot : isDotName name with
  | true => simp
  | false =>
    cases hrule : isRuleFile name with
    | false => simp
    | true => cases text.whole? <;> simp

theorem fileAt?_folder_eq_some_iff {entries : List (String × FileTree)}
    (nodup : (entries.map (·.1)).Nodup) {names : List String} {text : FileText} :
    (FileTree.folder entries).fileAt? names = some text ↔
      ∃ name next rest, names = name :: rest ∧ (name, next) ∈ entries ∧
        next.fileAt? rest = some text := by
  constructor
  · intro hfound
    cases names with
    | nil => cases hfound
    | cons name rest =>
      cases hnext : entries.lookup name with
      | none => simp [FileTree.fileAt?, hnext] at hfound
      | some next =>
        simp only [FileTree.fileAt?, hnext] at hfound
        exact ⟨name, next, rest, rfl, Assoc.mem_of_lookup_eq_some hnext, hfound⟩
  · rintro ⟨name, next, rest, rfl, hmem, hfound⟩
    simp only [FileTree.fileAt?, (Assoc.lookup_eq_some_iff_mem nodup).mpr hmem]
    exact hfound

/-- A file with this text is where the names lead from the folder, and no folder on the way has a
name that begins with a dot. -/
def Files.Shows (files : Files) (folder : Path) (names : List String) (text : FileText) : Prop :=
  names ≠ [] ∧ (∃ tree, files folder = some tree ∧ tree.fileAt? names = some text) ∧
    ∀ name ∈ names.dropLast, isDotName name = false

/-- The names that lead to a file in a proper tree are names. -/
theorem FileTree.Proper.names_of_fileAt? {tree : FileTree} (proper : tree.Proper)
    {names : List String} {text : FileText} (found : tree.fileAt? names = some text) :
    ∀ name ∈ names, Path.IsEntryName name := by
  induction names generalizing tree with
  | nil => exact List.forall_mem_nil _
  | cons name rest ih =>
    cases tree with
    | file text => cases found
    | folder entries =>
      have hproper := FileTree.proper_folder_iff.mp proper
      obtain ⟨name', next, rest', heq, hmem, hnext⟩ :=
        (fileAt?_folder_eq_some_iff hproper.1).mp found
      obtain ⟨rfl, rfl⟩ := List.cons.inj heq
      obtain ⟨hname, hproper⟩ := hproper.2 _ hmem
      exact List.forall_mem_cons.mpr ⟨hname, ih hproper hnext⟩

section Found

variable (f : Found)

mutual

theorem mem_filesBelow_iff (p : Path) (name : String) (tree : FileTree) (proper : tree.Proper) :
    f ∈ filesBelow p name tree ↔
      ∃ rest text, tree.fileAt? rest = some text ∧
        (∀ folder ∈ (name :: rest).dropLast, isDotName folder = false) ∧
        f = ⟨p.below rest, lookAt (rest.getLast?.getD name) text.whole?⟩ := by
  cases tree with
  | file text =>
    rw [filesBelow, List.mem_singleton]
    constructor
    · rintro rfl
      exact ⟨[], text, rfl, List.forall_mem_nil _, rfl⟩
    · rintro ⟨rest, text', hfound, -, rfl⟩
      cases rest with
      | nil =>
        cases hfound
        rfl
      | cons => cases hfound
  | folder entries =>
    rw [filesBelow]
    split
    · -- A hidden folder is not entered.
      next hdot =>
      refine iff_of_false List.not_mem_nil ?_
      rintro ⟨rest, text, hfound, hvisible, -⟩
      cases rest with
      | nil => cases hfound
      | cons next rest =>
        rw [List.dropLast_cons_cons, List.forall_mem_cons, hdot] at hvisible
        cases hvisible.1
    · next hdot =>
      rw [mem_filesOfEntries_iff p entries proper.1 proper.2]
      constructor
      · rintro ⟨name', next, rest, text, hmem, hfound, hvisible, rfl⟩
        refine ⟨name' :: rest, text, ?_, ?_, ?_⟩
        · exact (fileAt?_folder_eq_some_iff proper.1).mpr ⟨name', next, rest, rfl, hmem, hfound⟩
        · rw [List.dropLast_cons_cons, List.forall_mem_cons]
          exact ⟨Bool.eq_false_iff.mpr hdot, hvisible⟩
        · rw [List.getLast?_cons]
          rfl
      · rintro ⟨names, text, hfound, hvisible, rfl⟩
        obtain ⟨name', next, rest, rfl, hmem, hfound⟩ :=
          (fileAt?_folder_eq_some_iff proper.1).mp hfound
        rw [List.dropLast_cons_cons, List.forall_mem_cons] at hvisible
        exact ⟨name', next, rest, text, hmem, hfound, hvisible.2, by rw [List.getLast?_cons]; rfl⟩

theorem mem_filesOfEntries_iff (p : Path) (entries : List (String × FileTree))
    (nodup : (entries.map (·.1)).Nodup) (proper : ProperEntries entries) :
    f ∈ filesOfEntries p entries ↔
      ∃ name next rest text, (name, next) ∈ entries ∧ next.fileAt? rest = some text ∧
        (∀ folder ∈ (name :: rest).dropLast, isDotName folder = false) ∧
        f = ⟨p.below (name :: rest), lookAt (rest.getLast?.getD name) text.whole?⟩ := by
  cases entries with
  | nil => simp [filesOfEntries]
  | cons entry others =>
    obtain ⟨name, tree⟩ := entry
    obtain ⟨-, htree, hothers⟩ := proper
    have hthere := mem_filesOfEntries_iff p others (List.nodup_cons.mp nodup).2 hothers
    rw [filesOfEntries, List.mem_append, hthere, mem_filesBelow_iff (p.join name) name tree htree]
    constructor
    · rintro (⟨rest, text, hfound⟩ | ⟨name', next, rest, text, hmem, hfound⟩)
      · exact ⟨name, tree, rest, text, List.mem_cons_self .., hfound⟩
      · exact ⟨name', next, rest, text, List.mem_cons_of_mem _ hmem, hfound⟩
    · rintro ⟨name', next, rest, text, hmem, hfound⟩
      rcases List.mem_cons.mp hmem with heq | hmem
      · cases heq
        exact .inl ⟨rest, text, hfound⟩
      · exact .inr ⟨name', next, rest, text, hmem, hfound⟩

end

end Found

/-- A scan comes to the files that the folder shows, each by its path. -/
theorem mem_scan_iff {files : Files} {folder : Path} (regular : files.Regular folder) {f : Found} :
    f ∈ scan files folder ↔
      ∃ names text, files.Shows folder names text ∧
        ∃ last ∈ names.getLast?, f = ⟨folder.below names, lookAt last text.whole?⟩ := by
  unfold scan
  rw [List.mem_mergeSort]
  split
  · next entries hfolder =>
    have proper := regular _ hfolder
    rw [mem_filesOfEntries_iff f folder entries proper.1 proper.2]
    constructor
    · rintro ⟨name, next, rest, text, hmem, hfound, hvisible, hf⟩
      have hat := (fileAt?_folder_eq_some_iff proper.1).mpr ⟨name, next, rest, rfl, hmem, hfound⟩
      exact ⟨name :: rest, text, ⟨List.cons_ne_nil _ _, ⟨_, hfolder, hat⟩, hvisible⟩, _,
        List.getLast?_cons .., hf⟩
    · rintro ⟨names, text, ⟨-, ⟨tree, htree, hfound⟩, hvisible⟩, last, hlast, hf⟩
      rw [hfolder] at htree
      cases htree
      obtain ⟨name, next, rest, rfl, hmem, hfound⟩ :=
        (fileAt?_folder_eq_some_iff proper.1).mp hfound
      rw [List.getLast?_cons] at hlast
      cases hlast
      exact ⟨name, next, rest, text, hmem, hfound, hvisible, hf⟩
  · next hnone =>
    -- Where there is no folder, there is at most a file, and no name leads to it.
    refine iff_of_false List.not_mem_nil ?_
    rintro ⟨names, text, ⟨hnames, ⟨tree, htree, hfound⟩, -⟩, -⟩
    cases tree with
    | file text' =>
      cases names with
      | nil => exact hnames rfl
      | cons => cases hfound
    | folder entries => exact hnone entries htree

theorem leadsToRules_iff {names : List String} {last : String} (hlast : last ∈ names.getLast?) :
    LeadsToRules names ↔
      (∀ name ∈ names.dropLast, isDotName name = false) ∧ LeadsToRules [last] := by
  obtain ⟨front, rfl⟩ := List.getLast?_eq_some_iff.mp hlast
  simp [LeadsToRules, or_imp, forall_and, and_assoc]

/-- The rule file at a path is one that the folder shows. -/
theorem finds_iff_shows {files : Files} {folder q : Path}
    {outcome : Except RuleFile.Error (List Rule)} :
    Finds files folder q outcome ↔
      ∃ names text, files.Shows folder names text ∧ q.parts = folder.parts ++ names.map .name ∧
        ∃ last ∈ names.getLast?, lookAt last text.whole? = .ok outcome := by
  constructor
  · rintro ⟨tree, names, text, htree, hfound, hq, hrules, houtcome⟩
    obtain ⟨last, hlast, -⟩ := hrules.2
    obtain ⟨hvisible, hrule⟩ := (leadsToRules_iff hlast).mp hrules
    refine ⟨names, text, ⟨?_, ⟨tree, htree, hfound⟩, hvisible⟩, hq, last, hlast,
      lookAt_eq_ok_iff.mpr ⟨hrule, houtcome⟩⟩
    rintro rfl
    cases hlast
  · rintro ⟨names, text, ⟨-, ⟨tree, htree, hfound⟩, hvisible⟩, hq, last, hlast, hlook⟩
    obtain ⟨hrule, houtcome⟩ := lookAt_eq_ok_iff.mp hlook
    exact ⟨tree, names, text, htree, hfound, hq, (leadsToRules_iff hlast).mpr ⟨hvisible, hrule⟩,
      houtcome⟩

/-- A scan comes to the rule files that there are, and takes each for what it is. -/
theorem finds_iff_mem_scan {files : Files} {folder q : Path} (regular : files.Regular folder)
    {outcome : Except RuleFile.Error (List Rule)} :
    Finds files folder q outcome ↔
      ∃ f ∈ scan files folder, (f.path == q) = true ∧ f.content = .ok outcome := by
  have hpath : ∀ {names text}, files.Shows folder names text →
      ((folder.below names == q) = true ↔ q.parts = folder.parts ++ names.map .name) := by
    rintro names text ⟨-, ⟨tree, htree, hfound⟩, -⟩
    have hentries := (regular tree htree).names_of_fileAt? hfound
    rw [← Path.parts_below folder hentries]
    exact (beq_iff_eq (α := List Path.Part)).trans eq_comm
  rw [finds_iff_shows]
  constructor
  · rintro ⟨names, text, hshows, hq, last, hlast, hlook⟩
    exact ⟨_, (mem_scan_iff regular).mpr ⟨names, text, hshows, last, hlast, rfl⟩,
      (hpath hshows).mpr hq, hlook⟩
  · rintro ⟨f, hf, hq, hcontent⟩
    obtain ⟨names, text, hshows, last, hlast, rfl⟩ := (mem_scan_iff regular).mp hf
    exact ⟨names, text, hshows, (hpath hshows).mp hq, last, hlast, hcontent⟩

/-- The file that a scan finds at a path is one. -/
theorem eq_of_mem_scan {files : Files} {folder : Path} (regular : files.Regular folder)
    {f g : Found} (hf : f ∈ scan files folder) (hg : g ∈ scan files folder)
    (same : (f.path == g.path) = true) : f = g := by
  have hnodup : ((scan files folder).map (·.path.place)).Nodup :=
    List.pairwise_map.mpr ((scan_ascending regular).imp fun h => h.ne)
  exact List.inj_on_of_nodup_map hnodup hf hg (Path.place_eq_iff.mpr same)

theorem Finds.unique {files : Files} {folder q : Path} (regular : files.Regular folder)
    {one other : Except RuleFile.Error (List Rule)} (hone : Finds files folder q one)
    (hother : Finds files folder q other) : one = other := by
  obtain ⟨f, hf, hfq, hfone⟩ := (finds_iff_mem_scan regular).mp hone
  obtain ⟨g, hg, hgq, hgother⟩ := (finds_iff_mem_scan regular).mp hother
  have hsame : (f.path == g.path) = true := by
    rw [Path.beq_congr_left hfq, Path.beq_comm]
    exact hgq
  obtain rfl := eq_of_mem_scan regular hf hg hsame
  rw [hfone] at hgother
  exact Except.ok.inj hgother

/-! ## Views on a tree -/

/-- What lies in the folder is proper, and each file that the folder shows is found at its path. -/
structure Files.Consistent (files : Files) (folder : Path) : Prop where
  regular : files.Regular folder
  found : ∀ {names text}, files.Shows folder names text →
    files (folder.below names) = some (.file text)

/-- From a place that the tree leads to, it leads on to the files there. -/
theorem FileTree.find?_below {tree here : FileTree} {p : Path} (found : tree.find? p = some here)
    (proper : here.Proper) {names : List String} {text : FileText}
    (file : here.fileAt? names = some text) : tree.find? (p.below names) = some (.file text) := by
  induction names generalizing p here with
  | nil =>
    cases here with
    | file text' =>
      cases file
      exact found
    | folder entries => cases file
  | cons name rest ih =>
    cases here with
    | file text' => cases file
    | folder entries =>
      have hname := proper.names_of_fileAt? file name (List.mem_cons_self ..)
      obtain ⟨hnodup, hentries⟩ := FileTree.proper_folder_iff.mp proper
      obtain ⟨name', next, rest', heq, hmem, hnext⟩ := (fileAt?_folder_eq_some_iff hnodup).mp file
      obtain ⟨rfl, rfl⟩ := List.cons.inj heq
      have hlookup := (Assoc.lookup_eq_some_iff_mem hnodup).mpr hmem
      refine ih ?_ (hentries _ hmem).2 hnext
      rw [FileTree.find?_join found hname, hlookup]

theorem FileTree.Proper.consistent {tree : FileTree} (proper : tree.Proper) (folder : Path) :
    Files.Consistent tree.find? folder where
  regular := proper.regular folder
  found := by
    rintro names text ⟨-, ⟨here, hhere, hfile⟩, -⟩
    exact FileTree.find?_below hhere (proper.find? hhere) hfile

/-- Names that lead to one place are the same. -/
theorem Files.Shows.eq_of_below_eq {files : Files} {folder : Path} (regular : files.Regular folder)
    {names others : List String} {text other : FileText} (shows : files.Shows folder names text)
    (shows' : files.Shows folder others other)
    (same : folder.below names = folder.below others) : names = others ∧ text = other := by
  obtain ⟨-, ⟨tree, htree, hfound⟩, -⟩ := shows
  obtain ⟨-, ⟨tree', htree', hfound'⟩, -⟩ := shows'
  rw [htree] at htree'
  cases htree'
  have hnames := (regular tree htree).names_of_fileAt? hfound
  have hothers := (regular tree htree).names_of_fileAt? hfound'
  have hparts := congrArg Path.parts same
  rw [Path.parts_below folder hnames, Path.parts_below folder hothers,
    List.append_cancel_left_eq] at hparts
  obtain rfl : names = others := List.map_injective_iff.mpr (fun a b h => by simpa using h) hparts
  rw [hfound] at hfound'
  cases hfound'
  exact ⟨rfl, rfl⟩

/-! ## A folder with one file -/

/-- A tree in which nothing but the file `rules/a.yml` was written. -/
def Files.oneFile (text : FileText) : Files := (FileTree.empty.write ⟨"rules/a.yml"⟩ text).find?

theorem Files.regular_oneFile (text : FileText) : (Files.oneFile text).Regular ⟨"rules"⟩ :=
  (FileTree.proper_empty.write ⟨"rules/a.yml"⟩ text).regular ⟨"rules"⟩

theorem Files.finds_oneFile_iff {text : FileText} {q : Path}
    {outcome : Except RuleFile.Error (List Rule)} :
    Finds (Files.oneFile text) ⟨"rules"⟩ q outcome ↔
      q.parts = [.name "rules", .name "a.yml"] ∧ text.outcome = outcome := by
  have hfolder : Files.oneFile text ⟨"rules"⟩ = some (.folder [("a.yml", .file text)]) := rfl
  constructor
  · rintro ⟨tree, names, text', htree, hfound, hq, -, houtcome⟩
    rw [hfolder] at htree
    cases htree
    have hnodup : (([("a.yml", .file text)] : List (String × FileTree)).map (·.1)).Nodup :=
      List.nodup_singleton _
    obtain ⟨name, next, rest, rfl, hmem, hnext⟩ := (fileAt?_folder_eq_some_iff hnodup).mp hfound
    obtain ⟨rfl, rfl⟩ := Prod.mk.injEq .. ▸ List.mem_singleton.mp hmem
    cases rest with
    | nil =>
      cases hnext
      exact ⟨hq, houtcome⟩
    | cons => cases hnext
  · rintro ⟨hq, houtcome⟩
    have hnames : LeadsToRules ["a.yml"] := ⟨by decide, "a.yml", rfl, by decide⟩
    exact ⟨_, ["a.yml"], text, hfolder, rfl, hq, hnames, houtcome⟩

/-- A file gives rules if something was seen of what it gives. -/
theorem FileText.exists_outcome {α : Type} {text : FileText} {view : List Rule → α} {seen : α}
    (read : text.outcome.toOption.map view = some seen) :
    ∃ rules, text.outcome = .ok rules ∧ view rules = seen := by
  cases houtcome : text.outcome with
  | error err =>
    rw [houtcome] at read
    cases read
  | ok rules =>
    rw [houtcome] at read
    exact ⟨rules, rfl, Option.some.inj read⟩

/-- The text of a file with one rule. -/
def plainRule : String := "{id: a, action: {alertType: x, severity: low}}"

theorem outcome_plainRule : ∃ rules, (FileText.ofText plainRule).outcome = .ok rules ∧
    rules.map (·.id) = ["a"] ∧ ∀ r ∈ rules, r.conditions = [] := by
  have hread : (FileText.ofText plainRule).outcome.toOption.map
      (List.map fun r => (r.id, r.conditions.length)) = some [("a", 0)] := by decide +kernel
  obtain ⟨rules, houtcome, hseen⟩ := FileText.exists_outcome hread
  obtain ⟨r, rfl, hr⟩ := List.map_eq_singleton_iff.mp hseen
  obtain ⟨hid, hlength⟩ := Prod.mk.injEq .. ▸ hr
  refine ⟨[r], houtcome, by rw [List.map_singleton, hid], ?_⟩
  exact List.forall_mem_singleton.mpr (List.length_eq_zero_iff.mp hlength)

theorem outcome_bracket : ∃ err, (FileText.ofText "[").outcome = .error err := by
  have hread : (FileText.ofText "[").outcome.toOption.isNone = true := by decide +kernel
  cases houtcome : (FileText.ofText "[").outcome with
  | error err => exact ⟨err, rfl⟩
  | ok rules =>
    rw [houtcome] at hread
    cases hread

end VesselWatch
