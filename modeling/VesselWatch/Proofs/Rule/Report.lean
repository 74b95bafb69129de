/-
  Proofs/Rule/Report.lean --- what one reading of a folder reports.

  `walk` goes through a tree the way one would by hand: it takes the entries of a folder in
  the order of their paths and goes into one that is a folder before it takes the next.  A scan
  sorts all files at once.  Both come to the same row (`scan_eq_walk`), since whatever lies below
  an entry comes before whatever lies below a later one (`Path.place_lt_of_prefix`).

  What is reported of a file follows from its name and from what loading it gives (`IsReport`),
  and every file that the folder shows is reported once (`RuleFolder.reports_each_file`).
-/
import VesselWatch.Proofs.Rule.Scan
import Mathlib.Data.List.Sort

set_option autoImplicit false

namespace VesselWatch

open FileTree (ProperEntries)

/-! ## Folder by folder -/

/-- The files of some entries in the order of the entries' paths. -/
def inTurn (groups : List (Path × List Found)) : List Found :=
  (groups.mergeSort fun a b => !b.1.before a.1).flatMap (·.2)

mutual

/-- The files below a place of the given path and name, one folder after another. -/
def walkBelow (p : Path) (name : String) : FileTree → List Found
  | .file text => [⟨p, lookAt name text.whole?⟩]
  | .folder entries => if isDotName name then [] else inTurn (walkEntries p entries)

/-- The paths of a folder's entries, with the files below each. -/
def walkEntries (p : Path) : List (String × FileTree) → List (Path × List Found)
  | [] => []
  | (name, tree) :: rest => (p.join name, walkBelow (p.join name) name tree) :: walkEntries p rest

end

/-- The files of a folder and of those below it, one folder after another. -/
def walk (files : Files) (folder : Path) : List Found :=
  match files folder with
  | some (.folder entries) => inTurn (walkEntries folder entries)
  | _ => []

theorem inTurn_perm (groups : List (Path × List Found)) :
    (inTurn groups).Perm (groups.flatMap (·.2)) :=
  (List.mergeSort_perm _ _).flatMap_right _

mutual

theorem walkBelow_perm (p : Path) (name : String) (tree : FileTree) :
    (walkBelow p name tree).Perm (filesBelow p name tree) := by
  cases tree with
  | file text => rw [walkBelow, filesBelow]
  | folder entries =>
    rw [walkBelow, filesBelow]
    split
    · exact List.Perm.nil
    · exact (inTurn_perm _).trans (walkEntries_perm p entries)

theorem walkEntries_perm (p : Path) (entries : List (String × FileTree)) :
    ((walkEntries p entries).flatMap (·.2)).Perm (filesOfEntries p entries) := by
  cases entries with
  | nil => rw [walkEntries, filesOfEntries, List.flatMap_nil]
  | cons entry rest =>
    obtain ⟨name, tree⟩ := entry
    rw [walkEntries, filesOfEntries, List.flatMap_cons]
    exact (walkBelow_perm (p.join name) name tree).append (walkEntries_perm p rest)

end

/-- The paths of the entries are those of the names. -/
theorem paths_walkEntries (p : Path) {entries : List (String × FileTree)}
    (proper : ProperEntries entries) :
    (walkEntries p entries).map (·.1.parts) =
      (entries.map (·.1)).map fun name => p.parts ++ [.name name] := by
  induction entries with
  | nil => rfl
  | cons entry rest ih =>
    obtain ⟨name, tree⟩ := entry
    obtain ⟨hname, -, hrest⟩ := proper
    rw [walkEntries, List.map_cons, List.map_cons, List.map_cons, ih hrest, Path.parts_join p hname]

/-- Entries with distinct names, whose files ascend and lie below them, taken in turn. -/
theorem inTurn_ascending {p : Path} {groups : List (Path × List Found)} {names : List String}
    (nodup : names.Nodup)
    (paths : groups.map (·.1.parts) = names.map fun name => p.parts ++ [.name name])
    (below : ∀ group ∈ groups, ∀ f ∈ group.2, group.1.parts <+: f.path.parts)
    (ascending : ∀ group ∈ groups, group.2.Pairwise fun a b => a.path.place < b.path.place) :
    (inTurn groups).Pairwise fun a b => a.path.place < b.path.place := by
  have hentry : ∀ group ∈ groups, ∃ name, group.1.parts = p.parts ++ [.name name] := by
    intro group hgroup
    have hmem := List.mem_map_of_mem (f := fun g : Path × List Found => g.1.parts) hgroup
    rw [paths] at hmem
    obtain ⟨name, -, hname⟩ := List.mem_map.mp hmem
    exact ⟨name, hname.symm⟩
  have hnodup : (groups.map (·.1.parts)).Nodup := by
    rw [paths]
    refine nodup.map fun one other heq => ?_
    simpa using heq
  have hmem : ∀ group, group ∈ groups.mergeSort (fun a b => !b.1.before a.1) ↔ group ∈ groups :=
    fun group => List.mem_mergeSort
  have hsorted : (groups.mergeSort fun a b => !b.1.before a.1).Pairwise
      fun a b => a.1.place < b.1.place :=
    Path.mergeSort_ascending (fun group : Path × List Found => group.1) hnodup
  rw [inTurn, List.pairwise_flatMap]
  refine ⟨fun group hgroup => ascending group ((hmem group).mp hgroup), ?_⟩
  refine hsorted.imp_of_mem fun {one other} hone hother hlt => ?_
  have hone := (hmem one).mp hone
  have hother := (hmem other).mp hother
  obtain ⟨a, ha⟩ := hentry one hone
  obtain ⟨b, hb⟩ := hentry other hother
  exact fun f hf g hg => Path.place_lt_of_prefix ha hb hlt (below one hone f hf)
    (below other hother g hg)

theorem below_of_mem_walkEntries (p : Path) {entries : List (String × FileTree)}
    (proper : ProperEntries entries) : ∀ group ∈ walkEntries p entries, ∀ f ∈ group.2,
      group.1.parts <+: f.path.parts := by
  induction entries with
  | nil => exact List.forall_mem_nil _
  | cons entry rest ih =>
    obtain ⟨name, tree⟩ := entry
    obtain ⟨-, htree, hrest⟩ := proper
    rw [walkEntries, List.forall_mem_cons]
    refine ⟨fun f hf => ?_, ih hrest⟩
    exact prefix_of_mem_filesBelow _ name tree htree f ((walkBelow_perm ..).mem_iff.mp hf)

mutual

theorem walkBelow_ascending (p : Path) (name : String) (tree : FileTree) (proper : tree.Proper) :
    (walkBelow p name tree).Pairwise fun a b => a.path.place < b.path.place := by
  cases tree with
  | file text =>
    rw [walkBelow]
    exact List.pairwise_singleton _ _
  | folder entries =>
    rw [walkBelow]
    split
    · exact List.Pairwise.nil
    · exact inTurn_ascending proper.1 (paths_walkEntries p proper.2)
        (below_of_mem_walkEntries p proper.2) (walkEntries_ascending p entries proper.2)

theorem walkEntries_ascending (p : Path) (entries : List (String × FileTree))
    (proper : ProperEntries entries) : ∀ group ∈ walkEntries p entries,
      group.2.Pairwise fun a b => a.path.place < b.path.place := by
  cases entries with
  | nil => exact List.forall_mem_nil _
  | cons entry rest =>
    obtain ⟨name, tree⟩ := entry
    obtain ⟨-, htree, hrest⟩ := proper
    rw [walkEntries, List.forall_mem_cons]
    exact ⟨walkBelow_ascending _ name tree htree, walkEntries_ascending p rest hrest⟩

end

/-- Going through the tree folder by folder comes to the files in the order of their paths. -/
theorem scan_eq_walk {files : Files} {folder : Path} (regular : files.Regular folder) :
    scan files folder = walk files folder := by
  have hascending : (walk files folder).Pairwise fun a b => a.path.place < b.path.place := by
    unfold walk
    split
    · next entries hfolder =>
      have proper := regular _ hfolder
      exact inTurn_ascending proper.1 (paths_walkEntries folder proper.2)
        (below_of_mem_walkEntries folder proper.2) (walkEntries_ascending folder entries proper.2)
    · exact List.Pairwise.nil
  have hperm : (scan files folder).Perm (walk files folder) := by
    refine (List.mergeSort_perm _ _).trans ?_
    unfold walk
    cases files folder with
    | none => exact List.Perm.nil
    | some tree =>
      cases tree with
      | file text => exact List.Perm.nil
      | folder entries => exact ((inTurn_perm _).trans (walkEntries_perm folder entries)).symm
  refine hperm.eq_of_pairwise (fun a b _ _ hab hba => ?_) (scan_ascending regular) hascending
  exact absurd (hab.trans hba) (lt_irrefl _)

/-! ## What is reported -/

/-- The name has the extension of a rule file, in any letter case. -/
def HasRuleExtension (name : String) : Prop :=
  ∃ ext ∈ (Path.splitName name).2, ∃ known ∈ ["yml", "yaml", "json"],
    Text.sameIgnoringAsciiCase ext known = true

/-- What is to be reported of a file of this name at the path. -/
def IsReport (files : Files) (p : Path) (name : String) : LoadStatus → Prop
  | .skipped .dotfile => isDotName name = true
  | .skipped .notRuleFile => isDotName name = false ∧ ¬ HasRuleExtension name
  | .loaded ids => (isDotName name = false ∧ HasRuleExtension name) ∧
      ∃ rules, RuleFile.load files p = .ok rules ∧ ids = rules.map (·.id)
  | .failed error => (isDotName name = false ∧ HasRuleExtension name) ∧
      RuleFile.load files p = .error error

theorem isRuleFile_iff (name : String) :
    isRuleFile name = true ↔ isDotName name = false ∧ HasRuleExtension name := by
  unfold isRuleFile HasRuleExtension
  rw [Bool.and_eq_true, Bool.not_eq_true', Option.any_eq_true]
  simp only [ruleExtensions, List.any_eq_true]
  rfl

theorem load_of_file {files : Files} {p : Path} {text : FileText}
    (found : files p = some (.file text)) : RuleFile.load files p = text.outcome := by
  unfold RuleFile.load Files.text? Files.file? FileText.outcome
  rw [found]
  rfl

/-- A file is reported by what is found in it. -/
theorem isReport_iff {files : Files} {p : Path} {text : FileText}
    (found : files p = some (.file text)) (name : String) (status : LoadStatus) :
    IsReport files p name status ↔ (⟨p, lookAt name text.whole?⟩ : Found).status = status := by
  have hload := load_of_file found
  cases hdot : isDotName name with
  | true =>
    have hlook : lookAt name text.whole? = .error .dotfile := by
      simp [lookAt, hdot]
    rw [hlook]
    rcases status with ids | (_ | _) | error <;> simp [IsReport, Found.status, hdot]
  | false =>
    have hextension : isRuleFile name = true ↔ HasRuleExtension name := by
      simp [isRuleFile_iff, hdot]
    by_cases hrule : isRuleFile name = true
    · have hleads : LeadsToRules [name] := by
        simp [LeadsToRules, hdot, hrule]
      have hlook : lookAt name text.whole? = .ok text.outcome :=
        lookAt_eq_ok_iff.mpr ⟨hleads, rfl⟩
      rw [hlook]
      rcases status with ids | (_ | _) | error <;>
        cases houtcome : text.outcome <;>
        simp [IsReport, Found.status, hdot, hextension.mp hrule, hload, houtcome, eq_comm]
    · have hlook : lookAt name text.whole? = .error .notRuleFile := by
        simp [lookAt, hdot, hrule]
      rw [hlook]
      rcases status with ids | (_ | _) | error <;>
        simp [IsReport, Found.status, hdot, mt hextension.mpr hrule]

namespace RuleFolder

/-! ## One reading -/

section Reading

variable {files : Files} (rf : RuleFolder)

theorem mem_reports_iff_scan {p : Path} {status : LoadStatus} :
    (p, status) ∈ (rf.loadAll files).2 ↔
      ∃ f ∈ scan files rf.path, f.path = p ∧ f.status = status := by
  simp [loadAll]

theorem reports_ascending (regular : files.Regular rf.path) :
    (rf.loadAll files).2.Pairwise fun a b => a.1.place < b.1.place :=
  List.pairwise_map.mpr (scan_ascending regular)

/-- The paths of all files that the folder shows are reported. -/
theorem mem_reported_paths_iff (regular : files.Regular rf.path) {p : Path} :
    p ∈ (rf.loadAll files).2.map (·.1) ↔
      ∃ names text, files.Shows rf.path names text ∧ p = rf.path.below names := by
  have hmem : p ∈ (rf.loadAll files).2.map (·.1) ↔ ∃ f ∈ scan files rf.path, f.path = p := by
    simp [loadAll]
  rw [hmem]
  simp only [mem_scan_iff regular]
  constructor
  · rintro ⟨f, ⟨names, text, hshows, last, hlast, rfl⟩, rfl⟩
    exact ⟨names, text, hshows, rfl⟩
  · rintro ⟨names, text, hshows, rfl⟩
    have hlast := List.getLast?_eq_some_getLast hshows.1
    exact ⟨_, ⟨names, text, hshows, _, hlast, rfl⟩, rfl⟩

/-- What is reported of a file depends on its name and on its text. -/
theorem mem_reports_of_shows (regular : files.Regular rf.path) {names : List String}
    {text : FileText} (shows : files.Shows rf.path names text) {last : String}
    (hlast : last ∈ names.getLast?) (status : LoadStatus) :
    (rf.path.below names, status) ∈ (rf.loadAll files).2 ↔
      (⟨rf.path.below names, lookAt last text.whole?⟩ : Found).status = status := by
  rw [mem_reports_iff_scan]
  simp only [mem_scan_iff regular]
  constructor
  · rintro ⟨f, ⟨names', text', hshows', last', hlast', rfl⟩, hpath, rfl⟩
    obtain ⟨rfl, rfl⟩ := hshows'.eq_of_below_eq regular shows hpath
    obtain rfl := Option.mem_unique hlast hlast'
    rfl
  · rintro rfl
    exact ⟨_, ⟨names, text, shows, last, hlast, rfl⟩, rfl, rfl⟩

/-- A file is reported if the folder shows it, by its name and by what loading it gives. -/
theorem mem_reports_iff (consistent : files.Consistent rf.path) {p : Path} {status : LoadStatus} :
    (p, status) ∈ (rf.loadAll files).2 ↔
      ∃ names text, files.Shows rf.path names text ∧ p = rf.path.below names ∧
        ∃ last ∈ names.getLast?, IsReport files p last status := by
  constructor
  · intro hmem
    obtain ⟨names, text, hshows, rfl⟩ :=
      (mem_reported_paths_iff rf consistent.regular).mp (List.mem_map_of_mem hmem)
    have hlast := List.getLast?_eq_some_getLast hshows.1
    have hstatus := (mem_reports_of_shows rf consistent.regular hshows hlast status).mp hmem
    exact ⟨names, text, hshows, rfl, _, hlast,
      (isReport_iff (consistent.found hshows) _ status).mpr hstatus⟩
  · rintro ⟨names, text, hshows, rfl, last, hlast, hreport⟩
    exact (mem_reports_of_shows rf consistent.regular hshows hlast status).mpr
      ((isReport_iff (consistent.found hshows) last status).mp hreport)

/-- Files of other contents at the same places are reported at the same paths. -/
theorem reported_paths_congr {others : Files} (regular : files.Regular rf.path)
    (regular' : others.Regular rf.path) (previous : List (Path × List Rule))
    (places : ∀ names, (∃ text, others.Shows rf.path names text) ↔
      ∃ text, files.Shows rf.path names text) :
    (loadAll others ⟨rf.path, previous⟩).2.map (·.1) = (rf.loadAll files).2.map (·.1) := by
  refine Sorting.eq_of_ascending Path.place ?_ ?_ fun p => ?_
  · exact List.pairwise_map.mpr (reports_ascending ⟨rf.path, previous⟩ regular')
  · exact List.pairwise_map.mpr (reports_ascending rf regular)
  · rw [mem_reported_paths_iff ⟨rf.path, previous⟩ regular',
      mem_reported_paths_iff rf regular]
    constructor
    · rintro ⟨names, text, hshows, rfl⟩
      obtain ⟨text', hshows'⟩ := (places names).mp ⟨text, hshows⟩
      exact ⟨names, text', hshows', rfl⟩
    · rintro ⟨names, text, hshows, rfl⟩
      obtain ⟨text', hshows'⟩ := (places names).mpr ⟨text, hshows⟩
      exact ⟨names, text', hshows', rfl⟩

end Reading

/-- A reading reports each file that the folder shows once and nothing else, in the order of the
paths, which is that of going through the tree folder by folder.  A file is skipped for its name
alone, and otherwise taken if loading it gives rules.  So if files have other contents, say because
they are broken, the same paths are reported, and of the files that are as they were the
same. -/
theorem reports_each_file {files : Files} {rf : RuleFolder}
    (consistent : files.Consistent rf.path) :
    let reports := (rf.loadAll files).2
    (reports.Pairwise fun a b => a.1.before b.1 = true) ∧
    reports = (walk files rf.path).map (fun f => (f.path, f.status)) ∧
    (∀ names text, files.Shows rf.path names text →
      ∃! status, (rf.path.below names, status) ∈ reports) ∧
    (∀ p status, (p, status) ∈ reports ↔
      ∃ names text, files.Shows rf.path names text ∧ p = rf.path.below names ∧
        ∃ last ∈ names.getLast?, IsReport files p last status) ∧
    ∀ (others : Files) (previous : List (Path × List Rule)), others.Consistent rf.path →
      (∀ names, (∃ text, others.Shows rf.path names text) ↔
        ∃ text, files.Shows rf.path names text) →
      let again := (loadAll others ⟨rf.path, previous⟩).2
      again.map (·.1) = reports.map (·.1) ∧
      ∀ names text, files.Shows rf.path names text → others.Shows rf.path names text →
        ∀ status, (rf.path.below names, status) ∈ again ↔
          (rf.path.below names, status) ∈ reports := by
  have regular := consistent.regular
  refine ⟨?_, ?_, ?_, fun p status => mem_reports_iff rf consistent, ?_⟩
  · simp only [Path.before_iff]
    exact reports_ascending rf regular
  · rw [← scan_eq_walk regular]
    rfl
  · intro names text hshows
    have hstatus := mem_reports_of_shows rf regular hshows (List.getLast?_eq_some_getLast hshows.1)
    exact ⟨_, (hstatus _).mpr rfl, fun status hmem => ((hstatus status).mp hmem).symm⟩
  · intro others previous consistent' places
    have regular' := consistent'.regular
    refine ⟨reported_paths_congr rf regular regular' previous places, ?_⟩
    intro names text hshows hshows' status
    have hlast := List.getLast?_eq_some_getLast hshows.1
    rw [mem_reports_of_shows rf regular hshows hlast]
    exact mem_reports_of_shows ⟨rf.path, previous⟩ regular' hshows' hlast status

/-- In a folder with a broken file below a folder that is named like a rule file, and a rule file in
a hidden one, the broken file is reported, the file beside it is taken in spite of the case of its
extension, and the hidden one is left out. -/
theorem reports_each_file_mixed :
    let good := FileText.ofText plainRule
    let tree := ((FileTree.empty.write ⟨"rules/a.json/b.yml"⟩ (.ofText "[")).write
      ⟨"rules/.off/c.yml"⟩ good).write ⟨"rules/D.YAML"⟩ good
    let files : Files := tree.find?
    let reports := ((unread ⟨"rules"⟩).loadAll files).2
    files.Consistent ⟨"rules"⟩ ∧
    (⟨"rules/D.YAML"⟩, .loaded ["a"]) ∈ reports ∧
    (∃ error, (⟨"rules/a.json/b.yml"⟩, .failed error) ∈ reports) ∧
    ∀ status, (⟨"rules/.off/c.yml"⟩, status) ∉ reports := by
  intro good tree files reports
  have hproper : tree.Proper := ((FileTree.proper_empty.write _ _).write _ _).write _ _
  have consistent : files.Consistent ⟨"rules"⟩ := hproper.consistent _
  obtain ⟨-, -, -, hreports, -⟩ := @reports_each_file files (unread ⟨"rules"⟩) consistent
  obtain ⟨rules, hrules, hids, -⟩ := outcome_plainRule
  obtain ⟨error, herror⟩ := outcome_bracket
  refine ⟨consistent, (hreports _ _).mpr ?_, ⟨error, (hreports _ _).mpr ?_⟩, ?_⟩
  · have hshows : files.Shows ⟨"rules"⟩ ["D.YAML"] good := ⟨by decide, ⟨_, rfl, rfl⟩, by decide⟩
    have hextension : HasRuleExtension "D.YAML" := ⟨"YAML", rfl, "yaml", by decide, by decide⟩
    refine ⟨_, good, hshows, rfl, "D.YAML", rfl, ⟨by decide, hextension⟩, rules, ?_, hids.symm⟩
    exact (load_of_file (consistent.found hshows)).trans hrules
  · have hshows : files.Shows ⟨"rules"⟩ ["a.json", "b.yml"] (.ofText "[") :=
      ⟨by decide, ⟨_, rfl, rfl⟩, by decide⟩
    have hextension : HasRuleExtension "b.yml" := ⟨"yml", rfl, "yml", by decide, by decide⟩
    refine ⟨_, _, hshows, rfl, "b.yml", rfl, ⟨by decide, hextension⟩, ?_⟩
    exact (load_of_file (consistent.found hshows)).trans herror
  · intro status hmem
    obtain ⟨names, text, ⟨-, ⟨here, hhere, hfile⟩, hvisible⟩, hpath, -⟩ := (hreports _ _).mp hmem
    have hentries := (consistent.regular here hhere).names_of_fileAt? hfile
    have hparts := congrArg Path.parts hpath
    have hleft : (⟨"rules/.off/c.yml"⟩ : Path).parts =
        (⟨"rules"⟩ : Path).parts ++ [".off", "c.yml"].map .name := by decide
    rw [Path.parts_below _ hentries, hleft] at hparts
    have hnames : [".off", "c.yml"] = names :=
      List.map_injective_iff.mpr (fun a b h => Path.Part.name.inj h)
        (List.append_cancel_left hparts)
    subst hnames
    exact absurd (hvisible ".off" (by decide)) (by decide)

end RuleFolder

end VesselWatch
