/-
  Proofs/Rule/Precedence.lean --- which definition of an id counts.

  The rules of a folder are those of its files, one file after another, reduced to one
  definition for each id: the last one, at the place where the id comes first
  (`Rule.mem_distinct_iff`).  An id has something in it besides white space, since no file with
  a blank id is taken (`RuleFile.not_blank_of_read`).

  After the first reading the files that count are those reported as loaded, in the order of the
  reports (`RuleFolder.loaded_reports`).  So of two files with one id the one that was reported
  later has its way, and an engine that is handed the rules finds nothing to drop.
-/
import VesselWatch.Proofs.Engine.Reload
import VesselWatch.Proofs.Rule.Report

set_option autoImplicit false

namespace VesselWatch

/-! ## The last definition of an id -/

namespace Rule

theorem lastNamed_eq_some_iff {id : String} {rules : List Rule} {r : Rule} :
    lastNamed id rules = some r ↔
      r.id = id ∧ ∃ before after, rules = before ++ r :: after ∧ id ∉ after.map (·.id) := by
  unfold lastNamed
  rw [List.getLast?_eq_head?_reverse, ← List.filter_reverse, List.head?_filter,
    List.find?_eq_some_iff_append, beq_iff_eq]
  refine and_congr_right fun _ => ?_
  constructor
  · rintro ⟨after, before, hsplit, hafter⟩
    refine ⟨before.reverse, after.reverse, ?_, ?_⟩
    · rw [← List.reverse_inj, hsplit]
      simp
    · rintro hid
      obtain ⟨other, hother, heq⟩ := List.mem_map.mp hid
      have hne := hafter other (List.mem_reverse.mp hother)
      simp [heq] at hne
  · rintro ⟨before, after, rfl, hafter⟩
    refine ⟨after.reverse, before.reverse, by simp, fun other hother => ?_⟩
    have hne : other.id ≠ id := by
      rintro rfl
      exact hafter (List.mem_map_of_mem (List.mem_reverse.mp hother))
    simp [hne]

theorem lastNamed_eq_none_iff {id : String} {rules : List Rule} :
    lastNamed id rules = none ↔ id ∉ rules.map (·.id) := by
  rw [← named_distinct, named_eq_none_iff, ids_distinct_eq, List.mem_eraseDups]

theorem lastNamed_append (id : String) (rules others : List Rule) :
    lastNamed id (rules ++ others) = (lastNamed id others).or (lastNamed id rules) := by
  rw [lastNamed, List.filter_append, List.getLast?_append]
  rfl

/-- A definition is kept if its id does not come again behind it. -/
theorem mem_distinct_iff {rules : List Rule} {r : Rule} :
    r ∈ distinct rules ↔
      ∃ before after, rules = before ++ r :: after ∧ r.id ∉ after.map (·.id) := by
  have hnamed : named r.id (distinct rules) = some r ↔ r ∈ distinct rules ∧ r.id = r.id :=
    named_eq_some_iff (nodup_ids_distinct rules)
  rw [named_distinct, lastNamed_eq_some_iff] at hnamed
  simpa using hnamed.symm

end Rule

/-! ## Ids that are no ids -/

theorem RuleFile.not_blank_of_read {text : String} {rules : List Rule}
    (taken : RuleFile.read text = .ok rules) :
    ∀ r ∈ rules, ∃ c ∈ r.id.toList, Text.isBlank c = false := by
  unfold RuleFile.read at taken
  split at taken
  · cases taken
  · obtain rfl := RuleFile.eq_of_validate taken
    unfold validate at taken
    split at taken
    · cases taken
    · next hnone =>
      intro r hr
      have hblank := List.find?_eq_none.mp hnone r hr
      simpa [Text.blank] using hblank

theorem Finds.not_blank {files : Files} {folder q : Path} {rules : List Rule}
    (finds : Finds files folder q (.ok rules)) :
    ∀ r ∈ rules, ∃ c ∈ r.id.toList, Text.isBlank c = false := by
  obtain ⟨_, _, text, -, -, -, -, houtcome⟩ := finds
  unfold FileText.outcome at houtcome
  split at houtcome
  · cases houtcome
  · exact RuleFile.not_blank_of_read houtcome

/-! ## The first reading -/

/-- The ids of a file that was taken. -/
def LoadStatus.ids? : LoadStatus → Option (List String)
  | .loaded ids => some ids
  | _ => none

namespace RuleFolder

variable {files : Files} {folder : Path}

/-- The files that give rules after the first reading are those reported as loaded. -/
theorem loaded_reports (files : Files) (folder : Path) :
    ((unread folder).loadAll files).2.filterMap
        (fun report => report.2.ids?.map fun ids => (report.1, ids)) =
      ((unread folder).loadAll files).1.files.map
        fun entry => (entry.1, entry.2.map (·.id)) := by
  simp only [loadAll, List.filterMap_map, List.map_filterMap]
  refine List.filterMap_congr fun f _ => ?_
  obtain ⟨p, content⟩ := f
  rcases content with reason | (error | rules) <;> rfl

theorem load_of_mem_files (consistent : files.Consistent folder) :
    ∀ entry ∈ ((unread folder).loadAll files).1.files,
      RuleFile.load files entry.1 = .ok entry.2 := by
  rintro ⟨p, rules⟩ hentry
  obtain ⟨f, hf, hgiven⟩ := List.mem_filterMap.mp hentry
  obtain rfl : p = f.path := fst_of_contribution hgiven
  obtain ⟨names, text, hshows, last, hlast, rfl⟩ := (mem_scan_iff consistent.regular).mp hf
  rcases contribution_eq_some_iff.mp hgiven with hok | ⟨-, hkept⟩
  · rw [load_of_file (consistent.found hshows)]
    exact (lookAt_eq_ok_iff.mp hok).2
  · cases hkept

/-- The last definition of an id stands in the last file that has one. -/
theorem exists_last_file {id : String} {r : Rule} {table : List (Path × List Rule)}
    (last : Rule.lastNamed id (table.flatMap (·.2)) = some r) :
    ∃ earlier p rules later, table = earlier ++ (p, rules) :: later ∧ r ∈ rules ∧
      ∀ entry ∈ later, id ∉ entry.2.map (·.id) := by
  induction table with
  | nil => cases last
  | cons entry rest ih =>
    obtain ⟨p, rules⟩ := entry
    rw [List.flatMap_cons, Rule.lastNamed_append] at last
    cases hrest : Rule.lastNamed id (rest.flatMap (·.2)) with
    | some other =>
      rw [hrest] at last
      cases last
      obtain ⟨earlier, q, others, later, rfl, hr, hlater⟩ := ih hrest
      exact ⟨(p, rules) :: earlier, q, others, later, rfl, hr, hlater⟩
    | none =>
      rw [hrest, Option.none_or] at last
      obtain ⟨-, before, after, rfl, -⟩ := Rule.lastNamed_eq_some_iff.mp last
      refine ⟨[], p, _, rest, rfl, List.mem_append_right _ (List.mem_cons_self ..), ?_⟩
      intro entry hentry hid
      obtain ⟨other, hother, rfl⟩ := List.mem_map.mp hid
      refine Rule.lastNamed_eq_none_iff.mp hrest (List.mem_map_of_mem ?_)
      exact List.mem_flatMap.mpr ⟨entry, hentry, hother⟩

/-- After the first reading a rule stands in a file behind whose report none reports its id. -/
theorem exists_last_report (consistent : files.Consistent folder) {r : Rule}
    (member : r ∈ ((unread folder).loadAll files).1.rules) :
    ∃ earlier p rules later,
      ((unread folder).loadAll files).2 = earlier ++ (p, .loaded (rules.map (·.id))) :: later ∧
      RuleFile.load files p = .ok rules ∧ r ∈ rules ∧
      ∀ q ids, (q, LoadStatus.loaded ids) ∈ later → r.id ∉ ids := by
  have hlast : Rule.lastNamed r.id (((unread folder).loadAll files).1.files.flatMap (·.2)) =
      some r := Rule.lastNamed_eq_some_iff.mpr ⟨rfl, Rule.mem_distinct_iff.mp member⟩
  obtain ⟨earlier, p, rules, later, hsplit, hr, hlater⟩ := exists_last_file hlast
  have hreports := loaded_reports files folder
  have hload := load_of_mem_files consistent (p, rules) (by simp [hsplit])
  rw [hsplit, List.map_append, List.map_cons, List.filterMap_eq_append_iff] at hreports
  obtain ⟨front, back, hfront, -, hback⟩ := hreports
  obtain ⟨between, ⟨q, status⟩, rest, rfl, -, hreport, hrest⟩ :=
    List.filterMap_eq_cons_iff.mp hback
  obtain ⟨ids, hids, heq⟩ := Option.map_eq_some_iff.mp hreport
  obtain ⟨rfl, rfl⟩ := Prod.mk.inj heq
  obtain rfl : status = .loaded (rules.map (·.id)) := by
    cases status with
    | loaded ids => exact congrArg LoadStatus.loaded (Option.some.inj hids)
    | skipped reason => cases hids
    | failed error => cases hids
  refine ⟨front ++ between, q, rules, rest, by rw [hfront, List.append_assoc], hload, hr, ?_⟩
  intro q' ids hmem
  have hlisted : (q', ids) ∈ later.map fun entry => (entry.1, entry.2.map (·.id)) := by
    rw [← hrest]
    exact List.mem_filterMap.mpr ⟨_, hmem, rfl⟩
  obtain ⟨entry, hentry, heq⟩ := List.mem_map.mp hlisted
  obtain ⟨rfl, rfl⟩ := Prod.mk.inj heq
  exact hlater entry hentry

end RuleFolder

/-! ## A folder with two files -/

/-- A tree in which nothing but the files `rules/a.yml` and `rules/b.yml` was written. -/
def Files.twoFiles (first second : FileText) : Files :=
  ((FileTree.empty.write ⟨"rules/a.yml"⟩ first).write ⟨"rules/b.yml"⟩ second).find?

theorem Files.consistent_twoFiles (first second : FileText) :
    (Files.twoFiles first second).Consistent ⟨"rules"⟩ :=
  ((FileTree.proper_empty.write ⟨"rules/a.yml"⟩ first).write ⟨"rules/b.yml"⟩ second).consistent
    ⟨"rules"⟩

theorem scan_twoFiles (first second : FileText) :
    scan (Files.twoFiles first second) ⟨"rules"⟩ =
      [⟨⟨"rules/a.yml"⟩, lookAt "a.yml" first.whole?⟩,
        ⟨⟨"rules/b.yml"⟩, lookAt "b.yml" second.whole?⟩] := by
  have hfolder : Files.twoFiles first second ⟨"rules"⟩ =
      some (.folder [("a.yml", .file first), ("b.yml", .file second)]) := rfl
  have hfound : filesOfEntries ⟨"rules"⟩ [("a.yml", .file first), ("b.yml", .file second)] =
      [⟨⟨"rules/a.yml"⟩, lookAt "a.yml" first.whole?⟩,
        ⟨⟨"rules/b.yml"⟩, lookAt "b.yml" second.whole?⟩] := rfl
  have hbefore : (!Path.before ⟨"rules/b.yml"⟩ ⟨"rules/a.yml"⟩) = true := by decide
  rw [scan, hfolder]
  simp only [hfound]
  exact List.mergeSort_of_pairwise (List.pairwise_pair.mpr hbefore)

/-- What the two files give at the first reading. -/
theorem RuleFolder.files_twoFiles {first second : FileText} {rules others : List Rule}
    (hfirst : first.outcome = .ok rules) (hsecond : second.outcome = .ok others) :
    (after ⟨"rules"⟩ [Files.twoFiles first second]).files =
      [(⟨"rules/a.yml"⟩, rules), (⟨"rules/b.yml"⟩, others)] := by
  have hleads : LeadsToRules ["a.yml"] := ⟨by decide, "a.yml", rfl, by decide⟩
  have hleads' : LeadsToRules ["b.yml"] := ⟨by decide, "b.yml", rfl, by decide⟩
  change (scan (Files.twoFiles first second) ⟨"rules"⟩).filterMap (contribution []) = _
  rw [scan_twoFiles, lookAt_eq_ok_iff.mpr ⟨hleads, hfirst⟩, lookAt_eq_ok_iff.mpr ⟨hleads', hsecond⟩]
  rfl

/-- The text of a file with a rule of the id of `plainRule` behind another one. -/
def severeRules : String :=
  "[{id: b, action: {alertType: x, severity: low}}, " ++
    "{id: a, action: {alertType: x, severity: high}}]"

theorem outcome_severeRules : ∃ other severe,
    (FileText.ofText severeRules).outcome = .ok [other, severe] ∧
    other.id = "b" ∧ severe.id = "a" ∧ severe.action.severity = "high" := by
  have hread : (FileText.ofText severeRules).outcome.toOption.map
      (List.map fun r => (r.id, r.action.severity)) = some [("b", "low"), ("a", "high")] := by
    decide +kernel
  obtain ⟨rules, houtcome, hseen⟩ := FileText.exists_outcome hread
  obtain ⟨other, rest, rfl, hother, hrest⟩ := List.map_eq_cons_iff.mp hseen
  obtain ⟨severe, rfl, hsevere⟩ := List.map_eq_singleton_iff.mp hrest
  obtain ⟨hid, hseverity⟩ := Prod.mk.inj hsevere
  exact ⟨other, severe, houtcome, (Prod.mk.inj hother).1, hid, hseverity⟩

/-! ## The rules of a folder -/

namespace RuleFolder

variable {folder : Path}

/-- Whatever happened to the tree between the readings, the rules of the folder have distinct ids
that are not blank.  Of the definitions in its files, taken in the order of the paths, the last of
an id counts, at the place where the id comes first; a file gives what was read of it last.  An
engine that is handed the rules takes each of them.  After the first reading the files are those
reported as loaded, and a rule is defined by the last report that has its id. -/
theorem last_definition_counts {history : List Files}
    (regular : ∀ files ∈ history, files.Regular folder) :
    let rf := after folder history
    let definitions := rf.files.flatMap (·.2)
    (rf.rules.map (·.id)).Nodup ∧
    (∀ r ∈ rf.rules, ∃ c ∈ r.id.toList, Text.isBlank c = false) ∧
    Ascending rf.files ∧
    (∀ q rules, (∃ p, (p, rules) ∈ rf.files ∧ (p == q) = true) ↔ Stands folder q rules history) ∧
    rf.rules.map (·.id) = (definitions.map (·.id)).eraseDups ∧
    (∀ r, r ∈ rf.rules ↔
      ∃ before after, definitions = before ++ r :: after ∧ r.id ∉ after.map (·.id)) ∧
    (∀ en : Engine, en.Reachable →
      let next := (en.updateAll rf.rules).1
      let diff := (en.updateAll rf.rules).2
      List.Forall₂ (fun active r => active = r ∨ active.same r = true) next.rules
        (Rule.byPriority rf.rules) ∧
      diff.added.length + diff.updated.length + diff.unchanged = rf.rules.length) ∧
    ∀ files : Files, files.Consistent folder →
      let first := ((unread folder).loadAll files).1
      let reports := ((unread folder).loadAll files).2
      reports.filterMap (fun report => report.2.ids?.map fun ids => (report.1, ids)) =
        first.files.map (fun entry => (entry.1, entry.2.map (·.id))) ∧
      (∀ entry ∈ first.files, RuleFile.load files entry.1 = .ok entry.2) ∧
      ∀ r ∈ first.rules, ∃ earlier p rules later,
        reports = earlier ++ (p, .loaded (rules.map (·.id))) :: later ∧
        RuleFile.load files p = .ok rules ∧ r ∈ rules ∧
        ∀ q ids, (q, LoadStatus.loaded ids) ∈ later → r.id ∉ ids := by
  intro rf definitions
  have hascending := ascending_after regular
  refine ⟨rf.nodup_ids_rules, ?_, hascending, ?_, Rule.ids_distinct_eq _,
    fun r => Rule.mem_distinct_iff, ?_, ?_⟩
  · intro r hr
    obtain ⟨files, -, q, rules, hfinds, hmem⟩ := exists_finds_of_mem_rules regular hr
    exact hfinds.not_blank r hmem
  · intro q rules
    rw [← hascending.lookup_eq_some_iff, lookup_after_iff regular]
  · intro en reachable
    have wf := reachable.wellFormed
    have hdistinct := rf.distinct_rules
    refine ⟨?_, ?_⟩
    · rw [wf.rules_updateAll, hdistinct, List.forall₂_map_left_iff, List.forall₂_same]
      exact fun r _ => r.supersede_cases _
    · rw [wf.diff_updateAll, hdistinct]
      simpa using Engine.length_reported en rf.rules
  · intro files consistent
    exact ⟨loaded_reports files folder, load_of_mem_files consistent,
      fun r hr => exists_last_report consistent hr⟩

/-- Two files define one id: the definition of the later file counts, at the place of the one in
the earlier file, and an engine without rules takes both rules. -/
theorem last_definition_counts_two_files :
    let files := Files.twoFiles (.ofText plainRule) (.ofText severeRules)
    let rf := after ⟨"rules"⟩ [files]
    let diff := (Engine.empty.updateAll rf.rules).2
    files.Consistent ⟨"rules"⟩ ∧
    rf.rules.map (·.id) = ["a", "b"] ∧
    (∃ r ∈ rf.rules, r.id = "a" ∧ r.action.severity = "high" ∧
      ∃ earlier p, ∃ rules : List Rule, ∃ later,
        ((unread ⟨"rules"⟩).loadAll files).2 = earlier ++ (p, .loaded (rules.map (·.id))) :: later ∧
        r ∈ rules ∧ ∀ q ids, (q, LoadStatus.loaded ids) ∈ later → r.id ∉ ids) ∧
    diff.added.length + diff.updated.length + diff.unchanged = 2 := by
  intro files rf diff
  have consistent : files.Consistent ⟨"rules"⟩ := Files.consistent_twoFiles _ _
  obtain ⟨-, -, -, -, hids, hrules, htaken, hreported⟩ :=
    last_definition_counts (List.forall_mem_singleton.mpr consistent.regular)
  obtain ⟨plain, hfirst, hnamed, -⟩ := outcome_plainRule
  obtain ⟨other, severe, hsecond, hother, hsevere, hseverity⟩ := outcome_severeRules
  rw [files_twoFiles hfirst hsecond] at hids hrules
  have hnames : rf.rules.map (·.id) = ["a", "b"] := by
    rw [hids]
    simp only [List.flatMap_cons, List.flatMap_nil, List.map_append, List.map_cons, List.map_nil,
      hnamed, hother, hsevere]
    decide
  have hmem : severe ∈ rf.rules :=
    (hrules severe).mpr ⟨plain ++ [other], [], by simp, by simp⟩
  obtain ⟨-, -, hlast⟩ := hreported files consistent
  obtain ⟨earlier, p, rules, later, hsplit, -, hreport⟩ := hlast severe hmem
  refine ⟨consistent, hnames, ?_, ?_⟩
  · exact ⟨severe, hmem, hsevere, hseverity, earlier, p, rules, later, hsplit, hreport⟩
  · rw [(htaken Engine.empty .empty).2, ← List.length_map (fun r : Rule => r.id), hnames]
    rfl

end RuleFolder

end VesselWatch
