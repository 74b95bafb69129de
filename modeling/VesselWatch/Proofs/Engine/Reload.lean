/-
  Proofs/Engine/Reload.lean --- an engine that is kept up with a folder of rule files.

  `Watches` is what can happen to such an engine: it is made from the rules of a folder, the
  folder is read again and its rules are handed over, and events are evaluated.  At all times
  the engine then has the rules that the folder gave last (`Watches.carries`).

  So what a reload does to the engine can be told from the rules of the folder before and after
  it.  Files that break, while all others stay as they are, leave the rules of the
  folder alone (`rules_after_breaks`) and with them the engine.
-/
import VesselWatch.Proofs.Engine.Mirror
import VesselWatch.Proofs.Engine.Replacement
import VesselWatch.Proofs.Rule.Document
import VesselWatch.Proofs.Rule.Folder

set_option autoImplicit false

namespace VesselWatch

open RuleFolder (after)

/-! ## The rules of a folder -/

theorem FileText.proper_of_outcome {text : FileText} {rules : List Rule}
    (taken : text.outcome = .ok rules) : ∀ r ∈ rules, r.NanFree → r.Proper := by
  unfold FileText.outcome at taken
  split at taken
  · cases taken
  · exact RuleFile.proper_of_read taken

namespace RuleFolder

/-- No rule that a reading took has a NaN among its numbers. -/
def NanFree (folder : Path) (history : List Files) : Prop :=
  ∀ files ∈ history, ∀ q rules, Finds files folder q (.ok rules) → ∀ r ∈ rules, r.NanFree

variable {folder : Path} {history : List Files}

theorem nodup_ids_rules (rf : RuleFolder) : (rf.rules.map (·.id)).Nodup :=
  Rule.nodup_ids_distinct _

theorem distinct_rules (rf : RuleFolder) : Rule.distinct rf.rules = rf.rules :=
  Rule.distinct_of_nodup rf.nodup_ids_rules

/-- Each rule of the folder was taken at some reading. -/
theorem exists_finds_of_mem_rules (regular : ∀ files ∈ history, files.Regular folder) {r : Rule}
    (member : r ∈ (after folder history).rules) :
    ∃ files ∈ history, ∃ q rules, Finds files folder q (.ok rules) ∧ r ∈ rules := by
  obtain ⟨⟨p, rules⟩, hentry, hr⟩ := List.mem_flatMap.mp (Engine.mem_of_mem_distinct member)
  have hlookup : (after folder history).files.lookup p = some rules :=
    (ascending_after regular).lookup_eq_some_iff.mpr ⟨p, hentry, Path.place_eq_iff.mp rfl⟩
  obtain ⟨earlier, files, later, rfl, hfinds, -⟩ := (lookup_after_iff regular p rules).mp hlookup
  exact ⟨files, List.mem_append_right _ (List.mem_cons_self ..), p, rules, hfinds, hr⟩

theorem proper_of_mem_rules (regular : ∀ files ∈ history, files.Regular folder)
    (numbers : NanFree folder history) : ∀ r ∈ (after folder history).rules, r.Proper := by
  intro r member
  obtain ⟨files, hfiles, q, rules, hfinds, hr⟩ := exists_finds_of_mem_rules regular member
  have hnumbers := numbers files hfiles q rules hfinds r hr
  obtain ⟨_, _, text, -, -, -, -, houtcome⟩ := hfinds
  exact FileText.proper_of_outcome houtcome r hr hnumbers

end RuleFolder

/-! ## Engines that carry some rules -/

namespace Engine

open Rule

variable {en : Engine}

/-- The active definitions are the same as these, item by item. -/
def Carries (en : Engine) (rules : List Rule) : Prop :=
  List.Forall₂ (fun active r => active.same r = true) en.rules (byPriority rules)

theorem Carries.ids_eq {rules : List Rule} (carries : en.Carries rules) :
    en.rules.map (·.id) = (byPriority rules).map (·.id) :=
  map_eq_of_forall₂ (fun _ _ h => id_of_same h) carries

theorem Carries.mem_ids_iff {rules : List Rule} (carries : en.Carries rules) {id : String} :
    id ∈ en.rules.map (·.id) ↔ id ∈ rules.map (·.id) := by
  rw [carries.ids_eq, ((byPriority_perm rules).map _).mem_iff]

theorem Carries.agrees {rules : List Rule} (nodup : (rules.map (·.id)).Nodup)
    (carries : en.Carries rules) : ∀ r ∈ rules, en.agrees r = true := by
  intro r hr
  have hnamed : named r.id (byPriority rules) = some r := by
    rw [← named_perm (byPriority_perm rules).symm nodup, named_eq_some_iff nodup]
    exact ⟨hr, rfl⟩
  have hids : ∀ a b : Rule, a.same b = true → (a.id == r.id) = (b.id == r.id) := by
    intro a b hsame
    rw [id_of_same hsame]
  rcases find?_forall₂ hids carries with ⟨-, hnone⟩ | ⟨active, r', hactive, hr', hsame⟩
  · cases hnone.symm.trans hnamed
  · obtain rfl := Option.some.inj (hr'.symm.trans hnamed)
    change (named r'.id en.rules).any (·.same r') = true
    rw [named, hactive, Option.any_some]
    exact hsame

/-- The rules of an engine stand in the order of those that it carries. -/
theorem Carries.precedes {rules : List Rule} (nodup : (rules.map (·.id)).Nodup)
    (carries : en.Carries rules) : en.rules.Pairwise (Precedes rules) := by
  -- The order looks at priorities and ids only, and these are the same on both sides.
  let key (r : Rule) : Int × String := (r.priority, r.id)
  let before (a b : Int × String) : Prop :=
    b.1 < a.1 ∨ a.1 = b.1 ∧ rank rules a.2 ≤ rank rules b.2
  have hkeys : en.rules.map key = (byPriority rules).map key := by
    refine map_eq_of_forall₂ (fun active r h => ?_) carries
    simp only [key, priority_of_same h, id_of_same h]
  have hsorted : ((byPriority rules).map key).Pairwise before :=
    List.pairwise_map.mpr (byPriority_precedes nodup)
  rw [← hkeys] at hsorted
  exact (List.pairwise_map (f := key) (R := before)).mp hsorted

/-- The rules that the engine carries leave it as it is. -/
theorem Carries.updateAll_eq {rules : List Rule} (nodup : (rules.map (·.id)).Nodup)
    (carries : en.Carries rules) : en.updateAll rules = (en, ⟨[], [], [], rules.length⟩) := by
  have hdistinct := distinct_of_nodup nodup
  have hmentioned : ∀ r ∈ en.rules, mentions rules r.id = true := by
    intro r hr
    rw [mentions_iff, hdistinct, ← carries.mem_ids_iff]
    exact List.mem_map_of_mem hr
  have hagrees := carries.agrees nodup
  have hsorted := carries.precedes nodup
  rw [← hdistinct] at hagrees hsorted
  have hupdate := updateAll_of_agrees hmentioned hagrees hsorted
  rw [hdistinct] at hupdate
  exact hupdate

end Engine

/-! ## Runs -/

theorem RuleFolder.reload_after (folder : Path) (history : List Files) (files : Files)
    (en : Engine) :
    (after folder history).reload files en =
      (after folder (history ++ [files]),
        en.updateAll (after folder (history ++ [files])).rules) := by
  rw [RuleFolder.after_snoc]
  rfl

/-- The engines of a folder that has been read at these states of the file system, one after
another. -/
inductive Watches (folder : Path) : List Files → Engine → Prop where
  /-- the engine is made from the rules that the folder gives so far -/
  | start (history : List Files) :
      Watches folder history (Engine.ofRules (after folder history).rules)
  /-- the folder is read, and its rules are handed over -/
  | reload {history : List Files} {en : Engine} (files : Files) : Watches folder history en →
      Watches folder (history ++ [files]) ((after folder history).reload files en).2.1
  /-- an event is evaluated -/
  | evaluate {history : List Files} {en : Engine} {models : Models} {seals : String → Seal}
      {e : VesselEvent} {done : Evaluation} : Watches folder history en →
      en.Evaluates models seals e done → Watches folder history done.engine

namespace Watches

variable {folder : Path} {history : List Files} {en : Engine}

theorem reachable (watches : Watches folder history en) : en.Reachable := by
  induction watches with
  | start history => exact .ofRules _
  | reload files _ ih =>
    rw [RuleFolder.reload_after]
    exact .updateAll _ ih
  | evaluate _ evaluates ih => exact .evaluate ih evaluates

/-- An engine that has been given the rules of a folder carries them. -/
theorem carries_updateAll (wf : en.WellFormed) (regular : ∀ files ∈ history, files.Regular folder)
    (numbers : RuleFolder.NanFree folder history) :
    (en.updateAll (after folder history).rules).1.Carries (after folder history).rules := by
  have hdistinct := (after folder history).distinct_rules
  have hreflexive : ∀ r ∈ Rule.distinct (after folder history).rules, r.same r = true := by
    rw [hdistinct]
    exact fun r hr => Rule.same_self (RuleFolder.proper_of_mem_rules regular numbers r hr)
  have hsame := wf.sameList_updateAll hreflexive
  rw [hdistinct] at hsame
  exact sameList_iff.mp hsame

/-- Whatever has happened, the engine has the rules that the folder gave last. -/
theorem carries (watches : Watches folder history en)
    (regular : ∀ files ∈ history, files.Regular folder)
    (numbers : RuleFolder.NanFree folder history) : en.Carries (after folder history).rules := by
  induction watches with
  | start history =>
    have hrules : (Engine.ofRules (after folder history).rules).rules =
        Rule.byPriority (after folder history).rules := by
      rw [Engine.ofRules, (after folder history).distinct_rules]
    rw [Engine.Carries, hrules, List.forall₂_same]
    intro r hr
    rw [(Rule.byPriority_perm _).mem_iff] at hr
    exact Rule.same_self (RuleFolder.proper_of_mem_rules regular numbers r hr)
  | reload files watches _ =>
    rw [RuleFolder.reload_after]
    exact carries_updateAll watches.reachable.wellFormed regular numbers
  | @evaluate _ en _ _ _ _ watches evaluates ih =>
    obtain ⟨pushed, delivers, rfl⟩ := evaluates
    have hrules : pushed.engine.rules = en.rules :=
      delivers.rules_eq watches.reachable.wellFormed
    rw [Engine.Carries, hrules]
    exact ih regular numbers

/-- A reload leaves the engine with the rules of the folder, ranked by priority.  An id that the
folder gave before and gives now keeps its memory, one that is new gets an empty one, and one that
is gone has none.  If since some earlier reading nothing has happened to the folder but that
files have broken, the reload finds nothing to do. -/
theorem reload_follows_folder (watches : Watches folder history en) (files : Files)
    (regular : ∀ read ∈ history ++ [files], read.Regular folder)
    (numbers : RuleFolder.NanFree folder (history ++ [files])) {rf : RuleFolder} {next : Engine}
    {diff : Diff} (reloads : (after folder history).reload files en = (rf, next, diff)) :
    let before := (after folder history).rules.map (·.id)
    let now := rf.rules.map (·.id)
    sameList Rule.same next.rules (Rule.byPriority rf.rules) = true ∧
    (∀ id ∈ now, id ∈ before → (en.state? id).isSome ∧ next.state? id = en.state? id) ∧
    (∀ id ∈ now, id ∉ before → next.state? id = some (RuleState.fresh id)) ∧
    (∀ id, id ∉ now → next.state? id = none) ∧
    ∀ earlier old later, history = earlier ++ old :: later →
      (∀ new ∈ later ++ [files], RuleFolder.Breaks folder old new) →
      diff.isNoop = true ∧ next = en := by
  intro before now
  have wf := watches.reachable.wellFormed
  have hbefore : ∀ read ∈ history, read.Regular folder :=
    fun read hread => regular read (List.mem_append_left _ hread)
  have hcarries := watches.carries hbefore fun read hread =>
    numbers read (List.mem_append_left _ hread)
  rw [RuleFolder.reload_after] at reloads
  obtain ⟨rfl, hupdate⟩ := Prod.mk.inj reloads
  obtain rfl : (en.updateAll (after folder (history ++ [files])).rules).1 = next := by
    rw [hupdate]
  obtain rfl : (en.updateAll (after folder (history ++ [files])).rules).2 = diff := by
    rw [hupdate]
  have hstate := wf.state?_updateAll_cases (after folder (history ++ [files])).rules
  simp only [RuleFolder.distinct_rules, hcarries.mem_ids_iff] at hstate
  refine ⟨sameList_iff.mpr (carries_updateAll wf regular numbers), ?_, ?_, ?_, ?_⟩
  · intro id hnow hid
    rw [hstate, if_pos hnow, if_pos hid]
    refine ⟨?_, rfl⟩
    rw [wf.remembered, Rule.named_isSome_iff, hcarries.mem_ids_iff]
    exact hid
  · intro id hnow hid
    rw [hstate, if_pos hnow, if_neg hid]
  · intro id hnow
    rw [hstate, if_neg hnow]
  · rintro earlier old later rfl hbreaks
    have hrules : (after folder (earlier ++ old :: later ++ [files])).rules =
        (after folder (earlier ++ old :: later)).rules := by
      rw [List.append_assoc, List.cons_append] at regular ⊢
      rw [RuleFolder.rules_after_breaks regular hbreaks,
        RuleFolder.rules_after_breaks hbefore fun new hnew =>
          hbreaks new (List.mem_append_left _ hnew)]
    rw [hrules, hcarries.updateAll_eq (RuleFolder.nodup_ids_rules _)]
    exact ⟨rfl, rfl⟩

/-- A file breaks after an event: the reload changes nothing. -/
theorem reload_follows_folder_broken :
    let good := Files.oneFile (.ofText plainRule)
    let broken := Files.oneFile (.ofText "[")
    let en := Engine.ofRules (after ⟨"rules"⟩ [good]).rules
    let seen := (en.evaluate (fun _ => none) (fun _ => default) default).engine
    Watches ⟨"rules"⟩ [good] seen ∧
    (∀ read ∈ [good, broken], read.Regular ⟨"rules"⟩) ∧
    RuleFolder.NanFree ⟨"rules"⟩ [good, broken] ∧
    RuleFolder.Breaks ⟨"rules"⟩ good broken ∧
    ((after ⟨"rules"⟩ [good]).reload broken seen).2.1 = seen := by
  intro good broken en seen
  obtain ⟨rules, hgood, -, hconditions⟩ := outcome_plainRule
  obtain ⟨err, hbroken⟩ := outcome_bracket
  have wf : en.WellFormed := Engine.wellFormed_ofRules _
  have watches : Watches ⟨"rules"⟩ [good] seen := (Watches.start [good]).evaluate wf.evaluates
  have regular : ∀ read ∈ [good, broken], read.Regular ⟨"rules"⟩ := by
    simp only [List.forall_mem_cons]
    exact ⟨Files.regular_oneFile _, Files.regular_oneFile _, List.forall_mem_nil _⟩
  have numbers : RuleFolder.NanFree ⟨"rules"⟩ [good, broken] := by
    intro files hfiles q taken hfinds r hr c hc
    simp only [List.mem_cons, List.not_mem_nil, or_false] at hfiles
    rcases hfiles with rfl | rfl
    · have htaken := (Files.finds_oneFile_iff.mp hfinds).2
      rw [hgood] at htaken
      cases htaken
      rw [hconditions r hr] at hc
      exact absurd hc List.not_mem_nil
    · have htaken := (Files.finds_oneFile_iff.mp hfinds).2
      rw [hbroken] at htaken
      cases htaken
  have breaks : RuleFolder.Breaks ⟨"rules"⟩ good broken := by
    intro q
    constructor
    · simp [good, broken, Files.finds_oneFile_iff]
    · intro taken hfinds
      have htaken := (Files.finds_oneFile_iff.mp hfinds).2
      rw [hbroken] at htaken
      cases htaken
  refine ⟨watches, regular, numbers, breaks, ?_⟩
  obtain ⟨-, -, -, -, hunchanged⟩ := reload_follows_folder watches broken regular numbers rfl
  exact (hunchanged [] good [] rfl (List.forall_mem_singleton.mpr breaks)).2

end Watches

end VesselWatch
