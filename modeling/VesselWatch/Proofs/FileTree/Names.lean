/-
  Proofs/FileTree/Names.lean --- trees in which names are names.

  A folder has no name twice, and each of its names leads to one entry and nowhere else
  (`FileTree.Proper`).  So it is in the empty tree, and whatever is written or made
  (`Proper.write`, `Proper.makeFolder`), it stays so in the tree and in everything that is
  found in it.
-/
import VesselWatch.Proofs.Assoc
import VesselWatch.Proofs.FilePath

set_option autoImplicit false

namespace VesselWatch

/-! ## Names in a path -/

namespace Path

theorem no_slash_of_mem_cut {piece cs : List Char} (hpiece : '/' ∉ piece) {s : String}
    (member : s ∈ cut piece cs) : '/' ∉ s.toList := by
  induction cs generalizing piece with
  | nil =>
    obtain rfl := List.mem_singleton.mp member
    simpa using hpiece
  | cons c cs ih =>
    unfold cut at member
    split at member
    · rcases List.mem_cons.mp member with rfl | hrest
      · simpa using hpiece
      · exact ih List.not_mem_nil hrest
    · next hslash =>
      refine ih ?_ member
      rw [List.mem_cons, not_or]
      exact ⟨fun h => hslash (beq_iff_eq.mpr h.symm), hpiece⟩

theorem isEntryName_of_mem_parts {p : Path} {s : String} (member : Part.name s ∈ p.parts) :
    IsEntryName s := by
  have hnames : Part.name s ∈ p.pieces.filterMap Part.ofPiece := by
    unfold parts at member
    split at member
    · simpa using member
    · split at member
      · simpa using member
      · exact member
  obtain ⟨piece, hpiece, hpart⟩ := List.mem_filterMap.mp hnames
  have hslash := no_slash_of_mem_cut List.not_mem_nil hpiece
  unfold Part.ofPiece at hpart
  split at hpart
  · cases hpart
  · next hcounts =>
    rw [Bool.or_eq_true, beq_iff_eq, beq_iff_eq, not_or] at hcounts
    split at hpart
    · cases hpart
    · next hparent =>
      cases hpart
      exact ⟨hcounts.1, hcounts.2, by simpa using hparent, hslash⟩

end Path

namespace FileTree

theorem isEntryName_of_mem_names {p : Path} {s : String} (member : s ∈ names p) :
    Path.IsEntryName s := by
  -- Whatever has been gathered so far, a part adds nothing but a name.
  refine List.foldlRecOn (motive := fun names => ∀ s ∈ names, Path.IsEntryName s) p.parts _
    (List.forall_mem_nil _) ?_ s member
  intro found hfound part hpart
  cases part with
  | root => exact hfound
  | current => exact hfound
  | parent => exact fun s hs => hfound s (List.dropLast_subset _ hs)
  | name new =>
    intro s hs
    rcases List.mem_append.mp hs with hs | hs
    · exact hfound s hs
    · obtain rfl := List.mem_singleton.mp hs
      exact Path.isEntryName_of_mem_parts hpart

/-! ## Proper trees -/

mutual

/-- No folder has a name twice, and all names can be those of entries. -/
def Proper : FileTree → Prop
  | .file _ => True
  | .folder entries => (entries.map (·.1)).Nodup ∧ ProperEntries entries

/-- All names can be those of entries, and all entries are proper. -/
def ProperEntries : List (String × FileTree) → Prop
  | [] => True
  | (name, tree) :: rest => Path.IsEntryName name ∧ tree.Proper ∧ ProperEntries rest

end

theorem properEntries_iff {entries : List (String × FileTree)} :
    ProperEntries entries ↔ ∀ entry ∈ entries, Path.IsEntryName entry.1 ∧ entry.2.Proper := by
  induction entries with
  | nil => simp [ProperEntries]
  | cons entry rest ih =>
    obtain ⟨name, tree⟩ := entry
    rw [ProperEntries, ih, List.forall_mem_cons, and_assoc]

theorem proper_folder_iff {entries : List (String × FileTree)} :
    (FileTree.folder entries).Proper ↔
      (entries.map (·.1)).Nodup ∧ ∀ entry ∈ entries, Path.IsEntryName entry.1 ∧ entry.2.Proper := by
  rw [Proper, properEntries_iff]

theorem proper_empty : empty.Proper := by
  rw [empty, proper_folder_iff]
  exact ⟨List.nodup_nil, List.forall_mem_nil _⟩

theorem Proper.lookup {entries : List (String × FileTree)} (proper : (folder entries).Proper)
    {name : String} {tree : FileTree} (found : entries.lookup name = some tree) : tree.Proper :=
  ((proper_folder_iff.mp proper).2 (name, tree) (Assoc.mem_of_lookup_eq_some found)).2

/-! ## Finding -/

theorem Proper.follow {here : FileTree} (proper : here.Proper) {above : List FileTree}
    (properAbove : ∀ tree ∈ above, tree.Proper) {pieces : List String} {found : FileTree}
    (hfound : follow above here pieces = some found) : found.Proper := by
  induction pieces generalizing above here with
  | nil =>
    cases hfound
    exact proper
  | cons piece rest ih =>
    cases here with
    | file text => cases hfound
    | folder entries =>
      unfold FileTree.follow at hfound
      dsimp only at hfound
      split at hfound
      · exact ih proper properAbove hfound
      · split at hfound
        · cases above with
          | nil => cases hfound
          | cons up above =>
            obtain ⟨hup, habove⟩ := List.forall_mem_cons.mp properAbove
            exact ih hup habove hfound
        · cases hnext : entries.lookup piece with
          | none => simp [hnext] at hfound
          | some next =>
            simp only [hnext] at hfound
            exact ih (proper.lookup hnext) (List.forall_mem_cons.mpr ⟨proper, properAbove⟩) hfound

theorem Proper.find? {tree found : FileTree} (proper : tree.Proper) {p : Path}
    (hfound : tree.find? p = some found) : found.Proper := by
  unfold FileTree.find? at hfound
  split at hfound
  · cases hfound
  · exact proper.follow (List.forall_mem_nil _) hfound

/-- From a folder one goes on to its entries. -/
theorem follow_append_single (above : List FileTree) (here : FileTree) (pieces : List String)
    {name : String} (entry : Path.IsEntryName name) :
    follow above here (pieces ++ [name]) =
      (entriesOf (follow above here pieces)).bind fun entries => entries.lookup name := by
  have hskip : (name == "" || name == ".") = false := by
    simp [entry.nonempty, entry.not_current]
  have hparent : (name == "..") = false := beq_eq_false_iff_ne.mpr entry.not_parent
  induction pieces generalizing above here with
  | nil =>
    cases here with
    | file text => rfl
    | folder entries =>
      simp only [List.nil_append, follow, hskip, hparent, entriesOf, Option.bind_some,
        Bool.false_eq_true, if_false]
      cases entries.lookup name <;> rfl
  | cons piece rest ih =>
    cases here with
    | file text => rfl
    | folder entries =>
      simp only [List.cons_append, follow]
      split
      · exact ih above _
      · split
        · cases above with
          | nil => rfl
          | cons up above => exact ih above up
        · cases entries.lookup piece with
          | none => rfl
          | some next => exact ih _ next

/-- The path of an entry leads to that entry. -/
theorem find?_join {tree : FileTree} {p : Path} {entries : List (String × FileTree)}
    (found : tree.find? p = some (.folder entries)) {name : String}
    (entry : Path.IsEntryName name) : tree.find? (p.join name) = entries.lookup name := by
  unfold find? at found ⊢
  split at found
  · cases found
  · next hrelative =>
    rw [Bool.or_eq_true, beq_iff_eq, not_or] at hrelative
    obtain ⟨hnonempty, hrelative⟩ := hrelative
    obtain ⟨front, -, hjoin, hpieces⟩ := Path.pieces_join hnonempty entry
    have htext : (p.join name).text ≠ "" := by
      intro h
      rw [Path.text_eq_empty_iff, Path.parts_join p entry] at h
      exact List.append_ne_nil_of_right_ne_nil _ (List.cons_ne_nil _ _) h
    have hfront : entriesOf (follow [] tree front) = some entries := by
      rcases hpieces with hpieces | hpieces
      · rw [← hpieces, found]
        rfl
      · -- The empty piece at the end leads nowhere.
        have hfilter : entriesOf (follow [] tree p.pieces) = entriesOf (follow [] tree front) := by
          rw [entriesOf_follow, hpieces, List.filter_append, entriesOf_follow [] tree front]
          simp
        rw [← hfilter, found]
        rfl
    rw [if_neg (by simp [htext, Path.isAbsolute_join hnonempty, hrelative]), hjoin,
      follow_append_single [] tree front entry, hfront]
    rfl

/-! ## Changing -/

section Changing

variable {entries : List (String × FileTree)} {tree new : FileTree} {names : List String}

theorem Proper.putEntry (proper : (folder entries).Proper) {name : String}
    (entry : Path.IsEntryName name) (hnew : new.Proper) :
    (folder (Assoc.put name new entries)).Proper := by
  obtain ⟨hnodup, hentries⟩ := proper_folder_iff.mp proper
  rw [proper_folder_iff]
  refine ⟨Assoc.nodup_keys_put name new hnodup, fun e he => ?_⟩
  rcases Assoc.eq_or_mem_of_mem_put he with rfl | he
  · exact ⟨entry, hnew⟩
  · exact hentries e he

/-- The entry of a name, or the empty folder if there is none. -/
theorem Proper.entry (proper : (folder entries).Proper) (name : String) :
    ((entries.lookup name).getD empty).Proper := by
  cases hfound : entries.lookup name with
  | none => exact proper_empty
  | some tree => exact proper.lookup hfound

theorem Proper.put (proper : tree.Proper) (hnew : new.Proper)
    (hnames : ∀ name ∈ names, Path.IsEntryName name) : (put new names tree).Proper := by
  induction names generalizing tree with
  | nil =>
    unfold FileTree.put
    exact hnew
  | cons name rest ih =>
    obtain ⟨hname, hrest⟩ := List.forall_mem_cons.mp hnames
    cases tree with
    | file text => exact proper
    | folder entries => exact proper.putEntry hname (ih (proper.entry name) hrest)

theorem Proper.makeFolders (proper : tree.Proper) (hnames : ∀ name ∈ names, Path.IsEntryName name) :
    (makeFolders names tree).Proper := by
  induction names generalizing tree with
  | nil =>
    unfold FileTree.makeFolders
    exact proper
  | cons name rest ih =>
    obtain ⟨hname, hrest⟩ := List.forall_mem_cons.mp hnames
    cases tree with
    | file text => exact proper
    | folder entries => exact proper.putEntry hname (ih (proper.entry name) hrest)

theorem Proper.write (proper : tree.Proper) (p : Path) (text : FileText) :
    (tree.write p text).Proper :=
  proper.put (by unfold Proper; trivial) fun _ => isEntryName_of_mem_names

theorem Proper.makeFolder (proper : tree.Proper) (p : Path) : (tree.makeFolder p).Proper := by
  unfold FileTree.makeFolder
  split
  · exact proper
  · exact proper.makeFolders fun _ => isEntryName_of_mem_names

end Changing

end FileTree

end VesselWatch
