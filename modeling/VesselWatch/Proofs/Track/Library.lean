/-
  Proofs/Track/Library.lean --- what a library gives while its folders stay the same.

  A library remembers what it has loaded, but as long as the folders do not change
  that makes no difference to what a request gets.  What it takes is that spellings of
  one path lead to one folder (`Coherent`), as they do in a tree (`coherent_loaded`).

  Where the folders do change, libraries that were asked for the same folders at the
  same times are still alike (`Alike.recordAll`).
-/
import VesselWatch.Proofs.FileTree
import VesselWatch.Track.Library

set_option autoImplicit false

namespace VesselWatch.Track

/-- Paths that are the same lead to the same model. -/
def Coherent (source : Path → Option Model) : Prop :=
  ∀ p q : Path, (p == q) = true → source p = source q

theorem coherent_loaded (tree : FileTree) : Coherent (Library.loaded tree.find?) := by
  intro p q same
  have hentries : Files.entries? tree.find? p = Files.entries? tree.find? q := by
    rw [Files.entries?_eq, Files.entries?_eq, tree.entriesOf_find?_congr same]
  unfold Library.loaded Model.load
  rw [hentries]
  cases Files.entries? tree.find? q <;> rfl

namespace Library

variable {source : Path → Option Model}

theorem find_shelve (coherent : Coherent source) (folder : Path) (lib : Library) :
    (lib.shelve folder (source folder)).find source = lib.find source := by
  funext asked
  unfold shelve
  split
  · rfl
  · cases asked with
    | none => rfl
    | some f =>
      simp only [find, List.lookup_append]
      cases hshelf : lib.shelves.lookup f with
      | some m => rfl
      | none =>
        cases hf : f == folder with
        | true => simp [List.lookup_cons, hf, coherent f folder hf]
        | false => simp [List.lookup_cons, hf]

/-- Loading models does not change what a request gets. -/
theorem find_recordAll (coherent : Coherent source) (folders : List Path) (lib : Library) :
    (lib.recordAll source folders).find source = lib.find source := by
  unfold recordAll
  induction folders generalizing lib with
  | nil => rfl
  | cons folder rest ih => rw [List.foldl_cons, ih, find_shelve coherent]

/-! ## Libraries that nothing tells apart

What stands on a shelf depends on which folders were asked for, but neither on the order in
which they were nor on how they were spelled. -/

/-- What stands on the shelf of a folder, if it has one. -/
def shelf (lib : Library) (folder : Path) : Option (Option Model) := lib.shelves.lookup folder

theorem shelf_congr (lib : Library) {p q : Path} (same : (p == q) = true) :
    lib.shelf p = lib.shelf q := by
  unfold shelf
  induction lib.shelves with
  | nil => rfl
  | cons entry rest ih =>
    rw [List.lookup_cons, List.lookup_cons, Path.beq_congr_left same, ih]

theorem coherent_find (coherent : Coherent source) (lib : Library) :
    Coherent fun p => lib.find source (some p) := by
  intro p q same
  have hshelf : lib.shelves.lookup p = lib.shelves.lookup q := lib.shelf_congr same
  simp only [find, hshelf, coherent p q same]

theorem shelf_shelve (folder asked : Path) (m : Option Model) (lib : Library) :
    (lib.shelve folder m).shelf asked =
      (lib.shelf asked).or (if asked == folder then some m else none) := by
  unfold shelve
  cases hhas : Assoc.has folder lib.shelves with
  | true =>
    have htaken : (lib.shelf folder).isSome = true := by
      obtain ⟨entry, hentry, hfolder⟩ := List.any_eq_true.mp hhas
      exact List.lookup_isSome_iff.mpr ⟨entry, hentry, Path.beq_comm entry.1 folder ▸ hfolder⟩
    rw [if_pos rfl]
    cases hsame : asked == folder with
    | false => simp
    | true =>
      obtain ⟨m', hm'⟩ := Option.isSome_iff_exists.mp htaken
      rw [lib.shelf_congr hsame, hm']
      rfl
  | false =>
    rw [if_neg Bool.false_ne_true]
    unfold shelf
    rw [List.lookup_append, List.lookup_cons, List.lookup_nil]
    cases asked == folder <;> rfl

/-- A shelf that was empty holds what its folder gave, if it was asked for by whatever name. -/
theorem shelf_recordAll (coherent : Coherent source) (folders : List Path) (asked : Path)
    (lib : Library) :
    (lib.recordAll source folders).shelf asked =
      (lib.shelf asked).or (if folders.any (asked == ·) then some (source asked) else none) := by
  unfold recordAll
  induction folders generalizing lib with
  | nil => simp
  | cons folder rest ih =>
    rw [List.foldl_cons, ih, shelf_shelve, Option.or_assoc, List.any_cons]
    congr 1
    cases hsame : asked == folder with
    | true => simp [coherent asked folder hsame]
    | false => simp

theorem default_recordAll (folders : List Path) (lib : Library) :
    (lib.recordAll source folders).default = lib.default := by
  unfold recordAll
  induction folders generalizing lib with
  | nil => rfl
  | cons folder rest ih =>
    rw [List.foldl_cons, ih]
    unfold shelve
    split <;> rfl

/-- The same default model, and the same on every shelf. -/
structure Alike (lib lib' : Library) : Prop where
  default : lib.default = lib'.default
  shelf : ∀ p, lib.shelf p = lib'.shelf p

variable {lib lib' : Library}

theorem Alike.find (alike : lib.Alike lib') (source : Path → Option Model) :
    lib.find source = lib'.find source := by
  funext asked
  cases asked with
  | none => exact alike.default
  | some p =>
    have hshelf : lib.shelves.lookup p = lib'.shelves.lookup p := alike.shelf p
    simp only [Library.find, hshelf]

/-- Libraries that were asked for the same folders stay alike. -/
theorem Alike.recordAll (alike : lib.Alike lib') (coherent : Coherent source)
    {folders folders' : List Path}
    (asked : ∀ p, folders.any (p == ·) = folders'.any (p == ·)) :
    (lib.recordAll source folders).Alike (lib'.recordAll source folders') where
  default := by
    rw [default_recordAll, default_recordAll]
    exact alike.default
  shelf := fun p => by
    rw [shelf_recordAll coherent, shelf_recordAll coherent, alike.shelf, asked]

end Library

end VesselWatch.Track
