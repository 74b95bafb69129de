/-
  Proofs/FileTree.lean --- spellings of one path.

  Two paths are the same when their parts are.  A tree leads from both of them to the
  same folder: a part is what counts of a piece between slashes, and the pieces that
  count for nothing are passed over wherever there is a folder to stand in.
-/
import VesselWatch.FileTree

set_option autoImplicit false

namespace VesselWatch

namespace Path

theorem parts_eq_of_beq {p q : Path} (h : (p == q) = true) : p.parts = q.parts :=
  eq_of_beq (α := List Part) h

theorem beq_comm (p q : Path) : (p == q) = (q == p) := BEq.comm (α := List Part)

theorem beq_congr_left {p q : Path} (same : (p == q) = true) (k : Path) :
    (p == k) = (q == k) := by
  change (p.parts == k.parts) = (q.parts == k.parts)
  rw [parts_eq_of_beq same]

/-- Cutting gives at least one piece, and it holds what has been gathered for it. -/
theorem cut_eq_cons (piece cs : List Char) :
    ∃ s rest, cut piece cs = s :: rest ∧ (piece ≠ [] → s ≠ "") := by
  induction cs generalizing piece with
  | nil =>
    refine ⟨_, _, rfl, fun hpiece hempty => hpiece ?_⟩
    simpa using congrArg String.toList hempty
  | cons c cs ih =>
    unfold cut
    by_cases hslash : c = '/'
    · refine ⟨String.ofList piece.reverse, cut [] cs, by simp [hslash], fun hpiece hempty => ?_⟩
      exact hpiece (by simpa using congrArg String.toList hempty)
    · obtain ⟨s, rest, hcut, hs⟩ := ih (c :: piece)
      exact ⟨s, rest, by simpa [hslash] using hcut, fun _ => hs (List.cons_ne_nil _ _)⟩

theorem root_notMem_names (pieces : List String) : Part.root ∉ pieces.filterMap Part.ofPiece := by
  intro h
  obtain ⟨piece, -, hpiece⟩ := List.mem_filterMap.mp h
  unfold Part.ofPiece at hpiece
  split at hpiece
  · cases hpiece
  · split at hpiece <;> cases hpiece

theorem root_mem_parts_iff (p : Path) : Part.root ∈ p.parts ↔ p.isAbsolute = true := by
  have hnames := root_notMem_names p.pieces
  unfold parts
  cases habsolute : p.isAbsolute with
  | true => simp
  | false =>
    by_cases hcurrent : p.pieces.head? = some "."
    · simp [hcurrent, hnames]
    · simp [hcurrent, hnames]

/-- Only the empty text has no parts. -/
theorem text_eq_empty_iff (p : Path) : p.text = "" ↔ p.parts = [] := by
  constructor
  · intro h
    have hp : p = ⟨""⟩ := by
      rw [← h]
    rw [hp]
    decide
  · intro h
    have hrelative : p.isAbsolute = false := by
      rw [← Bool.not_eq_true, ← root_mem_parts_iff, h]
      exact List.not_mem_nil
    cases hchars : p.text.toList with
    | nil => simpa using hchars
    | cons c cs =>
      have hslash : c ≠ '/' := by
        rintro rfl
        simp [isAbsolute, hchars] at hrelative
      obtain ⟨s, rest, hcut, hs⟩ := cut_eq_cons [c] cs
      have hpieces : p.pieces = s :: rest := by
        rw [pieces, hchars, cut]
        simpa [hslash] using hcut
      have hnonempty : s ≠ "" := hs (List.cons_ne_nil _ _)
      by_cases hdot : s = "."
      · simp [parts, hrelative, hpieces, hdot] at h
      · by_cases hparent : s = ".."
        · simp [parts, hrelative, hpieces, hparent, Part.ofPiece] at h
        · simp [parts, hrelative, hpieces, hnonempty, hdot, hparent, Part.ofPiece] at h

/-- The piece that a part is followed by, if it leads anywhere. -/
def Part.step : Part → Option String
  | .parent => some ".."
  | .name s => some s
  | _ => none

/-- The parts of a path say which of its pieces count. -/
theorem filterMap_step_parts (p : Path) :
    p.parts.filterMap Part.step = p.pieces.filter fun piece => !(piece == "" || piece == ".") := by
  have hnames : (p.pieces.filterMap Part.ofPiece).filterMap Part.step =
      p.pieces.filter fun piece => !(piece == "" || piece == ".") := by
    rw [List.filterMap_filterMap, ← List.filterMap_eq_filter]
    congr 1
    funext piece
    unfold Part.ofPiece
    by_cases hskip : (piece == "" || piece == ".") = true
    · simp [hskip, Option.guard]
    · by_cases hparent : piece = ".."
      · subst hparent
        rfl
      · simp [hskip, hparent, Option.guard, Part.step]
  rw [← hnames]
  unfold parts
  split
  · rfl
  · split <;> rfl

end Path

namespace FileTree

/-- The entries of a folder. -/
def entriesOf : Option FileTree → Option (List (String × FileTree))
  | some (.folder entries) => some entries
  | _ => none

/-- On the way to a folder the pieces that count for nothing are passed over. -/
theorem entriesOf_follow (above : List FileTree) (here : FileTree) (pieces : List String) :
    entriesOf (follow above here pieces) =
      entriesOf (follow above here (pieces.filter fun piece => !(piece == "" || piece == "."))) := by
  induction pieces generalizing above here with
  | nil => rfl
  | cons piece rest ih =>
    cases here with
    | file text =>
      -- Behind a file there is no folder, whether a piece is left to follow or not.
      cases hkept : (piece :: rest).filter fun piece => !(piece == "" || piece == ".") with
      | nil => rfl
      | cons next later => rfl
    | folder entries =>
      by_cases hskip : (piece == "" || piece == ".") = true
      · rw [List.filter_cons_of_neg (by simp [hskip]), ← ih]
        simp only [follow, hskip, if_true]
      · rw [List.filter_cons_of_pos (by simp [hskip])]
        by_cases hparent : (piece == "..") = true
        · cases above with
          | nil => simp only [follow, hskip, hparent, if_true, Bool.false_eq_true, if_false]
          | cons up above =>
            simp only [follow, hskip, hparent, if_true, Bool.false_eq_true, if_false]
            exact ih above up
        · simp only [follow, hskip, hparent, Bool.false_eq_true, if_false]
          cases entries.lookup piece with
          | none => rfl
          | some next => exact ih (.folder entries :: above) next

/-- Spellings of one path lead to one folder. -/
theorem entriesOf_find?_congr (tree : FileTree) {p q : Path} (same : (p == q) = true) :
    entriesOf (tree.find? p) = entriesOf (tree.find? q) := by
  have hparts := Path.parts_eq_of_beq same
  have hempty : (p.text = "" ↔ q.text = "") := by
    rw [Path.text_eq_empty_iff, Path.text_eq_empty_iff, hparts]
  have habsolute : (p.isAbsolute = true ↔ q.isAbsolute = true) := by
    rw [← Path.root_mem_parts_iff, ← Path.root_mem_parts_iff, hparts]
  unfold find?
  simp only [Bool.or_eq_true, beq_iff_eq, hempty, habsolute]
  split
  · rfl
  · rw [entriesOf_follow, ← Path.filterMap_step_parts, hparts, Path.filterMap_step_parts,
      ← entriesOf_follow]

end FileTree

theorem Files.entries?_eq (files : Files) (p : Path) :
    files.entries? p = (FileTree.entriesOf (files p)).map
      fun entries => entries.mergeSort fun a b => !decide (b.1 < a.1) := by
  unfold Files.entries?
  cases hfound : files p with
  | none => rfl
  | some found =>
    cases found with
    | file text => rfl
    | folder entries => rfl

end VesselWatch
