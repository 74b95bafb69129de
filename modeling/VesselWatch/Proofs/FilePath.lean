/-
  Proofs/FilePath.lean --- the order of paths, and the paths of entries.

  Paths stand in the lexicographic order of their parts.  `Path.place` is the place of a
  path in a linear order (`before_iff`), and two paths have one place just if they are the
  same (`place_eq_iff`).

  The path of an entry has the parts of its folder and one part more (`parts_join`), if the
  name can be that of an entry at all, and what lies deeper has a part for each name on the way
  (`parts_below`).  So the entries of a folder stand in the order of their names
  (`before_join_iff`).  A name that has an extension is cut at its last dot
  (`splitName_eq_some_iff`).
-/
import VesselWatch.Proofs.FileTree
import VesselWatch.Proofs.Sorting
import Mathlib.Data.List.Lex
import Mathlib.Data.List.TakeWhile
import Mathlib.Data.Prod.Lex
import Mathlib.Data.String.Basic

set_option autoImplicit false

namespace VesselWatch.Path

/-! ## Order -/

/-- The place of a part: the kinds of parts come one after another, and names by their text. -/
def Part.place : Part → ℕ ×ₗ String
  | .root => toLex (0, "")
  | .current => toLex (1, "")
  | .parent => toLex (2, "")
  | .name s => toLex (3, s)

/-- The place of a path in the order of paths. -/
def place (p : Path) : List (ℕ ×ₗ String) := p.parts.map Part.place

theorem Part.place_injective : Function.Injective Part.place := by
  intro a b h
  cases a <;> cases b <;> simp_all [Part.place]

theorem Part.before_iff (a b : Part) : a.before b = true ↔ a.place < b.place := by
  cases a <;> cases b <;> simp [Part.before, Part.before.rank, Part.place, Prod.Lex.toLex_lt_toLex]

theorem partsBefore_iff (as bs : List Part) :
    partsBefore as bs = true ↔ as.map Part.place < bs.map Part.place := by
  induction as generalizing bs with
  | nil => cases bs <;> simp [partsBefore]
  | cons a as ih =>
    cases bs with
    | nil => simp [partsBefore]
    | cons b bs =>
      rw [partsBefore, Bool.or_eq_true, Bool.and_eq_true, Part.before_iff, ih, beq_iff_eq,
        List.map_cons, List.map_cons, List.cons_lt_cons_iff, Part.place_injective.eq_iff]

theorem before_iff (p q : Path) : p.before q = true ↔ p.place < q.place :=
  partsBefore_iff p.parts q.parts

theorem place_eq_iff {p q : Path} : p.place = q.place ↔ (p == q) = true := by
  constructor
  · intro h
    have hparts : p.parts = q.parts := Part.place_injective.list_map h
    change (p.parts == q.parts) = true
    exact beq_iff_eq.mpr hparts
  · intro h
    unfold place
    rw [parts_eq_of_beq h]

/-- Things sorted by their paths, of which no two are the same, stand in strict order. -/
theorem mergeSort_ascending {α : Type} (key : α → Path) {items : List α}
    (nodup : (items.map fun a => (key a).parts).Nodup) :
    (items.mergeSort fun a b => !(key b).before (key a)).Pairwise
      fun a b => (key a).place < (key b).place := by
  refine Sorting.pairwise_lt_mergeSort (fun a => (key a).place) (fun a b => ?_) ?_
  · rw [Bool.not_eq_true', ← Bool.not_eq_true, before_iff, not_lt]
  · exact (List.pairwise_map.mp nodup).imp (mt fun same => Part.place_injective.list_map same)

/-! ## Entries -/

/-- The name can be that of an entry: it is one piece of a path and leads nowhere else. -/
structure IsEntryName (name : String) : Prop where
  nonempty : name ≠ ""
  not_current : name ≠ "."
  not_parent : name ≠ ".."
  no_slash : '/' ∉ name.toList

theorem cut_of_no_slash {cs : List Char} (no_slash : '/' ∉ cs) (piece : List Char) :
    cut piece cs = [String.ofList (piece.reverse ++ cs)] := by
  induction cs generalizing piece with
  | nil => simp [cut]
  | cons c cs ih =>
    obtain ⟨hc, hcs⟩ := not_or.mp (mt List.mem_cons.mpr no_slash)
    have hslash : (c == '/') = false := beq_eq_false_iff_ne.mpr (Ne.symm hc)
    rw [cut, hslash, if_neg Bool.false_ne_true, ih hcs]
    simp

/-- A slash ends a piece, and what follows it is cut by itself. -/
theorem cut_append_slash (piece cs ds : List Char) :
    cut piece (cs ++ '/' :: ds) = cut piece cs ++ cut [] ds := by
  induction cs generalizing piece with
  | nil => simp [cut]
  | cons c cs ih =>
    rw [List.cons_append, cut, cut]
    split
    · rw [ih, List.cons_append]
    · exact ih _

/-- The parts of a path follow from what stands at its front and from the pieces that count. -/
theorem parts_eq_append {p q : Path} {name : String} (entry : IsEntryName name)
    (absolute : q.isAbsolute = p.isAbsolute) (head : q.pieces.head? = p.pieces.head?)
    (pieces : q.pieces.filterMap Part.ofPiece =
      p.pieces.filterMap Part.ofPiece ++ [name].filterMap Part.ofPiece) :
    q.parts = p.parts ++ [.name name] := by
  have hname : [name].filterMap Part.ofPiece = [.name name] := by
    simp [Part.ofPiece, entry.nonempty, entry.not_current, entry.not_parent]
  unfold parts
  rw [absolute, head, pieces, hname]
  split
  · rfl
  · split <;> rfl

theorem ne_nil_of_cut (piece cs : List Char) : cut piece cs ≠ [] := by
  obtain ⟨s, rest, hcut, -⟩ := cut_eq_cons piece cs
  rw [hcut]
  exact List.cons_ne_nil s rest

/-- The path of an entry is cut where that of its folder is, but for an empty piece at the end. -/
theorem pieces_join {p : Path} (nonempty : p.text ≠ "") {name : String} (entry : IsEntryName name) :
    ∃ front, front ≠ [] ∧ (p.join name).pieces = front ++ [name] ∧
      (p.pieces = front ∨ p.pieces = front ++ [""]) := by
  have hcut : cut [] name.toList = [name] := by
    rw [cut_of_no_slash entry.no_slash, List.reverse_nil, List.nil_append, String.ofList_toList]
  unfold join
  rw [if_neg (by simpa using nonempty)]
  split
  · next hslash =>
    -- The text of the folder ends in a slash.
    rw [beq_iff_eq, List.getLast?_eq_some_iff] at hslash
    obtain ⟨front, hfront⟩ := hslash
    refine ⟨cut [] front, ne_nil_of_cut _ _, ?_, .inr ?_⟩
    · rw [pieces, String.toList_append, hfront, List.append_assoc, List.singleton_append,
        cut_append_slash, hcut]
    · rw [pieces, hfront, cut_append_slash]
      rfl
  · refine ⟨p.pieces, ne_nil_of_cut _ _, ?_, .inl rfl⟩
    have hslash : "/".toList = ['/'] := rfl
    rw [pieces, String.toList_append, String.toList_append, hslash, List.append_assoc,
      List.singleton_append, cut_append_slash, hcut, pieces]

theorem isAbsolute_join {p : Path} (nonempty : p.text ≠ "") (name : String) :
    (p.join name).isAbsolute = p.isAbsolute := by
  have hchars : p.text.toList ≠ [] := fun h => nonempty (by simpa using h)
  have hhead : ∀ cs : List Char, (p.text.toList ++ cs).head? = p.text.toList.head? :=
    fun cs => List.head?_append_of_ne_nil _ hchars
  unfold join
  rw [if_neg (by simpa using nonempty)]
  split
  · rw [isAbsolute, isAbsolute, String.toList_append, hhead]
  · rw [isAbsolute, isAbsolute, String.toList_append, String.toList_append, List.append_assoc, hhead]

theorem parts_join (p : Path) {name : String} (entry : IsEntryName name) :
    (p.join name).parts = p.parts ++ [.name name] := by
  by_cases hempty : p.text = ""
  · -- The path of no text has no parts.
    obtain rfl : p = ⟨""⟩ := by
      rw [← hempty]
    have hrelative : (⟨name⟩ : Path).isAbsolute = false := by
      rw [isAbsolute, beq_eq_false_iff_ne, ne_eq]
      exact fun h => entry.no_slash (List.mem_of_mem_head? h)
    have hpieces : (⟨name⟩ : Path).pieces = [name] := by
      rw [pieces, cut_of_no_slash entry.no_slash, List.reverse_nil, List.nil_append,
        String.ofList_toList]
    have hnone : (⟨""⟩ : Path).parts = [] := (text_eq_empty_iff _).mp rfl
    have hjoin : (⟨""⟩ : Path).join name = ⟨name⟩ := rfl
    rw [hnone, hjoin]
    simp [parts, hrelative, hpieces, Part.ofPiece, entry.nonempty, entry.not_current,
      entry.not_parent]
  · obtain ⟨front, hfront, hjoin, hpieces⟩ := pieces_join hempty entry
    refine parts_eq_append entry (isAbsolute_join hempty name) ?_ ?_
    · rw [hjoin, List.head?_append_of_ne_nil _ hfront]
      rcases hpieces with hpieces | hpieces
      · rw [hpieces]
      · rw [hpieces, List.head?_append_of_ne_nil _ hfront]
    · rw [hjoin, List.filterMap_append]
      rcases hpieces with hpieces | hpieces
      · rw [hpieces]
      · rw [hpieces, List.filterMap_append, List.append_assoc]
        rfl

/-- The path of what a row of names leads to, from the folder `p`. -/
def below (p : Path) (names : List String) : Path := names.foldl join p

theorem parts_below (p : Path) {names : List String} (entries : ∀ name ∈ names, IsEntryName name) :
    (p.below names).parts = p.parts ++ names.map .name := by
  induction names generalizing p with
  | nil => exact (List.append_nil _).symm
  | cons name rest ih =>
    obtain ⟨hname, hrest⟩ := List.forall_mem_cons.mp entries
    change ((p.join name).below rest).parts = _
    rw [ih (p.join name) hrest, parts_join p hname, List.append_assoc]
    rfl

/-- The entries of a folder stand in the order of their names. -/
theorem before_join_iff (p : Path) {one other : String} (hone : IsEntryName one)
    (hother : IsEntryName other) :
    (p.join one).before (p.join other) = true ↔
      (Part.name one).place < (Part.name other).place := by
  rw [before_iff, place, place, parts_join p hone, parts_join p hother, List.map_append,
    List.map_append]
  induction p.parts with
  | nil => simp [List.cons_lt_cons_iff]
  | cons part rest ih =>
    rw [List.map_cons, List.cons_append, List.cons_append, List.cons_lt_cons_iff]
    simpa using ih

/-- Whatever lies below an entry comes before whatever lies below a later one. -/
theorem place_lt_of_prefix {p a b f g : Path} {one other : String}
    (ha : a.parts = p.parts ++ [.name one]) (hb : b.parts = p.parts ++ [.name other])
    (before : a.place < b.place) (hf : a.parts <+: f.parts) (hg : b.parts <+: g.parts) :
    f.place < g.place := by
  obtain ⟨as, hf⟩ := hf
  obtain ⟨bs, hg⟩ := hg
  unfold place at before ⊢
  rw [ha, hb] at before
  rw [← hf, ← hg, ha, hb]
  generalize p.parts = front at before ⊢
  induction front with
  | nil =>
    simp only [List.nil_append, List.map_cons, List.map_nil, List.cons_lt_cons_iff,
      List.cons_append] at before ⊢
    rcases before with h | ⟨-, h⟩
    · exact .inl h
    · exact absurd h (lt_irrefl _)
  | cons part front ih =>
    simp only [List.cons_append, List.map_cons, List.cons_lt_cons_iff, lt_irrefl, true_and,
      false_or] at before ⊢
    exact ih before

/-! ## Extensions -/

/-- A row is cut at the first `a` in it. -/
theorem takeWhile_dropWhile_ne_iff {α : Type} [DecidableEq α] {as front rest : List α} {a : α} :
    (as.takeWhile (· != a) = front ∧ as.dropWhile (· != a) = a :: rest) ↔
      a ∉ front ∧ as = front ++ a :: rest := by
  constructor
  · rintro ⟨rfl, hrest⟩
    refine ⟨fun hmem => ?_, ?_⟩
    · have hne := List.mem_takeWhile_imp hmem
      exact bne_iff_ne.mp hne rfl
    · rw [← hrest, List.takeWhile_append_dropWhile]
  · rintro ⟨hnone, rfl⟩
    have hfront : ∀ b ∈ front, (b != a) = true := by
      intro b hb
      exact bne_iff_ne.mpr fun h => hnone (h ▸ hb)
    rw [List.takeWhile_append_of_pos hfront, List.dropWhile_append_of_pos hfront]
    simp

/-- A name with an extension is cut at its last dot, and something stands before that. -/
theorem splitName_eq_some_iff {name stem ext : String} :
    splitName name = (stem, some ext) ↔
      stem ≠ "" ∧ '.' ∉ ext.toList ∧ name = stem ++ "." ++ ext := by
  have hname : name.toList.reverse = ext.toList.reverse ++ '.' :: stem.toList.reverse ↔
      name = stem ++ "." ++ ext := by
    rw [← List.reverse_inj, ← String.toList_inj]
    simp
  -- The last dot is the first one from behind.
  rw [← hname, ← List.mem_reverse, ← takeWhile_dropWhile_ne_iff]
  unfold splitName
  dsimp only
  have hdot := List.head?_dropWhile_not (fun c => c != '.') name.toList.reverse
  cases hback : name.toList.reverse.dropWhile fun c => c != '.' with
  | nil => simp
  | cons d front =>
    obtain rfl : d = '.' := by simpa [hback] using hdot
    have hstem : String.ofList front.reverse = stem ↔ front = stem.toList.reverse := by
      rw [← String.toList_inj, String.toList_ofList, List.reverse_eq_iff]
    have hext (cs : List Char) : String.ofList cs.reverse = ext ↔ cs = ext.toList.reverse := by
      rw [← String.toList_inj, String.toList_ofList, List.reverse_eq_iff]
    rw [List.drop_one, List.tail_cons]
    split
    · next hfront =>
      obtain rfl := List.isEmpty_iff.mp hfront
      simpa using fun hne _ => hne
    · next hfront =>
      rw [Prod.mk.injEq, Option.some.injEq, hstem, hext, List.cons.injEq]
      constructor
      · rintro ⟨rfl, htake⟩
        exact ⟨fun hempty => hfront (by simp [hempty]), htake, rfl, rfl⟩
      · rintro ⟨-, htake, -, rfl⟩
        exact ⟨rfl, htake⟩

end VesselWatch.Path
