/-
  Proofs/Text/Blank.lean --- what trimming takes away, and where a text is cut.

  Trimming takes away the blanks around a text and nothing else.  What is left is solid, without a
  blank at either end, and it is the only solid text of which the whole is a padded form.  So to
  read a text when it is trimmed is to read all padded forms of what is read (`of_trim_iff`).

  Of several separators a text is cut at the first one: there is none in front of the cut
  (`splitOnce_eq_some_iff`).
-/
import VesselWatch.Text.Blank

set_option autoImplicit false

namespace VesselWatch.Text

theorem isBlank_eq_false_of_isDigit {c : Char} (digit : c.isDigit = true) : isBlank c = false := by
  simp only [Char.isDigit, Bool.and_eq_true, decide_eq_true_eq] at digit
  have hlow : 48 ≤ c.toNat := digit.1
  have hhigh : c.toNat ≤ 57 := digit.2
  simp [isBlank]
  omega

/-! ## Blanks around a text -/

/-- Nothing but blanks. -/
def Blanks (cs : List Char) : Prop := ∀ c ∈ cs, isBlank c = true

/-- The text has no blank at its beginning and none at its end. -/
def Solid (cs : List Char) : Prop :=
  (∀ c ∈ cs.head?, isBlank c = false) ∧ ∀ c ∈ cs.getLast?, isBlank c = false

/-- A text with blanks around it. -/
def Padded (text padded : List Char) : Prop :=
  ∃ front back, Blanks front ∧ Blanks back ∧ padded = front ++ text ++ back

theorem solid_of_forall {cs : List Char} (graphic : ∀ c ∈ cs, isBlank c = false) : Solid cs :=
  ⟨fun c hc => graphic c (List.mem_of_mem_head? hc),
    fun c hc => graphic c (List.mem_of_mem_getLast? hc)⟩

theorem padded_self (cs : List Char) : Padded cs cs :=
  ⟨[], [], List.forall_mem_nil _, List.forall_mem_nil _, (List.append_nil _).symm⟩

theorem trimStart_cons {c : Char} (graphic : isBlank c = false) (rest : List Char) :
    trimStart (c :: rest) = c :: rest := List.dropWhile_cons_of_neg (by simp [graphic])

theorem trimStart_of_solid {cs : List Char} (solid : Solid cs) : trimStart cs = cs := by
  cases cs with
  | nil => rfl
  | cons c rest => exact trimStart_cons (solid.1 c rfl) rest

theorem trimEnd_of_solid {cs : List Char} (solid : Solid cs) : trimEnd cs = cs := by
  have hreverse : Solid cs.reverse := by
    obtain ⟨hfirst, hlast⟩ := solid
    exact ⟨by rwa [List.head?_reverse], by rwa [List.getLast?_reverse]⟩
  have htrim := trimStart_of_solid hreverse
  unfold trimStart at htrim
  rw [trimEnd, htrim, List.reverse_reverse]

theorem trimStart_append_of_blanks {front : List Char} (blanks : Blanks front) (cs : List Char) :
    trimStart (front ++ cs) = trimStart cs := List.dropWhile_append_of_pos blanks

theorem trimEnd_append_of_blanks {back : List Char} (blanks : Blanks back) (cs : List Char) :
    trimEnd (cs ++ back) = trimEnd cs := by
  have hreverse : ∀ c ∈ back.reverse, isBlank c = true := fun c hc =>
    blanks c (List.mem_reverse.mp hc)
  rw [trimEnd, List.reverse_append, List.dropWhile_append_of_pos hreverse, trimEnd]

theorem exists_append_trimStart (cs : List Char) :
    ∃ front, Blanks front ∧ cs = front ++ trimStart cs :=
  ⟨cs.takeWhile isBlank, List.all_eq_true.mp List.all_takeWhile,
    List.takeWhile_append_dropWhile.symm⟩

theorem exists_trimEnd_append (cs : List Char) :
    ∃ back, Blanks back ∧ cs = trimEnd cs ++ back := by
  obtain ⟨front, hblanks, hsplit⟩ := exists_append_trimStart cs.reverse
  refine ⟨front.reverse, fun c hc => hblanks c (List.mem_reverse.mp hc), ?_⟩
  rw [trimEnd, ← List.reverse_append]
  exact List.reverse_eq_iff.mp hsplit

theorem padded_trim (cs : List Char) : Padded (trim cs) cs := by
  obtain ⟨front, hfront, hstart⟩ := exists_append_trimStart cs
  obtain ⟨back, hback, hend⟩ := exists_trimEnd_append (trimStart cs)
  refine ⟨front, back, hfront, hback, ?_⟩
  rw [trim, List.append_assoc, ← hend]
  exact hstart

theorem head?_trimStart {cs : List Char} {c : Char} (first : c ∈ (trimStart cs).head?) :
    isBlank c = false := by
  have hfirst := List.head?_dropWhile_not isBlank cs
  rw [show (cs.dropWhile isBlank).head? = some c from first] at hfirst
  simpa using hfirst

theorem solid_trim (cs : List Char) : Solid (trim cs) := by
  have hlast : ∀ c ∈ (trim cs).getLast?, isBlank c = false := by
    intro c hc
    rw [trim, trimEnd, List.getLast?_reverse] at hc
    exact head?_trimStart hc
  refine ⟨fun c hc => ?_, hlast⟩
  -- Where something is left at the end, the beginning is what the first cut left there.
  obtain ⟨back, -, hsplit⟩ := exists_trimEnd_append (trimStart cs)
  have hfirst : (trimStart cs).head? = some c := by
    rw [hsplit, List.head?_append]
    rw [trim] at hc
    rw [Option.mem_def.mp hc]
    rfl
  exact head?_trimStart hfirst

theorem trim_of_padded {text cs : List Char} (solid : Solid text) (padded : Padded text cs) :
    trim cs = text := by
  obtain ⟨front, back, hfront, hback, rfl⟩ := padded
  rw [trim, List.append_assoc, trimStart_append_of_blanks hfront]
  cases text with
  | nil =>
    have hnothing : trimStart back = [] := by
      rw [← List.append_nil back, trimStart_append_of_blanks hback]
      rfl
    rw [List.nil_append, hnothing]
    rfl
  | cons c rest =>
    rw [List.cons_append, trimStart_cons (solid.1 c rfl), ← List.cons_append,
      trimEnd_append_of_blanks hback, trimEnd_of_solid solid]

/-- What is only true of solid texts is true of a trimmed text just if the text is a padded form of
one of them. -/
theorem of_trim_iff {P : List Char → Prop} (solid : ∀ text, P text → Solid text) (cs : List Char) :
    P (trim cs) ↔ ∃ text, Padded text cs ∧ P text := by
  constructor
  · intro h
    exact ⟨trim cs, padded_trim cs, h⟩
  · rintro ⟨text, padded, h⟩
    rwa [trim_of_padded (solid text h) padded]

theorem mem_trim_of_not_isBlank {c : Char} {cs : List Char} (member : c ∈ cs)
    (graphic : isBlank c = false) : c ∈ trim cs := by
  obtain ⟨front, back, hfront, hback, hsplit⟩ := padded_trim cs
  rw [hsplit, List.mem_append, List.mem_append] at member
  rcases member with (hmem | hmem) | hmem
  · rw [hfront c hmem] at graphic
    cases graphic
  · exact hmem
  · rw [hback c hmem] at graphic
    cases graphic

/-! ## Cutting at a separator -/

theorem splitOnce_eq_some_iff {sep : Char} {cs before after : List Char} :
    splitOnce sep cs = some (before, after) ↔ cs = before ++ sep :: after ∧ sep ∉ before := by
  induction cs generalizing before after with
  | nil => simp [splitOnce]
  | cons c rest ih =>
    unfold splitOnce
    by_cases hsep : c = sep
    · subst hsep
      rw [if_pos (beq_self_eq_true c), Option.some.injEq, Prod.mk.injEq]
      constructor
      · rintro ⟨rfl, rfl⟩
        exact ⟨rfl, List.not_mem_nil⟩
      · rintro ⟨hsplit, hbefore⟩
        cases before with
        | nil => exact ⟨rfl, (List.cons.inj hsplit).2⟩
        | cons b before => exact absurd (List.mem_cons.mpr (.inl (List.cons.inj hsplit).1)) hbefore
    · rw [if_neg (by simpa using hsep)]
      simp only [Option.map_eq_some_iff, Prod.exists, Prod.mk.injEq, ih]
      constructor
      · rintro ⟨front, back, ⟨rfl, hfront⟩, rfl, rfl⟩
        exact ⟨rfl, fun hmem => (List.mem_cons.mp hmem).elim (Ne.symm hsep) hfront⟩
      · rintro ⟨hsplit, hbefore⟩
        cases before with
        | nil => exact absurd (List.cons.inj hsplit).1 hsep
        | cons b before =>
          obtain ⟨rfl, rfl⟩ := List.cons.inj hsplit
          exact ⟨before, after, ⟨rfl, fun hmem => hbefore (List.mem_cons_of_mem _ hmem)⟩, rfl, rfl⟩

end VesselWatch.Text
