/-
  Proofs/Track/StateKey.lean --- the written forms of a state.

  A state has many written forms: blanks may stand around the whole and around either number, a
  plus sign and zeros in front of a number.  These are all there are, and every one of them is read
  as its state (`parse?_eq_some_iff`).  The form that is written has none of the extras; it is one
  of the forms of its state and of no other (`render_injective`).

  The reader cuts at the first comma and at the parentheses on the outside.  It finds no others in a
  written form, as there are only digits, a plus sign and blanks in between.
-/
import VesselWatch.Proofs.Decimal.Numeral
import VesselWatch.Track.StateKey

set_option autoImplicit false

namespace VesselWatch.Track.StateKey

open Text Decimal

variable {raw : List Char} {k : StateKey}

/-- The text is a written form of the state: the two numbers in parentheses with a comma between
them, and blanks around the whole and around either number. -/
def Spells (raw : List Char) (k : StateKey) : Prop :=
  ∃ first second cell bin,
    Padded ('(' :: (first ++ ',' :: (second ++ [')']))) raw ∧
    Padded cell first ∧ Unsigned cell k.cell ∧ k.cell < 2 ^ 64 ∧
    Padded bin second ∧ Unsigned bin k.bin ∧ k.bin < 6

/-! ## Reading -/

theorem unwrap_eq_some_iff {cs inner : List Char} :
    unwrap cs = some inner ↔ cs = '(' :: (inner ++ [')']) := by
  unfold unwrap
  split
  · next rest =>
    rw [Option.ite_none_right_eq_some, beq_iff_eq, List.getLast?_eq_some_iff]
    constructor
    · rintro ⟨⟨front, rfl⟩, hinner⟩
      rw [List.dropLast_concat, Option.some.injEq] at hinner
      rw [hinner]
    · intro hrest
      obtain rfl := (List.cons.inj hrest).2
      exact ⟨⟨inner, rfl⟩, congrArg some List.dropLast_concat⟩
  · next hopen =>
    constructor
    · intro h
      cases h
    · intro hcs
      exact absurd hcs (hopen _)

/-- A number with blanks around it is read by a reader of unsigned integers. -/
theorem readBelow_trim_eq_some_iff {bound n : Nat} {cs : List Char} :
    readBelow bound (trim cs) = some n ↔
      ∃ number, Padded number cs ∧ Unsigned number n ∧ n < bound := by
  rw [readBelow_eq_some_iff]
  exact of_trim_iff (P := fun number => Unsigned number n ∧ n < bound) (fun _ h => h.1.solid) cs

theorem comma_notMem_of_padded {number cs : List Char} {n : Nat} (padded : Padded number cs)
    (hnumber : Unsigned number n) : ',' ∉ cs := by
  obtain ⟨front, back, hfront, hback, rfl⟩ := padded
  intro member
  rw [List.mem_append, List.mem_append] at member
  rcases member with (hmem | hmem) | hmem
  · exact absurd (hfront _ hmem) (by decide)
  · exact absurd (hnumber.mem hmem) (by decide)
  · exact absurd (hback _ hmem) (by decide)

theorem solid_wrapped (inner : List Char) : Solid ('(' :: (inner ++ [')'])) := by
  refine ⟨?_, ?_⟩
  · rintro c ⟨⟩
    rfl
  · rw [← List.cons_append, List.getLast?_concat]
    rintro c ⟨⟩
    rfl

theorem parse?_eq_some_iff : parse? raw = some k ↔ Spells raw k := by
  have hread : parse? raw = some k ↔ ∃ first second,
      trim raw = '(' :: (first ++ ',' :: (second ++ [')'])) ∧ ',' ∉ first ∧
        readWord (trim first) = some k.cell ∧
        readBelow sectorCount (trim second) = some k.bin := by
    unfold parse?
    simp only [bind, Option.bind_eq_some_iff, unwrap_eq_some_iff, Prod.exists,
      splitOnce_eq_some_iff, pure, Option.some.injEq]
    constructor
    · rintro ⟨_, htrim, first, second, ⟨rfl, hcomma⟩, cell, hcell, bin, hbin, rfl⟩
      exact ⟨first, second, by simpa using htrim, hcomma, hcell, hbin⟩
    · rintro ⟨first, second, htrim, hcomma, hcell, hbin⟩
      exact ⟨_, by simpa using htrim, first, second, ⟨rfl, hcomma⟩, _, hcell, _, hbin, rfl⟩
  rw [hread]
  constructor
  · rintro ⟨first, second, htrim, -, hcell, hbin⟩
    obtain ⟨cell, hfirst, hcell, hword⟩ := readBelow_trim_eq_some_iff.mp hcell
    obtain ⟨bin, hsecond, hbin, hsector⟩ := readBelow_trim_eq_some_iff.mp hbin
    exact ⟨first, second, cell, bin, htrim ▸ padded_trim raw, hfirst, hcell, hword, hsecond, hbin,
      hsector⟩
  · rintro ⟨first, second, cell, bin, hraw, hfirst, hcell, hword, hsecond, hbin, hsector⟩
    refine ⟨first, second, trim_of_padded ?_ hraw, comma_notMem_of_padded hfirst hcell, ?_, ?_⟩
    · simpa using solid_wrapped (first ++ ',' :: second)
    · exact readBelow_trim_eq_some_iff.mpr ⟨cell, hfirst, hcell, hword⟩
    · exact readBelow_trim_eq_some_iff.mpr ⟨bin, hsecond, hbin, hsector⟩

/-! ## Writing -/

theorem toList_render (k : StateKey) : k.render.toList =
    '(' :: (natDigits k.cell ++ ',' :: ((' ' :: natDigits k.bin) ++ [')'])) := by
  rw [render, String.toList_ofList]
  rfl

/-- The text that is written is a written form, if the numbers are not too large for one. -/
theorem spells_render (cell_lt : k.cell < 2 ^ 64) (bin_lt : k.bin < 6) :
    Spells k.render.toList k := by
  have hblank : Blanks [' '] := by
    rintro c (_ | ⟨_, ⟨⟩⟩)
    rfl
  refine ⟨natDigits k.cell, ' ' :: natDigits k.bin, natDigits k.cell, natDigits k.bin, ?_, ?_,
    unsigned_natDigits _, cell_lt, ?_, unsigned_natDigits _, bin_lt⟩
  · rw [toList_render]
    exact padded_self _
  · exact padded_self _
  · exact ⟨[' '], [], hblank, List.forall_mem_nil _, by simp⟩

theorem render_injective : Function.Injective render := by
  intro k k' same
  have htext := congrArg String.toList same
  rw [toList_render, toList_render, List.cons.injEq] at htext
  have hcut (k : StateKey) (rest : List Char) :
      splitOnce ',' (natDigits k.cell ++ ',' :: rest) = some (natDigits k.cell, rest) :=
    splitOnce_eq_some_iff.mpr
      ⟨rfl, comma_notMem_of_padded (padded_self _) (unsigned_natDigits k.cell)⟩
  have hparts := (hcut k _).symm.trans ((congrArg (splitOnce ',') htext.2).trans (hcut k' _))
  obtain ⟨hcell, hrest⟩ := Prod.mk.inj (Option.some.inj hparts)
  have hbin := (List.cons.inj (List.append_cancel_right hrest)).2
  cases k
  cases k'
  exact congrArg₂ mk (natDigits_injective hcell) (natDigits_injective hbin)

/-! ## Reading what was written -/

/-- A text is read as a state just if it is one of its written forms.  The text that is written for
a state is read as this state, and no other state has it; so a state that was read from any of its
forms is read back from what is written for it. -/
theorem reads_written_forms :
    (∀ (raw : String) (k : StateKey), parse? raw.toList = some k ↔ Spells raw.toList k) ∧
    (∀ k : StateKey, k.cell < 2 ^ 64 → k.bin < 6 → parse? k.render.toList = some k) ∧
    (∀ k k' : StateKey, k.render = k'.render → k = k') ∧
    ∀ (raw : String) (k : StateKey), parse? raw.toList = some k →
      parse? k.render.toList = some k := by
  have hwritten (k : StateKey) (cell_lt : k.cell < 2 ^ 64) (bin_lt : k.bin < 6) :
      parse? k.render.toList = some k := parse?_eq_some_iff.mpr (spells_render cell_lt bin_lt)
  refine ⟨fun _ _ => parse?_eq_some_iff, hwritten, fun _ _ same => render_injective same, ?_⟩
  intro raw k read
  obtain ⟨_, _, _, _, -, -, -, cell_lt, -, -, bin_lt⟩ := parse?_eq_some_iff.mp read
  exact hwritten k cell_lt bin_lt

/-- A form with all the extras, and the text of the greatest state. -/
theorem reads_written_forms_extras :
    let raw := " (\t+007 ,3\u2003)\n"
    let greatest : StateKey := ⟨18446744073709551615, 5⟩
    parse? raw.toList = some ⟨7, 3⟩ ∧ Spells raw.toList ⟨7, 3⟩ ∧
    parse? (render ⟨7, 3⟩).toList = some ⟨7, 3⟩ ∧
    greatest.cell < 2 ^ 64 ∧ parse? greatest.render.toList = some greatest := by
  intro raw greatest
  obtain ⟨hspells, hwritten, -, hread⟩ := reads_written_forms
  have read : parse? raw.toList = some ⟨7, 3⟩ := by decide
  have small : greatest.cell < 2 ^ 64 := by decide
  exact ⟨read, (hspells raw _).mp read, hread raw _ read, small,
    hwritten greatest small (by decide)⟩

end VesselWatch.Track.StateKey
