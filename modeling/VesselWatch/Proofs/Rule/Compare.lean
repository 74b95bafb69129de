/-
  Proofs/Rule/Compare.lean --- equal, different, or neither.

  Texts are equal or different, without regard to letter case.  Numbers are equal if they are less
  than the tolerance apart and different if they are more than it apart; they can be neither
  (`numbers_neither_iff`).  That is so where they are exactly the tolerance apart, and where nothing
  can be said about it: one of them is no number, or both are the same infinity.  Words such as
  `nan` and `inf` are read as such numbers, also where they are names.
-/
import Mathlib
import VesselWatch.Proofs.Decimal.Difference
import VesselWatch.Rule.Compare

set_option autoImplicit false

namespace VesselWatch

open Decimal

/-! ## Numbers -/

namespace CompareOp

variable {a b : Float}

/-- The two numbers cannot be told to be equal or different. -/
def Undecided (a b : Float) : Prop :=
  a.isNaN = true ∨ b.isNaN = true ∨ (a.isInf = true ∧ (a == b) = true) ∨
    ((a - b).abs == tolerance) = true

theorem numbers_equal_iff : numbers .equal a b = true ↔ (a - b).abs < tolerance :=
  decide_eq_true_iff

theorem numbers_different_iff : numbers .different a b = true ↔ (a - b).abs > tolerance :=
  decide_eq_true_iff

theorem not_different_of_equal (equal : numbers .equal a b = true) :
    numbers .different a b = false := by
  rw [← Bool.not_eq_true, numbers_different_iff]
  exact fun greater => not_lt_of_gt greater (numbers_equal_iff.mp equal)

theorem numbers_neither_iff :
    (numbers .equal a b = false ∧ numbers .different a b = false) ↔ Undecided a b := by
  have hnumber : tolerance.isNaN = false := by decide
  rw [← Bool.not_eq_true, ← Bool.not_eq_true, numbers_equal_iff, numbers_different_iff,
    not_lt_and_not_gt_iff hnumber, isNaN_abs, isNaN_sub_iff, or_assoc, or_assoc]
  rfl

end CompareOp

/-! ## Fields -/

namespace ValueTest

open VesselEvent

/-- The texts are read as numbers that cannot be told to be equal or different. -/
def UndecidedTexts (actual expected : String) : Prop :=
  ∃ a b, number? actual = some a ∧ number? expected = some b ∧ CompareOp.Undecided a b

variable {e : VesselEvent} {field actual expected : String} {literal : Json}

/-- Both texts can be read as numbers. -/
def BothNumbers (actual expected : String) : Prop :=
  ∃ a b, number? actual = some a ∧ number? expected = some b

theorem holds_of_numbers (op : CompareOp) (resolves : e.fieldText field = some actual)
    (writes : valueText literal = some expected) {a b : Float} (ha : number? actual = some a)
    (hb : number? expected = some b) : holds ⟨field, op, literal⟩ e = op.numbers a b := by
  simp only [holds, resolves, writes, ha, hb]

theorem holds_of_texts (op : CompareOp) (resolves : e.fieldText field = some actual)
    (writes : valueText literal = some expected) (word : ¬ BothNumbers actual expected) :
    holds ⟨field, op, literal⟩ e = op.texts actual expected := by
  cases ha : number? actual with
  | none => simp only [holds, resolves, writes, ha]
  | some a =>
    cases hb : number? expected with
    | none => simp only [holds, resolves, writes, ha, hb]
    | some b => exact absurd ⟨a, b, ha, hb⟩ word

/-- Whatever the texts are, the field is not both equal to the literal and different from it, and it
is neither just if the texts are numbers that cannot be told. -/
theorem equal_and_different_cases (resolves : e.fieldText field = some actual)
    (writes : valueText literal = some expected) :
    let equal := holds ⟨field, .equal, literal⟩ e
    let different := holds ⟨field, .different, literal⟩ e
    (equal = true → different = false) ∧
      ((equal = false ∧ different = false) ↔ UndecidedTexts actual expected) := by
  intro equal different
  by_cases both : BothNumbers actual expected
  · obtain ⟨a, b, ha, hb⟩ := both
    have hequal : equal = _ := holds_of_numbers .equal resolves writes ha hb
    have hdifferent : different = _ := holds_of_numbers .different resolves writes ha hb
    rw [hequal, hdifferent]
    refine ⟨CompareOp.not_different_of_equal, CompareOp.numbers_neither_iff.trans ?_⟩
    simp [UndecidedTexts, ha, hb]
  · -- As texts they are one or the other.
    have hequal : equal = _ := holds_of_texts .equal resolves writes both
    have hdifferent : different = !equal := by
      rw [hequal]
      exact holds_of_texts .different resolves writes both
    rw [hdifferent]
    refine ⟨fun h => by rw [h, Bool.not_true], iff_of_false ?_ ?_⟩
    · cases equal <;> decide
    · rintro ⟨a, b, ha, hb, -⟩
      exact both ⟨a, b, ha, hb⟩

/-- A field that has a text is different from a literal just if it is not equal to it, unless both
texts are numbers that cannot be told; then it is neither. -/
theorem different_iff_not_equal_iff (e : VesselEvent) (field : String) (literal : Json)
    (actual : String) (resolves : e.fieldText field = some actual) (given : literal ≠ .null) :
    let equal := holds ⟨field, .equal, literal⟩ e
    let different := holds ⟨field, .different, literal⟩ e
    ∃ expected, valueText literal = some expected ∧
      ((different = true ↔ equal = false) ↔ ¬ UndecidedTexts actual expected) ∧
      (UndecidedTexts actual expected → equal = false ∧ different = false) := by
  intro equal different
  obtain ⟨expected, writes⟩ := exists_valueText given
  obtain ⟨hnotBoth, hneither⟩ := equal_and_different_cases resolves writes
  refine ⟨expected, writes, ?_, hneither.mpr⟩
  rw [← hneither]
  cases hequal : equal <;> cases hdifferent : different <;> simp_all [equal, different]

/-- A report with a draught of a millionth, and with a status that is also read as a number. -/
def faint : VesselEvent :=
  { (default : VesselEvent) with
    attributes := [("Draught", .text "0.000001"), ("Status", .text "NaN")] }

/-- The draught is neither equal to zero nor different from it.  The status is different from
another word, but neither equal to the word that it is nor different from that. -/
theorem different_iff_not_equal_iff_faint :
    faint.fieldText "Draught" = some "0.000001" ∧ UndecidedTexts "0.000001" "0" ∧
    holds ⟨"Draught", .equal, .number (.int 0)⟩ faint = false ∧
    holds ⟨"Draught", .different, .number (.int 0)⟩ faint = false ∧
    faint.fieldText "Status" = some "NaN" ∧ ¬ UndecidedTexts "NaN" "moored" ∧
    (holds ⟨"Status", .different, .text "moored"⟩ faint = true ↔
      holds ⟨"Status", .equal, .text "moored"⟩ faint = false) ∧
    UndecidedTexts "NaN" "NaN" ∧ holds ⟨"Status", .different, .text "NaN"⟩ faint = false := by
  have hdraught : UndecidedTexts "0.000001" "0" :=
    ⟨0.000001, 0, by decide, by decide, .inr (.inr (.inr (by decide)))⟩
  have hword : ¬ UndecidedTexts "NaN" "moored" := by
    have hmoored : number? "moored" = none := by decide
    rintro ⟨a, b, -, hb, -⟩
    exact Option.some_ne_none b (hb.symm.trans hmoored)
  have hnan : UndecidedTexts "NaN" "NaN" := ⟨0 / 0, 0 / 0, by decide, by decide, .inl (by decide)⟩
  obtain ⟨_, hzero, -, hneither⟩ :=
    different_iff_not_equal_iff faint "Draught" (.number (.int 0)) _ rfl Json.noConfusion
  obtain ⟨_, hmoored, hiff, -⟩ :=
    different_iff_not_equal_iff faint "Status" (.text "moored") _ rfl Json.noConfusion
  obtain ⟨_, hsame, -, hneither'⟩ :=
    different_iff_not_equal_iff faint "Status" (.text "NaN") _ rfl Json.noConfusion
  cases hzero
  cases hmoored
  cases hsame
  have hdraught' := hneither hdraught
  exact ⟨rfl, hdraught, hdraught'.1, hdraught'.2, rfl, hword, hiff.mpr hword, hnan,
    (hneither' hnan).2⟩

/-- Not every field that has a text is different from a literal just if it is not equal to it: the
draught is not, compared with zero, nor is the status, compared with the word that it is. -/
theorem neither_equal_nor_different :
    holds ⟨"Draught", .equal, .number (.int 0)⟩ faint = false ∧
    holds ⟨"Draught", .different, .number (.int 0)⟩ faint = false ∧
    holds ⟨"Status", .equal, .text "NaN"⟩ faint = false ∧
    holds ⟨"Status", .different, .text "NaN"⟩ faint = false ∧
    ¬ ∀ (e : VesselEvent) (field : String) (literal : Json) (actual : String),
      e.fieldText field = some actual → literal ≠ .null →
        (holds ⟨field, .different, literal⟩ e = true ↔
          holds ⟨field, .equal, literal⟩ e = false) := by
  have hequal : holds ⟨"Draught", .equal, .number (.int 0)⟩ faint = false := by decide
  have hdifferent : holds ⟨"Draught", .different, .number (.int 0)⟩ faint = false := by decide
  refine ⟨hequal, hdifferent, by decide, by decide, fun contrary => ?_⟩
  have hiff := contrary faint "Draught" (.number (.int 0)) _ rfl Json.noConfusion
  rw [hequal, hdifferent] at hiff
  exact Bool.false_ne_true (hiff.mpr rfl)

end ValueTest

end VesselWatch
