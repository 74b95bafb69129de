/-
  Proofs/Decimal/Numeral.lean --- which texts are integers.

  An unsigned integer is a row of digits, in front of which there may be a plus sign, and it is the
  number that the digits stand for in base ten, zeros in front included (`readNat_eq_some_iff`).  A
  signed one may have a minus sign there instead (`readInt_eq_some_iff`).  Readers of numbers of
  limited size read the same texts, as far as the number is small enough.

  The digits in which a number is written read back as that number (`unsigned_natDigits`), so no two
  numbers are written alike.
-/
import Mathlib.Data.List.Induction
import Mathlib.Data.Nat.Digits.Defs
import VesselWatch.Decimal.Numeral
import VesselWatch.Decimal.Shortest
import VesselWatch.Proofs.Text.Blank

set_option autoImplicit false

namespace VesselWatch.Decimal

/-! ## Rows of digits -/

/-- One or more digits, which stand for a number in base ten. -/
structure IsRun (digits : List Char) (n : Nat) : Prop where
  ne_nil : digits ≠ []
  digit : ∀ c ∈ digits, c.isDigit = true
  value : Nat.ofDigits 10 (digits.reverse.map digitValue) = n

/-- Digits, with or without a plus sign in front of them. -/
def Unsigned (cs : List Char) (n : Nat) : Prop :=
  ∃ digits, (cs = digits ∨ cs = '+' :: digits) ∧ IsRun digits n

/-- Digits, with or without a sign in front of them. -/
def Signed (cs : List Char) (n : Int) : Prop :=
  (∃ m, Unsigned cs m ∧ n = m) ∨ ∃ digits m, cs = '-' :: digits ∧ IsRun digits m ∧ n = -(m : Int)

theorem digitsValue_eq (digits : List Char) :
    digitsValue digits = Nat.ofDigits 10 (digits.reverse.map digitValue) := by
  unfold digitsValue
  induction digits using List.reverseRecOn with
  | nil => rfl
  | append_singleton digits c ih =>
    rw [List.foldl_append, ih, List.reverse_append]
    exact Nat.add_comm _ _

theorem allDigits_iff {digits : List Char} :
    allDigits digits = true ↔ digits ≠ [] ∧ ∀ c ∈ digits, c.isDigit = true := by
  simp [allDigits]

theorem isRun_iff {digits : List Char} {n : Nat} :
    IsRun digits n ↔ allDigits digits = true ∧ digitsValue digits = n := by
  rw [allDigits_iff, digitsValue_eq]
  exact ⟨fun h => ⟨⟨h.ne_nil, h.digit⟩, h.value⟩, fun h => ⟨h.1.1, h.1.2, h.2⟩⟩

/-- No sign stands in front of digits. -/
theorem IsRun.ne_cons {digits rest : List Char} {n : Nat} (run : IsRun digits n) {c : Char}
    (other : c.isDigit = false) : digits ≠ c :: rest := by
  rintro rfl
  exact Bool.false_ne_true (other.symm.trans (run.digit c List.mem_cons_self))

/-! ## Reading -/

theorem readNat_eq_some_iff {cs : List Char} {n : Nat} :
    readNat cs = some n ↔ Unsigned cs n := by
  have hread (digits : List Char) :
      (if allDigits digits then some (digitsValue digits) else none) = some n ↔ IsRun digits n := by
    rw [isRun_iff]
    simp
  unfold readNat Unsigned
  split
  · next digits =>
    rw [hread]
    constructor
    · intro run
      exact ⟨digits, .inr rfl, run⟩
    · rintro ⟨digits', rfl | hcs, run⟩
      · exact absurd rfl (run.ne_cons rfl)
      · exact (List.cons.inj hcs).2 ▸ run
  · next hplus =>
    rw [hread]
    constructor
    · intro run
      exact ⟨cs, .inl rfl, run⟩
    · rintro ⟨digits, rfl | hcs, run⟩
      · exact run
      · exact absurd hcs (hplus digits)

theorem readBelow_eq_some_iff {bound : Nat} {cs : List Char} {n : Nat} :
    readBelow bound cs = some n ↔ Unsigned cs n ∧ n < bound := by
  rw [readBelow, Option.filter_eq_some_iff, readNat_eq_some_iff, decide_eq_true_iff]

theorem readInt_eq_some_iff {cs : List Char} {n : Int} : readInt cs = some n ↔ Signed cs n := by
  unfold readInt Signed
  split
  · next digits =>
    have hunsigned : ∀ m, ¬ Unsigned ('-' :: digits) m := by
      rintro m ⟨digits', rfl | hcs, run⟩
      · exact run.ne_cons rfl rfl
      · exact absurd (List.cons.inj hcs).1 (by decide)
    constructor
    · intro read
      obtain ⟨hdigits, hvalue⟩ := Option.ite_none_right_eq_some.mp read
      exact .inr ⟨digits, _, rfl, isRun_iff.mpr ⟨hdigits, rfl⟩, (Option.some.inj hvalue).symm⟩
    · rintro (⟨m, hm, -⟩ | ⟨digits', m, hcs, run, rfl⟩)
      · exact absurd hm (hunsigned m)
      · obtain ⟨hdigits, rfl⟩ := isRun_iff.mp ((List.cons.inj hcs).2 ▸ run)
        exact if_pos hdigits
  · next hminus =>
    simp only [Option.map_eq_some_iff, readNat_eq_some_iff]
    constructor
    · rintro ⟨m, hm, rfl⟩
      exact .inl ⟨m, hm, rfl⟩
    · rintro (⟨m, hm, rfl⟩ | ⟨digits, m, hcs, -⟩)
      · exact ⟨m, hm, rfl⟩
      · exact absurd hcs (hminus digits)

theorem readInt32_eq_some_iff {cs : List Char} {n : Int} :
    readInt32 cs = some n ↔ Signed cs n ∧ leastInt32 ≤ n ∧ n ≤ greatestInt32 := by
  rw [readInt32, Option.filter_eq_some_iff, readInt_eq_some_iff]
  simp

/-! ## Characters -/

/-- Each character of an unsigned integer is a digit or a plus sign. -/
theorem Unsigned.mem {cs : List Char} {n : Nat} (unsigned : Unsigned cs n) {c : Char}
    (member : c ∈ cs) : c.isDigit = true ∨ c = '+' := by
  obtain ⟨digits, rfl | rfl, run⟩ := unsigned
  · exact .inl (run.digit c member)
  · exact (List.mem_cons.mp member).symm.imp_left (run.digit c)

theorem Unsigned.solid {cs : List Char} {n : Nat} (unsigned : Unsigned cs n) : Text.Solid cs := by
  refine Text.solid_of_forall fun c hc => ?_
  rcases unsigned.mem hc with digit | rfl
  · exact Text.isBlank_eq_false_of_isDigit digit
  · rfl

theorem Signed.solid {cs : List Char} {n : Int} (signed : Signed cs n) : Text.Solid cs := by
  obtain ⟨m, unsigned, -⟩ | ⟨digits, m, rfl, run, -⟩ := signed
  · exact unsigned.solid
  · refine Text.solid_of_forall fun c hc => ?_
    rcases List.mem_cons.mp hc with rfl | hdigit
    · rfl
    · exact Text.isBlank_eq_false_of_isDigit (run.digit c hdigit)

/-! ## Writing -/

theorem isRun_natDigits (n : Nat) : IsRun (natDigits n) n := by
  refine isRun_iff.mpr ⟨allDigits_iff.mpr ⟨Nat.toDigits_ne_nil, fun c hc => ?_⟩, ?_⟩
  · exact Nat.isDigit_of_mem_toDigits (by decide) (by decide) hc
  · exact Nat.ofDigitChars_ten_toDigits

theorem unsigned_natDigits (n : Nat) : Unsigned (natDigits n) n :=
  ⟨natDigits n, .inl rfl, isRun_natDigits n⟩

theorem natDigits_injective : Function.Injective natDigits := by
  intro m n same
  rw [← (isRun_natDigits m).value, same]
  exact (isRun_natDigits n).value

end VesselWatch.Decimal
