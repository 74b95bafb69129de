/-
  Proofs/Uuid.lean --- an identifier reads back from its text.

  Of the forms that are read, only the one with hyphens can begin with a hexadecimal digit and
  not have thirty-two characters, so the reader tells the written form from the others
  (`digits?_chars`).  Its groups are then joined again (`joinGroups?_hyphenated`), and the digits
  make the number that they came from (`hexNumber?_hexDigits`).
-/
import Mathlib.Algebra.GroupWithZero.Nat
import VesselWatch.Uuid
import VesselWatch.Proofs.Json.Token

set_option autoImplicit false

namespace VesselWatch.Uuid

/-! ## Digits -/

@[simp] theorem length_hexDigits (n value : Nat) : (hexDigits n value).length = n := by
  induction n generalizing value with
  | zero => rfl
  | succ n ih => rw [hexDigits, List.length_append, ih, List.length_singleton]

theorem hexNumber?_append (ds : List Char) (d : Char) :
    hexNumber? (ds ++ [d]) =
      (hexNumber? ds).bind fun n => (Json.hexValue d).map fun v => 16 * n + v := by
  simp only [hexNumber?, List.foldlM_append, List.foldlM_cons, List.foldlM_nil, bind_pure]
  rfl

/-- So many digits keep the number if it is small enough. -/
theorem hexNumber?_hexDigits {n value : Nat} (small : value < 16 ^ n) :
    hexNumber? (hexDigits n value) = some value := by
  induction n generalizing value with
  | zero =>
    have hzero : value = 0 := by simpa using small
    rw [hzero]
    rfl
  | succ n ih =>
    have hdiv : value / 16 < 16 ^ n := by
      rw [Nat.pow_succ] at small
      omega
    rw [hexDigits, hexNumber?_append, ih hdiv, Option.bind_some,
      Json.hexValue_hexDigit (Nat.mod_lt _ (by decide)), Option.map_some, Nat.div_add_mod]

/-- The first digit is neither a letter of a name nor a brace. -/
theorem exists_hexDigits_succ (n value : Nat) :
    ∃ d ds, hexDigits (n + 1) value = d :: ds ∧ d ≠ 'u' ∧ d ≠ '{' := by
  have hdigit : ∀ v : Fin 16, hexDigit v ≠ 'u' ∧ hexDigit v ≠ '{' := by decide
  induction n generalizing value with
  | zero => exact ⟨_, _, rfl, hdigit ⟨value % 16, Nat.mod_lt _ (by decide)⟩⟩
  | succ n ih =>
    obtain ⟨d, ds, hds, hd⟩ := ih (value / 16)
    exact ⟨d, ds ++ [hexDigit (value % 16)], by rw [hexDigits, hds, List.cons_append], hd⟩

/-! ## Groups -/

theorem length_drop_group {size : Nat} {sizes : List Nat} {ds : List Char}
    (length : ds.length = (size :: sizes).sum) : (ds.drop size).length = sizes.sum := by
  rw [List.length_drop, length, List.sum_cons, Nat.add_sub_cancel_left]

theorem length_hyphenated : ∀ (size : Nat) (sizes : List Nat) (ds : List Char),
    ds.length = (size :: sizes).sum →
    (hyphenated (size :: sizes) ds).length = ds.length + sizes.length
  | size, [], ds, length => by
    have hsize : ds.length = size := by simpa using length
    rw [hyphenated, List.take_of_length_le (Nat.le_of_eq hsize)]
    rfl
  | size, next :: sizes, ds, length => by
    have ih := length_hyphenated next sizes _ (length_drop_group length)
    have hsplit : (ds.take size).length + (ds.drop size).length = ds.length := by
      rw [← List.length_append, List.take_append_drop]
    rw [hyphenated, List.length_append, List.length_cons, ih, ← hsplit, List.length_cons]
    · omega
    · exact fun h => List.cons_ne_nil _ _ h

theorem joinGroups?_hyphenated : ∀ (size : Nat) (sizes : List Nat) (ds : List Char),
    ds.length = (size :: sizes).sum →
    joinGroups? (size :: sizes) (hyphenated (size :: sizes) ds) = some ds
  | size, [], ds, length => by
    have hsize : ds.length = size := by simpa using length
    rw [hyphenated, List.take_of_length_le (Nat.le_of_eq hsize), joinGroups?, hsize]
    simp only [BEq.rfl, if_true]
  | size, next :: sizes, ds, length => by
    have htake : (ds.take size).length = size := by
      rw [List.length_take, length, List.sum_cons]
      omega
    have ih := joinGroups?_hyphenated next sizes _ (length_drop_group length)
    rw [hyphenated, joinGroups?, List.drop_left' htake, List.take_left' htake]
    · simp only [ih, Option.map_some, List.take_append_drop]
    · exact fun h => List.cons_ne_nil _ _ h
    · exact fun h => List.cons_ne_nil _ _ h

/-! ## The written form -/

theorem nameStart_eq : nameStart = 'u' :: "rn:uuid:".toList := by decide

theorem exists_chars_cons (u : Uuid) : ∃ d rest, u.chars = d :: rest ∧ d ≠ 'u' ∧ d ≠ '{' := by
  have first : ∃ d ds, hexDigits 32 u.bits.toNat = d :: ds ∧ d ≠ 'u' ∧ d ≠ '{' :=
    exists_hexDigits_succ 31 u.bits.toNat
  obtain ⟨d, ds, hds, hd⟩ := first
  refine ⟨d, ds.take 7 ++ '-' :: hyphenated [4, 4, 4, 12] (ds.drop 7), ?_, hd⟩
  rw [chars, hds]
  rfl

theorem digits?_chars (u : Uuid) : digits? u.chars = some (hexDigits 32 u.bits.toNat) := by
  have hdigits : (hexDigits 32 u.bits.toNat).length = [8, 4, 4, 4, 12].sum :=
    length_hexDigits 32 _
  have hlength : u.chars.length = 36 := by
    rw [chars, groups, length_hyphenated 8 _ _ hdigits, length_hexDigits]
    rfl
  have hjoin : joinGroups? groups u.chars = some (hexDigits 32 u.bits.toNat) := by
    rw [chars, groups, joinGroups?_hyphenated 8 _ _ hdigits]
  obtain ⟨d, rest, hchars, hletter, hbrace⟩ := exists_chars_cons u
  have hname : nameStart.isPrefixOf u.chars = false := by
    have hne : ('u' == d) = false := beq_false_of_ne hletter.symm
    rw [hchars, nameStart_eq, List.isPrefixOf_cons_cons, hne, Bool.false_and]
  have hbare : unbrace? u.chars = none := by
    rw [hchars]
    unfold unbrace?
    split
    · next same => exact absurd (List.cons.inj same).1 hbrace
    · rfl
  simp only [digits?, hlength, hname, hbare, hjoin, Option.getD_none, Bool.false_eq_true, if_false]
  rfl

theorem ofText?_render (u : Uuid) : ofText? u.render = some u := by
  have hbits : u.bits.toNat < 16 ^ 32 := u.bits.isLt
  rw [ofText?, render, String.toList_ofList, digits?_chars, Option.bind_some,
    hexNumber?_hexDigits hbits, Option.map_some, BitVec.ofNat_toNat, BitVec.setWidth_eq]

end VesselWatch.Uuid
