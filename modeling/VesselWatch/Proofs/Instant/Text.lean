/-
  Proofs/Instant/Text.lean --- an instant reads back from its text.

  The reader takes the year, the month and so on from the front of the text, one after the other.
  For each of them it is shown, with an arbitrary text behind, that it takes what was written and
  leaves that text; together with the calendar this reads back every instant that is `Valid`.
  Conversely only such instants are read, so they are those whose text stands for them
  (`valid_iff_ofText?_render`).
-/
import Mathlib.Algebra.Order.Group.Nat
import VesselWatch.Instant.Text
import VesselWatch.Proofs.Instant.Calendar
import VesselWatch.Proofs.Json.Token
import VesselWatch.Proofs.Text.Blank

set_option autoImplicit false

namespace VesselWatch.Instant

open Text Decimal

/-! ## Numbers with zeros in front -/

theorem digitsValue_padded (width n : Nat) : digitsValue (padded width n) = n := by
  have hzeros : Nat.ofDigitChars 10 (zeros (width - (natDigits n).length)) 0 = 0 :=
    Nat.ofDigitChars_replicate_zero
  calc digitsValue (padded width n)
      = Nat.ofDigitChars 10 (zeros (width - (natDigits n).length) ++ natDigits n) 0 := rfl
    _ = Nat.ofDigitChars 10 (natDigits n) 0 := by rw [Nat.ofDigitChars_append, hzeros]
    _ = n := Nat.ofDigitChars_ten_toDigits

theorem isDigit_of_mem_padded {width n : Nat} {c : Char} (mem : c ∈ padded width n) :
    c.isDigit = true := by
  rcases List.mem_append.mp mem with hzero | hdigit
  · rw [List.eq_of_mem_replicate hzero]
    rfl
  · exact Nat.isDigit_of_mem_toDigits (by decide) (by decide) hdigit

theorem padded_ne_nil (width n : Nat) : padded width n ≠ [] :=
  List.append_ne_nil_of_right_ne_nil _ Nat.toDigits_ne_nil

/-- A digit stands in front. -/
theorem exists_padded_cons (width n : Nat) :
    ∃ d ds, padded width n = d :: ds ∧ d.isDigit = true := by
  obtain ⟨d, ds, hds⟩ := List.exists_cons_of_ne_nil (padded_ne_nil width n)
  exact ⟨d, ds, hds, isDigit_of_mem_padded (hds ▸ List.mem_cons_self)⟩

theorem length_padded {width n : Nat} (pos : 0 < width) (small : n < 10 ^ width) :
    (padded width n).length = width := by
  have hle : (natDigits n).length ≤ width := (Nat.length_toDigits_le_iff (by decide) pos).mpr small
  simp only [padded, zeros, List.length_append, List.length_replicate]
  omega

theorem all_isDigit_padded (width n : Nat) : ∀ c ∈ padded width n, c.isDigit = true :=
  fun _ => isDigit_of_mem_padded

/-! ## Taking from the front -/

/-- No digit stands in front. -/
def Stops (rest : List Char) : Prop := rest.takeWhile Char.isDigit = []

theorem stops_nil : Stops [] := rfl

theorem stops_cons {c : Char} (other : c.isDigit = false) (rest : List Char) :
    Stops (c :: rest) := by
  simp only [Stops, List.takeWhile_cons, other]
  rfl

theorem takeWhile_digits {ds rest : List Char} (digits : ∀ c ∈ ds, c.isDigit = true)
    (stops : Stops rest) : (ds ++ rest).takeWhile Char.isDigit = ds := by
  rw [List.takeWhile_append_of_pos digits, stops, List.append_nil]

/-- So many digits are taken as the reader may take. -/
theorem takeDigits_of_length {limit : Nat} {ds : List Char} (digits : ∀ c ∈ ds, c.isDigit = true)
    (pos : 0 < limit) (length : ds.length = limit) (rest : List Char) :
    takeDigits limit (ds ++ rest) = some (digitsValue ds, rest) := by
  have htake : (ds ++ rest).take limit = ds ++ [] := by
    rw [← length, List.take_left, List.append_nil]
  have hne : ds.isEmpty = false := by
    cases ds with
    | nil => simp_all
    | cons d ds => rfl
  simp only [takeDigits, htake, takeWhile_digits digits stops_nil, hne, List.drop_left]
  rfl

/-- All digits are taken where the reader may take everything. -/
theorem takeDigits_of_stops {ds rest : List Char} (digits : ∀ c ∈ ds, c.isDigit = true)
    (ne : ds ≠ []) (stops : Stops rest) :
    takeDigits (ds ++ rest).length (ds ++ rest) = some (digitsValue ds, rest) := by
  have hne : ds.isEmpty = false := by simpa using ne
  simp only [takeDigits, List.take_length, takeWhile_digits digits stops, hne, List.drop_left]
  rfl

theorem trimStart_padded (width n : Nat) (rest : List Char) :
    trimStart (padded width n ++ rest) = padded width n ++ rest := by
  obtain ⟨d, ds, hds, hdigit⟩ := exists_padded_cons width n
  rw [hds]
  exact trimStart_cons (isBlank_eq_false_of_isDigit hdigit) _

theorem takeTwo_padded {low high n : Nat} (small : high < 100) (le_n : low ≤ n) (n_le : n ≤ high)
    (rest : List Char) : takeTwo low high (padded 2 n ++ rest) = some (n, rest) := by
  have hlength : (padded 2 n).length = 2 := length_padded (by decide) (by omega)
  have htake := takeDigits_of_length (all_isDigit_padded 2 n) (by decide) hlength rest
  simp only [takeTwo, trimStart_padded, htake, digitsValue_padded, Option.filter_some, le_n, n_le,
    decide_true, Bool.and_self, if_true]

theorem takeMark_cons {c : Char} (solid : isBlank c = false) (rest : List Char) :
    takeMark c (c :: rest) = some rest := by
  simp only [takeMark, trimStart_cons solid, BEq.rfl, if_true]

theorem padded_append_ne {c : Char} (other : c.isDigit = false) {width n : Nat}
    {rest rest' : List Char} : padded width n ++ rest ≠ c :: rest' := by
  intro same
  obtain ⟨d, ds, hds, hdigit⟩ := exists_padded_cons width n
  rw [hds, List.cons_append] at same
  rw [(List.cons.inj same).1, other] at hdigit
  exact Bool.noConfusion hdigit

/-- A year is taken with its sign, if it has one. -/
theorem takeYear_yearChars (year : Int) {rest : List Char} (stops : Stops rest) :
    takeYear (yearChars year ++ rest) = some (year, rest) := by
  unfold yearChars
  split
  · next plain =>
    rw [Bool.and_eq_true, decide_eq_true_eq, decide_eq_true_eq] at plain
    have hlength : (padded 4 year.toNat).length = 4 := length_padded (by decide) (by omega)
    have htake := takeDigits_of_length (all_isDigit_padded 4 year.toNat) (by decide) hlength rest
    have hyear : ((year.toNat : Nat) : Int) = year := Int.toNat_of_nonneg plain.1
    simp only [takeYear, trimStart_padded]
    split
    · next minus => exact absurd minus (padded_append_ne rfl)
    · next plus => exact absurd plus (padded_append_ne rfl)
    · simp only [htake, digitsValue_padded, Option.map_some, hyear]
  · next outside =>
    rw [Bool.and_eq_true, decide_eq_true_eq, decide_eq_true_eq] at outside
    have htake := takeDigits_of_stops (all_isDigit_padded 4 year.natAbs) (padded_ne_nil 4 _) stops
    split
    · have hyear : -((year.natAbs : Nat) : Int) = year := by omega
      simp only [takeYear, List.cons_append, trimStart_cons (show isBlank '-' = false from rfl),
        htake, digitsValue_padded, Option.map_some, hyear]
    · have hyear : ((year.natAbs : Nat) : Int) = year := by omega
      simp only [takeYear, List.cons_append, trimStart_cons (show isBlank '+' = false from rfl),
        htake, digitsValue_padded, Option.map_some, hyear]

/-- Decimals count by their place. -/
theorem takeFraction_padded {places n : Nat} (pos : 0 < places) (le : places ≤ 9)
    (small : n < 10 ^ places) {rest : List Char} (stops : Stops rest) :
    takeFraction ('.' :: padded places n ++ rest) = some (n * Nat.pow 10 (9 - places), rest) := by
  have hlength : (padded places n).length = places := length_padded pos small
  have hne : (padded places n).isEmpty = false := by simpa using padded_ne_nil places n
  have hkept : (padded places n).take 9 = padded places n :=
    List.take_of_length_le (by omega)
  have hdrop : (padded places n ++ rest).drop places = rest := List.drop_left' hlength
  simp only [takeFraction, List.cons_append, takeWhile_digits (all_isDigit_padded places n) stops,
    hne, hkept, digitsValue_padded, hlength, hdrop]
  rfl

theorem takeFraction_fractionChars {nano : Nat} (small : nano < nanosPerSecond) {rest : List Char}
    (stops : Stops rest) (noPoint : ∀ rest', rest ≠ '.' :: rest') :
    takeFraction (fractionChars nano ++ rest) = some (nano, rest) := by
  have small : nano < 1000000000 := small
  unfold fractionChars
  split
  · next zero =>
    rw [eq_of_beq zero]
    unfold takeFraction
    split
    · next point => exact absurd point (noPoint _)
    · rfl
  · split
    · next millis =>
      have hnano : nano / 1000000 * Nat.pow 10 (9 - 3) = nano :=
        Nat.div_mul_cancel (Nat.dvd_of_mod_eq_zero (eq_of_beq millis))
      rw [takeFraction_padded (by decide) (by decide) (by omega) stops, hnano]
    · split
      · next micros =>
        have hnano : nano / 1000 * Nat.pow 10 (9 - 6) = nano :=
          Nat.div_mul_cancel (Nat.dvd_of_mod_eq_zero (eq_of_beq micros))
        rw [takeFraction_padded (by decide) (by decide) (by omega) stops, hnano]
      · have hnano : nano * Nat.pow 10 (9 - 9) = nano := Nat.mul_one nano
        rw [takeFraction_padded (by decide) (by decide) small stops, hnano]

/-! ## The whole text -/

/-- An instant that can be written: it lies within the years that there are, and if it is in a leap
second, that one comes at the end of a minute.  No others are read
(`valid_iff_ofText?_render`). -/
structure Valid (t : Instant) : Prop where
  firstDay_le : firstDay ≤ t.day
  le_lastDay : t.day ≤ lastDay
  second_lt : t.second < secondsPerDay
  nano_lt : t.nano < 2 * nanosPerSecond
  leap : nanosPerSecond ≤ t.nano → t.second % 60 = 59

/-- The second that is shown and the nanoseconds in it. -/
def shown (t : Instant) : Nat × Nat :=
  if nanosPerSecond ≤ t.nano then (t.second % 60 + 1, t.nano - nanosPerSecond)
  else (t.second % 60, t.nano)

theorem chars_eq (t : Instant) : t.chars =
    yearChars (dateOfDay t.day).1 ++ '-' :: (padded 2 (dateOfDay t.day).2.1 ++
      '-' :: (padded 2 (dateOfDay t.day).2.2 ++ 'T' :: (padded 2 (t.second / 3600) ++
        ':' :: (padded 2 (t.second / 60 % 60) ++ ':' :: (padded 2 t.shown.1 ++
          (fractionChars t.shown.2 ++ ['Z'])))))) := by
  unfold chars shown
  split
  split <;> simp [*]

variable {t : Instant}

theorem Valid.shown_le (valid : t.Valid) : t.shown.1 ≤ 60 ∧ t.shown.2 < nanosPerSecond := by
  have hnano := valid.nano_lt
  unfold shown
  split
  · constructor
    · show t.second % 60 + 1 ≤ 60
      omega
    · show t.nano - nanosPerSecond < nanosPerSecond
      omega
  · constructor
    · show t.second % 60 ≤ 60
      omega
    · show t.nano < nanosPerSecond
      omega

/-- Second sixty is the leap second of second fifty-nine. -/
theorem Valid.unshown (valid : t.Valid) :
    (if t.shown.1 == 60 then (59, t.shown.2 + nanosPerSecond) else (t.shown.1, t.shown.2)) =
      (t.second % 60, t.nano) := by
  unfold shown
  split
  · next late =>
    simp only [valid.leap late, BEq.rfl, if_true, Nat.sub_add_cancel late]
  · have hne : (t.second % 60 == 60) = false := by
      rw [beq_eq_false_iff_ne]
      omega
    simp only [hne, Bool.false_eq_true, if_false]

theorem Valid.ofLocal (valid : t.Valid) :
    ofLocal (dateOfDay t.day).1 (dateOfDay t.day).2.1 (dateOfDay t.day).2.2 (t.second / 3600)
      (t.second / 60 % 60) t.shown.1 t.shown.2 0 = some t := by
  have hsecond : t.second < 86400 := valid.second_lt
  have hclock : t.second / 3600 * 3600 + t.second / 60 % 60 * 60 + t.second % 60 = t.second := by
    omega
  have hdiv : ((t.second : Int) - 0).fdiv secondsPerDay = 0 := by
    rw [Int.fdiv_eq_ediv_of_nonneg _ (by decide)]
    show ((t.second : Int) - 0) / 86400 = 0
    omega
  have hmod : (((t.second : Int) - 0).fmod secondsPerDay).toNat = t.second := by
    rw [Int.fmod_eq_emod_of_nonneg _ (by decide)]
    show (((t.second : Int) - 0) % 86400).toNat = t.second
    omega
  have hday := (isDate_dateOfDay t.day).day_le
  unfold Instant.ofLocal
  rw [valid.unshown]
  simp only [dayOfDate_dateOfDay, hclock, hdiv, hmod, Int.add_zero, valid.firstDay_le,
    valid.le_lastDay, hday, decide_true, Bool.and_self, if_true]

/-- What is written for an instant is read as that instant. -/
theorem Valid.ofChars?_chars (valid : t.Valid) : ofChars? t.chars = some t := by
  have hsecond : t.second < 86400 := valid.second_lt
  have date := isDate_dateOfDay t.day
  obtain ⟨hsixty, hnano⟩ := valid.shown_le
  have hyear := fun rest => takeYear_yearChars (dateOfDay t.day).1 (stops_cons (c := '-') rfl rest)
  have hmonth := takeTwo_padded (by decide) date.month_pos date.month_le
  have hday := takeTwo_padded (by decide) date.day_pos date.day_le_31
  have hjoint : ∀ rest, takeJoint ('T' :: rest) = some rest := fun _ => rfl
  have hhour := takeTwo_padded (show 23 < 100 by decide) (Nat.zero_le _)
    (show t.second / 3600 ≤ 23 by omega)
  have hminute := takeTwo_padded (show 59 < 100 by decide) (Nat.zero_le _)
    (show t.second / 60 % 60 ≤ 59 by omega)
  have hshown := takeTwo_padded (by decide) (Nat.zero_le _) hsixty
  have hdash := takeMark_cons (show isBlank '-' = false from rfl)
  have hcolon := takeMark_cons (show isBlank ':' = false from rfl)
  have hfraction : takeFraction (fractionChars t.shown.2 ++ ['Z']) = some (t.shown.2, ['Z']) :=
    takeFraction_fractionChars hnano (stops_cons rfl []) (by simp)
  have hoffset : takeOffset (trimStart ['Z']) = some (0, []) := by decide
  rw [chars_eq]
  simp only [ofChars?, hyear, hdash, hmonth, hday, hjoint, hhour, hcolon, hminute, hshown,
    hfraction, hoffset, Option.bind_eq_bind, Option.bind_some, valid.ofLocal]
  rfl

theorem Valid.ofText?_render (valid : t.Valid) : ofText? t.render = some t := by
  rw [ofText?, render, String.toList_ofList]
  exact valid.ofChars?_chars

/-! ## What is read -/

theorem digitValue_lt {c : Char} (digit : c.isDigit = true) : digitValue c < 10 := by
  have hbounds := Json.toNat_of_isDigit digit
  show c.toNat - 48 < 10
  omega

/-- Digits write a number below the power of ten for their length. -/
theorem foldl_digits_lt {ds : List Char} (digits : ∀ c ∈ ds, c.isDigit = true) (n : Nat) :
    ds.foldl (fun n c => 10 * n + digitValue c) n < (n + 1) * 10 ^ ds.length := by
  induction ds generalizing n with
  | nil => simp
  | cons d ds ih =>
    obtain ⟨hd, hds⟩ := List.forall_mem_cons.mp digits
    have hvalue := digitValue_lt hd
    calc ds.foldl (fun n c => 10 * n + digitValue c) (10 * n + digitValue d)
        < (10 * n + digitValue d + 1) * 10 ^ ds.length := ih hds _
      _ ≤ ((n + 1) * 10) * 10 ^ ds.length := Nat.mul_le_mul_right _ (by omega)
      _ = (n + 1) * 10 ^ (ds.length + 1) := by rw [Nat.mul_assoc, Nat.pow_succ']

theorem takeFraction_lt {cs rest : List Char} {nano : Nat}
    (taken : takeFraction cs = some (nano, rest)) : nano < nanosPerSecond := by
  unfold takeFraction at taken
  split at taken
  · next behind =>
    simp only at taken
    split at taken
    · cases taken
    · cases taken
      have hdigits : ∀ c ∈ (behind.takeWhile Char.isDigit).take 9, c.isDigit = true :=
        fun c mem => List.all_eq_true.mp List.all_takeWhile c (List.mem_of_mem_take mem)
      have hlength : ((behind.takeWhile Char.isDigit).take 9).length ≤ 9 :=
        List.length_take_le 9 _
      generalize (behind.takeWhile Char.isDigit).take 9 = kept at hdigits hlength
      have hvalue : digitsValue kept < 1 * 10 ^ kept.length := foldl_digits_lt hdigits 0
      calc digitsValue kept * 10 ^ (9 - kept.length)
          < 10 ^ kept.length * 10 ^ (9 - kept.length) :=
            Nat.mul_lt_mul_of_pos_right (by omega) (Nat.pow_pos (by decide))
        _ = 10 ^ 9 := by rw [← Nat.pow_add, Nat.add_sub_cancel' hlength]
  · cases taken
    decide

theorem takeOffsetDigits_dvd {cs rest : List Char} {n : Nat}
    (taken : takeOffsetDigits cs = some (n, rest)) : 60 ∣ n := by
  unfold takeOffsetDigits at taken
  split at taken
  · split at taken
    · split at taken
      · cases taken
        omega
      · cases taken
    · cases taken
  · cases taken

/-- An offset is whole minutes. -/
theorem takeOffset_dvd {cs rest : List Char} {n : Int}
    (taken : takeOffset cs = some (n, rest)) : 60 ∣ n := by
  have hdigits (behind : List Char) (f : Nat × List Char → Int × List Char)
      (hf : ∀ p, (f p).1 = p.1 ∨ (f p).1 = -(p.1 : Int))
      (hmap : (takeOffsetDigits behind).map f = some (n, rest)) : 60 ∣ n := by
    obtain ⟨⟨m, later⟩, hm, hfm⟩ := Option.map_eq_some_iff.mp hmap
    have hdvd := takeOffsetDigits_dvd hm
    have hn := hf (m, later)
    rw [hfm] at hn
    omega
  unfold takeOffset at taken
  split at taken
  · cases taken
    decide
  · obtain ⟨hoffset, -⟩ := Option.filter_eq_some_iff.mp taken
    split at hoffset
    · cases hoffset
      decide
    · cases hoffset
      decide
    · exact hdigits _ _ (fun _ => .inl rfl) hoffset
    · exact hdigits _ _ (fun _ => .inr rfl) hoffset
    · exact hdigits _ _ (fun _ => .inr rfl) hoffset
    · cases hoffset

/-- A local time under an offset of whole minutes is an instant that can be written. -/
theorem valid_of_ofLocal {year : Int} {month day hour minute second nano : Nat} {offset : Int}
    {t : Instant} (small : nano < nanosPerSecond) (minutes : 60 ∣ offset)
    (made : ofLocal year month day hour minute second nano offset = some t) : t.Valid := by
  obtain ⟨whole, fraction, hpair, hfraction, hleap⟩ : ∃ whole fraction,
      (if second == 60 then (59, nano + nanosPerSecond) else (second, nano)) = (whole, fraction) ∧
      fraction < 2 * nanosPerSecond ∧ (nanosPerSecond ≤ fraction → whole = 59) := by
    split
    · exact ⟨59, nano + nanosPerSecond, rfl, by omega, fun _ => rfl⟩
    · exact ⟨second, nano, rfl, by omega, by omega⟩
  unfold Instant.ofLocal at made
  rw [hpair] at made
  simp only at made
  split at made
  · next inside =>
    cases made
    simp only [Bool.and_eq_true, decide_eq_true_eq] at inside
    obtain ⟨⟨⟨-, hfirst⟩, hlast⟩, -⟩ := inside
    have hmod : ∀ total : Int, total.fmod secondsPerDay = total % 86400 := fun _ =>
      Int.fmod_eq_emod_of_nonneg _ (by decide)
    refine ⟨hfirst, hlast, ?_, hfraction, ?_⟩
    · show (Int.fmod _ _).toNat < 86400
      rw [hmod]
      omega
    · intro late
      show (Int.fmod _ _).toNat % 60 = 59
      rw [hmod, hleap late]
      omega
  · cases made

/-- An instant that was read can be written. -/
theorem valid_of_ofChars? {cs : List Char} {t : Instant} (read : ofChars? cs = some t) :
    t.Valid := by
  simp only [ofChars?, Option.bind_eq_bind, Option.bind_eq_some_iff] at read
  obtain ⟨_, -, _, -, _, -, _, -, _, -, _, -, _, -, _, -, _, -, _, -, _, -, fraction, hfraction,
    offset, hoffset, made⟩ := read
  split at made
  · exact valid_of_ofLocal (takeFraction_lt hfraction) (takeOffset_dvd hoffset) made
  · cases made

/-- The instants that can be written are those whose text is read as themselves. -/
theorem valid_iff_ofText?_render : t.Valid ↔ ofText? t.render = some t :=
  ⟨Valid.ofText?_render, valid_of_ofChars?⟩

end VesselWatch.Instant
