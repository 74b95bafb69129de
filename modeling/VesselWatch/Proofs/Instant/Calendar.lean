/-
  Proofs/Instant/Calendar.lean --- every day has its date.

  An era has 400 years and 146097 days.  A day of it lies in a century, in a group of four years,
  in a year of them, all counted from March on (`exists_era_parts`): the last day of a year with a
  twenty-ninth of February is the day 365 of that year.  From these parts both directions of the
  calendar can be read off, so that the date of a day is a date that there is
  (`isDate_dateOfDay`) and the day of that date is the day (`dayOfDate_dateOfDay`).
-/
import VesselWatch.Instant.Basic

set_option autoImplicit false

namespace VesselWatch.Instant

/-! ## Years of an era -/

/-- A day of an era by its century, the group of four years, the year and the day in that year. -/
structure EraParts (n c q s r : Nat) : Prop where
  day : n = 36524 * c + 1461 * q + 365 * s + r
  century : c ≤ 3
  group : q ≤ 24
  year : s ≤ 3
  rest : r ≤ 365
  /-- only a year before a leap day has so many days -/
  last : r = 365 → s = 3 ∧ (q = 24 → c = 3)

/-- Four years have their leap day at the end. -/
theorem exists_year_parts {k : Nat} (bound : k < 1461) :
    ∃ s r, k = 365 * s + r ∧ s ≤ 3 ∧ r ≤ 365 ∧ (r = 365 → s = 3) := by
  rcases Nat.lt_or_ge k 1460 with hk | hk
  · refine ⟨k / 365, k % 365, (Nat.div_add_mod k 365).symm, ?_, ?_, ?_⟩ <;> omega
  · exact ⟨3, 365, by omega, by omega, by omega, fun _ => rfl⟩

theorem exists_era_parts {n : Nat} (bound : n < 146097) : ∃ c q s r, EraParts n c q s r := by
  rcases Nat.lt_or_ge n 146096 with hn | hn
  · have hday : 36524 * (n / 36524) + n % 36524 = n := Nat.div_add_mod n 36524
    have hcentury : n % 36524 < 36524 := Nat.mod_lt n (by decide)
    have hgroups : 1461 * (n % 36524 / 1461) + n % 36524 % 1461 = n % 36524 :=
      Nat.div_add_mod _ 1461
    obtain ⟨s, r, hk, hs, hr, hlast⟩ := exists_year_parts (Nat.mod_lt (n % 36524) (by decide))
    rw [hk] at hgroups
    generalize n % 36524 / 1461 = q at hgroups
    generalize n / 36524 = c at hday
    refine ⟨c, q, s, r, ?_, ?_, ?_, hs, hr, ?_⟩
    · omega
    · omega
    · omega
    · intro h
      refine ⟨hlast h, ?_⟩
      omega
  · refine ⟨3, 24, 3, 365, ?_, ?_, ?_, ?_, ?_, ?_⟩ <;> omega

variable {n c q s r : Nat}

/-- The last day of an era is the only one that is not in a century of 36524 days. -/
theorem EraParts.eq_of_last (parts : EraParts n c q s r) (hn : 146096 ≤ n) :
    c = 3 ∧ q = 24 ∧ s = 3 ∧ r = 365 := by
  obtain ⟨hday, hc, hq, hs, hr, -⟩ := parts
  omega

theorem EraParts.div_century (parts : EraParts n c q s r) (hn : n < 146096) :
    n / 36524 = c := by
  obtain ⟨hday, hc, hq, hs, hr, hlast⟩ := parts
  apply Nat.div_eq_of_lt_le
  · omega
  · rw [Nat.succ_mul]
    rcases Nat.lt_or_ge r 365 with h | h
    · omega
    · obtain ⟨-, hgroup⟩ := hlast (by omega)
      omega

/-- The leap days before a day are one for each group of four years, and one more in the last days
of a group. -/
theorem EraParts.div_1460 (parts : EraParts n c q s r) :
    n / 1460 = 25 * c + q + (24 * c + q + 365 * s + r) / 1460 := by
  rw [← Nat.mul_add_div (by decide)]
  congr 1
  have := parts.day
  omega

/-- A day too many is taken away at the end of a year only where there is one. -/
theorem EraParts.rest_sub (parts : EraParts n c q s r) :
    (24 * c + q + 365 * s + r) / 1460 ≤ r ∧
      r < 365 + (24 * c + q + 365 * s + r) / 1460 := by
  obtain ⟨-, hc, hq, hs, hr, hlast⟩ := parts
  rcases Nat.lt_or_ge (24 * c + q + 365 * s + r) 1460 with ht | ht
  · rw [Nat.div_eq_of_lt ht]
    omega
  · have : (24 * c + q + 365 * s + r) / 1460 = 1 := Nat.div_eq_of_lt_le (by omega) (by omega)
    omega

theorem EraParts.yearOfEra (parts : EraParts n c q s r) :
    (n - n / 1460 + n / 36524 - n / 146096) / 365 = 100 * c + 4 * q + s := by
  rcases Nat.lt_or_ge n 146096 with hn | hn
  · rw [parts.div_century hn, Nat.div_eq_of_lt hn, parts.div_1460]
    have hrest := parts.rest_sub
    have hday := parts.day
    generalize (24 * c + q + 365 * s + r) / 1460 = extra at hrest
    apply Nat.div_eq_of_lt_le <;> omega
  · obtain ⟨rfl, rfl, rfl, rfl⟩ := parts.eq_of_last hn
    rw [parts.day]

theorem EraParts.dayOfYear (parts : EraParts n c q s r) :
    365 * (100 * c + 4 * q + s) + (100 * c + 4 * q + s) / 4 - (100 * c + 4 * q + s) / 100 + r =
      n := by
  obtain ⟨hday, hc, hq, hs, -, -⟩ := parts
  have hfour : (100 * c + 4 * q + s) / 4 = 25 * c + q := by omega
  have hhundred : (100 * c + 4 * q + s) / 100 = c := by omega
  rw [hfour, hhundred]
  omega

/-! ## Days of a year -/

/-- The date of a day of the year that begins in the March of `year`. -/
def dateInYear (year : Int) (dayOfYear : Nat) : Int × Nat × Nat :=
  let monthFromMarch := (5 * dayOfYear + 2) / 153
  let month := if monthFromMarch < 10 then monthFromMarch + 3 else monthFromMarch - 9
  (if month ≤ 2 then year + 1 else year, month, dayOfYear - (153 * monthFromMarch + 2) / 5 + 1)

/-- A date that there is. -/
structure IsDate (year : Int) (month day : Nat) : Prop where
  month_pos : 1 ≤ month
  month_le : month ≤ 12
  day_pos : 1 ≤ day
  day_le : day ≤ daysInMonth year month

theorem IsDate.day_le_31 {year : Int} {month day : Nat} (date : IsDate year month day) :
    day ≤ 31 := by
  have hle : daysInMonth year month ≤ 31 := by
    unfold daysInMonth
    split
    · split <;> decide
    · split <;> decide
  exact Nat.le_trans date.day_le hle

/-- The months from March to January do not depend on the year; February takes the rest. -/
theorem dayInMonth_le : ∀ r < 366, (5 * r + 2) / 153 < 11 →
    r - (153 * ((5 * r + 2) / 153) + 2) / 5 + 1 ≤
      daysInMonth 0 (if (5 * r + 2) / 153 < 10 then (5 * r + 2) / 153 + 3
        else (5 * r + 2) / 153 - 9) := by
  decide +kernel

theorem daysInMonth_of_ne {month : Nat} (hmonth : month ≠ 2) (year year' : Int) :
    daysInMonth year month = daysInMonth year' month := by
  have : (month == 2) = false := by simpa using hmonth
  simp only [daysInMonth, this, Bool.false_eq_true, if_false]

theorem daysInMonth_february (year : Int) :
    daysInMonth year 2 = if isLeapYear year then 29 else 28 := rfl

theorem isDate_dateInYear {year : Int} {r : Nat} (hr : r ≤ 365)
    (leap : r = 365 → isLeapYear (year + 1) = true) :
    IsDate (dateInYear year r).1 (dateInYear year r).2.1 (dateInYear year r).2.2 := by
  have hmonth : (5 * r + 2) / 153 ≤ 11 := by omega
  have hle := dayInMonth_le r (by omega)
  have hstart : (5 * r + 2) / 153 = 11 → 337 ≤ r := by omega
  simp only [dateInYear]
  generalize (5 * r + 2) / 153 = m at *
  rcases Nat.lt_or_eq_of_le hmonth with hm | rfl
  · have hne : (if m < 10 then m + 3 else m - 9) ≠ 2 := by split <;> omega
    refine ⟨by split <;> omega, by split <;> omega, Nat.succ_pos _, ?_⟩
    rw [daysInMonth_of_ne hne _ 0]
    exact hle hm
  · have hr337 := hstart rfl
    refine ⟨by decide, by decide, Nat.succ_pos _, ?_⟩
    show r - 337 + 1 ≤ daysInMonth (year + 1) 2
    rw [daysInMonth_february]
    rcases Nat.lt_or_eq_of_le hr with hr' | rfl
    · split <;> omega
    · rw [leap rfl]
      decide

/-- The day of a date counts the leap days of the years before. -/
theorem dayOfDate_dateInYear (era : Int) {y r : Nat} (hy : y < 400) (hr : r ≤ 365) :
    dayOfDate (dateInYear (y + era * 400) r).1 (dateInYear (y + era * 400) r).2.1
        (dateInYear (y + era * 400) r).2.2 =
      era * 146097 + ((365 * y + y / 4 - y / 100 + r : Nat) : Int) - 719468 := by
  have hmonth : (5 * r + 2) / 153 ≤ 11 := by omega
  have hstart : (153 * ((5 * r + 2) / 153) + 2) / 5 ≤ r := by omega
  have hera : ((y : Int) + era * 400).fdiv 400 = era := by
    rw [Int.fdiv_eq_ediv_of_nonneg _ (by decide)]
    omega
  have hyear : ((y : Int) + era * 400).fmod 400 = y := by
    rw [Int.fmod_eq_emod_of_nonneg _ (by decide)]
    omega
  simp only [dateInYear]
  generalize (5 * r + 2) / 153 = m at *
  have hmarch : (((if m < 10 then m + 3 else m - 9 : Nat) : Int) + 9) % 12 = m := by
    split <;> omega
  have hback : (if (if m < 10 then m + 3 else m - 9) ≤ 2 then
      (if (if m < 10 then m + 3 else m - 9) ≤ 2 then (y : Int) + era * 400 + 1
        else (y : Int) + era * 400) - 1
      else if (if m < 10 then m + 3 else m - 9) ≤ 2 then (y : Int) + era * 400 + 1
        else (y : Int) + era * 400) = (y : Int) + era * 400 := by
    split <;> omega
  simp only [dayOfDate, hback, hera, hyear, hmarch]
  omega

/-! ## The date of a day -/

/-- The parts of a day: its era, the parts of the day in the era, and its date by them. -/
theorem exists_parts (day : Int) : ∃ (era : Int) (n c q s r : Nat), EraParts n c q s r ∧
    day + 719468 = era * 146097 + n ∧
    dateOfDay day = dateInYear (((100 * c + 4 * q + s : Nat) : Int) + era * 400) r := by
  have hmod : (day + 719468).fmod 146097 = (day + 719468) % 146097 :=
    Int.fmod_eq_emod_of_nonneg _ (by decide)
  have hdiv : (day + 719468).fdiv 146097 = (day + 719468) / 146097 :=
    Int.fdiv_eq_ediv_of_nonneg _ (by decide)
  have hn : ((day + 719468).fmod 146097).toNat < 146097 := by omega
  obtain ⟨c, q, s, r, parts⟩ := exists_era_parts hn
  refine ⟨(day + 719468).fdiv 146097, _, c, q, s, r, parts, by omega, ?_⟩
  have hrest : ((day + 719468).fmod 146097).toNat - (365 * (100 * c + 4 * q + s) +
      (100 * c + 4 * q + s) / 4 - (100 * c + 4 * q + s) / 100) = r := by
    have := parts.dayOfYear
    omega
  simp only [dateOfDay, dateInYear, parts.yearOfEra, hrest]

theorem EraParts.isLeapYear (parts : EraParts n c q s r) (era : Int) (hr : r = 365) :
    isLeapYear (((100 * c + 4 * q + s : Nat) : Int) + era * 400 + 1) = true := by
  obtain ⟨-, hc, hq, -, -, hlast⟩ := parts
  obtain ⟨rfl, hcentury⟩ := hlast hr
  have hfour : (((100 * c + 4 * q + 3 : Nat) : Int) + era * 400 + 1).fmod 4 = 0 := by
    rw [Int.fmod_eq_emod_of_nonneg _ (by decide)]
    omega
  simp only [Instant.isLeapYear, hfour, BEq.rfl, Bool.true_and, Bool.or_eq_true, bne_iff_ne,
    beq_iff_eq]
  rcases Nat.lt_or_eq_of_le hq with hlt | rfl
  · left
    rw [Int.fmod_eq_emod_of_nonneg _ (by decide)]
    omega
  · right
    rw [hcentury rfl, Int.fmod_eq_emod_of_nonneg _ (by decide)]
    omega

theorem isDate_dateOfDay (day : Int) :
    IsDate (dateOfDay day).1 (dateOfDay day).2.1 (dateOfDay day).2.2 := by
  obtain ⟨era, n, c, q, s, r, parts, -, hdate⟩ := exists_parts day
  rw [hdate]
  exact isDate_dateInYear parts.rest (parts.isLeapYear era)

theorem dayOfDate_dateOfDay (day : Int) :
    dayOfDate (dateOfDay day).1 (dateOfDay day).2.1 (dateOfDay day).2.2 = day := by
  obtain ⟨era, n, c, q, s, r, parts, hday, hdate⟩ := exists_parts day
  have hyear : 100 * c + 4 * q + s < 400 := by
    obtain ⟨-, hc, hq, hs, -, -⟩ := parts
    omega
  rw [hdate, dayOfDate_dateInYear era hyear parts.rest, parts.dayOfYear]
  omega

end VesselWatch.Instant
