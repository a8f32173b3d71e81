import BucketStore.Calendar.Date
import Mathlib.Tactic.IntervalCases

/-!
The calendar that dates are counted in. The number of the epoch's day is zero and that of the day
after another one is greater by one, so a date's number is the count of its days; every number is
that of a date, and years follow each other in the order of their days.
-/

namespace BucketStore.Date

/-- A day of some month. -/
structure IsValid (d : Date) : Prop where
  month_pos : 1 ≤ d.month
  month_le : d.month ≤ 12
  day_pos : 1 ≤ d.day
  day_le : d.day ≤ daysInMonth d.year d.month

/-- The day after a date. -/
def next (d : Date) : Date :=
  if d.day < daysInMonth d.year d.month then { d with day := d.day + 1 }
  else if d.month < 12 then ⟨d.year, d.month + 1, 1⟩
  else ⟨d.year + 1, 1, 1⟩

theorem isLeapYear_iff (year : Int) :
    isLeapYear year = true ↔ year % 4 = 0 ∧ (year % 100 ≠ 0 ∨ year % 400 = 0) := by
  simp [isLeapYear]

/-- The days of the years, each of them begun in March, before a given one. -/
def daysBefore (year : Int) : Int :=
  365 * year + year / 4 - year / 100 + year / 400

/-- The count without eras. -/
theorem toDays_eq (d : Date) : d.toDays =
    daysBefore (if d.month ≤ 2 then d.year - 1 else d.year)
      + ((153 * (((d.month + 9) % 12 : Nat) : Int) + 2) / 5 + d.day - 1) - epochShift := by
  simp only [toDays, daysBefore, Int.fdiv_eq_ediv_of_nonneg _ (by decide : (0 : Int) ≤ 400)]
  generalize (if d.month ≤ 2 then d.year - 1 else d.year) = y
  omega

/-- Days are counted from the first of January 1970. -/
theorem toDays_epoch : toDays ⟨1970, 1, 1⟩ = 0 := by
  decide

/-- Days of one month follow each other. -/
theorem toDays_day (year : Int) (month day : Nat) :
    toDays ⟨year, month, day⟩ = toDays ⟨year, month, 1⟩ + (day - 1) := by
  rw [toDays_eq, toDays_eq]
  dsimp only
  omega

/-- March follows on February, whose length is the only one that depends on the year. -/
theorem toDays_march (year : Int) :
    toDays ⟨year, 3, 1⟩ = toDays ⟨year, 2, 1⟩ + daysInMonth year 2 := by
  have leap := isLeapYear_iff year
  rw [toDays_eq, toDays_eq, daysInMonth]
  simp only [daysBefore]
  cases long : isLeapYear year
  · have common : year % 4 ≠ 0 ∨ year % 100 = 0 ∧ year % 400 ≠ 0 := by
      by_contra otherwise
      have := leap.mpr (by omega)
      simp [long] at this
    simp
    omega
  · have long' := leap.mp long
    simp
    omega

/-- A month begins after all days of the one before it. -/
theorem toDays_month {year : Int} {month : Nat} (first : 1 ≤ month) (last : month < 12) :
    toDays ⟨year, month + 1, 1⟩ = toDays ⟨year, month, 1⟩ + daysInMonth year month := by
  by_cases february : month = 2
  · subst february
    exact toDays_march year
  · rw [toDays_eq, toDays_eq]
    interval_cases month <;> simp [daysInMonth] at february ⊢ <;> omega

private theorem toDays_year (year : Int) :
    toDays ⟨year + 1, 1, 1⟩ = toDays ⟨year, 12, 1⟩ + daysInMonth year 12 := by
  rw [toDays_eq, toDays_eq]
  simp [daysInMonth]
  omega

/-- The day after a date has the number after its own. -/
theorem toDays_next {d : Date} (valid : d.IsValid) : d.next.toDays = d.toDays + 1 := by
  obtain ⟨year, month, day⟩ := d
  obtain ⟨month_pos, month_le, day_pos, day_le⟩ := valid
  dsimp only at *
  have here := toDays_day year month day
  rw [next]
  dsimp only
  split
  · have there := toDays_day year month (day + 1)
    omega
  · have full : day = daysInMonth year month := by omega
    split
    · rename_i early
      rw [toDays_month month_pos early]
      omega
    · obtain rfl : month = 12 := by omega
      rw [toDays_year]
      omega

private theorem daysInMonth_pos (year : Int) (month : Nat) : 1 ≤ daysInMonth year month := by
  unfold daysInMonth
  repeat' split
  all_goals decide

theorem next_isValid {d : Date} (valid : d.IsValid) : d.next.IsValid := by
  rw [next]
  split
  · rename_i early
    exact ⟨valid.month_pos, valid.month_le, Nat.le_add_left 1 _, early⟩
  · split
    · rename_i early
      exact ⟨Nat.le_add_left 1 _, early, Nat.le_refl 1, daysInMonth_pos _ _⟩
    · exact ⟨by simp, by simp, by simp, daysInMonth_pos _ _⟩

/-! ### Dates of numbers -/

/-- The year in its era that a day of the era is in. -/
theorem yearOfEra_eq {y doy : Int} (first : 0 ≤ y) (last : y < 400) (start : 0 ≤ doy)
    (stop : doy ≤ 365) (leap : doy = 365 → isLeapYear (y + 1) = true) :
    let doe := 365 * y + y / 4 - y / 100 + doy
    (doe - doe / 1460 + doe / 36524 - doe / 146096) / 365 = y := by
  intro doe
  -- Centuries of the era, groups of four years, and years in a group.
  have split : y = 100 * (y / 100) + 4 * (y % 100 / 4) + y % 4 := by omega
  have last' : doy = 365 → y % 4 = 3 ∧ (y % 100 / 4 ≠ 24 ∨ y / 100 = 3) := by
    intro full
    have := (isLeapYear_iff _).mp (leap full)
    omega
  have century : 0 ≤ y / 100 ∧ y / 100 ≤ 3 := by omega
  have group : 0 ≤ y % 100 / 4 ∧ y % 100 / 4 ≤ 24 := by omega
  have year : 0 ≤ y % 4 ∧ y % 4 ≤ 3 := by omega
  have count : doe = 36524 * (y / 100) + 1461 * (y % 100 / 4) + 365 * (y % 4) + doy := by omega
  clear_value doe
  generalize y / 100 = c at *
  generalize y % 100 / 4 = q at *
  generalize y % 4 = r at *
  have centuries : doe / 36524 - doe / 146096 = c := by
    obtain rfl | rfl | rfl | rfl : c = 0 ∨ c = 1 ∨ c = 2 ∨ c = 3 := by omega
    all_goals omega
  have groups : doe / 1460 = 25 * c + q ∧ doy ≠ 365 ∨
      doe / 1460 = 25 * c + q + 1 ∧ r = 3 ∧ 0 < doy := by
    omega
  omega

/-- Every day of an era is in one of its years. -/
theorem exists_yearOfEra {doe : Int} (first : 0 ≤ doe) (last : doe < 146097) :
    ∃ y doy, 0 ≤ y ∧ y < 400 ∧ 0 ≤ doy ∧ doy ≤ 365 ∧
      (doy = 365 → isLeapYear (y + 1) = true) ∧ doe = 365 * y + y / 4 - y / 100 + doy := by
  obtain ⟨c, inEra, century, century'⟩ : ∃ c, (0 ≤ c ∧ c ≤ 3) ∧ 36524 * c ≤ doe ∧
      (doe < 36524 * (c + 1) ∨ c = 3) :=
    ⟨min 3 (doe / 36524), by omega, by omega, by omega⟩
  obtain ⟨q, inCentury, group, group'⟩ : ∃ q, (0 ≤ q ∧ q ≤ 24) ∧ 1461 * q ≤ doe - 36524 * c ∧
      doe - 36524 * c < 1461 * (q + 1) :=
    ⟨(doe - 36524 * c) / 1461, by omega, by omega, by omega⟩
  obtain ⟨r, inGroup, year, year'⟩ : ∃ r, (0 ≤ r ∧ r ≤ 3) ∧
      365 * r ≤ doe - 36524 * c - 1461 * q ∧
      (doe - 36524 * c - 1461 * q < 365 * (r + 1) ∨ r = 3) :=
    ⟨min 3 ((doe - 36524 * c - 1461 * q) / 365), by omega, by omega, by omega⟩
  refine ⟨100 * c + 4 * q + r, doe - 36524 * c - 1461 * q - 365 * r, by omega, by omega, by omega,
    by omega, fun full => (isLeapYear_iff _).mpr (by omega), by omega⟩

private theorem daysBefore_add_eras {year : Int} (first : 0 ≤ year) (last : year < 400)
    (eras : Int) :
    daysBefore (year + eras * 400)
      = 365 * year + year / 4 - year / 100 + eras * 146097 := by
  unfold daysBefore
  omega

private theorem isLeapYear_add_eras (year eras : Int) :
    isLeapYear (year + eras * 400) = isLeapYear year := by
  rw [Bool.eq_iff_iff, isLeapYear_iff, isLeapYear_iff]
  omega

/-- A day in a year that begins in March; its months are counted from zero. -/
def ofMarch (year monthFromMarch day : Int) : Date :=
  let month := if monthFromMarch < 10 then monthFromMarch + 3 else monthFromMarch - 9
  ⟨if month ≤ 2 then year + 1 else year, month.toNat, day.toNat⟩

private theorem toDays_ofMarch {year month day : Int} (first : 0 ≤ month) (last : month < 12)
    (there : 0 ≤ day) : (ofMarch year month day).toDays
      = daysBefore year + ((153 * month + 2) / 5 + day - 1) - epochShift := by
  rw [toDays_eq]
  simp only [ofMarch]
  interval_cases month <;> simp <;> omega

theorem ofMarch_isValid {year month day : Int} (first : 0 ≤ month) (last : month < 12)
    (start : 1 ≤ day) (stop : day ≤ (153 * (month + 1) + 2) / 5 - (153 * month + 2) / 5)
    (february : month = 11 → day ≤ if isLeapYear (year + 1) then 29 else 28) :
    (ofMarch year month day).IsValid := by
  constructor <;> simp only [ofMarch]
  · omega
  · omega
  · omega
  · interval_cases month <;> simp [daysInMonth] at * <;> omega

/-- The day of a year, begun in March, under a number from zero. -/
def ofYearDay (year doy : Int) : Date :=
  let month := (5 * doy + 2) / 153
  ofMarch year month (doy - (153 * month + 2) / 5 + 1)

/-- Every number is that of a day of a year. -/
theorem ofDays_eq (days : Int) :
    ∃ year doy, 0 ≤ doy ∧ doy ≤ 365 ∧ (doy = 365 → isLeapYear (year + 1) = true) ∧
      days + epochShift = daysBefore year + doy ∧ ofDays days = ofYearDay year doy := by
  obtain ⟨y, doy, first, last, start, stop, leap, split⟩ :=
    exists_yearOfEra (Int.emod_nonneg (days + epochShift) (by decide : (146097 : Int) ≠ 0))
      (Int.emod_lt_of_pos _ (by decide))
  have era := Int.emod_add_mul_ediv (days + epochShift) 146097
  have year := yearOfEra_eq first last start stop leap
  rw [← split] at year
  dsimp only at year
  refine ⟨y + (days + epochShift) / 146097 * 400, doy, start, stop, fun full => ?_, ?_, ?_⟩
  · rw [Int.add_right_comm, isLeapYear_add_eras]
    exact leap full
  · rw [daysBefore_add_eras first last]
    omega
  · have rest : days + epochShift - (days + epochShift) / 146097 * 146097
        = (days + epochShift) % 146097 := by
      omega
    have day : (days + epochShift) % 146097 - (365 * y + y / 4 - y / 100) = doy := by
      omega
    simp only [ofDays, ofYearDay, ofMarch,
      Int.fdiv_eq_ediv_of_nonneg _ (by decide : (0 : Int) ≤ 146097), rest, year, day]

private theorem toDays_ofYearDay {year doy : Int} (start : 0 ≤ doy) (stop : doy ≤ 365) :
    (ofYearDay year doy).toDays = daysBefore year + doy - epochShift := by
  rw [ofYearDay, toDays_ofMarch (by omega) (by omega) (by omega)]
  omega

theorem ofYearDay_isValid {year doy : Int} (start : 0 ≤ doy) (stop : doy ≤ 365)
    (leap : doy = 365 → isLeapYear (year + 1) = true) : (ofYearDay year doy).IsValid := by
  refine ofMarch_isValid (by omega) (by omega) (by omega) (by omega) fun last => ?_
  by_cases full : doy = 365
  · simp only [leap full, if_true]
    omega
  · split <;> omega

/-- Every number is that of a date. -/
theorem toDays_ofDays (days : Int) : (ofDays days).toDays = days := by
  obtain ⟨year, doy, start, stop, _, count, same⟩ := ofDays_eq days
  rw [same, toDays_ofYearDay start stop]
  omega

theorem ofDays_isValid (days : Int) : (ofDays days).IsValid := by
  obtain ⟨year, doy, start, stop, leap, _, same⟩ := ofDays_eq days
  rw [same]
  exact ofYearDay_isValid start stop leap

/-! ### The order of years -/

/-- The days of a year are those from its first one up to that of the next year. -/
theorem IsValid.bounds {d : Date} (valid : d.IsValid) :
    toDays ⟨d.year, 1, 1⟩ ≤ d.toDays ∧ d.toDays < toDays ⟨d.year + 1, 1, 1⟩ := by
  obtain ⟨year, month, day⟩ := d
  obtain ⟨month_pos, month_le, day_pos, day_le⟩ := valid
  dsimp only at *
  have here := toDays_day year month day
  have first : toDays ⟨year, 1, 1⟩ ≤ toDays ⟨year, month, 1⟩ := by
    rw [toDays_eq, toDays_eq]
    interval_cases month <;> simp [daysBefore] <;> omega
  have last : toDays ⟨year, month, 1⟩ + daysInMonth year month ≤ toDays ⟨year + 1, 1, 1⟩ := by
    by_cases early : month < 12
    · rw [← toDays_month month_pos early, toDays_eq, toDays_eq]
      interval_cases month <;> simp [daysBefore]
      omega
    · obtain rfl : month = 12 := by omega
      exact (toDays_year year).ge
  constructor <;> omega

private theorem newYear_mono {year year' : Int} (ordered : year ≤ year') :
    toDays ⟨year, 1, 1⟩ ≤ toDays ⟨year', 1, 1⟩ := by
  rw [toDays_eq, toDays_eq]
  simp [daysBefore]
  omega

/-- A day is in a year or a later one if it does not lie before the year's first day. -/
theorem le_year_ofDays_iff (year days : Int) :
    year ≤ (ofDays days).year ↔ toDays ⟨year, 1, 1⟩ ≤ days := by
  obtain ⟨low, high⟩ := (ofDays_isValid days).bounds
  rw [toDays_ofDays] at low high
  constructor
  · intro reached
    exact (newYear_mono reached).trans low
  · intro reached
    by_contra before
    have := newYear_mono (by omega : (ofDays days).year + 1 ≤ year)
    omega

end BucketStore.Date
