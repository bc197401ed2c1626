import Workflow.Time.Instant

namespace Workflow.Date

/-!
# Days and dates

Every day has a date, the date exists, and it is the date of no other day.  The calendar repeats
after an era of 400 years, and years start in March here, so that only the last day of a year can be
missing.

The year of a day is found by division, after the leap days before it are taken out.  This division
is the only step that is not plain: that it never misses the year is shown with the centuries and
the spans of four years counted in days.
-/

theorem daysInMonth_le (year : Int) (month : Nat) : daysInMonth year month ≤ 31 := by
  unfold daysInMonth
  split
  · split <;> decide
  · split <;> decide

/-- How many days of an era come before a year of it. -/
def daysBefore (year : Int) : Int := 365 * year + year / 4 - year / 100

/-- The year that a day of an era falls into. -/
def yearOf (day : Int) : Int := (day - day / 1460 + day / 36524 - day / 146096) / 365

/-- The month that a day of a year falls into, March being zero. -/
def monthOf (day : Int) : Int := (5 * day + 2) / 153

/-- How many days of a year come before a month of it. -/
def daysBeforeMonth (month : Int) : Int := (153 * month + 2) / 5

variable {day : Int}

theorem yearOf_bounds (low : 0 ≤ day) (high : day < 146097) :
    0 ≤ yearOf day ∧ yearOf day < 400 := by
  unfold yearOf
  omega

/-- But for the last day of an era, which is one too many, the centuries can be counted in days, and
the spans of four years nearly so. -/
theorem yearOf_spans (low : 0 ≤ day) (high : day < 146096) :
    yearOf day = (day - day / 1460 + day / 36524) / 365 ∧ yearOf day / 100 = day / 36524 ∧
      yearOf day / 4 ≤ day / 1460 ∧ day / 1460 ≤ yearOf day / 4 + 1 := by
  have last : day / 146096 = 0 := by omega
  have centuries : day / 36524 = 0 ∨ day / 36524 = 1 ∨ day / 36524 = 2 ∨ day / 36524 = 3 := by
    omega
  unfold yearOf
  rw [last, Int.sub_zero]
  rcases centuries with century | century | century | century
  all_goals
    rw [century]
    refine ⟨rfl, ?_, ?_, ?_⟩
    · omega
    · omega
    · omega

/-- The year of a day starts on the day or before, and the day is no later than the last one of the
year; it is the 366th only if the year that begins in its winter is a leap year. -/
theorem dayOfYear_bounds (low : 0 ≤ day) (high : day < 146097) :
    0 ≤ day - daysBefore (yearOf day) ∧ day - daysBefore (yearOf day) ≤ 365 ∧
      (day - daysBefore (yearOf day) = 365 → (yearOf day + 1) % 4 = 0 ∧
        ((yearOf day + 1) % 100 ≠ 0 ∨ (yearOf day + 1) % 400 = 0)) := by
  by_cases last : day = 146096
  · subst last
    decide
  · have ⟨year, century, least, most⟩ := yearOf_spans low (by omega : day < 146096)
    have bounds := yearOf_bounds low high
    unfold daysBefore
    generalize yearOf day = y at *
    refine ⟨?_, ?_, ?_⟩
    · omega
    · omega
    · intro whole
      have fourth : y - 4 * (y / 4) = 3 := by omega
      have within : y - 100 * (y / 100) < 99 := by omega
      exact ⟨by omega, .inl (by omega)⟩

theorem monthOf_bounds (low : 0 ≤ day) (high : day ≤ 365) :
    0 ≤ monthOf day ∧ monthOf day ≤ 11 ∧ 0 ≤ day - daysBeforeMonth (monthOf day) ∧
      day - daysBeforeMonth (monthOf day) ≤ 30 ∧ day < daysBeforeMonth (monthOf day + 1) := by
  unfold daysBeforeMonth monthOf
  omega

/-! ## Dates whose years start in March -/

/-- An era, a year of it from March on, a month of the year and a day of the month, both of the
former counted from zero. -/
structure MarchDate where
  era : Int
  year : Int
  month : Int
  day : Int

namespace MarchDate

/-- The era of a day. -/
def eraOf (day : Int) : Int := (day + 719468) / 146097

/-- How many days of the era come before a day. -/
def dayOfEra (day : Int) : Int := day + 719468 - eraOf day * 146097

/-- How many days of the year come before a day. -/
def dayOfYear (day : Int) : Int := dayOfEra day - daysBefore (yearOf (dayOfEra day))

/-- The date of a day. -/
def ofDay (day : Int) : MarchDate :=
  ⟨eraOf day, yearOf (dayOfEra day), monthOf (dayOfYear day),
    dayOfYear day - daysBeforeMonth (monthOf (dayOfYear day)) + 1⟩

/-- The number of the day. -/
def toDay (d : MarchDate) : Int :=
  d.era * 146097 + daysBefore d.year + daysBeforeMonth d.month + d.day - 719469

/-- The date in years that start in January. -/
def toDate (d : MarchDate) : Date :=
  let month := if d.month < 10 then d.month + 3 else d.month - 9
  let year := d.year + d.era * 400
  ⟨if month ≤ 2 then year + 1 else year, month.toNat, d.day.toNat⟩

/-- The parts of the date exist.  A 366th day is there only before the end of a leap year's
February. -/
structure Sound (d : MarchDate) : Prop where
  year : 0 ≤ d.year ∧ d.year < 400
  month : 0 ≤ d.month ∧ d.month ≤ 11
  day : 1 ≤ d.day ∧ d.day ≤ 31
  within : daysBeforeMonth d.month + d.day ≤ daysBeforeMonth (d.month + 1)
  short : daysBeforeMonth d.month + d.day ≤ 366
  leap : daysBeforeMonth d.month + d.day = 366 → (d.year + 1) % 4 = 0 ∧
    ((d.year + 1) % 100 ≠ 0 ∨ (d.year + 1) % 400 = 0)

theorem sound_ofDay (day : Int) : (ofDay day).Sound := by
  have low : 0 ≤ dayOfEra day := by
    unfold dayOfEra eraOf
    omega
  have high : dayOfEra day < 146097 := by
    unfold dayOfEra eraOf
    omega
  have ⟨first, last, leap⟩ := dayOfYear_bounds low high
  have ⟨monthLow, monthHigh, dayLow, dayHigh, within⟩ := monthOf_bounds first last
  refine ⟨yearOf_bounds low high, ⟨monthLow, monthHigh⟩, ⟨?_, ?_⟩, ?_, ?_, ?_⟩
  · exact Int.le_add_of_nonneg_left dayLow
  · exact Int.add_le_add_right dayHigh 1
  · unfold ofDay dayOfYear
    dsimp only
    omega
  · unfold ofDay dayOfYear
    dsimp only
    omega
  · intro whole
    unfold ofDay dayOfYear at whole
    dsimp only at whole
    exact leap (by omega)

theorem toDay_ofDay (day : Int) : (ofDay day).toDay = day := by
  unfold ofDay toDay dayOfYear dayOfEra
  dsimp only
  omega

variable {d : MarchDate}

/-- The date has the same day, however its years are counted. -/
theorem toDay_toDate (sound : d.Sound) : d.toDate.toDay = d.toDay := by
  rcases d with ⟨era, year, month, day⟩
  have ⟨⟨yearLow, yearHigh⟩, ⟨monthLow, monthHigh⟩, ⟨dayLow, _⟩, _, _, _⟩ := sound
  dsimp only at yearLow yearHigh monthLow monthHigh dayLow
  have cycle : (year + era * 400) / 400 = era := by omega
  unfold toDate Date.toDay toDay daysBefore daysBeforeMonth
  dsimp only
  by_cases before : month < 10
  · rw [if_pos before, if_neg (by omega), if_neg (by omega), if_neg (by omega), cycle]
    omega
  · rw [if_neg before, if_pos (by omega), if_pos (by omega), if_pos (by omega),
      Int.add_sub_cancel, cycle]
    omega

theorem year_bounds (sound : d.Sound) (low : firstDay ≤ d.toDay) (high : d.toDay ≤ lastDay) :
    -262143 ≤ d.toDate.year ∧ d.toDate.year ≤ 262142 := by
  have first : firstDay = -96465292 := by decide
  have last : lastDay = 95026236 := by decide
  rcases d with ⟨era, year, month, day⟩
  have ⟨⟨yearLow, yearHigh⟩, ⟨monthLow, monthHigh⟩, ⟨dayLow, _⟩, within, short, _⟩ := sound
  unfold toDay daysBefore at low high
  unfold toDate
  dsimp only at *
  have eras : era ≤ -657 ∨ era = -656 ∨ (-655 ≤ era ∧ era ≤ 654) ∨ era = 655 ∨ 656 ≤ era := by
    omega
  have monthFirst : 0 ≤ daysBeforeMonth month := by
    unfold daysBeforeMonth
    omega
  by_cases before : month < 10
  · rw [if_pos before, if_neg (by omega)]
    have winter : daysBeforeMonth month + day ≤ 306 := by
      unfold daysBeforeMonth at *
      omega
    rcases eras with far | rfl | near | rfl | far
    all_goals omega
  · rw [if_neg before, if_pos (by omega)]
    have winter : 306 ≤ daysBeforeMonth month := by
      unfold daysBeforeMonth at *
      omega
    rcases eras with far | rfl | near | rfl | far
    all_goals omega

/-- The 29th of February is there in leap years. -/
theorem day_le_daysInMonth (sound : d.Sound) :
    d.toDate.day ≤ daysInMonth d.toDate.year d.toDate.month := by
  rcases d with ⟨era, year, month, day⟩
  have ⟨_, ⟨monthLow, monthHigh⟩, ⟨_, most⟩, within, short, leap⟩ := sound
  unfold daysBeforeMonth at within short leap
  dsimp only at *
  by_cases before : month < 10
  · unfold toDate daysInMonth
    dsimp only
    rw [if_pos before, if_neg (by omega)]
    split
    · omega
    · omega
  · have winter : month = 10 ∨ month = 11 := by omega
    rcases winter with rfl | rfl
    · change day.toNat ≤ 31
      omega
    · change day.toNat ≤ if isLeapYear (year + era * 400 + 1) then 29 else 28
      split
      · omega
      · next common =>
        have other : day ≠ 29 := by
          rintro rfl
          have ⟨fourth, century⟩ := leap rfl
          refine common ?_
          unfold isLeapYear
          simp only [Bool.and_eq_true, Bool.or_eq_true, beq_iff_eq, bne_iff_ne]
          omega
        omega

theorem isValid_toDate (sound : d.Sound) (low : firstDay ≤ d.toDay) (high : d.toDay ≤ lastDay) :
    d.toDate.isValid = true := by
  have ⟨yearLow, yearHigh⟩ := year_bounds sound low high
  have day := day_le_daysInMonth sound
  rcases d with ⟨era, year, month, date⟩
  have ⟨_, ⟨monthLow, monthHigh⟩, ⟨dayLow, _⟩, _, _, _⟩ := sound
  have first : 1 ≤ date.toNat := by
    dsimp only at dayLow
    omega
  have months : 1 ≤ (toDate ⟨era, year, month, date⟩).month ∧
      (toDate ⟨era, year, month, date⟩).month ≤ 12 := by
    unfold toDate
    dsimp only at *
    split
    all_goals omega
  unfold isValid
  simp only [Bool.and_eq_true, decide_eq_true_eq]
  exact ⟨⟨⟨⟨⟨yearLow, yearHigh⟩, months.1⟩, months.2⟩, first⟩, day⟩

end MarchDate

/-! ## Dates -/

/-- The date of a day is searched in years that start in March. -/
theorem ofDay_eq_toDate (day : Int) : ofDay day = (MarchDate.ofDay day).toDate := rfl

/-- The date of a day has the number of the day. -/
theorem toDay_ofDay (day : Int) : (ofDay day).toDay = day := by
  rw [ofDay_eq_toDate, MarchDate.toDay_toDate (MarchDate.sound_ofDay day), MarchDate.toDay_ofDay]

/-- A day that a date can have has a date that exists. -/
theorem isValid_ofDay {day : Int} (low : firstDay ≤ day) (high : day ≤ lastDay) :
    (ofDay day).isValid = true := by
  rw [ofDay_eq_toDate]
  apply MarchDate.isValid_toDate (MarchDate.sound_ofDay day)
  · rwa [MarchDate.toDay_ofDay]
  · rwa [MarchDate.toDay_ofDay]

end Workflow.Date
