import Mathlib

set_option autoImplicit false

-- Days and dates of the Gregorian calendar. Years are counted from March inside, so that a leap day is the last of its year.
namespace Calendar

structure Date where
  year : Int
  month : Int
  day : Int
deriving DecidableEq

def daysBefore (year : Int) : Int := 365 * year + year / 4 - year / 100 + year / 400

def dayNumber (date : Date) : Int :=
  let year := if date.month ≤ 2 then date.year - 1 else date.year
  let month := if date.month ≤ 2 then date.month + 9 else date.month - 3
  daysBefore year + (153 * month + 2) / 5 + date.day - 1 - 719468

def dateOf (number : Int) : Date :=
  let days := number + 719468
  let dayOfEra := days % 146097
  let yearOfEra := (dayOfEra - dayOfEra / 1460 + dayOfEra / 36524 - dayOfEra / 146096) / 365
  let year := yearOfEra + days / 146097 * 400
  let dayOfYear := dayOfEra - (365 * yearOfEra + yearOfEra / 4 - yearOfEra / 100)
  let fromMarch := (5 * dayOfYear + 2) / 153
  let month := if fromMarch < 10 then fromMarch + 3 else fromMarch - 9
  ⟨if month ≤ 2 then year + 1 else year, month, dayOfYear - (153 * fromMarch + 2) / 5 + 1⟩

example : dayNumber ⟨2024, 2, 29⟩ = 19782 ∧ dateOf 19782 = ⟨2024, 2, 29⟩ ∧ dateOf (-1) = ⟨1969, 12, 31⟩ := by decide

theorem era_parts (dayOfEra : Int) (low : 0 ≤ dayOfEra) (high : dayOfEra < 146097) :
    ∃ century fours years dayOfYear : Int, dayOfEra = 36524 * century + 1461 * fours + 365 * years + dayOfYear ∧
      0 ≤ century ∧ century ≤ 3 ∧ 0 ≤ fours ∧ fours ≤ 24 ∧ 0 ≤ years ∧ years ≤ 3 ∧ 0 ≤ dayOfYear ∧ dayOfYear ≤ 365 ∧
      (dayOfYear = 365 → years = 3) ∧ (dayOfYear = 365 → fours = 24 → century = 3) := by
  refine ⟨min (dayOfEra / 36524) 3, (dayOfEra - 36524 * min (dayOfEra / 36524) 3) / 1461,
    min ((dayOfEra - 36524 * min (dayOfEra / 36524) 3) % 1461 / 365) 3,
    (dayOfEra - 36524 * min (dayOfEra / 36524) 3) % 1461 -
      365 * min ((dayOfEra - 36524 * min (dayOfEra / 36524) 3) % 1461 / 365) 3, ?_, ?_, ?_, ?_, ?_, ?_, ?_, ?_, ?_, ?_, ?_⟩ <;>
    omega

theorem year_of_era (century fours years dayOfYear : Int) (centuries : 0 ≤ century ∧ century ≤ 3)
    (quads : 0 ≤ fours ∧ fours ≤ 24) (singles : 0 ≤ years ∧ years ≤ 3) (days : 0 ≤ dayOfYear ∧ dayOfYear ≤ 365)
    (leap : dayOfYear = 365 → years = 3) (long : dayOfYear = 365 → fours = 24 → century = 3) :
    let dayOfEra := 36524 * century + 1461 * fours + 365 * years + dayOfYear
    (dayOfEra - dayOfEra / 1460 + dayOfEra / 36524 - dayOfEra / 146096) / 365 = 100 * century + 4 * fours + years := by
  intro dayOfEra
  have quarter : dayOfEra / 1460 = 25 * century + fours + (24 * century + fours + 365 * years + dayOfYear) / 1460 := by
    omega
  have hundred : dayOfEra / 36524 - dayOfEra / 146096 = century := by
    by_cases last : fours = 24 ∧ dayOfYear = 365
    · have final := long last.2 last.1
      have third := leap last.2
      omega
    · have inside : 1461 * fours + 365 * years + dayOfYear ≤ 36523 := by omega
      have whole : dayOfEra / 36524 = century := by omega
      omega
  omega

theorem date_assembled (number year dayOfYear : Int) (low : 0 ≤ dayOfYear) (high : dayOfYear ≤ 365)
    (days : daysBefore year + dayOfYear - 719468 = number) :
    let fromMarch := (5 * dayOfYear + 2) / 153
    let month := if fromMarch < 10 then fromMarch + 3 else fromMarch - 9
    let date : Date := ⟨if month ≤ 2 then year + 1 else year, month, dayOfYear - (153 * fromMarch + 2) / 5 + 1⟩
    dayNumber date = number ∧ 1 ≤ date.month ∧ date.month ≤ 12 ∧ 1 ≤ date.day ∧ date.day ≤ 31 := by
  intro fromMarch month date
  have first : 0 ≤ fromMarch := by omega
  have last : fromMarch ≤ 11 := by omega
  have dayIs : date.day = dayOfYear - (153 * fromMarch + 2) / 5 + 1 := rfl
  have dayLow : 1 ≤ date.day := by omega
  have dayHigh : date.day ≤ 31 := by omega
  by_cases early : fromMarch < 10
  · have monthIs : month = fromMarch + 3 := if_pos early
    have yearIs : date.year = year := if_neg (by omega)
    have monthOf : date.month = fromMarch + 3 := monthIs
    refine ⟨?_, by omega, by omega, dayLow, dayHigh⟩
    rw [dayNumber, if_neg (by omega), if_neg (by omega), yearIs, monthOf]
    simp only [date]
    rw [Int.add_sub_cancel]
    omega
  · have monthIs : month = fromMarch - 9 := if_neg early
    have yearIs : date.year = year + 1 := if_pos (by omega)
    have monthOf : date.month = fromMarch - 9 := monthIs
    refine ⟨?_, by omega, by omega, dayLow, dayHigh⟩
    rw [dayNumber, if_pos (by omega), if_pos (by omega), yearIs, monthOf]
    simp only [date]
    rw [Int.add_sub_cancel, Int.sub_add_cancel]
    omega

theorem year_of_parts (century fours years era : Int) (foursLow : 0 ≤ fours) (foursHigh : fours ≤ 24)
    (centuries : 0 ≤ century ∧ century ≤ 3) (singles : 0 ≤ years ∧ years ≤ 3) :
    (100 * century + 4 * fours + years) / 4 = 25 * century + fours ∧
      (100 * century + 4 * fours + years) / 100 = century ∧
      daysBefore (100 * century + 4 * fours + years + era * 400) =
        36524 * century + 1461 * fours + 365 * years + era * 146097 := by
  have quarters : (100 * century + 4 * fours + years + era * 400) / 4 = 25 * century + fours + era * 100 := by omega
  have hundreds : (100 * century + 4 * fours + years + era * 400) / 100 = century + era * 4 := by omega
  have eras : (100 * century + 4 * fours + years + era * 400) / 400 = era := by omega
  refine ⟨by omega, by omega, ?_⟩
  rw [daysBefore, quarters, hundreds, eras]
  omega

def Leap (year : Int) : Prop := year % 4 = 0 ∧ (year % 100 ≠ 0 ∨ year % 400 = 0)

instance (year : Int) : Decidable (Leap year) := inferInstanceAs (Decidable (_ ∧ _))

variable (number : Int)

theorem date_of_parts : ∃ year dayOfYear : Int, 0 ≤ dayOfYear ∧
    dayOfYear < 365 + (if Leap (year + 1) then 1 else 0) ∧ daysBefore year + dayOfYear - 719468 = number ∧
    dateOf number =
      let fromMarch := (5 * dayOfYear + 2) / 153
      let month := if fromMarch < 10 then fromMarch + 3 else fromMarch - 9
      ⟨if month ≤ 2 then year + 1 else year, month, dayOfYear - (153 * fromMarch + 2) / 5 + 1⟩ := by
  have whole := Int.emod_add_mul_ediv (number + 719468) 146097
  have low : 0 ≤ (number + 719468) % 146097 := Int.emod_nonneg _ (by decide)
  have high : (number + 719468) % 146097 < 146097 := Int.emod_lt_of_pos _ (by decide)
  simp only [dateOf]
  generalize (number + 719468) / 146097 = era at whole ⊢
  generalize (number + 719468) % 146097 = dayOfEra at whole low high ⊢
  obtain ⟨century, fours, years, dayOfYear, rfl, centuryLow, centuryHigh, foursLow, foursHigh, yearsLow, yearsHigh,
    dayLow, dayHigh, leap, long⟩ := era_parts dayOfEra low high
  obtain ⟨quarters, hundreds, year⟩ := year_of_parts century fours years era foursLow foursHigh
    ⟨centuryLow, centuryHigh⟩ ⟨yearsLow, yearsHigh⟩
  have yearOfEra := year_of_era century fours years dayOfYear ⟨centuryLow, centuryHigh⟩ ⟨foursLow, foursHigh⟩
    ⟨yearsLow, yearsHigh⟩ ⟨dayLow, dayHigh⟩ leap long
  have rest : 36524 * century + 1461 * fours + 365 * years + dayOfYear -
      (365 * (100 * century + 4 * fours + years) + (25 * century + fours) - century) = dayOfYear := by
    clear yearOfEra quarters hundreds year
    omega
  refine ⟨100 * century + 4 * fours + years + era * 400, dayOfYear, dayLow, ?_, ?_, ?_⟩
  · clear yearOfEra quarters hundreds year rest whole low high
    split
    · omega
    · rename_i plain
      by_contra last
      exact plain ⟨by omega, by omega⟩
  · rw [year]
    clear yearOfEra quarters hundreds year rest
    omega
  · rw [yearOfEra, quarters, hundreds, rest]

theorem day_number_of_date :
    dayNumber (dateOf number) = number ∧ 1 ≤ (dateOf number).month ∧ (dateOf number).month ≤ 12 ∧
      1 ≤ (dateOf number).day ∧ (dateOf number).day ≤ 31 := by
  obtain ⟨year, dayOfYear, low, high, days, date⟩ := date_of_parts number
  rw [date]
  refine date_assembled number year dayOfYear low ?_ days
  split at high <;> omega

def daysInMonth (year month : Int) : Int :=
  if month = 2 then if Leap year then 29 else 28
  else if month = 4 ∨ month = 6 ∨ month = 9 ∨ month = 11 then 30
  else 31

theorem days_in_month_most (year month : Int) : daysInMonth year month ≤ 31 := by
  unfold daysInMonth
  split
  · split <;> omega
  · split <;> omega

structure Date.Valid (date : Date) : Prop where
  monthLow : 1 ≤ date.month
  monthHigh : date.month ≤ 12
  dayLow : 1 ≤ date.day
  dayHigh : date.day ≤ daysInMonth date.year date.month

instance (date : Date) : Decidable date.Valid :=
  decidable_of_iff (1 ≤ date.month ∧ date.month ≤ 12 ∧ 1 ≤ date.day ∧ date.day ≤ daysInMonth date.year date.month)
    ⟨fun parts => ⟨parts.1, parts.2.1, parts.2.2.1, parts.2.2.2⟩,
      fun valid => ⟨valid.monthLow, valid.monthHigh, valid.dayLow, valid.dayHigh⟩⟩

def Date.Before (first second : Date) : Prop :=
  first.year < second.year ∨ first.year = second.year ∧
    (first.month < second.month ∨ first.month = second.month ∧ first.day < second.day)

example : (Date.mk 2024 2 29).Valid ∧ ¬ (Date.mk 2023 2 29).Valid ∧ ¬ (Date.mk 1900 2 29).Valid ∧
    (Date.mk 2000 2 29).Valid := by decide

def Date.marchYear (date : Date) : Int := if date.month ≤ 2 then date.year - 1 else date.year
def Date.dayOfMarchYear (date : Date) : Int :=
  (153 * (if date.month ≤ 2 then date.month + 9 else date.month - 3) + 2) / 5 + date.day - 1

variable (date : Date)

theorem day_number_parts :
    dayNumber date = daysBefore date.marchYear + date.dayOfMarchYear - 719468 := by
  simp only [dayNumber, Date.marchYear, Date.dayOfMarchYear]
  ring

theorem year_length (year : Int) :
    daysBefore (year + 1) = daysBefore year + 365 + if Leap (year + 1) then 1 else 0 := by
  unfold daysBefore
  split
  · rename_i leap
    obtain ⟨four, hundred | fourHundred⟩ := leap <;> omega
  · rename_i plain
    have parts : (year + 1) % 4 ≠ 0 ∨ (year + 1) % 100 = 0 ∧ (year + 1) % 400 ≠ 0 := by
      by_contra other
      exact plain ⟨by omega, by omega⟩
    omega

theorem days_before_mono (first second : Int) (later : first ≤ second) : daysBefore first ≤ daysBefore second := by
  unfold daysBefore
  omega

theorem day_of_march_year_bounds (valid : date.Valid) :
    0 ≤ date.dayOfMarchYear ∧ date.dayOfMarchYear < 365 + if Leap (date.marchYear + 1) then 1 else 0 := by
  obtain ⟨monthLow, monthHigh, dayLow, dayHigh⟩ := valid
  unfold Date.dayOfMarchYear Date.marchYear
  unfold daysInMonth at dayHigh
  by_cases winter : date.month ≤ 2
  · rw [if_pos winter, if_pos winter, Int.sub_add_cancel]
    split at dayHigh
    · split at dayHigh <;> split <;> omega
    · split <;> omega
  · rw [if_neg winter, if_neg winter]
    rw [if_neg (by omega)] at dayHigh
    split at dayHigh <;> split <;> omega

theorem month_days_mono (first second : Int) (later : first ≤ second) :
    (153 * first + 2) / 5 ≤ (153 * second + 2) / 5 := by
  omega

theorem month_length (month : Int) (low : 3 ≤ month) (high : month ≤ 12) :
    (153 * (month - 3 + 1) + 2) / 5 = (153 * (month - 3) + 2) / 5 +
      if month = 4 ∨ month = 6 ∨ month = 9 ∨ month = 11 then 30 else 31 := by
  interval_cases month <;> rfl

variable (first second : Date)

theorem march_order (firstValid : first.Valid) (secondValid : second.Valid)
    (before : first.Before second) : first.marchYear < second.marchYear ∨
      first.marchYear = second.marchYear ∧ first.dayOfMarchYear < second.dayOfMarchYear := by
  obtain ⟨firstLow, firstHigh, -, dayHigh⟩ := firstValid
  obtain ⟨secondLow, -, dayLow, -⟩ := secondValid
  unfold daysInMonth at dayHigh
  unfold Date.Before at before
  unfold Date.marchYear Date.dayOfMarchYear
  by_cases winter : first.month ≤ 2
  · rw [if_pos winter, if_pos winter]
    split at dayHigh
    · split at dayHigh <;> split <;> omega
    · rw [if_neg (by omega)] at dayHigh
      split <;> omega
  · rw [if_neg winter, if_neg winter]
    rw [if_neg (by omega)] at dayHigh
    by_cases secondWinter : second.month ≤ 2
    · rw [if_pos secondWinter, if_pos secondWinter]
      split at dayHigh <;> omega
    · rw [if_neg secondWinter, if_neg secondWinter]
      obtain year | ⟨sameYear, month | ⟨sameMonth, day⟩⟩ := before
      · exact .inl year
      · have next := month_days_mono (first.month - 3 + 1) (second.month - 3) (by omega)
        rw [month_length first.month (by omega) firstHigh] at next
        exact .inr ⟨sameYear, by omega⟩
      · refine .inr ⟨sameYear, ?_⟩
        rw [sameMonth]
        omega

theorem day_number_increases (firstValid : first.Valid) (secondValid : second.Valid)
    (before : first.Before second) : dayNumber first < dayNumber second := by
  rw [day_number_parts, day_number_parts]
  obtain earlier | ⟨same, day⟩ := march_order first second firstValid secondValid before
  · obtain ⟨-, firstDay⟩ := day_of_march_year_bounds first firstValid
    obtain ⟨secondDay, -⟩ := day_of_march_year_bounds second secondValid
    have length := year_length first.marchYear
    have mono := days_before_mono (first.marchYear + 1) second.marchYear (by omega)
    omega
  · rw [same]
    omega

theorem before_or_after : first.Before second ∨ first = second ∨ second.Before first := by
  obtain ⟨firstYear, firstMonth, firstDay⟩ := first
  obtain ⟨secondYear, secondMonth, secondDay⟩ := second
  simp only [Date.Before, Date.mk.injEq]
  omega

theorem same_day_number (firstValid : first.Valid) (secondValid : second.Valid)
    (same : dayNumber first = dayNumber second) : first = second := by
  obtain before | equal | after := before_or_after first second
  · have less := day_number_increases first second firstValid secondValid before
    omega
  · exact equal
  · have less := day_number_increases second first secondValid firstValid after
    omega

theorem assembled_valid (year dayOfYear : Int) (low : 0 ≤ dayOfYear)
    (high : dayOfYear < 365 + if Leap (year + 1) then 1 else 0) :
    let fromMarch := (5 * dayOfYear + 2) / 153
    let month := if fromMarch < 10 then fromMarch + 3 else fromMarch - 9
    (Date.mk (if month ≤ 2 then year + 1 else year) month (dayOfYear - (153 * fromMarch + 2) / 5 + 1)).Valid := by
  intro fromMarch month
  have last : dayOfYear ≤ 365 := by
    split at high <;> omega
  have first : 0 ≤ fromMarch := by omega
  have most : fromMarch ≤ 11 := by omega
  have place : fromMarch = (5 * dayOfYear + 2) / 153 := rfl
  by_cases early : fromMarch < 10
  · have monthIs : month = fromMarch + 3 := if_pos early
    rw [monthIs, if_neg (by omega)]
    refine ⟨by simp only; omega, by simp only; omega, by simp only; omega, ?_⟩
    have length := month_length (fromMarch + 3) (by omega) (by omega)
    simp only [daysInMonth]
    rw [if_neg (by omega)]
    rw [Int.add_sub_cancel] at length
    omega
  · have monthIs : month = fromMarch - 9 := if_neg early
    rw [monthIs, if_pos (by omega)]
    refine ⟨by simp only; omega, by simp only; omega, by simp only; omega, ?_⟩
    simp only [daysInMonth]
    split
    · split at high <;> split <;> omega
    · rw [if_neg (by omega)]
      omega

theorem date_of_valid : (dateOf number).Valid := by
  obtain ⟨year, dayOfYear, low, high, -, date⟩ := date_of_parts number
  rw [date]
  exact assembled_valid year dayOfYear low high

theorem date_of_day_number (valid : date.Valid) : dateOf (dayNumber date) = date :=
  same_day_number _ _ (date_of_valid _) valid (day_number_of_date _).1

end Calendar
