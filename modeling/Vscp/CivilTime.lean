import Vscp.Lib.Calendar

set_option autoImplicit false

namespace Vscp.CivilTime

open Calendar

-- `int` and `unsigned` have 32 bits.
structure CivilDate where
  year : Int32
  month : Int32
  day : Int32
deriving DecidableEq

def CivilDate.date (civil : CivilDate) : Date := ⟨civil.year.toInt, civil.month.toInt, civil.day.toInt⟩

def daysFromCivil (civil : CivilDate) : Int64 :=
  let year := if civil.month ≤ 2 then civil.year - 1 else civil.year
  let era := (if 0 ≤ year then year else year - 399) / 400
  let yoe : UInt32 := (year - era * 400).toUInt32
  let doy : UInt32 :=
    ((153 * (civil.month + if 2 < civil.month then -3 else 9) + 2) / 5 + civil.day - 1).toUInt32
  let doe := yoe * 365 + yoe / 4 - yoe / 100 + doy
  era.toInt64 * 146097 + doe.toUInt64.toInt64 - 719468

def civilFromDays (z : Int64) : CivilDate :=
  let z := z + 719468
  let era := (if 0 ≤ z then z else z - 146096) / 146097
  let doe : UInt32 := (z - era * 146097).toUInt64.toUInt32
  let yoe := (doe - doe / 1460 + doe / 36524 - doe / 146096) / 365
  let yFull := yoe.toUInt64.toInt64 + era * 400
  let doy := doe - (365 * yoe + yoe / 4 - yoe / 100)
  let mp := (5 * doy + 2) / 153
  let dFull := doy - (153 * mp + 2) / 5 + 1
  -- The -9 is added to an unsigned number.
  let mFull := mp + if mp < 10 then 3 else -9
  ⟨(yFull + if mFull ≤ 2 then 1 else 0).toInt32, mFull.toInt32, dFull.toInt32⟩

def nsPerSec : Int64 := 1000000000
def secsPerDay : Int64 := 86400

structure CivilFields where
  civil : CivilDate
  hour : Int32
  minute : Int32
  second : Int32
  timestamp : UInt32
deriving DecidableEq

def toUnixNs (fields : CivilFields) : Int64 :=
  let days := daysFromCivil fields.civil
  let totalSeconds := days * secsPerDay + fields.hour.toInt64 * 3600 + fields.minute.toInt64 * 60 + fields.second.toInt64
  totalSeconds * nsPerSec + fields.timestamp.toUInt64.toInt64 * 1000

def fromUnixNs (unixNs : Int64) : CivilFields :=
  let sec := unixNs / nsPerSec
  let nsec := unixNs % nsPerSec
  let before := nsec < 0
  let sec := if before then sec - 1 else sec
  let nsec := if before then nsec + nsPerSec else nsec
  let days := sec / secsPerDay
  let rem := sec % secsPerDay
  let early := rem < 0
  let days := if early then days - 1 else days
  let rem := if early then rem + secsPerDay else rem
  ⟨civilFromDays days, (rem / 3600).toInt32, (rem % 3600 / 60).toInt32, (rem % 3600 % 60).toInt32,
    (nsec / 1000).toUInt64.toUInt32⟩

example : civilFromDays 19782 = ⟨2024, 2, 29⟩ ∧ daysFromCivil ⟨2024, 2, 29⟩ = 19782 ∧
    fromUnixNs (-1) = ⟨⟨1969, 12, 31⟩, 23, 59, 59, 999999⟩ := by decide

section words

variable (a b : Int32) (c d : Int64)

theorem add32 (low : -2 ^ 31 ≤ a.toInt + b.toInt) (high : a.toInt + b.toInt < 2 ^ 31) :
    (a + b).toInt = a.toInt + b.toInt := by
  rw [Int32.toInt_add]
  exact Int.bmod_eq_of_le (by omega) (by omega)

theorem sub32 (low : -2 ^ 31 ≤ a.toInt - b.toInt) (high : a.toInt - b.toInt < 2 ^ 31) :
    (a - b).toInt = a.toInt - b.toInt := by
  rw [Int32.toInt_sub]
  exact Int.bmod_eq_of_le (by omega) (by omega)

theorem mul32 (low : -2 ^ 31 ≤ a.toInt * b.toInt) (high : a.toInt * b.toInt < 2 ^ 31) :
    (a * b).toInt = a.toInt * b.toInt := by
  rw [Int32.toInt_mul]
  exact Int.bmod_eq_of_le (by omega) (by omega)

theorem add64 (low : -2 ^ 63 ≤ c.toInt + d.toInt) (high : c.toInt + d.toInt < 2 ^ 63) :
    (c + d).toInt = c.toInt + d.toInt := by
  rw [Int64.toInt_add]
  exact Int.bmod_eq_of_le (by omega) (by omega)

theorem sub64 (low : -2 ^ 63 ≤ c.toInt - d.toInt) (high : c.toInt - d.toInt < 2 ^ 63) :
    (c - d).toInt = c.toInt - d.toInt := by
  rw [Int64.toInt_sub]
  exact Int.bmod_eq_of_le (by omega) (by omega)

theorem mul64 (low : -2 ^ 63 ≤ c.toInt * d.toInt) (high : c.toInt * d.toInt < 2 ^ 63) :
    (c * d).toInt = c.toInt * d.toInt := by
  rw [Int64.toInt_mul]
  exact Int.bmod_eq_of_le (by omega) (by omega)

theorem shifted_quotient (x d : Int) (positive : 0 < d) (negative : x < 0) : (x - (d - 1)).tdiv d = x / d := by
  have low := Int.emod_nonneg x (Int.ne_of_gt positive)
  have high := Int.emod_lt_of_pos x positive
  have parts := Int.emod_add_mul_ediv x d
  have mirrored := Int.neg_tdiv (x - (d - 1)) d
  have split : -(x - (d - 1)) = (d - 1 - x % d) + d * -(x / d) := by linear_combination parts
  have rest : (d - 1 - x % d) / d = 0 := Int.ediv_eq_zero_of_lt (by omega) (by omega)
  rw [Int.tdiv_eq_ediv_of_nonneg (by omega), split, Int.add_mul_ediv_left _ _ (Int.ne_of_gt positive), rest,
    Int.zero_add] at mirrored
  exact (neg_injective mirrored).symm

theorem unsigned_of_int32 (nonneg : 0 ≤ a.toInt) : (a.toUInt32.toNat : Int) = a.toInt := by
  have le : (0 : Int32) ≤ a := Int32.le_iff_toInt_le.mpr nonneg
  rw [Int32.toNat_toUInt32_of_le le]
  exact Int.toNat_of_nonneg nonneg

theorem signed_of_unsigned (value : UInt32) : value.toUInt64.toInt64.toInt = value.toNat := by
  have small : value.toUInt64.toBitVec.toNat = value.toNat := UInt32.toNat_toUInt64 value
  have bound := value.toNat_lt
  change value.toUInt64.toBitVec.toInt = value.toNat
  rw [BitVec.toInt_eq_toNat_bmod, small]
  exact Int.bmod_eq_of_le (by omega) (by omega)

theorem add_unsigned (left right : UInt32) (fits : left.toNat + right.toNat < 2 ^ 32) :
    (left + right).toNat = left.toNat + right.toNat := by
  rw [UInt32.toNat_add, Nat.mod_eq_of_lt fits]

theorem mul_unsigned (left right : UInt32) (fits : left.toNat * right.toNat < 2 ^ 32) :
    (left * right).toNat = left.toNat * right.toNat := by
  rw [UInt32.toNat_mul, Nat.mod_eq_of_lt fits]

theorem sub_unsigned (left right : UInt32) (fits : right.toNat ≤ left.toNat) :
    (left - right).toNat = left.toNat - right.toNat :=
  UInt32.toNat_sub_of_le _ _ (UInt32.le_iff_toNat_le.mpr fits)

end words

-- The year must leave room for the 399 that are taken from a negative one.
def InRange (date : Date) : Prop := -2 ^ 31 + 399 ≤ date.marchYear

section encode

variable (civil : CivilDate)

theorem march_year_word (room : InRange civil.date) :
    (if civil.month ≤ 2 then civil.year - 1 else civil.year).toInt = civil.date.marchYear := by
  unfold InRange at room
  have two : (2 : Int32).toInt = 2 := rfl
  have one : (1 : Int32).toInt = 1 := rfl
  have bound := civil.year.toInt_lt
  unfold Date.marchYear CivilDate.date at room ⊢
  simp only [Int32.le_iff_toInt_le, two]
  simp only at room ⊢
  split
  · rename_i winter
    rw [if_pos winter] at room
    rw [sub32 _ _ (by omega) (by omega), one]
  · rfl

theorem era_word (year : Int32) (room : -2 ^ 31 + 399 ≤ year.toInt) :
    ((if 0 ≤ year then year else year - 399) / 400).toInt = year.toInt / 400 := by
  have zero : (0 : Int32).toInt = 0 := rfl
  have span : (399 : Int32).toInt = 399 := rfl
  have divisor : (400 : Int32).toInt = 400 := rfl
  have bound := year.toInt_lt
  rw [Int32.toInt_div_of_ne_right _ _ (by decide), divisor]
  simp only [Int32.le_iff_toInt_le, zero]
  split
  · exact Int.tdiv_eq_ediv_of_nonneg (by assumption)
  · rw [sub32 _ _ (by omega) (by omega), span]
    exact shifted_quotient year.toInt 400 (by decide) (by omega)

theorem year_of_era_word (year era : Int32) (room : -2 ^ 31 + 399 ≤ year.toInt) (quotient : era.toInt = year.toInt / 400) :
    ((year - era * 400).toUInt32.toNat : Int) = year.toInt % 400 := by
  have divisor : (400 : Int32).toInt = 400 := rfl
  have low := year.le_toInt
  have high := year.toInt_lt
  have product : (era * 400).toInt = year.toInt / 400 * 400 := by
    rw [mul32 _ _ (by rw [divisor]; omega) (by rw [divisor]; omega), divisor, quotient]
  have rest : (year - era * 400).toInt = year.toInt % 400 := by
    rw [sub32 _ _ (by omega) (by omega), product]
    omega
  rw [unsigned_of_int32 _ (by omega), rest]

theorem march_month_word (month : Int32) (low : 1 ≤ month.toInt) (high : month.toInt ≤ 12) :
    (month + if 2 < month then -3 else 9).toInt = if month.toInt ≤ 2 then month.toInt + 9 else month.toInt - 3 := by
  have two : (2 : Int32).toInt = 2 := rfl
  have back : (-3 : Int32).toInt = -3 := rfl
  have on : (9 : Int32).toInt = 9 := rfl
  simp only [Int32.lt_iff_toInt_lt, two]
  by_cases winter : month.toInt ≤ 2
  · rw [if_pos winter, if_neg (by omega), add32 _ _ (by omega) (by omega), on]
  · rw [if_neg winter, if_pos (by omega), add32 _ _ (by omega) (by omega), back]
    rfl

theorem day_of_year_word (valid : civil.date.Valid) :
    (((153 * (civil.month + if 2 < civil.month then -3 else 9) + 2) / 5 + civil.day - 1).toUInt32.toNat : Int) =
      civil.date.dayOfMarchYear := by
  have month := march_month_word civil.month valid.monthLow valid.monthHigh
  have dayLow : 1 ≤ civil.day.toInt := valid.dayLow
  have dayHigh : civil.day.toInt ≤ 31 := by
    have bound := valid.dayHigh
    unfold daysInMonth at bound
    change civil.day.toInt ≤ _ at bound
    split at bound
    · split at bound <;> omega
    · split at bound <;> omega
  have monthLow : 1 ≤ civil.month.toInt := valid.monthLow
  have monthHigh : civil.month.toInt ≤ 12 := valid.monthHigh
  unfold Date.dayOfMarchYear
  change _ = (153 * (if civil.month.toInt ≤ 2 then civil.month.toInt + 9 else civil.month.toInt - 3) + 2) / 5 +
    civil.day.toInt - 1
  rw [← month]
  have bounds : 0 ≤ (civil.month + if 2 < civil.month then -3 else 9).toInt ∧
      (civil.month + if 2 < civil.month then -3 else 9).toInt ≤ 11 := by
    rw [month]
    split <;> omega
  generalize civil.month + (if 2 < civil.month then -3 else 9) = shifted at bounds ⊢
  have scale : (153 : Int32).toInt = 153 := rfl
  have two : (2 : Int32).toInt = 2 := rfl
  have five : (5 : Int32).toInt = 5 := rfl
  have one : (1 : Int32).toInt = 1 := rfl
  have product : (153 * shifted).toInt = 153 * shifted.toInt := by
    rw [mul32 _ _ (by rw [scale]; omega) (by rw [scale]; omega), scale]
  have sum : (153 * shifted + 2).toInt = 153 * shifted.toInt + 2 := by
    rw [add32 _ _ (by omega) (by omega), product, two]
  have quotient : ((153 * shifted + 2) / 5).toInt = (153 * shifted.toInt + 2) / 5 := by
    rw [Int32.toInt_div_of_ne_right _ _ (by decide), sum, five, Int.tdiv_eq_ediv_of_nonneg (by omega)]
  have days : ((153 * shifted + 2) / 5 + civil.day).toInt = (153 * shifted.toInt + 2) / 5 + civil.day.toInt := by
    rw [add32 _ _ (by omega) (by omega), quotient]
  have rest : ((153 * shifted + 2) / 5 + civil.day - 1).toInt = (153 * shifted.toInt + 2) / 5 + civil.day.toInt - 1 := by
    rw [sub32 _ _ (by omega) (by omega), days, one]
  rw [unsigned_of_int32 _ (by omega), rest]

theorem day_of_era_word (yoe doy : UInt32) (year : yoe.toNat < 400) (day : doy.toNat < 366) :
    ((yoe * 365 + yoe / 4 - yoe / 100 + doy).toNat : Int) =
      yoe.toNat * 365 + yoe.toNat / 4 - yoe.toNat / 100 + doy.toNat := by
  have four : (yoe / 4).toNat = yoe.toNat / 4 := rfl
  have hundred : (yoe / 100).toNat = yoe.toNat / 100 := rfl
  have days : (yoe * 365).toNat = yoe.toNat * 365 := mul_unsigned yoe 365 (by change yoe.toNat * 365 < 2 ^ 32; omega)
  have sum : (yoe * 365 + yoe / 4).toNat = yoe.toNat * 365 + yoe.toNat / 4 := by
    rw [add_unsigned _ _ (by omega), days, four]
  have difference : (yoe * 365 + yoe / 4 - yoe / 100).toNat =
      yoe.toNat * 365 + yoe.toNat / 4 - yoe.toNat / 100 := by
    rw [sub_unsigned _ _ (by omega), sum, hundred]
  rw [add_unsigned _ _ (by omega), difference]
  omega

theorem era_days_wide (era : Int32) (doe : UInt32) :
    (era.toInt64 * 146097 + doe.toUInt64.toInt64 - 719468).toInt = era.toInt * 146097 + doe.toNat - 719468 := by
  have eraDays : (146097 : Int64).toInt = 146097 := rfl
  have shift : (719468 : Int64).toInt = 719468 := rfl
  have low := era.le_toInt
  have high := era.toInt_lt
  have bound := doe.toNat_lt
  have product : (era.toInt64 * 146097).toInt = era.toInt * 146097 := by
    rw [mul64 _ _ (by rw [Int32.toInt_toInt64, eraDays]; omega) (by rw [Int32.toInt_toInt64, eraDays]; omega),
      Int32.toInt_toInt64, eraDays]
  have sum : (era.toInt64 * 146097 + doe.toUInt64.toInt64).toInt = era.toInt * 146097 + doe.toNat := by
    rw [add64 _ _ (by rw [product, signed_of_unsigned]; omega) (by rw [product, signed_of_unsigned]; omega), product,
      signed_of_unsigned]
  rw [sub64 _ _ (by omega) (by omega), sum, shift]

theorem days_from_civil_number (valid : civil.date.Valid) (room : InRange civil.date) :
    (daysFromCivil civil).toInt = dayNumber civil.date := by
  have marchYear := march_year_word civil room
  have dayOfYear := day_of_year_word civil valid
  obtain ⟨dayLow, dayHigh⟩ := day_of_march_year_bounds civil.date valid
  unfold InRange at room
  rw [day_number_parts]
  unfold daysFromCivil
  simp only
  generalize (if civil.month ≤ 2 then civil.year - 1 else civil.year) = year at marchYear ⊢
  generalize ((153 * (civil.month + if 2 < civil.month then -3 else 9) + 2) / 5 + civil.day - 1).toUInt32 = doy
    at dayOfYear ⊢
  rw [← marchYear] at room
  have eraValue := era_word year room
  generalize (if 0 ≤ year then year else year - 399) / 400 = era at eraValue ⊢
  have yearOfEra := year_of_era_word year era room eraValue
  generalize (year - era * 400).toUInt32 = yoe at yearOfEra ⊢
  have yearSmall : yoe.toNat < 400 := by omega
  have daySmall : doy.toNat < 366 := by
    split at dayHigh <;> omega
  have dayOfEra := day_of_era_word yoe doy yearSmall daySmall
  generalize yoe * 365 + yoe / 4 - yoe / 100 + doy = doe at dayOfEra ⊢
  rw [era_days_wide era doe, eraValue, dayOfEra, dayOfYear, yearOfEra, marchYear]
  unfold daysBefore
  omega

end encode

section decode

theorem era_year_and_day (dayOfEra : Int) (low : 0 ≤ dayOfEra) (high : dayOfEra < 146097) :
    let yearOfEra := (dayOfEra - dayOfEra / 1460 + dayOfEra / 36524 - dayOfEra / 146096) / 365
    0 ≤ yearOfEra ∧ yearOfEra ≤ 399 ∧ 0 ≤ dayOfEra - (365 * yearOfEra + yearOfEra / 4 - yearOfEra / 100) ∧
      dayOfEra - (365 * yearOfEra + yearOfEra / 4 - yearOfEra / 100) ≤ 365 := by
  obtain ⟨century, fours, years, dayOfYear, rfl, centuryLow, centuryHigh, foursLow, foursHigh, yearsLow, yearsHigh,
    dayLow, dayHigh, leap, long⟩ := era_parts dayOfEra low high
  intro yearOfEra
  have year : yearOfEra = 100 * century + 4 * fours + years :=
    year_of_era century fours years dayOfYear ⟨centuryLow, centuryHigh⟩ ⟨foursLow, foursHigh⟩
      ⟨yearsLow, yearsHigh⟩ ⟨dayLow, dayHigh⟩ leap long
  obtain ⟨quarters, hundreds, -⟩ := year_of_parts century fours years 0 foursLow foursHigh ⟨centuryLow, centuryHigh⟩
    ⟨yearsLow, yearsHigh⟩
  rw [year, quarters, hundreds]
  exact ⟨by omega, by omega, by omega, by omega⟩

theorem era_wide (z : Int64) (room : -2 ^ 63 + 146096 ≤ z.toInt) :
    ((if 0 ≤ z then z else z - 146096) / 146097).toInt = z.toInt / 146097 := by
  have zero : (0 : Int64).toInt = 0 := rfl
  have span : (146096 : Int64).toInt = 146096 := rfl
  have divisor : (146097 : Int64).toInt = 146097 := rfl
  have bound := z.toInt_lt
  rw [Int64.toInt_div_of_ne_right _ _ (by decide), divisor]
  simp only [Int64.le_iff_toInt_le, zero]
  split
  · exact Int.tdiv_eq_ediv_of_nonneg (by assumption)
  · rw [sub64 _ _ (by omega) (by omega), span]
    exact shifted_quotient z.toInt 146097 (by decide) (by omega)

theorem unsigned_of_int64 (value : Int64) (low : 0 ≤ value.toInt) (high : value.toInt < 2 ^ 32) :
    (value.toUInt64.toUInt32.toNat : Int) = value.toInt := by
  have le : (0 : Int64) ≤ value := Int64.le_iff_toInt_le.mpr low
  have wide : (value.toUInt64.toNat : Int) = value.toInt := by
    rw [Int64.toNat_toUInt64_of_le le]
    exact Int.toNat_of_nonneg low
  rw [UInt64.toNat_toUInt32]
  omega

theorem day_of_era_wide (z era : Int64) (room : -2 ^ 63 + 146096 ≤ z.toInt) (quotient : era.toInt = z.toInt / 146097) :
    ((z - era * 146097).toUInt64.toUInt32.toNat : Int) = z.toInt % 146097 := by
  have divisor : (146097 : Int64).toInt = 146097 := rfl
  have high := z.toInt_lt
  have product : (era * 146097).toInt = z.toInt / 146097 * 146097 := by
    rw [mul64 _ _ (by rw [divisor]; omega) (by rw [divisor]; omega), divisor, quotient]
  have rest : (z - era * 146097).toInt = z.toInt % 146097 := by
    rw [sub64 _ _ (by omega) (by omega), product]
    omega
  rw [unsigned_of_int64 _ (by omega) (by omega), rest]

theorem year_of_era_unsigned (doe : UInt32) (small : doe.toNat < 146097) :
    (((doe - doe / 1460 + doe / 36524 - doe / 146096) / 365).toNat : Int) =
      ((doe.toNat : Int) - doe.toNat / 1460 + doe.toNat / 36524 - doe.toNat / 146096) / 365 := by
  have quarter : (doe / 1460).toNat = doe.toNat / 1460 := rfl
  have hundred : (doe / 36524).toNat = doe.toNat / 36524 := rfl
  have last : (doe / 146096).toNat = doe.toNat / 146096 := rfl
  have first : (doe - doe / 1460).toNat = doe.toNat - doe.toNat / 1460 := by
    rw [sub_unsigned _ _ (by omega), quarter]
  have second : (doe - doe / 1460 + doe / 36524).toNat = doe.toNat - doe.toNat / 1460 + doe.toNat / 36524 := by
    rw [add_unsigned _ _ (by omega), first, hundred]
  have third : (doe - doe / 1460 + doe / 36524 - doe / 146096).toNat =
      doe.toNat - doe.toNat / 1460 + doe.toNat / 36524 - doe.toNat / 146096 := by
    rw [sub_unsigned _ _ (by omega), second, last]
  have whole : ((doe - doe / 1460 + doe / 36524 - doe / 146096) / 365).toNat =
      (doe - doe / 1460 + doe / 36524 - doe / 146096).toNat / 365 := rfl
  rw [whole, third]
  omega

theorem day_of_year_unsigned (doe yoe : UInt32) (year : yoe.toNat ≤ 399)
    (inside : 365 * yoe.toNat + yoe.toNat / 4 ≤ doe.toNat + yoe.toNat / 100) :
    ((doe - (365 * yoe + yoe / 4 - yoe / 100)).toNat : Int) =
      (doe.toNat : Int) - (365 * yoe.toNat + yoe.toNat / 4 - yoe.toNat / 100) := by
  have four : (yoe / 4).toNat = yoe.toNat / 4 := rfl
  have hundred : (yoe / 100).toNat = yoe.toNat / 100 := rfl
  have days : (365 * yoe).toNat = 365 * yoe.toNat := mul_unsigned 365 yoe (by change 365 * yoe.toNat < 2 ^ 32; omega)
  have sum : (365 * yoe + yoe / 4).toNat = 365 * yoe.toNat + yoe.toNat / 4 := by
    rw [add_unsigned _ _ (by omega), days, four]
  have before : (365 * yoe + yoe / 4 - yoe / 100).toNat = 365 * yoe.toNat + yoe.toNat / 4 - yoe.toNat / 100 := by
    rw [sub_unsigned _ _ (by omega), sum, hundred]
  rw [sub_unsigned _ _ (by omega), before]
  omega

theorem month_and_day_unsigned (doy : UInt32) (small : doy.toNat ≤ 365) :
    ((5 * doy + 2) / 153).toNat = (5 * doy.toNat + 2) / 153 ∧
      ((doy - (153 * ((5 * doy + 2) / 153) + 2) / 5 + 1).toNat : Int) =
        (doy.toNat : Int) - (153 * ((5 * (doy.toNat : Int) + 2) / 153) + 2) / 5 + 1 := by
  have two : (2 : UInt32).toNat = 2 := rfl
  have one : (1 : UInt32).toNat = 1 := rfl
  have product : (5 * doy).toNat = 5 * doy.toNat := mul_unsigned 5 doy (by change 5 * doy.toNat < 2 ^ 32; omega)
  have sum : (5 * doy + 2).toNat = 5 * doy.toNat + 2 := by
    rw [add_unsigned _ _ (by omega), product, two]
  have month : ((5 * doy + 2) / 153).toNat = (5 * doy.toNat + 2) / 153 := by
    change (5 * doy + 2).toNat / 153 = _
    rw [sum]
  refine ⟨month, ?_⟩
  generalize (5 * doy + 2) / 153 = mp at month ⊢
  have scaled : (153 * mp).toNat = 153 * mp.toNat := mul_unsigned 153 mp (by change 153 * mp.toNat < 2 ^ 32; omega)
  have shifted : (153 * mp + 2).toNat = 153 * mp.toNat + 2 := by
    rw [add_unsigned _ _ (by omega), scaled, two]
  have start : ((153 * mp + 2) / 5).toNat = (153 * mp.toNat + 2) / 5 := by
    change (153 * mp + 2).toNat / 5 = _
    rw [shifted]
  have difference : (doy - (153 * mp + 2) / 5).toNat = doy.toNat - (153 * mp.toNat + 2) / 5 := by
    rw [sub_unsigned _ _ (by omega), start]
  have monthInt : (5 * (doy.toNat : Int) + 2) / 153 = mp.toNat := by omega
  rw [add_unsigned _ _ (by omega), difference, one, monthInt]
  omega

theorem calendar_month_unsigned (mp : UInt32) (small : mp.toNat ≤ 11) :
    ((mp + if mp < 10 then 3 else -9).toNat : Int) =
      if (mp.toNat : Int) < 10 then (mp.toNat : Int) + 3 else (mp.toNat : Int) - 9 := by
  have ten : (10 : UInt32).toNat = 10 := rfl
  have on : (3 : UInt32).toNat = 3 := rfl
  have back : (-9 : UInt32).toNat = 2 ^ 32 - 9 := rfl
  simp only [UInt32.lt_iff_toNat_lt, ten]
  by_cases spring : mp.toNat < 10
  · rw [if_pos spring, if_pos (by omega), add_unsigned _ _ (by omega), on]
    rfl
  · rw [if_neg spring, if_neg (by omega), UInt32.toNat_add, back]
    omega

theorem signed_of_small (value : UInt32) (small : value.toNat < 2 ^ 31) : value.toInt32.toInt = value.toNat := by
  change value.toBitVec.toInt = value.toNat
  rw [BitVec.toInt_eq_toNat_bmod]
  exact Int.bmod_eq_of_le (by change _ ≤ (value.toNat : Int); omega) (by change (value.toNat : Int) < _; omega)

theorem year_word (yFull : Int64) (early : Prop) [Decidable early] (next : Int)
    (nextIs : next = yFull.toInt + if early then 1 else 0) (low : -2 ^ 31 ≤ next) (high : next < 2 ^ 31) :
    (yFull + if early then 1 else 0).toInt32.toInt = next := by
  have one : (1 : Int64).toInt = 1 := rfl
  have zero : (0 : Int64).toInt = 0 := rfl
  have sum : (yFull + if early then 1 else 0).toInt = next := by
    split
    · rename_i winter
      rw [if_pos winter] at nextIs
      rw [add64 _ _ (by omega) (by omega), one, nextIs]
    · rename_i later
      rw [if_neg later] at nextIs
      rw [add64 _ _ (by omega) (by omega), zero, nextIs]
  rw [Int64.toInt_toInt32, sum]
  exact Int.bmod_eq_of_le (by omega) (by omega)

theorem civil_from_days_date (z : Int64) (low : -2 ^ 63 + 146096 - 719468 ≤ z.toInt) (high : z.toInt + 719468 < 2 ^ 63)
    (yearLow : -2 ^ 31 ≤ (dateOf z.toInt).year) (yearHigh : (dateOf z.toInt).year < 2 ^ 31) :
    (civilFromDays z).date = dateOf z.toInt := by
  have offset : (719468 : Int64).toInt = 719468 := rfl
  have shifted : (z + 719468).toInt = z.toInt + 719468 := by
    have least := z.le_toInt
    rw [add64 _ _ (by omega) (by omega), offset]
  unfold civilFromDays dateOf at *
  simp only at yearLow yearHigh ⊢
  rw [← shifted] at yearLow yearHigh ⊢
  generalize z + 719468 = z at shifted yearLow yearHigh ⊢
  have eraValue := era_wide z (by omega)
  generalize (if 0 ≤ z then z else z - 146096) / 146097 = era at eraValue ⊢
  have doeValue := day_of_era_wide z era (by omega) eraValue
  generalize (z - era * 146097).toUInt64.toUInt32 = doe at doeValue ⊢
  rw [← doeValue, ← eraValue] at yearLow yearHigh ⊢
  have doeSmall : doe.toNat < 146097 := by omega
  have yoeValue := year_of_era_unsigned doe doeSmall
  obtain ⟨yoeLow, yoeHigh, doyLow, doyHigh⟩ := era_year_and_day doe.toNat (by omega) (by omega)
  generalize (doe - doe / 1460 + doe / 36524 - doe / 146096) / 365 = yoe at yoeValue ⊢
  rw [← yoeValue] at yearLow yearHigh yoeLow yoeHigh doyLow doyHigh ⊢
  have doyValue := day_of_year_unsigned doe yoe (by omega) (by omega)
  generalize doe - (365 * yoe + yoe / 4 - yoe / 100) = doy at doyValue ⊢
  rw [← doyValue] at yearLow yearHigh doyLow doyHigh ⊢
  obtain ⟨mpValue, dayValue⟩ := month_and_day_unsigned doy (by omega)
  generalize (5 * doy + 2) / 153 = mp at mpValue dayValue ⊢
  have mpInt : (5 * (doy.toNat : Int) + 2) / 153 = mp.toNat := by omega
  rw [mpInt] at yearLow yearHigh dayValue ⊢
  have monthValue := calendar_month_unsigned mp (by omega)
  generalize mp + (if mp < 10 then 3 else -9) = month at monthValue ⊢
  rw [← monthValue] at yearLow yearHigh ⊢
  generalize doy - (153 * mp + 2) / 5 + 1 = day at dayValue ⊢
  rw [← dayValue]
  have monthSmall : month.toNat < 2 ^ 31 := by
    split at monthValue <;> omega
  have two : (2 : UInt32).toNat = 2 := rfl
  have factor : (400 : Int64).toInt = 400 := rfl
  have most := z.toInt_lt
  have least := z.le_toInt
  have product : (era * 400).toInt = era.toInt * 400 := by
    rw [mul64 _ _ (by rw [factor]; omega) (by rw [factor]; omega), factor]
  have wide := signed_of_unsigned yoe
  have yFull : (yoe.toUInt64.toInt64 + era * 400).toInt = yoe.toNat + era.toInt * 400 := by
    rw [add64 _ _ (by omega) (by omega), product, wide]
  have year := year_word (yoe.toUInt64.toInt64 + era * 400) (month ≤ 2)
    (if (month.toNat : Int) ≤ 2 then yoe.toNat + era.toInt * 400 + 1 else yoe.toNat + era.toInt * 400)
    (by
      rw [yFull]
      simp only [UInt32.le_iff_toNat_le, two]
      split
      · rw [if_pos (by omega)]
      · rw [if_neg (by omega), Int.add_zero]) yearLow yearHigh
  simp only [CivilDate.date, year, signed_of_small month monthSmall, signed_of_small day (by omega)]

end decode

def firstDay : Int := dayNumber ⟨-2147483249, 3, 1⟩
def lastDay : Int := dayNumber ⟨2147483647, 12, 31⟩

theorem day_in_range (z : Int) (low : firstDay ≤ z) (high : z ≤ lastDay) :
    InRange (dateOf z) ∧ -2 ^ 31 ≤ (dateOf z).year ∧ (dateOf z).year < 2 ^ 31 := by
  obtain ⟨number, -⟩ := day_number_of_date z
  have valid := date_of_valid z
  have inside : InRange (dateOf z) := by
    by_contra outside
    have before : (dateOf z).Before ⟨-2147483249, 3, 1⟩ := by
      unfold InRange Date.marchYear at outside
      change (dateOf z).year < -2147483249 ∨ (dateOf z).year = -2147483249 ∧ ((dateOf z).month < 3 ∨ _)
      split at outside <;> omega
    have less := day_number_increases _ _ valid (by decide) before
    unfold firstDay at low
    omega
  refine ⟨inside, ?_, ?_⟩
  · unfold InRange Date.marchYear at inside
    split at inside <;> omega
  · by_contra outside
    have after : (Date.mk 2147483647 12 31).Before (dateOf z) := .inl (by simp only; omega)
    have less := day_number_increases _ _ (by decide) valid after
    unfold lastDay at high
    omega

theorem number_in_range (civil : CivilDate) (valid : civil.date.Valid) (room : InRange civil.date) :
    firstDay ≤ dayNumber civil.date ∧ dayNumber civil.date ≤ lastDay := by
  have bound : civil.date.year < 2 ^ 31 := civil.year.toInt_lt
  constructor
  · obtain before | same | after := before_or_after civil.date ⟨-2147483249, 3, 1⟩
    · unfold InRange Date.marchYear at room
      unfold Date.Before at before
      have day := valid.dayLow
      split at room <;> simp only at before <;> omega
    · exact le_of_eq (congrArg dayNumber same.symm)
    · exact le_of_lt (day_number_increases _ _ (by decide) valid after)
  · obtain before | same | after := before_or_after civil.date ⟨2147483647, 12, 31⟩
    · exact le_of_lt (day_number_increases _ _ valid (by decide) before)
    · exact le_of_eq (congrArg dayNumber same)
    · obtain ⟨-, monthHigh, -, dayHigh⟩ := valid
      have most := days_in_month_most civil.date.year civil.date.month
      unfold Date.Before at after
      simp only at after
      omega

theorem days_of_civil (z : Int64) (low : firstDay ≤ z.toInt) (high : z.toInt ≤ lastDay) :
    (civilFromDays z).date = dateOf z.toInt ∧ daysFromCivil (civilFromDays z) = z := by
  obtain ⟨room, yearLow, yearHigh⟩ := day_in_range z.toInt low high
  have first : firstDay = -784352870042 := by decide
  have last : lastDay = 784351576776 := by decide
  have date := civil_from_days_date z (by omega) (by omega) yearLow yearHigh
  refine ⟨date, ?_⟩
  apply Int64.toInt_inj.mp
  rw [days_from_civil_number _ (by rw [date]; exact date_of_valid _) (by rw [date]; exact room), date]
  exact (day_number_of_date _).1

theorem civil_of_days (civil : CivilDate) (valid : civil.date.Valid) (room : InRange civil.date) :
    civilFromDays (daysFromCivil civil) = civil := by
  have number := days_from_civil_number civil valid room
  obtain ⟨low, high⟩ := number_in_range civil valid room
  rw [← number] at low high
  have back := (days_of_civil (daysFromCivil civil) low high).1
  rw [number, date_of_day_number _ valid] at back
  obtain ⟨year, month, day⟩ := civil
  generalize civilFromDays (daysFromCivil ⟨year, month, day⟩) = other at back ⊢
  obtain ⟨otherYear, otherMonth, otherDay⟩ := other
  simp only [CivilDate.date, Date.mk.injEq, Int32.toInt_inj] at back
  obtain ⟨rfl, rfl, rfl⟩ := back
  rfl

section nanoseconds

theorem truncated_parts (x d : Int) (positive : 0 < d) :
    d * x.tdiv d + x.tmod d = x ∧ -d < x.tmod d ∧ x.tmod d < d := by
  have mirrored := Int.tmod_lt_of_pos (-x) positive
  rw [Int.neg_tmod] at mirrored
  exact ⟨Int.mul_tdiv_add_tmod x d, by omega, Int.tmod_lt_of_pos x positive⟩

theorem floor_split (x d : Int64) (positive : 1 < d.toInt) :
    (if x % d < 0 then x / d - 1 else x / d).toInt = x.toInt / d.toInt ∧
      (if x % d < 0 then x % d + d else x % d).toInt = x.toInt % d.toInt := by
  have zero : (0 : Int64).toInt = 0 := rfl
  have one : (1 : Int64).toInt = 1 := rfl
  have rest : (x % d).toInt = x.toInt.tmod d.toInt := Int64.toInt_mod x d
  have whole : (x / d).toInt = x.toInt.tdiv d.toInt := by
    apply Int64.toInt_div_of_ne_right
    rintro rfl
    exact absurd positive (by decide)
  obtain ⟨parts, above, below⟩ := truncated_parts x.toInt d.toInt (by omega)
  have step := d.toInt_lt
  have least := (x / d).le_toInt
  simp only [Int64.lt_iff_toInt_lt, zero]
  by_cases negative : (x % d).toInt < 0
  · have inside : -2 ^ 63 < (x / d).toInt := by
      have low := x.le_toInt
      rw [rest] at negative
      rw [whole]
      nlinarith
    have less : (x / d - 1).toInt = (x / d).toInt - 1 := by
      have most := (x / d).toInt_lt
      rw [sub64 _ _ (by omega) (by omega), one]
    have more : (x % d + d).toInt = (x % d).toInt + d.toInt := add64 _ _ (by omega) (by omega)
    have again : (x % d).toInt + d.toInt + d.toInt * ((x / d).toInt - 1) = x.toInt := by
      rw [rest, whole]
      linarith
    rw [if_pos negative, if_pos negative, less, more]
    obtain ⟨quotient, remainder⟩ := (Int.ediv_emod_unique (by omega)).mpr ⟨again, by omega, by omega⟩
    exact ⟨quotient.symm, remainder.symm⟩
  · have again : (x % d).toInt + d.toInt * (x / d).toInt = x.toInt := by
      rw [rest, whole]
      linarith
    rw [if_neg negative, if_neg negative]
    obtain ⟨quotient, remainder⟩ := (Int.ediv_emod_unique (by omega)).mpr ⟨again, by omega, by omega⟩
    exact ⟨quotient.symm, remainder.symm⟩

theorem int32_of_small (value : Int64) (low : -2 ^ 31 ≤ value.toInt) (high : value.toInt < 2 ^ 31) :
    value.toInt32.toInt = value.toInt := by
  rw [Int64.toInt_toInt32]
  exact Int.bmod_eq_of_le (by omega) (by omega)

theorem div64 (x d : Int64) (nonneg : 0 ≤ x.toInt) (positive : 1 < d.toInt) : (x / d).toInt = x.toInt / d.toInt := by
  rw [Int64.toInt_div_of_ne_right, Int.tdiv_eq_ediv_of_nonneg nonneg]
  rintro rfl
  exact absurd positive (by decide)

theorem mod64 (x d : Int64) (nonneg : 0 ≤ x.toInt) : (x % d).toInt = x.toInt % d.toInt := by
  rw [Int64.toInt_mod, Int.tmod_eq_emod_of_nonneg nonneg]

theorem clock_fields (rem : Int64) (low : 0 ≤ rem.toInt) (high : rem.toInt < 86400) :
    (rem / 3600).toInt32.toInt = rem.toInt / 3600 ∧ (rem % 3600 / 60).toInt32.toInt = rem.toInt % 3600 / 60 ∧
      (rem % 3600 % 60).toInt32.toInt = rem.toInt % 3600 % 60 := by
  have hour : (3600 : Int64).toInt = 3600 := rfl
  have minute : (60 : Int64).toInt = 60 := rfl
  have inHour : (rem % 3600).toInt = rem.toInt % 3600 := mod64 rem 3600 low
  have hours : (rem / 3600).toInt = rem.toInt / 3600 := div64 rem 3600 low (by decide)
  have minutes : (rem % 3600 / 60).toInt = rem.toInt % 3600 / 60 := by
    rw [div64 _ _ (by omega) (by decide), inHour, minute]
  have seconds : (rem % 3600 % 60).toInt = rem.toInt % 3600 % 60 := by
    rw [mod64 _ _ (by omega), inHour, minute]
  rw [int32_of_small _ (by omega) (by omega), int32_of_small _ (by omega) (by omega),
    int32_of_small _ (by omega) (by omega)]
  exact ⟨hours, minutes, seconds⟩

theorem to_unix_ns_value (fields : CivilFields) (days total : Int) (daysIs : (daysFromCivil fields.civil).toInt = days)
    (hour : 0 ≤ fields.hour.toInt ∧ fields.hour.toInt < 24) (minute : 0 ≤ fields.minute.toInt ∧ fields.minute.toInt < 60)
    (second : 0 ≤ fields.second.toInt ∧ fields.second.toInt < 60)
    (totalIs : total = days * 86400 + fields.hour.toInt * 3600 + fields.minute.toInt * 60 + fields.second.toInt)
    (stamp : fields.timestamp.toNat < 1000000) (low : -9223372036 ≤ total)
    (high : total * 1000000000 + fields.timestamp.toNat * 1000 < 2 ^ 63) :
    (toUnixNs fields).toInt = total * 1000000000 + fields.timestamp.toNat * 1000 := by
  have perDay : secsPerDay.toInt = 86400 := rfl
  have perHour : (3600 : Int64).toInt = 3600 := rfl
  have perMinute : (60 : Int64).toInt = 60 := rfl
  have perSec : nsPerSec.toInt = 1000000000 := rfl
  have thousand : (1000 : Int64).toInt = 1000 := rfl
  have hours : (fields.hour.toInt64 * 3600).toInt = fields.hour.toInt * 3600 := by
    rw [mul64 _ _ (by rw [Int32.toInt_toInt64, perHour]; omega) (by rw [Int32.toInt_toInt64, perHour]; omega),
      Int32.toInt_toInt64, perHour]
  have minutes : (fields.minute.toInt64 * 60).toInt = fields.minute.toInt * 60 := by
    rw [mul64 _ _ (by rw [Int32.toInt_toInt64, perMinute]; omega) (by rw [Int32.toInt_toInt64, perMinute]; omega),
      Int32.toInt_toInt64, perMinute]
  have seconds : fields.second.toInt64.toInt = fields.second.toInt := Int32.toInt_toInt64 _
  have stamps : (fields.timestamp.toUInt64.toInt64 * 1000).toInt = fields.timestamp.toNat * 1000 := by
    have wide := signed_of_unsigned fields.timestamp
    rw [mul64 _ _ (by rw [wide, thousand]; omega) (by rw [wide, thousand]; omega), wide, thousand]
  have dayPart : (daysFromCivil fields.civil * secsPerDay).toInt = days * 86400 := by
    rw [mul64 _ _ (by rw [daysIs, perDay]; omega) (by rw [daysIs, perDay]; omega), daysIs, perDay]
  unfold toUnixNs
  simp only
  generalize daysFromCivil fields.civil * secsPerDay = first at dayPart ⊢
  generalize fields.hour.toInt64 * 3600 = second' at hours ⊢
  generalize fields.minute.toInt64 * 60 = third at minutes ⊢
  generalize fields.timestamp.toUInt64.toInt64 * 1000 = last at stamps ⊢
  have one : (first + second').toInt = days * 86400 + fields.hour.toInt * 3600 := by
    rw [add64 _ _ (by omega) (by omega), dayPart, hours]
  have two : (first + second' + third).toInt = days * 86400 + fields.hour.toInt * 3600 + fields.minute.toInt * 60 := by
    rw [add64 _ _ (by omega) (by omega), one, minutes]
  have three : (first + second' + third + fields.second.toInt64).toInt = total := by
    rw [add64 _ _ (by omega) (by omega), two, seconds, totalIs]
  have scaled : ((first + second' + third + fields.second.toInt64) * nsPerSec).toInt = total * 1000000000 := by
    rw [mul64 _ _ (by rw [three, perSec]; omega) (by rw [three, perSec]; omega), three, perSec]
  have lower : -2 ^ 63 ≤ total * 1000000000 + (fields.timestamp.toNat : Int) * 1000 := by
    clear hours minutes seconds stamps dayPart one two three scaled high totalIs
    omega
  rw [add64 _ _ (by rw [scaled, stamps]; exact lower) (by rw [scaled, stamps]; exact high), scaled, stamps]

theorem from_unix_ns_fields (unixNs : Int64) :
    ∃ sec nsec days rem : Int64, sec.toInt = unixNs.toInt / 1000000000 ∧ nsec.toInt = unixNs.toInt % 1000000000 ∧
      days.toInt = sec.toInt / 86400 ∧ rem.toInt = sec.toInt % 86400 ∧
      fromUnixNs unixNs = ⟨civilFromDays days, (rem / 3600).toInt32, (rem % 3600 / 60).toInt32,
        (rem % 3600 % 60).toInt32, (nsec / 1000).toUInt64.toUInt32⟩ := by
  obtain ⟨sec, nsec⟩ := floor_split unixNs nsPerSec (by decide)
  generalize secIs : (if unixNs % nsPerSec < 0 then unixNs / nsPerSec - 1 else unixNs / nsPerSec) = second at sec
  obtain ⟨days, rem⟩ := floor_split second secsPerDay (by decide)
  refine ⟨second, _, _, _, sec, nsec, days, rem, ?_⟩
  unfold fromUnixNs
  simp only [secIs]

theorem time_kept (unixNs : Int64) (low : -9223372036000000000 ≤ unixNs.toInt) :
    (toUnixNs (fromUnixNs unixNs)).toInt + unixNs.toInt % 1000 = unixNs.toInt ∧
      (toUnixNs { fromUnixNs unixNs with timestamp := 0 }).toInt + unixNs.toInt % 1000000000 = unixNs.toInt := by
  obtain ⟨sec, nsec, days, rem, secIs, nsecIs, daysIs, remIs, fields⟩ := from_unix_ns_fields unixNs
  have high := unixNs.toInt_lt
  obtain ⟨hour, minute, second⟩ := clock_fields rem (by omega) (by omega)
  have thousand : (1000 : Int64).toInt = 1000 := rfl
  have micro : (nsec / 1000).toInt = nsec.toInt / 1000 := div64 nsec 1000 (by omega) (by decide)
  have stamp := unsigned_of_int64 (nsec / 1000) (by omega) (by omega)
  have first : firstDay = -784352870042 := by decide
  have last : lastDay = 784351576776 := by decide
  have back := (days_of_civil days (by omega) (by omega)).2
  have total : sec.toInt =
      days.toInt * 86400 + rem.toInt / 3600 * 3600 + rem.toInt % 3600 / 60 * 60 + rem.toInt % 3600 % 60 := by omega
  have clock : sec.toInt = days.toInt * 86400 + (rem / 3600).toInt32.toInt * 3600 +
      (rem % 3600 / 60).toInt32.toInt * 60 + (rem % 3600 % 60).toInt32.toInt := by
    rw [hour, minute, second]
    exact total
  have seconds (timestamp : UInt32) (small : timestamp.toNat < 1000000)
      (fits : sec.toInt * 1000000000 + timestamp.toNat * 1000 < 2 ^ 63) :
      (toUnixNs ⟨civilFromDays days, (rem / 3600).toInt32, (rem % 3600 / 60).toInt32, (rem % 3600 % 60).toInt32,
        timestamp⟩).toInt = sec.toInt * 1000000000 + timestamp.toNat * 1000 :=
    to_unix_ns_value _ days.toInt sec.toInt (congrArg Int64.toInt back)
      (by rw [hour]; omega) (by rw [minute]; omega) (by rw [second]; omega) clock small (by omega) fits
  rw [fields]
  constructor
  · rw [seconds _ (by omega) (by omega)]
    omega
  · rw [seconds 0 (by decide) (by change _ + (0 : Int) * 1000 < _; omega)]
    change _ + (0 : Int) * 1000 + _ = _
    omega

end nanoseconds

-- The civil functions are inverse to each other and keep the order of the calendar, and a time in nanoseconds comes
-- back from its fields; the microseconds are one of these, so less than a microsecond is the rest (less than a second,
-- when the seconds alone are taken).
theorem civil_calendar :
    (∀ z : Int64, firstDay ≤ z.toInt → z.toInt ≤ lastDay →
      (civilFromDays z).date.Valid ∧ daysFromCivil (civilFromDays z) = z) ∧
    (∀ civil : CivilDate, civil.date.Valid → InRange civil.date → civilFromDays (daysFromCivil civil) = civil) ∧
    (∀ first second : CivilDate, first.date.Valid → second.date.Valid → InRange first.date → InRange second.date →
      first.date.Before second.date → daysFromCivil first < daysFromCivil second) ∧
    ∀ ns : UInt64, -9223372036000000000 ≤ ns.toInt64.toInt →
      (toUnixNs (fromUnixNs ns.toInt64)).toInt + ns.toInt64.toInt % 1000 = ns.toInt64.toInt ∧
        (toUnixNs { fromUnixNs ns.toInt64 with timestamp := 0 }).toInt + ns.toInt64.toInt % 1000000000 =
          ns.toInt64.toInt := by
  refine ⟨?_, civil_of_days, ?_, fun ns => time_kept ns.toInt64⟩
  · intro z low high
    obtain ⟨date, back⟩ := days_of_civil z low high
    rw [date]
    exact ⟨date_of_valid _, back⟩
  · intro first second firstValid secondValid firstRoom secondRoom before
    rw [Int64.lt_iff_toInt_lt, days_from_civil_number first firstValid firstRoom,
      days_from_civil_number second secondValid secondRoom]
    exact day_number_increases _ _ firstValid secondValid before

theorem civil_calendar_leap_day :
    (civilFromDays 19782).date.Valid ∧ civilFromDays (daysFromCivil ⟨2024, 2, 29⟩) = ⟨2024, 2, 29⟩ ∧
      daysFromCivil ⟨2000, 2, 29⟩ < daysFromCivil ⟨2024, 2, 29⟩ ∧
      (toUnixNs (fromUnixNs 1709251199999999999)).toInt + 999 = 1709251199999999999 := by
  refine ⟨(civil_calendar.1 19782 (by decide) (by decide)).1,
    civil_calendar.2.1 ⟨2024, 2, 29⟩ (by decide) (by unfold InRange; decide), ?_, ?_⟩
  · exact civil_calendar.2.2.1 ⟨2000, 2, 29⟩ ⟨2024, 2, 29⟩ (by decide) (by decide) (by unfold InRange; decide)
      (by unfold InRange; decide) (.inl (by decide))
  · exact (civil_calendar.2.2.2 1709251199999999999 (by decide)).1

end Vscp.CivilTime
