import Vscp.Event
import Vscp.Lib.Calendar

set_option autoImplicit false

namespace Vscp.DateTime

open Calendar

def nsPerSecond : Int64 := 1000000000

structure VscpDateTime where
  timestamp : Int64
deriving DecidableEq

structure Tm where
  sec : Int
  min : Int
  hour : Int
  mday : Int
  mon : Int
  year : Int
deriving DecidableEq

def gmtimeR (secs : Int) : Tm :=
  let date := dateOf (secs / 86400)
  ⟨secs % 60, secs / 60 % 60, secs / 3600 % 24, date.day, date.month - 1, date.year - 1900⟩

def timegm (tm : Tm) : Int :=
  dayNumber ⟨tm.year + 1900, tm.mon + 1, tm.mday⟩ * 86400 + tm.hour * 3600 + tm.min * 60 + tm.sec

-- Division and remainder of signed words cut towards zero.
def getTimeStruct (dt : VscpDateTime) : Tm := gmtimeR (dt.timestamp / nsPerSecond).toInt

def getNanoSeconds (dt : VscpDateTime) : UInt32 := UInt32.ofInt (dt.timestamp % nsPerSecond).toInt

-- What overflows here wraps around, as it does on the machine.
def setFromTimeStruct (tm : Tm) (nanoseconds : UInt32) : VscpDateTime :=
  ⟨Int64.ofInt (timegm tm) * nsPerSecond + Int64.ofNat nanoseconds.toNat⟩

def truncated (x : ℚ) : Int := if 0 ≤ x then ⌊x⌋ else ⌈x⌉

structure JulianFields where
  year : UInt16
  month : UInt8
  day : UInt8

def julianFields (ljd : Int) : JulianFields :=
  let z := ljd
  let alpha := truncated ((z - 1867216.25) / 36524.25)
  let a := if z < 2299161 then z else z + 1 + alpha - alpha.tdiv 4
  let b := a + 1524
  let c := truncated ((b - 122.1) / 365.25)
  let d := truncated (365.25 * c)
  let e := truncated (((b - d : Int) : ℚ) / 30.6001)
  let day := UInt8.ofInt (b - d - truncated (30.6001 * e))
  let month := UInt8.ofInt (if (e : ℚ) < 13.5 then e - 1 else e - 13)
  let year := UInt16.ofInt (if month > 2 then c - 4716 else c - 4715)
  ⟨if year ≤ 0 then year - 1 else year, month, day⟩

def setFromJulian (dt : VscpDateTime) (ljd : Int) : VscpDateTime :=
  let fields := julianFields ljd
  let tm := getTimeStruct dt
  let tm := { tm with year := fields.year.toNat - 1900, mon := fields.month.toNat - 1, mday := fields.day.toNat }
  setFromTimeStruct tm (getNanoSeconds dt)

def ymdToJd (iYear iMonth iDay : Int) : Int :=
  let year := if iYear < 0 then iYear + 1 else iYear
  let yearCorr : ℚ := if year > 0 then 0 else 0.75
  let month := if iMonth ≤ 2 then iMonth + 12 else iMonth
  let year := if iMonth ≤ 2 then year - 1 else year
  let a := year.tdiv 100
  let b := if (year : ℚ) * 10000 + month * 100 + iDay ≥ 15821015 then 2 - a + a.tdiv 4 else 0
  truncated (365.25 * year - yearCorr) + truncated (30.6001 * (month + 1)) + iDay + 1720995 + b

def getJulian (dt : VscpDateTime) : Int :=
  let tm := getTimeStruct dt
  ymdToJd (tm.year + 1900) (tm.mon + 1) tm.mday

def add (left : VscpDateTime) (right : Int) : VscpDateTime := setFromJulian left (getJulian left + right)
def sub (left : VscpDateTime) (right : Int) : VscpDateTime := setFromJulian left (getJulian left - right)
def increment (dt : VscpDateTime) : VscpDateTime := setFromJulian dt (getJulian dt + 1)

example : (add ⟨1709164799000000005⟩ 2).timestamp = 1709337599000000005 := by decide +kernel
example : (add ⟨-1⟩ 0).timestamp = 4294967295 := by decide +kernel

theorem truncated_fraction (numerator : Int) (denominator : Nat) (nonneg : 0 ≤ numerator) :
    truncated ((numerator : ℚ) / (denominator : ℚ)) = numerator / denominator := by
  have positive : (0 : ℚ) ≤ (numerator : ℚ) / (denominator : ℚ) :=
    div_nonneg (Int.cast_nonneg nonneg) (Nat.cast_nonneg denominator)
  rw [truncated, if_pos positive]
  exact Rat.floor_intCast_div_natCast numerator denominator

variable (z : Int)

theorem century_step (late : 2299161 ≤ z) :
    truncated (((z : ℚ) - 1867216.25) / 36524.25) = (4 * z - 7468865) / 146097 := by
  have fraction : ((z : ℚ) - 1867216.25) / 36524.25 = ((4 * z - 7468865 : Int) : ℚ) / ((146097 : Nat) : ℚ) := by
    push_cast
    ring
  rw [fraction, truncated_fraction _ _ (by omega)]
  rfl

theorem year_step (b : Int) (late : 123 ≤ b) : truncated (((b : ℚ) - 122.1) / 365.25) = (20 * b - 2442) / 7305 := by
  have fraction : ((b : ℚ) - 122.1) / 365.25 = ((20 * b - 2442 : Int) : ℚ) / ((7305 : Nat) : ℚ) := by
    push_cast
    ring
  rw [fraction, truncated_fraction _ _ (by omega)]
  rfl

theorem year_days_step (c : Int) (nonneg : 0 ≤ c) : truncated (365.25 * (c : ℚ)) = 1461 * c / 4 := by
  have fraction : 365.25 * (c : ℚ) = ((1461 * c : Int) : ℚ) / ((4 : Nat) : ℚ) := by
    push_cast
    ring
  rw [fraction, truncated_fraction _ _ (by omega)]
  rfl

theorem month_step (days : Int) (nonneg : 0 ≤ days) : truncated ((days : ℚ) / 30.6001) = 10000 * days / 306001 := by
  have fraction : (days : ℚ) / 30.6001 = ((10000 * days : Int) : ℚ) / ((306001 : Nat) : ℚ) := by
    push_cast
    ring
  rw [fraction, truncated_fraction _ _ (by omega)]
  rfl

theorem month_days_step (e : Int) (nonneg : 0 ≤ e) : truncated (30.6001 * (e : ℚ)) = 306001 * e / 10000 := by
  have fraction : 30.6001 * (e : ℚ) = ((306001 * e : Int) : ℚ) / ((10000 : Nat) : ℚ) := by
    push_cast
    ring
  rw [fraction, truncated_fraction _ _ (by omega)]
  rfl

theorem month_days (month : Int) (low : 0 ≤ month) (high : month ≤ 11) :
    306001 * (month + 4) / 10000 = 122 + (153 * month + 2) / 5 := by
  omega

theorem century_of_year (z alpha b c : Int) (alphaIs : alpha = (4 * z - 7468865) / 146097)
    (bIs : b = z + 1 + alpha - alpha / 4 + 1524) (cIs : c = (20 * b - 2442) / 7305) : (c - 4716) / 100 = alpha + 4 := by
  have low : 146097 * alpha ≤ 4 * z - 7468865 := by omega
  have high : 4 * z - 7468865 ≤ 146097 * alpha + 146096 := by omega
  clear alphaIs
  have lower : 730500 * alpha ≤ 20 * b - 2442 - 7305 * 5116 := by omega
  have upper : 20 * b - 2442 - 7305 * 5116 < 730500 * (alpha + 1) := by omega
  clear bIs low high
  omega

theorem days_of_year (b c : Int) (cIs : c = (20 * b - 2442) / 7305) :
    123 ≤ b - 1461 * c / 4 ∧ b - 1461 * c / 4 ≤ 488 := by
  omega

theorem month_of_days (days e : Int) (low : 123 ≤ days) (high : days ≤ 488) (eIs : e = 10000 * days / 306001) :
    4 ≤ e ∧ e ≤ 15 ∧ 1 ≤ days - 306001 * e / 10000 ∧ days - 306001 * e / 10000 ≤ 31 := by
  have first : 4 ≤ e := by omega
  have last : e ≤ 15 := by omega
  have between : 306001 * e ≠ 10000 * days := by omega
  have below : 306001 * e ≤ 10000 * days := by omega
  exact ⟨first, last, by omega, by omega⟩

theorem julian_integers (z alpha b c d e : Int) (alphaIs : alpha = (4 * z - 7468865) / 146097)
    (bIs : b = z + 1 + alpha - alpha / 4 + 1524) (cIs : c = (20 * b - 2442) / 7305) (dIs : d = 1461 * c / 4)
    (eIs : e = 10000 * (b - d) / 306001) :
    4 ≤ e ∧ e ≤ 15 ∧ 1 ≤ b - d - 306001 * e / 10000 ∧ b - d - 306001 * e / 10000 ≤ 31 ∧
      daysBefore (c - 4716) + (153 * (e - 4) + 2) / 5 + (b - d - 306001 * e / 10000) - 1 - 719468 = z - 2440588 := by
  have century := century_of_year z alpha b c alphaIs bIs cIs
  obtain ⟨low, high⟩ := days_of_year b c cIs
  rw [← dIs] at low high
  obtain ⟨first, last, dayLow, dayHigh⟩ := month_of_days (b - d) e low high eIs
  have months : 306001 * e / 10000 = 122 + (153 * (e - 4) + 2) / 5 := by omega
  have quarter : (c - 4716) / 4 = c / 4 - 1179 := by omega
  have eras : (c - 4716) / 400 = alpha / 4 + 1 := by omega
  have yearDays : d = 365 * c + c / 4 := by omega
  refine ⟨first, last, dayLow, dayHigh, ?_⟩
  rw [daysBefore, quarter, eras, century, months, yearDays, bIs]
  ring

variable (value : Int)

theorem byte_of_int (low : 0 ≤ value) (high : value < 2 ^ 8) : ((UInt8.ofInt value).toNat : Int) = value := by
  have size : UInt8.size = 2 ^ 8 := rfl
  rw [UInt8.ofInt, UInt8.toNat_ofNat', Int.emod_eq_of_lt low high, Nat.mod_eq_of_lt (by omega), Int.toNat_of_nonneg low]

theorem word_of_int (low : 0 ≤ value) (high : value < 2 ^ 16) :
    ((UInt16.ofInt value).toNat : Int) = value := by
  rw [UInt16.ofInt, UInt16.toNat_ofNat', Int.emod_eq_of_lt low high, Nat.mod_eq_of_lt (by omega), Int.toNat_of_nonneg low]

theorem julian_fields_number (late : 2299161 ≤ z) (early : z ≤ 2600000) :
    dayNumber ⟨(julianFields z).year.toNat, (julianFields z).month.toNat, (julianFields z).day.toNat⟩ = z - 2440588 := by
  generalize alphaIs : (4 * z - 7468865) / 146097 = alpha
  generalize bIs : z + 1 + alpha - alpha / 4 + 1524 = b
  generalize cIs : (20 * b - 2442) / 7305 = c
  generalize dIs : 1461 * c / 4 = d
  generalize eIs : 10000 * (b - d) / 306001 = e
  obtain ⟨first, last, dayLow, dayHigh, number⟩ :=
    julian_integers z alpha b c d e alphaIs.symm bIs.symm cIs.symm dIs.symm eIs.symm
  obtain ⟨daysLow, -⟩ := days_of_year b c cIs.symm
  rw [dIs] at daysLow
  have alphaLow : 0 ≤ alpha := by omega
  have alphaHigh : alpha ≤ 20 := by omega
  have bLow : 2300000 ≤ b := by omega
  have bHigh : b ≤ 2601600 := by omega
  have cLow : 6000 ≤ c := by omega
  have cHigh : c ≤ 7200 := by omega
  have quarter : alpha.tdiv 4 = alpha / 4 := Int.tdiv_eq_ediv_of_nonneg alphaLow
  have notEarly : ¬ z < 2299161 := not_lt.mpr late
  have turn : (e : ℚ) < 13.5 ↔ e ≤ 13 := by
    constructor
    · intro below
      by_contra above
      have more : (14 : ℚ) ≤ (e : ℚ) := by exact_mod_cast (by omega : (14 : Int) ≤ e)
      linarith
    · intro below
      have less : (e : ℚ) ≤ 13 := by exact_mod_cast below
      linarith
  simp only [julianFields, if_neg notEarly, century_step z late, alphaIs, quarter, bIs]
  simp only [year_step b (by omega), cIs, year_days_step c (by omega), dIs, month_step (b - d) (by omega), eIs,
    month_days_step e (by omega), turn]
  have dayValue := byte_of_int (b - d - 306001 * e / 10000) (by omega) (by omega)
  have later (year : Int) (low : 0 < year) (high : year < 2 ^ 16) : ¬ UInt16.ofInt year ≤ 0 := by
    have value := word_of_int year (by omega) high
    intro zero
    have bound : (UInt16.ofInt year).toNat ≤ 0 := UInt16.le_iff_toNat_le.mp zero
    omega
  by_cases autumn : e ≤ 13
  · have monthValue := byte_of_int (e - 1) (by omega) (by omega)
    have yearValue := word_of_int (c - 4716) (by omega) (by omega)
    have march : UInt8.ofInt (e - 1) > 2 := by
      apply UInt8.lt_iff_toNat_lt.mpr
      have two : (2 : UInt8).toNat = 2 := rfl
      omega
    simp only [if_pos autumn, if_pos march, if_neg (later (c - 4716) (by omega) (by omega)), dayValue, monthValue,
      yearValue, dayNumber]
    rw [if_neg (by omega), if_neg (by omega), ← number]
    ring_nf
  · have monthValue := byte_of_int (e - 13) (by omega) (by omega)
    have yearValue := word_of_int (c - 4715) (by omega) (by omega)
    have winter : ¬ UInt8.ofInt (e - 13) > 2 := by
      intro above
      have bound : (2 : UInt8).toNat < (UInt8.ofInt (e - 13)).toNat := UInt8.lt_iff_toNat_lt.mp above
      have two : (2 : UInt8).toNat = 2 := rfl
      omega
    simp only [if_neg autumn, if_neg winter, if_neg (later (c - 4715) (by omega) (by omega)), dayValue, monthValue,
      yearValue, dayNumber]
    rw [if_pos (by omega), if_pos (by omega), ← number]
    ring_nf

theorem ymd_number (year month day : Int) (late : 1600 ≤ year) (monthLow : 1 ≤ month) (monthHigh : month ≤ 12)
    (dayLow : 1 ≤ day) : ymdToJd year month day = dayNumber ⟨year, month, day⟩ + 2440588 := by
  have notBefore : ¬ year < 0 := by omega
  have after : year > 0 := by omega
  have gregorian (year month : Int) (late : 1599 ≤ year) (monthLow : 0 ≤ month) :
      (year : ℚ) * 10000 + month * 100 + day ≥ 15821015 := by
    have whole : 15821015 ≤ year * 10000 + month * 100 + day := by omega
    exact_mod_cast whole
  have leap (year : Int) (nonneg : 0 ≤ year) : (2 - year.tdiv 100 + (year.tdiv 100).tdiv 4 : Int) =
      2 - year / 100 + year / 400 := by
    rw [Int.tdiv_eq_ediv_of_nonneg nonneg, Int.tdiv_eq_ediv_of_nonneg (by omega)]
    omega
  have months (month : Int) (nonneg : 0 ≤ month) :
      truncated (30.6001 * ((month : ℚ) + 1)) = 306001 * (month + 1) / 10000 := by
    rw [← month_days_step (month + 1) (by omega)]
    push_cast
    rfl
  simp only [ymdToJd, if_neg notBefore, if_pos after, sub_zero, dayNumber]
  by_cases winter : month ≤ 2
  · simp only [if_pos winter, if_pos (gregorian (year - 1) (month + 12) (by omega) (by omega)), daysBefore]
    rw [year_days_step (year - 1) (by omega), months (month + 12) (by omega), leap (year - 1) (by omega)]
    have table := month_days (month + 9) (by omega) (by omega)
    have same : month + 12 + 1 = month + 9 + 4 := by ring
    have quarter : 1461 * (year - 1) / 4 = 365 * (year - 1) + (year - 1) / 4 := by omega
    rw [same, table, quarter]
    ring
  · simp only [if_neg winter, if_pos (gregorian year month (by omega) (by omega)), daysBefore]
    rw [year_days_step year (by omega), months month (by omega), leap year (by omega)]
    have table := month_days (month - 3) (by omega) (by omega)
    have same : month + 1 = month - 3 + 4 := by ring
    have quarter : 1461 * year / 4 = 365 * year + year / 4 := by omega
    rw [same, table, quarter]
    ring

variable (dt : VscpDateTime)

theorem seconds_value :
    (dt.timestamp / nsPerSecond).toInt = dt.timestamp.toInt.tdiv (10 ^ 9) ∧
      (dt.timestamp % nsPerSecond).toInt = dt.timestamp.toInt.tmod (10 ^ 9) := by
  have divisor : nsPerSecond.toInt = 10 ^ 9 := rfl
  rw [Int64.toInt_div_of_ne_right _ _ (by decide), Int64.toInt_mod, divisor]
  exact ⟨rfl, rfl⟩

theorem seconds_bounds (t : Int) (low : -2 ^ 63 ≤ t) (high : t < 2 ^ 63) :
    -9223372037 ≤ t.tdiv (10 ^ 9) ∧ t.tdiv (10 ^ 9) ≤ 9223372037 ∧ t = t.tdiv (10 ^ 9) * 10 ^ 9 + t.tmod (10 ^ 9) ∧
      -(10 ^ 9) < t.tmod (10 ^ 9) ∧ t.tmod (10 ^ 9) < 10 ^ 9 := by
  have whole := Int.mul_tdiv_add_tmod t (10 ^ 9)
  have above : t.tmod (10 ^ 9) < 10 ^ 9 := Int.tmod_lt_of_pos t (by decide)
  have below : -(10 ^ 9) < t.tmod (10 ^ 9) := by
    have mirrored := Int.tmod_lt_of_pos (-t) (show (0 : Int) < 10 ^ 9 by decide)
    rw [Int.neg_tmod] at mirrored
    omega
  omega

variable (n : Int)

theorem set_from_julian_moved (low : -106760 ≤ (dt.timestamp / nsPerSecond).toInt / 86400 + n)
    (high : (dt.timestamp / nsPerSecond).toInt / 86400 + n ≤ 106760) :
    (setFromJulian dt (getJulian dt + n)).timestamp =
      Int64.ofInt ((dt.timestamp / nsPerSecond).toInt + 86400 * n) * nsPerSecond +
        Int64.ofNat (getNanoSeconds dt).toNat := by
  have bounds := seconds_bounds dt.timestamp.toInt dt.timestamp.le_toInt dt.timestamp.toInt_lt
  rw [← (seconds_value dt).1] at bounds
  obtain ⟨secondsLow, secondsHigh, -⟩ := bounds
  generalize secondsIs : (dt.timestamp / nsPerSecond).toInt = seconds at low high secondsLow secondsHigh ⊢
  obtain ⟨number, monthLow, monthHigh, dayLow, dayHigh⟩ := day_number_of_date (seconds / 86400)
  have late : 1600 ≤ (dateOf (seconds / 86400)).year := by
    rw [dayNumber, daysBefore] at number
    split at number <;> omega
  have julian : getJulian dt = seconds / 86400 + 2440588 := by
    have same := ymd_number _ _ _ late monthLow monthHigh dayLow
    rw [number] at same
    simp only [getJulian, getTimeStruct, gmtimeR, secondsIs, sub_add_cancel, same]
  have fields := julian_fields_number (seconds / 86400 + 2440588 + n) (by omega) (by omega)
  have clock : seconds / 3600 % 24 * 3600 + seconds / 60 % 60 * 60 + seconds % 60 = seconds % 86400 := by omega
  simp only [setFromJulian, setFromTimeStruct, timegm, getTimeStruct, gmtimeR, secondsIs, sub_add_cancel, julian, fields]
  congr 3
  omega

def nsPerDay : Int := 86400 * 10 ^ 9

def slip (t : Int) : Int := if 0 ≤ t ∨ t % 10 ^ 9 = 0 then 0 else 2 ^ 32

theorem nanoseconds_value :
    ((getNanoSeconds dt).toNat : Int) = dt.timestamp.toInt.tmod (10 ^ 9) + slip dt.timestamp.toInt := by
  obtain ⟨-, -, whole, below, above⟩ := seconds_bounds dt.timestamp.toInt dt.timestamp.le_toInt dt.timestamp.toInt_lt
  have cast (value : Int) : ((UInt32.ofInt value).toNat : Int) = value % 2 ^ 32 := by
    have nonneg : 0 ≤ value % 2 ^ 32 := Int.emod_nonneg _ (by decide)
    have bound : value % 2 ^ 32 < 2 ^ 32 := Int.emod_lt_of_pos _ (by decide)
    rw [UInt32.ofInt, UInt32.toNat_ofNat', Nat.mod_eq_of_lt (by omega), Int.toNat_of_nonneg nonneg]
  rw [getNanoSeconds, (seconds_value dt).2, cast, slip]
  generalize dt.timestamp.toInt = t at whole below above ⊢
  by_cases positive : 0 ≤ t
  · have nonneg := Int.tmod_nonneg (10 ^ 9) positive
    rw [if_pos (.inl positive)]
    omega
  · have nonpos := Int.tmod_nonneg (10 ^ 9) (show 0 ≤ -t by omega)
    rw [Int.neg_tmod] at nonpos
    by_cases seconds : t % 10 ^ 9 = 0
    · rw [if_pos (.inr seconds)]
      omega
    · rw [if_neg (not_or.mpr ⟨positive, seconds⟩)]
      omega

theorem moved_days (low : -2 ^ 63 ≤ dt.timestamp.toInt + n * nsPerDay)
    (high : dt.timestamp.toInt + n * nsPerDay < 2 ^ 63) :
    (setFromJulian dt (getJulian dt + n)).timestamp =
      Int64.ofInt (dt.timestamp.toInt + n * nsPerDay + slip dt.timestamp.toInt) := by
  obtain ⟨secondsLow, secondsHigh, whole, below, above⟩ :=
    seconds_bounds dt.timestamp.toInt dt.timestamp.le_toInt dt.timestamp.toInt_lt
  obtain ⟨seconds, -⟩ := seconds_value dt
  have nanoseconds := nanoseconds_value dt
  rw [nsPerDay] at low high ⊢
  rw [set_from_julian_moved dt n (by rw [seconds]; omega) (by rw [seconds]; omega), seconds]
  have unit : nsPerSecond = Int64.ofInt (10 ^ 9) := rfl
  rw [unit, ← Int64.ofInt_mul, ← Int64.ofInt_eq_ofNat, ← Int64.ofInt_add, nanoseconds]
  congr 1
  omega

theorem moved_exact (low : -2 ^ 63 ≤ dt.timestamp.toInt + n * nsPerDay)
    (high : dt.timestamp.toInt + n * nsPerDay < 2 ^ 63) :
    (setFromJulian dt (getJulian dt + n)).timestamp.toInt = dt.timestamp.toInt + n * nsPerDay ↔
      0 ≤ dt.timestamp.toInt ∨ dt.timestamp.toInt % 10 ^ 9 = 0 := by
  rw [moved_days dt n low high, slip]
  split
  · rename_i exact
    rw [Int.add_zero, Int64.toInt_ofInt_of_le low high]
    exact iff_of_true rfl exact
  · rename_i slips
    refine iff_of_false (fun same => ?_) slips
    have wrapped := Int.bmod_emod (x := dt.timestamp.toInt + n * nsPerDay + 2 ^ 32) (m := Int64.size)
    rw [Int64.toInt_ofInt] at same
    have size : (Int64.size : Int) = 2 ^ 64 := rfl
    rw [same, size] at wrapped
    omega

theorem incremented (steps : Nat) (exact : 0 ≤ dt.timestamp.toInt ∨ dt.timestamp.toInt % 10 ^ 9 = 0)
    (high : dt.timestamp.toInt + steps * nsPerDay < 2 ^ 63) :
    (increment^[steps] dt).timestamp.toInt = dt.timestamp.toInt + steps * nsPerDay := by
  induction steps generalizing dt with
  | zero => simp
  | succ steps ih =>
      have start := dt.timestamp.le_toInt
      have day : nsPerDay = 86400000000000 := rfl
      have next := (moved_exact dt 1 (by omega) (by rw [Nat.cast_succ, day] at high; rw [day]; omega)).mpr exact
      rw [Function.iterate_succ_apply, increment, ih, next]
      · push_cast
        ring
      · rw [next, day]
        omega
      · rw [next]
        rw [Nat.cast_succ] at high
        linarith

theorem day_arithmetic_iff (dt : VscpDateTime) (n : Int) (low : -2 ^ 63 ≤ dt.timestamp.toInt + n * nsPerDay)
    (high : dt.timestamp.toInt + n * nsPerDay < 2 ^ 63) :
    ((add dt n).timestamp.toInt = dt.timestamp.toInt + n * nsPerDay ∧
        (sub dt (-n)).timestamp.toInt = dt.timestamp.toInt + n * nsPerDay ∧
        ∀ steps : Nat, (steps : Int) = n →
          (increment^[steps] dt).timestamp.toInt = dt.timestamp.toInt + n * nsPerDay) ↔
      0 ≤ dt.timestamp.toInt ∨ dt.timestamp.toInt % 10 ^ 9 = 0 := by
  have moved := moved_exact dt n low high
  constructor
  · exact fun same => moved.mp same.1
  · intro exact
    refine ⟨moved.mpr exact, ?_, ?_⟩
    · rw [sub, sub_neg_eq_add]
      exact moved.mpr exact
    · rintro steps rfl
      exact incremented dt steps exact high

theorem day_arithmetic_iff_example :
    ((add ⟨1709164799000000005⟩ 2).timestamp.toInt = 1709164799000000005 + 2 * nsPerDay ∧
        (sub ⟨1709164799000000005⟩ (-2)).timestamp.toInt = 1709164799000000005 + 2 * nsPerDay ∧
        ∀ steps : Nat, (steps : Int) = 2 →
          (increment^[steps] ⟨1709164799000000005⟩).timestamp.toInt = 1709164799000000005 + 2 * nsPerDay) ↔
      0 ≤ (1709164799000000005 : Int64).toInt ∨ (1709164799000000005 : Int64).toInt % 10 ^ 9 = 0 :=
  day_arithmetic_iff ⟨1709164799000000005⟩ 2 (by decide) (by decide)

-- One nanosecond before 1970, moved by no day and by one.
theorem nanosecond_before_epoch :
    (add ⟨-1⟩ 0).timestamp.toInt = 2 ^ 32 - 1 ∧ (add ⟨-1⟩ 1).timestamp.toInt = nsPerDay - 1 + 2 ^ 32 ∧
      (increment ⟨-1⟩).timestamp.toInt ≠ nsPerDay - 1 := by
  decide +kernel

end Vscp.DateTime
