import Vscp.DateTime
import Vscp.EventText
import Vscp.Lib.Moment

set_option autoImplicit false

namespace Vscp.DateTime

open Calendar
open RemoteTcp (Text)

def nsPerMillisecond : Nat := 1000000

-- The answer of a setter and the object behind it.
section

variable (dt : VscpDateTime)

def setDate (year : UInt16) (month day : UInt8) : Bool × VscpDateTime :=
  if month = 0 ∨ month > 12 then (false, dt)
  else if day = 0 ∨ day > 31 then (false, dt)
  else
    let tm := { getTimeStruct dt with year := year.toNat - 1900, mon := month.toNat - 1, mday := day.toNat }
    (true, setFromTimeStruct tm (getNanoSeconds dt))

-- What std::stoi reads is cut to the width of the variable it goes to.
def setISODate (strDate : Text) : Bool × VscpDateTime :=
  match isoNumbers 3 strDate with
  | [year, month, day] => setDate dt (UInt16.ofInt year) (UInt8.ofInt month) (UInt8.ofInt day)
  | _ => (false, dt)

-- The product is passed on as 32 bits.
def setTime (hour minute second : UInt8) (millisecond : UInt32) : Bool × VscpDateTime :=
  if hour > 23 then (false, dt)
  else if minute > 59 then (false, dt)
  else if second > 59 then (false, dt)
  else
    let tm := { getTimeStruct dt with hour := hour.toNat, min := minute.toNat, sec := second.toNat }
    (true, setFromTimeStruct tm (UInt32.ofNat (millisecond.toNat * nsPerMillisecond)))

def setISOTime (strTime : Text) : Bool × VscpDateTime :=
  match isoNumbers 3 strTime with
  | [hour, minute, second] => setTime dt (UInt8.ofInt hour) (UInt8.ofInt minute) (UInt8.ofInt second) 0
  | _ => (false, dt)

def setField (change : Tm → Tm) : Bool × VscpDateTime :=
  (true, setFromTimeStruct (change (getTimeStruct dt)) (getNanoSeconds dt))

def setYear (year : UInt16) : Bool × VscpDateTime := setField dt fun tm => { tm with year := year.toNat - 1900 }

def setMonth (month : UInt8) : Bool × VscpDateTime :=
  if month = 0 ∨ month > 12 then (false, dt) else setField dt fun tm => { tm with mon := month.toNat - 1 }

def setDay (day : UInt8) : Bool × VscpDateTime :=
  if day = 0 ∨ day > 31 then (false, dt) else setField dt fun tm => { tm with mday := day.toNat }

def setHour (hour : UInt8) : Bool × VscpDateTime :=
  if hour > 23 then (false, dt) else setField dt fun tm => { tm with hour := hour.toNat }

def setMinute (minute : UInt8) : Bool × VscpDateTime :=
  if minute > 59 then (false, dt) else setField dt fun tm => { tm with min := minute.toNat }

def setSecond (second : UInt8) : Bool × VscpDateTime :=
  if second > 59 then (false, dt) else setField dt fun tm => { tm with sec := second.toNat }

-- Computed in unsigned words.
def setMilliSecond (millisecond : UInt32) : Bool × VscpDateTime :=
  let secs := (dt.timestamp / nsPerSecond).toUInt64
  (true, ⟨(secs * nsPerSecond.toUInt64 + UInt64.ofNat (millisecond.toNat * nsPerMillisecond)).toInt64⟩)

def set (year : UInt16) (month day hour minute second : UInt8) (millisecond : UInt32) : Bool × VscpDateTime :=
  if month = 0 ∨ month > 12 then (false, dt)
  else if day = 0 ∨ day > 31 then (false, dt)
  else if hour > 23 then (false, dt)
  else if minute > 59 then (false, dt)
  else if second > 59 then (false, dt)
  else
    let tm : Tm := ⟨second.toNat, minute.toNat, hour.toNat, day.toNat, month.toNat - 1, year.toNat - 1900⟩
    (true, setFromTimeStruct tm (UInt32.ofNat (millisecond.toNat * nsPerMillisecond)))

def setText (text : Text) : Bool × VscpDateTime :=
  match isoNumbers 6 text with
  | [year, month, day, hour, minute, second] =>
      set dt (UInt16.ofInt year) (UInt8.ofInt month) (UInt8.ofInt day) (UInt8.ofInt hour) (UInt8.ofInt minute)
        (UInt8.ofInt second) 0
  | _ => (false, dt)

end

inductive Setter where
  | set (year : UInt16) (month day hour minute second : UInt8) (millisecond : UInt32)
  | setText (text : Text)
  | setDate (year : UInt16) (month day : UInt8)
  | setISODate (strDate : Text)
  | setTime (hour minute second : UInt8) (millisecond : UInt32)
  | setISOTime (strTime : Text)
  | setYear (year : UInt16)
  | setMonth (month : UInt8)
  | setDay (day : UInt8)
  | setHour (hour : UInt8)
  | setMinute (minute : UInt8)
  | setSecond (second : UInt8)
  | setMilliSecond (millisecond : UInt32)

def Setter.run (dt : VscpDateTime) : Setter → Bool × VscpDateTime
  | .set year month day hour minute second millisecond => DateTime.set dt year month day hour minute second millisecond
  | .setText text => DateTime.setText dt text
  | .setDate year month day => DateTime.setDate dt year month day
  | .setISODate strDate => DateTime.setISODate dt strDate
  | .setTime hour minute second millisecond => DateTime.setTime dt hour minute second millisecond
  | .setISOTime strTime => DateTime.setISOTime dt strTime
  | .setYear year => DateTime.setYear dt year
  | .setMonth month => DateTime.setMonth dt month
  | .setDay day => DateTime.setDay dt day
  | .setHour hour => DateTime.setHour dt hour
  | .setMinute minute => DateTime.setMinute dt minute
  | .setSecond second => DateTime.setSecond dt second
  | .setMilliSecond millisecond => DateTime.setMilliSecond dt millisecond

-- The components a call gives, as they are meant: the numbers of a text as they stand there. A millisecond stands for
-- all that is below a second.
structure Given where
  year : Option Int
  month : Option Int
  day : Option Int
  hour : Option Int
  minute : Option Int
  second : Option Int
  nanos : Option Int

def nothing : Given := ⟨none, none, none, none, none, none, none⟩

def milliseconds (millisecond : UInt32) : Int := millisecond.toNat * nsPerMillisecond

def Setter.given : Setter → Option Given
  | .set year month day hour minute second millisecond =>
      some ⟨some year.toNat, some month.toNat, some day.toNat, some hour.toNat, some minute.toNat, some second.toNat,
        some (milliseconds millisecond)⟩
  | .setText text =>
      match isoNumbers 6 text with
      | [year, month, day, hour, minute, second] =>
          some ⟨some year, some month, some day, some hour, some minute, some second, some 0⟩
      | _ => none
  | .setDate year month day =>
      some { nothing with year := some year.toNat, month := some month.toNat, day := some day.toNat }
  | .setISODate strDate =>
      match isoNumbers 3 strDate with
      | [year, month, day] => some { nothing with year := some year, month := some month, day := some day }
      | _ => none
  | .setTime hour minute second millisecond =>
      some { nothing with
        hour := some hour.toNat, minute := some minute.toNat, second := some second.toNat
        nanos := some (milliseconds millisecond) }
  | .setISOTime strTime =>
      match isoNumbers 3 strTime with
      | [hour, minute, second] =>
          some { nothing with hour := some hour, minute := some minute, second := some second, nanos := some 0 }
      | _ => none
  | .setYear year => some { nothing with year := some year.toNat }
  | .setMonth month => some { nothing with month := some month.toNat }
  | .setDay day => some { nothing with day := some day.toNat }
  | .setHour hour => some { nothing with hour := some hour.toNat }
  | .setMinute minute => some { nothing with minute := some minute.toNat }
  | .setSecond second => some { nothing with second := some second.toNat }
  | .setMilliSecond millisecond => some { nothing with nanos := some (milliseconds millisecond) }

def Given.over (given : Given) (moment : Moment) : Moment :=
  { date :=
      { year := given.year.getD moment.date.year
        month := given.month.getD moment.date.month
        day := given.day.getD moment.date.day }
    hour := given.hour.getD moment.hour
    minute := given.minute.getD moment.minute
    second := given.second.getD moment.second
    nanos := given.nanos.getD moment.nanos }

def VscpDateTime.moment (dt : VscpDateTime) : Moment := momentOf dt.timestamp.toInt

structure Holdable (moment : Moment) : Prop where
  valid : moment.Valid
  low : -2 ^ 63 ≤ moment.instant
  high : moment.instant < 2 ^ 63

def Right (dt : VscpDateTime) (setter : Setter) : Prop :=
  match setter.run dt with
  | (true, after) => ∃ given, setter.given = some given ∧ (given.over dt.moment).Valid ∧
      after.moment = given.over dt.moment
  | (false, after) => after = dt ∧ ∀ given, setter.given = some given → ¬ Holdable (given.over dt.moment)

-- The checks of the setters, on the eight bits that are left of a component.
structure Given.Accepted (given : Given) : Prop where
  month : ∀ month, given.month = some month → 1 ≤ month % 2 ^ 8 ∧ month % 2 ^ 8 ≤ 12
  day : ∀ day, given.day = some day → 1 ≤ day % 2 ^ 8 ∧ day % 2 ^ 8 ≤ 31
  hour : ∀ hour, given.hour = some hour → hour % 2 ^ 8 ≤ 23
  minute : ∀ minute, given.minute = some minute → minute % 2 ^ 8 ≤ 59
  second : ∀ second, given.second = some second → second % 2 ^ 8 ≤ 59

-- Whole seconds and the rest are cut towards zero, so before 1970 a part of a second spoils what is taken over: for a
-- time that is set the date, if the cut goes over midnight.
def Steady (t : Int) (setter : Setter) : Prop :=
  0 ≤ t ∨ t % 10 ^ 9 = 0 ∨
    match setter with
    | .set .. => True
    | .setText _ => True
    | .setTime .. => (t / 10 ^ 9 + 1) % 86400 ≠ 0
    | .setISOTime _ => (t / 10 ^ 9 + 1) % 86400 ≠ 0
    | _ => False

def Fits (dt : VscpDateTime) (setter : Setter) : Prop :=
  ∀ given, setter.given = some given → given.Accepted →
    Holdable (given.over dt.moment) ∧ Steady dt.timestamp.toInt setter

-- What is left of the components in the variables of the code.
def Given.cut (given : Given) : Given where
  year := given.year.map (· % 2 ^ 16)
  month := given.month.map (· % 2 ^ 8)
  day := given.day.map (· % 2 ^ 8)
  hour := given.hour.map (· % 2 ^ 8)
  minute := given.minute.map (· % 2 ^ 8)
  second := given.second.map (· % 2 ^ 8)
  nanos := given.nanos

def Given.overTm (given : Given) (tm : Tm) : Tm where
  sec := given.second.getD tm.sec
  min := given.minute.getD tm.min
  hour := given.hour.getD tm.hour
  mday := given.day.getD tm.mday
  mon := (given.month.map (· - 1)).getD tm.mon
  year := (given.year.map (· - 1900)).getD tm.year

structure Written (dt : VscpDateTime) (given : Given) (answer : Bool × VscpDateTime) : Prop where
  refused : ¬ given.Accepted → answer = (false, dt)
  accepted : given.Accepted → ∃ nanos : Int,
    answer = (true, ⟨Int64.ofInt (timegm (given.overTm (getTimeStruct dt)) * 10 ^ 9 + nanos)⟩) ∧
      (given.nanos = none → nanos = (getNanoSeconds dt).toNat) ∧
      ∀ own, given.nanos = some own → own < 10 ^ 9 → nanos = own

section

variable {dt : VscpDateTime} {given : Given}

theorem written_check (refusal : Prop) [Decidable refusal] (rest : Bool × VscpDateTime)
    (bad : refusal → ¬ given.Accepted) (good : ¬ refusal → Written dt given rest) :
    Written dt given (if refusal then (false, dt) else rest) := by
  by_cases fails : refusal
  · rw [if_pos fails]
    exact ⟨fun _ => rfl, fun accepted => absurd accepted (bad fails)⟩
  · rw [if_neg fails]
    exact good fails

theorem set_from_time_struct_value (tm : Tm) (nanoseconds : UInt32) :
    setFromTimeStruct tm nanoseconds = ⟨Int64.ofInt (timegm tm * 10 ^ 9 + nanoseconds.toNat)⟩ := by
  have unit : nsPerSecond = Int64.ofInt (10 ^ 9) := rfl
  rw [setFromTimeStruct, unit, ← Int64.ofInt_mul, ← Int64.ofInt_eq_ofNat, ← Int64.ofInt_add]

theorem written_kept (accepted : given.Accepted) (none : given.nanos = none) (tm : Tm)
    (same : tm = given.overTm (getTimeStruct dt)) :
    Written dt given (true, setFromTimeStruct tm (getNanoSeconds dt)) := by
  refine ⟨fun refused => absurd accepted refused, fun _ => ⟨(getNanoSeconds dt).toNat, ?_, fun _ => rfl, ?_⟩⟩
  · rw [set_from_time_struct_value, same]
  · intro own some
    rw [none] at some
    cases some

theorem written_milliseconds (accepted : given.Accepted) (millisecond : UInt32)
    (some' : given.nanos = some (milliseconds millisecond)) (tm : Tm) (same : tm = given.overTm (getTimeStruct dt)) :
    Written dt given (true, setFromTimeStruct tm (UInt32.ofNat (millisecond.toNat * nsPerMillisecond))) := by
  refine ⟨fun refused => absurd accepted refused,
    fun _ => ⟨(UInt32.ofNat (millisecond.toNat * nsPerMillisecond)).toNat, ?_, ?_, ?_⟩⟩
  · rw [set_from_time_struct_value, same]
  · intro none
    rw [none] at some'
    cases some'
  · intro own is small
    rw [some'] at is
    have value := Option.some.inj is
    rw [milliseconds] at value
    rw [UInt32.toNat_ofNat', Nat.mod_eq_of_lt (by omega), ← value]
    exact Nat.cast_mul _ _

end

theorem byte_cut (value : UInt8) : (value.toNat : Int) % 2 ^ 8 = value.toNat := by
  have below := value.toNat_lt
  omega

theorem year_cut (value : UInt16) : (value.toNat : Int) % 2 ^ 16 = value.toNat := by
  have below := value.toNat_lt
  omega

theorem byte_of_number (value : Int) : ((UInt8.ofInt value).toNat : Int) = value % 2 ^ 8 := by
  rw [UInt8.ofInt, UInt8.toNat_ofNat']
  omega

theorem year_of_number (value : Int) : ((UInt16.ofInt value).toNat : Int) = value % 2 ^ 16 := by
  rw [UInt16.ofInt, UInt16.toNat_ofNat']
  omega

variable (value limit : UInt8)

theorem check_range :
    ¬ (value = 0 ∨ value > limit) ↔ 1 ≤ (value.toNat : Int) % 2 ^ 8 ∧ (value.toNat : Int) % 2 ^ 8 ≤ limit.toNat := by
  rw [byte_cut, not_or, gt_iff_lt, UInt8.not_lt, UInt8.le_iff_toNat_le]
  have zero : value = 0 ↔ value.toNat = 0 := (UInt8.toNat_inj (b := 0)).symm
  rw [zero]
  omega

theorem check_limit : ¬ value > limit ↔ (value.toNat : Int) % 2 ^ 8 ≤ limit.toNat := by
  rw [byte_cut, gt_iff_lt, UInt8.not_lt, UInt8.le_iff_toNat_le]
  omega

theorem absent {range : Int → Prop} (value : Int) (is : none = some value) : range value := nomatch is

theorem set_date_written (dt : VscpDateTime) (year : UInt16) (month day : UInt8) :
    Written dt { nothing with year := some year.toNat, month := some month.toNat, day := some day.toNat }
      (setDate dt year month day) := by
  unfold setDate
  refine written_check _ _ (fun bad accepted => ?_) fun months => ?_
  · exact (check_range month 12).mpr (accepted.month _ rfl) bad
  refine written_check _ _ (fun bad accepted => ?_) fun days => ?_
  · exact (check_range day 31).mpr (accepted.day _ rfl) bad
  refine written_kept ⟨?_, ?_, absent, absent, absent⟩ rfl _ rfl
  · rintro _ ⟨⟩
    exact (check_range month 12).mp months
  · rintro _ ⟨⟩
    exact (check_range day 31).mp days

theorem set_time_written (dt : VscpDateTime) (hour minute second : UInt8) (millisecond : UInt32) :
    Written dt
      { nothing with
        hour := some hour.toNat, minute := some minute.toNat, second := some second.toNat
        nanos := some (milliseconds millisecond) }
      (setTime dt hour minute second millisecond) := by
  unfold setTime
  refine written_check _ _ (fun bad accepted => ?_) fun hours => ?_
  · exact (check_limit hour 23).mpr (accepted.hour _ rfl) bad
  refine written_check _ _ (fun bad accepted => ?_) fun minutes => ?_
  · exact (check_limit minute 59).mpr (accepted.minute _ rfl) bad
  refine written_check _ _ (fun bad accepted => ?_) fun seconds => ?_
  · exact (check_limit second 59).mpr (accepted.second _ rfl) bad
  refine written_milliseconds ⟨absent, absent, ?_, ?_, ?_⟩ millisecond rfl _ rfl
  · rintro _ ⟨⟩
    exact (check_limit hour 23).mp hours
  · rintro _ ⟨⟩
    exact (check_limit minute 59).mp minutes
  · rintro _ ⟨⟩
    exact (check_limit second 59).mp seconds

theorem set_written (dt : VscpDateTime) (year : UInt16) (month day hour minute second : UInt8) (millisecond : UInt32) :
    Written dt
      ⟨some year.toNat, some month.toNat, some day.toNat, some hour.toNat, some minute.toNat, some second.toNat,
        some (milliseconds millisecond)⟩
      (set dt year month day hour minute second millisecond) := by
  unfold set
  refine written_check _ _ (fun bad accepted => ?_) fun months => ?_
  · exact (check_range month 12).mpr (accepted.month _ rfl) bad
  refine written_check _ _ (fun bad accepted => ?_) fun days => ?_
  · exact (check_range day 31).mpr (accepted.day _ rfl) bad
  refine written_check _ _ (fun bad accepted => ?_) fun hours => ?_
  · exact (check_limit hour 23).mpr (accepted.hour _ rfl) bad
  refine written_check _ _ (fun bad accepted => ?_) fun minutes => ?_
  · exact (check_limit minute 59).mpr (accepted.minute _ rfl) bad
  refine written_check _ _ (fun bad accepted => ?_) fun seconds => ?_
  · exact (check_limit second 59).mpr (accepted.second _ rfl) bad
  refine written_milliseconds ⟨?_, ?_, ?_, ?_, ?_⟩ millisecond rfl _ rfl
  · rintro _ ⟨⟩
    exact (check_range month 12).mp months
  · rintro _ ⟨⟩
    exact (check_range day 31).mp days
  · rintro _ ⟨⟩
    exact (check_limit hour 23).mp hours
  · rintro _ ⟨⟩
    exact (check_limit minute 59).mp minutes
  · rintro _ ⟨⟩
    exact (check_limit second 59).mp seconds

theorem gmtime_of_seconds (secs : Int) : timegm (gmtimeR secs) = secs := by
  have number := (day_number_of_date (secs / 86400)).1
  simp only [timegm, gmtimeR, Int.sub_add_cancel, number]
  omega

theorem set_milli_second_written (dt : VscpDateTime) (millisecond : UInt32) :
    Written dt { nothing with nanos := some (milliseconds millisecond) } (setMilliSecond dt millisecond) := by
  have passes : ({ nothing with nanos := some (milliseconds millisecond) } : Given).Accepted :=
    ⟨absent, absent, absent, absent, absent⟩
  refine ⟨fun refused => absurd passes refused, fun _ => ⟨milliseconds millisecond, ?_, nofun, ?_⟩⟩
  · have same : ({ nothing with nanos := some (milliseconds millisecond) } : Given).overTm (getTimeStruct dt) =
        getTimeStruct dt := rfl
    have unit : nsPerSecond = Int64.ofInt (10 ^ 9) := rfl
    have rest : UInt64.ofNat (millisecond.toNat * nsPerMillisecond) = (Int64.ofInt (milliseconds millisecond)).toUInt64 := by
      rw [milliseconds, ← Nat.cast_mul, Int64.ofInt_eq_ofNat]
      rfl
    rw [same, getTimeStruct, gmtime_of_seconds, setMilliSecond, rest, ← Int64.toUInt64_mul, ← Int64.toUInt64_add,
      Int64.toInt64_toUInt64, unit, Int64.ofInt_add, Int64.ofInt_mul, Int64.ofInt_toInt]
  · rintro own ⟨⟩ _
    rfl

theorem set_year_written (dt : VscpDateTime) (year : UInt16) :
    Written dt { nothing with year := some year.toNat } (setYear dt year) :=
  written_kept ⟨absent, absent, absent, absent, absent⟩ rfl _ rfl

theorem set_month_written (dt : VscpDateTime) (month : UInt8) :
    Written dt { nothing with month := some month.toNat } (setMonth dt month) := by
  unfold setMonth
  refine written_check _ _ (fun bad accepted => ?_) fun months => ?_
  · exact (check_range month 12).mpr (accepted.month _ rfl) bad
  refine written_kept ⟨?_, absent, absent, absent, absent⟩ rfl _ rfl
  rintro _ ⟨⟩
  exact (check_range month 12).mp months

theorem set_day_written (dt : VscpDateTime) (day : UInt8) :
    Written dt { nothing with day := some day.toNat } (setDay dt day) := by
  unfold setDay
  refine written_check _ _ (fun bad accepted => ?_) fun days => ?_
  · exact (check_range day 31).mpr (accepted.day _ rfl) bad
  refine written_kept ⟨absent, ?_, absent, absent, absent⟩ rfl _ rfl
  rintro _ ⟨⟩
  exact (check_range day 31).mp days

theorem set_hour_written (dt : VscpDateTime) (hour : UInt8) :
    Written dt { nothing with hour := some hour.toNat } (setHour dt hour) := by
  unfold setHour
  refine written_check _ _ (fun bad accepted => ?_) fun hours => ?_
  · exact (check_limit hour 23).mpr (accepted.hour _ rfl) bad
  refine written_kept ⟨absent, absent, ?_, absent, absent⟩ rfl _ rfl
  rintro _ ⟨⟩
  exact (check_limit hour 23).mp hours

theorem set_minute_written (dt : VscpDateTime) (minute : UInt8) :
    Written dt { nothing with minute := some minute.toNat } (setMinute dt minute) := by
  unfold setMinute
  refine written_check _ _ (fun bad accepted => ?_) fun minutes => ?_
  · exact (check_limit minute 59).mpr (accepted.minute _ rfl) bad
  refine written_kept ⟨absent, absent, absent, ?_, absent⟩ rfl _ rfl
  rintro _ ⟨⟩
  exact (check_limit minute 59).mp minutes

theorem set_second_written (dt : VscpDateTime) (second : UInt8) :
    Written dt { nothing with second := some second.toNat } (setSecond dt second) := by
  unfold setSecond
  refine written_check _ _ (fun bad accepted => ?_) fun seconds => ?_
  · exact (check_limit second 59).mpr (accepted.second _ rfl) bad
  refine written_kept ⟨absent, absent, absent, absent, ?_⟩ rfl _ rfl
  rintro _ ⟨⟩
  exact (check_limit second 59).mp seconds

theorem cut_self (given : Given) (year : ∀ year, given.year = some year → year % 2 ^ 16 = year)
    (month : ∀ month, given.month = some month → month % 2 ^ 8 = month)
    (day : ∀ day, given.day = some day → day % 2 ^ 8 = day)
    (hour : ∀ hour, given.hour = some hour → hour % 2 ^ 8 = hour)
    (minute : ∀ minute, given.minute = some minute → minute % 2 ^ 8 = minute)
    (second : ∀ second, given.second = some second → second % 2 ^ 8 = second) : given.cut = given := by
  have same {modulus : Int} (own : Option Int) (fits : ∀ value, own = some value → value % modulus = value) :
      own.map (· % modulus) = own := by
    cases own with
    | none => rfl
    | some value => exact congrArg some (fits value rfl)
  rw [Given.cut, same _ year, same _ month, same _ day, same _ hour, same _ minute, same _ second]

theorem cut_bytes {value : UInt8} (number : Int) (is : some (value.toNat : Int) = some number) :
    number % 2 ^ 8 = number := by
  cases is
  exact byte_cut value

theorem cut_years {value : UInt16} (number : Int) (is : some (value.toNat : Int) = some number) :
    number % 2 ^ 16 = number := by
  cases is
  exact year_cut value

theorem cut_accepted (given : Given) : given.cut.Accepted ↔ given.Accepted := by
  have same (own : Option Int) (range : Int → Prop) :
      (∀ value, own.map (· % 2 ^ 8) = some value → range (value % 2 ^ 8)) ↔ ∀ value, own = some value → range (value % 2 ^ 8) := by
    cases own with
    | none => exact iff_of_true absent absent
    | some value => simp
  constructor
  · rintro ⟨month, day, hour, minute, second⟩
    exact ⟨(same _ (fun month => 1 ≤ month ∧ month ≤ 12)).mp month, (same _ (fun day => 1 ≤ day ∧ day ≤ 31)).mp day,
      (same _ (· ≤ 23)).mp hour, (same _ (· ≤ 59)).mp minute, (same _ (· ≤ 59)).mp second⟩
  · rintro ⟨month, day, hour, minute, second⟩
    exact ⟨(same _ (fun month => 1 ≤ month ∧ month ≤ 12)).mpr month, (same _ (fun day => 1 ≤ day ∧ day ≤ 31)).mpr day,
      (same _ (· ≤ 23)).mpr hour, (same _ (· ≤ 59)).mpr minute, (same _ (· ≤ 59)).mpr second⟩

theorem setter_written (dt : VscpDateTime) (setter : Setter) :
    match setter.given with
    | none => setter.run dt = (false, dt)
    | some given => Written dt given.cut (setter.run dt) := by
  have kept {given : Given} {answer : Bool × VscpDateTime} (cut : given.cut = given) (written : Written dt given answer) :
      Written dt given.cut answer := by
    rw [cut]
    exact written
  cases setter with
  | set year month day hour minute second millisecond =>
      exact kept (cut_self _ cut_years cut_bytes cut_bytes cut_bytes cut_bytes cut_bytes) (set_written dt ..)
  | setText text =>
      simp only [Setter.given, Setter.run, setText]
      split <;> rename_i numbers
      · split at numbers
        · cases numbers
        · rfl
      · split at numbers
        · rename_i year month day hour minute second _
          cases numbers
          have written := set_written dt (UInt16.ofInt year) (UInt8.ofInt month) (UInt8.ofInt day) (UInt8.ofInt hour)
            (UInt8.ofInt minute) (UInt8.ofInt second) 0
          simp only [year_of_number, byte_of_number] at written
          exact written
        · cases numbers
  | setDate year month day =>
      exact kept (cut_self _ cut_years cut_bytes cut_bytes absent absent absent) (set_date_written dt ..)
  | setISODate strDate =>
      simp only [Setter.given, Setter.run, setISODate]
      split <;> rename_i numbers
      · split at numbers
        · cases numbers
        · rfl
      · split at numbers
        · rename_i year month day _
          cases numbers
          have written := set_date_written dt (UInt16.ofInt year) (UInt8.ofInt month) (UInt8.ofInt day)
          simp only [year_of_number, byte_of_number] at written
          exact written
        · cases numbers
  | setTime hour minute second millisecond =>
      exact kept (cut_self _ absent absent absent cut_bytes cut_bytes cut_bytes) (set_time_written dt ..)
  | setISOTime strTime =>
      simp only [Setter.given, Setter.run, setISOTime]
      split <;> rename_i numbers
      · split at numbers
        · cases numbers
        · rfl
      · split at numbers
        · rename_i hour minute second _
          cases numbers
          have written := set_time_written dt (UInt8.ofInt hour) (UInt8.ofInt minute) (UInt8.ofInt second) 0
          simp only [byte_of_number] at written
          exact written
        · cases numbers
  | setYear year => exact kept (cut_self _ cut_years absent absent absent absent absent) (set_year_written dt year)
  | setMonth month => exact kept (cut_self _ absent cut_bytes absent absent absent absent) (set_month_written dt month)
  | setDay day => exact kept (cut_self _ absent absent cut_bytes absent absent absent) (set_day_written dt day)
  | setHour hour => exact kept (cut_self _ absent absent absent cut_bytes absent absent) (set_hour_written dt hour)
  | setMinute minute =>
      exact kept (cut_self _ absent absent absent absent cut_bytes absent) (set_minute_written dt minute)
  | setSecond second =>
      exact kept (cut_self _ absent absent absent absent absent cut_bytes) (set_second_written dt second)
  | setMilliSecond millisecond =>
      exact kept (cut_self _ absent absent absent absent absent absent) (set_milli_second_written dt millisecond)

theorem over_tm_seconds (given : Given) (instant : Int) :
    timegm (given.overTm (gmtimeR (instant / 10 ^ 9))) = (given.over (momentOf instant)).seconds := by
  have shifted (own : Option Int) (before step : Int) : (own.map (· - step)).getD (before - step) + step = own.getD before := by
    cases own <;> simp
  simp only [timegm, Given.overTm, gmtimeR, Given.over, momentOf, Moment.seconds, shifted]

theorem cut_of_holdable (given : Given) (moment : Moment) (holdable : Holdable (given.over moment)) :
    given.Accepted ∧ given.cut = given := by
  obtain ⟨⟨⟨monthLow, monthHigh, dayLow, dayHigh⟩, hours, minutes, seconds, rest⟩, low, high⟩ := holdable
  have most := days_in_month_most (given.over moment).date.year (given.over moment).date.month
  have near := day_number_near (given.over moment).date ⟨monthLow, monthHigh⟩ ⟨dayLow, by omega⟩
  have years : 0 ≤ (given.over moment).date.year ∧ (given.over moment).date.year < 2 ^ 16 := by
    unfold daysBefore at near
    unfold Moment.instant Moment.seconds at low high
    omega
  have byte (part : Option Int) (before low high : Int) (inside : low ≤ part.getD before ∧ part.getD before ≤ high)
      (range : 0 ≤ low ∧ high < 2 ^ 8) (value : Int) (is : part = some value) :
      value % 2 ^ 8 = value ∧ low ≤ value % 2 ^ 8 ∧ value % 2 ^ 8 ≤ high := by
    rw [is, Option.getD_some] at inside
    omega
  have month := byte given.month moment.date.month 1 12 ⟨monthLow, monthHigh⟩ (by decide)
  have day := byte given.day moment.date.day 1 31 ⟨dayLow, le_trans dayHigh most⟩ (by decide)
  have hour := byte given.hour moment.hour 0 23 ⟨hours.1, Int.le_of_lt_add_one hours.2⟩ (by decide)
  have minute := byte given.minute moment.minute 0 59 ⟨minutes.1, Int.le_of_lt_add_one minutes.2⟩ (by decide)
  have second := byte given.second moment.second 0 59 ⟨seconds.1, Int.le_of_lt_add_one seconds.2⟩ (by decide)
  have year (value : Int) (is : given.year = some value) : value % 2 ^ 16 = value := by
    have own : given.year.getD moment.date.year = value := by rw [is, Option.getD_some]
    rw [← own]
    exact Int.emod_eq_of_lt years.1 years.2
  exact ⟨⟨fun value is => (month value is).2, fun value is => (day value is).2, fun value is => (hour value is).2.2,
      fun value is => (minute value is).2.2, fun value is => (second value is).2.2⟩,
    cut_self given year (fun value is => (month value is).1) (fun value is => (day value is).1)
      (fun value is => (hour value is).1) (fun value is => (minute value is).1) fun value is => (second value is).1⟩

def startSecond (t : Int) : Int := if 0 ≤ t ∨ t % 10 ^ 9 = 0 then t / 10 ^ 9 else t / 10 ^ 9 + 1

theorem start_second (dt : VscpDateTime) :
    (dt.timestamp / nsPerSecond).toInt = startSecond dt.timestamp.toInt ∧
      ((getNanoSeconds dt).toNat : Int) = dt.timestamp.toInt % 10 ^ 9 +
        if 0 ≤ dt.timestamp.toInt ∨ dt.timestamp.toInt % 10 ^ 9 = 0 then 0 else 2 ^ 32 - 10 ^ 9 := by
  obtain ⟨-, -, whole, below, above⟩ := seconds_bounds dt.timestamp.toInt dt.timestamp.le_toInt dt.timestamp.toInt_lt
  rw [nanoseconds_value, slip, (seconds_value dt).1, startSecond]
  generalize dt.timestamp.toInt = t at whole below above ⊢
  by_cases exact : 0 ≤ t ∨ t % 10 ^ 9 = 0
  · have nonneg : 0 ≤ t.tmod (10 ^ 9) := by
      by_cases positive : 0 ≤ t
      · exact Int.tmod_nonneg _ positive
      · omega
    rw [if_pos exact, if_pos exact, if_pos exact]
    omega
  · have nonpos := Int.tmod_nonneg (10 ^ 9) (show 0 ≤ -t by omega)
    rw [Int.neg_tmod] at nonpos
    rw [if_neg exact, if_neg exact, if_neg exact]
    omega

theorem written_value (dt : VscpDateTime) (given : Given) (answer : Bool × VscpDateTime) (written : Written dt given answer)
    (accepted : given.Accepted) : ∃ nanos : Int,
    answer = (true, ⟨Int64.ofInt ((given.over (momentOf (startSecond dt.timestamp.toInt * 10 ^ 9))).seconds * 10 ^ 9 + nanos)⟩) ∧
      (given.nanos = none → nanos = (getNanoSeconds dt).toNat) ∧
      ∀ own, given.nanos = some own → own < 10 ^ 9 → nanos = own := by
  obtain ⟨nanos, answerIs, kept, own⟩ := written.accepted accepted
  have start : getTimeStruct dt = gmtimeR (startSecond dt.timestamp.toInt * 10 ^ 9 / 10 ^ 9) := by
    rw [getTimeStruct, (start_second dt).1, Int.mul_ediv_cancel _ (by decide)]
  rw [start, over_tm_seconds] at answerIs
  exact ⟨nanos, answerIs, kept, own⟩

theorem years_near (first second : Int) (near : second = first ∨ second = first + 1) :
    (dateOf first).year - 2 ≤ (dateOf second).year ∧ (dateOf second).year ≤ (dateOf first).year + 2 := by
  obtain ⟨firstNumber, firstMonthLow, firstMonthHigh, firstDay⟩ := day_number_of_date first
  obtain ⟨secondNumber, secondMonthLow, secondMonthHigh, secondDay⟩ := day_number_of_date second
  have firstNear := day_number_near (dateOf first) ⟨firstMonthLow, firstMonthHigh⟩ firstDay
  have secondNear := day_number_near (dateOf second) ⟨secondMonthLow, secondMonthHigh⟩ secondDay
  rw [firstNumber] at firstNear
  rw [secondNumber] at secondNear
  unfold daysBefore at firstNear secondNear
  omega

theorem over_near (given : Given) (first second : Moment) (secondValid : second.Valid)
    (years : first.date.year - 2 ≤ second.date.year ∧ second.date.year ≤ first.date.year + 2)
    (valid : (given.over first).Valid) :
    (given.over first).seconds - 86400 * 1465 ≤ (given.over second).seconds ∧
      (given.over second).seconds ≤ (given.over first).seconds + 86400 * 1465 := by
  have inside {own : Option Int} {low high before after : Int} (given : low ≤ own.getD before ∧ own.getD before ≤ high)
      (range : low ≤ after ∧ after ≤ high) : low ≤ own.getD after ∧ own.getD after ≤ high := by
    cases own with
    | none => exact range
    | some value => exact given
  have most := days_in_month_most (given.over first).date.year (given.over first).date.month
  have secondMost := days_in_month_most second.date.year second.date.month
  obtain ⟨⟨monthLow, monthHigh, dayLow, dayHigh⟩, hours, minutes, seconds, -⟩ := valid
  obtain ⟨⟨ownMonthLow, ownMonthHigh, ownDayLow, ownDayHigh⟩, ownHours, ownMinutes, ownSeconds, -⟩ := secondValid
  have month := inside ⟨monthLow, monthHigh⟩ ⟨ownMonthLow, ownMonthHigh⟩
  have day := inside ⟨dayLow, le_trans dayHigh most⟩ ⟨ownDayLow, le_trans ownDayHigh secondMost⟩
  have hour := inside ⟨hours.1, Int.le_sub_one_of_lt hours.2⟩ ⟨ownHours.1, Int.le_sub_one_of_lt ownHours.2⟩
  have minute := inside ⟨minutes.1, Int.le_sub_one_of_lt minutes.2⟩ ⟨ownMinutes.1, Int.le_sub_one_of_lt ownMinutes.2⟩
  have second' := inside ⟨seconds.1, Int.le_sub_one_of_lt seconds.2⟩ ⟨ownSeconds.1, Int.le_sub_one_of_lt ownSeconds.2⟩
  have year : (given.over first).date.year - 2 ≤ (given.over second).date.year ∧
      (given.over second).date.year ≤ (given.over first).date.year + 2 := by
    simp only [Given.over]
    cases given.year with
    | none => exact years
    | some value => simp
  have firstNear := day_number_near (given.over first).date ⟨monthLow, monthHigh⟩ ⟨dayLow, le_trans dayHigh most⟩
  have secondNear := day_number_near (given.over second).date month day
  have low := days_before_mono _ _ year.1
  have high := days_before_mono _ _ year.2
  have spanLow : daysBefore (given.over first).date.year - 732 ≤ daysBefore ((given.over first).date.year - 2) := by
    unfold daysBefore
    omega
  have spanHigh : daysBefore ((given.over first).date.year + 2) ≤ daysBefore (given.over first).date.year + 732 := by
    unfold daysBefore
    omega
  have hourIs : (given.over second).hour = given.hour.getD second.hour := rfl
  have minuteIs : (given.over second).minute = given.minute.getD second.minute := rfl
  have secondIs : (given.over second).second = given.second.getD second.second := rfl
  rw [Moment.seconds, Moment.seconds, hourIs, minuteIs, secondIs]
  omega

theorem over_seconds_of_same (given : Given) (first second : Int) (same : first / 10 ^ 9 = second / 10 ^ 9) :
    (given.over (momentOf first)).seconds = (given.over (momentOf second)).seconds := by
  simp only [Given.over, momentOf, Moment.seconds, same]

variable (t : Int)

theorem start_instant : startSecond t * 10 ^ 9 / 10 ^ 9 = startSecond t := Int.mul_ediv_cancel _ (by decide)

theorem start_exact (exact : 0 ≤ t ∨ t % 10 ^ 9 = 0) : startSecond t * 10 ^ 9 / 10 ^ 9 = t / 10 ^ 9 := by
  rw [start_instant, startSecond, if_pos exact]

theorem start_late (late : ¬ (0 ≤ t ∨ t % 10 ^ 9 = 0)) : startSecond t * 10 ^ 9 / 10 ^ 9 = t / 10 ^ 9 + 1 := by
  rw [start_instant, startSecond, if_neg late]

theorem time_over_seconds (given : Given) (date : given.year = none ∧ given.month = none ∧ given.day = none)
    (hour minute second : Int) (time : given.hour = some hour ∧ given.minute = some minute ∧ given.second = some second)
    (instant : Int) : (given.over (momentOf instant)).seconds =
      instant / 10 ^ 9 / 86400 * 86400 + hour * 3600 + minute * 60 + second := by
  have number := (day_number_of_date (instant / 10 ^ 9 / 86400)).1
  obtain ⟨year, month, day⟩ := date
  obtain ⟨hours, minutes, seconds⟩ := time
  simp only [Given.over, momentOf, Moment.seconds, year, month, day, hours, minutes, seconds, Option.getD_none,
    Option.getD_some, number]

theorem second_over_seconds (given : Given)
    (none : given = { nothing with nanos := given.nanos }) (instant : Int) :
    (given.over (momentOf instant)).seconds = instant / 10 ^ 9 := by
  have number := (day_number_of_date (instant / 10 ^ 9 / 86400)).1
  rw [none]
  simp only [Given.over, nothing, momentOf, Moment.seconds, Option.getD_none, number]
  omega

theorem time_over_start (given : Given) (date : given.year = none ∧ given.month = none ∧ given.day = none)
    (hour minute second : Int) (time : given.hour = some hour ∧ given.minute = some minute ∧ given.second = some second)
    (t : Int) (late : ¬ (0 ≤ t ∨ t % 10 ^ 9 = 0)) :
    (given.over (momentOf (startSecond t * 10 ^ 9))).seconds = (given.over (momentOf t)).seconds +
      if (t / 10 ^ 9 + 1) % 86400 = 0 then 86400 else 0 := by
  rw [time_over_seconds given date hour minute second time, time_over_seconds given date hour minute second time,
    start_late t late]
  split <;> omega

variable (setter : Setter)

theorem steady_start (given : Given) (is : setter.given = some given)
    (steady : Steady t setter) :
    (given.over (momentOf (startSecond t * 10 ^ 9))).seconds = (given.over (momentOf t)).seconds ∧
      (given.nanos = none → 0 ≤ t ∨ t % 10 ^ 9 = 0) := by
  by_cases exact : 0 ≤ t ∨ t % 10 ^ 9 = 0
  · exact ⟨over_seconds_of_same given _ _ (start_exact t exact), fun _ => exact⟩
  have own : ¬ 0 ≤ t ∧ ¬ t % 10 ^ 9 = 0 := not_or.mp exact
  have other := (steady.resolve_left own.1).resolve_left own.2
  cases setter with
  | set year month day hour minute second millisecond =>
      cases is
      exact ⟨rfl, nofun⟩
  | setText text =>
      simp only [Setter.given] at is
      split at is
      · cases is
        exact ⟨rfl, nofun⟩
      · cases is
  | setTime hour minute second millisecond =>
      cases is
      refine ⟨?_, nofun⟩
      rw [time_over_start _ ⟨rfl, rfl, rfl⟩ _ _ _ ⟨rfl, rfl, rfl⟩ t exact, if_neg other, Int.add_zero]
  | setISOTime strTime =>
      simp only [Setter.given] at is
      split at is
      · cases is
        refine ⟨?_, nofun⟩
        rw [time_over_start _ ⟨rfl, rfl, rfl⟩ _ _ _ ⟨rfl, rfl, rfl⟩ t exact, if_neg other, Int.add_zero]
      · cases is
  | _ => exact absurd other id

-- Where the start is not the right one, the result is off by a second or a day, unless what is below the second is
-- taken over and is wrong itself.
theorem unsteady_start (given : Given) (is : setter.given = some given)
    (unsteady : ¬ Steady t setter) :
    ¬ (0 ≤ t ∨ t % 10 ^ 9 = 0) ∧
      (given.nanos = none ∨
        (given.over (momentOf (startSecond t * 10 ^ 9))).seconds = (given.over (momentOf t)).seconds + 1 ∨
        (given.over (momentOf (startSecond t * 10 ^ 9))).seconds = (given.over (momentOf t)).seconds + 86400) := by
  have late : ¬ (0 ≤ t ∨ t % 10 ^ 9 = 0) := fun exact => unsteady (exact.elim .inl fun whole => .inr (.inl whole))
  have other := fun same => unsteady (.inr (.inr same))
  refine ⟨late, ?_⟩
  cases setter with
  | set year month day hour minute second millisecond => exact absurd trivial other
  | setText text => exact absurd trivial other
  | setTime hour minute second millisecond =>
      cases is
      refine .inr (.inr ?_)
      rw [time_over_start _ ⟨rfl, rfl, rfl⟩ _ _ _ ⟨rfl, rfl, rfl⟩ t late, if_pos (Decidable.not_not.mp other)]
  | setISOTime strTime =>
      simp only [Setter.given] at is
      split at is
      · cases is
        refine .inr (.inr ?_)
        rw [time_over_start _ ⟨rfl, rfl, rfl⟩ _ _ _ ⟨rfl, rfl, rfl⟩ t late, if_pos (Decidable.not_not.mp other)]
      · cases is
  | setMilliSecond millisecond =>
      cases is
      refine .inr (.inl ?_)
      rw [second_over_seconds _ rfl, second_over_seconds _ rfl, start_late t late]
  | setISODate strDate =>
      simp only [Setter.given] at is
      split at is
      · cases is
        exact .inl rfl
      · cases is
  | _ =>
      cases is
      exact .inl rfl

theorem steady_written (dt : VscpDateTime) (setter : Setter) (given : Given) (is : setter.given = some given)
    (accepted : given.Accepted) (holdable : Holdable (given.over dt.moment)) (steady : Steady dt.timestamp.toInt setter)
    (answer : Bool × VscpDateTime) (written : Written dt given answer) :
    ∃ after, answer = (true, after) ∧ after.moment = given.over dt.moment := by
  obtain ⟨valid, low, high⟩ := holdable
  obtain ⟨same, exact⟩ := steady_start _ setter given is steady
  obtain ⟨nanos, answerIs, kept, own⟩ := written_value dt given answer written accepted
  have rest : nanos = (given.over dt.moment).nanos := by
    cases below : given.nanos with
    | none =>
        have unit : (given.over dt.moment).nanos = dt.timestamp.toInt % 10 ^ 9 := by
          simp only [Given.over, below]
          rfl
        rw [unit, kept below, (start_second dt).2, if_pos (exact below), Int.add_zero]
    | some value =>
        have unit : (given.over dt.moment).nanos = value := by
          simp only [Given.over, below]
          rfl
        rw [unit]
        exact own value below (by rw [← unit]; exact valid.nanos.2)
  refine ⟨_, answerIs, ?_⟩
  rw [same, rest]
  have whole : (given.over (momentOf dt.timestamp.toInt)).seconds * 10 ^ 9 + (given.over dt.moment).nanos =
      (given.over dt.moment).instant := rfl
  rw [whole, VscpDateTime.moment, Int64.toInt_ofInt_of_le low high]
  exact moment_of_instant _ valid

theorem no_turn (turns : Int) (low : -2 ^ 63 < 2 ^ 64 * turns) (high : 2 ^ 64 * turns < 2 ^ 63) : turns = 0 := by
  omega

variable (gap excess : Int)

theorem seconds_small (low : -86400 * 1465 ≤ gap) (high : gap ≤ 86400 * 1465)
    (excessLow : -(10 ^ 9) ≤ excess) (excessHigh : excess ≤ 2 ^ 32) :
    -2 ^ 63 < gap * 10 ^ 9 + excess ∧ gap * 10 ^ 9 + excess < 2 ^ 63 := by
  omega

theorem seconds_not_wrapped (low : -86400 * 1465 ≤ gap) (high : gap ≤ 86400 * 1465)
    (excessIs : excess = 0 ∧ gap ≠ 0 ∨ excess = 2 ^ 32 - 10 ^ 9) : (gap * 10 ^ 9 + excess) % 2 ^ 64 ≠ 0 := by
  intro wrapped
  have range : -(10 ^ 9) ≤ excess ∧ excess ≤ 2 ^ 32 := by
    rcases excessIs with ⟨none, -⟩ | word
    · rw [none]
      decide
    · rw [word]
      decide
  obtain ⟨small, smallHigh⟩ := seconds_small gap excess low high range.1 range.2
  obtain ⟨turns, whole⟩ := Int.dvd_of_emod_eq_zero wrapped
  rw [whole] at small smallHigh
  rw [no_turn turns small smallHigh, mul_zero] at whole
  clear wrapped small smallHigh low high range
  rcases excessIs with ⟨none, moved⟩ | word
  · rw [none] at whole
    omega
  · rw [word] at whole
    omega

theorem unsteady_written (dt : VscpDateTime) (setter : Setter) (given : Given) (is : setter.given = some given)
    (accepted : given.Accepted) (valid : (given.over dt.moment).Valid) (unsteady : ¬ Steady dt.timestamp.toInt setter)
    (after : VscpDateTime) (written : Written dt given (true, after)) :
    after.timestamp.toInt ≠ (given.over dt.moment).instant := by
  obtain ⟨late, gap⟩ := unsteady_start _ setter given is unsteady
  obtain ⟨nanos, answerIs, kept, own⟩ := written_value dt given _ written accepted
  cases answerIs
  have years := years_near (dt.timestamp.toInt / 10 ^ 9 / 86400) ((dt.timestamp.toInt / 10 ^ 9 + 1) / 86400) (by omega)
  have near := over_near given dt.moment (momentOf (startSecond dt.timestamp.toInt * 10 ^ 9)) (moment_of_valid _)
    (by simp only [momentOf, start_late _ late]; exact years) valid
  have whole : (given.over dt.moment).instant =
      (given.over (momentOf dt.timestamp.toInt)).seconds * 10 ^ 9 + (given.over dt.moment).nanos := rfl
  have moment : (given.over dt.moment).seconds = (given.over (momentOf dt.timestamp.toInt)).seconds := rfl
  rw [moment] at near
  rw [whole, Int64.toInt_ofInt]
  intro same
  have wrapped := Int.bmod_emod (m := Int64.size)
    (x := (given.over (momentOf (startSecond dt.timestamp.toInt * 10 ^ 9))).seconds * 10 ^ 9 + nanos)
  have size : (Int64.size : Int) = 2 ^ 64 := rfl
  rw [same, size] at wrapped
  have turned := Int.emod_eq_emod_iff_emod_sub_eq_zero.mp wrapped.symm
  revert turned
  generalize (given.over (momentOf (startSecond dt.timestamp.toInt * 10 ^ 9))).seconds = first at gap near ⊢
  generalize (given.over (momentOf dt.timestamp.toInt)).seconds = other at gap near ⊢
  have apart (excess : Int) (rest : nanos = (given.over dt.moment).nanos + excess)
      (excessIs : excess = 0 ∧ first - other ≠ 0 ∨ excess = 2 ^ 32 - 10 ^ 9) :
      (first * 10 ^ 9 + nanos - (other * 10 ^ 9 + (given.over dt.moment).nanos)) % 2 ^ 64 ≠ 0 := by
    have parts : first * 10 ^ 9 + nanos - (other * 10 ^ 9 + (given.over dt.moment).nanos) =
        (first - other) * 10 ^ 9 + excess := by
      rw [rest]
      ring
    rw [parts]
    exact seconds_not_wrapped _ _ (by linarith) (by linarith) excessIs
  cases below : given.nanos with
  | none =>
      have unit : (given.over dt.moment).nanos = dt.timestamp.toInt % 10 ^ 9 := by
        simp only [Given.over, below]
        rfl
      refine apart (2 ^ 32 - 10 ^ 9) ?_ (.inr rfl)
      rw [kept below, (start_second dt).2, if_neg late, unit]
  | some value =>
      have unit : (given.over dt.moment).nanos = value := by
        simp only [Given.over, below]
        rfl
      refine apart 0 ?_ (.inl ⟨rfl, ?_⟩)
      · rw [own value below (by rw [← unit]; exact valid.nanos.2), unit, Int.add_zero]
      · have off := gap.resolve_left (by rw [below]; exact Option.some_ne_none value)
        omega

theorem setters_right_iff (dt : VscpDateTime) (setter : Setter) : Right dt setter ↔ Fits dt setter := by
  have written := setter_written dt setter
  constructor
  · intro right given is accepted
    simp only [is] at written
    obtain ⟨nanos, answerIs, -⟩ := written.accepted ((cut_accepted given).mpr accepted)
    rw [Right, answerIs] at right
    obtain ⟨own, ownIs, valid, moment⟩ := right
    cases is.symm.trans ownIs
    have instant := (moment_of_eq_iff _ _ valid).mp moment
    have holdable : Holdable (given.over dt.moment) := by
      refine ⟨valid, ?_, ?_⟩
      · rw [← instant]
        exact Int64.le_toInt _
      · rw [← instant]
        exact Int64.toInt_lt _
    refine ⟨holdable, ?_⟩
    by_contra unsteady
    rw [(cut_of_holdable given dt.moment holdable).2, answerIs] at written
    exact unsteady_written dt setter given is accepted valid unsteady _ written instant
  · intro fits
    cases is : setter.given with
    | none =>
        simp only [is] at written
        rw [Right, written]
        refine ⟨rfl, fun given given' => ?_⟩
        rw [is] at given'
        cases given'
    | some given =>
        simp only [is] at written
        by_cases accepted : given.Accepted
        · obtain ⟨holdable, steady⟩ := fits given is accepted
          rw [(cut_of_holdable given dt.moment holdable).2] at written
          obtain ⟨after, answerIs, moment⟩ := steady_written dt setter given is accepted holdable steady _ written
          rw [Right, answerIs]
          exact ⟨given, is, holdable.valid, moment⟩
        · rw [Right, written.refused (fun cut => accepted ((cut_accepted given).mp cut))]
          refine ⟨rfl, fun own ownIs holdable => ?_⟩
          cases is.symm.trans ownIs
          exact accepted (cut_of_holdable given dt.moment holdable).1

theorem right_valid {dt : VscpDateTime} {setter : Setter} (taken : (setter.run dt).1 = true) (right : Right dt setter) :
    ∃ given, setter.given = some given ∧ (given.over dt.moment).date.Valid := by
  have answer : setter.run dt = (true, (setter.run dt).2) := Prod.ext taken rfl
  rw [Right, answer] at right
  obtain ⟨given, is, valid, -⟩ := right
  exact ⟨given, is, valid.date⟩

-- On January 31: February 30 becomes March 1, February alone March 2, the month 258 is read as February and the hour
-- 260 as four.
theorem february_is_not_checked :
    let january : VscpDateTime := ⟨1706659200000000000⟩
    january.moment = ⟨⟨2024, 1, 31⟩, 0, 0, 0, 0⟩ ∧
      (setDate january 2024 2 30).1 = true ∧ (setDate january 2024 2 30).2.moment.date = ⟨2024, 3, 1⟩ ∧
      (setMonth january 2).1 = true ∧ (setMonth january 2).2.moment.date = ⟨2024, 3, 2⟩ ∧
      (setISODate january "2024-258-01".toList).1 = true ∧
      (setISODate january "2024-258-01".toList).2.moment.date = ⟨2024, 2, 1⟩ ∧
      (setISOTime january "260:00:00".toList).1 = true ∧ (setISOTime january "260:00:00".toList).2.moment.hour = 4 ∧
      ¬ Right january (.setDate 2024 2 30) ∧ ¬ Right january (.setMonth 2) := by
  refine ⟨by decide, by decide, by decide, by decide, by decide,
    by decide, by decide, by decide, by decide, fun right => ?_, fun right => ?_⟩
  · obtain ⟨given, is, valid⟩ := right_valid (by decide) right
    cases is
    exact absurd valid (by decide)
  · obtain ⟨given, is, valid⟩ := right_valid (by decide) right
    cases is
    exact absurd valid (by decide)

end Vscp.DateTime
