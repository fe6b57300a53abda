import Vscp.Lib.Calendar

set_option autoImplicit false

-- Dates with a time of day, as nanoseconds since 1970.
namespace Calendar

structure Moment where
  date : Date
  hour : Int
  minute : Int
  second : Int
  nanos : Int
deriving DecidableEq

structure Moment.Valid (moment : Moment) : Prop where
  date : moment.date.Valid
  hour : 0 ≤ moment.hour ∧ moment.hour < 24
  minute : 0 ≤ moment.minute ∧ moment.minute < 60
  second : 0 ≤ moment.second ∧ moment.second < 60
  nanos : 0 ≤ moment.nanos ∧ moment.nanos < 10 ^ 9

def Moment.seconds (moment : Moment) : Int :=
  dayNumber moment.date * 86400 + moment.hour * 3600 + moment.minute * 60 + moment.second

def Moment.instant (moment : Moment) : Int := moment.seconds * 10 ^ 9 + moment.nanos

def momentOf (instant : Int) : Moment :=
  let secs := instant / 10 ^ 9
  ⟨dateOf (secs / 86400), secs / 3600 % 24, secs / 60 % 60, secs % 60, instant % 10 ^ 9⟩

theorem moment_of_valid (instant : Int) : (momentOf instant).Valid := by
  refine ⟨date_of_valid _, ?_, ?_, ?_, ?_⟩ <;> simp only [momentOf] <;> omega

theorem instant_of_moment (instant : Int) : (momentOf instant).instant = instant := by
  have number := (day_number_of_date (instant / 10 ^ 9 / 86400)).1
  simp only [Moment.instant, Moment.seconds, momentOf, number]
  omega

theorem moment_of_instant (moment : Moment) (valid : moment.Valid) : momentOf moment.instant = moment := by
  obtain ⟨date, hour, minute, second, nanos⟩ := moment
  obtain ⟨dateValid, hours, minutes, seconds, rest⟩ := valid
  have secs : (Moment.mk date hour minute second nanos).instant / 10 ^ 9 =
      dayNumber date * 86400 + hour * 3600 + minute * 60 + second := by
    simp only [Moment.instant, Moment.seconds] at rest ⊢
    omega
  have left : (Moment.mk date hour minute second nanos).instant % 10 ^ 9 = nanos := by
    simp only [Moment.instant] at rest ⊢
    omega
  simp only at hours minutes seconds
  have day : (dayNumber date * 86400 + hour * 3600 + minute * 60 + second) / 86400 = dayNumber date := by omega
  simp only [momentOf, secs, left, day, date_of_day_number date dateValid, Moment.mk.injEq, true_and, and_true]
  refine ⟨?_, ?_, ?_⟩ <;> omega

theorem moment_of_eq_iff (instant : Int) (moment : Moment) (valid : moment.Valid) :
    momentOf instant = moment ↔ instant = moment.instant := by
  constructor
  · rintro rfl
    exact (instant_of_moment instant).symm
  · rintro rfl
    exact moment_of_instant moment valid

theorem day_number_near (date : Date) (month : 1 ≤ date.month ∧ date.month ≤ 12)
    (day : 1 ≤ date.day ∧ date.day ≤ 31) :
    daysBefore date.year - 719468 - 366 ≤ dayNumber date ∧ dayNumber date ≤ daysBefore date.year - 719468 + 366 := by
  rw [day_number_parts, Date.marchYear, Date.dayOfMarchYear]
  unfold daysBefore
  by_cases winter : date.month ≤ 2
  · rw [if_pos winter, if_pos winter]
    omega
  · rw [if_neg winter, if_neg winter]
    omega

end Calendar
