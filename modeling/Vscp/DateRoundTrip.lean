import Vscp.DateSetters
import Vscp.DateText

set_option autoImplicit false

namespace Vscp.DateTime

open Calendar
open NumberText
open RemoteTcp (Text)

def isoText (bSeparator : Bool) (moment : Moment) : Text :=
  padded 4 moment.date.year.toNat ++ ['-'] ++ padded 2 moment.date.month.toNat ++ ['-'] ++
    padded 2 moment.date.day.toNat ++ [if bSeparator then 'T' else ' '] ++ padded 2 moment.hour.toNat ++ [':'] ++
    padded 2 moment.minute.toNat ++ [':'] ++ padded 2 moment.second.toNat ++ ['Z']

def getISODateTime (dt : VscpDateTime) (bSeparator : Bool) : Text :=
  let tm := getTimeStruct dt
  isoText bSeparator ⟨⟨tm.year + 1900, tm.mon + 1, tm.mday⟩, tm.hour, tm.min, tm.sec, 0⟩

example : getISODateTime ⟨1709251199000000007⟩ true = "2024-02-29T23:59:59Z".toList := by decide

def textMoment (text : Text) : Option Moment :=
  match isoNumbers 6 text with
  | [year, month, day, hour, minute, second] => some ⟨⟨year, month, day⟩, hour, minute, second, 0⟩
  | _ => none

def numbers (moment : Moment) : List Int :=
  [moment.date.year, moment.date.month, moment.date.day, moment.hour, moment.minute, moment.second]

def VscpDateTime.wholeSecond (dt : VscpDateTime) : VscpDateTime := ⟨dt.timestamp / nsPerSecond * nsPerSecond⟩

structure IsoLaw (before dt : VscpDateTime) (text : Text) : Prop where
  written : ∀ bSeparator, setText before (getISODateTime dt bSeparator) = (true, dt.wholeSecond)
  read : ∀ after, setText before text = (true, after) →
    ∃ moment, textMoment text = some moment ∧ moment.Valid ∧
      ∀ bSeparator, isoNumbers 6 (getISODateTime after bSeparator) = isoNumbers 6 text

def momentGiven (moment : Moment) : Given :=
  ⟨some moment.date.year, some moment.date.month, some moment.date.day, some moment.hour, some moment.minute,
    some moment.second, some moment.nanos⟩

-- If eight bits of each field pass the checks, the whole fields are those of a moment an object can hold.
def Proper (text : Text) : Prop :=
  ∀ moment, textMoment text = some moment → (momentGiven moment).Accepted → Holdable moment

variable (before : VscpDateTime) (text : Text)

theorem text_given : (Setter.setText text).given = (textMoment text).map momentGiven := by
  simp only [Setter.given, textMoment]
  generalize isoNumbers 6 text = read
  rcases read with _ | ⟨year, _ | ⟨month, _ | ⟨day, _ | ⟨hour, _ | ⟨minute, _ | ⟨second, _ | ⟨more, rest⟩⟩⟩⟩⟩⟩⟩ <;> rfl

variable (dt : VscpDateTime) (bSeparator : Bool) (moment : Moment)

theorem text_moment_numbers (is : textMoment text = some moment) :
    isoNumbers 6 text = numbers moment ∧ moment.nanos = 0 := by
  unfold textMoment at is
  split at is
  · rename_i read
    cases is
    exact ⟨read, rfl⟩
  · cases is

theorem numbers_injective (first second : Moment) (same : numbers first = numbers second)
    (nanos : first.nanos = second.nanos) : first = second := by
  obtain ⟨⟨year, month, day⟩, hour, minute, second', rest⟩ := first
  obtain ⟨⟨ownYear, ownMonth, ownDay⟩, ownHour, ownMinute, ownSecond, ownRest⟩ := second
  simp only [numbers, List.cons.injEq] at same nanos
  simp only [Moment.mk.injEq, Date.mk.injEq]
  tauto

theorem iso_text_numbers (valid : moment.Valid) (nanos : moment.nanos = 0)
    (years : 0 ≤ moment.date.year ∧ moment.date.year < 2 ^ 16) :
    isoNumbers 6 (isoText bSeparator moment) = numbers moment ∧
      textMoment (isoText bSeparator moment) = some moment := by
  obtain ⟨⟨monthLow, monthHigh, dayLow, dayHigh⟩, hours, minutes, seconds, -⟩ := valid
  have most := days_in_month_most moment.date.year moment.date.month
  have mark : isDigitOf 10 (if bSeparator then 'T' else ' ') = false := by cases bSeparator <;> rfl
  have read : isoNumbers 6 (isoText bSeparator moment) = numbers moment := by
    simp only [isoText, List.append_assoc, List.cons_append, List.nil_append]
    rw [iso_number 5 4 _ '-' _ (by omega) rfl, iso_number 4 2 _ '-' _ (by omega) rfl,
      iso_number 3 2 _ _ _ (by omega) mark, iso_number 2 2 _ ':' _ (by omega) rfl,
      iso_number 1 2 _ ':' _ (by omega) rfl, iso_number 0 2 _ 'Z' _ (by omega) rfl, isoNumbers, numbers,
      Int.toNat_of_nonneg years.1, Int.toNat_of_nonneg (by omega), Int.toNat_of_nonneg (by omega),
      Int.toNat_of_nonneg hours.1, Int.toNat_of_nonneg minutes.1, Int.toNat_of_nonneg seconds.1]
  refine ⟨read, ?_⟩
  rw [textMoment, read]
  simp only [numbers, ← nanos]

def startMoment (dt : VscpDateTime) : Moment := momentOf (startSecond dt.timestamp.toInt * 10 ^ 9)

theorem start_moment_holdable :
    (startMoment dt).instant = startSecond dt.timestamp.toInt * 10 ^ 9 ∧ (startMoment dt).nanos = 0 ∧
      Holdable (startMoment dt) := by
  have instant := instant_of_moment (startSecond dt.timestamp.toInt * 10 ^ 9)
  have low := dt.timestamp.le_toInt
  have high := dt.timestamp.toInt_lt
  refine ⟨instant, Int.mul_emod_left _ _, moment_of_valid _, ?_, ?_⟩
  · rw [startMoment, instant, startSecond]
    split <;> omega
  · rw [startMoment, instant, startSecond]
    split <;> omega

theorem iso_date_time :
    getISODateTime dt bSeparator = isoText bSeparator (startMoment dt) := by
  have nanos := (start_moment_holdable dt).2.1
  simp only [startMoment, momentOf] at nanos
  simp only [getISODateTime, getTimeStruct, (start_second dt).1, gmtimeR, startMoment, momentOf, start_instant, nanos,
    Int.sub_add_cancel]

theorem set_text_taken (is : textMoment text = some moment)
    (holdable : Holdable moment) : ∃ after, setText before text = (true, after) ∧ after.moment = moment := by
  have given : (Setter.setText text).given = some (momentGiven moment) := by
    rw [text_given, is]
    rfl
  have written := setter_written before (.setText text)
  simp only [given] at written
  obtain ⟨accepted, cut⟩ := cut_of_holdable (momentGiven moment) before.moment holdable
  rw [cut] at written
  exact steady_written before (.setText text) (momentGiven moment) given accepted holdable (.inr (.inr trivial)) _ written

theorem set_text_accepted (before after : VscpDateTime) (text : Text) (taken : setText before text = (true, after)) :
    ∃ moment, textMoment text = some moment ∧ (momentGiven moment).Accepted := by
  have written := setter_written before (.setText text)
  have run : (Setter.setText text).run before = (true, after) := taken
  rw [text_given] at written
  cases is : textMoment text with
  | none =>
      simp only [is, Option.map_none, run] at written
      cases written
  | some moment =>
      simp only [is, Option.map_some, run] at written
      refine ⟨moment, rfl, ?_⟩
      by_contra refused
      cases written.refused fun cut => refused ((cut_accepted _).mp cut)

theorem set_text_of_accepted (is : textMoment text = some moment)
    (accepted : (momentGiven moment).Accepted) : ∃ after, setText before text = (true, after) := by
  have written := setter_written before (.setText text)
  rw [text_given] at written
  simp only [is, Option.map_some] at written
  obtain ⟨nanos, answerIs, -⟩ := written.accepted ((cut_accepted _).mpr accepted)
  exact ⟨_, answerIs⟩

theorem holdable_year (holdable : Holdable moment) :
    0 ≤ moment.date.year ∧ moment.date.year < 2 ^ 16 := by
  obtain ⟨-, cut⟩ := cut_of_holdable (momentGiven moment) moment holdable
  have year : some (moment.date.year % 2 ^ 16) = some moment.date.year := congrArg Given.year cut
  have same := Option.some.inj year
  omega

theorem iso_date_time_numbers :
    isoNumbers 6 (getISODateTime dt bSeparator) = numbers (startMoment dt) ∧
      textMoment (getISODateTime dt bSeparator) = some (startMoment dt) := by
  obtain ⟨-, nanos, holdable⟩ := start_moment_holdable dt
  rw [iso_date_time]
  exact iso_text_numbers bSeparator _ holdable.valid nanos (holdable_year _ holdable)

theorem iso_written (before dt : VscpDateTime) (bSeparator : Bool) :
    setText before (getISODateTime dt bSeparator) = (true, dt.wholeSecond) := by
  obtain ⟨instant, -, holdable⟩ := start_moment_holdable dt
  obtain ⟨after, taken, moment⟩ := set_text_taken before _ _ (iso_date_time_numbers dt bSeparator).2 holdable
  have value := (moment_of_eq_iff _ _ holdable.valid).mp moment
  have unit : nsPerSecond = Int64.ofInt (10 ^ 9) := rfl
  have whole : after.timestamp = dt.timestamp / nsPerSecond * nsPerSecond := by
    rw [← Int64.ofInt_toInt after.timestamp, value, instant, Int64.ofInt_mul, ← (start_second dt).1,
      Int64.ofInt_toInt, ← unit]
  rw [taken, VscpDateTime.wholeSecond, ← whole]

theorem start_of_whole_second (whole : dt.moment.nanos = 0) : startMoment dt = dt.moment := by
  have rest : dt.timestamp.toInt % 10 ^ 9 = 0 := whole
  have same : startSecond dt.timestamp.toInt * 10 ^ 9 = dt.timestamp.toInt := by
    rw [startSecond, if_pos (.inr rest)]
    omega
  rw [startMoment, same, VscpDateTime.moment]

theorem iso_law_iff (before dt : VscpDateTime) (text : Text) : IsoLaw before dt text ↔ Proper text := by
  constructor
  · intro law moment is accepted
    obtain ⟨after, taken⟩ := set_text_of_accepted before text moment is accepted
    obtain ⟨own, ownIs, -, same⟩ := law.read after taken
    obtain ⟨read, nanos⟩ := text_moment_numbers text moment is
    obtain ⟨-, startNanos, holdable⟩ := start_moment_holdable after
    have numbersSame : numbers (startMoment after) = numbers moment := by
      rw [← (iso_date_time_numbers after true).1, same true, read]
    rw [← numbers_injective _ _ numbersSame (startNanos.trans nanos.symm)]
    exact holdable
  · intro proper
    refine ⟨fun bSeparator => iso_written before dt bSeparator, fun after taken => ?_⟩
    obtain ⟨moment, is, accepted⟩ := set_text_accepted before after text taken
    have holdable := proper moment is accepted
    obtain ⟨own, ownTaken, ownMoment⟩ := set_text_taken before text moment is holdable
    cases ownTaken.symm.trans taken
    obtain ⟨read, nanos⟩ := text_moment_numbers text moment is
    refine ⟨moment, is, holdable.valid, fun bSeparator => ?_⟩
    rw [(iso_date_time_numbers after bSeparator).1, read, start_of_whole_second after (by rw [ownMoment, nanos]), ownMoment]

-- February 30 is read as March 1, the month 258 as February and the hour 256 as zero.
theorem february_thirty_is_read :
    let zero : VscpDateTime := ⟨0⟩
    setText zero "2024-02-30T00:00:00".toList = (true, ⟨1709251200000000000⟩) ∧
      getISODateTime ⟨1709251200000000000⟩ true = "2024-03-01T00:00:00Z".toList ∧
      setText zero "2024-258-01T256:00:00".toList = setText zero "2024-02-01T00:00:00".toList ∧
      (setText zero "2024-258-01T256:00:00".toList).1 = true ∧
      ¬ IsoLaw zero zero "2024-02-30T00:00:00".toList := by
  refine ⟨by decide, by decide, by decide, by decide, fun law => ?_⟩
  obtain ⟨moment, is, valid, -⟩ := law.read ⟨1709251200000000000⟩ (by decide)
  have read : textMoment "2024-02-30T00:00:00".toList = some ⟨⟨2024, 2, 30⟩, 0, 0, 0, 0⟩ := by decide
  cases read.symm.trans is
  exact absurd valid.date (by decide)

end Vscp.DateTime
