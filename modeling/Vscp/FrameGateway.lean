import Vscp.EventFrame
import Vscp.Lib.Calendar
import Vscp.Lib.BitField

set_option autoImplicit false

namespace Vscp

open ByteMemory Calendar

structure DecodersAgree (clock later : Clock) (pex : VscpEventEx) (buf : Memory) (len : Nat) : Prop where
  accept : (getEventFromFrame clock buf len).isSome ↔ (getEventExFromFrame later pex buf len).isSome
  image : clock = later → ∀ ev ex, getEventFromFrame clock buf len = some ev →
    getEventExFromFrame later pex buf len = some ex → convertEventToEventEx pex ev = some ex
  few : ∀ ev, getEventFromFrame clock buf len = some ev → ev.sizeData.toNat ≤ maxData

variable (clock : Clock) (buf : Memory) (len : Nat)

theorem event_from_frame_accepts :
    (getEventFromFrame clock buf len).isSome ↔ frameChecks buf len = true := by
  unfold getEventFromFrame
  by_cases checks : frameChecks buf len = true
  · rw [if_neg (not_not.mpr checks)]
    dsimp only
    split
    · exact iff_of_true rfl checks
    · exact iff_of_true rfl checks
  · rw [if_pos checks]
    exact iff_of_false (by decide) checks

theorem frame_data_present (some : read16 buf posSizeMsb ≠ 0) : frameData buf ≠ none := by
  rw [frameData, if_neg some]
  exact Option.some_ne_none _

theorem event_ex_from_frame_accepts (pex : VscpEventEx) (buf : Memory) (len : Nat) :
    (getEventExFromFrame clock pex buf len).isSome ↔
      frameChecks buf len = true ∧ (read16 buf posSizeMsb).toNat ≤ maxData := by
  unfold getEventExFromFrame
  cases decoded : getEventFromFrame clock buf len with
  | none =>
      have refused : ¬ frameChecks buf len = true := by
        rw [← event_from_frame_accepts clock, decoded]
        decide
      exact iff_of_false Bool.false_ne_true fun both => refused both.1
  | some ev =>
      obtain ⟨checks, size, data⟩ := decoded_event clock buf len ev decoded
      rw [Option.bind_some, convertEventToEventEx, size, data]
      by_cases large : (read16 buf posSizeMsb).toNat > maxData
      · rw [if_pos (.inl large)]
        exact iff_of_false (by decide) fun both => Nat.not_le.mpr large both.2
      · rw [if_neg (by
          rintro (above | ⟨some, none⟩)
          · exact large above
          · exact frame_data_present buf some none)]
        exact iff_of_true rfl ⟨checks, Nat.not_lt.mp large⟩

theorem decoders_agree_iff (clock later : Clock) (pex : VscpEventEx) (buf : Memory) (len : Nat) :
    DecodersAgree clock later pex buf len ↔
      ¬ (frameChecks buf len = true ∧ maxData < (read16 buf posSizeMsb).toNat) := by
  constructor
  · rintro agree ⟨checks, large⟩
    have both := (event_ex_from_frame_accepts later pex buf len).mp
      (agree.accept.mp ((event_from_frame_accepts clock buf len).mpr checks))
    exact absurd both.2 (Nat.not_le.mpr large)
  · intro usual
    refine ⟨?_, ?_, ?_⟩
    · rw [event_from_frame_accepts, event_ex_from_frame_accepts]
      constructor
      · intro checks
        exact ⟨checks, Nat.not_lt.mp fun large => usual ⟨checks, large⟩⟩
      · exact And.left
    · rintro rfl ev ex decoded converted
      rwa [getEventExFromFrame, decoded, Option.bind_some] at converted
    · intro ev decoded
      obtain ⟨checks, size, _⟩ := decoded_event clock buf len ev decoded
      rw [size]
      exact Nat.not_lt.mp fun large => usual ⟨checks, large⟩

def largeFrame : Memory := fun i =>
  if i = posHeadLsb then headerNoCrc else if i = posSizeMsb then 4 else if i = 1060 then 0xaa else
    if i = 1061 then 0x55 else 0

theorem large_frame_parts_decoders :
    ¬ DecodersAgree exampleClock exampleClock emptyEventEx largeFrame 1062 := by
  intro agree
  have accepted : (getEventFromFrame exampleClock largeFrame 1062).isSome := by
    rw [event_from_frame_accepts]
    decide
  obtain ⟨ev, decoded⟩ := Option.isSome_iff_exists.mp accepted
  have few := agree.few ev decoded
  rw [(decoded_event exampleClock largeFrame 1062 ev decoded).2.1] at few
  exact absurd few (by decide)

def frameMicroseconds (buf : Memory) : UInt32 :=
  (buf posTimestamp).toUInt32 <<< 24 + (buf (posTimestamp + 1)).toUInt32 <<< 16 +
    (buf (posTimestamp + 2)).toUInt32 <<< 8 + (buf (posTimestamp + 3)).toUInt32

def nsAt (year month day hour minute second : Nat) (microseconds : UInt32) : Int :=
  (((dayNumber ⟨year, month, day⟩ * 24 + hour) * 60 + minute) * 60 + second) * 1000000000 + microseconds.toNat * 1000

def frameTime (buf : Memory) : Int :=
  if packetType (buf 0) = multicastTypeEvent1 then (read64 buf posTimestamp).toNat
  else
    nsAt (read16 buf posYearMsb).toNat (buf posMonth).toNat (buf posDay).toNat (buf posHour).toNat
      (buf posMinute).toNat (buf posSecond).toNat (frameMicroseconds buf)

structure DateGiven (buf : Memory) : Prop where
  year : 1970 ≤ (read16 buf posYearMsb).toNat ∧ (read16 buf posYearMsb).toNat ≤ 2261
  month : 1 ≤ (buf posMonth).toNat ∧ (buf posMonth).toNat ≤ 12
  day : 1 ≤ (buf posDay).toNat ∧ (buf posDay).toNat ≤ 31
  clock : (buf posHour).toNat < 24 ∧ (buf posMinute).toNat < 60 ∧ (buf posSecond).toNat < 60

structure TimeGiven (buf : Memory) : Prop where
  unixNs : packetType (buf 0) = multicastTypeEvent1 → read64 buf posTimestamp ≠ 0
  original : packetType (buf 0) ≠ multicastTypeEvent1 → frameMicroseconds buf ≠ 0 ∧ DateGiven buf

def LayoutsAgree (buf : Memory) : Prop :=
  packetType (buf 0) = multicastTypeEvent1 ↔ frameVersion (read16 buf posHeadMsb) = frameVersionUnixNs

def secondsAsDate (ns : UInt64) : Int :=
  timegm (0xffff - 1900) (0xff - 1) ns.toUInt8.toNat (ns >>> 8).toUInt8.toNat (ns >>> 16).toUInt8.toNat
    (ns >>> 24).toUInt8.toNat

def nsAsDate (ns : UInt64) : UInt64 :=
  UInt64.ofInt (secondsAsDate ns) * 1000000000 + (ns >>> (32 : UInt64)).toUInt32.toUInt64 * 1000

def otherReading (buf : Memory) : UInt64 :=
  if packetType (buf 0) = multicastTypeEvent1 then nsAsDate (read64 buf posTimestamp)
  else timeBlock (buf posDay) (buf posHour) (buf posMinute) (buf posSecond) (frameMicroseconds buf)

-- What a gateway has to keep of an event, the frame version of the head apart.
structure EventKept (ev again : VscpEvent) : Prop where
  vscpClass : again.vscpClass = ev.vscpClass
  vscpType : again.vscpType = ev.vscpType
  guid : again.guid = ev.guid
  sizeData : again.sizeData = ev.sizeData
  data : again.pdata.getD [] = ev.pdata.getD []
  head : again.head &&& ~~~frameVersionMask = ev.head &&& ~~~frameVersionMask

theorem time_block_value (day hour minute second : UInt8) (timestamp : UInt32) :
    (timeBlock day hour minute second timestamp).toNat =
      day.toNat + hour.toNat * 2 ^ 8 + minute.toNat * 2 ^ 16 + second.toNat * 2 ^ 24 + timestamp.toNat * 2 ^ 32 := by
  have dayBelow := day.toNat_lt
  have hourBelow := hour.toNat_lt
  have minuteBelow := minute.toNat_lt
  have secondBelow := second.toNat_lt
  have timestampBelow := timestamp.toNat_lt
  simp only [timeBlock, UInt64.toNat_or, UInt64.toNat_shiftLeft, UInt8.toNat_toUInt64, UInt32.toNat_toUInt64,
    UInt64.reduceToNat, Nat.reduceMod, Nat.shiftLeft_eq]
  rw [Nat.mod_eq_of_lt (by omega), Nat.mod_eq_of_lt (by omega), Nat.mod_eq_of_lt (by omega),
    Nat.mod_eq_of_lt (by omega)]
  have step (high low width : Nat) (fits : low < 2 ^ width) : low ||| high * 2 ^ width = low + high * 2 ^ width := by
    have joined := BitField.shift_or_below high low width fits
    rw [Nat.shiftLeft_eq] at joined
    rw [Nat.lor_comm, joined, Nat.add_comm]
  rw [step hour.toNat _ 8 (by omega), step minute.toNat _ 16 (by omega), step second.toNat _ 24 (by omega),
    step timestamp.toNat _ 32 (by omega)]

theorem time_block_fields (day hour minute second : UInt8) (timestamp : UInt32) :
    let ns := timeBlock day hour minute second timestamp
    ns.toUInt8 = day ∧ (ns >>> 8).toUInt8 = hour ∧ (ns >>> 16).toUInt8 = minute ∧ (ns >>> 24).toUInt8 = second ∧
      (ns >>> 32).toUInt32 = timestamp := by
  intro ns
  have value : ns.toNat = _ := time_block_value day hour minute second timestamp
  have dayBelow := day.toNat_lt
  have hourBelow := hour.toNat_lt
  have minuteBelow := minute.toNat_lt
  have secondBelow := second.toNat_lt
  have timestampBelow := timestamp.toNat_lt
  refine ⟨UInt8.toNat_inj.mp ?_, UInt8.toNat_inj.mp ?_, UInt8.toNat_inj.mp ?_, UInt8.toNat_inj.mp ?_,
    UInt32.toNat_inj.mp ?_⟩
  · rw [UInt64.toNat_toUInt8]
    omega
  · rw [UInt64.toNat_toUInt8, UInt64.toNat_shiftRight, Nat.shiftRight_eq_div_pow]
    simp only [UInt64.reduceToNat, Nat.reduceMod]
    omega
  · rw [UInt64.toNat_toUInt8, UInt64.toNat_shiftRight, Nat.shiftRight_eq_div_pow]
    simp only [UInt64.reduceToNat, Nat.reduceMod]
    omega
  · rw [UInt64.toNat_toUInt8, UInt64.toNat_shiftRight, Nat.shiftRight_eq_div_pow]
    simp only [UInt64.reduceToNat, Nat.reduceMod]
    omega
  · rw [UInt64.toNat_toUInt32, UInt64.toNat_shiftRight, Nat.shiftRight_eq_div_pow]
    simp only [UInt64.reduceToNat, Nat.reduceMod]
    omega

variable (year month day hour minute second : Nat)

theorem timegm_of_date (first : 1 ≤ month) (last : month ≤ 12) :
    timegm ((year : Int) - 1900) ((month : Int) - 1) day hour minute second =
      ((dayNumber ⟨year, month, day⟩ * 24 + hour) * 60 + minute) * 60 + second := by
  have months : ((month : Int) - 1) / 12 = 0 := by omega
  have monthOf : ((month : Int) - 1) % 12 + 1 = month := by omega
  have years : (year : Int) - 1900 + 1900 + 0 = year := by omega
  unfold timegm
  rw [months, monthOf, years]
  unfold daysFromCivil dayNumber daysBefore
  dsimp only
  split
  all_goals omega

theorem of_int_value (x : Int) (nonneg : 0 ≤ x) (below : x < 2 ^ 64) : (UInt64.ofInt x).toNat = x.toNat := by
  rw [UInt64.ofInt, UInt64.toNat_ofNat', Int.emod_eq_of_lt nonneg below, Nat.mod_eq_of_lt (by omega)]

theorem date_bounds (year month day : Nat) (years : 1970 ≤ year ∧ year ≤ 2261) (months : 1 ≤ month ∧ month ≤ 12)
    (days : 1 ≤ day ∧ day ≤ 31) :
    0 ≤ dayNumber ⟨year, month, day⟩ ∧ dayNumber ⟨year, month, day⟩ < 107000 := by
  unfold dayNumber daysBefore
  dsimp only
  split
  all_goals omega

theorem ns_at_value (microseconds : UInt32)
    (years : 1970 ≤ year ∧ year ≤ 2261) (months : 1 ≤ month ∧ month ≤ 12) (days : 1 ≤ day ∧ day ≤ 31)
    (clock : hour < 24 ∧ minute < 60 ∧ second < 60) :
    ((UInt64.ofInt (timegm ((year : Int) - 1900) ((month : Int) - 1) day hour minute second) * 1000000000 +
      microseconds.toUInt64 * 1000).toNat : Int) = nsAt year month day hour minute second microseconds := by
  obtain ⟨low, high⟩ := date_bounds year month day years months days
  have small := microseconds.toNat_lt
  rw [timegm_of_date year month day hour minute second months.1 months.2, nsAt]
  generalize dayNumber ⟨year, month, day⟩ = number at low high ⊢
  rw [UInt64.toNat_add, UInt64.toNat_mul, UInt64.toNat_mul, of_int_value _ (by omega) (by omega),
    UInt32.toNat_toUInt64]
  simp only [UInt64.reduceToNat]
  omega

theorem decoded_ns (ev : VscpEvent)
    (decoded : getEventFromFrame clock buf len = some ev) (given : TimeGiven buf) :
    (LayoutsAgree buf → ((eventTimestampNs ev).toNat : Int) = frameTime buf) ∧
      (¬ LayoutsAgree buf → eventTimestampNs ev = otherReading buf) := by
  unfold getEventFromFrame at decoded
  split at decoded
  · cases decoded
  dsimp only at decoded
  split at decoded
  · rename_i unixNs
    obtain rfl := Option.some.inj decoded
    have stamped := given.unixNs unixNs
    simp only [LayoutsAgree, unixNs, true_iff, frameTime, otherReading, if_true, eventTimestampNs, if_neg stamped]
    constructor
    · intro version
      rw [if_pos version]
    · intro version
      rw [if_neg version]
      rfl
  · rename_i original
    obtain rfl := Option.some.inj decoded
    obtain ⟨stamped, year, month, day, hands⟩ := given.original original
    have dated : frameDate clock buf = ⟨read16 buf posYearMsb, buf posMonth, buf posDay, buf posHour, buf posMinute,
        buf posSecond⟩ := by
      unfold frameDate
      rw [if_neg]
      rintro ⟨none, _⟩
      have zero := congrArg UInt16.toNat none
      change (read16 buf posYearMsb).toNat = 0 at zero
      omega
    have counted := stamped
    unfold frameMicroseconds at counted
    obtain ⟨dayIs, hourIs, minuteIs, secondIs, timestampIs⟩ := time_block_fields (buf posDay) (buf posHour)
      (buf posMinute) (buf posSecond) (frameMicroseconds buf)
    have value := ns_at_value (read16 buf posYearMsb).toNat (buf posMonth).toNat (buf posDay).toNat (buf posHour).toNat
      (buf posMinute).toNat (buf posSecond).toNat (frameMicroseconds buf) year month day hands
    simp only [LayoutsAgree, original, false_iff, frameTime, otherReading, if_false, eventTimestampNs, dated,
      if_neg counted]
    constructor
    · intro version
      rw [if_neg version, ← value]
      simp only [VscpEvent.day, VscpEvent.hour, VscpEvent.minute, VscpEvent.second, VscpEvent.timestamp]
      change ((UInt64.ofInt (timegm _ _ (timeBlock _ _ _ _ (frameMicroseconds buf)).toUInt8.toNat
        (timeBlock _ _ _ _ (frameMicroseconds buf) >>> (8 : UInt64)).toUInt8.toNat
        (timeBlock _ _ _ _ (frameMicroseconds buf) >>> (16 : UInt64)).toUInt8.toNat
        (timeBlock _ _ _ _ (frameMicroseconds buf) >>> (24 : UInt64)).toUInt8.toNat) * 1000000000 +
        (timeBlock _ _ _ _ (frameMicroseconds buf) >>> (32 : UInt64)).toUInt32.toUInt64 * 1000).toNat : Int) = _
      rw [dayIs, hourIs, minuteIs, secondIs, timestampIs]
    · intro version
      rw [if_pos (not_not.mp version)]
      rfl

theorem head_kept (head : UInt16) :
    ((head &&& ~~~frameVersionMask) ||| frameVersionUnixNs) &&& ~~~frameVersionMask = head &&& ~~~frameVersionMask := by
  apply UInt16.toBitVec_inj.mp
  simp only [UInt16.toBitVec_or, UInt16.toBitVec_and, UInt16.toBitVec_not]
  apply BitVec.eq_of_getLsbD_eq
  intro i bound
  have inside : ∀ i : Fin 16, frameVersionUnixNs.toBitVec.getLsbD i = true →
      frameVersionMask.toBitVec.getLsbD i = true := by
    decide
  have version := inside ⟨i, bound⟩
  simp only [BitVec.getLsbD_or, BitVec.getLsbD_and, BitVec.getLsbD_not, bound]
  cases own : frameVersionUnixNs.toBitVec.getLsbD i with
  | false => cases head.toBitVec.getLsbD i <;> cases frameVersionMask.toBitVec.getLsbD i <;> rfl
  | true =>
      rw [version own]
      cases head.toBitVec.getLsbD i <;> rfl

theorem frame_time_some (given : TimeGiven buf) : frameTime buf ≠ 0 := by
  unfold frameTime
  split
  · rename_i unixNs
    intro zero
    apply given.unixNs unixNs
    apply UInt64.toNat_inj.mp
    exact Int.ofNat_inj.mp zero
  · rename_i original
    obtain ⟨stamped, year, month, day, hands⟩ := given.original original
    obtain ⟨low, _⟩ := date_bounds _ _ _ year month day
    have some : frameMicroseconds buf ≠ 0 → (frameMicroseconds buf).toNat ≠ 0 :=
      fun differ none => differ (UInt32.toNat_inj.mp none)
    have positive := some stamped
    unfold nsAt
    omega

def Forwarded (ev : VscpEvent) (time : Int) (frame : Bytes) (beyond : Memory) (pkttype : UInt8) (len : Nat) : Prop :=
  ∀ later, ∃ written again, writeEventToFrame frame pkttype ev = some written ∧
    getEventFromFrame later (ofBytes written beyond) len = some again ∧ EventKept ev again ∧
    (again.timestampNs.toNat : Int) = time

theorem gateway_keeps_event_iff (clock : Clock) (buf : Memory) (len : Nat) (ev : VscpEvent) (frame : Bytes)
    (beyond : Memory) (pkttype : UInt8) (room : Nat) (decoded : getEventFromFrame clock buf len = some ev)
    (given : TimeGiven buf) (large : frameSize ev.sizeData ≤ frame.length) (enough : frameSize ev.sizeData ≤ room) :
    Forwarded ev (frameTime buf) frame beyond pkttype room ↔
      LayoutsAgree buf ∨ ((otherReading buf).toNat : Int) = frameTime buf := by
  obtain ⟨_, size, data⟩ := decoded_event clock buf len ev decoded
  obtain ⟨agreed, parted⟩ := decoded_ns clock buf len ev decoded given
  have holds : (ev.pdata.getD []).length = ev.sizeData.toNat := by
    rw [size, data, frameData]
    split
    · rename_i none
      rw [none]
      rfl
    · rw [Option.getD_some, bytes_at_length]
  have present : ¬ (ev.sizeData ≠ 0 ∧ ev.pdata = none) := by
    rintro ⟨some, none⟩
    rw [data] at none
    exact frame_data_present buf (size ▸ some) none
  have write : writeEventToFrame frame pkttype ev =
      some (eventFrame pkttype ev ++ frame.drop (frameSize ev.sizeData)) := by
    rw [writeEventToFrame, if_neg present, if_neg (Nat.not_lt.mpr large)]
  have exact : (if ev.sizeData = 0 then none else some ev.dataBytes).getD [] = ev.pdata.getD [] := by
    rw [← data_bytes_exact ev holds]
    split
    · rename_i empty
      exact (List.length_eq_zero_iff.mp (by rw [data_bytes_length, empty]; rfl)).symm
    · rfl
  have kept : Forwarded ev (frameTime buf) frame beyond pkttype room ↔
      ((eventTimestampNs ev).toNat : Int) = frameTime buf := by
    constructor
    · intro forwarded
      obtain ⟨written, again, wrote, read, _, time⟩ := forwarded ⟨0, 0, ⟨0, 0, 0, 0, 0, 0⟩⟩
      obtain rfl := Option.some.inj (write.symm.trans wrote)
      have event := written_event pkttype ev (frame.drop (frameSize ev.sizeData)) beyond ⟨0, 0, ⟨0, 0, 0, 0, 0, 0⟩⟩
        room enough
      rw [Option.some.inj (read.symm.trans event)] at time
      dsimp only at time
      split at time
      · rename_i none
        rw [none]
        exact time
      · exact time
    · intro time later
      refine ⟨_, _, write, written_event pkttype ev _ beyond later room enough, ⟨rfl, rfl, rfl, rfl, exact, ?_⟩, ?_⟩
      · exact head_kept ev.head
      · have some : eventTimestampNs ev ≠ 0 := by
          intro none
          rw [none] at time
          exact frame_time_some buf given time.symm
        dsimp only
        rw [if_neg some]
        exact time
  rw [kept]
  by_cases agree : LayoutsAgree buf
  · exact iff_of_true (agreed agree) (.inl agree)
  · rw [parted agree]
    exact (or_iff_right agree).symm

-- An event of class 10 and type 6 in the frame with a date; the head says what it counts the time from.
def dateFrame (headMsb : UInt8) : Bytes :=
  [0x00, headMsb, headerNoCrc, 0, 0, 0, 5, 0x07, 0xe8, 2, 29, 23, 59, 58, 0, 10, 0, 6] ++ List.replicate 16 7 ++
    [0, 1, 0x35, 0xaa, 0x55]

def dateMemory (headMsb : UInt8) : Memory := ofBytes (dateFrame headMsb) fun _ => 0

theorem date_memory_given : TimeGiven (dateMemory 0) ∧ TimeGiven (dateMemory 1) := by
  refine ⟨⟨by decide, fun _ => ⟨by decide, ?_⟩⟩, ⟨by decide, fun _ => ⟨by decide, ?_⟩⟩⟩
  · exact ⟨by decide, by decide, by decide, by decide⟩
  · exact ⟨by decide, by decide, by decide, by decide⟩

theorem gateway_keeps_event_iff_example : ∃ ev, getEventFromFrame exampleClock (dateMemory 0) 39 = some ev ∧
    (Forwarded ev (frameTime (dateMemory 0)) (List.replicate 64 0) (fun _ => 0) 0 64 ↔
      LayoutsAgree (dateMemory 0) ∨ ((otherReading (dateMemory 0)).toNat : Int) = frameTime (dateMemory 0)) := by
  have accepted : (getEventFromFrame exampleClock (dateMemory 0) 39).isSome := by decide
  obtain ⟨ev, decoded⟩ := Option.isSome_iff_exists.mp accepted
  have size : ev.sizeData = 1 := by
    rw [(decoded_event exampleClock (dateMemory 0) 39 ev decoded).2.1]
    decide
  refine ⟨ev, decoded, gateway_keeps_event_iff exampleClock (dateMemory 0) 39 ev (List.replicate 64 0) (fun _ => 0) 0 64
    decoded date_memory_given.1 ?_ ?_⟩
  · rw [size]
    decide
  · rw [size]
    decide

-- The same frame with a head of frame version 1: the date goes on as a number of nanoseconds.
theorem date_forwarded_as_number : ∃ ev, getEventFromFrame exampleClock (dateMemory 1) 39 = some ev ∧
    ¬ Forwarded ev (frameTime (dateMemory 1)) (List.replicate 64 0) (fun _ => 0) 0 64 := by
  have forwardedTime : ((getEventFromFrame exampleClock (dateMemory 1) 39).bind fun ev =>
      (writeEventToFrame (List.replicate 64 0) 0 ev).bind fun written =>
        (getEventFromFrame exampleClock (ofBytes written fun _ => 0) 64).map fun again =>
          decide ((again.timestampNs.toNat : Int) = frameTime (dateMemory 1))) = some false := by
    decide +kernel
  have accepted : (getEventFromFrame exampleClock (dateMemory 1) 39).isSome := by decide +kernel
  obtain ⟨ev, decoded⟩ := Option.isSome_iff_exists.mp accepted
  refine ⟨ev, decoded, fun forwarded => ?_⟩
  obtain ⟨written, again, wrote, read, _, time⟩ := forwarded exampleClock
  rw [decoded, Option.bind_some, wrote, Option.bind_some, read, Option.map_some, decide_eq_true time] at forwardedTime
  cases forwardedTime

end Vscp
