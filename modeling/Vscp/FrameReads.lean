import Vscp.EventFrame
import Vscp.Lib.TracedRead

set_option autoImplicit false

namespace Vscp

open ByteMemory
open TracedRead

def readWord (i : Nat) : Traced Nat UInt8 UInt16 := do
  let high ← readAt i
  let low ← readAt (i + 1)
  return high.toUInt16 <<< 8 + low.toUInt16

def readNumber (i : Nat) : Traced Nat UInt8 UInt64 := do
  let bytes ← readAll (List.range' i 8)
  return read64 (fun j => bytes.getD j 0) 0

def readMicroseconds (i : Nat) : Traced Nat UInt8 UInt32 := do
  let first ← readAt i
  let second ← readAt (i + 1)
  let third ← readAt (i + 2)
  let fourth ← readAt (i + 3)
  return first.toUInt32 <<< 24 + second.toUInt32 <<< 16 + third.toUInt32 <<< 8 + fourth.toUInt32

def readGuid : Traced Nat UInt8 Guid := do
  let bytes ← readAll (List.range' posGuid 16)
  return Vector.ofFn fun i => bytes.getD i.val 0

def readData (sizeData : UInt16) : Traced Nat UInt8 (Option Bytes) :=
  if sizeData = 0 then return none
  else do
    let bytes ← readAll (List.range' posData sizeData.toNat)
    return some bytes

def checkFrame (len : Nat) (sizeData : UInt16) : Traced Nat UInt8 (Option UInt16) :=
  if len < frameSize sizeData then return none
  else do
    let crcFrame ← readWord (frameSize sizeData - 2)
    let headLsb ← readAt posHeadLsb
    if headLsb &&& headerNoCrc ≠ 0 ∧ noCrcCalcDummyCrc = crcFrame then return some crcFrame
    else do
      let message ← readAll (List.range' 1 (frameSize sizeData - 1))
      return if crcFast message = 0 then some crcFrame else none

def readDate (clock : Clock) : Traced Nat UInt8 CalendarTime := do
  let year ← readWord posYearMsb
  let month ← readAt posMonth
  let day ← readAt posDay
  let hour ← readAt posHour
  let minute ← readAt posMinute
  let second ← readAt posSecond
  return if year = 0 ∧ month = 0 ∧ day = 0 ∧ hour = 0 ∧ minute = 0 ∧ second = 0 then clock.gmtime
    else ⟨year, month, day, hour, minute, second⟩

def fillEvent (pev : VscpEvent) (sizeData crcFrame : UInt16) : Traced Nat UInt8 VscpEvent := do
  let pdata ← readData sizeData
  let head ← readWord posHeadMsb
  let guid ← readGuid
  return { pev with sizeData := sizeData, pdata := pdata, head := head, guid := guid, crc := crcFrame }

def finishEvent (pev : VscpEvent) : Traced Nat UInt8 (Bool × VscpEvent) := do
  let vscpClass ← readWord posClassMsb
  let vscpType ← readWord posTypeMsb
  return (true, { pev with vscpClass := vscpClass, vscpType := vscpType, obid := 0 })

-- vscp_getEventFromFrame with every place of the buffer it reads, in the order of the source; `pev` is the event
-- passed in.
def eventFromFrameReads (clock : Clock) (len : Nat) (pev : VscpEvent) : Traced Nat UInt8 (Bool × VscpEvent) := do
  let lead ← readAt 0
  let sizeData ← readWord posSizeMsb
  match ← checkFrame len sizeData with
  | none => return (false, pev)
  | some crcFrame =>
      let filled ← fillEvent pev sizeData crcFrame
      if packetType lead = multicastTypeEvent1 then
        let ns ← readNumber posTimestamp
        finishEvent { filled with
          timestampNs := if ns = 0 then clock.makeTimeStampNs else ns
          year := 0xffff
          month := 0xff }
      else
        let us ← readMicroseconds posTimestamp
        let date ← readDate clock
        finishEvent { filled with
          timestampNs := timeBlock date.day date.hour date.minute date.second
            (if us = 0 then clock.makeTimeStamp else us)
          year := date.year
          month := date.month }

section values

variable (buf : Memory)

@[simp] theorem value_word (i : Nat) : value (readWord i) buf = read16 buf i := rfl

theorem read_all_range (offset count : Nat) : (List.range' offset count).map buf = bytesAt buf offset count := by
  rw [List.range'_eq_map_range, List.map_map]
  rfl

@[simp] theorem value_guid : value readGuid buf = frameGuid buf := by
  refine congrArg Vector.ofFn (funext fun i => ?_)
  change ((List.range' posGuid 16).map buf).getD i.val 0 = buf (posGuid + i.val)
  rw [read_all_range, List.getD_eq_getElem?_getD, bytes_at_get _ _ _ _ i.isLt]
  rfl

@[simp] theorem value_data : value (readData (read16 buf posSizeMsb)) buf = frameData buf := by
  by_cases empty : read16 buf posSizeMsb = 0
  · simp only [readData, frameData, if_pos empty]
    rfl
  · simp only [readData, frameData, if_neg empty]
    exact congrArg some (read_all_range buf _ _)

theorem value_check (len : Nat) : value (checkFrame len (read16 buf posSizeMsb)) buf =
    if frameChecks buf len then some (read16 buf (frameSize (read16 buf posSizeMsb) - 2)) else none := by
  unfold checkFrame frameChecks
  by_cases short : len < frameSize (read16 buf posSizeMsb)
  · simp only [if_pos short]
    rfl
  · simp only [if_neg short]
    rw [value_bind, value_word, value_bind, value_read]
    by_cases unchecked : buf posHeadLsb &&& headerNoCrc ≠ 0 ∧
        noCrcCalcDummyCrc = read16 buf (frameSize (read16 buf posSizeMsb) - 2)
    · simp only [if_pos unchecked]
      rfl
    · simp only [if_neg unchecked, beq_iff_eq]
      rw [value_bind, value_read_all, value_pure, read_all_range]

@[simp] theorem value_fill (pev : VscpEvent) (crcFrame : UInt16) :
    value (fillEvent pev (read16 buf posSizeMsb) crcFrame) buf =
      { pev with
        sizeData := read16 buf posSizeMsb
        pdata := frameData buf
        head := read16 buf posHeadMsb
        guid := frameGuid buf
        crc := crcFrame } := by
  unfold fillEvent
  rw [value_bind, value_data, value_bind, value_word, value_bind, value_guid, value_pure]

theorem reads_decode (clock : Clock) (len : Nat) (pev : VscpEvent) :
    value (eventFromFrameReads clock len pev) buf =
      match getEventFromFrame clock buf len with
      | none => (false, pev)
      | some ev => (true, ev) := by
  unfold eventFromFrameReads getEventFromFrame
  rw [value_bind, value_read, value_bind, value_word, value_bind, value_check]
  cases frameChecks buf len with
  | false => rfl
  | true =>
      change value (fillEvent pev _ _ >>= _) buf = _
      rw [value_bind, value_fill, value_ite]
      by_cases unixNs : packetType (buf 0) = multicastTypeEvent1
      · simp only [if_pos unixNs, not_true_eq_false, if_false]
        rfl
      · simp only [if_neg unixNs, not_true_eq_false, if_false]
        rfl

end values

section places

variable (buf : Memory) (len : Nat)

variable (i : Nat)

theorem word_within : Within (· < len) (readWord i) buf ↔ i + 1 < len := by
  simp only [readWord, within_bind, within_read, within_pure, and_true]
  omega

theorem number_within (room : i + 8 ≤ len) : Within (· < len) (readNumber i) buf := by
  simp only [readNumber, within_bind, within_read_all, within_pure, and_true, List.mem_range'_1]
  intro place bounds
  omega

theorem microseconds_within (room : i + 4 ≤ len) : Within (· < len) (readMicroseconds i) buf := by
  simp only [readMicroseconds, within_bind, within_read, within_pure, and_true]
  omega

theorem guid_within (room : 36 ≤ len) : Within (· < len) readGuid buf := by
  simp only [readGuid, within_bind, within_read_all, within_pure, and_true, List.mem_range'_1, posGuid]
  intro place bounds
  omega

variable (sizeData : UInt16)

theorem data_within (room : frameSize sizeData ≤ len) :
    Within (· < len) (readData sizeData) buf := by
  simp only [readData, within_ite, within_bind, within_read_all, within_pure, and_true, List.mem_range'_1, posData,
    implies_true, true_and]
  intro _ place bounds
  simp only [frameSize, headerLength] at room
  omega

theorem date_within (clock : Clock) (room : 36 ≤ len) : Within (· < len) (readDate clock) buf := by
  simp only [readDate, within_bind, word_within, within_read, within_pure, and_true, posYearMsb, posMonth, posDay,
    posHour, posMinute, posSecond]
  omega

variable (pev : VscpEvent)

theorem fill_within (sizeData crcFrame : UInt16) (room : frameSize sizeData ≤ len) :
    Within (· < len) (fillEvent pev sizeData crcFrame) buf := by
  have header : 38 ≤ len := by
    simp only [frameSize, headerLength] at room
    omega
  simp only [fillEvent, within_bind, word_within, within_pure, and_true, posHeadMsb]
  exact ⟨data_within buf len sizeData room, by omega, guid_within buf len (by omega)⟩

theorem finish_within (room : 36 ≤ len) : Within (· < len) (finishEvent pev) buf := by
  simp only [finishEvent, within_bind, word_within, within_pure, and_true, posClassMsb, posTypeMsb]
  omega

-- The length is looked at before the CRC bytes are read.
theorem check_within : Within (· < len) (checkFrame len sizeData) buf := by
  unfold checkFrame
  rw [within_ite]
  refine ⟨fun _ => within_pure _ _ _, fun enough => ?_⟩
  simp only [frameSize, headerLength] at enough
  rw [within_bind, word_within, within_bind, within_read, within_ite, posHeadLsb]
  simp only [frameSize, headerLength]
  refine ⟨by omega, by omega, fun _ => within_pure _ _ _, fun _ => ?_⟩
  simp only [within_bind, within_read_all, within_pure, and_true, List.mem_range'_1]
  intro place bounds
  omega

end places

-- The buffer is only read inside `len`, and a call that fails leaves the event alone.
def ReadsInside (clock : Clock) (buf : Memory) (len : Nat) (pev : VscpEvent) : Prop :=
  Within (· < len) (eventFromFrameReads clock len pev) buf ∧
    ((value (eventFromFrameReads clock len pev) buf).1 = false →
      (value (eventFromFrameReads clock len pev) buf).2 = pev)

theorem failed_frame_unchanged (clock : Clock) (buf : Memory) (len : Nat) (pev : VscpEvent)
    (failed : (value (eventFromFrameReads clock len pev) buf).1 = false) :
    (value (eventFromFrameReads clock len pev) buf).2 = pev := by
  rw [reads_decode] at failed ⊢
  cases decoded : getEventFromFrame clock buf len with
  | none => rfl
  | some ev =>
      rw [decoded] at failed
      cases failed

theorem checked_frame_fits (buf : Memory) (len : Nat) (crcFrame : UInt16)
    (checked : value (checkFrame len (read16 buf posSizeMsb)) buf = some crcFrame) :
    frameSize (read16 buf posSizeMsb) ≤ len := by
  by_contra short
  unfold checkFrame at checked
  rw [if_pos (by omega)] at checked
  cases checked

theorem frame_reads_within (clock : Clock) (buf : Memory) (len : Nat) (pev : VscpEvent) :
    Within (· < len) (eventFromFrameReads clock len pev) buf ↔ 36 ≤ len := by
  unfold eventFromFrameReads
  rw [within_bind, within_read, within_bind, word_within]
  have sizePlace : posSizeMsb = 34 := rfl
  constructor
  · intro inside
    have sizeRead := inside.2.1
    omega
  · intro room
    refine ⟨by omega, by omega, ?_⟩
    rw [within_bind]
    refine ⟨check_within buf len _, ?_⟩
    rw [value_word]
    cases checked : value (checkFrame len (read16 buf posSizeMsb)) buf with
    | none => exact within_pure _ _ _
    | some crcFrame =>
        have fits := checked_frame_fits buf len crcFrame checked
        refine (within_bind _ _ _ _).mpr ⟨fill_within buf len pev _ crcFrame fits, ?_⟩
        rw [within_ite]
        constructor
        · intro _
          exact (within_bind _ _ _ _).mpr
            ⟨number_within buf len posTimestamp (by simp only [posTimestamp]; omega), finish_within buf len _ room⟩
        · intro _
          refine (within_bind _ _ _ _).mpr
            ⟨microseconds_within buf len posTimestamp (by simp only [posTimestamp]; omega), ?_⟩
          exact (within_bind _ _ _ _).mpr ⟨date_within buf len clock room, finish_within buf len _ room⟩

theorem frame_reads_inside_iff (clock : Clock) (buf : Memory) (len : Nat) (pev : VscpEvent) :
    ReadsInside clock buf len pev ↔ 36 ≤ len := by
  unfold ReadsInside
  rw [frame_reads_within]
  exact and_iff_left (failed_frame_unchanged clock buf len pev)

-- A buffer of one byte already has its size bytes read.
theorem one_byte_frame_overread :
    ¬ ReadsInside exampleClock (fun _ => 0x10) 1 exampleEvent := by
  intro inside
  have wrong : (35 : Nat) < 1 := inside.1 35 (by decide)
  exact absurd wrong (by decide)

end Vscp
