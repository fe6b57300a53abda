import Vscp.Crc
import Vscp.Event

set_option autoImplicit false

namespace Vscp

open ByteMemory

def headerLength : Nat := 35
def posHeadMsb : Nat := 1
def posHeadLsb : Nat := 2
def posTimestamp : Nat := 3
def posYearMsb : Nat := 7
def posMonth : Nat := 9
def posDay : Nat := 10
def posHour : Nat := 11
def posMinute : Nat := 12
def posSecond : Nat := 13
def posClassMsb : Nat := 14
def posTypeMsb : Nat := 16
def posGuid : Nat := 18
def posSizeMsb : Nat := 34
def posData : Nat := 36

def multicastTypeEvent1 : UInt8 := 1
def noCrcCalcDummyCrc : UInt16 := 0xaa55

def frameSize (sizeData : UInt16) : Nat := 1 + headerLength + 2 + sizeData.toNat

def daysFromCivil (year month day : Int) : Int :=
  let y := if month ≤ 2 then year - 1 else year
  let yearOfEra := y - y / 400 * 400
  let dayOfYear := (153 * ((month + 9) % 12) + 2) / 5 + day - 1
  y / 400 * 146097 + (yearOfEra * 365 + yearOfEra / 4 - yearOfEra / 100 + dayOfYear) - 719468

def timegm (tmYear tmMon tmMday tmHour tmMin tmSec : Int) : Int :=
  let days := daysFromCivil (tmYear + 1900 + tmMon / 12) (tmMon % 12 + 1) 1 + (tmMday - 1)
  days * 86400 + tmHour * 3600 + tmMin * 60 + tmSec

example : timegm 124 1 29 23 59 59 = 1709251199 := by decide

def eventTimestampNs (pev : VscpEvent) : UInt64 :=
  if frameVersion pev.head = frameVersionUnixNs then pev.timestampNs
  else
    let t := timegm (pev.year.toNat - 1900) (pev.month.toNat - 1) pev.day.toNat pev.hour.toNat pev.minute.toNat
      pev.second.toNat
    UInt64.ofInt t * 1000000000 + pev.timestamp.toUInt64 * 1000

def eventLead (pkttype : UInt8) : UInt8 :=
  (pkttype &&& (0x0f : UInt8)) ||| (multicastTypeEvent1 <<< (4 : UInt8))

def eventFrameHeader (pkttype : UInt8) (pev : VscpEvent) : Bytes :=
  [eventLead pkttype] ++
    bytes16 ((pev.head &&& ~~~frameVersionMask) ||| frameVersionUnixNs) ++
    bytes64 (eventTimestampNs pev) ++ [0, 0, 0] ++ bytes16 pev.vscpClass ++ bytes16 pev.vscpType

def eventFrameContent (pkttype : UInt8) (pev : VscpEvent) : Bytes :=
  eventFrameHeader pkttype pev ++ (pev.guid.toList ++ (bytes16 pev.sizeData ++ pev.dataBytes))

def eventFrame (pkttype : UInt8) (pev : VscpEvent) : Bytes :=
  let content := eventFrameContent pkttype pev
  content ++ bytes16 (crcFast (content.drop 1))

-- `frame` is the caller's buffer; the bytes behind the event keep their value.
def writeEventToFrame (frame : Bytes) (pkttype : UInt8) (pev : VscpEvent) : Option Bytes :=
  if pev.sizeData ≠ 0 ∧ pev.pdata = none then none
  else if frame.length < frameSize pev.sizeData then none
  else some (eventFrame pkttype pev ++ frame.drop (frameSize pev.sizeData))

structure CalendarTime where
  year : UInt16
  month : UInt8
  day : UInt8
  hour : UInt8
  minute : UInt8
  second : UInt8

structure Clock where
  makeTimeStampNs : UInt64
  makeTimeStamp : UInt32
  gmtime : CalendarTime

def packetType (lead : UInt8) : UInt8 := (lead >>> 4) &&& 0x0f

-- The checks both packet formats make before the event is filled in. Bytes 34
-- and 35 are read before `len` is looked at.
def frameChecks (buf : Memory) (len : Nat) : Bool :=
  let calcFrameSize := frameSize (read16 buf posSizeMsb)
  if len < calcFrameSize then false
  else
    let crcFrame := read16 buf (calcFrameSize - 2)
    if buf posHeadLsb &&& headerNoCrc ≠ 0 ∧ noCrcCalcDummyCrc = crcFrame then true
    else crcFast (bytesAt buf 1 (calcFrameSize - 1)) == 0

def frameGuid (buf : Memory) : Guid := Vector.ofFn fun i => buf (posGuid + i.val)

def frameData (buf : Memory) : Option Bytes :=
  let sizeData := read16 buf posSizeMsb
  if sizeData = 0 then none else some (bytesAt buf posData sizeData.toNat)

def frameDate (clock : Clock) (buf : Memory) : CalendarTime :=
  let date : CalendarTime :=
    ⟨read16 buf posYearMsb, buf posMonth, buf posDay, buf posHour, buf posMinute, buf posSecond⟩
  if date.year = 0 ∧ date.month = 0 ∧ date.day = 0 ∧ date.hour = 0 ∧ date.minute = 0 ∧ date.second = 0 then
    clock.gmtime
  else date

def getEventFromFrame (clock : Clock) (buf : Memory) (len : Nat) : Option VscpEvent :=
  if ¬ frameChecks buf len then none
  else
    let sizeData := read16 buf posSizeMsb
    let common : VscpEvent := {
      head := read16 buf posHeadMsb
      obid := 0
      year := 0xffff
      month := 0xff
      timestampNs := 0
      vscpClass := read16 buf posClassMsb
      vscpType := read16 buf posTypeMsb
      guid := frameGuid buf
      sizeData := sizeData
      pdata := frameData buf
      crc := read16 buf (frameSize sizeData - 2) }
    if packetType (buf 0) = multicastTypeEvent1 then
      let ns := read64 buf posTimestamp
      some { common with timestampNs := if ns = 0 then clock.makeTimeStampNs else ns }
    else
      -- Every other packet type is read as the original format.
      let date := frameDate clock buf
      let us : UInt32 := (buf posTimestamp).toUInt32 <<< 24 + (buf (posTimestamp + 1)).toUInt32 <<< 16 +
        (buf (posTimestamp + 2)).toUInt32 <<< 8 + (buf (posTimestamp + 3)).toUInt32
      some { common with
        year := date.year
        month := date.month
        timestampNs := timeBlock date.day date.hour date.minute date.second
          (if us = 0 then clock.makeTimeStamp else us) }

def getEventExFromFrame (clock : Clock) (pex : VscpEventEx) (frame : Memory) (len : Nat) : Option VscpEventEx :=
  (getEventFromFrame clock frame len).bind (convertEventToEventEx pex)

theorem decoded_event (clock : Clock) (buf : Memory) (len : Nat) (ev : VscpEvent)
    (decoded : getEventFromFrame clock buf len = some ev) :
    frameChecks buf len = true ∧ ev.sizeData = read16 buf posSizeMsb ∧ ev.pdata = frameData buf := by
  unfold getEventFromFrame at decoded
  split at decoded
  · cases decoded
  rename_i checks
  rw [not_not] at checks
  refine ⟨checks, ?_⟩
  dsimp only at decoded
  split at decoded <;> obtain rfl := Option.some.inj decoded <;> exact ⟨rfl, rfl⟩

@[simp] theorem data_bytes_length (pev : VscpEvent) : pev.dataBytes.length = pev.sizeData.toNat := by
  simp [VscpEvent.dataBytes]

theorem data_bytes_exact (pev : VscpEvent) (holds : (pev.pdata.getD []).length = pev.sizeData.toNat) :
    pev.dataBytes = pev.pdata.getD [] := by
  apply List.ext_getElem
  · simp [holds]
  · intro i _ inside
    simp [VscpEvent.dataBytes, inside]

theorem copied_data_exact (pev : VscpEvent) (holds : (pev.pdata.getD []).length = pev.sizeData.toNat) :
    (if pev.sizeData = 0 then none else some pev.dataBytes).getD [] = pev.pdata.getD [] := by
  rw [← data_bytes_exact pev holds]
  split
  · rename_i empty
    exact (List.length_eq_zero_iff.mp (by rw [data_bytes_length, empty]; rfl)).symm
  · rfl

theorem event_frame_header_length (pkttype : UInt8) (pev : VscpEvent) :
    (eventFrameHeader pkttype pev).length = 18 := rfl

theorem event_frame_content_length (pkttype : UInt8) (pev : VscpEvent) :
    (eventFrameContent pkttype pev).length = 36 + pev.sizeData.toNat := by
  simp [eventFrameContent, event_frame_header_length, bytes16]
  omega

theorem event_frame_length (pkttype : UInt8) (pev : VscpEvent) :
    (eventFrame pkttype pev).length = frameSize pev.sizeData := by
  simp [eventFrame, event_frame_content_length, frameSize, headerLength, bytes16]
  omega

theorem written_packet_type (pkttype : UInt8) :
    packetType (eventLead pkttype) = multicastTypeEvent1 := by
  have every : ∀ i : Fin 256, packetType (eventLead (UInt8.ofFin i)) = multicastTypeEvent1 := by
    decide +kernel
  simpa using every pkttype.toFin

theorem written_head (head : UInt16) (unixNs : frameVersion head = frameVersionUnixNs) :
    (head &&& ~~~frameVersionMask) ||| frameVersionUnixNs = head := by
  rw [← unixNs, frameVersion]
  apply UInt16.toBitVec_inj.mp
  simp only [UInt16.toBitVec_or, UInt16.toBitVec_and, UInt16.toBitVec_not]
  apply BitVec.eq_of_getLsbD_eq
  intro i bound
  simp only [BitVec.getLsbD_or, BitVec.getLsbD_and, BitVec.getLsbD_not, bound]
  cases head.toBitVec.getLsbD i <;> cases frameVersionMask.toBitVec.getLsbD i <;> rfl

-- Memory that starts with a frame of the writer, whatever follows it.
section Written

variable (pkttype : UInt8) (pev : VscpEvent) (rest : Bytes) (beyond : Memory)

def writtenMemory : Memory := ofBytes (eventFrame pkttype pev ++ rest) beyond

theorem written_memory_parts :
    writtenMemory pkttype pev rest beyond =
      ofBytes (eventFrameHeader pkttype pev ++ (pev.guid.toList ++ (bytes16 pev.sizeData ++ (pev.dataBytes ++
        (bytes16 (crcFast ((eventFrameContent pkttype pev).drop 1)) ++ rest))))) beyond := by
  simp only [writtenMemory, eventFrame, eventFrameContent, List.append_assoc]

theorem written_header_byte (i : Nat) (inside : i < 18) :
    writtenMemory pkttype pev rest beyond i = ofBytes (eventFrameHeader pkttype pev) beyond i := by
  rw [written_memory_parts]
  exact of_bytes_front _ _ _ i inside

theorem written_head_field : read16 (writtenMemory pkttype pev rest beyond) posHeadMsb =
    (pev.head &&& ~~~frameVersionMask) ||| frameVersionUnixNs := by
  simp only [read16, posHeadMsb]
  rw [written_header_byte _ _ _ _ _ (by decide), written_header_byte _ _ _ _ _ (by decide)]
  exact joined16 _

theorem written_timestamp : read64 (writtenMemory pkttype pev rest beyond) posTimestamp = eventTimestampNs pev := by
  simp only [read64, posTimestamp]
  repeat rw [written_header_byte _ _ _ _ _ (by decide)]
  exact joined64 _

theorem written_class : read16 (writtenMemory pkttype pev rest beyond) posClassMsb = pev.vscpClass := by
  simp only [read16, posClassMsb]
  rw [written_header_byte _ _ _ _ _ (by decide), written_header_byte _ _ _ _ _ (by decide)]
  exact joined16 _

theorem written_type : read16 (writtenMemory pkttype pev rest beyond) posTypeMsb = pev.vscpType := by
  simp only [read16, posTypeMsb]
  rw [written_header_byte _ _ _ _ _ (by decide), written_header_byte _ _ _ _ _ (by decide)]
  exact joined16 _

theorem written_size : read16 (writtenMemory pkttype pev rest beyond) posSizeMsb = pev.sizeData := by
  rw [written_memory_parts, ← List.append_assoc]
  apply read16_back
  simp [event_frame_header_length, posSizeMsb]

theorem written_guid : frameGuid (writtenMemory pkttype pev rest beyond) = pev.guid := by
  have bytes : bytesAt (writtenMemory pkttype pev rest beyond) posGuid 16 = pev.guid.toList := by
    rw [written_memory_parts]
    exact bytes_at_middle _ _ _ beyond _ _ (event_frame_header_length _ _).symm (by simp)
  apply Vector.ext
  intro i bound
  have here := congrArg (fun l => l[i]?) bytes
  simp only [bytes_at_get _ _ _ i bound] at here
  simpa [frameGuid, bound] using here

theorem written_data : bytesAt (writtenMemory pkttype pev rest beyond) posData pev.sizeData.toNat = pev.dataBytes := by
  rw [written_memory_parts, ← List.append_assoc, ← List.append_assoc (_ ++ _)]
  apply bytes_at_middle
  · simp [event_frame_header_length, bytes16, posData]
  · simp

theorem event_frame_body : (eventFrame pkttype pev).drop 1 =
    (eventFrameContent pkttype pev).drop 1 ++ bytes16 (crcFast ((eventFrameContent pkttype pev).drop 1)) := by
  rw [eventFrame, List.drop_append_of_le_length]
  rw [event_frame_content_length]
  omega

theorem event_frame_crc : crcFast ((eventFrame pkttype pev).drop 1) = 0 := by
  rw [event_frame_body, crc_fast_appended]

theorem frame_body_at (bytes : Bytes) (size : Nat) (long : bytes.length = size) (positive : 0 < size) :
    bytesAt (ofBytes (bytes ++ rest) beyond) 1 (size - 1) = bytes.drop 1 := by
  rw [bytes_at_window _ _ _ _ (by rw [List.length_append]; omega), List.drop_append_of_le_length (by omega),
    List.take_append_of_le_length (by rw [List.length_drop]; omega), List.take_of_length_le]
  rw [List.length_drop]
  omega

theorem frame_size_positive (sizeData : UInt16) : 0 < frameSize sizeData := by
  unfold frameSize
  omega

theorem written_body_crc :
    crcFast (bytesAt (writtenMemory pkttype pev rest beyond) 1 (frameSize pev.sizeData - 1)) = 0 := by
  rw [writtenMemory, frame_body_at _ _ _ _ (event_frame_length pkttype pev) (frame_size_positive _), event_frame_crc]

theorem written_checks (len : Nat) (room : frameSize pev.sizeData ≤ len) :
    frameChecks (writtenMemory pkttype pev rest beyond) len = true := by
  simp only [frameChecks, written_size, written_body_crc]
  rw [if_neg (by omega)]
  split <;> rfl

theorem written_lead : packetType (writtenMemory pkttype pev rest beyond 0) = multicastTypeEvent1 := by
  rw [written_header_byte _ _ _ _ _ (by decide)]
  exact written_packet_type pkttype

theorem written_event (clock : Clock) (len : Nat) (room : frameSize pev.sizeData ≤ len) :
    getEventFromFrame clock (writtenMemory pkttype pev rest beyond) len = some {
      head := (pev.head &&& ~~~frameVersionMask) ||| frameVersionUnixNs
      obid := 0
      year := 0xffff
      month := 0xff
      timestampNs := if eventTimestampNs pev = 0 then clock.makeTimeStampNs else eventTimestampNs pev
      vscpClass := pev.vscpClass
      vscpType := pev.vscpType
      guid := pev.guid
      sizeData := pev.sizeData
      pdata := if pev.sizeData = 0 then none else some pev.dataBytes
      crc := read16 (writtenMemory pkttype pev rest beyond) (frameSize pev.sizeData - 2) } := by
  rw [getEventFromFrame, if_neg (by simp [written_checks pkttype pev rest beyond len room]), if_pos (written_lead _ _ _ _)]
  simp only [written_head_field, written_timestamp, written_class, written_type, written_guid, written_size,
    frameData, written_data]

end Written

theorem write_event_result (frame : Bytes) (pkttype : UInt8) (pev : VscpEvent) (written : Bytes)
    (write : writeEventToFrame frame pkttype pev = some written) :
    written = eventFrame pkttype pev ++ frame.drop (frameSize pev.sizeData) ∧
      frameSize pev.sizeData ≤ frame.length := by
  unfold writeEventToFrame at write
  split at write
  · cases write
  · split at write
    · cases write
    · rename_i room
      exact ⟨(Option.some.inj write).symm, Nat.le_of_not_lt room⟩

theorem event_frame_round_trip (clock : Clock) (frame : Bytes) (beyond : Memory) (pkttype : UInt8) (len : Nat)
    (pev : VscpEvent) (unixNs : frameVersion pev.head = frameVersionUnixNs) (stamped : pev.timestampNs ≠ 0)
    (holds : (pev.pdata.getD []).length = pev.sizeData.toNat)
    (room : frameSize pev.sizeData ≤ frame.length) (enough : frameSize pev.sizeData ≤ len) :
    ∃ written ev, writeEventToFrame frame pkttype pev = some written ∧ written.length = frame.length ∧
      getEventFromFrame clock (ofBytes written beyond) len = some ev ∧
      ev.head = pev.head ∧ ev.timestampNs = pev.timestampNs ∧ ev.vscpClass = pev.vscpClass ∧
      ev.vscpType = pev.vscpType ∧ ev.guid = pev.guid ∧ ev.sizeData = pev.sizeData ∧
      ev.pdata.getD [] = pev.pdata.getD [] ∧ ev.year = 0xffff ∧ ev.month = 0xff ∧ ev.obid = 0 := by
  have present : ¬ (pev.sizeData ≠ 0 ∧ pev.pdata = none) := by
    rintro ⟨size, null⟩
    rw [null] at holds
    exact size (UInt16.toNat_inj.mp holds.symm)
  have write : writeEventToFrame frame pkttype pev =
      some (eventFrame pkttype pev ++ frame.drop (frameSize pev.sizeData)) := by
    rw [writeEventToFrame, if_neg present, if_neg (by omega)]
  have exact : (if pev.sizeData = 0 then none else some pev.dataBytes).getD [] = pev.pdata.getD [] := by
    rw [← data_bytes_exact pev holds]
    split
    · rename_i empty
      exact (List.length_eq_zero_iff.mp (by simp [empty])).symm
    · rfl
  have ns : eventTimestampNs pev = pev.timestampNs := by rw [eventTimestampNs, if_pos unixNs]
  refine ⟨_, _, write, ?_, written_event pkttype pev _ beyond clock len enough, written_head pev.head unixNs,
    ?_, rfl, rfl, rfl, rfl, exact, rfl, rfl, rfl⟩
  · rw [List.length_append, event_frame_length, List.length_drop]
    omega
  · rw [ns, if_neg stamped]

def exampleEvent : VscpEvent :=
  ⟨0x0160, 7, 0xffff, 0xff, 1700000000000000000, 10, 6, Vector.ofFn fun i => UInt8.ofNat i.val, 3,
    some [0x89, 0x01, 0x35], 0⟩

def exampleClock : Clock := ⟨1, 1, ⟨2026, 1, 1, 0, 0, 0⟩⟩

theorem event_frame_round_trip_example :
    ∃ written ev, writeEventToFrame (List.replicate 64 0xa5) 0x03 exampleEvent = some written ∧ written.length = 64 ∧
      getEventFromFrame exampleClock (ofBytes written fun _ => 0) 64 = some ev ∧
      ev.head = 0x0160 ∧ ev.timestampNs = 1700000000000000000 ∧ ev.vscpClass = 10 ∧ ev.vscpType = 6 ∧
      ev.guid = exampleEvent.guid ∧ ev.sizeData = 3 ∧ ev.pdata.getD [] = [0x89, 0x01, 0x35] ∧
      ev.year = 0xffff ∧ ev.month = 0xff ∧ ev.obid = 0 :=
  event_frame_round_trip exampleClock (List.replicate 64 0xa5) (fun _ => 0) 0x03 64 exampleEvent
    (by decide) (by decide) (by decide) (by decide) (by decide)

end Vscp
