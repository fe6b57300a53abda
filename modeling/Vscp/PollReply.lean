import Vscp.BinaryClient
import Vscp.FrameGateway

set_option autoImplicit false

namespace Vscp.BinaryTcp

open ByteMemory

def frameContent (frame : Bytes) : Bytes := (frame.drop 1).take (frame.length - 3)

def pollReply (frame : Bytes) : Bytes :=
  let reply := bytes16 binaryRetrCommand ++ bytes16 0 ++ frameContent frame
  packetTypeResponse :: (reply ++ bytes16 (crcFast reply))

structure EventFrame (frame : Bytes) : Prop where
  lead : isEventFrame frame = true
  size : frame.length = frameSize (binaryRead16 frame posSizeMsb)

-- The date of an original frame, read as the last bytes of a number and the reserved bytes.
structure ReadsAsNumber (clock : Clock) (buf : Memory) : Prop where
  year : read16 buf posYearMsb = 0xffff
  month : buf posMonth = 0xff
  hour : buf posHour = 0xff
  minute : buf posMinute = 0xff
  second : buf posSecond = 0xff
  stamped : frameMicroseconds buf ≠ 0 ∨ clock.makeTimeStamp = 0

structure SurvivesPoll (clock : Clock) (frame : Bytes) (beyond : Memory) : Prop where
  crc : read16 (ofBytes frame beyond) (frame.length - 2) = crcFast (frameContent frame)
  format : packetType (frame.headD 0) = multicastTypeEvent1 ∨ ReadsAsNumber clock (ofBytes frame beyond)

theorem event_frame_long (frame : Bytes) (proper : EventFrame frame) : 38 ≤ frame.length := by
  have size := proper.size
  unfold frameSize headerLength at size
  omega

theorem frame_content_length (frame : Bytes) (long : 38 ≤ frame.length) :
    (frameContent frame).length = frame.length - 3 := by
  rw [frameContent, List.length_take, List.length_drop]
  omega

theorem poll_event_frame_of_reply (frame : Bytes) (long : 38 ≤ frame.length) :
    pollEventFrame (pollReply frame) = 0x10 :: (frameContent frame ++ bytes16 (crcFast (frameContent frame))) := by
  have content := frame_content_length frame long
  have length : (pollReply frame).length = (frameContent frame).length + 7 := by
    simp only [pollReply, bytes16, List.length_cons, List.length_append, List.length_nil]
    omega
  have body : ((pollReply frame).drop 5).take ((pollReply frame).length - 7) = frameContent frame := by
    rw [length, Nat.add_sub_cancel]
    exact List.take_left
  rw [pollEventFrame, body]

theorem poll_reply_dispatched (frame : Bytes) (long : 38 ≤ frame.length) (sawEvent : Bool) :
    pollNext sawEvent (pollReply frame) =
      .dispatch (0x10 :: (frameContent frame ++ bytes16 (crcFast (frameContent frame)))) false := by
  have content := frame_content_length frame long
  have length : (pollReply frame).length = (frameContent frame).length + 7 := by
    simp only [pollReply, bytes16, List.length_cons, List.length_append, List.length_nil]
    omega
  have checksum : crcFast ((pollReply frame).drop 1) = 0 := crc_fast_appended _
  have error : binaryRead16 (pollReply frame) 3 = 0 := rfl
  have reply : binaryReply (pollReply frame) = some (binaryRead16 (pollReply frame) 1, 0) := by
    rw [binaryReply, if_neg, error]
    rintro (short | other | wrong)
    · omega
    · exact other rfl
    · exact wrong checksum
  rw [pollNext, reply]
  simp only
  rw [if_neg (by rintro ⟨empty, _⟩; exact absurd empty (by decide)), if_neg (by decide), if_neg (by omega),
    if_neg (by omega), poll_event_frame_of_reply frame long]

section rebuilt

variable (frame : Bytes) (beyond : Memory)

def rebuiltFrame : Bytes := 0x10 :: (frameContent frame ++ bytes16 (crcFast (frameContent frame)))

theorem rebuilt_length (long : 38 ≤ frame.length) : (rebuiltFrame frame).length = frame.length := by
  have content := frame_content_length frame long
  simp only [rebuiltFrame, bytes16, List.length_cons, List.length_append, List.length_nil, content]
  omega

theorem rebuilt_byte (long : 38 ≤ frame.length) (i : Nat) (behind : 1 ≤ i) (inside : i + 2 < frame.length) :
    ofBytes (rebuiltFrame frame) beyond i = ofBytes frame beyond i := by
  have content := frame_content_length frame long
  obtain ⟨j, rfl⟩ : ∃ j, i = j + 1 := ⟨i - 1, by omega⟩
  have early : j < (frameContent frame).length := by omega
  rw [ofBytes, ofBytes, rebuiltFrame, List.getD_cons_succ, List.getD_append _ _ _ _ early,
    List.getD_eq_getElem _ _ early, List.getD_eq_getElem _ _ (by omega)]
  simp only [frameContent, List.getElem_take, List.getElem_drop]
  congr 1
  omega

theorem rebuilt_word (long : 38 ≤ frame.length) (i : Nat) (behind : 1 ≤ i) (inside : i + 3 < frame.length) :
    read16 (ofBytes (rebuiltFrame frame) beyond) i = read16 (ofBytes frame beyond) i := by
  rw [read16, read16, rebuilt_byte frame beyond long i behind (by omega),
    rebuilt_byte frame beyond long (i + 1) (by omega) (by omega)]

theorem rebuilt_crc (long : 38 ≤ frame.length) :
    read16 (ofBytes (rebuiltFrame frame) beyond) (frame.length - 2) = crcFast (frameContent frame) := by
  have content := frame_content_length frame long
  have split : rebuiltFrame frame = (0x10 :: frameContent frame) ++ (bytes16 (crcFast (frameContent frame)) ++ []) := by
    rw [List.append_nil]
    rfl
  rw [split]
  exact read16_back _ _ beyond _ _ (by rw [List.length_cons]; omega)

theorem size_field_read (long : 38 ≤ frame.length) :
    read16 (ofBytes frame beyond) posSizeMsb = binaryRead16 frame posSizeMsb := by
  have high : posSizeMsb < frame.length := by
    rw [posSizeMsb]
    omega
  have low : posSizeMsb + 1 < frame.length := by
    rw [posSizeMsb]
    omega
  rw [binaryRead16, read16, read16, of_bytes_inside _ _ _ high, of_bytes_inside _ _ _ low, of_bytes_inside _ _ _ high,
    of_bytes_inside _ _ _ low]

theorem rebuilt_checks (proper : EventFrame frame) :
    frameChecks (ofBytes (rebuiltFrame frame) beyond) frame.length = true := by
  have long := event_frame_long frame proper
  have own := proper.size
  have size : read16 (ofBytes (rebuiltFrame frame) beyond) posSizeMsb = binaryRead16 frame posSizeMsb := by
    rw [rebuilt_word frame beyond long posSizeMsb (by decide) (by rw [posSizeMsb]; omega), size_field_read frame beyond long]
  have body := frame_body_at [] beyond (rebuiltFrame frame) frame.length (rebuilt_length frame long) (by omega)
  rw [List.append_nil] at body
  have checksum : crcFast ((rebuiltFrame frame).drop 1) = 0 := crc_fast_appended _
  simp only [frameChecks, size, ← own, body, checksum]
  rw [if_neg (Nat.lt_irrefl _)]
  split <;> rfl

theorem rebuilt_guid (long : 38 ≤ frame.length) :
    frameGuid (ofBytes (rebuiltFrame frame) beyond) = frameGuid (ofBytes frame beyond) := by
  refine congrArg Vector.ofFn (funext fun i => ?_)
  have bound := i.isLt
  exact rebuilt_byte frame beyond long (posGuid + i.val) (by rw [posGuid]; omega) (by rw [posGuid]; omega)

theorem rebuilt_number (long : 38 ≤ frame.length) :
    read64 (ofBytes (rebuiltFrame frame) beyond) posTimestamp = read64 (ofBytes frame beyond) posTimestamp := by
  have byte (i : Nat) (small : i < 8) : ofBytes (rebuiltFrame frame) beyond (posTimestamp + i) =
      ofBytes frame beyond (posTimestamp + i) :=
    rebuilt_byte frame beyond long _ (by rw [posTimestamp]; omega) (by rw [posTimestamp]; omega)
  have first := byte 0 (by decide)
  rw [Nat.add_zero] at first
  rw [read64, read64, first, byte 1 (by decide), byte 2 (by decide), byte 3 (by decide), byte 4 (by decide),
    byte 5 (by decide), byte 6 (by decide), byte 7 (by decide)]

theorem rebuilt_size (long : 38 ≤ frame.length) :
    read16 (ofBytes (rebuiltFrame frame) beyond) posSizeMsb = read16 (ofBytes frame beyond) posSizeMsb :=
  rebuilt_word frame beyond long posSizeMsb (by decide) (by rw [posSizeMsb]; omega)

theorem rebuilt_data (long : 38 ≤ frame.length)
    (size : frame.length = frameSize (read16 (ofBytes frame beyond) posSizeMsb)) :
    frameData (ofBytes (rebuiltFrame frame) beyond) = frameData (ofBytes frame beyond) := by
  have same : bytesAt (ofBytes (rebuiltFrame frame) beyond) posData
      (read16 (ofBytes frame beyond) posSizeMsb).toNat =
        bytesAt (ofBytes frame beyond) posData (read16 (ofBytes frame beyond) posSizeMsb).toNat := by
    refine List.map_congr_left fun i member => ?_
    have inside := List.mem_range.mp member
    unfold frameSize headerLength at size
    exact rebuilt_byte frame beyond long (posData + i) (by rw [posData]; omega) (by rw [posData]; omega)
  simp only [frameData, rebuilt_size frame beyond long, same]

end rebuilt

section decoded

variable (clock : Clock) (buf : Memory)

def numberEvent (crc : UInt16) : VscpEvent where
  head := read16 buf posHeadMsb
  obid := 0
  year := 0xffff
  month := 0xff
  timestampNs := if read64 buf posTimestamp = 0 then clock.makeTimeStampNs else read64 buf posTimestamp
  vscpClass := read16 buf posClassMsb
  vscpType := read16 buf posTypeMsb
  guid := frameGuid buf
  sizeData := read16 buf posSizeMsb
  pdata := frameData buf
  crc := crc

def stamp : UInt32 := if frameMicroseconds buf = 0 then clock.makeTimeStamp else frameMicroseconds buf

def dateEvent (crc : UInt16) : VscpEvent :=
  let date := frameDate clock buf
  { numberEvent clock buf crc with
    year := date.year
    month := date.month
    timestampNs := timeBlock date.day date.hour date.minute date.second (stamp clock buf) }

theorem decoded_frame (len : Nat) (checks : frameChecks buf len = true) :
    getEventFromFrame clock buf len =
      some (if packetType (buf 0) = multicastTypeEvent1 then
          numberEvent clock buf (read16 buf (frameSize (read16 buf posSizeMsb) - 2))
        else dateEvent clock buf (read16 buf (frameSize (read16 buf posSizeMsb) - 2))) := by
  rw [getEventFromFrame, if_neg (by rw [checks]; decide)]
  by_cases unixNs : packetType (buf 0) = multicastTypeEvent1
  · simp only [if_pos unixNs]
    rfl
  · simp only [if_neg unixNs]
    rfl

theorem number_value : (read64 buf posTimestamp).toNat =
    (buf 3).toNat * 2 ^ 56 + (buf 4).toNat * 2 ^ 48 + (buf 5).toNat * 2 ^ 40 + (buf 6).toNat * 2 ^ 32 +
      (buf 7).toNat * 2 ^ 24 + (buf 8).toNat * 2 ^ 16 + (buf 9).toNat * 2 ^ 8 + (buf 10).toNat := by
  have bounds (i : Nat) := (buf i).toNat_lt
  have b3 := bounds 3
  have b4 := bounds 4
  have b5 := bounds 5
  have b6 := bounds 6
  have b7 := bounds 7
  have b8 := bounds 8
  have b9 := bounds 9
  have b10 := bounds 10
  simp only [read64, posTimestamp, Nat.reduceAdd, UInt64.toNat_add, UInt64.toNat_shiftLeft, UInt8.toNat_toUInt64,
    UInt64.reduceToNat, Nat.reduceMod, Nat.shiftLeft_eq, Nat.mod_add_mod, Nat.add_mod_mod]
  omega

theorem microseconds_value : (frameMicroseconds buf).toNat =
    (buf 3).toNat * 2 ^ 24 + (buf 4).toNat * 2 ^ 16 + (buf 5).toNat * 2 ^ 8 + (buf 6).toNat := by
  have bounds (i : Nat) := (buf i).toNat_lt
  have b3 := bounds 3
  have b4 := bounds 4
  have b5 := bounds 5
  have b6 := bounds 6
  simp only [frameMicroseconds, posTimestamp, Nat.reduceAdd, UInt32.toNat_add, UInt32.toNat_shiftLeft,
    UInt8.toNat_toUInt32, UInt32.reduceToNat, Nat.reduceMod, Nat.shiftLeft_eq, Nat.mod_add_mod, Nat.add_mod_mod]
  omega

theorem year_value : (read16 buf posYearMsb).toNat = (buf 7).toNat * 2 ^ 8 + (buf 8).toNat := by
  have first := (buf 7).toNat_lt
  have second := (buf 8).toNat_lt
  simp only [read16, posYearMsb, Nat.reduceAdd, UInt16.toNat_add, UInt16.toNat_shiftLeft, UInt8.toNat_toUInt16,
    UInt16.reduceToNat, Nat.reduceMod, Nat.shiftLeft_eq, Nat.mod_add_mod]
  omega

theorem full_year_nonzero (full : read16 buf posYearMsb = 0xffff) :
    (buf 7).toNat = 255 ∧ (buf 8).toNat = 255 ∧ read64 buf posTimestamp ≠ 0 := by
  have yearIs : (buf 7).toNat * 2 ^ 8 + (buf 8).toNat = 65535 := by
    rw [← year_value buf, full]
    rfl
  have yearLow := (buf 8).toNat_lt
  have yearHigh := (buf 7).toNat_lt
  refine ⟨by omega, by omega, ?_⟩
  intro none
  have number := number_value buf
  rw [none] at number
  have noNumber : 0 = _ := number
  omega

theorem stamp_given_iff : (stamp clock buf).toNat = (frameMicroseconds buf).toNat ↔
    frameMicroseconds buf ≠ 0 ∨ clock.makeTimeStamp = 0 := by
  rw [UInt32.toNat_inj, stamp]
  by_cases none : frameMicroseconds buf = 0
  · rw [if_pos none, none]
    exact (or_iff_right (not_not.mpr rfl)).symm
  · rw [if_neg none]
    exact iff_of_true rfl (.inl none)

-- The date stands where the last four bytes of the number and the reserved bytes stand.
theorem date_read_as_number (gregorian : clock.gmtime.month ≠ 0xff) :
    ((frameDate clock buf).year = 0xffff ∧ (frameDate clock buf).month = 0xff ∧
      timeBlock (frameDate clock buf).day (frameDate clock buf).hour (frameDate clock buf).minute
          (frameDate clock buf).second (stamp clock buf) =
        (if read64 buf posTimestamp = 0 then clock.makeTimeStampNs else read64 buf posTimestamp)) ↔
      ReadsAsNumber clock buf := by
  by_cases zero : read16 buf posYearMsb = 0 ∧ buf posMonth = 0 ∧ buf posDay = 0 ∧ buf posHour = 0 ∧
      buf posMinute = 0 ∧ buf posSecond = 0
  · have now : frameDate clock buf = clock.gmtime := if_pos zero
    rw [now]
    refine iff_of_false (fun same => gregorian same.2.1) fun reads => ?_
    have month := reads.month
    rw [zero.2.1] at month
    exact absurd month (by decide)
  · have own : frameDate clock buf =
        ⟨read16 buf posYearMsb, buf posMonth, buf posDay, buf posHour, buf posMinute, buf posSecond⟩ := if_neg zero
    rw [own]
    simp only
    have number := number_value buf
    have microseconds := microseconds_value buf
    have block := time_block_value (buf posDay) (buf posHour) (buf posMinute) (buf posSecond) (stamp clock buf)
    have full (i : Nat) : buf i = 0xff ↔ (buf i).toNat = 255 := UInt8.toNat_inj.symm
    constructor
    · rintro ⟨sameYear, sameMonth, sameTime⟩
      obtain ⟨yearHigh, yearLow, nonzero⟩ := full_year_nonzero buf sameYear
      have monthIs : (buf 9).toNat = 255 := (full posMonth).mp sameMonth
      rw [if_neg nonzero] at sameTime
      have values := congrArg UInt64.toNat sameTime
      rw [block, number] at values
      have hourBound := (buf posHour).toNat_lt
      have minuteBound := (buf posMinute).toNat_lt
      have secondBound := (buf posSecond).toNat_lt
      have dayBound := (buf posDay).toNat_lt
      have stampBound := (stamp clock buf).toNat_lt
      simp only [posDay, posHour, posMinute, posSecond] at values hourBound minuteBound secondBound dayBound
      have hour : (buf 11).toNat = 255 := by omega
      have minute : (buf 12).toNat = 255 := by omega
      have second : (buf 13).toNat = 255 := by omega
      have stamped : (stamp clock buf).toNat = (frameMicroseconds buf).toNat := by omega
      exact ⟨sameYear, sameMonth, (full posHour).mpr hour, (full posMinute).mpr minute, (full posSecond).mpr second,
        (stamp_given_iff clock buf).mp stamped⟩
    · intro reads
      obtain ⟨yearHigh, yearLow, nonzero⟩ := full_year_nonzero buf reads.year
      have monthIs : (buf 9).toNat = 255 := (full posMonth).mp reads.month
      have hour : (buf 11).toNat = 255 := (full posHour).mp reads.hour
      have minute : (buf 12).toNat = 255 := (full posMinute).mp reads.minute
      have second : (buf 13).toNat = 255 := (full posSecond).mp reads.second
      have stamped := (stamp_given_iff clock buf).mpr reads.stamped
      refine ⟨reads.year, reads.month, ?_⟩
      rw [if_neg nonzero]
      apply UInt64.toNat_inj.mp
      rw [block, number, stamped, microseconds]
      simp only [posDay, posHour, posMinute, posSecond]
      omega

end decoded

theorem frame_size_field (frame : Bytes) (beyond : Memory) (proper : EventFrame frame) :
    frame.length = frameSize (read16 (ofBytes frame beyond) posSizeMsb) := by
  rw [size_field_read frame beyond (event_frame_long frame proper)]
  exact proper.size

theorem rebuilt_event (clock : Clock) (frame : Bytes) (beyond : Memory) (proper : EventFrame frame) :
    getEventFromFrame clock (ofBytes (rebuiltFrame frame) beyond) (rebuiltFrame frame).length =
      some (numberEvent clock (ofBytes frame beyond) (crcFast (frameContent frame))) := by
  have long := event_frame_long frame proper
  have size := frame_size_field frame beyond proper
  have lead : packetType (ofBytes (rebuiltFrame frame) beyond 0) = multicastTypeEvent1 := by
    rw [rebuiltFrame, ofBytes, List.getD_cons_zero]
    decide
  rw [rebuilt_length frame long, decoded_frame clock _ frame.length (rebuilt_checks frame beyond proper), if_pos lead,
    rebuilt_size frame beyond long, ← size, rebuilt_crc frame beyond long]
  simp only [numberEvent, rebuilt_number frame beyond long, rebuilt_guid frame beyond long,
    rebuilt_size frame beyond long, rebuilt_data frame beyond long size,
    rebuilt_word frame beyond long posHeadMsb (by decide) (by rw [posHeadMsb]; omega),
    rebuilt_word frame beyond long posClassMsb (by decide) (by rw [posClassMsb]; omega),
    rebuilt_word frame beyond long posTypeMsb (by decide) (by rw [posTypeMsb]; omega)]

theorem poll_reply_carries_iff (clock : Clock) (gregorian : clock.gmtime.month ≠ 0xff) (frame : Bytes) (beyond : Memory)
    (proper : EventFrame frame) (ev : VscpEvent)
    (decoded : getEventFromFrame clock (ofBytes frame beyond) frame.length = some ev) (sawEvent : Bool) :
    (∃ rebuilt, pollNext sawEvent (pollReply frame) = .dispatch rebuilt false ∧
        getEventFromFrame clock (ofBytes rebuilt beyond) rebuilt.length = some ev) ↔
      SurvivesPoll clock frame beyond := by
  have long := event_frame_long frame proper
  have size := frame_size_field frame beyond proper
  have dispatched := poll_reply_dispatched frame long sawEvent
  have checks := (decoded_event clock _ _ ev decoded).1
  have again := rebuilt_event clock frame beyond proper
  have lead : ofBytes frame beyond 0 = frame.headD 0 := by
    cases frame with
    | nil => exact absurd long (by decide)
    | cons byte rest => rfl
  rw [decoded_frame clock _ _ checks, ← size, lead, Option.some.injEq] at decoded
  have dispatchedOnce : (∃ rebuilt, pollNext sawEvent (pollReply frame) = .dispatch rebuilt false ∧
      getEventFromFrame clock (ofBytes rebuilt beyond) rebuilt.length = some ev) ↔
        numberEvent clock (ofBytes frame beyond) (crcFast (frameContent frame)) = ev := by
    constructor
    · rintro ⟨rebuilt, sent, same⟩
      rw [dispatched] at sent
      cases sent
      exact Option.some.inj (again.symm.trans same)
    · intro same
      exact ⟨_, dispatched, again.trans (congrArg some same)⟩
  rw [dispatchedOnce, ← decoded]
  by_cases unixNs : packetType (frame.headD 0) = multicastTypeEvent1
  · rw [if_pos unixNs]
    constructor
    · intro same
      exact ⟨(congrArg VscpEvent.crc same).symm, .inl unixNs⟩
    · intro survives
      rw [survives.crc]
  · rw [if_neg unixNs]
    have reads := date_read_as_number clock (ofBytes frame beyond) gregorian
    constructor
    · intro same
      refine ⟨(congrArg VscpEvent.crc same).symm, .inr (reads.mp ⟨?_, ?_, ?_⟩)⟩
      · exact (congrArg VscpEvent.year same).symm
      · exact (congrArg VscpEvent.month same).symm
      · exact (congrArg VscpEvent.timestampNs same).symm
    · intro survives
      obtain ⟨year, month, time⟩ := reads.mpr (survives.format.resolve_left unixNs)
      rw [dateEvent, year, month, time, survives.crc]
      rfl

def originalContent : Bytes :=
  [0x00, 0x60, 0, 0, 0, 5, 0x07, 0xe8, 2, 29, 23, 59, 59, 0, 10, 0, 6] ++ List.replicate 16 1 ++ [0, 1, 0x2a]

def originalFrame (lead : UInt8) : Bytes := lead :: (originalContent ++ bytes16 (crcFast originalContent))

theorem poll_reply_carries_number :
    (∃ rebuilt, pollNext false (pollReply (originalFrame 0x10)) = .dispatch rebuilt false ∧
        getEventFromFrame exampleClock (ofBytes rebuilt fun _ => 0) rebuilt.length =
          some (numberEvent exampleClock (ofBytes (originalFrame 0x10) fun _ => 0) (crcFast originalContent))) ↔
      SurvivesPoll exampleClock (originalFrame 0x10) fun _ => 0 :=
  poll_reply_carries_iff exampleClock (by decide) (originalFrame 0x10) (fun _ => 0) ⟨by decide, by decide⟩ _
    (by decide +kernel) false

-- The date comes back as a number of nanoseconds.
theorem poll_reply_loses_date : ∃ ev again,
    getEventFromFrame exampleClock (ofBytes (originalFrame 0) fun _ => 0) 39 = some ev ∧
    pollNext false (pollReply (originalFrame 0)) = .dispatch (originalFrame 0x10) false ∧
    getEventFromFrame exampleClock (ofBytes (originalFrame 0x10) fun _ => 0) 39 = some again ∧
    ev.year = 2024 ∧ ev.month = 2 ∧ again.year = 0xffff ∧ again.month = 0xff := by
  exact ⟨_, _, decoded_frame exampleClock _ 39 (by decide +kernel), by decide +kernel,
    decoded_frame exampleClock _ 39 (by decide +kernel), by decide +kernel, by decide +kernel, by decide +kernel,
    by decide +kernel⟩

end Vscp.BinaryTcp
