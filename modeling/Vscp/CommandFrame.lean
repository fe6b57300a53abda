import Vscp.EventFrame

set_option autoImplicit false

namespace Vscp

open ByteMemory

def packetTypeCommand : UInt8 := 0xe0
def packetTypeResponse : UInt8 := 0xf0

def argBytes (arg : Option Bytes) (argLen : Nat) : Bytes :=
  (List.range argLen).map fun i => (arg.getD []).getD i 0

-- The CRC covers `(int) calcSize - 3` bytes behind the packet type.
def frameWithCrc (lead : UInt8) (body : Bytes) : Bytes :=
  lead :: (body ++ bytes16 (crcFast (body.take (intCount (body.length + 3) - 3))))

def commandFrame (command : UInt16) (arg : Option Bytes) (argLen : Nat) : Bytes :=
  frameWithCrc packetTypeCommand (bytes16 command ++ argBytes arg argLen)

def replyFrame (command error : UInt16) (arg : Option Bytes) (argLen : Nat) : Bytes :=
  frameWithCrc packetTypeResponse (bytes16 command ++ (bytes16 error ++ argBytes arg argLen))

def writeCommandToFrame (frame : Bytes) (command : UInt16) (arg : Option Bytes) (argLen : Nat) :
    Except VscpError Bytes :=
  let calcSize := 1 + 2 + argLen + 2
  if arg = none ∧ argLen ≠ 0 then .error .parameter
  else if frame.length < calcSize then .error .bufferTooSmall
  else .ok (commandFrame command arg argLen ++ frame.drop calcSize)

def writeReplyToFrame (frame : Bytes) (command error : UInt16) (arg : Option Bytes) (argLen : Nat) :
    Except VscpError Bytes :=
  let calcSize := 1 + 2 + 2 + argLen + 2
  if arg = none ∧ argLen ≠ 0 then .error .parameter
  else if frame.length < calcSize then .error .bufferTooSmall
  else .ok (replyFrame command error arg argLen ++ frame.drop calcSize)

-- What memory holding a command or reply of `size` bytes must look like to pass
-- for an event: bytes 34 and 35 announce an event that fits `len`, and it ends
-- with the frame itself, has a CRC of zero by chance, or carries the dummy CRC
-- under a command code with the CRC flag set.
def PassesForEvent (command : UInt16) (size : Nat) (memory : Memory) (len : Nat) : Prop :=
  let total := frameSize (read16 memory posSizeMsb)
  total ≤ len ∧ (total = size ∨ crcFast (bytesAt memory 1 (total - 1)) = 0 ∨
    (command.toUInt8 &&& headerNoCrc ≠ 0 ∧ read16 memory (total - 2) = noCrcCalcDummyCrc))

variable (lead : UInt8) (body : Bytes)

theorem frame_with_crc_length : (frameWithCrc lead body).length = body.length + 3 := by
  simp [frameWithCrc, bytes16]

theorem frame_with_crc_body (small : body.length + 3 < 2 ^ 31) :
    crcFast ((frameWithCrc lead body).drop 1) = 0 := by
  rw [frameWithCrc, int_count_small _ small, Nat.add_sub_cancel, List.take_length]
  exact crc_fast_appended body

variable (clock : Clock) (memory : Memory) (len : Nat) (frame written : Bytes) (command : UInt16) (arg : Option Bytes)
    (argLen : Nat)

theorem arg_bytes_length : (argBytes arg argLen).length = argLen := by
  simp [argBytes]

theorem frame_checks_iff :
    frameChecks memory len = true ↔
      frameSize (read16 memory posSizeMsb) ≤ len ∧
        (crcFast (bytesAt memory 1 (frameSize (read16 memory posSizeMsb) - 1)) = 0 ∨
          (memory posHeadLsb &&& headerNoCrc ≠ 0 ∧
            read16 memory (frameSize (read16 memory posSizeMsb) - 2) = noCrcCalcDummyCrc)) := by
  simp only [frameChecks]
  by_cases short : len < frameSize (read16 memory posSizeMsb)
  · simp [if_pos short, Nat.not_le_of_lt short]
  · by_cases dummy : memory posHeadLsb &&& headerNoCrc ≠ 0 ∧
        noCrcCalcDummyCrc = read16 memory (frameSize (read16 memory posSizeMsb) - 2)
    · rw [if_neg short, if_pos dummy]
      exact iff_of_true rfl ⟨Nat.le_of_not_lt short, Or.inr ⟨dummy.1, dummy.2.symm⟩⟩
    · rw [if_neg short, if_neg dummy, beq_iff_eq]
      constructor
      · intro zero
        exact ⟨Nat.le_of_not_lt short, Or.inl zero⟩
      · rintro ⟨_, zero | flagged⟩
        · exact zero
        · exact absurd ⟨flagged.1, flagged.2.symm⟩ dummy

-- The lead byte plays no part: the checks run on every packet type.
theorem tagged_frame_checks (body rest : Bytes) (beyond : Memory) (len : Nat) :
    frameChecks (ofBytes (frameWithCrc lead (bytes16 command ++ body) ++ rest) beyond) len = true ↔
      PassesForEvent command (body.length + 5)
        (ofBytes (frameWithCrc lead (bytes16 command ++ body) ++ rest) beyond) len := by
  have low : ofBytes (frameWithCrc lead (bytes16 command ++ body) ++ rest) beyond posHeadLsb = command.toUInt8 := rfl
  have long : (frameWithCrc lead (bytes16 command ++ body)).length = body.length + 5 := by
    rw [frame_with_crc_length, List.length_append]
    simp [bytes16]
    omega
  rw [frame_checks_iff, low]
  simp only [PassesForEvent]
  constructor
  · rintro ⟨room, zero | flagged⟩
    · exact ⟨room, Or.inr (Or.inl zero)⟩
    · exact ⟨room, Or.inr (Or.inr flagged)⟩
  · rintro ⟨room, ends | zero | flagged⟩
    · refine ⟨room, Or.inl ?_⟩
      have bound := (read16 (ofBytes (frameWithCrc lead (bytes16 command ++ body) ++ rest) beyond) posSizeMsb).toNat_lt
      have small : (bytes16 command ++ body).length + 3 < 2 ^ 31 := by
        rw [← frame_with_crc_length lead, long, ← ends, frameSize, headerLength]
        omega
      rw [ends, frame_body_at _ _ _ _ long (by omega), frame_with_crc_body _ _ small]
    · exact ⟨room, Or.inl zero⟩
    · exact ⟨room, Or.inr flagged⟩

theorem event_rejected_iff :
    getEventFromFrame clock memory len = none ↔ frameChecks memory len ≠ true := by
  unfold getEventFromFrame
  by_cases passes : frameChecks memory len = true
  · rw [if_neg (by simpa using passes)]
    dsimp only
    split <;> simp [passes]
  · simp [passes]

theorem event_ex_rejected (pex : VscpEventEx) (memory : Memory) (len : Nat)
    (rejected : getEventFromFrame clock memory len = none) : getEventExFromFrame clock pex memory len = none := by
  rw [getEventExFromFrame, rejected]
  rfl

theorem tagged_frame_rejected_iff (clock : Clock) (pex : VscpEventEx) (lead : UInt8) (command : UInt16)
    (body rest : Bytes) (beyond : Memory) (len : Nat) :
    let memory := ofBytes (frameWithCrc lead (bytes16 command ++ body) ++ rest) beyond
    (getEventFromFrame clock memory len = none ∧ getEventExFromFrame clock pex memory len = none) ↔
      ¬ PassesForEvent command (body.length + 5) memory len := by
  intro memory
  have checks := not_congr (tagged_frame_checks lead command body rest beyond len)
  have rejected := event_rejected_iff clock memory len
  exact ⟨fun both => checks.mp (rejected.mp both.1),
    fun fails => ⟨rejected.mpr (checks.mpr fails), event_ex_rejected clock pex memory len (rejected.mpr (checks.mpr fails))⟩⟩

theorem write_command_result (write : writeCommandToFrame frame command arg argLen = .ok written) :
    written = commandFrame command arg argLen ++ frame.drop (argLen + 5) := by
  have size : 1 + 2 + argLen + 2 = argLen + 5 := by omega
  simp only [writeCommandToFrame, size] at write
  split at write
  · cases write
  · split at write
    · cases write
    · exact (Except.ok.inj write).symm

theorem write_reply_result (command error : UInt16) (arg : Option Bytes) (argLen : Nat)
    (write : writeReplyToFrame frame command error arg argLen = .ok written) :
    written = replyFrame command error arg argLen ++ frame.drop (argLen + 7) := by
  have size : 1 + 2 + 2 + argLen + 2 = argLen + 7 := by omega
  simp only [writeReplyToFrame, size] at write
  split at write
  · cases write
  · split at write
    · cases write
    · exact (Except.ok.inj write).symm

theorem command_or_reply_rejected_iff (clock : Clock) (pex : VscpEventEx) (frame command reply : Bytes) (beyond : Memory)
    (code error : UInt16) (arg : Option Bytes) (argLen len : Nat)
    (commandWritten : writeCommandToFrame frame code arg argLen = .ok command)
    (replyWritten : writeReplyToFrame frame code error arg argLen = .ok reply) :
    ((getEventFromFrame clock (ofBytes command beyond) len = none ∧
        getEventExFromFrame clock pex (ofBytes command beyond) len = none) ↔
      ¬ PassesForEvent code (argLen + 5)
        (ofBytes (commandFrame code arg argLen ++ frame.drop (argLen + 5)) beyond) len) ∧
    ((getEventFromFrame clock (ofBytes reply beyond) len = none ∧
        getEventExFromFrame clock pex (ofBytes reply beyond) len = none) ↔
      ¬ PassesForEvent code (argLen + 7)
        (ofBytes (replyFrame code error arg argLen ++ frame.drop (argLen + 7)) beyond) len) := by
  rw [write_command_result frame command code arg argLen commandWritten,
    write_reply_result frame reply code error arg argLen replyWritten]
  constructor
  · have rejected := tagged_frame_rejected_iff clock pex packetTypeCommand code (argBytes arg argLen)
      (frame.drop (argLen + 5)) beyond len
    rw [arg_bytes_length] at rejected
    exact rejected
  · have rejected := tagged_frame_rejected_iff clock pex packetTypeResponse code
      (bytes16 error ++ argBytes arg argLen) (frame.drop (argLen + 7)) beyond len
    have long : (bytes16 error ++ argBytes arg argLen).length + 5 = argLen + 7 := by
      rw [List.length_append, arg_bytes_length]
      simp [bytes16]
      omega
    rw [long] at rejected
    exact rejected

def exampleEventEx : VscpEventEx :=
  ⟨0, 0, 0, 0, 0, 0, 0, 0, Vector.replicate 16 0, 0, Vector.replicate 512 0⟩

theorem command_or_reply_rejected_iff_example :
    ((getEventFromFrame exampleClock
          (ofBytes (commandFrame 6 (some [1, 2]) 2 ++ List.replicate 57 0) fun _ => 0) 64 = none ∧
        getEventExFromFrame exampleClock exampleEventEx
          (ofBytes (commandFrame 6 (some [1, 2]) 2 ++ List.replicate 57 0) fun _ => 0) 64 = none) ↔
      ¬ PassesForEvent 6 7 (ofBytes (commandFrame 6 (some [1, 2]) 2 ++ List.replicate 57 0) fun _ => 0) 64) ∧
    ((getEventFromFrame exampleClock
          (ofBytes (replyFrame 6 0 (some [1, 2]) 2 ++ List.replicate 55 0) fun _ => 0) 64 = none ∧
        getEventExFromFrame exampleClock exampleEventEx
          (ofBytes (replyFrame 6 0 (some [1, 2]) 2 ++ List.replicate 55 0) fun _ => 0) 64 = none) ↔
      ¬ PassesForEvent 6 9 (ofBytes (replyFrame 6 0 (some [1, 2]) 2 ++ List.replicate 55 0) fun _ => 0) 64) :=
  command_or_reply_rejected_iff exampleClock exampleEventEx (List.replicate 64 0) _ _ (fun _ => 0) 6 0
    (some [1, 2]) 2 64 rfl rfl

-- A command with 33 zero arguments, and a reply with 31, is decoded as an event of an unknown packet type.
theorem command_and_reply_taken_for_event :
    ∃ command reply, writeCommandToFrame (List.replicate 38 0) 6 (some (List.replicate 33 0)) 33 = .ok command ∧
      writeReplyToFrame (List.replicate 38 0) 6 0 (some (List.replicate 31 0)) 31 = .ok reply ∧
      getEventFromFrame exampleClock (ofBytes command fun _ => 0) 38 ≠ none ∧
      getEventExFromFrame exampleClock exampleEventEx (ofBytes command fun _ => 0) 38 ≠ none ∧
      getEventFromFrame exampleClock (ofBytes reply fun _ => 0) 38 ≠ none ∧
      getEventExFromFrame exampleClock exampleEventEx (ofBytes reply fun _ => 0) 38 ≠ none := by
  refine ⟨_, _, rfl, rfl, ?_, ?_, ?_, ?_⟩ <;> decide +kernel

end Vscp
