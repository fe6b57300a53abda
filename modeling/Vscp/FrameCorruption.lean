import Vscp.EventFrame

set_option autoImplicit false

namespace Vscp

open ByteMemory

-- `corrupted` differs from `original` only inside `width` consecutive bits.
def BurstError (width : Nat) (original corrupted : Bytes) : Prop :=
  ∃ front a b back, messageBits original = front ++ a ++ back ∧ messageBits corrupted = front ++ b ++ back ∧
    a.length = b.length ∧ a.length ≤ width

def replaceBytes (bytes : Bytes) (position : Nat) (fresh : Bytes) : Bytes :=
  bytes.take position ++ (fresh ++ bytes.drop (position + fresh.length))

theorem message_bits_length (message : Bytes) : (messageBits message).length = 8 * message.length := by
  induction message with
  | nil => rfl
  | cons b rest ih =>
      rw [messageBits, List.flatMap_cons, List.length_append, ← messageBits, ih, ShiftRegister.bits_of_length,
        List.length_cons]
      omega

theorem message_bits_append (front back : Bytes) : messageBits (front ++ back) = messageBits front ++ messageBits back :=
  List.flatMap_append

theorem burst_same_length (width : Nat) (original corrupted : Bytes) (burst : BurstError width original corrupted) :
    corrupted.length = original.length := by
  obtain ⟨front, a, b, back, left, right, same, _⟩ := burst
  have leftLength := congrArg List.length left
  have rightLength := congrArg List.length right
  simp only [message_bits_length, List.length_append] at leftLength rightLength
  omega

theorem replace_bytes_burst (bytes fresh : Bytes) (position : Nat) (after : 1 ≤ position)
    (inside : position + fresh.length ≤ bytes.length) :
    BurstError (8 * fresh.length) (bytes.drop 1) ((replaceBytes bytes position fresh).drop 1) := by
  have head : 1 ≤ (bytes.take position).length := by rw [List.length_take]; omega
  have old : bytes.drop position =
      (bytes.drop position).take fresh.length ++ bytes.drop (position + fresh.length) := by
    rw [← List.drop_drop, List.take_append_drop]
  have split : bytes.drop 1 = (bytes.take position).drop 1 ++
      ((bytes.drop position).take fresh.length ++ bytes.drop (position + fresh.length)) := by
    rw [← old, ← List.drop_append_of_le_length head, List.take_append_drop]
  refine ⟨messageBits ((bytes.take position).drop 1), messageBits ((bytes.drop position).take fresh.length),
    messageBits fresh, messageBits (bytes.drop (position + fresh.length)), ?_, ?_, ?_, ?_⟩
  · rw [split, message_bits_append, message_bits_append, List.append_assoc]
  · rw [replaceBytes, List.drop_append_of_le_length head, message_bits_append, message_bits_append, List.append_assoc]
  · rw [message_bits_length, message_bits_length, List.length_take, List.length_drop]
    omega
  · rw [message_bits_length, List.length_take, List.length_drop]
    omega

theorem replace_bytes_kept (bytes fresh : Bytes) (position i : Nat) (inside : position + fresh.length ≤ bytes.length)
    (outside : i < position ∨ position + fresh.length ≤ i) : (replaceBytes bytes position fresh)[i]? = bytes[i]? := by
  have front : (bytes.take position).length = position := by rw [List.length_take]; omega
  rcases outside with before | behind
  · rw [replaceBytes, List.getElem?_append_left (by omega), List.getElem?_take_of_lt before]
  · rw [replaceBytes, List.getElem?_append_right (by omega), List.getElem?_append_right (by omega), front,
      List.getElem?_drop]
    congr 1
    omega

theorem written_head_low (head : UInt16) :
    ((head &&& ~~~frameVersionMask) ||| frameVersionUnixNs).toUInt8 = head.toUInt8 := by
  have mask : (~~~frameVersionMask).toUInt8 = ~~~0 := rfl
  have unixNs : frameVersionUnixNs.toUInt8 = 0 := rfl
  rw [UInt16.toUInt8_or, UInt16.toUInt8_and, mask, unixNs]
  simp

theorem burst_fails_checks (pkttype : UInt8) (pev : VscpEvent) (corrupted rest : Bytes) (beyond : Memory) (len : Nat)
    (checked : pev.head.toUInt8 &&& headerNoCrc = 0)
    (burst : BurstError 16 ((eventFrame pkttype pev).drop 1) (corrupted.drop 1))
    (kept : ∀ i ∈ [0, posHeadLsb, posSizeMsb, posSizeMsb + 1], corrupted[i]? = (eventFrame pkttype pev)[i]?)
    (changed : corrupted ≠ eventFrame pkttype pev) :
    frameChecks (ofBytes (corrupted ++ rest) beyond) len = false := by
  have long := event_frame_length pkttype pev
  have size : frameSize pev.sizeData = 38 + pev.sizeData.toNat := by simp [frameSize, headerLength]
  have sameLength : corrupted.length = frameSize pev.sizeData := by
    have same := burst_same_length _ _ _ burst
    rw [List.length_drop, List.length_drop] at same
    omega
  have keptByte (i : Nat) (member : i ∈ [0, posHeadLsb, posSizeMsb, posSizeMsb + 1]) (bound : i < 38) :
      ofBytes (corrupted ++ rest) beyond i = writtenMemory pkttype pev rest beyond i := by
    have here := kept i member
    rw [of_bytes_front _ _ _ _ (by omega), writtenMemory, of_bytes_front _ _ _ _ (by omega)]
    simp only [ofBytes, List.getD_eq_getElem?_getD, here]
  have sizeField : read16 (ofBytes (corrupted ++ rest) beyond) posSizeMsb = pev.sizeData := by
    rw [read16, keptByte _ (by simp) (by decide), keptByte _ (by simp) (by decide), ← read16, written_size]
  have flag : ofBytes (corrupted ++ rest) beyond posHeadLsb &&& headerNoCrc = 0 := by
    rw [keptByte _ (by simp) (by decide), written_header_byte _ _ _ _ _ (by decide)]
    exact (congrArg (· &&& headerNoCrc) (written_head_low pev.head)).trans checked
  have bodies : corrupted.drop 1 ≠ (eventFrame pkttype pev).drop 1 := by
    intro equal
    apply changed
    have lead := kept 0 (by simp)
    apply List.ext_getElem?
    intro i
    cases i with
    | zero => exact lead
    | succ i => simpa [Nat.add_comm] using congrArg (fun l => l[i]?) equal
  obtain ⟨front, a, b, back, left, right, same, short⟩ := burst
  have nonzero := crc_burst_detected _ _ front a b back left right same short (Ne.symm bodies)
  rw [event_frame_crc] at nonzero
  simp only [frameChecks, sizeField, flag, ne_eq, not_true_eq_false, false_and, if_false]
  rw [frame_body_at _ _ _ _ sameLength (frame_size_positive _)]
  split
  · rfl
  · simpa using Ne.symm nonzero

theorem corrupted_frame_rejected (clock : Clock) (frame written : Bytes) (beyond : Memory) (pkttype : UInt8)
    (pev : VscpEvent) (len : Nat) (write : writeEventToFrame frame pkttype pev = some written)
    (checked : pev.head.toUInt8 &&& headerNoCrc = 0) :
    let sent := written.take (frameSize pev.sizeData)
    let behind := written.drop (frameSize pev.sizeData)
    (∀ position fresh, 1 ≤ position → fresh.length ≤ 2 → position + fresh.length ≤ sent.length →
      (∀ i ∈ [posHeadLsb, posSizeMsb, posSizeMsb + 1], i < position ∨ position + fresh.length ≤ i) →
      replaceBytes sent position fresh ≠ sent →
      getEventFromFrame clock (ofBytes (replaceBytes sent position fresh ++ behind) beyond) len = none) ∧
    (∀ corrupted, BurstError 16 (sent.drop 1) (corrupted.drop 1) →
      (∀ i ∈ [0, posHeadLsb, posSizeMsb, posSizeMsb + 1], corrupted[i]? = sent[i]?) → corrupted ≠ sent →
      getEventFromFrame clock (ofBytes (corrupted ++ behind) beyond) len = none) := by
  obtain ⟨rfl, room⟩ := write_event_result frame pkttype pev written write
  have long := event_frame_length pkttype pev
  rw [List.take_append_of_le_length (by omega), List.take_of_length_le (by omega)]
  have rejects (corrupted : Bytes) (burst : BurstError 16 ((eventFrame pkttype pev).drop 1) (corrupted.drop 1))
      (kept : ∀ i ∈ [0, posHeadLsb, posSizeMsb, posSizeMsb + 1], corrupted[i]? = (eventFrame pkttype pev)[i]?)
      (changed : corrupted ≠ eventFrame pkttype pev) (behind : Bytes) :
      getEventFromFrame clock (ofBytes (corrupted ++ behind) beyond) len = none := by
    rw [getEventFromFrame, if_pos]
    simp [burst_fails_checks pkttype pev corrupted behind beyond len checked burst kept changed]
  refine ⟨?_, fun corrupted burst kept changed => rejects corrupted burst kept changed _⟩
  intro position fresh after short inside outside changed
  have burst := replace_bytes_burst _ fresh position after inside
  have narrow : BurstError 16 ((eventFrame pkttype pev).drop 1)
      ((replaceBytes (eventFrame pkttype pev) position fresh).drop 1) := by
    obtain ⟨front, a, b, back, left, right, same, fits⟩ := burst
    exact ⟨front, a, b, back, left, right, same, by omega⟩
  apply rejects _ narrow _ changed
  intro i member
  apply replace_bytes_kept _ _ _ _ inside
  rcases List.mem_cons.mp member with lead | steering
  · exact Or.inl (by omega)
  · exact outside i steering

theorem corrupted_frame_rejected_example :
    let sent := eventFrame 0 exampleEvent
    (∀ position fresh, 1 ≤ position → fresh.length ≤ 2 → position + fresh.length ≤ sent.length →
      (∀ i ∈ [posHeadLsb, posSizeMsb, posSizeMsb + 1], i < position ∨ position + fresh.length ≤ i) →
      replaceBytes sent position fresh ≠ sent →
      getEventFromFrame exampleClock (ofBytes (replaceBytes sent position fresh ++ []) fun _ => 0) 41 = none) ∧
    (∀ corrupted, BurstError 16 (sent.drop 1) (corrupted.drop 1) →
      (∀ i ∈ [0, posHeadLsb, posSizeMsb, posSizeMsb + 1], corrupted[i]? = sent[i]?) → corrupted ≠ sent →
      getEventFromFrame exampleClock (ofBytes (corrupted ++ []) fun _ => 0) 41 = none) :=
  corrupted_frame_rejected exampleClock (List.replicate 41 0) (eventFrame 0 exampleEvent) (fun _ => 0) 0 exampleEvent
    41 (by decide +kernel) (by decide)

end Vscp
