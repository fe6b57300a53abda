import Vscp.Datagram

set_option autoImplicit false

namespace Vscp.Datagram

open ByteMemory BlockMode

-- The frame ends with the first half of the HMAC of what stands before.
def TagHolds (ssl : OpenSsl) (hmacKey : Key) (frame : Bytes) : Prop :=
  ∃ digest, frameHmac ssl (frame.take (frame.length - 16)) hmacKey = some digest ∧
    digest.take 16 = frame.drop (frame.length - 16)

def decipherFrame (aes : BlockCipher) (key : Key) (tail : Nat) (frame : Bytes) : Option Bytes :=
  match getOpenSslCipherFromAlgorithm (frame.getD 0 0 &&& (0x0f : UInt8)) with
  | none => none
  | some type =>
      let iv : Block := readBlock (ofBytes frame fun _ => 0) (frame.length - tail)
      (unpad 16 (cbcDecryptBytes aes type key iv ((frame.drop 1).take (frame.length - tail - 1)))).map fun body =>
        frame.getD 0 0 :: body

def plaintextFrame (aes : BlockCipher) (settings : Settings) (datagram : Bytes) : Option Bytes :=
  if settings.hmacKey ≠ none then decipherFrame aes settings.key.toList 32 (datagram.drop Binary.headerSize)
  else if datagram.getD 0 0 &&& (0x0f : UInt8) = 0 then some datagram
  else decipherFrame aes settings.key.toList 16 datagram

-- The CRC where the size field of the event frame says it is, with the exemption of an event without CRC.
def EventCrcHolds (frame : Memory) : Prop :=
  let size := frameSize (read16 frame posSizeMsb)
  (frame posHeadLsb &&& headerNoCrc ≠ 0 ∧ noCrcCalcDummyCrc = read16 frame (size - 2)) ∨
    crcFast (bytesAt frame 1 (size - 1)) = 0

def CrcHolds (settings : Settings) (datagram frame : Bytes) : Prop :=
  EventCrcHolds (ofBytes frame fun _ => 0) ∧
    (settings.hmacKey ≠ none ∨ datagram.getD 0 0 &&& (0x0f : UInt8) ≠ 0 → TrailingCrc frame)

def ChecksHold (ssl : OpenSsl) (aes : BlockCipher) (settings : Settings) (datagram : Bytes) : Prop :=
  (∀ hmacKey, settings.hmacKey = some hmacKey → TagHolds ssl hmacKey.toList (datagram.drop Binary.headerSize)) ∧
    ∃ frame, plaintextFrame aes settings datagram = some frame ∧ CrcHolds settings datagram frame

theorem opened_blocks (lead : UInt8) (plain shown : Bytes) (opened : openBlocks lead plain = some shown) :
    ∃ body zeros, unpad 16 plain = some body ∧ TrailingCrc (lead :: body) ∧
      shown = lead :: body ++ List.replicate zeros 0 ∧ shown.length = plain.length + 1 := by
  unfold openBlocks openBody at opened
  obtain ⟨frame, found, same⟩ := Option.map_eq_some_iff.mp opened
  obtain ⟨body, unpadded, checked⟩ := Option.bind_eq_some_iff.mp found
  split at checked
  · rename_i good
    obtain rfl := Option.some.inj checked
    have shorter := unpad_shorter 16 plain body unpadded
    refine ⟨body, _, unpadded, good.2, same.symm, ?_⟩
    rw [← same, List.length_append, List.length_replicate, List.length_cons]
    omega
  · cases checked

theorem checked_frame (buffer : Memory) (len : Nat) (checks : frameChecks buffer len = true) :
    frameSize (read16 buffer posSizeMsb) ≤ len ∧ EventCrcHolds buffer := by
  simp only [frameChecks] at checks
  split at checks
  · cases checks
  rename_i long
  refine ⟨by omega, ?_⟩
  split at checks
  · rename_i exempt
    exact Or.inl exempt
  · exact Or.inr (beq_iff_eq.mp checks)

theorem event_crc_local (left right : Memory) (len : Nat) (same : ∀ i, i < len → left i = right i)
    (inside : frameSize (read16 left posSizeMsb) ≤ len) (crc : EventCrcHolds left) : EventCrcHolds right := by
  have header : 38 ≤ frameSize (read16 left posSizeMsb) := by
    unfold frameSize headerLength
    omega
  have sizes : read16 right posSizeMsb = read16 left posSizeMsb := by
    rw [read16, read16, same _ (by unfold posSizeMsb; omega), same _ (by unfold posSizeMsb; omega)]
  have flags : right posHeadLsb = left posHeadLsb := (same _ (by unfold posHeadLsb; omega)).symm
  simp only [EventCrcHolds, sizes, flags] at crc ⊢
  generalize frameSize (read16 left posSizeMsb) = size at *
  have words : read16 right (size - 2) = read16 left (size - 2) := by
    rw [read16, read16, same _ (by omega), same _ (by omega)]
  have bytes : bytesAt right 1 (size - 1) = bytesAt left 1 (size - 1) := by
    apply List.map_congr_left
    intro i member
    have bound := List.mem_range.mp member
    exact (same _ (by omega)).symm
  rw [words, bytes]
  exact crc

theorem crc_without_zeros (shown frame rest : Bytes) (zeros : Nat) (parts : shown = frame ++ List.replicate zeros 0)
    (inside : frameSize (read16 (ofBytes (shown ++ rest) fun _ => 0) posSizeMsb) ≤ shown.length)
    (crc : EventCrcHolds (ofBytes (shown ++ rest) fun _ => 0)) : EventCrcHolds (ofBytes frame fun _ => 0) := by
  refine event_crc_local _ _ _ ?_ inside crc
  intro i bound
  rw [of_bytes_front _ _ _ _ bound, parts]
  by_cases front : i < frame.length
  · rw [of_bytes_front _ _ _ _ front]
  · have behind : frame.length ≤ i := Nat.not_lt.mp front
    simp [ofBytes, List.getElem?_append_right behind, List.getElem?_eq_none behind, List.getElem?_replicate]
    split <;> rfl

-- The data block of a queued event is as long as its size field says, at most 512 bytes.
def WellFormed (ev : VscpEvent) : Prop :=
  ev.sizeData.toNat ≤ maxData ∧ (ev.sizeData ≠ 0 → ∃ data, ev.pdata = some data ∧ data.length = ev.sizeData.toNat) ∧
    (ev.sizeData = 0 → ev.pdata = none)

theorem read_frame_result (clock : Clock) (settings : Settings) (datagram frame : Bytes) (ev : VscpEvent)
    (read : readFrame clock settings datagram frame = some ev) :
    let buffer := ofBytes (frame ++ datagram.drop frame.length) fun _ => 0
    frameSize (read16 buffer posSizeMsb) ≤ frame.length ∧ EventCrcHolds buffer ∧ WellFormed ev := by
  intro buffer
  simp only [readFrame] at read
  split at read
  · cases read
  split at read
  · cases read
  rename_i small
  split at read
  · cases read
  obtain ⟨checks, size, data⟩ := decoded_event clock buffer _ ev read
  obtain ⟨inside, crc⟩ := checked_frame buffer _ checks
  refine ⟨inside, crc, ?_, ?_, ?_⟩
  · rw [size]
    exact Nat.not_lt.mp small
  · intro filled
    rw [size] at filled
    refine ⟨bytesAt buffer posData (read16 buffer posSizeMsb).toNat, ?_, ?_⟩
    · simp only [data, frameData, if_neg filled]
    · rw [bytes_at_length, size]
  · intro empty
    rw [size] at empty
    simp only [data, frameData, if_pos empty]

section Documented

variable (ssl : OpenSsl) (aes : BlockCipher) (documented : DocumentedCbc ssl aes)

include documented

theorem legacy_opened (useOpenSsl : Bool) (target : Memory) (datagram shown : Bytes) (key : Key)
    (small : datagram.length ≤ bufferSize) (ciphered : datagram.getD 0 0 &&& (0x0f : UInt8) ≠ 0)
    (opened : decryptFrame ssl aes useOpenSsl target datagram (some key) none encryptionFromTypeByte = some shown) :
    ∃ frame zeros, decipherFrame aes key 16 datagram = some frame ∧ TrailingCrc frame ∧
      shown = frame ++ List.replicate zeros 0 ∧ shown.length = datagram.length - 16 := by
  unfold bufferSize at small
  rw [decrypt_frame_opens ssl aes documented _ _ _ _ _ _ (by rw [if_pos rfl]; omega)] at opened
  cases datagram with
  | nil => cases opened
  | cons lead rest =>
      have algorithm := named_algorithm encryptionFromTypeByte (lead :: rest) (Or.inl rfl)
      rw [List.getD_cons_zero] at ciphered algorithm
      have secret : ¬ lead &&& (0x0f : UInt8) = encryptionNone := ciphered
      simp only [decryptFrameWith, algorithm, if_neg secret, true_and, if_true, Option.getD_none] at opened
      split at opened
      · cases opened
      split at opened
      · cases opened
      rename_i long whole
      cases cipher : getOpenSslCipherFromAlgorithm (lead &&& (0x0f : UInt8)) with
      | none => simp only [cipher, reduceCtorEq] at opened
      | some type =>
          simp only [cipher, cbcOpen, Option.bind_some] at opened
          have size : (((lead :: rest).drop 1).take ((lead :: rest).length - 16 - 1)).length =
              (lead :: rest).length - 16 - 1 := by
            rw [List.length_take, List.length_drop]
            omega
          generalize ciphertext : ((lead :: rest).drop 1).take ((lead :: rest).length - 16 - 1) = data at opened size
          generalize block : (readBlock (ofBytes (lead :: rest) fun _ => 0) ((lead :: rest).length - 16) : Block) = iv
            at opened
          have plain := cbc_decrypt_bytes_length aes type key iv data (by omega)
          have reached : (lead :: rest).length - 16 = (cbcDecryptBytes aes type key iv data).length + 1 := by omega
          rw [reached, validate_decrypted_frame lead _ (by omega) (by omega)] at opened
          obtain ⟨body, zeros, unpadded, crc, same, total⟩ := opened_blocks lead _ shown opened
          refine ⟨lead :: body, zeros, ?_, crc, same, by omega⟩
          simp only [decipherFrame, List.getD_cons_zero, cipher, ciphertext, block, unpadded, Option.map_some]

theorem authenticated_opened (capacity : Nat) (wire frame : Bytes) (key hmacKey : Key)
    (opened : decryptFrameV1 ssl capacity wire (some key) (some hmacKey) = some frame) :
    TagHolds ssl hmacKey wire ∧ decipherFrame aes key 32 wire = some frame ∧ TrailingCrc frame := by
  cases wire with
  | nil => cases opened
  | cons lead rest =>
      simp only [decryptFrameV1, List.getD_cons_zero] at opened
      split at opened
      · cases opened
      rename_i shape
      cases cipher : getOpenSslCipherFromAlgorithm (lead &&& (0x0f : UInt8)) with
      | none => simp only [cipher, reduceCtorEq] at opened
      | some type =>
          cases mac : frameHmac ssl ((lead :: rest).take ((lead :: rest).length - 16)) hmacKey with
          | none => simp only [cipher, mac, reduceCtorEq] at opened
          | some digest =>
              simp only [cipher, mac] at opened
              split at opened
              · cases opened
              rename_i tag
              rw [not_not] at tag
              have lengths : (lead :: rest).length - 32 - 1 = (lead :: rest).length - 33 := by omega
              have size : (((lead :: rest).drop 1).take ((lead :: rest).length - 33)).length =
                  (lead :: rest).length - 33 := by
                rw [List.length_take, List.length_drop]
                omega
              simp only [decipherFrame, List.getD_cons_zero, cipher, lengths]
              generalize ((lead :: rest).drop 1).take ((lead :: rest).length - 33) = data at opened size ⊢
              generalize (readBlock (ofBytes (lead :: rest) fun _ => 0) ((lead :: rest).length - 32) : Block) = iv
                at opened ⊢
              have plainSize := cbc_decrypt_bytes_length aes type key iv data (by omega)
              have whole := pkcs7_unpad_whole (cbcDecryptBytes aes type key iv data) (by omega)
              rw [plainSize, size] at whole
              rw [evp_decrypt_whole ssl aes documented type data key iv (by omega) (by omega)] at opened
              simp only [Option.bind_eq_bind, Option.bind_some, whole] at opened
              refine ⟨⟨digest, mac, tag⟩, ?_⟩
              cases unpadded : unpad 16 (cbcDecryptBytes aes type key iv data) with
              | none => simp only [unpadded, Option.map_none, Option.bind_none, reduceCtorEq] at opened
              | some body =>
                  have shorter := unpad_shorter 16 _ body unpadded
                  have valid := valid_frame_crc_tail lead body (data.length - body.length) (by omega)
                  rw [size] at valid
                  simp only [unpadded, Option.map_some, Option.bind_some, List.take_succ_cons, List.take_zero,
                    List.cons_append, List.nil_append, valid] at opened
                  split at opened
                  · cases opened
                  rename_i good
                  rw [not_or, not_not] at good
                  rw [List.take_left' rfl] at opened
                  obtain rfl := Option.some.inj opened
                  exact ⟨rfl, good.1.2⟩

theorem accepted_checks (useOpenSsl : Bool) (settings : Settings) (clock : Clock) (datagram : Bytes) (ev : VscpEvent)
    (read : readDatagram ssl aes useOpenSsl settings clock datagram = some ev) :
    ChecksHold ssl aes settings datagram ∧ WellFormed ev := by
  simp only [readDatagram] at read
  split at read
  · cases read
  rename_i received
  have whole : datagram.take (bufferSize + 1) = datagram := by
    apply List.take_of_length_le
    rw [not_or, List.length_take] at received
    omega
  rw [whole] at read received
  obtain ⟨shown, opened, decoded⟩ := Option.bind_eq_some_iff.mp read
  obtain ⟨inside, crc, formed⟩ := read_frame_result clock settings datagram shown ev decoded
  refine ⟨?_, formed⟩
  unfold openDatagram at opened
  cases keyed : settings.hmacKey with
  | some hmacKey =>
      simp only [keyed] at opened
      split at opened
      · cases opened
      obtain ⟨tag, plain, trailing⟩ := authenticated_opened ssl aes documented _ _ _ _ _ opened
      refine ⟨?_, shown, ?_, ?_, fun _ => trailing⟩
      · intro chosen same
        rw [keyed] at same
        rw [← Option.some.inj same]
        exact tag
      · rw [plaintextFrame, if_pos (by rw [keyed]; exact Option.some_ne_none _), plain]
      · exact crc_without_zeros shown shown _ 0 (List.append_nil _).symm inside crc
  | none =>
      have noTag : ∀ hmacKey, settings.hmacKey = some hmacKey →
          TagHolds ssl hmacKey.toList (datagram.drop Binary.headerSize) := by
        intro hmacKey same
        rw [keyed] at same
        cases same
      simp only [keyed] at opened
      split at opened
      · rename_i clear
        obtain rfl := Option.some.inj opened
        refine ⟨noTag, datagram, ?_, ?_, fun ciphered => ?_⟩
        · rw [plaintextFrame, if_neg (not_not.mpr keyed), if_pos clear]
        · exact crc_without_zeros datagram datagram _ 0 (List.append_nil _).symm inside crc
        · exact (ciphered.elim (absurd keyed) (absurd clear))
      · rename_i ciphered
        split at opened
        · cases opened
        obtain ⟨decrypted, sealed, same⟩ := Option.map_eq_some_iff.mp opened
        obtain ⟨frame, zeros, plain, trailing, parts, size⟩ := legacy_opened ssl aes documented useOpenSsl _ datagram
          decrypted settings.key.toList (by omega) ciphered sealed
        have all := bytes_at_prefix decrypted [] (fun _ => 0) _ size.symm
        rw [List.append_nil] at all
        rw [all] at same
        refine ⟨noTag, frame, ?_, crc_without_zeros shown frame _ zeros (by rw [← same, parts]) inside crc,
          fun _ => trailing⟩
        rw [plaintextFrame, if_neg (not_not.mpr keyed), if_neg ciphered, plain]

end Documented

end Vscp.Datagram
