import Vscp.SealedFrame
import Vscp.Lib.Fifo
import Vscp.Lib.Run

set_option autoImplicit false

namespace Vscp.Datagram

open ByteMemory BlockMode

def bufferSize : Nat := 1024
def minimumFrameSize : Nat := 1 + headerLength + 2

-- What a client hands to a send and to its receive loop. The two configured
-- members are the copies an authenticated client compares the others with.
structure Settings where
  encryptType : UInt8
  key : Vector UInt8 32
  configuredKeyLength : UInt8
  hmacKey : Option (Vector UInt8 32)
  configuredEncryption : UInt8
  configuredKey : Vector UInt8 32
deriving DecidableEq

def aesKeyLength (encryption : UInt8) : UInt8 :=
  if encryption = 1 then 16
  else if encryption = 2 then 24
  else if encryption = 3 then 32
  else 0

def authenticatedKeysValid (encryption : UInt8) (key : Vector UInt8 32) (keyLength : UInt8)
    (hmacKey : Vector UInt8 32) : Bool :=
  let expectedLength := aesKeyLength encryption
  expectedLength ≠ 0 ∧ keyLength = expectedLength ∧
    key.toList.take expectedLength.toNat ≠ hmacKey.toList.take expectedLength.toNat

def authenticationStateValid (settings : Settings) (hmacKey : Vector UInt8 32) : Bool :=
  settings.encryptType = settings.configuredEncryption ∧ settings.key = settings.configuredKey ∧
    authenticatedKeysValid settings.encryptType settings.key settings.configuredKeyLength hmacKey

def unauthenticated (settings : Settings) : Bool :=
  match settings.hmacKey with
  | none => false
  | some hmacKey => ¬ authenticationStateValid settings hmacKey

def sealFrame (ssl : OpenSsl) (aes : BlockCipher) (useOpenSsl : Bool) (random : Option Block) (settings : Settings)
    (frame : Bytes) : Option Bytes :=
  match settings.hmacKey with
  | some hmacKey =>
      (Binary.encode ssl random frame settings.encryptType (some settings.key.toList) Binary.authenticatedVersion
        (some hmacKey.toList)).filter fun wire => wire.length ≤ bufferSize
  | none =>
      if settings.encryptType ≠ encryptionNone then
        (encryptFrame ssl aes useOpenSsl random (fun _ => 0) frame (some settings.key.toList) none
          settings.encryptType).filter fun encrypted => encrypted.length ≤ bufferSize
      else some frame

def sendEvent (ssl : OpenSsl) (aes : BlockCipher) (useOpenSsl : Bool) (random : Option Block) (settings : Settings)
    (connected stillConnected : Bool) (sent : Int) (event : VscpEvent) : Except VscpError Bytes :=
  if ¬ connected then .error .notConnected
  else if event.sizeData.toNat > maxData ∨ (event.sizeData ≠ 0 ∧ event.pdata = none) then .error .invalidFrame
  else if settings.encryptType > encryptionAes256 then .error .invalidFrame
  else if unauthenticated settings then .error .invalidFrame
  else
    let frameLength := frameSize event.sizeData
    if frameLength > bufferSize - 32 then .error .invalidFrame
    else
      match writeEventToFrame (List.replicate bufferSize 0) 0 event with
      | none => .error .invalidFrame
      | some frame =>
          match sealFrame ssl aes useOpenSsl random settings (frame.take frameLength) with
          | none => .error .invalidFrame
          | some wire =>
              if ¬ stillConnected then .error .notConnected
              else if sent < 0 ∨ sent.toNat ≠ wire.length then .error .communication
              else .ok wire

def authenticatedHeader (settings : Settings) (hmacKey : Vector UInt8 32) (datagram : Bytes) : Bool :=
  let header := Binary.parseHeader (ofBytes datagram fun _ => 0)
  let lead := datagram.getD Binary.headerSize 0
  authenticationStateValid settings hmacKey ∧ Binary.headerSize + 1 ≤ datagram.length ∧ header.accepted ∧
    header.version = Binary.authenticatedVersion ∧ header.length = datagram.length - Binary.headerSize ∧
    packetType lead ≤ multicastTypeEvent1 ∧ lead &&& (0x0f : UInt8) = settings.encryptType

-- The first `frameLength` bytes of the loop's buffer when it comes to the event
-- frame, none where it goes on with the next datagram.
def openDatagram (ssl : OpenSsl) (aes : BlockCipher) (useOpenSsl : Bool) (settings : Settings) (datagram : Bytes) :
    Option Bytes :=
  match settings.hmacKey with
  | some hmacKey =>
      if ¬ authenticatedHeader settings hmacKey datagram then none
      else decryptFrameV1 ssl bufferSize (datagram.drop Binary.headerSize) (some settings.key.toList)
        (some hmacKey.toList)
  | none =>
      if datagram.getD 0 0 &&& (0x0f : UInt8) = 0 then some datagram
      else if datagram.length < 1 + 16 + 16 then none
      else
        (decryptFrame ssl aes useOpenSsl (fun _ => 0) datagram (some settings.key.toList) none
          encryptionFromTypeByte).map fun decrypted =>
            bytesAt (ofBytes decrypted fun _ => 0) 0 (datagram.length - 16)

-- The event frame behind it; the rest of the buffer still holds the datagram.
def readFrame (clock : Clock) (settings : Settings) (datagram frame : Bytes) : Option VscpEvent :=
  let buffer := ofBytes (frame ++ datagram.drop frame.length) fun _ => 0
  let dataSize := (read16 buffer posSizeMsb).toNat
  if frame.length < minimumFrameSize then none
  else if dataSize > maxData then none
  else if settings.hmacKey ≠ none ∧ frame.length ≠ minimumFrameSize + dataSize then none
  else getEventFromFrame clock buffer frame.length

def readDatagram (ssl : OpenSsl) (aes : BlockCipher) (useOpenSsl : Bool) (settings : Settings) (clock : Clock)
    (datagram : Bytes) : Option VscpEvent :=
  let received := datagram.take (bufferSize + 1)
  if received = [] ∨ received.length > bufferSize then none
  else (openDatagram ssl aes useOpenSsl settings received).bind (readFrame clock settings received)

structure SameOnWire (left right : VscpEvent) : Prop where
  head : left.head = right.head
  timestampNs : left.timestampNs = right.timestampNs
  vscpClass : left.vscpClass = right.vscpClass
  vscpType : left.vscpType = right.vscpType
  guid : left.guid = right.guid
  sizeData : left.sizeData = right.sizeData
  data : left.pdata.getD [] = right.pdata.getD []

theorem send_event_result (ssl : OpenSsl) (aes : BlockCipher) (useOpenSsl : Bool) (random : Option Block)
    (settings : Settings) (connected stillConnected : Bool) (sent : Int) (event : VscpEvent) (wire : Bytes)
    (success : sendEvent ssl aes useOpenSsl random settings connected stillConnected sent event = .ok wire) :
    event.sizeData.toNat ≤ maxData ∧ settings.encryptType ≤ encryptionAes256 ∧ unauthenticated settings = false ∧
      sealFrame ssl aes useOpenSsl random settings (eventFrame 0 event) = some wire := by
  unfold sendEvent at success
  split at success
  · cases success
  split at success
  · cases success
  rename_i fit
  split at success
  · cases success
  rename_i known
  split at success
  · cases success
  rename_i authenticated
  dsimp only at success
  split at success
  · cases success
  cases written : writeEventToFrame (List.replicate bufferSize 0) 0 event with
  | none => simp only [written, reduceCtorEq] at success
  | some frame =>
      obtain ⟨rfl, room⟩ := write_event_result _ _ _ _ written
      have front := event_frame_length 0 event
      simp only [written, List.take_left' front] at success
      cases sealing : sealFrame ssl aes useOpenSsl random settings (eventFrame 0 event) with
      | none => simp only [sealing, reduceCtorEq] at success
      | some bytes =>
          simp only [sealing] at success
          split_ifs at success
          cases success
          exact ⟨by omega, UInt8.not_lt.mp known, Bool.eq_false_iff.mpr authenticated, rfl⟩

theorem encode_v1_result (ssl : OpenSsl) (random : Option Block) (frame : Bytes) (encryption : UInt8)
    (key hmacKey : Option Key) (wire : Bytes)
    (encoded : Binary.encode ssl random frame encryption key Binary.authenticatedVersion hmacKey = some wire) :
    ∃ room framed, encryptFrameV1 ssl random room (encryptLead (frame.getD 0 0) encryption :: frame.drop 1) key hmacKey
        none encryption = some framed ∧
      wire = Binary.syncByte :: (bytes16 (Binary.headerWord Binary.authenticatedVersion framed.length) ++ framed) := by
  unfold Binary.encode at encoded
  split at encoded
  · cases encoded
  dsimp only at encoded
  obtain ⟨framed, sent, same⟩ := Option.map_eq_some_iff.mp encoded
  unfold Binary.encryptForWire at sent
  rw [if_pos rfl] at sent
  split at sent
  · cases sent
  split at sent
  · cases sent
  rename_i sealing _
  exact ⟨_, framed, sealing.trans sent, same.symm⟩

section Documented

variable (ssl : OpenSsl) (aes : BlockCipher) (documented : DocumentedCbc ssl aes)

include documented

variable (useOpenSsl peerOpenSsl : Bool) (random : Option Block) (settings : Settings)

theorem ciphered_opens (event : VscpEvent) (wire : Bytes) (clear : settings.hmacKey = none)
    (known : settings.encryptType ≤ encryptionAes256) (ciphered : settings.encryptType ≠ encryptionNone)
    (sealing : sealFrame ssl aes useOpenSsl random settings (eventFrame 0 event) = some wire) :
    wire ≠ [] ∧ wire.length ≤ bufferSize ∧ ∃ zeros,
      openDatagram ssl aes peerOpenSsl settings wire =
        some (eventFrame settings.encryptType event ++ List.replicate zeros 0) := by
  have long := event_frame_body_length event
  have bound := event.sizeData.toNat_lt
  have lead := event_lead_encrypted 0 settings.encryptType known
  have crc := event_frame_trailing_crc (eventLead 0) event
  have padded : (pad 16 ((eventLead 0 :: eventFrameBody event).drop 1)).length < 2 ^ 31 := by
    rw [List.drop_one, List.tail_cons, padded_length 16 _ (by decide)]
    omega
  simp only [sealFrame, clear, if_pos ciphered, Option.filter_eq_some_iff, decide_eq_true_eq] at sealing
  obtain ⟨encrypted, fits⟩ := sealing
  rw [event_frame_parts] at encrypted
  obtain ⟨chosen, rfl⟩ : ∃ chosen, random = some chosen := by
    cases random with
    | some chosen => exact ⟨chosen, rfl⟩
    | none =>
        rw [encrypt_frame_seals ssl aes documented useOpenSsl none _ _ _ none settings.encryptType padded] at encrypted
        simp only [encryptFrameWith, Binary.resolve_named _ _ known, if_neg ciphered, getEncryptionIv,
          Option.bind_eq_bind, Option.bind_none, Option.bind_fun_none] at encrypted
        split at encrypted <;> cases encrypted
  obtain ⟨rest, sent, size, opens⟩ := sealed_frame_opens ssl aes documented useOpenSsl (some chosen) none (fun _ => 0)
    (eventLead 0) (eventFrameBody event) settings.key.toList settings.encryptType chosen known (by omega) (by omega) rfl
  rw [lead] at sent size opens
  rw [sent] at encrypted
  obtain rfl := Option.some.inj encrypted
  have opened := opens peerOpenSsl (fun _ => 0) encryptionFromTypeByte (Or.inl rfl)
  rw [if_pos crc, ← List.cons_append, ← event_frame_parts] at opened
  rw [sealedSize, if_neg ciphered] at size
  have ciphers : ¬ settings.encryptType = 0 := ciphered
  refine ⟨List.cons_ne_nil _ _, fits, sealedZeros settings.encryptType (eventFrameBody event).length, ?_⟩
  have whole : (eventFrame settings.encryptType event ++
      List.replicate (sealedZeros settings.encryptType (eventFrameBody event).length) 0).length =
        1 + ((eventFrameBody event).length / 16 + 1) * 16 := by
    rw [← padded_length 16 _ (by decide), pad, event_frame_parts, sealedZeros, if_neg ciphered]
    simp only [List.length_cons, List.length_append, List.length_replicate]
    omega
  have all := bytes_at_prefix _ [] (fun _ => 0) _ whole.symm
  rw [List.append_nil] at all
  simp only [openDatagram, clear, List.getD_cons_zero, event_lead_nibble _ known, size, opened]
  rw [if_neg ciphers, if_neg (by omega), Option.map_some, Nat.add_sub_cancel, all]

theorem authenticated_opens (hmacKey : Vector UInt8 32) (event : VscpEvent) (wire : Bytes) (keyed : settings.hmacKey = some hmacKey)
    (known : settings.encryptType ≤ encryptionAes256) (small : event.sizeData.toNat ≤ maxData)
    (valid : unauthenticated settings = false)
    (sealing : sealFrame ssl aes useOpenSsl random settings (eventFrame 0 event) = some wire) :
    wire ≠ [] ∧ wire.length ≤ bufferSize ∧
      openDatagram ssl aes peerOpenSsl settings wire = some (eventFrame settings.encryptType event) := by
  have long := event_frame_body_length event
  have lead := event_lead_encrypted 0 settings.encryptType known
  have crc := event_frame_trailing_crc (eventLead settings.encryptType) event
  simp only [sealFrame, keyed, Option.filter_eq_some_iff, decide_eq_true_eq] at sealing
  obtain ⟨encoded, fits⟩ := sealing
  obtain ⟨header, _⟩ := Binary.encode_decode ssl aes documented random _ wire (fun _ => 0) _ _ _ _
    (event_frame_trailing_crc (eventLead 0) event) (show Binary.KnownType (eventLead 0) by decide)
    encoded
  obtain ⟨room, framed, sent, rfl⟩ := encode_v1_result ssl random _ _ _ _ wire encoded
  rw [event_frame_parts, List.getD_cons_zero, List.drop_one, List.tail_cons, lead] at sent
  obtain ⟨size, opened⟩ := authenticated_round_trip ssl aes documented random room bufferSize _ _ _ _ none
    settings.encryptType framed crc (by rw [long, bufferSize]; unfold maxData at small; omega) sent
  obtain ⟨_, _, _, chosen, digest, _, _, _, _, _, _, parts⟩ :=
    encrypt_v1_result ssl aes documented random room _ _ _ _ none _ framed sent
  rw [Binary.resolve_named _ _ known, event_lead_encrypted _ _ known] at opened parts
  rw [← event_frame_parts] at opened
  refine ⟨List.cons_ne_nil _ _, fits, ?_⟩
  generalize sentWire : Binary.syncByte ::
    (bytes16 (Binary.headerWord Binary.authenticatedVersion framed.length) ++ framed) = wire at *
  have behind : wire.drop Binary.headerSize = framed := by rw [← sentWire]; rfl
  have first : wire.getD Binary.headerSize 0 = eventLead settings.encryptType := by rw [← sentWire, parts]; rfl
  have total : wire.length = framed.length + Binary.headerSize := by rw [← sentWire]; rfl
  have authentic : authenticationStateValid settings hmacKey = true := by
    simpa [unauthenticated, keyed] using valid
  have accepted : authenticatedHeader settings hmacKey wire = true := by
    simp only [authenticatedHeader, header, behind, first, authentic, total, written_packet_type,
      event_lead_nibble _ known, decide_eq_true_eq, true_and, and_true]
    simp [size]
  simp only [openDatagram, keyed, accepted, behind, opened, not_true_eq_false, if_false]

theorem sent_opens (connected stillConnected : Bool) (sent : Int) (event : VscpEvent) (wire : Bytes)
    (success : sendEvent ssl aes useOpenSsl random settings connected stillConnected sent event = .ok wire) :
    wire ≠ [] ∧ wire.length ≤ bufferSize ∧ ∃ zeros, (settings.hmacKey ≠ none → zeros = 0) ∧
      openDatagram ssl aes peerOpenSsl settings wire =
        some (eventFrame settings.encryptType event ++ List.replicate zeros 0) := by
  obtain ⟨small, known, valid, sealing⟩ := send_event_result ssl aes useOpenSsl random settings _ _ sent event wire success
  cases keyed : settings.hmacKey with
  | some hmacKey =>
      obtain ⟨nonempty, fits, opened⟩ := authenticated_opens ssl aes documented useOpenSsl peerOpenSsl random settings
        hmacKey event wire keyed known small valid sealing
      exact ⟨nonempty, fits, 0, fun _ => rfl, by rw [opened, List.replicate_zero, List.append_nil]⟩
  | none =>
      by_cases ciphered : settings.encryptType = encryptionNone
      · have size := event_frame_length 0 event
        simp only [sealFrame, keyed, ciphered, ne_eq, not_true_eq_false, if_false, Option.some.injEq] at sealing
        subst sealing
        refine ⟨List.cons_ne_nil _ _, ?_, 0, fun _ => rfl, ?_⟩
        · unfold maxData at small
          rw [size, frameSize, headerLength, bufferSize]
          omega
        · have nibble : (eventFrame 0 event).getD 0 0 &&& (0x0f : UInt8) = 0 :=
            event_lead_nibble 0 (by decide)
          simp only [openDatagram, keyed, nibble, if_true, ciphered, List.replicate_zero, List.append_nil]
          rfl
      · obtain ⟨nonempty, fits, zeros, opened⟩ := ciphered_opens ssl aes documented useOpenSsl peerOpenSsl random
          settings event wire keyed known ciphered sealing
        exact ⟨nonempty, fits, zeros, fun keys => absurd rfl keys, opened⟩

omit documented in
theorem read_written_frame (clock : Clock) (settings : Settings) (datagram : Bytes) (pkttype : UInt8)
    (event : VscpEvent) (zeros : Nat) (small : event.sizeData.toNat ≤ maxData)
    (exact : settings.hmacKey ≠ none → zeros = 0) :
    readFrame clock settings datagram (eventFrame pkttype event ++ List.replicate zeros 0) =
      getEventFromFrame clock (writtenMemory pkttype event (List.replicate zeros 0 ++
        datagram.drop (eventFrame pkttype event ++ List.replicate zeros 0).length) fun _ => 0)
        (frameSize event.sizeData + zeros) := by
  have size : (eventFrame pkttype event ++ List.replicate zeros 0).length = frameSize event.sizeData + zeros := by
    rw [List.length_append, event_frame_length, List.length_replicate]
  have wide : frameSize event.sizeData = minimumFrameSize + event.sizeData.toNat := rfl
  have buffer : ofBytes (eventFrame pkttype event ++ List.replicate zeros 0 ++
      datagram.drop (eventFrame pkttype event ++ List.replicate zeros 0).length) (fun _ => 0) =
      writtenMemory pkttype event (List.replicate zeros 0 ++
        datagram.drop (eventFrame pkttype event ++ List.replicate zeros 0).length) fun _ => 0 := by
    rw [writtenMemory, List.append_assoc]
  simp only [readFrame, buffer, written_size]
  rw [size, if_neg (by omega), if_neg (by omega), if_neg]
  rintro ⟨keyed, differs⟩
  have none := exact keyed
  omega

theorem sent_event_read (useOpenSsl peerOpenSsl : Bool) (random : Option Block) (settings : Settings)
    (connected stillConnected : Bool) (sent : Int) (event : VscpEvent) (wire : Bytes) (clock : Clock)
    (success : sendEvent ssl aes useOpenSsl random settings connected stillConnected sent event = .ok wire)
    (unixNs : frameVersion event.head = frameVersionUnixNs) (stamped : event.timestampNs ≠ 0)
    (holds : (event.pdata.getD []).length = event.sizeData.toNat) :
    ∃ ev, readDatagram ssl aes peerOpenSsl settings clock wire = some ev ∧ SameOnWire ev event := by
  obtain ⟨small, _⟩ := send_event_result ssl aes useOpenSsl random settings _ _ sent event wire success
  obtain ⟨nonempty, fits, zeros, exact, opened⟩ := sent_opens ssl aes documented useOpenSsl peerOpenSsl random settings
    _ _ sent event wire success
  have whole : wire.take (bufferSize + 1) = wire := List.take_of_length_le (by omega)
  have same : eventTimestampNs event = event.timestampNs := if_pos unixNs
  simp only [readDatagram, whole, nonempty, false_or, opened, Option.bind_some]
  rw [if_neg (by omega), read_written_frame clock settings wire _ event zeros small exact,
    written_event _ _ _ _ clock _ (by omega)]
  refine ⟨_, rfl, written_head event.head unixNs, ?_, rfl, rfl, rfl, rfl, ?_⟩
  · simp only [same, if_neg stamped]
  · by_cases empty : event.sizeData = 0
    · rw [empty] at holds
      simp only [empty, if_true, Option.getD_none, List.length_eq_zero_iff.mp holds]
    · simp only [if_neg empty, Option.getD_some, data_bytes_exact event holds]

end Documented

end Vscp.Datagram
