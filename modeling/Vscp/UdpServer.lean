import Vscp.SealedFrame

set_option autoImplicit false

namespace Vscp.Udp

open ByteMemory BlockMode

-- The packet macros and the buffer size udpsrv.cpp takes from a header that is not in the tree.
structure Packet where
  setMulticastType : UInt8 → UInt8 → UInt8
  getMulticastPacketEncryption : UInt8 → UInt8
  frame0Max : Nat

-- As the macros of vscp.h for the other binary packets have it: the type in the
-- high nibble, the encryption in the low one.
structure Packet.Documented (packet : Packet) : Prop where
  sets : ∀ type encryption, packet.setMulticastType type encryption = (type <<< (4 : UInt8)) ||| encryption
  gets : ∀ lead, packet.getMulticastPacketEncryption lead = lead &&& (0x0f : UInt8)

structure RemoteClient where
  index : UInt8
  nEncryption : UInt8
  clientInputQueue : List VscpEvent
deriving DecidableEq

-- `overrun` stands for the undefined behaviour of a datagram that does not fit the send buffer.
inductive SendResult
  | nothing
  | failed (code : VscpError)
  | overrun
  | sent (datagram : Bytes)
deriving DecidableEq

def writeRollingIndex (index : UInt8) (wrkbuf : Bytes) : Bytes :=
  wrkbuf.set posHeadLsb ((wrkbuf.getD posHeadLsb 0 &&& (0xf8 : UInt8)) ||| ((0x07 : UInt8) &&& index))

-- `sendbuf` is the uninitialized send buffer, `iv` what the random source left there.
def sendFrame (packet : Packet) (ssl : OpenSsl) (aes : BlockCipher) (useOpenSsl : Bool) (sendbuf : Memory)
    (systemKey : Option Key) (iv : Block) (client : RemoteClient) : RemoteClient × SendResult :=
  match client.clientInputQueue with
  | [] => (client, .nothing)
  | event :: rest =>
      let client := { client with clientInputQueue := rest }
      if event.sizeData.toNat > maxData then (client, .nothing)
      else
        match writeEventToFrame (List.replicate packet.frame0Max 0) (packet.setMulticastType 0 client.nEncryption)
          event with
        | none => (client, .failed .operationFailed)
        | some wrkbuf =>
            let wrkbuf := writeRollingIndex client.index wrkbuf
            let client := { client with index := client.index + 1 }
            let lenSend := 1 + headerLength + event.sizeData.toNat + 2
            match encryptFrame ssl aes useOpenSsl none sendbuf (wrkbuf.take lenSend) systemKey (some iv)
              client.nEncryption with
            | none => (client, .failed .operationFailed)
            | some datagram => (client, if datagram.length > packet.frame0Max then .overrun else .sent datagram)

structure Server where
  allowUnsecure : Bool
  filter : VscpEventFilter
  clientId : UInt32
  maxItemsInClientReceiveQueue : Nat
  clientOutputQueue : List VscpEvent
deriving DecidableEq

-- `arrived` is the datagram recvfrom answers with, none for its error; the
-- acknowledge frames that go back are left out.
def receiveFrame (packet : Packet) (ssl : OpenSsl) (aes : BlockCipher) (useOpenSsl : Bool) (systemKey : Option Key)
    (clock : Clock) (server : Server) (arrived : Option Bytes) : Server × Except VscpError Unit :=
  let received := (arrived.getD []).take packet.frame0Max
  let encryption := packet.getMulticastPacketEncryption (received.getD 0 0)
  if received.length < 1 + headerLength + 2 then (server, .error .error)
  else if ¬ server.allowUnsecure ∧ encryption = 0 then (server, .error .error)
  else
    match decryptFrame ssl aes useOpenSsl (ofBytes received fun _ => 0) received systemKey none encryption with
    | none => (server, .error .error)
    | some decrypted =>
        -- In place, and behind the decrypted bytes the datagram is still there.
        let rcvbuf := ofBytes (decrypted ++ received.drop decrypted.length) fun _ => 0
        match getEventFromFrame clock rcvbuf received.length with
        | none => (server, .error .error)
        | some event =>
            if doLevel2Filter event server.filter ∧
                server.maxItemsInClientReceiveQueue > server.clientOutputQueue.length then
              ({ server with clientOutputQueue := server.clientOutputQueue ++ [{ event with obid := server.clientId }] },
                .ok ())
            else (server, .ok ())

def sentHead (event : VscpEvent) : UInt16 := (event.head &&& ~~~frameVersionMask) ||| frameVersionUnixNs

theorem event_frame_body_parts (event : VscpEvent) : ∃ tail, eventFrameBody event =
    (sentHead event >>> 8).toUInt8 :: (sentHead event).toUInt8 ::
      (tail ++ bytes16 (crcFast ((sentHead event >>> 8).toUInt8 :: (sentHead event).toUInt8 :: tail))) := by
  refine ⟨(eventFrameContent 0 event).drop 3, ?_⟩
  rw [eventFrameBody, event_frame_body]
  rfl

theorem one_byte_crc (first left right : UInt8) (tail : Bytes) :
    crcFast (first :: left :: tail) = crcFast (first :: right :: tail) ↔ left = right := by
  constructor
  · intro same
    by_contra different
    apply crc_burst_detected (first :: left :: tail) (first :: right :: tail) (ShiftRegister.bitsOf first)
      (ShiftRegister.bitsOf left) (ShiftRegister.bitsOf right) (messageBits tail) _ _ _ _ _ same
    · simp [messageBits]
    · simp [messageBits]
    · rw [ShiftRegister.bits_of_length, ShiftRegister.bits_of_length]
    · rw [ShiftRegister.bits_of_length]; decide
    · intro equal
      exact different (by simpa using equal)
  · rintro rfl
    rfl

theorem rolling_index_kept (low index : UInt8) :
    (low &&& (0xf8 : UInt8)) ||| ((0x07 : UInt8) &&& index) = low ↔ low &&& (0x07 : UInt8) = index &&& (0x07 : UInt8) := by
  have every : ∀ i : Fin 256, ∀ j : Fin 8, (UInt8.ofFin i &&& (0xf8 : UInt8)) ||| UInt8.ofNat j.val = UInt8.ofFin i ↔
      UInt8.ofFin i &&& (0x07 : UInt8) = UInt8.ofNat j.val := by
    decide +kernel
  have small : ((0x07 : UInt8) &&& index).toNat < 8 := by
    rw [UInt8.toNat_and]
    exact Nat.lt_succ_of_le Nat.and_le_left
  have here := every low.toFin ⟨_, small⟩
  rw [UInt8.ofFin_toFin, UInt8.ofNat_toNat] at here
  rw [here, UInt8.and_comm index]

def stampedBody (index : UInt8) (event : VscpEvent) : Bytes :=
  (eventFrameBody event).set 1 (((eventFrameBody event).getD 1 0 &&& (0xf8 : UInt8)) ||| ((0x07 : UInt8) &&& index))

theorem written_index (pkttype index : UInt8) (event : VscpEvent) (rest : Bytes) :
    (writeRollingIndex index (eventFrame pkttype event ++ rest)).take (frameSize event.sizeData) =
      eventLead pkttype :: stampedBody index event := by
  have size := event_frame_length pkttype event
  have long := event_frame_body_length event
  rw [event_frame_parts, List.length_cons] at size
  obtain ⟨first, second, tail, parts⟩ : ∃ first second tail, eventFrameBody event = first :: second :: tail := by
    obtain ⟨tail, parts⟩ := event_frame_body_parts event
    exact ⟨_, _, _, parts⟩
  rw [event_frame_parts, stampedBody, parts]
  rw [parts] at size
  rw [writeRollingIndex]
  show (eventLead pkttype :: first :: _ :: (tail ++ rest)).take (frameSize event.sizeData) = _
  rw [← size]
  simp [posHeadLsb]

theorem stamped_body_length (index : UInt8) (event : VscpEvent) :
    (stampedBody index event).length = 37 + event.sizeData.toNat := by
  rw [stampedBody, List.length_set, event_frame_body_length]

theorem sent_head_low (event : VscpEvent) : (sentHead event).toUInt8 = event.head.toUInt8 := written_head_low event.head

theorem stamped_body_crc (lead index : UInt8) (event : VscpEvent) :
    TrailingCrc (lead :: stampedBody index event) ↔
      event.head.toUInt8 &&& (0x07 : UInt8) = index &&& (0x07 : UInt8) := by
  obtain ⟨tail, parts⟩ := event_frame_body_parts event
  rw [stampedBody, parts, sent_head_low, ← rolling_index_kept, ← one_byte_crc (sentHead event >>> 8).toUInt8 _ _ tail]
  exact trailing_crc_word lead (_ :: _ :: tail) _

theorem stamped_body_same (index : UInt8) (event : VscpEvent)
    (same : event.head.toUInt8 &&& (0x07 : UInt8) = index &&& (0x07 : UInt8)) :
    stampedBody index event = eventFrameBody event := by
  obtain ⟨tail, parts⟩ := event_frame_body_parts event
  rw [← sent_head_low, ← rolling_index_kept] at same
  rw [stampedBody, parts]
  simp only [List.getD_cons_succ, List.getD_cons_zero, List.set_cons_succ, List.set_cons_zero, same]

theorem or_masked (left right mask : UInt16) : (left ||| right) &&& mask = (left &&& mask) ||| (right &&& mask) := by
  apply UInt16.toBitVec_inj.mp
  apply BitVec.eq_of_getLsbD_eq
  intro i _
  simp only [UInt16.toBitVec_and, UInt16.toBitVec_or, BitVec.getLsbD_and, BitVec.getLsbD_or, Bool.and_or_distrib_right]

theorem sent_head_priority (event : VscpEvent) :
    (sentHead event >>> (5 : UInt16)) &&& (0x07 : UInt16) = (event.head >>> (5 : UInt16)) &&& (0x07 : UInt16) := by
  have kept : ((~~~frameVersionMask) >>> (5 : UInt16)) &&& (0x07 : UInt16) = 0x07 := by decide
  have low : (frameVersionUnixNs >>> (5 : UInt16)) &&& (0x07 : UInt16) = 0 := by decide
  rw [sentHead, UInt16.shiftRight_or, UInt16.shiftRight_and, or_masked, UInt16.and_assoc, kept, low, UInt16.or_zero]

theorem sent_head_version (event : VscpEvent) :
    sentHead event &&& 0xfff8 = event.head &&& 0xfff8 ↔ frameVersion event.head = frameVersionUnixNs := by
  constructor
  · intro same
    have masked := congrArg (· &&& frameVersionMask) same
    have mask : (0xfff8 : UInt16) &&& frameVersionMask = frameVersionMask := by decide
    have gone : ~~~frameVersionMask &&& frameVersionMask = 0 := by decide
    have kept : frameVersionUnixNs &&& frameVersionMask = frameVersionUnixNs := by decide
    simp only [UInt16.and_assoc, mask, sentHead, or_masked, gone, kept, UInt16.and_zero, UInt16.zero_or] at masked
    exact masked.symm
  · intro unixNs
    rw [sentHead, written_head event.head unixNs]

-- What the server is to queue for an event; the low three bits of its head carry the rolling index.
structure SameEvent (ev event : VscpEvent) : Prop where
  head : ev.head &&& 0xfff8 = event.head &&& 0xfff8
  priority : getEventPriority ev = getEventPriority event
  vscpClass : ev.vscpClass = event.vscpClass
  vscpType : ev.vscpType = event.vscpType
  guid : ev.guid = event.guid
  sizeData : ev.sizeData = event.sizeData
  data : ev.pdata.getD [] = event.pdata.getD []

def receivedEvent (clock : Clock) (clientId : UInt32) (event : VscpEvent) (crc : UInt16) : VscpEvent where
  head := sentHead event
  obid := clientId
  year := 0xffff
  month := 0xff
  timestampNs := if eventTimestampNs event = 0 then clock.makeTimeStampNs else eventTimestampNs event
  vscpClass := event.vscpClass
  vscpType := event.vscpType
  guid := event.guid
  sizeData := event.sizeData
  pdata := if event.sizeData = 0 then none else some event.dataBytes
  crc := crc

theorem received_same (clock : Clock) (clientId : UInt32) (event : VscpEvent) (crc : UInt16)
    (whole : (event.pdata.getD []).length = event.sizeData.toNat) :
    SameEvent (receivedEvent clock clientId event crc) event ↔ frameVersion event.head = frameVersionUnixNs := by
  refine ⟨fun same => (sent_head_version event).mp same.head, fun unixNs => ?_⟩
  refine ⟨(sent_head_version event).mpr unixNs, congrArg UInt16.toUInt8 (sent_head_priority event), rfl, rfl, rfl, rfl, ?_⟩
  by_cases empty : event.sizeData = 0
  · rw [empty] at whole
    simp only [receivedEvent, if_pos empty, Option.getD_none, List.length_eq_zero_iff.mp whole]
  · simp only [receivedEvent, if_neg empty, Option.getD_some, data_bytes_exact event whole]

theorem received_read (clock : Clock) (encryption : UInt8) (event : VscpEvent) (zeros len : Nat) (behind : Bytes)
    (room : frameSize event.sizeData ≤ len) :
    ∃ crc, getEventFromFrame clock (ofBytes (eventLead encryption :: (eventFrameBody event ++ List.replicate zeros 0) ++
      behind) fun _ => 0) len = some (receivedEvent clock 0 event crc) := by
  have memory : ofBytes (eventLead encryption :: (eventFrameBody event ++ List.replicate zeros 0) ++ behind) (fun _ => 0) =
      writtenMemory encryption event (List.replicate zeros 0 ++ behind) fun _ => 0 := by
    rw [writtenMemory, event_frame_parts, List.cons_append, List.cons_append, List.append_assoc]
  rw [memory, written_event _ _ _ _ clock len room]
  exact ⟨_, rfl⟩

theorem filter_same (ev event : VscpEvent) (filter : VscpEventFilter)
    (priority : getEventPriority ev = getEventPriority event) (vscpClass : ev.vscpClass = event.vscpClass)
    (vscpType : ev.vscpType = event.vscpType) (guid : ev.guid = event.guid) :
    doLevel2Filter ev filter = doLevel2Filter event filter := by
  simp only [doLevel2Filter, priority, vscpClass, vscpType, guid]

section Documented

variable (packet : Packet) (macros : packet.Documented) (ssl : OpenSsl) (aes : BlockCipher)
  (documented : DocumentedCbc ssl aes) (useOpenSsl : Bool) (sendbuf : Memory) (key : Key) (iv : Block)
  (client : RemoteClient) (event : VscpEvent) (rest : List VscpEvent)
  (queued : client.clientInputQueue = event :: rest) (small : event.sizeData.toNat ≤ maxData)
  (whole : (event.pdata.getD []).length = event.sizeData.toNat)

include macros

theorem packet_type_lead : eventLead (packet.setMulticastType 0 client.nEncryption) = eventLead client.nEncryption := by
  rw [macros.sets, UInt8.zero_shiftLeft, UInt8.zero_or]

include queued small whole

theorem send_frame_result :
    (sendFrame packet ssl aes useOpenSsl sendbuf (some key) iv client).2 =
      if packet.frame0Max < frameSize event.sizeData then .failed .operationFailed
      else
        match encryptFrame ssl aes useOpenSsl none sendbuf
          (eventLead client.nEncryption :: stampedBody client.index event) (some key) (some iv) client.nEncryption with
        | none => .failed .operationFailed
        | some datagram => if datagram.length > packet.frame0Max then .overrun else .sent datagram := by
  have present : ¬ (event.sizeData ≠ 0 ∧ event.pdata = none) := by
    rintro ⟨filled, missing⟩
    rw [missing] at whole
    exact filled (UInt16.toNat_inj.mp whole.symm)
  have size : 1 + headerLength + event.sizeData.toNat + 2 = frameSize event.sizeData := by
    unfold frameSize
    omega
  by_cases short : packet.frame0Max < frameSize event.sizeData
  · simp only [sendFrame, queued, if_neg (Nat.not_lt.mpr small), writeEventToFrame, if_neg present,
      List.length_replicate, if_pos short]
  · simp only [sendFrame, queued, if_neg (Nat.not_lt.mpr small), writeEventToFrame, if_neg present,
      List.length_replicate, if_neg short, size, written_index, packet_type_lead packet macros]
    cases encryptFrame ssl aes useOpenSsl none sendbuf
      (eventLead client.nEncryption :: stampedBody client.index event) (some key) (some iv) client.nEncryption <;> rfl

omit macros queued small whole in
-- An algorithm byte behind AES-256 is refused, also when it asks for the nibble of the lead byte.
theorem strong_encryption_refused (strong : ¬ client.nEncryption ≤ encryptionAes256) :
    encryptFrame ssl aes useOpenSsl none sendbuf (eventLead client.nEncryption :: stampedBody client.index event)
      (some key) (some iv) client.nEncryption = none := by
  have unknown : ¬ resolveFrameCryptoAlgorithm client.nEncryption
      (eventLead client.nEncryption :: stampedBody client.index event) ≤ encryptionAes256 := by
    unfold resolveFrameCryptoAlgorithm
    split
    · rename_i typeByte
      have every : ∀ i : Fin 256, eventLead (UInt8.ofFin i) &&& (0x0f : UInt8) = UInt8.ofFin i &&& (0x0f : UInt8) := by
        decide +kernel
      have nibble := every client.nEncryption.toFin
      rw [UInt8.ofFin_toFin] at nibble
      rw [List.getD_cons_zero, nibble, typeByte]
      decide
    · exact strong
  have secret : ¬ resolveFrameCryptoAlgorithm client.nEncryption
      (eventLead client.nEncryption :: stampedBody client.index event) = encryptionNone := by
    intro none
    rw [none] at unknown
    exact unknown (by decide)
  have cipher := unknown_cipher _ unknown
  cases useOpenSsl <;> simp only [encryptFrame, encryptFrameOpenSsl, encryptFrameWith, if_neg secret, cipher,
    Bool.false_eq_true, if_true, if_false]

omit queued small in
theorem receive_stamped (peerOpenSsl : Bool) (clock : Clock) (server : Server) (rest : Bytes) (zeros : Nat)
    (known : client.nEncryption ≤ encryptionAes256)
    (fits : (eventLead client.nEncryption :: rest).length ≤ packet.frame0Max)
    (long : frameSize event.sizeData + zeros ≤ (eventLead client.nEncryption :: rest).length)
    (opens : ∀ target, decryptFrame ssl aes peerOpenSsl target (eventLead client.nEncryption :: rest) (some key) none
        client.nEncryption =
      if TrailingCrc (eventLead client.nEncryption :: stampedBody client.index event) then
        some (eventLead client.nEncryption :: (stampedBody client.index event ++ List.replicate zeros 0))
      else none) :
    ∃ crc, receiveFrame packet ssl aes peerOpenSsl (some key) clock server
        (some (eventLead client.nEncryption :: rest)) =
      if ¬ server.allowUnsecure ∧ client.nEncryption = 0 then (server, .error .error)
      else if event.head.toUInt8 &&& (0x07 : UInt8) = client.index &&& (0x07 : UInt8) then
        if doLevel2Filter event server.filter ∧
            server.maxItemsInClientReceiveQueue > server.clientOutputQueue.length then
          ({ server with
            clientOutputQueue := server.clientOutputQueue ++ [receivedEvent clock server.clientId event crc] }, .ok ())
        else (server, .ok ())
      else (server, .error .error) := by
  have nibble : packet.getMulticastPacketEncryption (eventLead client.nEncryption) = client.nEncryption := by
    rw [macros.gets, event_lead_nibble _ known]
  have received : (eventLead client.nEncryption :: rest).take packet.frame0Max = eventLead client.nEncryption :: rest :=
    List.take_of_length_le fits
  have size : 38 ≤ frameSize event.sizeData := by
    unfold frameSize headerLength
    omega
  generalize datagram : eventLead client.nEncryption :: rest = wire at *
  have lead : wire.getD 0 0 = eventLead client.nEncryption := by rw [← datagram, List.getD_cons_zero]
  obtain ⟨crc, read⟩ := received_read clock client.nEncryption event zeros wire.length
    (wire.drop (eventLead client.nEncryption :: (eventFrameBody event ++ List.replicate zeros 0)).length) (by omega)
  have filter := filter_same (receivedEvent clock 0 event crc) event server.filter
    (congrArg UInt16.toUInt8 (sent_head_priority event)) rfl rfl rfl
  refine ⟨crc, ?_⟩
  simp only [receiveFrame, Option.getD_some, received, lead, nibble]
  rw [if_neg (by unfold headerLength; omega)]
  by_cases refused : ¬ server.allowUnsecure ∧ client.nEncryption = 0
  · rw [if_pos refused, if_pos refused]
  · rw [if_neg refused, if_neg refused, opens]
    by_cases same : event.head.toUInt8 &&& (0x07 : UInt8) = client.index &&& (0x07 : UInt8)
    · rw [if_pos same, if_pos ((stamped_body_crc _ client.index event).mpr same), stamped_body_same _ _ same]
      simp only [read, filter]
      rfl
    · rw [if_neg same, if_neg (mt (stamped_body_crc _ client.index event).mp same)]

include documented

theorem send_known (known : client.nEncryption ≤ encryptionAes256) :
    ∃ sealedBody zeros, (eventLead client.nEncryption :: sealedBody).length =
        sealedSize client.nEncryption (37 + event.sizeData.toNat) ∧
      frameSize event.sizeData + zeros ≤ (eventLead client.nEncryption :: sealedBody).length ∧
      (∀ peerOpenSsl target, decryptFrame ssl aes peerOpenSsl target (eventLead client.nEncryption :: sealedBody)
          (some key) none client.nEncryption =
        if TrailingCrc (eventLead client.nEncryption :: stampedBody client.index event) then
          some (eventLead client.nEncryption :: (stampedBody client.index event ++ List.replicate zeros 0))
        else none) ∧
      ∀ datagram, (sendFrame packet ssl aes useOpenSsl sendbuf (some key) iv client).2 = .sent datagram ↔
        datagram = eventLead client.nEncryption :: sealedBody ∧
          sealedSize client.nEncryption (37 + event.sizeData.toNat) ≤ packet.frame0Max := by
  have bound := event.sizeData.toNat_lt
  have length := stamped_body_length client.index event
  have result := send_frame_result packet macros ssl aes useOpenSsl sendbuf key iv client event rest queued small whole
  obtain ⟨sealedBody, encrypted, size, opens⟩ := sealed_frame_opens ssl aes documented useOpenSsl none (some iv) sendbuf
    (eventLead client.nEncryption) (stampedBody client.index event) key client.nEncryption iv known (by omega) (by omega)
    rfl
  rw [event_lead_encrypted _ _ known] at encrypted size opens
  rw [length] at size
  have frame : frameSize event.sizeData = 1 + (37 + event.sizeData.toNat) := by
    unfold frameSize headerLength
    omega
  have zeros : frameSize event.sizeData + sealedZeros client.nEncryption (37 + event.sizeData.toNat) ≤
      sealedSize client.nEncryption (37 + event.sizeData.toNat) := by
    unfold sealedZeros sealedSize padLength
    split <;> omega
  refine ⟨sealedBody, _, size, by rw [size]; exact zeros, ?_, ?_⟩
  · intro peerOpenSsl target
    rw [opens peerOpenSsl target client.nEncryption (Or.inr (event_lead_nibble _ known).symm), length]
  · intro datagram
    rw [result, encrypted]
    dsimp only
    rw [size]
    by_cases fits : sealedSize client.nEncryption (37 + event.sizeData.toNat) ≤ packet.frame0Max
    · rw [if_neg (by omega), if_neg (by omega), SendResult.sent.injEq]
      exact ⟨fun same => ⟨same.symm, fits⟩, fun both => both.1.symm⟩
    · rw [if_pos (Nat.not_le.mp fits)]
      split <;> simp [fits]

omit documented in
theorem send_strong (strong : ¬ client.nEncryption ≤ encryptionAes256) (datagram : Bytes) :
    (sendFrame packet ssl aes useOpenSsl sendbuf (some key) iv client).2 ≠ .sent datagram := by
  rw [send_frame_result packet macros ssl aes useOpenSsl sendbuf key iv client event rest queued small whole,
    strong_encryption_refused ssl aes useOpenSsl sendbuf key iv client event strong]
  split <;> exact SendResult.noConfusion

end Documented

-- The datagram of the client's next event is accepted, and the event queued for it is the one sent.
def Agrees (packet : Packet) (ssl : OpenSsl) (aes : BlockCipher) (useOpenSsl peerOpenSsl : Bool) (sendbuf : Memory)
    (key : Key) (iv : Block) (clock : Clock) (client : RemoteClient) (server : Server) (event : VscpEvent) : Prop :=
  ∃ datagram ev, (sendFrame packet ssl aes useOpenSsl sendbuf (some key) iv client).2 = .sent datagram ∧
    receiveFrame packet ssl aes peerOpenSsl (some key) clock server (some datagram) =
      ({ server with clientOutputQueue := server.clientOutputQueue ++ [ev] }, .ok ()) ∧ SameEvent ev event

theorem udp_peers_agree_iff (packet : Packet) (macros : packet.Documented) (ssl : OpenSsl) (aes : BlockCipher)
    (documented : DocumentedCbc ssl aes) (useOpenSsl peerOpenSsl : Bool) (sendbuf : Memory) (key : Key) (iv : Block)
    (clock : Clock) (client : RemoteClient) (server : Server) (event : VscpEvent) (rest : List VscpEvent)
    (queued : client.clientInputQueue = event :: rest) (small : event.sizeData.toNat ≤ maxData)
    (whole : (event.pdata.getD []).length = event.sizeData.toNat) :
    Agrees packet ssl aes useOpenSsl peerOpenSsl sendbuf key iv clock client server event ↔
      event.head.toUInt8 &&& (0x07 : UInt8) = client.index &&& (0x07 : UInt8) ∧
        frameVersion event.head = frameVersionUnixNs ∧ client.nEncryption ≤ encryptionAes256 ∧
        sealedSize client.nEncryption (37 + event.sizeData.toNat) ≤ packet.frame0Max ∧
        (client.nEncryption ≠ encryptionNone ∨ server.allowUnsecure = true) ∧
        doLevel2Filter event server.filter = true ∧
        server.clientOutputQueue.length < server.maxItemsInClientReceiveQueue := by
  by_cases known : client.nEncryption ≤ encryptionAes256
  · obtain ⟨sealedBody, zeros, size, long, opens, sends⟩ := send_known packet macros ssl aes documented useOpenSsl sendbuf
      key iv client event rest queued small whole known
    constructor
    · rintro ⟨datagram, ev, sent, received, same⟩
      obtain ⟨rfl, fits⟩ := (sends datagram).mp sent
      obtain ⟨crc, result⟩ := receive_stamped packet macros ssl aes key client event whole peerOpenSsl clock server
        sealedBody zeros known (by omega) long (opens peerOpenSsl)
      rw [result] at received
      by_cases refused : ¬ server.allowUnsecure = true ∧ client.nEncryption = 0
      · rw [if_pos refused] at received
        cases (Prod.mk.inj received).2
      rw [if_neg refused] at received
      by_cases index : event.head.toUInt8 &&& (0x07 : UInt8) = client.index &&& (0x07 : UInt8)
      · rw [if_pos index] at received
        by_cases passes : doLevel2Filter event server.filter ∧
            server.maxItemsInClientReceiveQueue > server.clientOutputQueue.length
        · rw [if_pos passes] at received
          have queues := congrArg (fun answer => answer.1.clientOutputQueue) received
          have read := List.append_cancel_left queues
          rw [← (List.cons.inj read).1] at same
          refine ⟨index, (received_same clock server.clientId event crc whole).mp same, known, fits, ?_, passes.1, passes.2⟩
          by_cases clear : client.nEncryption = encryptionNone
          · exact Or.inr (not_not.mp fun closed => refused ⟨closed, clear⟩)
          · exact Or.inl clear
        · rw [if_neg passes] at received
          have lengths := congrArg (fun answer => answer.1.clientOutputQueue.length) received
          simp only [List.length_append, List.length_singleton] at lengths
          omega
      · rw [if_neg index] at received
        cases (Prod.mk.inj received).2
    · rintro ⟨index, unixNs, _, fits, allowed, passes, room⟩
      obtain ⟨crc, result⟩ := receive_stamped packet macros ssl aes key client event whole peerOpenSsl clock server
        sealedBody zeros known (by omega) long (opens peerOpenSsl)
      have accepted : ¬ (¬ server.allowUnsecure = true ∧ client.nEncryption = 0) := fun refused =>
        allowed.elim (fun ciphered => ciphered refused.2) refused.1
      rw [if_neg accepted, if_pos index, if_pos ⟨passes, room⟩] at result
      exact ⟨_, _, (sends _).mpr ⟨rfl, fits⟩, result, (received_same clock server.clientId event crc whole).mpr unixNs⟩
  · constructor
    · rintro ⟨datagram, ev, sent, _, _⟩
      exact absurd sent (send_strong packet macros ssl aes useOpenSsl sendbuf key iv client event rest queued
        small whole known datagram)
    · exact fun parts => absurd parts.2.2.1 known

def examplePacket : Packet :=
  ⟨fun type encryption => (type <<< (4 : UInt8)) ||| encryption, fun lead => lead &&& (0x0f : UInt8), 577⟩

def exampleServer : Server := ⟨true, clearVSCPFilter, 1, 8, []⟩

theorem udp_peers_agree_iff_example :
    Agrees examplePacket knownOpenSsl knownAes true false (fun _ => 0) knownKey knownIv exampleClock
      ⟨0, 0, [exampleEvent]⟩ exampleServer exampleEvent :=
  (udp_peers_agree_iff examplePacket ⟨fun _ _ => rfl, fun _ => rfl⟩ knownOpenSsl knownAes known_documented true false
    (fun _ => 0) knownKey knownIv exampleClock ⟨0, 0, [exampleEvent]⟩ exampleServer exampleEvent [] rfl (by decide)
    (by decide)).mpr (by decide)

-- The second datagram of a client: its index is 1, and the event's head ends with 0.
theorem stamped_datagram_refused :
    let client : RemoteClient := ⟨1, 0, [exampleEvent]⟩
    let datagram := eventLead 0 :: stampedBody 1 exampleEvent
    (sendFrame examplePacket knownOpenSsl knownAes true (fun _ => 0) (some knownKey) knownIv client).2 = .sent datagram ∧
      receiveFrame examplePacket knownOpenSsl knownAes true (some knownKey) exampleClock exampleServer (some datagram) =
        (exampleServer, .error .error) ∧
      ¬ Agrees examplePacket knownOpenSsl knownAes true true (fun _ => 0) knownKey knownIv exampleClock client
        exampleServer exampleEvent := by
  intro client datagram
  have sends : (sendFrame examplePacket knownOpenSsl knownAes true (fun _ => 0) (some knownKey) knownIv client).2 =
      .sent datagram := by
    decide +kernel
  have refused : receiveFrame examplePacket knownOpenSsl knownAes true (some knownKey) exampleClock exampleServer
      (some datagram) = (exampleServer, .error .error) := by
    decide +kernel
  refine ⟨sends, refused, ?_⟩
  rintro ⟨found, ev, sent, received, _⟩
  rw [sends] at sent
  rw [← SendResult.sent.inj sent, refused] at received
  cases (Prod.mk.inj received).2

end Vscp.Udp
