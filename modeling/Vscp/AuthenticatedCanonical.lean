import Vscp.AuthenticatedFrame

set_option autoImplicit false

namespace Vscp

open ByteMemory BlockMode

-- The call on the caller's memory. Nothing is written before the frame is checked, so the buffers may overlap.
def decryptFrameV1Call (ssl : OpenSsl) (memory : Memory) (output : Option Nat) (capacity : Nat) (input : Option Nat)
    (len : Nat) (key hmacKey : Option Key) : Nat × Memory :=
  match output, input with
  | some output, some input =>
      match decryptFrameV1 ssl capacity (bytesAt memory input len) key hmacKey with
      | some plaintext => (plaintext.length, writeBytes memory output plaintext)
      | none => (0, memory)
  | _, _ => (0, memory)

def wirePayload (input : Bytes) : Bytes := (input.drop 1).take (input.length - 33)
def wireIv (input : Bytes) : Block := readBlock (ofBytes input fun _ => 0) (input.length - 32)

structure Opens (ssl : OpenSsl) (aes : BlockCipher) (input : Bytes) (aesKey macKey : Key) (type : Aes)
    (digest body frame : Bytes) : Prop where
  long : 49 ≤ input.length
  short : input.length ≤ 0x1fff
  whole : (input.length - 33) % 16 = 0
  known : getOpenSslCipherFromAlgorithm (input.getD 0 0 &&& (0x0f : UInt8)) = some type
  mac : frameHmac ssl (input.take (input.length - 16)) macKey = some digest
  tag : digest.take 16 = input.drop (input.length - 16)
  opened : unpad 16 (cbcDecryptBytes aes type aesKey (wireIv input) (wirePayload input)) = some body
  same : frame = input.getD 0 0 :: body
  valid : validFrameCrc frame frame.length = true

theorem wire_payload_length (input : Bytes) (long : 49 ≤ input.length) :
    (wirePayload input).length = input.length - 33 := by
  rw [wirePayload, List.length_take, List.length_drop]
  omega

theorem wire_head (input : Bytes) (long : 49 ≤ input.length) : input.take 1 = [input.getD 0 0] := by
  cases input with
  | nil => simp at long
  | cons lead behind => rw [List.take_succ_cons, List.take_zero, List.getD_cons_zero]

theorem wire_front (input : Bytes) (long : 49 ≤ input.length) :
    input.getD 0 0 :: (wirePayload input ++ (wireIv input).toList) = input.take (input.length - 16) := by
  have count : input.length - 16 = 1 + ((input.length - 33) + 16) := by omega
  have behind : 1 + (input.length - 33) = input.length - 32 := by omega
  rw [count, List.take_add, wire_head input long, List.take_add, List.drop_drop, behind, wireIv, read_block_bytes,
    bytes_at_window _ _ _ _ (by omega)]
  rfl

theorem valid_frame_crc_front (front back : Bytes) :
    validFrameCrc (front ++ back) front.length = validFrameCrc front front.length := by
  unfold validFrameCrc
  by_cases short : front.length < 5 ∨ front.length - 3 > 2 ^ 31 - 1
  · rw [if_pos short, if_pos short]
  · obtain ⟨count, size⟩ : ∃ count, front.length = count + 5 := ⟨front.length - 5, by omega⟩
    rw [if_neg short, if_neg short]
    simp [size, List.drop_append, List.take_append, List.getElem?_append]

theorem encrypt_lead_again (lead : UInt8) : encryptLead lead (lead &&& (0x0f : UInt8)) = lead := by
  have every : ∀ i : Fin 256, encryptLead (UInt8.ofFin i) (UInt8.ofFin i &&& (0x0f : UInt8)) = UInt8.ofFin i := by
    decide +kernel
  have here := every lead.toFin
  rwa [UInt8.ofFin_toFin] at here

theorem Opens.resolves {ssl : OpenSsl} {aes : BlockCipher} {input : Bytes} {aesKey macKey : Key} {type : Aes}
    {digest body frame : Bytes} (opens : Opens ssl aes input aesKey macKey type digest body frame) (nAlgorithm : UInt8)
    (named : nAlgorithm = input.getD 0 0 &&& (0x0f : UInt8) ∨ nAlgorithm &&& 0x0f = encryptionFromTypeByte) :
    resolveFrameCryptoAlgorithm nAlgorithm frame = input.getD 0 0 &&& (0x0f : UInt8) := by
  rcases named with outright | fromTypeByte
  · rw [outright]
    exact (known_algorithm_bounds _ type opens.known).2.2 frame
  · rw [resolveFrameCryptoAlgorithm, if_pos fromTypeByte, opens.same, List.getD_cons_zero]

section Documented

variable (ssl : OpenSsl) (aes : BlockCipher) (documented : DocumentedCbc ssl aes)

include documented

theorem cbc_encrypt_decrypt_bytes (type : Aes) (key : Key) (iv : Block) (data : Bytes)
    (whole : data.length % 16 = 0) : cbcEncryptBytes aes type key iv (cbcDecryptBytes aes type key iv data) = data := by
  have inverse := inverse_both_sides (aes.encipher type key) (aes.decipher type key) (documented.inverse type key)
  rw [cbcDecryptBytes, cbcEncryptBytes, blocks_of_join (by decide),
    cbc_encrypt_decrypt _ _ _ _ _ inverse xor_blocks_cancel, join_blocks_of _ whole]

theorem decrypt_v1_opens (capacity : Nat) (input : Bytes) (key hmacKey : Option Key) (frame : Bytes)
    (accepted : decryptFrameV1 ssl capacity input key hmacKey = some frame) :
    frame.length ≤ capacity ∧ ∃ aesKey macKey type digest body,
      key = some aesKey ∧ hmacKey = some macKey ∧ Opens ssl aes input aesKey macKey type digest body frame := by
  unfold decryptFrameV1 at accepted
  cases key with
  | none => cases accepted
  | some aesKey =>
      cases hmacKey with
      | none => cases accepted
      | some macKey =>
          dsimp only at accepted
          split at accepted
          · cases accepted
          rename_i inside
          split at accepted
          · rename_i type digest known mac
            split at accepted
            · cases accepted
            rename_i tag
            have size := wire_payload_length input (by omega)
            have plainSize := cbc_decrypt_bytes_length aes type aesKey (wireIv input) (wirePayload input) (by omega)
            rw [← wireIv, ← wirePayload,
              evp_decrypt_whole ssl aes documented type _ aesKey _ (by omega) (by omega)] at accepted
            have unpadded := pkcs7_unpad_whole _ (show (cbcDecryptBytes aes type aesKey (wireIv input)
              (wirePayload input)).length % 16 = 0 by omega)
            rw [plainSize, size] at unpadded
            simp only [Option.bind_eq_bind, Option.bind_some, unpadded] at accepted
            cases opened : unpad 16 (cbcDecryptBytes aes type aesKey (wireIv input) (wirePayload input)) with
            | none => simp [opened] at accepted
            | some body =>
                simp only [opened, Option.map_some, Option.bind_some, wire_head input (by omega), List.cons_append,
                  List.nil_append] at accepted
                split at accepted
                · cases accepted
                rename_i checked
                have front := valid_frame_crc_front (input.getD 0 0 :: body)
                  (List.replicate (input.length - 33 - body.length) 0)
                rw [List.cons_append, List.length_cons] at front
                rw [front, not_or, not_not] at checked
                rw [List.take_succ_cons, List.take_left' rfl] at accepted
                obtain ⟨valid, fits⟩ := checked
                rw [← Option.some.inj accepted]
                refine ⟨?_, aesKey, macKey, type, digest, body, rfl, rfl, ⟨by omega, by omega, by omega, known, mac,
                  not_not.mp tag, opened, rfl, valid⟩⟩
                rw [List.length_cons]
                omega
          · cases accepted

theorem opened_frame_sealed_again (input : Bytes) (aesKey macKey : Key) (type : Aes) (digest body frame : Bytes)
    (opens : Opens ssl aes input aesKey macKey type digest body frame) (random : Option Block) (room : Nat)
    (nAlgorithm : UInt8) (fits : input.length ≤ room)
    (named : resolveFrameCryptoAlgorithm nAlgorithm frame = input.getD 0 0 &&& (0x0f : UInt8)) :
    encryptFrameV1 ssl random room frame (some aesKey) (some macKey) (some (wireIv input)) nAlgorithm =
      some input := by
  obtain ⟨long, short, aligned, known, mac, tag, opened, same, valid⟩ := opens
  have size := wire_payload_length input long
  have whole : (wirePayload input).length % 16 = 0 := by omega
  have plainSize := cbc_decrypt_bytes_length aes type aesKey (wireIv input) (wirePayload input) whole
  have padded := pad_unpad 16 _ body (by omega) opened
  have paddedSize := padded_length 16 body (by decide)
  have paddedWhole := padded_whole 16 body (by decide)
  have ciphered := cbc_encrypt_decrypt_bytes ssl aes documented type aesKey (wireIv input) (wirePayload input) whole
  rw [← padded] at ciphered plainSize
  have minimum := ((valid_frame_crc_iff frame).mp valid).1
  have frameSize : frame.length = body.length + 1 := by rw [same, List.length_cons]
  have front := wire_front input long
  have sealed := evp_encrypt_whole ssl aes documented type (pad 16 body) aesKey (wireIv input) paddedWhole (by omega)
  rw [ciphered] at sealed
  have behind : frame.drop 1 = body := by rw [same, List.drop_one, List.tail_cons]
  have head : frame.getD 0 0 = input.getD 0 0 := by rw [same, List.getD_cons_zero]
  rw [← front] at mac
  unfold encryptFrameV1
  simp only [named, known, head, behind, encrypt_lead_again]
  rw [if_neg (by omega), if_neg (by omega)]
  simp only [getEncryptionIv, pkcs7_pad_small body (by omega), sealed, mac, Option.bind_eq_bind, Option.bind_some]
  rw [tag, front, List.take_append_drop]

theorem decrypt_all_or_canonical (memory : Memory) (output : Option Nat) (capacity : Nat) (input : Option Nat)
    (len : Nat) (key hmacKey : Option Key) :
    let wire := bytesAt memory (input.getD 0) len
    let result := decryptFrameV1Call ssl memory output capacity input len key hmacKey
    (result.1 = 0 ∧ result.2 = memory) ∨
      ∃ target frame, output = some target ∧ input.isSome ∧ result.1 = frame.length ∧ frame.length ≤ capacity ∧
        bytesAt result.2 target frame.length = frame ∧
        (∀ i, i < target ∨ target + frame.length ≤ i → result.2 i = memory i) ∧
        validFrameCrc frame frame.length = true ∧
        ∀ random room nAlgorithm, len ≤ room →
          nAlgorithm = wire.getD 0 0 &&& (0x0f : UInt8) ∨ nAlgorithm &&& 0x0f = encryptionFromTypeByte →
          encryptFrameV1 ssl random room frame key hmacKey (some (wireIv wire)) nAlgorithm = some wire := by
  dsimp only
  unfold decryptFrameV1Call
  cases output with
  | none => exact .inl ⟨rfl, rfl⟩
  | some target =>
      cases input with
      | none => exact .inl ⟨rfl, rfl⟩
      | some source =>
          simp only [Option.getD_some]
          cases accepted : decryptFrameV1 ssl capacity (bytesAt memory source len) key hmacKey with
          | none => exact .inl ⟨rfl, rfl⟩
          | some frame =>
              obtain ⟨fits, aesKey, macKey, type, digest, body, keyed, maced, opens⟩ :=
                decrypt_v1_opens ssl aes documented capacity _ key hmacKey frame accepted
              subst keyed maced
              refine .inr ⟨target, frame, rfl, rfl, rfl, fits, write_bytes_read memory target frame,
                fun i outside => write_bytes_outside memory target frame i outside, opens.valid, ?_⟩
              intro random room nAlgorithm roomy named
              refine opened_frame_sealed_again ssl aes documented _ aesKey macKey type digest body frame opens random room
                nAlgorithm ?_ (opens.resolves nAlgorithm named)
              rwa [bytes_at_length]

end Documented

def knownWire : Bytes := 0xe3 :: (knownCiphertext.toList ++ knownIv.toList ++ knownDigest.take 16)

theorem decrypt_all_or_canonical_example :
    (decryptFrameV1Call knownOpenSsl (ofBytes knownWire fun _ => 0) (some 0) 5 (some 0) 49 (some knownKey)
      (some knownHmacKey)).1 = 5 ∧
    encryptFrameV1 knownOpenSsl none 49 [0xe3, 0x00, 0x07, 0x6d, 0xe8] (some knownKey) (some knownHmacKey)
      (some knownIv) 3 = some knownWire := by
  have length : (decryptFrameV1Call knownOpenSsl (ofBytes knownWire fun _ => 0) (some 0) 5 (some 0) 49 (some knownKey)
      (some knownHmacKey)).1 = 5 := by decide +kernel
  have plain : bytesAt (decryptFrameV1Call knownOpenSsl (ofBytes knownWire fun _ => 0) (some 0) 5 (some 0) 49
      (some knownKey) (some knownHmacKey)).2 0 5 = [0xe3, 0x00, 0x07, 0x6d, 0xe8] := by decide +kernel
  have wire : bytesAt (ofBytes knownWire fun _ => 0) 0 49 = knownWire := by decide +kernel
  have iv : wireIv knownWire = knownIv := by decide +kernel
  rcases decrypt_all_or_canonical knownOpenSsl knownAes known_documented (ofBytes knownWire fun _ => 0) (some 0) 5
    (some 0) 49 (some knownKey) (some knownHmacKey) with ⟨zero, _⟩ | ⟨target, frame, place, _, count, _, back, _, _, again⟩
  · rw [length] at zero
    exact absurd zero (by decide)
  · obtain rfl := Option.some.inj place
    rw [length] at count
    rw [← count, plain] at back
    rw [Option.getD_some, wire, iv, ← back] at again
    exact ⟨length, again none 49 3 (by decide) (.inl (by decide))⟩

end Vscp
