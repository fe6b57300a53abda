import Vscp.CbcBackends

set_option autoImplicit false

namespace Vscp

open ByteMemory BlockMode

def frameHmac (ssl : OpenSsl) (frame : Bytes) (key : Key) : Option Bytes :=
  let word : UInt16 := (0x2000 : UInt16) ||| UInt16.ofNat (frame.length + 16)
  match ssl.hmacSha256 (key.take 32) (0x55 :: (bytes16 word ++ frame)) with
  | none => none
  | some digest => if digest.length = 32 then some digest else none

def encryptFrameV1 (ssl : OpenSsl) (random : Option Block) (capacity : Nat) (input : Bytes) (key hmacKey : Option Key)
    (iv : Option Block) (nAlgorithm : UInt8) : Option Bytes :=
  match key, hmacKey with
  | some key, some hmacKey =>
      if input.length < 5 ∨ input.length > 0x1fff then none
      else
        let algorithm := resolveFrameCryptoAlgorithm nAlgorithm input
        match getOpenSslCipherFromAlgorithm algorithm with
        | none => none
        | some cipher =>
            let ciphertextLen := ((input.length - 1) / 16 + 1) * 16
            let wireLen := 1 + ciphertextLen + 32
            if capacity < wireLen ∨ wireLen > 0x1fff then none
            else do
              let generatedIv ← getEncryptionIv random iv
              let padded ← pkcs7Pad (input.drop 1)
              let encrypted ← evpEncryptBuffer ssl cipher padded key generatedIv
              let frame := encryptLead (input.getD 0 0) algorithm :: (encrypted ++ generatedIv.toList)
              let digest ← frameHmac ssl frame hmacKey
              some (frame ++ digest.take 16)
  | _, _ => none

def decryptFrameV1 (ssl : OpenSsl) (capacity : Nat) (input : Bytes) (key hmacKey : Option Key) : Option Bytes :=
  match key, hmacKey with
  | some key, some hmacKey =>
      if input.length < 49 ∨ input.length > 0x1fff ∨ (input.length - 33) % 16 ≠ 0 then none
      else
        match getOpenSslCipherFromAlgorithm (input.getD 0 0 &&& (0x0f : UInt8)),
          frameHmac ssl (input.take (input.length - 16)) hmacKey with
        | some cipher, some digest =>
            if digest.take 16 ≠ input.drop (input.length - 16) then none
            else do
              let payloadLen := input.length - 33
              let iv : Block := readBlock (ofBytes input fun _ => 0) (input.length - 32)
              let plaintext ← evpDecryptBuffer ssl cipher ((input.drop 1).take payloadLen) key iv
              let (payload, payloadLen) ← pkcs7Unpad plaintext payloadLen
              if ¬ validFrameCrc (input.take 1 ++ payload) (payloadLen + 1) ∨ capacity < payloadLen + 1 then none
              else some ((input.take 1 ++ payload).take (payloadLen + 1))
        | _, _ => none
  | _, _ => none

theorem frame_hmac_length (ssl : OpenSsl) (frame : Bytes) (key : Key) (digest : Bytes)
    (computed : frameHmac ssl frame key = some digest) : digest.length = 32 := by
  simp only [frameHmac] at computed
  split at computed
  · cases computed
  · split at computed
    · rename_i long
      rwa [← Option.some.inj computed]
    · cases computed

theorem encrypt_lead_algorithm (lead algorithm : UInt8) (type : Aes)
    (known : getOpenSslCipherFromAlgorithm algorithm = some type) :
    encryptLead lead algorithm &&& (0x0f : UInt8) = algorithm := by
  have every : ∀ i : Fin 256, encryptLead (UInt8.ofFin i) 1 &&& (0x0f : UInt8) = 1 ∧
      encryptLead (UInt8.ofFin i) 2 &&& (0x0f : UInt8) = 2 ∧ encryptLead (UInt8.ofFin i) 3 &&& (0x0f : UInt8) = 3 := by
    decide +kernel
  obtain ⟨one, two, three⟩ := every lead.toFin
  rw [UInt8.ofFin_toFin] at one two three
  unfold getOpenSslCipherFromAlgorithm at known
  split_ifs at known with first second third
  · rw [first, one]
  · rw [second, two]
  · rw [third, three]

theorem known_algorithm_bounds (algorithm : UInt8) (type : Aes)
    (known : getOpenSslCipherFromAlgorithm algorithm = some type) :
    algorithm ≠ encryptionNone ∧ algorithm ≤ encryptionAes256 ∧
      ∀ input, resolveFrameCryptoAlgorithm algorithm input = algorithm := by
  unfold getOpenSslCipherFromAlgorithm at known
  split_ifs at known with first second third <;> subst algorithm <;>
    exact ⟨by decide, by decide, fun _ => rfl⟩

theorem iv_at (front : Bytes) (iv : Block) (rest : Bytes) (beyond : Memory) :
    readBlock (ofBytes (front ++ (iv.toList ++ rest)) beyond) front.length = iv := by
  have block := read_join_blocks [iv] front rest beyond
  rw [join_blocks_cons, List.append_assoc] at block
  exact (List.cons.inj block).1

section Documented

variable (ssl : OpenSsl) (aes : BlockCipher) (documented : DocumentedCbc ssl aes)

include documented

theorem encrypt_v1_result (random : Option Block) (room : Nat) (lead : UInt8) (body : Bytes)
    (key hmacKey : Option Key) (iv : Option Block) (nAlgorithm : UInt8) (wire : Bytes)
    (encrypted : encryptFrameV1 ssl random room (lead :: body) key hmacKey iv nAlgorithm = some wire) :
    ∃ aesKey macKey type chosen digest,
      let algorithm := resolveFrameCryptoAlgorithm nAlgorithm (lead :: body)
      let front := encryptLead lead algorithm ::
        (cbcEncryptBytes aes type aesKey chosen (pad 16 body) ++ chosen.toList)
      key = some aesKey ∧ hmacKey = some macKey ∧ getOpenSslCipherFromAlgorithm algorithm = some type ∧
        4 ≤ body.length ∧ 1 + (body.length / 16 + 1) * 16 + 32 ≤ 0x1fff ∧
        frameHmac ssl front macKey = some digest ∧ wire = front ++ digest.take 16 := by
  unfold encryptFrameV1 at encrypted
  cases key with
  | none => cases encrypted
  | some aesKey =>
      cases hmacKey with
      | none => cases encrypted
      | some macKey =>
          simp only [List.length_cons, Nat.add_sub_cancel, List.drop_one, List.tail_cons, List.getD_cons_zero] at encrypted
          cases known : getOpenSslCipherFromAlgorithm (resolveFrameCryptoAlgorithm nAlgorithm (lead :: body)) with
          | none => simp [known] at encrypted
          | some type =>
              simp only [known] at encrypted
              split_ifs at encrypted with outside tooLong
              have small : (pad 16 body).length < 2 ^ 31 := by
                rw [padded_length 16 body (by decide)]
                omega
              simp only [Option.bind_eq_bind, Option.bind_eq_some_iff] at encrypted
              obtain ⟨chosen, _, padded, padding, cipher, ciphered, digest, mac, same⟩ := encrypted
              rw [pkcs7_pad_small body (by omega)] at padding
              rw [← Option.some.inj padding,
                evp_encrypt_whole ssl aes documented _ _ _ _ (padded_whole 16 body (by decide)) small] at ciphered
              rw [← Option.some.inj ciphered] at mac same
              exact ⟨aesKey, macKey, type, chosen, digest, rfl, rfl, known, by omega, by omega, mac,
                (Option.some.inj same).symm⟩

theorem authenticated_round_trip (random : Option Block) (room capacity : Nat) (lead : UInt8) (body : Bytes)
    (key hmacKey : Option Key) (iv : Option Block) (nAlgorithm : UInt8) (wire : Bytes)
    (crc : TrailingCrc (lead :: body)) (fits : body.length + 1 ≤ capacity)
    (encrypted : encryptFrameV1 ssl random room (lead :: body) key hmacKey iv nAlgorithm = some wire) :
    wire.length = 1 + (body.length / 16 + 1) * 16 + 32 ∧
      decryptFrameV1 ssl capacity wire key hmacKey =
        some (encryptLead lead (resolveFrameCryptoAlgorithm nAlgorithm (lead :: body)) :: body) := by
  obtain ⟨aesKey, macKey, type, chosen, digest, keyed, maced, known, long, short, mac, same⟩ :=
    encrypt_v1_result ssl aes documented random room lead body key hmacKey iv nAlgorithm wire encrypted
  generalize resolveFrameCryptoAlgorithm nAlgorithm (lead :: body) = algorithm at *
  have whole := padded_whole 16 body (by decide)
  have size := padded_length 16 body (by decide)
  have cipherSize := cbc_encrypt_bytes_length aes type aesKey chosen (pad 16 body) whole
  have plain := cbc_decrypt_encrypt_bytes aes type aesKey chosen (pad 16 body) (documented.inverse type aesKey) whole
  have nibble := encrypt_lead_algorithm lead algorithm type known
  have tag : (digest.take 16).length = 16 := by
    rw [List.length_take, frame_hmac_length ssl _ _ _ mac]
    decide
  generalize cbcEncryptBytes aes type aesKey chosen (pad 16 body) = data at *
  generalize encryptLead lead algorithm = first at *
  rw [size] at cipherSize
  have front : (first :: (data ++ chosen.toList)).length = 1 + (body.length / 16 + 1) * 16 + 16 := by
    simp [cipherSize]
    omega
  have total : wire.length = 1 + (body.length / 16 + 1) * 16 + 32 := by
    rw [same, List.length_append, front, tag]
  refine ⟨total, ?_⟩
  have parts : wire = first :: (data ++ (chosen.toList ++ digest.take 16)) := by
    rw [same]
    simp
  have ivBlock : readBlock (ofBytes wire fun _ => 0) (wire.length - 32) = chosen := by
    have here := iv_at (first :: data) chosen (digest.take 16) fun _ => 0
    rw [List.cons_append, ← parts, List.length_cons, cipherSize] at here
    rw [total, ← here]
    congr 1
    omega
  have sealedPart : wire.take (wire.length - 16) = first :: (data ++ chosen.toList) := by
    rw [same, List.take_left']
    rw [List.length_append, front, tag]
    omega
  have tagPart : wire.drop (wire.length - 16) = digest.take 16 := by
    rw [same, List.drop_left']
    rw [List.length_append, front, tag]
    omega
  have dataPart : (wire.drop 1).take (wire.length - 33) = data := by
    rw [total, parts, List.drop_one, List.tail_cons, List.take_left']
    omega
  have lead0 : wire.getD 0 0 = first := by rw [parts, List.getD_cons_zero]
  have valid := (valid_frame_crc_tail first body (data.length - body.length) (by omega)).mpr
    ⟨by omega, (trailing_crc_lead lead first body (by omega)).mp crc⟩
  subst keyed maced
  simp only [decryptFrameV1]
  rw [if_neg (by omega), lead0, nibble, known, sealedPart, mac]
  simp only [tagPart, dataPart, ivBlock, ne_eq, not_true_eq_false, if_false]
  have payload : wire.length - 33 = (pad 16 body).length := by omega
  have head : wire.take 1 = [first] := by rw [parts, List.take_succ_cons, List.take_zero]
  have shown : data.length = (pad 16 body).length := by omega
  have unpadded := pkcs7_unpad_whole _ whole
  rw [unpad_pad 16 body (by decide) (by decide)] at unpadded
  rw [evp_decrypt_whole ssl aes documented type data aesKey chosen (by omega) (by omega), plain, payload, head]
  rw [shown] at valid
  simp only [Option.bind_eq_bind, Option.bind_some, unpadded, Option.map_some, List.cons_append, List.nil_append, valid]
  rw [if_neg (by simp only [not_true_eq_false, false_or]; omega), List.take_succ_cons, List.take_left']
  rfl

end Documented

end Vscp
