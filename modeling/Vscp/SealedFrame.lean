import Vscp.CryptoAgreement
import Vscp.FrameCorruption

set_option autoImplicit false

namespace Vscp

open ByteMemory BlockMode

def sealedSize (encryption : UInt8) (length : Nat) : Nat :=
  if encryption = encryptionNone then 1 + length else 1 + (length / 16 + 1) * 16 + 16

def sealedZeros (encryption : UInt8) (length : Nat) : Nat :=
  if encryption = encryptionNone then 0 else padLength 16 length

theorem known_encryption (encryption : UInt8) (known : encryption ≤ encryptionAes256)
    (ciphered : encryption ≠ encryptionNone) : ∃ type, getOpenSslCipherFromAlgorithm encryption = some type := by
  have every : ∀ i : Fin 4, UInt8.ofNat i.val ≠ encryptionNone →
      (getOpenSslCipherFromAlgorithm (UInt8.ofNat i.val)).isSome = true := by decide
  have bound : encryption.toNat ≤ 3 := known
  have here := every ⟨encryption.toNat, by omega⟩
  rw [UInt8.ofNat_toNat] at here
  exact Option.isSome_iff_exists.mp (here ciphered)

theorem encrypt_lead_none (lead : UInt8) : encryptLead lead encryptionNone = lead &&& (0xf0 : UInt8) := by
  rw [encryptLead, encryptionNone, UInt8.or_zero]

theorem plain_lead_nibble (lead : UInt8) : (lead &&& (0xf0 : UInt8)) &&& (0x0f : UInt8) = 0 := by
  rw [UInt8.and_assoc]
  exact UInt8.and_zero

section Documented

variable (ssl : OpenSsl) (aes : BlockCipher) (documented : DocumentedCbc ssl aes)

include documented

theorem sealed_frame_opens (useOpenSsl : Bool) (random iv : Option Block) (output : Memory) (lead : UInt8)
    (body : Bytes) (key : Key) (encryption : UInt8) (chosen : Block) (known : encryption ≤ encryptionAes256)
    (long : 4 ≤ body.length) (small : body.length < 2 ^ 30) (ivChosen : getEncryptionIv random iv = some chosen) :
    ∃ rest, encryptFrame ssl aes useOpenSsl random output (lead :: body) (some key) iv encryption =
        some (encryptLead lead encryption :: rest) ∧
      (encryptLead lead encryption :: rest).length = sealedSize encryption body.length ∧
      ∀ peerOpenSsl target named, NamesAlgorithm named (encryptLead lead encryption :: rest) →
        decryptFrame ssl aes peerOpenSsl target (encryptLead lead encryption :: rest) (some key) none named =
          if TrailingCrc (lead :: body) then
            some (encryptLead lead encryption :: (body ++ List.replicate (sealedZeros encryption body.length) 0))
          else none := by
  have algorithm := Binary.resolve_named encryption (lead :: body) known
  have size := padded_length 16 body (by decide)
  have fits : (pad 16 body).length < 2 ^ 31 := by omega
  have seals := encrypt_frame_seals ssl aes documented useOpenSsl random output (lead :: body) (some key) iv encryption
    fits
  by_cases clear : encryption = encryptionNone
  · subst clear
    refine ⟨body, ?_, ?_, ?_⟩
    · rw [seals]
      simp only [encryptFrameWith, algorithm, if_true, encrypt_lead_none]
    · rw [sealedSize, if_pos rfl, List.length_cons, Nat.add_comm]
    · intro peerOpenSsl target byte names
      have resolved := named_algorithm byte _ names
      rw [List.getD_cons_zero, encrypt_lead_none, plain_lead_nibble] at resolved
      rw [decrypt_frame_opens ssl aes documented _ _ _ _ _ _ (by simp; omega)]
      have valid := valid_frame_crc_iff ((lead &&& (0xf0 : UInt8)) :: body)
      rw [List.length_cons] at valid
      rw [encrypt_lead_none] at *
      simp only [decryptFrameWith, resolved, encryptionNone, if_true, sealedZeros, List.replicate_zero, List.append_nil]
      by_cases crc : TrailingCrc (lead :: body)
      · rw [if_pos crc, if_pos]
        exact valid.mpr ⟨by omega, by omega, (trailing_crc_lead lead _ body (by omega)).mp crc⟩
      · rw [if_neg crc, if_neg]
        exact fun passes => crc ((trailing_crc_lead lead _ body (by omega)).mpr (valid.mp passes).2.2)
  · obtain ⟨type, cipher⟩ := known_encryption encryption known clear
    have nibble := encrypt_lead_algorithm lead encryption type cipher
    have whole := padded_whole 16 body (by decide)
    have plain := cbc_decrypt_encrypt_bytes aes type key chosen (pad 16 body) (documented.inverse type key) whole
    have dataSize := cbc_encrypt_bytes_length aes type key chosen (pad 16 body) whole
    simp only [encryptFrameWith, algorithm, cipher, if_neg clear, pkcs7_pad_small body (by omega), ivChosen, cbcSeal,
      Option.bind_eq_bind, Option.bind_some] at seals
    generalize cbcEncryptBytes aes type key chosen (pad 16 body) = data at *
    refine ⟨data ++ chosen.toList, seals, ?_, ?_⟩
    · rw [sealedSize, if_neg clear, List.length_cons, List.length_append, Vector.length_toList]
      omega
    · intro peerOpenSsl target byte names
      have resolved := named_algorithm byte _ names
      rw [List.getD_cons_zero, nibble] at resolved
      rw [decrypt_frame_opens ssl aes documented _ _ _ _ _ _ (by simp; omega),
        open_with_tail aes _ data chosen key byte type (by omega) (by omega) (by omega) (by rwa [resolved])
          (by rwa [resolved]), plain, openBlocks, openBody, unpad_pad 16 body (by decide) (by decide), Option.bind_some,
        sealedZeros, if_neg clear]
      have crcs := trailing_crc_lead lead (encryptLead lead encryption) body (by omega)
      have zeros : (pad 16 body).length + 1 - (encryptLead lead encryption :: body).length = padLength 16 body.length := by
        simp [pad]
      by_cases crc : TrailingCrc (lead :: body)
      · rw [if_pos crc, if_pos ⟨by omega, crcs.mp crc⟩, Option.map_some, zeros, List.cons_append]
      · rw [if_neg crc, if_neg (fun passes => crc (crcs.mpr passes.2)), Option.map_none]

end Documented

theorem trailing_crc_word (lead : UInt8) (content : Bytes) (word : UInt16) :
    TrailingCrc (lead :: (content ++ bytes16 word)) ↔ crcFast content = word := by
  have joined := big_endian_word word
  simp only [TrailingCrc, bytes16, List.length_cons, List.length_append, List.length_nil]
  simp [joined]

def eventFrameBody (pev : VscpEvent) : Bytes := (eventFrame 0 pev).drop 1

theorem event_frame_parts (pkttype : UInt8) (pev : VscpEvent) :
    eventFrame pkttype pev = eventLead pkttype :: eventFrameBody pev := rfl

theorem event_frame_body_length (pev : VscpEvent) : (eventFrameBody pev).length = 37 + pev.sizeData.toNat := by
  have long := event_frame_length 0 pev
  rw [eventFrameBody, List.length_drop, long, frameSize, headerLength]
  omega

theorem event_frame_trailing_crc (lead : UInt8) (pev : VscpEvent) : TrailingCrc (lead :: eventFrameBody pev) := by
  rw [eventFrameBody, event_frame_body]
  exact (trailing_crc_word lead _ _).mpr rfl

theorem event_lead_encrypted (pkttype encryption : UInt8) (known : encryption ≤ encryptionAes256) :
    encryptLead (eventLead pkttype) encryption = eventLead encryption := by
  have every : ∀ i : Fin 256, ∀ j : Fin 4,
      encryptLead (eventLead (UInt8.ofFin i)) (UInt8.ofNat j.val) = eventLead (UInt8.ofNat j.val) := by
    decide +kernel
  have bound : encryption.toNat ≤ 3 := known
  have here := every pkttype.toFin ⟨encryption.toNat, by omega⟩
  rwa [UInt8.ofFin_toFin, UInt8.ofNat_toNat] at here

theorem event_lead_nibble (encryption : UInt8) (known : encryption ≤ encryptionAes256) :
    eventLead encryption &&& (0x0f : UInt8) = encryption := by
  have every : ∀ j : Fin 4, eventLead (UInt8.ofNat j.val) &&& (0x0f : UInt8) = UInt8.ofNat j.val := by decide
  have bound : encryption.toNat ≤ 3 := known
  have here := every ⟨encryption.toNat, by omega⟩
  rwa [UInt8.ofNat_toNat] at here

end Vscp
