import Vscp.FrameCrypto

set_option autoImplicit false

namespace Vscp

open ByteMemory BlockMode

def cbcEncryptBytes (aes : BlockCipher) (type : Aes) (key : Key) (iv : Block) (data : Bytes) : Bytes :=
  joinBlocks (cbcEncrypt xorBlocks (aes.encipher type key) iv (blocksOf data))

def cbcDecryptBytes (aes : BlockCipher) (type : Aes) (key : Key) (iv : Block) (data : Bytes) : Bytes :=
  joinBlocks (cbcDecrypt xorBlocks (aes.decipher type key) iv (blocksOf data))

-- What OpenSSL documents about AES-CBC, over the block function the internal
-- implementation uses too. Lengths are those an int can hold.
structure DocumentedCbc (ssl : OpenSsl) (aes : BlockCipher) : Prop where
  inverse : ∀ type key block, aes.decipher type key (aes.encipher type key block) = block
  encryptRaw : ∀ type key iv data, data.length % 16 = 0 → data.length < 2 ^ 31 →
    ssl.evpEncrypt type false key iv data data.length = some (cbcEncryptBytes aes type key iv data, [])
  decryptRaw : ∀ type key iv data, data.length % 16 = 0 → data.length < 2 ^ 31 →
    ssl.evpDecrypt type false key iv data data.length = some (cbcDecryptBytes aes type key iv data, [])
  encryptPadded : ∀ type key iv data, data.length < 2 ^ 31 →
    (ssl.evpEncrypt type true key iv data data.length).map (fun out => out.1 ++ out.2) =
      some (cbcEncryptBytes aes type key iv (pad 16 data))
  decryptPadded : ∀ type key iv data, data.length % 16 = 0 → data.length < 2 ^ 31 →
    (ssl.evpDecrypt type true key iv data data.length).map (fun out => out.1 ++ out.2) =
      unpad 16 (cbcDecryptBytes aes type key iv data)

theorem cbc_encrypt_bytes_length (aes : BlockCipher) (type : Aes) (key : Key) (iv : Block) (data : Bytes)
    (whole : data.length % 16 = 0) : (cbcEncryptBytes aes type key iv data).length = data.length := by
  rw [cbcEncryptBytes, join_blocks_length, cbc_encrypt_length, blocks_of_length]
  exact Nat.div_mul_cancel (Nat.dvd_of_mod_eq_zero whole)

theorem cbc_decrypt_bytes_length (aes : BlockCipher) (type : Aes) (key : Key) (iv : Block) (data : Bytes)
    (whole : data.length % 16 = 0) : (cbcDecryptBytes aes type key iv data).length = data.length := by
  rw [cbcDecryptBytes, join_blocks_length, cbc_decrypt_length, blocks_of_length]
  exact Nat.div_mul_cancel (Nat.dvd_of_mod_eq_zero whole)

theorem cbc_decrypt_encrypt_bytes (aes : BlockCipher) (type : Aes) (key : Key) (iv : Block) (data : Bytes)
    (inverse : ∀ block, aes.decipher type key (aes.encipher type key block) = block) (whole : data.length % 16 = 0) :
    cbcDecryptBytes aes type key iv (cbcEncryptBytes aes type key iv data) = data := by
  rw [cbcDecryptBytes, cbcEncryptBytes, blocks_of_join (by decide),
    cbc_decrypt_encrypt _ _ _ _ _ inverse xor_blocks_cancel, join_blocks_of _ whole]

theorem cbc_encrypt_loop (encipher : Block → Block) (input : Memory) (offset : Nat) (iv : Block) (turns : Nat) :
    cbcEncryptLoop encipher input offset iv turns = cbcEncrypt xorBlocks encipher iv (readBlocks input offset turns) := by
  induction turns generalizing offset iv with
  | zero => rfl
  | succ turns ih => rw [cbcEncryptLoop, readBlocks, cbcEncrypt, ih]

theorem cbc_decrypt_loop (decipher : Block → Block) (input : Memory) (offset : Nat) (iv : Block) (turns : Nat) :
    cbcDecryptLoop decipher input offset iv turns = cbcDecrypt xorBlocks decipher iv (readBlocks input offset turns) := by
  induction turns generalizing offset iv with
  | zero => rfl
  | succ turns ih => rw [cbcDecryptLoop, readBlocks, cbcDecrypt, ih]

theorem read_whole_blocks (input : Memory) (length : Nat) (whole : length % 16 = 0) :
    readBlocks input 0 (length / 16) = @blocksOf 16 (bytesAt input 0 length) := by
  have bytes := @join_read_blocks 16 input 0 (length / 16)
  rw [Nat.div_mul_cancel (Nat.dvd_of_mod_eq_zero whole)] at bytes
  rw [← bytes, blocks_of_join (by decide)]

theorem aes_cbc_encrypt_whole (aes : BlockCipher) (type : Aes) (output input : Memory) (length : Nat) (key : Key)
    (iv : Block) (whole : length % 16 = 0) (positive : 0 < length) :
    aesCbcEncryptBuffer aes type output input length key iv =
      cbcEncryptBytes aes type key iv (bytesAt input 0 length) := by
  have turns : (length + 15) / 16 = length / 16 := by omega
  have some : length / 16 ≠ 0 := by omega
  rw [aesCbcEncryptBuffer, turns]
  simp only [if_neg some, extraBlock, if_pos whole, List.append_nil]
  rw [cbc_encrypt_loop, read_whole_blocks input length whole, cbcEncryptBytes]

theorem aes_cbc_decrypt_whole (aes : BlockCipher) (type : Aes) (output input : Memory) (length : Nat) (key : Key)
    (iv : Block) (whole : length % 16 = 0) (positive : 0 < length) :
    aesCbcDecryptBuffer aes type output input length key iv =
      cbcDecryptBytes aes type key iv (bytesAt input 0 length) := by
  have turns : (length + 15) / 16 = length / 16 := by omega
  have some : length / 16 ≠ 0 := by omega
  rw [aesCbcDecryptBuffer, turns]
  simp only [if_neg some, extraBlock, if_pos whole, List.append_nil]
  rw [cbc_decrypt_loop, read_whole_blocks input length whole, cbcDecryptBytes]

section Documented

variable (ssl : OpenSsl) (aes : BlockCipher) (documented : DocumentedCbc ssl aes)

include documented

theorem evp_encrypt_whole (type : Aes) (data : Bytes) (key : Key) (iv : Block) (whole : data.length % 16 = 0)
    (small : data.length < 2 ^ 31) :
    evpEncryptBuffer ssl type data key iv = some (cbcEncryptBytes aes type key iv data) := by
  rw [evpEncryptBuffer, int_of_small _ small, documented.encryptRaw type key iv data whole small]
  simp [cbc_encrypt_bytes_length aes type key iv data whole]

theorem evp_decrypt_whole (type : Aes) (data : Bytes) (key : Key) (iv : Block) (whole : data.length % 16 = 0)
    (small : data.length < 2 ^ 31) :
    evpDecryptBuffer ssl type data key iv = some (cbcDecryptBytes aes type key iv data) := by
  rw [evpDecryptBuffer, int_of_small _ small, documented.decryptRaw type key iv data whole small]
  simp [cbc_decrypt_bytes_length aes type key iv data whole]

end Documented

def openBody (lead : UInt8) (plain : Bytes) : Option Bytes :=
  (unpad 16 plain).bind fun body =>
    if 5 ≤ body.length + 1 ∧ TrailingCrc (lead :: body) then some (lead :: body) else none

def openBlocks (lead : UInt8) (plain : Bytes) : Option Bytes :=
  (openBody lead plain).map fun frame => frame ++ List.replicate (plain.length + 1 - frame.length) 0

variable (first : UInt8) (lead : UInt8) (body : Bytes)

theorem open_body_padded (long : 4 ≤ body.length) (crc : TrailingCrc (first :: body)) :
    openBody first (pad 16 body) = some (first :: body) := by
  rw [openBody, unpad_pad 16 body (by decide) (by decide), Option.bind_some, if_pos ⟨by omega, crc⟩]

theorem open_blocks_padded (long : 4 ≤ body.length) (crc : TrailingCrc (first :: body)) :
    openBlocks first (pad 16 body) = some (first :: (body ++ List.replicate (padLength 16 body.length) 0)) := by
  have zeros : (pad 16 body).length + 1 - (first :: body).length = padLength 16 body.length := by
    simp [pad]
  rw [openBlocks, open_body_padded first body long crc, Option.map_some, zeros, List.cons_append]

theorem valid_frame_crc_tail (zeros : Nat) (small : body.length < 2 ^ 31) :
    validFrameCrc (lead :: (body ++ List.replicate zeros 0)) (body.length + 1) = true ↔
      5 ≤ body.length + 1 ∧ TrailingCrc (lead :: body) := by
  have front : validFrameCrc (lead :: (body ++ List.replicate zeros 0)) (body.length + 1) =
      validFrameCrc (lead :: body) (lead :: body).length := by
    unfold validFrameCrc
    rw [List.length_cons]
    by_cases short : body.length + 1 < 5 ∨ body.length + 1 - 3 > 2 ^ 31 - 1
    · rw [if_pos short, if_pos short]
    · obtain ⟨count, size⟩ : ∃ count, body.length = count + 4 := ⟨body.length - 4, by omega⟩
      rw [if_neg short, if_neg short]
      simp [size, List.take_append, List.getElem?_append]
  rw [front, valid_frame_crc_iff, List.length_cons]
  constructor
  · exact fun parts => ⟨parts.1, parts.2.2⟩
  · exact fun parts => ⟨parts.1, by omega, parts.2⟩

theorem validate_decrypted_frame (plain : Bytes) (whole : plain.length % 16 = 0)
    (small : plain.length < 2 ^ 31) :
    validateDecryptedFrame (lead :: plain) (plain.length + 1) = openBlocks lead plain := by
  rw [validateDecryptedFrame, openBlocks, openBody, List.drop_one, List.tail_cons, Nat.add_sub_cancel,
    pkcs7_unpad_whole plain whole]
  cases opened : unpad 16 plain with
  | none => rfl
  | some body =>
      have shorter := unpad_shorter 16 plain body opened
      have valid := valid_frame_crc_tail lead body (plain.length - body.length) (by omega)
      simp only [Option.map_some, Option.bind_some, List.take_succ_cons, List.take_zero, List.cons_append,
        List.nil_append, valid]
      split
      · rw [Option.map_some, List.length_cons, Nat.add_sub_add_right, List.cons_append]
      · rfl

-- The known answer of the protocol documentation: a block function and an
-- OpenSSL that agree with the real ones on that one block and its digest.
section KnownAnswer

def exchange (left right block : Block) : Block :=
  if block = left then right else if block = right then left else block

def knownIv : Block := Vector.ofFn fun i => UInt8.ofNat i.val
def knownKey : Key := (List.range 32).map UInt8.ofNat
def knownHmacKey : Key := (List.range 32).map fun i => UInt8.ofNat (32 + i)
def knownFrame : Bytes := [0xe0, 0x00, 0x07, 0x6d, 0xe8]

def knownCiphertext : Block :=
  #v[0xb8, 0x65, 0xbc, 0xf5, 0x20, 0xd8, 0x3d, 0x27, 0x08, 0x50, 0x2a, 0xe7, 0x12, 0x63, 0x8a, 0xeb]

def knownInput : Block :=
  xorBlocks #v[0x00, 0x07, 0x6d, 0xe8, 0x0c, 0x0c, 0x0c, 0x0c, 0x0c, 0x0c, 0x0c, 0x0c, 0x0c, 0x0c, 0x0c, 0x0c] knownIv

def knownDigest : Bytes :=
  [0x27, 0x0f, 0xec, 0x51, 0xe9, 0x79, 0x45, 0x41, 0xf4, 0x7a, 0xab, 0x3d, 0xd9, 0xf9, 0x47, 0xce,
    0xf3, 0x82, 0x04, 0x59, 0x53, 0xaf, 0x73, 0xb7, 0x39, 0x01, 0x75, 0x95, 0x5f, 0xf9, 0x93, 0xc7]

def knownAes : BlockCipher :=
  ⟨fun _ _ => exchange knownInput knownCiphertext, fun _ _ => exchange knownInput knownCiphertext⟩

def knownOpenSsl : OpenSsl where
  evpEncrypt type padding key iv data inl :=
    if inl < 0 then none
    else
      let data := data.take inl.toNat
      let whole := data.length / 16 * 16
      if padding then
        let out := cbcEncryptBytes knownAes type key iv (pad 16 data)
        some (out.take whole, out.drop whole)
      else if data.length % 16 ≠ 0 then none
      else some (cbcEncryptBytes knownAes type key iv data, [])
  evpDecrypt type padding key iv data inl :=
    if inl < 0 then none
    else
      let data := data.take inl.toNat
      if data.length % 16 ≠ 0 then none
      else if padding then
        (unpad 16 (cbcDecryptBytes knownAes type key iv data)).map fun out =>
          (out.take (data.length - 16), out.drop (data.length - 16))
      else some (cbcDecryptBytes knownAes type key iv data, [])
  hmacSha256 _ _ := some knownDigest

theorem exchange_twice (left right block : Block) : exchange left right (exchange left right block) = block := by
  unfold exchange
  split
  · rename_i first
    rw [first]
    split
    · rename_i same
      exact same
    · rw [if_pos rfl]
  · rename_i notLeft
    split
    · rename_i second
      rw [if_pos rfl, second]
    · rfl

theorem known_documented : DocumentedCbc knownOpenSsl knownAes where
  inverse _ _ block := exchange_twice _ _ block
  encryptRaw type key iv data whole _ := by
    simp [knownOpenSsl, whole]
  decryptRaw type key iv data whole _ := by
    simp [knownOpenSsl, whole]
  encryptPadded type key iv data _ := by
    simp [knownOpenSsl]
  decryptPadded type key iv data whole _ := by
    have nonnegative : ¬ (data.length : Int) < 0 := by omega
    simp only [knownOpenSsl, if_neg nonnegative, Int.toNat_natCast, List.take_length, whole, ne_eq, not_true_eq_false,
      if_false, if_true, Option.map_map, Function.comp_def, List.take_append_drop, Option.map_id']

end KnownAnswer

end Vscp
