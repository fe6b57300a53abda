import Vscp.BinaryProtocol

set_option autoImplicit false

namespace Vscp

open ByteMemory BlockMode

def cbcSeal (aes : BlockCipher) (type : Aes) (key : Key) (iv : Block) (plaintext : Bytes) : Option Bytes :=
  some (cbcEncryptBytes aes type key iv plaintext)

def cbcOpen (aes : BlockCipher) (input : Bytes) (type : Aes) (key : Key) (iv : Block) (realLen : Nat) : Option Bytes :=
  some (cbcDecryptBytes aes type key iv ((input.drop 1).take (realLen - 1)))

theorem encrypt_frame_with_congr (left right : Aes → Key → Block → Bytes → Option Bytes) (random : Option Block)
    (input : Bytes) (key : Option Key) (iv : Option Block) (nAlgorithm : UInt8)
    (same : ∀ type key iv plaintext, pkcs7Pad (input.drop 1) = some plaintext →
      left type key iv plaintext = right type key iv plaintext) :
    encryptFrameWith left random input key iv nAlgorithm = encryptFrameWith right random input key iv nAlgorithm := by
  cases input with
  | nil => rfl
  | cons lead body =>
      simp only [encryptFrameWith]
      cases padding : pkcs7Pad body with
      | none => rfl
      | some plaintext =>
          have agree (type : Aes) (key : Key) (iv : Block) : left type key iv plaintext = right type key iv plaintext :=
            same type key iv plaintext padding
          simp only [Option.bind_eq_bind, Option.bind_some, agree]

theorem decrypt_frame_with_congr (left right : Aes → Key → Block → Nat → Option Bytes) (input : Bytes)
    (key : Option Key) (iv : Option Block) (nAlgorithm : UInt8)
    (same : ∀ type key chosen realLen, realLen = (if iv = none then input.length - 16 else input.length) →
      17 ≤ realLen → (realLen - 1) % 16 = 0 → left type key chosen realLen = right type key chosen realLen) :
    decryptFrameWith left input key iv nAlgorithm = decryptFrameWith right input key iv nAlgorithm := by
  cases input with
  | nil => rfl
  | cons lead body =>
      unfold decryptFrameWith
      dsimp only
      split
      · rfl
      split
      · rfl
      generalize realLength : (if iv = none then (lead :: body).length - 16 else (lead :: body).length) = realLen
      split
      · rfl
      rename_i shape
      cases getOpenSslCipherFromAlgorithm (resolveFrameCryptoAlgorithm nAlgorithm (lead :: body)) with
      | none => rfl
      | some type =>
          cases key with
          | none => rfl
          | some key =>
              dsimp only
              rw [same type key _ realLen realLength.symm (by omega) (by omega)]

section Documented

variable (ssl : OpenSsl) (aes : BlockCipher) (documented : DocumentedCbc ssl aes)

include documented

theorem encrypt_frame_seals (useOpenSsl : Bool) (random : Option Block) (output : Memory) (input : Bytes)
    (key : Option Key) (iv : Option Block) (nAlgorithm : UInt8) (small : (pad 16 (input.drop 1)).length < 2 ^ 31) :
    encryptFrame ssl aes useOpenSsl random output input key iv nAlgorithm =
      encryptFrameWith (cbcSeal aes) random input key iv nAlgorithm := by
  have whole := padded_whole 16 (input.drop 1) (by decide)
  have size := padded_length 16 (input.drop 1) (by decide)
  have padding : pkcs7Pad (input.drop 1) = some (pad 16 (input.drop 1)) := pkcs7_pad_small _ (by omega)
  cases useOpenSsl with
  | true =>
      apply encrypt_frame_with_congr
      intro type key iv plaintext padded
      obtain rfl := Option.some.inj (padding.symm.trans padded)
      exact evp_encrypt_whole ssl aes documented type _ key iv whole small
  | false =>
      apply encrypt_frame_with_congr
      intro type key iv plaintext padded
      obtain rfl := Option.some.inj (padding.symm.trans padded)
      have bytes := bytes_at_prefix (pad 16 (input.drop 1)) [] (fun _ => 0) _ rfl
      have sealedSize := cbc_encrypt_bytes_length aes type key iv _ whole
      rw [List.append_nil] at bytes
      dsimp only
      rw [Nat.mod_eq_of_lt (by omega), aes_cbc_encrypt_whole aes type _ _ _ key iv whole (by omega), bytes]
      have all := bytes_at_prefix (cbcEncryptBytes aes type key iv (pad 16 (input.drop 1))) [] (fun i => output (1 + i)) _
        sealedSize.symm
      rw [List.append_nil] at all
      rw [all]
      rfl

theorem decrypt_frame_opens (useOpenSsl : Bool) (output : Memory) (input : Bytes) (key : Option Key)
    (iv : Option Block) (nAlgorithm : UInt8)
    (small : (if iv = none then input.length - 16 else input.length) ≤ 2 ^ 31) :
    decryptFrame ssl aes useOpenSsl output input key iv nAlgorithm =
      decryptFrameWith (cbcOpen aes input) input key iv nAlgorithm := by
  have within (realLen : Nat) (chosen : realLen = if iv = none then input.length - 16 else input.length) :
      ((input.drop 1).take (realLen - 1)).length = realLen - 1 ∧ realLen ≤ 2 ^ 31 := by
    rw [← chosen] at small
    rw [List.length_take, List.length_drop]
    split at chosen <;> omega
  cases useOpenSsl with
  | true =>
      rw [decryptFrame, if_pos rfl]
      apply decrypt_frame_with_congr
      intro type key iv realLen chosen long shape
      obtain ⟨size, bound⟩ := within realLen chosen
      exact evp_decrypt_whole ssl aes documented type _ key iv (by omega) (by omega)
  | false =>
      rw [decryptFrame, if_neg Bool.false_ne_true]
      apply decrypt_frame_with_congr
      intro type key iv realLen chosen long shape
      obtain ⟨size, bound⟩ := within realLen chosen
      have length : (realLen % 2 ^ 32 + (2 ^ 32 - 1)) % 2 ^ 32 = realLen - 1 := by omega
      have bytes : bytesAt (ofBytes (input.drop 1) fun _ => 0) 0 (realLen - 1) = (input.drop 1).take (realLen - 1) := by
        rw [List.length_take] at size
        rw [bytes_at_window _ _ _ _ (by omega), List.drop_zero]
      have opened := cbc_decrypt_bytes_length aes type key iv ((input.drop 1).take (realLen - 1)) (by omega)
      dsimp only
      rw [length, aes_cbc_decrypt_whole aes type _ _ _ key iv shape (by omega), bytes]
      have all := bytes_at_prefix (cbcDecryptBytes aes type key iv ((input.drop 1).take (realLen - 1))) []
        (fun i => output (1 + i)) _ (opened.trans size).symm
      rw [List.append_nil] at all
      rw [all]
      rfl

end Documented

-- A wire frame of the legacy layout, with the initialization vector at its end or handed over.
theorem open_with_tail (aes : BlockCipher) (first : UInt8) (data : Bytes) (iv : Block) (key : Key) (nAlgorithm : UInt8)
    (type : Aes) (whole : data.length % 16 = 0) (long : 16 ≤ data.length) (small : data.length < 2 ^ 31)
    (ciphered : resolveFrameCryptoAlgorithm nAlgorithm (first :: (data ++ iv.toList)) ≠ encryptionNone)
    (known : getOpenSslCipherFromAlgorithm (resolveFrameCryptoAlgorithm nAlgorithm (first :: (data ++ iv.toList))) =
      some type) :
    decryptFrameWith (cbcOpen aes (first :: (data ++ iv.toList))) (first :: (data ++ iv.toList)) (some key) none
      nAlgorithm = openBlocks first (cbcDecryptBytes aes type key iv data) := by
  have total : (first :: (data ++ iv.toList)).length - 16 = data.length + 1 := by simp
  have ivBlock : readBlock (ofBytes (first :: (data ++ iv.toList)) fun _ => 0) (data.length + 1) = iv := by
    have here := iv_at (first :: data) iv [] fun _ => 0
    rwa [List.append_nil, List.cons_append, List.length_cons] at here
  have plain := validate_decrypted_frame first (cbcDecryptBytes aes type key iv data)
  rw [cbc_decrypt_bytes_length aes type key iv data whole] at plain
  unfold decryptFrameWith
  dsimp only
  rw [if_neg ciphered, if_neg (by simp; omega), if_pos rfl, total, if_neg (by omega), known]
  simp only [cbcOpen, Option.getD_none, ivBlock, List.drop_one, List.tail_cons, Nat.add_sub_cancel, List.take_left,
    Option.bind_some]
  exact plain whole small

theorem open_with_given (aes : BlockCipher) (first : UInt8) (data : Bytes) (iv : Block) (key : Key) (nAlgorithm : UInt8)
    (type : Aes) (whole : data.length % 16 = 0) (long : 16 ≤ data.length) (small : data.length < 2 ^ 31)
    (ciphered : resolveFrameCryptoAlgorithm nAlgorithm (first :: data) ≠ encryptionNone)
    (known : getOpenSslCipherFromAlgorithm (resolveFrameCryptoAlgorithm nAlgorithm (first :: data)) = some type) :
    decryptFrameWith (cbcOpen aes (first :: data)) (first :: data) (some key) (some iv) nAlgorithm =
      openBlocks first (cbcDecryptBytes aes type key iv data) := by
  have plain := validate_decrypted_frame first (cbcDecryptBytes aes type key iv data)
  rw [cbc_decrypt_bytes_length aes type key iv data whole] at plain
  unfold decryptFrameWith
  dsimp only
  rw [if_neg ciphered, if_neg (fun both => Option.some_ne_none iv both.1), if_neg (Option.some_ne_none iv),
    List.length_cons, if_neg (by omega), known]
  simp only [cbcOpen, Option.getD_some, List.drop_one, List.tail_cons, Nat.add_sub_cancel, List.take_length,
    Option.bind_some]
  exact plain whole small

theorem legacy_fits (lead : UInt8) (length : Nat) :
    Binary.plausibleFrame lead length Binary.framingVersion = true ↔
      Binary.KnownType lead ∧ lead &&& (0x0f : UInt8) ≤ encryptionAes256 ∧ 5 ≤ length ∧
        length ≤ Binary.maxFrameSize ∧
        (lead &&& (0x0f : UInt8) = 0 ∨ (33 ≤ length ∧ (length - 17) % 16 = 0)) := by
  have every : ∀ i : Fin 256, Binary.KnownType (UInt8.ofFin i) ↔
      ¬ (UInt8.ofFin i >>> (4 : UInt8) > 1 ∧ UInt8.ofFin i >>> (4 : UInt8) < 14) := by
    decide +kernel
  have types := every lead.toFin
  rw [UInt8.ofFin_toFin] at types
  have current : ¬ Binary.framingVersion > Binary.authenticatedVersion := by decide
  have legacy : Binary.framingVersion ≠ Binary.authenticatedVersion := by decide
  simp only [Binary.plausibleFrame, current, or_false, if_neg legacy, types]
  split
  · rename_i outside
    simp only [Bool.false_eq_true, false_iff]
    rintro ⟨type, nibble, long, fits, _⟩
    rcases outside with middle | strong | short | tooLong
    · exact type middle
    · exact absurd nibble (UInt8.not_le.mpr strong)
    · omega
    · omega
  · rename_i inside
    rw [decide_eq_true_iff]
    constructor
    · intro shape
      exact ⟨fun middle => inside (Or.inl middle), UInt8.not_lt.mp fun strong => inside (Or.inr (Or.inl strong)),
        by omega, by omega, shape⟩
    · exact fun parts => parts.2.2.2.2

theorem unknown_cipher (algorithm : UInt8) (strong : ¬ algorithm ≤ encryptionAes256) :
    getOpenSslCipherFromAlgorithm algorithm = none := by
  unfold getOpenSslCipherFromAlgorithm
  split_ifs with one two three
  · exact absurd (one ▸ by decide) strong
  · exact absurd (two ▸ by decide) strong
  · exact absurd (three ▸ by decide) strong
  · rfl

theorem wire_parts (lead : UInt8) (body : Bytes) (long : 33 ≤ (lead :: body).length) :
    ∃ (data : Bytes) (iv : Block), body = data ++ iv.toList ∧ data.length = (lead :: body).length - 17 := by
  rw [List.length_cons] at long
  have tail := bytes_at_window body (fun _ => 0) (body.length - 16) 16 (by omega)
  rw [← @read_block_bytes 16, List.take_of_length_le (by rw [List.length_drop]; omega)] at tail
  refine ⟨body.take (body.length - 16), readBlock (ofBytes body fun _ => 0) (body.length - 16), ?_, ?_⟩
  · rw [tail, List.take_append_drop]
  · rw [List.length_take, List.length_cons]
    omega

theorem decode_opens (ssl : OpenSsl) (aes : BlockCipher) (documented : DocumentedCbc ssl aes) (wire : Bytes)
    (key hmacKey : Option Key) (nAlgorithm : UInt8) (ciphered : wire.getD 0 0 &&& (0x0f : UInt8) ≠ 0)
    (named : resolveFrameCryptoAlgorithm nAlgorithm wire = wire.getD 0 0 &&& (0x0f : UInt8))
    (type : Binary.KnownType (wire.getD 0 0)) (fits : wire.length ≤ Binary.maxFrameSize) :
    decryptFrameWith (cbcOpen aes wire) wire key none nAlgorithm =
      (Binary.decode ssl wire key Binary.framingVersion hmacKey).map fun frame =>
        frame ++ List.replicate (wire.length - 16 - frame.length) 0 := by
  have small : wire.length ≤ 4096 := fits
  have legacy : Binary.framingVersion ≠ Binary.authenticatedVersion := by decide
  cases wire with
  | nil => rfl
  | cons lead body =>
      rw [List.getD_cons_zero] at ciphered named type
      have checks := legacy_fits lead (lead :: body).length
      have secret : ¬ lead &&& (0x0f : UInt8) = encryptionNone := ciphered
      have algorithm : resolveFrameCryptoAlgorithm nAlgorithm (lead :: body) ≠ encryptionNone := by rwa [named]
      by_cases shape : 33 ≤ (lead :: body).length ∧ ((lead :: body).length - 17) % 16 = 0
      · obtain ⟨data, iv, rfl, size⟩ := wire_parts lead body shape.1
        cases known : getOpenSslCipherFromAlgorithm (lead &&& (0x0f : UInt8)) with
        | none =>
            have cipher : Binary.cipher (lead &&& (0x0f : UInt8)) = none := known
            have rejected : Binary.decode ssl (lead :: (data ++ iv.toList)) key Binary.framingVersion hmacKey = none := by
              simp only [Binary.decode, List.getD_cons_zero, cipher, if_neg legacy, if_neg ciphered]
              split
              · rfl
              · cases key <;> rfl
            rw [rejected]
            simp only [decryptFrameWith, named, known, if_neg secret]
            split_ifs <;> rfl
        | some aesType =>
            have cipher03 : lead &&& (0x0f : UInt8) ≤ encryptionAes256 := (known_algorithm_bounds _ aesType known).2.1
            have accepted := checks.mpr ⟨type, cipher03, by omega, fits, Or.inr shape⟩
            cases key with
            | none =>
                have rejected : Binary.decode ssl (lead :: (data ++ iv.toList)) none Binary.framingVersion hmacKey = none := by
                  simp only [Binary.decode, List.getD_cons_zero, if_neg legacy, if_neg ciphered, ite_self]
                rw [rejected]
                simp only [decryptFrameWith, named, known, if_neg secret]
                split_ifs <;> rfl
            | some aesKey =>
                have total : (lead :: (data ++ iv.toList)).length = data.length + 17 := by simp
                rw [total] at accepted shape
                rw [Binary.decode_ciphered ssl aes documented lead data iv aesKey hmacKey _ aesType legacy ciphered known
                  accepted (by omega) (by omega),
                  open_with_tail aes lead data iv aesKey nAlgorithm aesType (by omega) (by omega) (by omega) algorithm
                  (by rw [named]; exact known), openBlocks, cbc_decrypt_bytes_length aes aesType aesKey iv data (by omega),
                  total, show data.length + 17 - 16 = data.length + 1 by omega]
      · have rejected : Binary.decode ssl (lead :: body) key Binary.framingVersion hmacKey = none :=
          Binary.decode_unfit ssl _ key hmacKey _ fun passes => (checks.mp passes).2.2.2.2.elim ciphered shape
        rw [rejected]
        simp only [decryptFrameWith, if_neg algorithm, if_true, true_and]
        split
        · rfl
        · rw [if_pos (by omega)]
          rfl

end Vscp
