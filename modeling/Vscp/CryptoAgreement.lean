import Vscp.FrameBackends

set_option autoImplicit false

namespace Vscp

open ByteMemory BlockMode

def NamesAlgorithm (named : UInt8) (wire : Bytes) : Prop :=
  named = encryptionFromTypeByte ∨ named = wire.getD 0 0 &&& (0x0f : UInt8)

theorem named_algorithm (named : UInt8) (wire : Bytes) (names : NamesAlgorithm named wire) :
    resolveFrameCryptoAlgorithm named wire = wire.getD 0 0 &&& (0x0f : UInt8) := by
  unfold resolveFrameCryptoAlgorithm
  split
  · rfl
  · rename_i given
    rcases names with typeByte | nibble
    · exact absurd (by rw [typeByte]; decide) given
    · exact nibble

theorem open_given_or_tail (aes : BlockCipher) (wire : Bytes) (key : Option Key) (named : UInt8)
    (names : NamesAlgorithm named wire) (ciphered : wire.getD 0 0 &&& (0x0f : UInt8) ≠ 0) :
    decryptFrameWith (cbcOpen aes (wire.take (wire.length - 16))) (wire.take (wire.length - 16)) key
        (some (readBlock (ofBytes wire fun _ => 0) (wire.length - 16))) named =
      decryptFrameWith (cbcOpen aes wire) wire key none named := by
  have algorithm := named_algorithm named wire names
  cases wire with
  | nil => rfl
  | cons lead body =>
      rw [List.getD_cons_zero] at ciphered algorithm
      have cipheredTail : ¬ resolveFrameCryptoAlgorithm named (lead :: body) = encryptionNone := by
        rw [algorithm]
        exact ciphered
      cases behind : (lead :: body).length - 16 with
      | zero =>
          simp only [List.take_zero, decryptFrameWith]
          rw [if_neg cipheredTail, if_pos ⟨trivial, by omega⟩]
      | succ count =>
          have front : (lead :: body.take count).length = count + 1 := by
            rw [List.length_cons] at behind
            rw [List.length_cons, List.length_take]
            omega
          have sameAlgorithm : resolveFrameCryptoAlgorithm named (lead :: body.take count) =
              resolveFrameCryptoAlgorithm named (lead :: body) := rfl
          rw [List.take_succ_cons]
          simp only [decryptFrameWith, sameAlgorithm, if_neg cipheredTail, reduceCtorEq, false_and, if_false, front,
            true_and, if_true, Option.getD_some, Option.getD_none, behind, cbcOpen, List.drop_one, List.tail_cons,
            Nat.add_sub_cancel, List.take_take, Nat.min_self]
          by_cases short : (lead :: body).length < 1 + 16 + 16
          · rw [if_pos short, if_pos (by omega)]
          · rw [if_neg short]

theorem known_type_kept (lead algorithm : UInt8) (cipher : algorithm ≤ encryptionAes256) :
    Binary.KnownType (encryptLead lead algorithm) ↔ Binary.KnownType lead := by
  have every : ∀ i : Fin 256, ∀ j : Fin 4,
      Binary.KnownType (encryptLead (UInt8.ofFin i) (UInt8.ofNat j.val)) ↔ Binary.KnownType (UInt8.ofFin i) := by
    decide +kernel
  have bound : algorithm.toNat ≤ 3 := cipher
  have here := every lead.toFin ⟨algorithm.toNat, by omega⟩
  rwa [UInt8.ofFin_toFin, UInt8.ofNat_toNat] at here

section Agreement

variable (ssl : OpenSsl) (aes : BlockCipher) (documented : DocumentedCbc ssl aes)

include documented

-- Whatever they accept, the decoders accept together.
theorem decoders_agree (target : Memory) (wire : Bytes) (key hmacKey : Option Key) (fits : wire.length - 16 ≤ 2 ^ 31)
    (ciphered : wire.getD 0 0 &&& (0x0f : UInt8) ≠ 0) (useOpenSsl : Bool) (named : UInt8)
    (names : NamesAlgorithm named wire) :
    decryptFrame ssl aes useOpenSsl target wire key none named =
      decryptFrame ssl aes true target wire key none encryptionFromTypeByte ∧
    decryptFrame ssl aes useOpenSsl target (wire.take (wire.length - 16)) key
        (some (readBlock (ofBytes wire fun _ => 0) (wire.length - 16))) named =
      decryptFrame ssl aes true target wire key none encryptionFromTypeByte ∧
    (Binary.decode ssl wire key Binary.framingVersion hmacKey ≠ none ↔
      decryptFrame ssl aes useOpenSsl target wire key none named ≠ none ∧
        Binary.KnownType (wire.getD 0 0) ∧ wire.length ≤ Binary.maxFrameSize) := by
  have tail (backend : Bool) (algorithm : UInt8) :
      decryptFrame ssl aes backend target wire key none algorithm =
        decryptFrameWith (cbcOpen aes wire) wire key none algorithm :=
    decrypt_frame_opens ssl aes documented backend target wire key none algorithm fits
  have byType : decryptFrameWith (cbcOpen aes wire) wire key none named =
      decryptFrameWith (cbcOpen aes wire) wire key none encryptionFromTypeByte := by
    have first := named_algorithm named wire names
    have second := named_algorithm encryptionFromTypeByte wire (Or.inl rfl)
    cases wire with
    | nil => rfl
    | cons lead body => simp only [decryptFrameWith, first, second]
  refine ⟨by rw [tail, tail, byType], ?_, ?_⟩
  · rw [decrypt_frame_opens ssl aes documented useOpenSsl target _ key _ named (by
      rw [if_neg (Option.some_ne_none _), List.length_take]
      omega), open_given_or_tail aes wire key named names ciphered, byType, tail]
  · rw [tail]
    by_cases inside : Binary.KnownType (wire.getD 0 0) ∧ wire.length ≤ Binary.maxFrameSize
    · rw [decode_opens ssl aes documented wire key hmacKey named ciphered (named_algorithm named wire names) inside.1 inside.2]
      constructor
      · exact fun accepted => ⟨fun rejected => accepted (Option.map_eq_none_iff.mp rejected), inside⟩
      · exact fun both rejected => both.1 (Option.map_eq_none_iff.mpr rejected)
    · have rejected := Binary.decode_unfit ssl wire key hmacKey Binary.framingVersion fun passes =>
        inside ⟨((legacy_fits _ _).mp passes).1, ((legacy_fits _ _).mp passes).2.2.2.1⟩
      constructor
      · exact fun accepted => absurd rejected accepted
      · exact fun both => absurd both.2 inside

theorem sealed_frame_recovered (random iv : Option Block) (output target : Memory) (lead : UInt8) (body : Bytes)
    (key : Key) (hmacKey : Option Key) (nAlgorithm : UInt8) (type : Aes) (chosen : Block) (long : 4 ≤ body.length)
    (crc : TrailingCrc (lead :: body)) (fits : (pad 16 body).length < 2 ^ 31)
    (known : getOpenSslCipherFromAlgorithm (resolveFrameCryptoAlgorithm nAlgorithm (lead :: body)) = some type)
    (ivChosen : getEncryptionIv random iv = some chosen) :
    let frame := encryptLead lead (resolveFrameCryptoAlgorithm nAlgorithm (lead :: body)) :: body
    let shown := frame ++ List.replicate (padLength 16 body.length) 0
    ∃ wire,
      (∀ useOpenSsl, encryptFrame ssl aes useOpenSsl random output (lead :: body) (some key) iv nAlgorithm = some wire) ∧
      (∀ useOpenSsl named, NamesAlgorithm named wire →
        decryptFrame ssl aes useOpenSsl target wire (some key) none named = some shown ∧
        decryptFrame ssl aes useOpenSsl target (wire.take (wire.length - 16)) (some key) (some chosen) named =
          some shown) ∧
      Binary.decode ssl wire (some key) Binary.framingVersion hmacKey =
        if Binary.KnownType lead ∧ wire.length ≤ Binary.maxFrameSize then some frame else none := by
  obtain ⟨nonzero, cipher03, _⟩ := known_algorithm_bounds _ type known
  have nibble := encrypt_lead_algorithm lead _ type known
  have whole := padded_whole 16 body (by decide)
  have size := padded_length 16 body (by decide)
  have plain := cbc_decrypt_encrypt_bytes aes type key chosen (pad 16 body) (documented.inverse type key) whole
  have dataSize := cbc_encrypt_bytes_length aes type key chosen (pad 16 body) whole
  have padding := pkcs7_pad_small body (by omega)
  have crcAgain := (trailing_crc_lead lead (encryptLead lead (resolveFrameCryptoAlgorithm nAlgorithm (lead :: body)))
    body (by omega)).mp crc
  have opened := open_blocks_padded _ body long crcAgain
  have types := known_type_kept lead _ cipher03
  have encrypts (useOpenSsl : Bool) := encrypt_frame_seals ssl aes documented useOpenSsl random output (lead :: body)
    (some key) iv nAlgorithm fits
  simp only [encryptFrameWith, known, if_neg nonzero, padding, ivChosen, cbcSeal, Option.bind_eq_bind,
    Option.bind_some] at encrypts
  generalize resolveFrameCryptoAlgorithm nAlgorithm (lead :: body) = algorithm at *
  intro frame shown
  generalize cbcEncryptBytes aes type key chosen (pad 16 body) = data at *
  refine ⟨_, encrypts, ?_, ?_⟩
  · intro useOpenSsl named names
    have resolved := named_algorithm named _ names
    rw [List.getD_cons_zero, nibble] at resolved
    have front : (encryptLead lead algorithm :: (data ++ chosen.toList)).take
        ((encryptLead lead algorithm :: (data ++ chosen.toList)).length - 16) = encryptLead lead algorithm :: data := by
      simp
    have resolvedFront : resolveFrameCryptoAlgorithm named (encryptLead lead algorithm :: data) = algorithm := resolved
    rw [front]
    constructor
    · rw [decrypt_frame_opens ssl aes documented _ _ _ _ _ _ (by simp; omega),
        open_with_tail aes _ data chosen key named type (by omega) (by omega) (by omega) (by rwa [resolved])
          (by rwa [resolved]), plain, opened]
      rfl
    · rw [decrypt_frame_opens ssl aes documented _ _ _ _ _ _ (by simp; omega),
        open_with_given aes _ data chosen key named type (by omega) (by omega) (by omega) (by rwa [resolvedFront])
          (by rwa [resolvedFront]), plain, opened]
      rfl
  · have total : (encryptLead lead algorithm :: (data ++ chosen.toList)).length = data.length + 17 := by simp
    have legacy : Binary.framingVersion ≠ Binary.authenticatedVersion := by decide
    have accepts := legacy_fits (encryptLead lead algorithm) (data.length + 17)
    rw [types, nibble] at accepts
    rw [total]
    by_cases inside : Binary.KnownType lead ∧ data.length + 17 ≤ Binary.maxFrameSize
    · have small : data.length + 17 ≤ 4096 := inside.2
      rw [if_pos inside, Binary.decode_ciphered ssl aes documented _ data chosen key hmacKey _ type legacy
        (by rwa [nibble]) (by rwa [nibble])
        (accepts.mpr ⟨inside.1, cipher03, by omega, inside.2, Or.inr ⟨by omega, by omega⟩⟩) (by omega) (by omega), plain,
        open_body_padded _ body long crcAgain]
    · rw [if_neg inside]
      apply Binary.decode_unfit
      rw [List.getD_cons_zero, total]
      exact fun passes => inside ⟨(accepts.mp passes).1, (accepts.mp passes).2.2.2.1⟩

end Agreement

theorem frame_crypto_agreement (ssl : OpenSsl) (aes : BlockCipher) (documented : DocumentedCbc ssl aes)
    (random iv : Option Block) (output target : Memory) (lead : UInt8) (body : Bytes) (key : Key)
    (hmacKey cipherKey : Option Key) (nAlgorithm : UInt8) (type : Aes) (chosen : Block) (ciphertext : Bytes)
    (long : 4 ≤ body.length) (crc : TrailingCrc (lead :: body)) (fits : (pad 16 body).length < 2 ^ 31)
    (known : getOpenSslCipherFromAlgorithm (resolveFrameCryptoAlgorithm nAlgorithm (lead :: body)) = some type)
    (ivChosen : getEncryptionIv random iv = some chosen)
    (cipherFits : ciphertext.length - 16 ≤ 2 ^ 31) (ciphered : ciphertext.getD 0 0 &&& (0x0f : UInt8) ≠ 0) :
    let frame := encryptLead lead (resolveFrameCryptoAlgorithm nAlgorithm (lead :: body)) :: body
    let shown := frame ++ List.replicate (padLength 16 body.length) 0
    (∃ wire,
      (∀ useOpenSsl, encryptFrame ssl aes useOpenSsl random output (lead :: body) (some key) iv nAlgorithm = some wire) ∧
      (∀ useOpenSsl named, NamesAlgorithm named wire →
        decryptFrame ssl aes useOpenSsl target wire (some key) none named = some shown ∧
        decryptFrame ssl aes useOpenSsl target (wire.take (wire.length - 16)) (some key) (some chosen) named =
          some shown) ∧
      Binary.decode ssl wire (some key) Binary.framingVersion hmacKey =
        if Binary.KnownType lead ∧ wire.length ≤ Binary.maxFrameSize then some frame else none) ∧
    (∀ useOpenSsl named, NamesAlgorithm named ciphertext →
      decryptFrame ssl aes useOpenSsl target ciphertext cipherKey none named =
        decryptFrame ssl aes true target ciphertext cipherKey none encryptionFromTypeByte ∧
      decryptFrame ssl aes useOpenSsl target (ciphertext.take (ciphertext.length - 16)) cipherKey
          (some (readBlock (ofBytes ciphertext fun _ => 0) (ciphertext.length - 16))) named =
        decryptFrame ssl aes true target ciphertext cipherKey none encryptionFromTypeByte ∧
      (Binary.decode ssl ciphertext cipherKey Binary.framingVersion hmacKey ≠ none ↔
        decryptFrame ssl aes useOpenSsl target ciphertext cipherKey none named ≠ none ∧
          Binary.KnownType (ciphertext.getD 0 0) ∧ ciphertext.length ≤ Binary.maxFrameSize)) :=
  ⟨sealed_frame_recovered ssl aes documented random iv output target lead body key hmacKey nAlgorithm type chosen long
      crc fits known ivChosen,
    decoders_agree ssl aes documented target ciphertext cipherKey hmacKey cipherFits ciphered⟩

theorem frame_crypto_agreement_example :
    let frame := encryptLead 0xe0 (resolveFrameCryptoAlgorithm 3 [0xe0, 0x00, 0x07, 0x6d, 0xe8]) :: [0x00, 0x07, 0x6d, 0xe8]
    let shown := frame ++ List.replicate (padLength 16 4) 0
    let ciphertext := 0xe3 :: (knownCiphertext.toList ++ knownIv.toList)
    (∃ wire,
      (∀ useOpenSsl, encryptFrame knownOpenSsl knownAes useOpenSsl none (fun _ => 0) [0xe0, 0x00, 0x07, 0x6d, 0xe8]
        (some knownKey) (some knownIv) 3 = some wire) ∧
      (∀ useOpenSsl named, NamesAlgorithm named wire →
        decryptFrame knownOpenSsl knownAes useOpenSsl (fun _ => 0) wire (some knownKey) none named = some shown ∧
        decryptFrame knownOpenSsl knownAes useOpenSsl (fun _ => 0) (wire.take (wire.length - 16)) (some knownKey)
          (some knownIv) named = some shown) ∧
      Binary.decode knownOpenSsl wire (some knownKey) Binary.framingVersion none =
        if Binary.KnownType 0xe0 ∧ wire.length ≤ Binary.maxFrameSize then some frame else none) ∧
    (∀ useOpenSsl named, NamesAlgorithm named ciphertext →
      decryptFrame knownOpenSsl knownAes useOpenSsl (fun _ => 0) ciphertext (some knownKey) none named =
        decryptFrame knownOpenSsl knownAes true (fun _ => 0) ciphertext (some knownKey) none encryptionFromTypeByte ∧
      decryptFrame knownOpenSsl knownAes useOpenSsl (fun _ => 0) (ciphertext.take (ciphertext.length - 16)) (some knownKey)
          (some (readBlock (ofBytes ciphertext fun _ => 0) (ciphertext.length - 16))) named =
        decryptFrame knownOpenSsl knownAes true (fun _ => 0) ciphertext (some knownKey) none encryptionFromTypeByte ∧
      (Binary.decode knownOpenSsl ciphertext (some knownKey) Binary.framingVersion none ≠ none ↔
        decryptFrame knownOpenSsl knownAes useOpenSsl (fun _ => 0) ciphertext (some knownKey) none named ≠ none ∧
          Binary.KnownType (ciphertext.getD 0 0) ∧ ciphertext.length ≤ Binary.maxFrameSize)) :=
  frame_crypto_agreement knownOpenSsl knownAes known_documented none (some knownIv) (fun _ => 0) (fun _ => 0) 0xe0
    [0x00, 0x07, 0x6d, 0xe8] knownKey none (some knownKey) 3 .aes256 knownIv
    (0xe3 :: (knownCiphertext.toList ++ knownIv.toList)) (by decide) (by decide) (by decide) rfl rfl (by decide)
    (by decide)

theorem trailing_crc_appended (lead : UInt8) (content : Bytes) :
    TrailingCrc (lead :: (content ++ bytes16 (crcFast content))) := by
  have word := big_endian_word (crcFast content)
  simp only [TrailingCrc, bytes16, List.length_cons, List.length_append, List.length_nil]
  simp [word]

-- A body whose padding no longer fits an int.
section Large

variable (body : Bytes) (long : body.length = 2 ^ 31)

include long

theorem large_body_parts : pkcs7Pad body = some (pad 16 body) ∧ resolveFrameCryptoAlgorithm 3 (0 :: body) = 3 ∧
    intOf (pad 16 body).length < 0 := by
  have size := padded_length 16 body (by decide)
  refine ⟨pkcs7_pad_small body (by omega), Binary.resolve_named 3 _ (by decide), ?_⟩
  rw [size, long]
  decide

theorem large_body_openssl :
    encryptFrame knownOpenSsl knownAes true none (fun _ => 0) (0 :: body) (some knownKey) (some knownIv) 3 = none := by
  obtain ⟨padding, named, negative⟩ := large_body_parts body long
  have known : getOpenSslCipherFromAlgorithm 3 = some .aes256 := rfl
  have secret : ¬ (3 : UInt8) = encryptionNone := by decide
  have refused : evpEncryptBuffer knownOpenSsl .aes256 (pad 16 body) knownKey knownIv = none := by
    simp only [evpEncryptBuffer, knownOpenSsl, if_pos negative]
  simp only [encryptFrame, if_true, encryptFrameOpenSsl, encryptFrameWith, named, known, if_neg secret, padding,
    getEncryptionIv, refused, Option.bind_eq_bind, Option.bind_some, Option.bind_none]

theorem large_body_internal :
    encryptFrame knownOpenSsl knownAes false none (fun _ => 0) (0 :: body) (some knownKey) (some knownIv) 3 ≠
      none := by
  obtain ⟨padding, named, _⟩ := large_body_parts body long
  have known : getOpenSslCipherFromAlgorithm 3 = some .aes256 := rfl
  have secret : ¬ (3 : UInt8) = encryptionNone := by decide
  simp only [encryptFrame, Bool.false_eq_true, if_false, encryptFrameWith, named, known, if_neg secret, padding,
    getEncryptionIv, Option.bind_eq_bind, Option.bind_some, ne_eq, reduceCtorEq, not_false_eq_true]

end Large

def zeroBody (zeros : Nat) : Bytes := List.replicate zeros 0 ++ bytes16 (crcFast (List.replicate zeros 0))

theorem zero_body_length (zeros : Nat) : (zeroBody zeros).length = zeros + 2 := by
  simp [zeroBody, bytes16]

theorem zero_body_crc (zeros : Nat) : TrailingCrc (0 :: zeroBody zeros) := trailing_crc_appended 0 _

-- A frame of packet type 2 passes the helpers only, and the two gibibyte one only the internal cipher.
theorem backends_and_decoders_differ :
    (TrailingCrc [0x20, 0x00, 0x07, 0x6d, 0xe8] ∧ ∃ wire,
      (∀ useOpenSsl, encryptFrame knownOpenSsl knownAes useOpenSsl none (fun _ => 0) [0x20, 0x00, 0x07, 0x6d, 0xe8]
        (some knownKey) (some knownIv) 3 = some wire) ∧
      (∀ useOpenSsl, decryptFrame knownOpenSsl knownAes useOpenSsl (fun _ => 0) wire (some knownKey) none 3 =
        some ([0x23, 0x00, 0x07, 0x6d, 0xe8] ++ List.replicate 12 0)) ∧
      Binary.decode knownOpenSsl wire (some knownKey) Binary.framingVersion none = none) ∧
    (TrailingCrc (0 :: zeroBody 2147483646) ∧
      encryptFrame knownOpenSsl knownAes true none (fun _ => 0) (0 :: zeroBody 2147483646) (some knownKey) (some knownIv)
          3 ≠
        encryptFrame knownOpenSsl knownAes false none (fun _ => 0) (0 :: zeroBody 2147483646) (some knownKey)
          (some knownIv) 3) := by
  have long := zero_body_length 2147483646
  refine ⟨⟨by decide, 0x23 :: (knownCiphertext.toList ++ knownIv.toList), ?_, ?_, by decide⟩,
    zero_body_crc 2147483646, ?_⟩
  · decide +kernel
  · decide +kernel
  · generalize zeroBody 2147483646 = body at *
    rw [large_body_openssl body long]
    exact (large_body_internal body long).symm

end Vscp
