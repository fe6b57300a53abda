import Vscp.AuthenticatedFrame

set_option autoImplicit false

namespace Vscp.Binary

open ByteMemory BlockMode

def maxFrameSize : Nat := 4096
def syncByte : UInt8 := 0x55
def framingVersion : UInt8 := 0
def authenticatedVersion : UInt8 := 1
def headerSize : Nat := 3

def validCrc (data : Bytes) : Bool :=
  3 ≤ data.length && crcFast ((data.drop 1).take (intCount (data.length - 3))) ==
    bigEndian (data.getD (data.length - 2) 0) (data.getD (data.length - 1) 0)

def plausibleFrame (lead : UInt8) (length : Nat) (version : UInt8) : Bool :=
  let type := lead >>> (4 : UInt8)
  let encryption := lead &&& (0x0f : UInt8)
  if (type > 1 ∧ type < 14) ∨ encryption > encryptionAes256 ∨ length < 5 ∨ length > maxFrameSize ∨
      version > authenticatedVersion then false
  else if version = authenticatedVersion then encryption ≠ 0 ∧ length ≥ 49 ∧ (length - 33) % 16 = 0
  else encryption = 0 ∨ (length ≥ 33 ∧ (length - 17) % 16 = 0)

structure ParsedHeader where
  accepted : Bool
  length : Nat
  version : UInt8
deriving DecidableEq

def parseHeader (data : Memory) : ParsedHeader :=
  let word := bigEndian (data 1) (data 2)
  let length := (word &&& 0x1fff).toNat
  let version := (word >>> 13).toUInt8
  ⟨data 0 = syncByte && plausibleFrame (data headerSize) length version, length, version⟩

def cipher (encryption : UInt8) : Option Aes := getOpenSslCipherFromAlgorithm encryption

def headerWord (version : UInt8) (size : Nat) : UInt16 := (version.toUInt16 <<< 13) ||| UInt16.ofNat size

-- What encode sends behind the header for a frame that names its encryption.
-- `random` is what RAND_bytes fills in, none when it fails.
def encryptForWire (ssl : OpenSsl) (random : Option Block) (frame : Bytes) (encryption : UInt8) (key : Option Key)
    (version : UInt8) (hmacKey : Option Key) : Option Bytes :=
  if version = authenticatedVersion then
    match encryptFrameV1 ssl random (frame.length + 48) frame key hmacKey none encryption with
    | none => none
    | some encrypted => if encrypted.length > maxFrameSize then none else some encrypted
  else if encryption ≠ 0 then
    match key, random, cipher encryption with
    | some key, some iv, some cipher =>
        match ssl.evpEncrypt cipher true key iv (frame.drop 1) (intOf (frame.length - 1)) with
        | none => none
        | some (update, final) => some (frame.take 1 ++ ((update ++ final) ++ iv.toList))
    | _, _, _ => none
  else some frame

def encode (ssl : OpenSsl) (random : Option Block) (frame : Bytes) (encryption : UInt8) (key : Option Key)
    (version : UInt8) (hmacKey : Option Key) : Option Bytes :=
  if frame.length < 5 ∨ frame.length > maxFrameSize - 34 ∨ encryption > encryptionAes256 ∨
      version > authenticatedVersion then none
  else
    let frame := encryptLead (frame.getD 0 0) encryption :: frame.drop 1
    (encryptForWire ssl random frame encryption key version hmacKey).map fun frame =>
      syncByte :: (bytes16 (headerWord version frame.length) ++ frame)

def decode (ssl : OpenSsl) (wire : Bytes) (key : Option Key) (version : UInt8) (hmacKey : Option Key) : Option Bytes :=
  if wire = [] ∨ ¬ plausibleFrame (wire.getD 0 0) wire.length version then none
  else if version = authenticatedVersion then decryptFrameV1 ssl wire.length wire key hmacKey
  else
    let encryption := wire.getD 0 0 &&& (0x0f : UInt8)
    if encryption = 0 then (if validCrc wire then some wire else none)
    else
      match key, cipher encryption with
      | some key, some cipher =>
          let iv : Block := readBlock (ofBytes wire fun _ => 0) (wire.length - 16)
          match ssl.evpDecrypt cipher true key iv ((wire.drop 1).take (wire.length - 17)) (intOf (wire.length - 17)) with
          | none => none
          | some (update, final) =>
              let frame := wire.take 1 ++ (update ++ final)
              if frame.length ≥ 5 ∧ validCrc frame then some frame else none
      | _, _ => none

theorem valid_crc_iff (frame : Bytes) (small : frame.length < 2 ^ 31) :
    validCrc frame = true ↔ 3 ≤ frame.length ∧ TrailingCrc frame := by
  rw [validCrc, int_count_small _ (by omega), Bool.and_eq_true, decide_eq_true_iff, beq_iff_eq, TrailingCrc]

theorem header_word_parts (version : UInt8) (size : Nat) (known : version ≤ authenticatedVersion)
    (fits : size ≤ 0x1fff) :
    (headerWord version size &&& 0x1fff).toNat = size ∧ (headerWord version size >>> 13).toUInt8 = version := by
  have word : (headerWord version size).toNat = version.toNat * 2 ^ 13 + size := by
    have bound : version.toNat ≤ 1 := known
    have joined := Nat.shiftLeft_add_eq_or_of_lt (show size < 2 ^ 13 by omega) version.toNat
    have kept : version.toNat <<< 13 % 2 ^ 16 = version.toNat <<< 13 := by
      rw [Nat.shiftLeft_eq]
      omega
    simp only [headerWord, UInt16.toNat_or, UInt16.toNat_shiftLeft, UInt8.toNat_toUInt16, UInt16.toNat_ofNat',
      show UInt16.toNat 13 = 13 from rfl, Nat.reduceMod, kept, Nat.mod_eq_of_lt (show size < 2 ^ 16 by omega)]
    rw [← joined, Nat.shiftLeft_eq]
  constructor
  · have mask : UInt16.toNat 0x1fff = 2 ^ 13 - 1 := rfl
    rw [UInt16.toNat_and, mask, Nat.and_two_pow_sub_one_eq_mod, word]
    omega
  · have bound : version.toNat ≤ 1 := known
    apply UInt8.toNat_inj.mp
    rw [UInt16.toNat_toUInt8, UInt16.toNat_shiftRight, word, show UInt16.toNat 13 % 16 = 13 from rfl,
      Nat.shiftRight_eq_div_pow]
    omega

theorem parse_written_header (version : UInt8) (lead : UInt8) (body : Bytes) (beyond : Memory)
    (known : version ≤ authenticatedVersion) (fits : body.length + 1 ≤ 0x1fff) :
    parseHeader (ofBytes (syncByte :: (bytes16 (headerWord version (body.length + 1)) ++ lead :: body)) beyond) =
      ⟨plausibleFrame lead (body.length + 1) version, body.length + 1, version⟩ := by
  obtain ⟨size, tag⟩ := header_word_parts version (body.length + 1) known fits
  generalize written : syncByte :: (bytes16 (headerWord version (body.length + 1)) ++ lead :: body) = wire
  have first : ofBytes wire beyond 0 = syncByte := by rw [← written]; rfl
  have word : bigEndian (ofBytes wire beyond 1) (ofBytes wire beyond 2) = headerWord version (body.length + 1) := by
    rw [← written]
    exact big_endian_word _
  have leadByte : ofBytes wire beyond headerSize = lead := by rw [← written]; rfl
  simp only [parseHeader, first, word, leadByte, size, tag, decide_true, Bool.true_and]

def KnownType (lead : UInt8) : Prop := lead >>> (4 : UInt8) ∈ [0, 1, 14, 15]

instance (lead : UInt8) : Decidable (KnownType lead) := inferInstanceAs (Decidable (_ ∈ _))

theorem encrypt_lead_fits (lead encryption : UInt8) (known : KnownType lead)
    (cipher : encryption ≤ encryptionAes256) :
    encryptLead lead encryption &&& (0x0f : UInt8) = encryption ∧
      ¬ (encryptLead lead encryption >>> (4 : UInt8) > 1 ∧ encryptLead lead encryption >>> (4 : UInt8) < 14) ∧
      encryptLead (encryptLead lead encryption) encryption = encryptLead lead encryption := by
  have every : ∀ i : Fin 256, ∀ j : Fin 4, KnownType (UInt8.ofFin i) →
      encryptLead (UInt8.ofFin i) (UInt8.ofNat j.val) &&& (0x0f : UInt8) = UInt8.ofNat j.val ∧
        ¬ (encryptLead (UInt8.ofFin i) (UInt8.ofNat j.val) >>> (4 : UInt8) > 1 ∧
          encryptLead (UInt8.ofFin i) (UInt8.ofNat j.val) >>> (4 : UInt8) < 14) ∧
        encryptLead (encryptLead (UInt8.ofFin i) (UInt8.ofNat j.val)) (UInt8.ofNat j.val) =
          encryptLead (UInt8.ofFin i) (UInt8.ofNat j.val) := by
    decide +kernel
  have bound : encryption.toNat ≤ 3 := cipher
  have here := every lead.toFin ⟨encryption.toNat, by omega⟩
  rw [UInt8.ofFin_toFin, UInt8.ofNat_toNat] at here
  exact here known

theorem resolve_named (encryption : UInt8) (input : Bytes) (cipher : encryption ≤ encryptionAes256) :
    resolveFrameCryptoAlgorithm encryption input = encryption := by
  have every : ∀ j : Fin 4, UInt8.ofNat j.val &&& 0x0f ≠ encryptionFromTypeByte := by decide
  have bound : encryption.toNat ≤ 3 := cipher
  have here := every ⟨encryption.toNat, by omega⟩
  rw [UInt8.ofNat_toNat] at here
  exact if_neg here

theorem encoded_fits (lead encryption version : UInt8) (length : Nat) (known : KnownType lead)
    (cipher : encryption ≤ encryptionAes256) (version01 : version ≤ authenticatedVersion) (long : 5 ≤ length)
    (fits : length ≤ maxFrameSize)
    (shape : if version = authenticatedVersion then encryption ≠ 0 ∧ length ≥ 49 ∧ (length - 33) % 16 = 0
      else encryption = 0 ∨ (length ≥ 33 ∧ (length - 17) % 16 = 0)) :
    plausibleFrame (encryptLead lead encryption) length version = true := by
  obtain ⟨nibble, type, _⟩ := encrypt_lead_fits lead encryption known cipher
  have inside : ¬ ((encryptLead lead encryption >>> (4 : UInt8) > 1 ∧ encryptLead lead encryption >>> (4 : UInt8) < 14) ∨
      encryption > encryptionAes256 ∨ length < 5 ∨ length > maxFrameSize ∨ version > authenticatedVersion) := by
    rintro (middle | strong | short | tooLong | future)
    · exact type middle
    · exact absurd cipher (UInt8.not_le.mpr strong)
    · omega
    · omega
    · exact absurd version01 (UInt8.not_le.mpr future)
  simp only [plausibleFrame, nibble, if_neg inside]
  split at shape
  · rename_i authenticated
    rw [if_pos authenticated]
    exact decide_eq_true shape
  · rename_i legacy
    rw [if_neg legacy]
    exact decide_eq_true shape

theorem decode_unfit (ssl : OpenSsl) (wire : Bytes) (key hmacKey : Option Key) (version : UInt8)
    (unfit : plausibleFrame (wire.getD 0 0) wire.length version ≠ true) :
    decode ssl wire key version hmacKey = none := by
  unfold decode
  rw [if_pos (Or.inr unfit)]

theorem checked_body (lead : UInt8) (body : Bytes) (small : body.length + 1 < 2 ^ 31) :
    (if (lead :: body).length ≥ 5 ∧ validCrc (lead :: body) = true then some (lead :: body) else none) =
      if 5 ≤ body.length + 1 ∧ TrailingCrc (lead :: body) then some (lead :: body) else none := by
  have valid := valid_crc_iff (lead :: body) small
  rw [List.length_cons] at valid ⊢
  by_cases good : 5 ≤ body.length + 1 ∧ TrailingCrc (lead :: body)
  · rw [if_pos good, if_pos ⟨good.1, valid.mpr ⟨by omega, good.2⟩⟩]
  · rw [if_neg good, if_neg (fun accepted => good ⟨accepted.1, (valid.mp accepted.2).2⟩)]

theorem decode_ciphered (ssl : OpenSsl) (aes : BlockCipher) (documented : DocumentedCbc ssl aes) (lead : UInt8)
    (data : Bytes) (iv : Block) (key : Key) (hmacKey : Option Key) (version : UInt8) (type : Aes)
    (legacy : version ≠ authenticatedVersion) (ciphered : lead &&& (0x0f : UInt8) ≠ 0)
    (known : cipher (lead &&& (0x0f : UInt8)) = some type)
    (fits : plausibleFrame lead (data.length + 17) version = true) (whole : data.length % 16 = 0)
    (small : data.length < 2 ^ 30) :
    decode ssl (lead :: (data ++ iv.toList)) (some key) version hmacKey =
      openBody lead (cbcDecryptBytes aes type key iv data) := by
  have total : (lead :: (data ++ iv.toList)).length = data.length + 17 := by simp
  have ivBlock : readBlock (ofBytes (lead :: (data ++ iv.toList)) fun _ => 0) (data.length + 17 - 16) = iv := by
    have here := iv_at (lead :: data) iv [] fun _ => 0
    rwa [List.append_nil, List.cons_append, List.length_cons] at here
  have plainSize := cbc_decrypt_bytes_length aes type key iv data whole
  have opening := documented.decryptPadded type key iv data whole (by omega)
  simp only [decode, total, List.getD_cons_zero, Nat.add_sub_cancel, List.drop_one, List.tail_cons, List.take_left,
    List.take_succ_cons, List.take_zero, ivBlock, known, int_of_small _ (show data.length < 2 ^ 31 by omega)]
  rw [if_neg (by simp [fits]), if_neg legacy, if_neg ciphered, openBody, ← opening]
  cases evp : ssl.evpDecrypt type true key iv data data.length with
  | none => rfl
  | some written =>
      rw [evp] at opening
      have shorter : (written.1 ++ written.2).length ≤ _ := unpad_shorter 16 _ _ opening.symm
      exact checked_body lead (written.1 ++ written.2) (by omega)

section Documented

variable (ssl : OpenSsl) (aes : BlockCipher) (documented : DocumentedCbc ssl aes) (random : Option Block)
  (lead : UInt8) (body : Bytes) (encryption : UInt8) (key hmacKey : Option Key) (framed : Bytes)

def Travels (version : UInt8) : Prop :=
  (∃ rest, framed = encryptLead lead encryption :: rest) ∧ framed.length ≤ maxFrameSize ∧
    plausibleFrame (encryptLead lead encryption) framed.length version = true ∧
    decode ssl framed key version hmacKey = some (encryptLead lead encryption :: body)

variable (crc : TrailingCrc (lead :: body)) (known : KnownType lead) (long : 4 ≤ body.length)
  (fits : body.length + 1 ≤ maxFrameSize - 34) (cipher03 : encryption ≤ encryptionAes256)

include crc known long fits cipher03

theorem plain_travels (version : UInt8) (legacy : version < authenticatedVersion) (clear : encryption = 0) :
    Travels ssl lead body encryption key hmacKey (encryptLead lead encryption :: body) version := by
  have small : body.length + 1 ≤ 4062 := fits
  have size : (encryptLead lead encryption :: body).length = body.length + 1 := List.length_cons
  have notOne : version ≠ authenticatedVersion := UInt8.ne_of_lt legacy
  have fits : plausibleFrame (encryptLead lead encryption) (body.length + 1) version = true := by
    apply encoded_fits lead encryption version _ known cipher03 (UInt8.le_of_lt legacy) (by omega) (by
      show body.length + 1 ≤ 4096
      omega)
    rw [if_neg notOne]
    exact Or.inl clear
  have valid := (valid_crc_iff (encryptLead lead encryption :: body) (by omega)).mpr
    ⟨by omega, (trailing_crc_lead lead _ body (by omega)).mp crc⟩
  have nibble := (encrypt_lead_fits lead encryption known cipher03).1
  refine ⟨⟨body, rfl⟩, by rw [size]; exact Nat.le_trans small (by decide), by rw [size]; exact fits, ?_⟩
  simp only [decode, List.getD_cons_zero, size, fits, nibble, valid]
  rw [if_neg (by simp), if_neg notOne, if_pos clear]
  rfl

include documented

theorem ciphered_travels (version : UInt8) (legacy : version < authenticatedVersion) (ciphered : encryption ≠ 0)
    (sent : encryptForWire ssl random (encryptLead lead encryption :: body) encryption key version hmacKey = some framed) :
    Travels ssl lead body encryption key hmacKey framed version := by
  have small : body.length + 1 ≤ 4062 := fits
  have notOne : version ≠ authenticatedVersion := UInt8.ne_of_lt legacy
  have nibble := (encrypt_lead_fits lead encryption known cipher03).1
  unfold encryptForWire at sent
  rw [if_neg notOne, if_pos ciphered] at sent
  split at sent
  · rename_i aesKey iv type ciphers
    have whole := padded_whole 16 body (by decide)
    have size := padded_length 16 body (by decide)
    have dataSize := cbc_encrypt_bytes_length aes type aesKey iv (pad 16 body) whole
    have plain := cbc_decrypt_encrypt_bytes aes type aesKey iv (pad 16 body) (documented.inverse type aesKey) whole
    have sealing := documented.encryptPadded type aesKey iv body (by omega)
    have opened := open_body_padded (encryptLead lead encryption) body long
      ((trailing_crc_lead lead _ body (by omega)).mp crc)
    generalize cbcEncryptBytes aes type aesKey iv (pad 16 body) = data at *
    obtain ⟨⟨update, final⟩, evp, joined⟩ := Option.map_eq_some_iff.mp sealing
    dsimp only at joined
    simp only [List.drop_one, List.tail_cons, List.length_cons, Nat.add_sub_cancel, int_of_small _ (show body.length <
      2 ^ 31 by omega), evp, joined, List.take_succ_cons, List.take_zero, List.cons_append, List.nil_append] at sent
    have parts : framed = encryptLead lead encryption :: (data ++ iv.toList) := (Option.some.inj sent).symm
    have total : framed.length = data.length + 17 := by simp [parts]
    have room : framed.length ≤ maxFrameSize := by
      show framed.length ≤ 4096
      omega
    have fits : plausibleFrame (encryptLead lead encryption) framed.length version = true := by
      apply encoded_fits lead encryption _ _ known cipher03 (UInt8.le_of_lt legacy) (by omega) room
      rw [if_neg notOne]
      exact Or.inr ⟨by omega, by omega⟩
    refine ⟨⟨_, parts⟩, room, fits, ?_⟩
    rw [total] at fits
    rw [parts, decode_ciphered ssl aes documented _ data iv aesKey hmacKey version type notOne (by rwa [nibble])
      (by rwa [nibble]) fits (by omega) (by omega), plain, opened]
  · cases sent

omit fits in
theorem authenticated_travels
    (sent : encryptForWire ssl random (encryptLead lead encryption :: body) encryption key authenticatedVersion hmacKey =
      some framed) :
    Travels ssl lead body encryption key hmacKey framed authenticatedVersion := by
  obtain ⟨_, _, again⟩ := encrypt_lead_fits lead encryption known cipher03
  have algorithm := resolve_named encryption (encryptLead lead encryption :: body) cipher03
  have crcAgain := (trailing_crc_lead lead (encryptLead lead encryption) body (by omega)).mp crc
  unfold encryptForWire at sent
  rw [if_pos rfl] at sent
  cases sealedFrame : encryptFrameV1 ssl random ((encryptLead lead encryption :: body).length + 48)
      (encryptLead lead encryption :: body) key hmacKey none encryption with
  | none =>
      rw [sealedFrame] at sent
      cases sent
  | some wire =>
      rw [sealedFrame] at sent
      dsimp only at sent
      split_ifs at sent with tooLong
      obtain rfl : wire = framed := Option.some.inj sent
      have total := (authenticated_round_trip ssl aes documented _ _ _ _ _ _ _ _ _ _ crcAgain (Nat.le_refl _)
        sealedFrame).1
      obtain ⟨_, decrypted⟩ := authenticated_round_trip ssl aes documented _ _ wire.length _ _ _ _ _ _ _ crcAgain
        (by omega) sealedFrame
      obtain ⟨_, _, type, chosen, digest, _, _, ciphered, _, _, _, parts⟩ :=
        encrypt_v1_result ssl aes documented _ _ _ _ _ _ _ _ _ sealedFrame
      rw [algorithm] at decrypted ciphered parts
      rw [again] at decrypted parts
      have nonzero := (known_algorithm_bounds encryption type ciphered).1
      have fits : plausibleFrame (encryptLead lead encryption) wire.length authenticatedVersion = true := by
        apply encoded_fits lead encryption _ _ known cipher03 (by decide) (by omega) (by omega)
        rw [if_pos rfl]
        exact ⟨nonzero, by omega, by omega⟩
      refine ⟨⟨_, parts⟩, by omega, fits, ?_⟩
      have first : wire.getD 0 0 = encryptLead lead encryption := by rw [parts, List.cons_append, List.getD_cons_zero]
      have nonempty : wire ≠ [] := by
        rw [parts]
        exact List.cons_ne_nil _ _
      rw [decode, first, if_neg (by simp [fits, nonempty]), if_pos rfl, decrypted]

end Documented

theorem encode_decode (ssl : OpenSsl) (aes : BlockCipher) (documented : DocumentedCbc ssl aes) (random : Option Block)
    (frame wire : Bytes) (beyond : Memory) (encryption version : UInt8) (key hmacKey : Option Key)
    (crc : TrailingCrc frame) (known : KnownType (frame.getD 0 0))
    (encoded : encode ssl random frame encryption key version hmacKey = some wire) :
    parseHeader (ofBytes wire beyond) = ⟨true, (wire.drop headerSize).length, version⟩ ∧
      decode ssl (wire.drop headerSize) key version hmacKey =
        some (encryptLead (frame.getD 0 0) encryption :: frame.drop 1) := by
  unfold encode at encoded
  split_ifs at encoded with outside
  have bounds : 5 ≤ frame.length ∧ frame.length ≤ maxFrameSize - 34 ∧ encryption ≤ encryptionAes256 ∧
      version ≤ authenticatedVersion :=
    ⟨by omega, by omega, UInt8.not_lt.mp fun strong => outside (Or.inr (Or.inr (Or.inl strong))),
      UInt8.not_lt.mp fun future => outside (Or.inr (Or.inr (Or.inr future)))⟩
  obtain ⟨long, fits, cipher03, version01⟩ := bounds
  cases frame with
  | nil => cases long
  | cons lead body =>
      rw [List.length_cons] at long fits
      rw [List.getD_cons_zero] at known
      simp only [List.getD_cons_zero, List.drop_one, List.tail_cons] at encoded ⊢
      obtain ⟨framed, sent, same⟩ := Option.map_eq_some_iff.mp encoded
      have travels : Travels ssl lead body encryption key hmacKey framed version := by
        by_cases authenticated : version = authenticatedVersion
        · subst authenticated
          exact authenticated_travels ssl aes documented random lead body encryption key hmacKey framed crc known
            (by omega) cipher03 sent
        · have legacy : version < authenticatedVersion := UInt8.lt_of_le_of_ne version01 authenticated
          by_cases clear : encryption = 0
          · have untouched : framed = encryptLead lead encryption :: body := by
              unfold encryptForWire at sent
              rw [if_neg authenticated, if_neg (not_not.mpr clear)] at sent
              exact (Option.some.inj sent).symm
            rw [untouched]
            exact plain_travels ssl lead body encryption key hmacKey crc known (by omega) fits cipher03 version legacy
              clear
          · exact ciphered_travels ssl aes documented random lead body encryption key hmacKey framed crc known
              (by omega) fits cipher03 version legacy clear sent
      obtain ⟨⟨rest, parts⟩, room, fits, decoded⟩ := travels
      have behind : wire.drop headerSize = framed := by
        rw [← same]
        rfl
      rw [behind]
      refine ⟨?_, decoded⟩
      rw [← same, parts]
      rw [parts, List.length_cons] at room fits
      rw [List.length_cons, parse_written_header version _ rest beyond version01 (Nat.le_trans room (by decide)),
        fits]

example : encode knownOpenSsl (some knownIv) knownFrame 3 (some knownKey) 1 (some knownHmacKey) =
    some ([0x55, 0x20, 0x31, 0xe3] ++ knownCiphertext.toList ++ knownIv.toList ++ knownDigest.take 16) := by
  decide

theorem encode_decode_example :
    parseHeader (ofBytes ([0x55, 0x20, 0x31, 0xe3] ++ knownCiphertext.toList ++ knownIv.toList ++ knownDigest.take 16)
      fun _ => 0) = ⟨true, 49, 1⟩ ∧
    decode knownOpenSsl ([0xe3] ++ knownCiphertext.toList ++ knownIv.toList ++ knownDigest.take 16) (some knownKey) 1
      (some knownHmacKey) = some [0xe3, 0x00, 0x07, 0x6d, 0xe8] :=
  encode_decode knownOpenSsl knownAes known_documented (some knownIv) knownFrame _ (fun _ => 0) 3 1 (some knownKey)
    (some knownHmacKey) (by decide) (by decide) (by decide)

end Vscp.Binary
