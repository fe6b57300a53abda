import Vscp.Lib.BlockMode
import Vscp.Crc
import Vscp.Event

set_option autoImplicit false

namespace Vscp

open ByteMemory BlockMode

abbrev Block := Vector UInt8 16
abbrev Key := Bytes

inductive Aes
  | aes128
  | aes192
  | aes256
deriving DecidableEq

structure BlockCipher where
  encipher : Aes → Key → Block → Block
  decipher : Aes → Key → Block → Block

-- One EVP context from Init to Final, with or without padding, over `inl` bytes
-- of the input: what Update and Final wrote. HMAC answers with the digest.
structure OpenSsl where
  evpEncrypt : Aes → Bool → Key → Block → Bytes → Int → Option (Bytes × Bytes)
  evpDecrypt : Aes → Bool → Key → Block → Bytes → Int → Option (Bytes × Bytes)
  hmacSha256 : Key → Bytes → Option Bytes

def encryptionNone : UInt8 := 0
def encryptionAes256 : UInt8 := 3
def encryptionFromTypeByte : UInt8 := 15

def getOpenSslCipherFromAlgorithm (algorithm : UInt8) : Option Aes :=
  if algorithm = 1 then some .aes128
  else if algorithm = 2 then some .aes192
  else if algorithm = 3 then some .aes256
  else none

def bigEndian (high low : UInt8) : UInt16 := (high.toUInt16 <<< 8) ||| low.toUInt16

def pkcs7Pad (input : Bytes) : Option Bytes :=
  if input.length > 2 ^ 64 - 1 - 16 then none
  else
    let padlen := 16 - input.length % 16
    some (input ++ List.replicate padlen (UInt8.ofNat padlen))

-- The padding is zeroed in place and taken off the length.
def pkcs7Unpad (plaintext : Bytes) (len : Nat) : Option (Bytes × Nat) :=
  if len = 0 ∨ len % 16 ≠ 0 then none
  else
    let padlen := plaintext.getD (len - 1) 0
    if padlen = 0 ∨ padlen.toNat > 16 ∨ padlen.toNat > len then none
    else if ¬ (List.range padlen.toNat).all fun i => plaintext.getD (len - padlen.toNat + i) 0 == padlen then none
    else some (plaintext.take (len - padlen.toNat) ++ List.replicate padlen.toNat 0 ++ plaintext.drop len,
      len - padlen.toNat)

def validFrameCrc (frame : Bytes) (len : Nat) : Bool :=
  if len < 5 ∨ len - 3 > 2 ^ 31 - 1 then false
  else crcSlow ((frame.drop 1).take (len - 3)) == bigEndian (frame.getD (len - 2) 0) (frame.getD (len - 1) 0)

def validateDecryptedFrame (frame : Bytes) (len : Nat) : Option Bytes :=
  match pkcs7Unpad (frame.drop 1) (len - 1) with
  | none => none
  | some (payload, payloadLen) =>
      if validFrameCrc (frame.take 1 ++ payload) (payloadLen + 1) then some (frame.take 1 ++ payload) else none

def resolveFrameCryptoAlgorithm (algorithm : UInt8) (input : Bytes) : UInt8 :=
  if algorithm &&& 0x0f = encryptionFromTypeByte then input.getD 0 0 &&& 0x0f else algorithm

-- `random` is what the random source answers when no initialization vector is given.
def getEncryptionIv (random iv : Option Block) : Option Block :=
  match iv with
  | none => random
  | some given => some given

def evpEncryptBuffer (ssl : OpenSsl) (cipher : Aes) (input : Bytes) (key : Key) (iv : Block) : Option Bytes :=
  match ssl.evpEncrypt cipher false key iv input (intOf input.length) with
  | none => none
  | some (update, final) => if update.length + final.length = input.length then some (update ++ final) else none

def evpDecryptBuffer (ssl : OpenSsl) (cipher : Aes) (input : Bytes) (key : Key) (iv : Block) : Option Bytes :=
  match ssl.evpDecrypt cipher false key iv input (intOf input.length) with
  | none => none
  | some (update, final) => if final.length = 0 ∧ update.length = input.length then some update else none

def encryptLead (lead algorithm : UInt8) : UInt8 := (lead &&& (0xf0 : UInt8)) ||| algorithm

def cbcEncryptLoop (encipher : Block → Block) (input : Memory) (offset : Nat) (iv : Block) : Nat → List Block
  | 0 => []
  | turns + 1 =>
      let output := encipher (xorBlocks (readBlock input offset) iv)
      output :: cbcEncryptLoop encipher input (offset + 16) output turns

def cbcDecryptLoop (decipher : Block → Block) (input : Memory) (offset : Nat) (iv : Block) : Nat → List Block
  | 0 => []
  | turns + 1 =>
      xorBlocks (decipher (readBlock input offset)) iv ::
        cbcDecryptLoop decipher input (offset + 16) (readBlock input offset) turns

-- A last partial block is ciphered as it stands in the output buffer.
def extraBlock (cipher : Block → Block) (output input : Memory) (offset extra : Nat) : Bytes :=
  if extra = 0 then []
  else (cipher (Vector.ofFn fun i => if i.val < extra then input (offset + i.val) else output (offset + i.val))).toList

-- What the call leaves at `output`; the copy of the first block happens also for length zero.
def aesCbcEncryptBuffer (aes : BlockCipher) (type : Aes) (output input : Memory) (length : Nat) (key : Key)
    (iv : Block) : Bytes :=
  let turns := (length + 15) / 16
  if turns = 0 then bytesAt input 0 16
  else joinBlocks (cbcEncryptLoop (aes.encipher type key) input 0 iv turns) ++
    extraBlock (aes.encipher type key) output input (16 * turns) (length % 16)

def aesCbcDecryptBuffer (aes : BlockCipher) (type : Aes) (output input : Memory) (length : Nat) (key : Key)
    (iv : Block) : Bytes :=
  let turns := (length + 15) / 16
  if turns = 0 then bytesAt input 0 16
  else joinBlocks (cbcDecryptLoop (aes.decipher type key) input 0 iv turns) ++
    extraBlock (aes.decipher type key) output input (16 * turns) (length % 16)

-- The steps both backends share around the cipher; zero, the failure of the
-- source, is none.
def encryptFrameWith (encrypt : Aes → Key → Block → Bytes → Option Bytes) (random : Option Block) (input : Bytes)
    (key : Option Key) (iv : Option Block) (nAlgorithm : UInt8) : Option Bytes :=
  match input with
  | [] => none
  | lead :: body =>
      let algorithm := resolveFrameCryptoAlgorithm nAlgorithm input
      if algorithm = encryptionNone then some ((lead &&& (0xf0 : UInt8)) :: body)
      else
        match getOpenSslCipherFromAlgorithm algorithm, key with
        | some cipher, some key => do
            let plaintext ← pkcs7Pad body
            let generatedIv ← getEncryptionIv random iv
            let encrypted ← encrypt cipher key generatedIv plaintext
            some (encryptLead lead algorithm :: (encrypted ++ generatedIv.toList))
        | _, _ => none

-- `decrypt` answers with the `realLen - 1` bytes behind the lead byte.
def decryptFrameWith (decrypt : Aes → Key → Block → Nat → Option Bytes) (input : Bytes) (key : Option Key)
    (iv : Option Block) (nAlgorithm : UInt8) : Option Bytes :=
  match input with
  | [] => none
  | lead :: _ =>
      let algorithm := resolveFrameCryptoAlgorithm nAlgorithm input
      if algorithm = encryptionNone then (if validFrameCrc input input.length then some input else none)
      else if iv = none ∧ input.length < 1 + 16 + 16 then none
      else
        let appendedIv := iv.getD (readBlock (ofBytes input fun _ => 0) (input.length - 16))
        let realLen := if iv = none then input.length - 16 else input.length
        if realLen < 1 + 16 ∨ (realLen - 1) % 16 ≠ 0 then none
        else
          match getOpenSslCipherFromAlgorithm algorithm, key with
          | some cipher, some key =>
              (decrypt cipher key appendedIv realLen).bind fun plain => validateDecryptedFrame (lead :: plain) realLen
          | _, _ => none

def encryptFrameOpenSsl (ssl : OpenSsl) : Option Block → Bytes → Option Key → Option Block → UInt8 → Option Bytes :=
  encryptFrameWith fun cipher key iv plaintext => evpEncryptBuffer ssl cipher plaintext key iv

def decryptFrameOpenSsl (ssl : OpenSsl) (input : Bytes) : Option Key → Option Block → UInt8 → Option Bytes :=
  decryptFrameWith (fun cipher key iv realLen =>
    evpDecryptBuffer ssl cipher ((input.drop 1).take (realLen - 1)) key iv) input

-- The selected backend. `output` is the caller's buffer: the internal one leaves
-- alone what lies behind the length it was given as a uint32_t.
def encryptFrame (ssl : OpenSsl) (aes : BlockCipher) (useOpenSsl : Bool) (random : Option Block) (output : Memory)
    (input : Bytes) (key : Option Key) (iv : Option Block) (nAlgorithm : UInt8) : Option Bytes :=
  if useOpenSsl then encryptFrameOpenSsl ssl random input key iv nAlgorithm
  else
    let target : Memory := fun i => output (1 + i)
    encryptFrameWith (fun type key iv plaintext =>
      let encrypted := aesCbcEncryptBuffer aes type target (ofBytes plaintext fun _ => 0)
        (plaintext.length % 2 ^ 32) key iv
      some (bytesAt (ofBytes encrypted target) 0 plaintext.length)) random input key iv nAlgorithm

def decryptFrame (ssl : OpenSsl) (aes : BlockCipher) (useOpenSsl : Bool) (output : Memory) (input : Bytes)
    (key : Option Key) (iv : Option Block) (nAlgorithm : UInt8) : Option Bytes :=
  if useOpenSsl then decryptFrameOpenSsl ssl input key iv nAlgorithm
  else
    let target : Memory := fun i => output (1 + i)
    decryptFrameWith (fun type key iv realLen =>
      let plain := aesCbcDecryptBuffer aes type target (ofBytes (input.drop 1) fun _ => 0)
        ((realLen % 2 ^ 32 + (2 ^ 32 - 1)) % 2 ^ 32) key iv
      some (bytesAt (ofBytes plain target) 0 (realLen - 1))) input key iv nAlgorithm

def TrailingCrc (frame : Bytes) : Prop :=
  crcFast ((frame.drop 1).take (frame.length - 3)) =
    bigEndian (frame.getD (frame.length - 2) 0) (frame.getD (frame.length - 1) 0)

instance (frame : Bytes) : Decidable (TrailingCrc frame) := inferInstanceAs (Decidable (_ = _))

theorem big_endian_sum (high low : UInt8) : bigEndian high low = high.toUInt16 <<< 8 + low.toUInt16 := by
  apply UInt16.toNat_inj.mp
  have highBound := high.toNat_lt
  have lowBound := low.toNat_lt
  have joined := Nat.shiftLeft_add_eq_or_of_lt lowBound high.toNat
  have size : high.toNat <<< 8 % 2 ^ 16 = high.toNat <<< 8 := by
    rw [Nat.shiftLeft_eq]
    omega
  simp only [bigEndian, UInt16.toNat_or, UInt16.toNat_add, UInt16.toNat_shiftLeft, UInt8.toNat_toUInt16,
    show UInt16.toNat 8 = 8 from rfl, Nat.reduceMod, size]
  rw [← joined, Nat.shiftLeft_eq]
  omega

theorem big_endian_word (value : UInt16) : bigEndian (value >>> 8).toUInt8 value.toUInt8 = value := by
  rw [big_endian_sum, joined16]

theorem trailing_crc_lead (left right : UInt8) (body : Bytes) (long : 2 ≤ body.length) :
    TrailingCrc (left :: body) ↔ TrailingCrc (right :: body) := by
  obtain ⟨count, size⟩ : ∃ count, body.length = count + 2 := ⟨_, (Nat.sub_add_cancel long).symm⟩
  simp [TrailingCrc, size]

theorem valid_frame_crc_iff (frame : Bytes) :
    validFrameCrc frame frame.length = true ↔ 5 ≤ frame.length ∧ frame.length - 3 ≤ 2 ^ 31 - 1 ∧ TrailingCrc frame := by
  unfold validFrameCrc TrailingCrc
  split
  · rename_i outside
    simp only [Bool.false_eq_true, false_iff]
    omega
  · rename_i inside
    rw [crc_slow_fast, beq_iff_eq]
    constructor
    · intro same
      exact ⟨by omega, by omega, same⟩
    · exact fun parts => parts.2.2

theorem pkcs7_pad_small (input : Bytes) (small : input.length < 2 ^ 63) : pkcs7Pad input = some (pad 16 input) := by
  rw [pkcs7Pad, if_neg (by omega)]
  rfl

theorem pkcs7_unpad_whole (plaintext : Bytes) (whole : plaintext.length % 16 = 0) :
    pkcs7Unpad plaintext plaintext.length =
      (unpad 16 plaintext).map fun body =>
        (body ++ List.replicate (plaintext.length - body.length) 0, body.length) := by
  by_cases empty : plaintext = []
  · subst empty
    rfl
  have positive : 0 < plaintext.length := List.length_pos_iff.mpr empty
  have last : plaintext.getLastD 0 = plaintext.getD (plaintext.length - 1) 0 := by
    rw [List.getLastD_eq_getLast?, List.getLast?_eq_getElem?, List.getD_eq_getElem?_getD]
  rw [pkcs7Unpad, if_neg (by omega), unpad, last]
  generalize plaintext.getD (plaintext.length - 1) 0 = padlen
  have zero : padlen = 0 ↔ padlen.toNat = 0 := UInt8.toNat_inj.symm
  have byte (i : Nat) (inside : i < plaintext.length) : plaintext.getD i 0 = plaintext[i] := by
    rw [List.getD_eq_getElem?_getD, List.getElem?_eq_getElem inside, Option.getD_some]
  have bytes (fits : padlen.toNat ≤ plaintext.length) :
      ((List.range padlen.toNat).all fun i => plaintext.getD (plaintext.length - padlen.toNat + i) 0 == padlen) = true ↔
        plaintext.drop (plaintext.length - padlen.toNat) = List.replicate padlen.toNat padlen := by
    rw [List.eq_replicate_iff, List.length_drop]
    simp only [List.all_eq_true, List.mem_range, beq_iff_eq]
    constructor
    · intro each
      refine ⟨by omega, fun b member => ?_⟩
      obtain ⟨i, bound, rfl⟩ := List.mem_iff_getElem.mp member
      rw [List.length_drop] at bound
      have here := each i (by omega)
      rwa [byte _ (by omega), ← List.getElem_drop] at here
    · rintro ⟨_, each⟩ i bound
      have inside : i < (plaintext.drop (plaintext.length - padlen.toNat)).length := by
        rw [List.length_drop]
        omega
      have here := each _ (List.getElem_mem inside)
      rw [List.getElem_drop] at here
      rw [byte _ (by omega), here]
  dsimp only
  by_cases bounds : padlen = 0 ∨ padlen.toNat > 16 ∨ padlen.toNat > plaintext.length
  · rw [if_pos bounds, if_neg]
    · rfl
    · rw [zero] at bounds
      omega
  · rw [if_neg bounds]
    rw [zero] at bounds
    by_cases filled : plaintext.drop (plaintext.length - padlen.toNat) = List.replicate padlen.toNat padlen
    · rw [if_neg (by simpa only [not_not] using (bytes (by omega)).mpr filled),
        if_pos ⟨by omega, by omega, by omega, filled⟩]
      have shorter : (plaintext.take (plaintext.length - padlen.toNat)).length = plaintext.length - padlen.toNat := by
        rw [List.length_take]
        omega
      have padded : plaintext.length - (plaintext.length - padlen.toNat) = padlen.toNat := by omega
      rw [Option.map_some, shorter, padded, List.drop_length, List.append_nil]
    · rw [if_pos (fun all => filled ((bytes (by omega)).mp all)), if_neg (fun parts => filled parts.2.2.2)]
      rfl

end Vscp
