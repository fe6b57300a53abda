import Vscp.CbcBackends
import Vscp.MulticastConfig

set_option autoImplicit false

namespace Vscp.Ws1

open ByteMemory BlockMode
open Multicast (byteArray2HexStr hexStr2ByteArray hex_text_read hex_text_length)
open RemoteTcp (Text)

def bufSize : Nat := 200

structure Credentials where
  user : Bytes
  password : Bytes
deriving DecidableEq

def strCombined (struser strpassword : Bytes) : Bytes := struser ++ 58 :: strpassword

-- `beyond` lies behind the string in memory and `output` is what buf held; none is a write behind buf. Only the first
-- block of buf becomes text.
def encryptPassword (aes : BlockCipher) (beyond output : Memory) (struser strpassword : Bytes) (vscpkey : Key)
    (iv : Block) : Option Text :=
  let combined := strCombined struser strpassword
  let buf := aesCbcEncryptBuffer aes .aes128 output (ofBytes (combined ++ [0]) beyond) (combined.length % 2 ^ 32) vscpkey iv
  if buf.length > bufSize then none else some (byteArray2HexStr (buf.take 16))

def Credentials.combined (given : Credentials) : Bytes := strCombined given.user given.password

def Padding (rest : Bytes) : Prop := rest.length < 16 ∧ (rest = [] ∨ rest.head? = some 0)

section

variable (aes : BlockCipher) (vscpkey : Key) (iv : Block)

def Credentials.encrypted (given : Credentials) (beyond output : Memory) : Option Text :=
  encryptPassword aes beyond output given.user given.password vscpkey iv

def Recovered (given : Credentials) : Prop :=
  ∀ beyond output, ∃ strout, given.encrypted aes vscpkey iv beyond output = some strout ∧
    ∃ rest, Padding rest ∧
      cbcDecryptBytes aes .aes128 vscpkey iv (hexStr2ByteArray (strout.length / 2) strout) = given.combined ++ rest

structure Kept (given other : Credentials) : Prop where
  first : Recovered aes vscpkey iv given
  second : Recovered aes vscpkey iv other
  apart : given ≠ other → ∀ beyond output otherBeyond otherOutput,
    given.encrypted aes vscpkey iv beyond output ≠ other.encrypted aes vscpkey iv otherBeyond otherOutput

end

def Confused (text other : Bytes) : Prop := text = other ∨ text ++ [0] <+: other ∨ other ++ [0] <+: text

def firstBlock (text : Bytes) (beyond : Memory) : Bytes := bytesAt (ofBytes (text ++ [0]) beyond) 0 16

theorem decrypted_length (aes : BlockCipher) (type : Aes) (key : Key) (iv : Block) (data : Bytes) :
    (cbcDecryptBytes aes type key iv data).length = data.length / 16 * 16 := by
  rw [cbcDecryptBytes, join_blocks_length, cbc_decrypt_length, blocks_of_length]

section

variable (aes : BlockCipher) (vscpkey : Key) (iv : Block) (given : Credentials)

theorem encrypted_block (beyond output : Memory) (strout : Text)
    (done : given.encrypted aes vscpkey iv beyond output = some strout) :
    (hexStr2ByteArray (strout.length / 2) strout).length ≤ 16 := by
  unfold Credentials.encrypted encryptPassword at done
  dsimp only at done
  split at done
  · cases done
  · rw [← Option.some.inj done, hex_text_length, Nat.mul_div_cancel _ (by decide), hex_text_read, List.length_take]
    exact Nat.min_le_left _ _

theorem combined_positive : 0 < given.combined.length := by
  rw [Credentials.combined, strCombined, List.length_append, List.length_cons]
  omega

theorem encrypted_short (short : given.combined.length ≤ 16) (beyond output : Memory) :
    given.encrypted aes vscpkey iv beyond output =
      some (byteArray2HexStr (cbcEncryptBytes aes .aes128 vscpkey iv (firstBlock given.combined beyond))) := by
  have positive := combined_positive given
  have length : given.combined.length % 2 ^ 32 = given.combined.length := Nat.mod_eq_of_lt (by omega)
  have turns : (given.combined.length + 15) / 16 = 1 := by omega
  have blocks : readBlocks (ofBytes (given.combined ++ [0]) beyond) 0 1 =
      @blocksOf 16 (firstBlock given.combined beyond) := read_whole_blocks _ 16 rfl
  have whole : (cbcEncryptBytes aes .aes128 vscpkey iv (firstBlock given.combined beyond)).length = 16 := by
    rw [cbc_encrypt_bytes_length aes .aes128 vscpkey iv _ (by rw [firstBlock, bytes_at_length]), firstBlock,
      bytes_at_length]
  have first : joinBlocks (cbcEncryptLoop (aes.encipher .aes128 vscpkey) (ofBytes (given.combined ++ [0]) beyond) 0 iv 1) =
      cbcEncryptBytes aes .aes128 vscpkey iv (firstBlock given.combined beyond) := by
    rw [cbc_encrypt_loop, blocks, cbcEncryptBytes]
  have extra (memory : Memory) (offset count : Nat) (cipher : Block → Block) (input : Memory) :
      (extraBlock cipher memory input offset count).length ≤ 16 := by
    unfold extraBlock
    split
    · exact Nat.zero_le 16
    · rw [Vector.length_toList]
  unfold Credentials.encrypted encryptPassword
  dsimp only
  rw [← Credentials.combined, length, aesCbcEncryptBuffer, turns, if_neg Nat.one_ne_zero, first]
  rw [if_neg, List.take_append_of_le_length (Nat.le_of_eq whole.symm), List.take_of_length_le (Nat.le_of_eq whole)]
  rw [List.length_append, whole]
  have bound := extra output (16 * 1) (given.combined.length % 16) (aes.encipher .aes128 vscpkey)
    (ofBytes (given.combined ++ [0]) beyond)
  have room : bufSize = 200 := rfl
  omega

theorem recovered_short (inverse : ∀ block, aes.decipher .aes128 vscpkey (aes.encipher .aes128 vscpkey block) = block)
    (beyond : Memory) :
    let strout := byteArray2HexStr (cbcEncryptBytes aes .aes128 vscpkey iv (firstBlock given.combined beyond))
    cbcDecryptBytes aes .aes128 vscpkey iv (hexStr2ByteArray (strout.length / 2) strout) =
      firstBlock given.combined beyond := by
  intro strout
  have whole : (firstBlock given.combined beyond).length % 16 = 0 := by rw [firstBlock, bytes_at_length]
  rw [hex_text_length, Nat.mul_div_cancel _ (by decide), hex_text_read]
  exact cbc_decrypt_encrypt_bytes aes .aes128 vscpkey iv _ inverse whole

theorem first_block_parts (text : Bytes) (beyond : Memory) (short : text.length ≤ 16) (some : 0 < text.length) :
    ∃ rest, Padding rest ∧ firstBlock text beyond = text ++ rest := by
  have size : 16 = text.length + (16 - text.length) := by omega
  refine ⟨bytesAt (ofBytes (text ++ [0]) beyond) text.length (16 - text.length), ⟨?_, ?_⟩, ?_⟩
  · rw [bytes_at_length]
    omega
  · cases left : 16 - text.length with
    | zero => exact .inl rfl
    | succ left =>
        refine .inr ?_
        rw [Nat.add_comm, bytes_at_append]
        have zero : ofBytes (text ++ [0]) beyond text.length = 0 := of_bytes_back text [0] beyond 0
        exact congrArg Option.some zero
  · have parts := bytes_at_append (ofBytes (text ++ [0]) beyond) 0 text.length (16 - text.length)
    rw [← size, Nat.zero_add] at parts
    have front := bytes_at_prefix text [0] beyond text.length rfl
    rw [firstBlock, parts, front]

theorem recovered_iff (inverse : ∀ block, aes.decipher .aes128 vscpkey (aes.encipher .aes128 vscpkey block) = block) :
    Recovered aes vscpkey iv given ↔ given.combined.length ≤ 16 := by
  constructor
  · intro recovered
    obtain ⟨strout, done, rest, _, read⟩ := recovered (fun _ => 0) fun _ => 0
    have block := encrypted_block aes vscpkey iv given _ _ strout done
    have length := congrArg List.length read
    rw [decrypted_length, List.length_append] at length
    have few := Nat.div_mul_le_self (hexStr2ByteArray (strout.length / 2) strout).length 16
    omega
  · intro short beyond output
    obtain ⟨rest, padding, parts⟩ := first_block_parts given.combined beyond short (combined_positive given)
    refine ⟨_, encrypted_short aes vscpkey iv given short beyond output, rest, padding, ?_⟩
    rw [recovered_short aes vscpkey iv given inverse beyond, parts]

end

theorem same_memory (text longer : Bytes) (beyond : Memory) (starts : text ++ [0] <+: longer) :
    firstBlock text (ofBytes (longer ++ [0]) beyond) = firstBlock longer beyond := by
  obtain ⟨back, rfl⟩ := starts
  have same : ofBytes (text ++ [0]) (ofBytes ((text ++ [0]) ++ back ++ [0]) beyond) =
      ofBytes ((text ++ [0]) ++ back ++ [0]) beyond := by
    funext i
    by_cases inside : i < (text ++ [0]).length
    · rw [of_bytes_inside _ _ i inside, List.append_assoc (text ++ [0]) back [0], of_bytes_front _ _ _ i inside,
        of_bytes_inside _ _ i inside]
    · rw [ofBytes, List.getD_eq_default _ _ (Nat.not_lt.mp inside)]
  rw [firstBlock, firstBlock, same]

theorem block_starts (text other : Bytes) (beyond otherBeyond : Memory) (short : other.length ≤ 16)
    (shorter : text.length < other.length) (same : firstBlock text beyond = firstBlock other otherBeyond) :
    text ++ [0] <+: other := by
  have size : 16 = other.length + (16 - other.length) := by omega
  have textSize : 16 = (text ++ [0]).length + (16 - (text ++ [0]).length) := by
    rw [List.length_append, List.length_singleton]
    omega
  have left := bytes_at_append (ofBytes (text ++ [0]) beyond) 0 (text ++ [0]).length (16 - (text ++ [0]).length)
  have right := bytes_at_append (ofBytes (other ++ [0]) otherBeyond) 0 other.length (16 - other.length)
  have own := bytes_at_prefix (text ++ [0]) [] beyond _ rfl
  rw [List.append_nil] at own
  rw [← textSize, own] at left
  rw [← size, bytes_at_prefix other [0] otherBeyond _ rfl] at right
  rw [firstBlock, firstBlock, left, right] at same
  refine List.prefix_of_prefix_length_le (List.prefix_append _ _) (same ▸ List.prefix_append other _) ?_
  rw [List.length_append, List.length_singleton]
  exact shorter

theorem same_block_iff (text other : Bytes) (short : text.length ≤ 16) (otherShort : other.length ≤ 16) :
    (∃ beyond otherBeyond, firstBlock text beyond = firstBlock other otherBeyond) ↔ Confused text other := by
  constructor
  · rintro ⟨beyond, otherBeyond, same⟩
    rcases Nat.lt_trichotomy text.length other.length with less | equal | more
    · exact .inr (.inl (block_starts text other beyond otherBeyond otherShort less same))
    · have size : 16 = text.length + (16 - text.length) := by omega
      have left := bytes_at_append (ofBytes (text ++ [0]) beyond) 0 text.length (16 - text.length)
      have right := bytes_at_append (ofBytes (other ++ [0]) otherBeyond) 0 other.length (16 - other.length)
      have front := bytes_at_prefix text [0] beyond text.length rfl
      have otherFront := bytes_at_prefix other [0] otherBeyond other.length rfl
      rw [front] at left
      rw [otherFront, ← equal] at right
      rw [← size] at left right
      rw [firstBlock, firstBlock, left, right] at same
      exact .inl (List.append_inj_left same equal)
    · exact .inr (.inr (block_starts other text otherBeyond beyond short more same.symm))
  · rintro (rfl | starts | starts)
    · exact ⟨fun _ => 0, fun _ => 0, rfl⟩
    · exact ⟨_, fun _ => 0, same_memory text other _ starts⟩
    · exact ⟨fun _ => 0, _, (same_memory other text _ starts).symm⟩

-- Credentials are kept exactly where their texts fit a block and, where they differ, cannot be confused.
theorem credentials_kept_iff (aes : BlockCipher) (vscpkey : Key) (iv : Block) (given other : Credentials)
    (inverse : ∀ block, aes.decipher .aes128 vscpkey (aes.encipher .aes128 vscpkey block) = block) :
    Kept aes vscpkey iv given other ↔ given.combined.length ≤ 16 ∧ other.combined.length ≤ 16 ∧
      (given ≠ other → ¬ Confused given.combined other.combined) := by
  have first := recovered_iff aes vscpkey iv given inverse
  have second := recovered_iff aes vscpkey iv other inverse
  constructor
  · intro kept
    have short := first.mp kept.first
    have otherShort := second.mp kept.second
    refine ⟨short, otherShort, fun differ confused => ?_⟩
    obtain ⟨beyond, otherBeyond, same⟩ := (same_block_iff _ _ short otherShort).mpr confused
    apply kept.apart differ beyond (fun _ => 0) otherBeyond fun _ => 0
    rw [encrypted_short aes vscpkey iv given short, encrypted_short aes vscpkey iv other otherShort, same]
  · rintro ⟨short, otherShort, apart⟩
    refine ⟨first.mpr short, second.mpr otherShort, fun differ beyond output otherBeyond otherOutput same => ?_⟩
    rw [encrypted_short aes vscpkey iv given short, encrypted_short aes vscpkey iv other otherShort] at same
    have left := recovered_short aes vscpkey iv given inverse beyond
    have right := recovered_short aes vscpkey iv other inverse otherBeyond
    dsimp only at left right
    rw [Option.some.inj same, right] at left
    exact apart differ ((same_block_iff _ _ short otherShort).mp ⟨beyond, otherBeyond, left.symm⟩)

section KnownAnswer

def sampleKey : Key := (List.range 16).map UInt8.ofNat
def sampleIv : Block := Vector.ofFn fun i => UInt8.ofNat i.val

def sampleGiven : Credentials := ⟨[117, 115, 101, 114], [112, 97, 115, 115, 119, 111, 114, 100, 49, 50, 51]⟩
def sampleOther : Credentials := ⟨[117, 115, 101, 114], [112, 97, 115, 115, 119, 111, 114, 100, 49, 50, 52]⟩

def sampleBlock (last : UInt8) : Block :=
  #v[0x75, 0x73, 0x65, 0x72, 0x3a, 0x70, 0x61, 0x73, 0x73, 0x77, 0x6f, 0x72, 0x64, 0x31, 0x32, last]

def givenCiphertext : Block :=
  #v[0xbc, 0x10, 0x55, 0xff, 0x7d, 0xda, 0x76, 0x1a, 0x9d, 0x6c, 0xe0, 0x7c, 0xcb, 0x1a, 0xff, 0x18]

def otherCiphertext : Block :=
  #v[0x43, 0x5f, 0x23, 0x9b, 0x25, 0x3b, 0xdf, 0x96, 0xf2, 0x96, 0xe7, 0x06, 0xd2, 0x08, 0x8b, 0xa8]

-- It does with these two blocks what AES-128 does under the sample key.
def sampleAes : BlockCipher where
  encipher _ _ block :=
    exchange (xorBlocks (sampleBlock 0x34) sampleIv) otherCiphertext
      (exchange (xorBlocks (sampleBlock 0x33) sampleIv) givenCiphertext block)
  decipher _ _ block :=
    exchange (xorBlocks (sampleBlock 0x33) sampleIv) givenCiphertext
      (exchange (xorBlocks (sampleBlock 0x34) sampleIv) otherCiphertext block)

theorem sample_inverse (type : Aes) (key : Key) (block : Block) :
    sampleAes.decipher type key (sampleAes.encipher type key block) = block := by
  simp only [sampleAes, exchange_twice]

theorem credentials_kept_example : Kept sampleAes sampleKey sampleIv sampleGiven sampleOther :=
  (credentials_kept_iff sampleAes sampleKey sampleIv sampleGiven sampleOther
    fun block => sample_inverse .aes128 sampleKey block).mpr ⟨by decide, by decide, fun _ => by
      rintro (same | starts | starts)
      · exact absurd same (by decide)
      · exact absurd starts (by decide)
      · exact absurd starts (by decide)⟩

end KnownAnswer

-- One letter more than a block: "user:password1234" and "user:password1235" give the same text, in which the last
-- letter is lost.
theorem second_block_is_lost :
    let given : Credentials := ⟨sampleGiven.user, sampleGiven.password ++ [52]⟩
    let other : Credentials := ⟨sampleGiven.user, sampleGiven.password ++ [53]⟩
    given ≠ other ∧ given.encrypted sampleAes sampleKey sampleIv (fun _ => 0) (fun _ => 0) =
      other.encrypted sampleAes sampleKey sampleIv (fun _ => 0) (fun _ => 0) ∧
      ¬ Recovered sampleAes sampleKey sampleIv given ∧ ¬ Kept sampleAes sampleKey sampleIv given other := by
  intro given other
  have lost : ¬ Recovered sampleAes sampleKey sampleIv given := by
    intro recovered
    have short := (recovered_iff sampleAes sampleKey sampleIv given (sample_inverse .aes128 sampleKey)).mp recovered
    exact absurd short (by decide)
  refine ⟨by decide, by decide, lost, fun kept => lost kept.first⟩

end Vscp.Ws1
