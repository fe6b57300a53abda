import Vscp.SealedFrame

set_option autoImplicit false

namespace Vscp

open ByteMemory BlockMode

namespace Aes

set_option maxRecDepth 4096 in
def sbox : List UInt8 :=
    [99, 124, 119, 123, 242, 107, 111, 197, 48, 1, 103, 43, 254, 215, 171, 118, 202, 130, 201, 125, 250, 89, 71, 240,
    173, 212, 162, 175, 156, 164, 114, 192, 183, 253, 147, 38, 54, 63, 247, 204, 52, 165, 229, 241, 113, 216, 49, 21,
    4, 199, 35, 195, 24, 150, 5, 154, 7, 18, 128, 226, 235, 39, 178, 117, 9, 131, 44, 26, 27, 110, 90, 160, 82, 59,
    214, 179, 41, 227, 47, 132, 83, 209, 0, 237, 32, 252, 177, 91, 106, 203, 190, 57, 74, 76, 88, 207, 208, 239, 170,
    251, 67, 77, 51, 133, 69, 249, 2, 127, 80, 60, 159, 168, 81, 163, 64, 143, 146, 157, 56, 245, 188, 182, 218, 33,
    16, 255, 243, 210, 205, 12, 19, 236, 95, 151, 68, 23, 196, 167, 126, 61, 100, 93, 25, 115, 96, 129, 79, 220, 34,
    42, 144, 136, 70, 238, 184, 20, 222, 94, 11, 219, 224, 50, 58, 10, 73, 6, 36, 92, 194, 211, 172, 98, 145, 149, 228,
    121, 231, 200, 55, 109, 141, 213, 78, 169, 108, 86, 244, 234, 101, 122, 174, 8, 186, 120, 37, 46, 28, 166, 180,
    198, 232, 221, 116, 31, 75, 189, 139, 138, 112, 62, 181, 102, 72, 3, 246, 14, 97, 53, 87, 185, 134, 193, 29, 158,
    225, 248, 152, 17, 105, 217, 142, 148, 155, 30, 135, 233, 206, 85, 40, 223, 140, 161, 137, 13, 191, 230, 66, 104,
    65, 153, 45, 15, 176, 84, 187, 22]

set_option maxRecDepth 4096 in
def rsbox : List UInt8 :=
    [82, 9, 106, 213, 48, 54, 165, 56, 191, 64, 163, 158, 129, 243, 215, 251, 124, 227, 57, 130, 155, 47, 255, 135, 52,
    142, 67, 68, 196, 222, 233, 203, 84, 123, 148, 50, 166, 194, 35, 61, 238, 76, 149, 11, 66, 250, 195, 78, 8, 46,
    161, 102, 40, 217, 36, 178, 118, 91, 162, 73, 109, 139, 209, 37, 114, 248, 246, 100, 134, 104, 152, 22, 212, 164,
    92, 204, 93, 101, 182, 146, 108, 112, 72, 80, 253, 237, 185, 218, 94, 21, 70, 87, 167, 141, 157, 132, 144, 216,
    171, 0, 140, 188, 211, 10, 247, 228, 88, 5, 184, 179, 69, 6, 208, 44, 30, 143, 202, 63, 15, 2, 193, 175, 189, 3, 1,
    19, 138, 107, 58, 145, 17, 65, 79, 103, 220, 234, 151, 242, 207, 206, 240, 180, 230, 115, 150, 172, 116, 34, 231,
    173, 53, 133, 226, 249, 55, 232, 28, 117, 223, 110, 71, 241, 26, 113, 29, 41, 197, 137, 111, 183, 98, 14, 170, 24,
    190, 27, 252, 86, 62, 75, 198, 210, 121, 32, 154, 219, 192, 254, 120, 205, 90, 244, 31, 221, 168, 51, 136, 7, 199,
    49, 177, 18, 16, 89, 39, 128, 236, 95, 96, 81, 127, 169, 25, 181, 74, 13, 45, 229, 122, 159, 147, 201, 156, 239,
    160, 224, 59, 77, 174, 42, 245, 176, 200, 235, 187, 60, 131, 83, 153, 97, 23, 43, 4, 126, 186, 119, 214, 38, 225,
    105, 20, 99, 85, 33, 12, 125]

-- The first row of Rcon; the index stays below eleven.
def rcon : List UInt8 :=
    [141, 1, 2, 4, 8, 16, 32, 64, 128, 27, 54, 108, 216, 171, 77, 154]

def nk : Aes → Nat
  | aes128 => 4
  | aes192 => 6
  | aes256 => 8

def nr : Aes → Nat
  | aes128 => 10
  | aes192 => 12
  | aes256 => 14

def getSBoxValue (num : UInt8) : UInt8 := sbox.getD num.toNat 0
def getSBoxInvert (num : UInt8) : UInt8 := rsbox.getD num.toNat 0

-- The turn of the second loop for word i, with the words in front of it.
def nextWord (type : Aes) (roundKey : Bytes) (i : Nat) : Bytes :=
  let tempa := (roundKey.drop ((i - 1) * 4)).take 4
  let tempa :=
    if i % type.nk = 0 then
      match (tempa.rotateLeft 1).map getSBoxValue with
      | first :: others => (first ^^^ rcon.getD (i / type.nk) 0) :: others
      | [] => []
    else tempa
  let tempa := if type = aes256 ∧ i % type.nk = 4 then tempa.map getSBoxValue else tempa
  roundKey ++ List.zipWith (· ^^^ ·) ((roundKey.drop ((i - type.nk) * 4)).take 4) tempa

def keyExpansion (type : Aes) (key : Key) : Bytes :=
  (List.range' type.nk (4 * (type.nr + 1) - type.nk)).foldl type.nextWord
    ((List.range (type.nk * 4)).map fun i => key.getD i 0)

-- state[i][j] is the byte 4 * i + j of the block.
def addRoundKey (roundKey : Bytes) (round : Nat) (state : Block) : Block :=
  Vector.ofFn fun k => state[k] ^^^ roundKey.getD (round * 16 + k.val) 0

def subBytes (state : Block) : Block := state.map getSBoxValue
def invSubBytes (state : Block) : Block := state.map getSBoxInvert

def shiftRows (s : Block) : Block :=
  let b (k : Nat) := s.toList.getD k 0
  #v[b 0, b 5, b 10, b 15, b 4, b 9, b 14, b 3, b 8, b 13, b 2, b 7, b 12, b 1, b 6, b 11]

def invShiftRows (s : Block) : Block :=
  let b (k : Nat) := s.toList.getD k 0
  #v[b 0, b 13, b 10, b 7, b 4, b 1, b 14, b 11, b 8, b 5, b 2, b 15, b 12, b 9, b 6, b 3]

def xtime (x : UInt8) : UInt8 := (x <<< 1) ^^^ (((x >>> 7) &&& 1) * 0x1b)

-- Tm = x ^ y; Tm = xtime(Tm); x ^= Tm ^ Tmp
def mixByte (x y tmp : UInt8) : UInt8 := x ^^^ (xtime (x ^^^ y) ^^^ tmp)

structure Column where
  a : UInt8
  b : UInt8
  c : UInt8
  d : UInt8
deriving DecidableEq

def mixColumn : Column → Column
  | ⟨a, b, c, d⟩ =>
      let tmp := a ^^^ b ^^^ c ^^^ d
      ⟨mixByte a b tmp, mixByte b c tmp, mixByte c d tmp, mixByte d a tmp⟩

example : mixColumn ⟨0xdb, 0x13, 0x53, 0x45⟩ = ⟨0x8e, 0x4d, 0xa1, 0xbc⟩ := by decide

def multiply (x y : UInt8) : UInt8 :=
  let bit (i : UInt8) : UInt8 := (y >>> i) &&& 1
  (bit 0 * x) ^^^ (bit 1 * xtime x) ^^^ (bit 2 * xtime (xtime x)) ^^^ (bit 3 * xtime (xtime (xtime x))) ^^^
    (bit 4 * xtime (xtime (xtime (xtime x))))

def invMixColumn : Column → Column
  | ⟨a, b, c, d⟩ =>
      ⟨multiply a 0x0e ^^^ multiply b 0x0b ^^^ multiply c 0x0d ^^^ multiply d 0x09,
        multiply a 0x09 ^^^ multiply b 0x0e ^^^ multiply c 0x0b ^^^ multiply d 0x0d,
        multiply a 0x0d ^^^ multiply b 0x09 ^^^ multiply c 0x0e ^^^ multiply d 0x0b,
        multiply a 0x0b ^^^ multiply b 0x0d ^^^ multiply c 0x09 ^^^ multiply d 0x0e⟩

-- The loop over the four columns, which both mixings have.
def onColumns (mix : Column → Column) (s : Block) : Block :=
  let b (k : Nat) := s.toList.getD k 0
  let column (i : Nat) := mix ⟨b (4 * i), b (4 * i + 1), b (4 * i + 2), b (4 * i + 3)⟩
  #v[(column 0).a, (column 0).b, (column 0).c, (column 0).d, (column 1).a, (column 1).b, (column 1).c, (column 1).d,
    (column 2).a, (column 2).b, (column 2).c, (column 2).d, (column 3).a, (column 3).b, (column 3).c, (column 3).d]

def mixColumns : Block → Block := onColumns mixColumn
def invMixColumns : Block → Block := onColumns invMixColumn

def cipherRound (roundKey : Bytes) (state : Block) (round : Nat) : Block :=
  addRoundKey roundKey round (mixColumns (shiftRows (subBytes state)))

def invCipherRound (roundKey : Bytes) (state : Block) (round : Nat) : Block :=
  invMixColumns (addRoundKey roundKey round (invSubBytes (invShiftRows state)))

def cipher (nr : Nat) (roundKey : Bytes) (state : Block) : Block :=
  let state := (List.range' 1 (nr - 1)).foldl (cipherRound roundKey) (addRoundKey roundKey 0 state)
  addRoundKey roundKey nr (shiftRows (subBytes state))

def invCipher (nr : Nat) (roundKey : Bytes) (state : Block) : Block :=
  let state := (List.range' 1 (nr - 1)).reverse.foldl (invCipherRound roundKey) (addRoundKey roundKey nr state)
  addRoundKey roundKey 0 (invSubBytes (invShiftRows state))

theorem sbox_entries : ∀ i : Fin 256, getSBoxInvert (getSBoxValue (UInt8.ofFin i)) = UInt8.ofFin i := by
  decide +kernel

variable (roundKey : Bytes) (state : Block)

theorem inv_sub_bytes : invSubBytes (subBytes state) = state := by
  apply Vector.ext
  intro i bound
  rw [invSubBytes, subBytes, Vector.getElem_map, Vector.getElem_map]
  exact sbox_entries state[i].toFin

variable (s : Block)

theorem on_columns_id : onColumns id s = s := by
  apply Vector.ext
  intro i bound
  interval_cases i <;> simp [onColumns]

theorem inv_shift_rows : invShiftRows (shiftRows s) = s := Eq.trans rfl (on_columns_id s)

variable (round : Nat)

theorem add_round_key_twice (state : Block) :
    addRoundKey roundKey round (addRoundKey roundKey round state) = state := by
  apply Vector.ext
  intro i bound
  simp [addRoundKey]

theorem xtime_entries : ∀ i : Fin 256,
    (xtime (UInt8.ofFin i)).toBitVec = ShiftRegister.bitStep 0x1b#8 (UInt8.ofFin i).toBitVec := by
  decide +kernel

theorem xtime_xor (a b : UInt8) : xtime (a ^^^ b) = xtime a ^^^ xtime b := by
  have step (x : UInt8) : (xtime x).toBitVec = ShiftRegister.bitStep 0x1b#8 x.toBitVec := xtime_entries x.toFin
  apply UInt8.toBitVec_inj.mp
  rw [UInt8.toBitVec_xor, step, step, step, UInt8.toBitVec_xor, ShiftRegister.bit_step_xor]

theorem xor_pair (x y : UInt8) : x ^^^ (x ^^^ y) = y := by
  rw [← UInt8.xor_assoc, UInt8.xor_self, UInt8.zero_xor]

theorem xor_left_comm (x y z : UInt8) : x ^^^ (y ^^^ z) = y ^^^ (x ^^^ z) := by
  rw [← UInt8.xor_assoc, UInt8.xor_comm x y, UInt8.xor_assoc]

theorem multiply_bits (x y one two four eight : UInt8) (first : y &&& 1 = one) (second : (y >>> 1) &&& 1 = two)
    (third : (y >>> 2) &&& 1 = four) (fourth : (y >>> 3) &&& 1 = eight) (fifth : (y >>> 4) &&& 1 = 0) :
    multiply x y = (one * x) ^^^ (two * xtime x) ^^^ (four * xtime (xtime x)) ^^^ (eight * xtime (xtime (xtime x))) := by
  have zero : y >>> 0 = y := by simp
  simp only [multiply, zero, first, second, third, fourth, fifth, UInt8.zero_mul, UInt8.xor_zero]

-- The first row of the inverse matrix, sorted by how often xtime is taken.
theorem multiply_row (p q r t : UInt8) :
    multiply p 0x0e ^^^ multiply q 0x0b ^^^ multiply r 0x0d ^^^ multiply t 0x09 =
      xtime (xtime (xtime (p ^^^ q ^^^ r ^^^ t))) ^^^ xtime (xtime (p ^^^ r)) ^^^ xtime (p ^^^ q) ^^^
        (q ^^^ r ^^^ t) := by
  rw [multiply_bits p 0x0e 0 1 1 1 rfl rfl rfl rfl rfl, multiply_bits q 0x0b 1 1 0 1 rfl rfl rfl rfl rfl,
    multiply_bits r 0x0d 1 0 1 1 rfl rfl rfl rfl rfl, multiply_bits t 0x09 1 0 0 1 rfl rfl rfl rfl rfl]
  simp only [UInt8.one_mul, UInt8.zero_mul, UInt8.zero_xor, UInt8.xor_zero, xtime_xor, UInt8.xor_assoc, UInt8.xor_comm,
    xor_left_comm]

theorem mixed_byte (a b c d sum : UInt8) (whole : sum = a ^^^ b ^^^ c ^^^ d) :
    multiply (mixByte a b sum) 0x0e ^^^ multiply (mixByte b c sum) 0x0b ^^^ multiply (mixByte c d sum) 0x0d ^^^
      multiply (mixByte d a sum) 0x09 = a := by
  have total : mixByte a b sum ^^^ mixByte b c sum ^^^ mixByte c d sum ^^^ mixByte d a sum = sum := by
    rw [whole]
    simp only [mixByte, xtime_xor, UInt8.xor_assoc, UInt8.xor_comm, xor_left_comm, xor_pair, UInt8.xor_self,
      UInt8.xor_zero]
  have opposite : mixByte a b sum ^^^ mixByte c d sum = a ^^^ c ^^^ xtime sum := by
    rw [whole]
    simp only [mixByte, xtime_xor, UInt8.xor_assoc, UInt8.xor_comm, xor_left_comm, xor_pair]
  have next : mixByte a b sum ^^^ mixByte b c sum = a ^^^ b ^^^ xtime (a ^^^ c) := by
    simp only [mixByte, xtime_xor, UInt8.xor_assoc, UInt8.xor_comm, xor_left_comm, xor_pair]
  have others : mixByte b c sum ^^^ mixByte c d sum ^^^ mixByte d a sum = mixByte a b sum ^^^ sum := by
    have apart := congrArg (mixByte a b sum ^^^ ·) total
    simpa only [UInt8.xor_assoc, xor_pair] using apart
  rw [multiply_row, total, opposite, next, others, mixByte]
  simp only [xtime_xor, UInt8.xor_assoc, UInt8.xor_comm, xor_left_comm, xor_pair, UInt8.xor_self, UInt8.xor_zero]

-- Every row is the first one of the column that begins a byte later.
theorem inv_mix_column (column : Column) : invMixColumn (mixColumn column) = column := by
  obtain ⟨a, b, c, d⟩ := column
  have first := mixed_byte a b c d _ rfl
  have second := mixed_byte b c d a (a ^^^ b ^^^ c ^^^ d) (by ac_rfl)
  have third := mixed_byte c d a b (a ^^^ b ^^^ c ^^^ d) (by ac_rfl)
  have fourth := mixed_byte d a b c (a ^^^ b ^^^ c ^^^ d) (by ac_rfl)
  simp only [UInt8.xor_assoc, UInt8.xor_comm, xor_left_comm] at first second third fourth
  simp only [invMixColumn, mixColumn, UInt8.xor_assoc, UInt8.xor_comm, xor_left_comm, first, second, third, fourth]

theorem inv_mix_columns : invMixColumns (mixColumns s) = s := by
  have columns : invMixColumns (mixColumns s) = onColumns (invMixColumn ∘ mixColumn) s := rfl
  have undone : invMixColumn ∘ mixColumn = id := funext inv_mix_column
  rw [columns, undone, on_columns_id]

-- What an inverse round meets is the last round of a cipher that ends one round earlier.
theorem inv_round :
    invCipherRound roundKey (shiftRows (subBytes (cipherRound roundKey state round))) round =
      shiftRows (subBytes state) := by
  rw [invCipherRound, inv_shift_rows, inv_sub_bytes, cipherRound, add_round_key_twice, inv_mix_columns]

theorem inv_cipher_cipher (nr : Nat) (roundKey : Bytes) (state : Block) :
    invCipher nr roundKey (cipher nr roundKey state) = state := by
  have rounds := rounds_undone (cipherRound roundKey) (invCipherRound roundKey)
    (fun state => shiftRows (subBytes state)) (inv_round roundKey) (List.range' 1 (nr - 1))
    (addRoundKey roundKey 0 state)
  rw [invCipher, cipher, add_round_key_twice, rounds, inv_shift_rows, inv_sub_bytes, add_round_key_twice]

end Aes

def vscpAes : BlockCipher where
  encipher type key := Aes.cipher type.nr (type.keyExpansion key)
  decipher type key := Aes.invCipher type.nr (type.keyExpansion key)

theorem block_deciphered (type : Aes) (key : Key) (block : Block) :
    vscpAes.decipher type key (vscpAes.encipher type key block) = block :=
  Aes.inv_cipher_cipher type.nr (type.keyExpansion key) block

theorem aes_blocks_inverse (type : Aes) (key : Key) (block : Block) :
    vscpAes.decipher type key (vscpAes.encipher type key block) = block ∧
      vscpAes.encipher type key (vscpAes.decipher type key block) = block :=
  ⟨block_deciphered type key block, inverse_both_sides _ _ (block_deciphered type key) block⟩

theorem aes_buffers_inverse (type : Aes) (output target input beyond : Memory) (length : Nat) (key : Key) (iv : Block)
    (whole : length % 16 = 0) (positive : 0 < length) :
    aesCbcDecryptBuffer vscpAes type target
        (ofBytes (aesCbcEncryptBuffer vscpAes type output input length key iv) beyond) length key iv =
      bytesAt input 0 length := by
  have size : (cbcEncryptBytes vscpAes type key iv (bytesAt input 0 length)).length = length := by
    rw [cbc_encrypt_bytes_length _ _ _ _ _ (by rwa [bytes_at_length]), bytes_at_length]
  have held := bytes_at_prefix (cbcEncryptBytes vscpAes type key iv (bytesAt input 0 length)) [] beyond length size.symm
  rw [List.append_nil] at held
  rw [aes_cbc_encrypt_whole _ _ _ _ _ _ _ whole positive, aes_cbc_decrypt_whole _ _ _ _ _ _ _ whole positive, held,
    cbc_decrypt_encrypt_bytes _ _ _ _ _ (block_deciphered type key) (by rwa [bytes_at_length])]

theorem aes_buffers_inverse_known :
    aesCbcDecryptBuffer vscpAes .aes256 (fun _ => 0)
        (ofBytes (aesCbcEncryptBuffer vscpAes .aes256 (fun _ => 0) (ofBytes knownFrame fun _ => 0) 32 knownKey knownIv)
          fun _ => 0) 32 knownKey knownIv = bytesAt (ofBytes knownFrame fun _ => 0) 0 32 :=
  aes_buffers_inverse .aes256 _ _ _ _ 32 knownKey knownIv rfl (by decide)

-- An OpenSSL that keeps to its documentation over a block function.
theorem documented_over (aes : BlockCipher)
    (inverse : ∀ type key block, aes.decipher type key (aes.encipher type key block) = block) :
    ∃ ssl, DocumentedCbc ssl aes := by
  refine ⟨⟨fun type padding key iv data _ =>
      some (cbcEncryptBytes aes type key iv (if padding then pad 16 data else data), []),
    fun type padding key iv data _ =>
      let plain := cbcDecryptBytes aes type key iv data
      if padding then (unpad 16 plain).map fun bytes => (bytes, []) else some (plain, []), fun _ _ => none⟩, ?_⟩
  refine ⟨inverse, fun _ _ _ _ _ _ => rfl, fun _ _ _ _ _ _ => rfl, fun _ _ _ _ _ => ?_, fun _ _ _ _ _ _ => ?_⟩
  · simp
  · simp [Function.comp_def]

theorem internal_frame_trip (ssl : OpenSsl) (random iv : Option Block) (output target : Memory) (lead : UInt8)
    (body : Bytes) (key : Key) (encryption : UInt8) (chosen : Block) (known : encryption ≤ encryptionAes256)
    (long : 4 ≤ body.length) (small : body.length < 2 ^ 30) (ivChosen : getEncryptionIv random iv = some chosen) :
    ∃ wire, encryptFrame ssl vscpAes false random output (lead :: body) (some key) iv encryption = some wire ∧
      decryptFrame ssl vscpAes false target wire (some key) none encryptionFromTypeByte =
        if TrailingCrc (lead :: body) then
          some (encryptLead lead encryption :: (body ++ List.replicate (sealedZeros encryption body.length) 0))
        else none := by
  obtain ⟨other, documented⟩ := documented_over vscpAes block_deciphered
  obtain ⟨rest, sealed, -, opens⟩ := sealed_frame_opens other vscpAes documented false random iv output lead body key
    encryption chosen known long small ivChosen
  exact ⟨_, sealed, opens false target encryptionFromTypeByte (.inl rfl)⟩

theorem internal_frame_trip_known :
    ∃ wire, encryptFrame knownOpenSsl vscpAes false (some knownIv) (fun _ => 0) knownFrame (some knownKey) none 3 =
        some wire ∧
      decryptFrame knownOpenSsl vscpAes false (fun _ => 0) wire (some knownKey) none encryptionFromTypeByte =
        some (0xe3 :: ([0x00, 0x07, 0x6d, 0xe8] ++ List.replicate 12 0)) := by
  obtain ⟨wire, sealed, opened⟩ := internal_frame_trip knownOpenSsl (some knownIv) none (fun _ => 0) (fun _ => 0) 0xe0
    [0x00, 0x07, 0x6d, 0xe8] knownKey 3 knownIv (by decide) (by decide) (by decide) rfl
  rw [if_pos (by decide)] at opened
  exact ⟨wire, sealed, opened⟩

end Vscp
