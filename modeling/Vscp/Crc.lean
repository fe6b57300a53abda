import Vscp.Lib.ByteMemory
import Vscp.Lib.ShiftRegister

set_option autoImplicit false

namespace Vscp

open ByteMemory

def polynomial : UInt16 := 0x1021
def initialRemainder : UInt16 := 0xffff

set_option maxRecDepth 4096 in
def crcTable : List UInt16 :=
  [
    0x0000, 0x1021, 0x2042, 0x3063, 0x4084, 0x50a5, 0x60c6, 0x70e7, 0x8108, 0x9129, 0xa14a, 0xb16b, 0xc18c, 0xd1ad, 0xe1ce, 0xf1ef,
    0x1231, 0x0210, 0x3273, 0x2252, 0x52b5, 0x4294, 0x72f7, 0x62d6, 0x9339, 0x8318, 0xb37b, 0xa35a, 0xd3bd, 0xc39c, 0xf3ff, 0xe3de,
    0x2462, 0x3443, 0x0420, 0x1401, 0x64e6, 0x74c7, 0x44a4, 0x5485, 0xa56a, 0xb54b, 0x8528, 0x9509, 0xe5ee, 0xf5cf, 0xc5ac, 0xd58d,
    0x3653, 0x2672, 0x1611, 0x0630, 0x76d7, 0x66f6, 0x5695, 0x46b4, 0xb75b, 0xa77a, 0x9719, 0x8738, 0xf7df, 0xe7fe, 0xd79d, 0xc7bc,
    0x48c4, 0x58e5, 0x6886, 0x78a7, 0x0840, 0x1861, 0x2802, 0x3823, 0xc9cc, 0xd9ed, 0xe98e, 0xf9af, 0x8948, 0x9969, 0xa90a, 0xb92b,
    0x5af5, 0x4ad4, 0x7ab7, 0x6a96, 0x1a71, 0x0a50, 0x3a33, 0x2a12, 0xdbfd, 0xcbdc, 0xfbbf, 0xeb9e, 0x9b79, 0x8b58, 0xbb3b, 0xab1a,
    0x6ca6, 0x7c87, 0x4ce4, 0x5cc5, 0x2c22, 0x3c03, 0x0c60, 0x1c41, 0xedae, 0xfd8f, 0xcdec, 0xddcd, 0xad2a, 0xbd0b, 0x8d68, 0x9d49,
    0x7e97, 0x6eb6, 0x5ed5, 0x4ef4, 0x3e13, 0x2e32, 0x1e51, 0x0e70, 0xff9f, 0xefbe, 0xdfdd, 0xcffc, 0xbf1b, 0xaf3a, 0x9f59, 0x8f78,
    0x9188, 0x81a9, 0xb1ca, 0xa1eb, 0xd10c, 0xc12d, 0xf14e, 0xe16f, 0x1080, 0x00a1, 0x30c2, 0x20e3, 0x5004, 0x4025, 0x7046, 0x6067,
    0x83b9, 0x9398, 0xa3fb, 0xb3da, 0xc33d, 0xd31c, 0xe37f, 0xf35e, 0x02b1, 0x1290, 0x22f3, 0x32d2, 0x4235, 0x5214, 0x6277, 0x7256,
    0xb5ea, 0xa5cb, 0x95a8, 0x8589, 0xf56e, 0xe54f, 0xd52c, 0xc50d, 0x34e2, 0x24c3, 0x14a0, 0x0481, 0x7466, 0x6447, 0x5424, 0x4405,
    0xa7db, 0xb7fa, 0x8799, 0x97b8, 0xe75f, 0xf77e, 0xc71d, 0xd73c, 0x26d3, 0x36f2, 0x0691, 0x16b0, 0x6657, 0x7676, 0x4615, 0x5634,
    0xd94c, 0xc96d, 0xf90e, 0xe92f, 0x99c8, 0x89e9, 0xb98a, 0xa9ab, 0x5844, 0x4865, 0x7806, 0x6827, 0x18c0, 0x08e1, 0x3882, 0x28a3,
    0xcb7d, 0xdb5c, 0xeb3f, 0xfb1e, 0x8bf9, 0x9bd8, 0xabbb, 0xbb9a, 0x4a75, 0x5a54, 0x6a37, 0x7a16, 0x0af1, 0x1ad0, 0x2ab3, 0x3a92,
    0xfd2e, 0xed0f, 0xdd6c, 0xcd4d, 0xbdaa, 0xad8b, 0x9de8, 0x8dc9, 0x7c26, 0x6c07, 0x5c64, 0x4c45, 0x3ca2, 0x2c83, 0x1ce0, 0x0cc1,
    0xef1f, 0xff3e, 0xcf5d, 0xdf7c, 0xaf9b, 0xbfba, 0x8fd9, 0x9ff8, 0x6e17, 0x7e36, 0x4e55, 0x5e74, 0x2e93, 0x3eb2, 0x0ed1, 0x1ef0]

def crcBit (remainder : UInt16) : UInt16 :=
  if remainder &&& 0x8000 ≠ 0 then (remainder <<< 1) ^^^ polynomial else remainder <<< 1

def crcSlowByte (remainder : UInt16) (byte : UInt8) : UInt16 :=
  crcBit^[8] (remainder ^^^ (byte.toUInt16 <<< 8))

def crcSlow (message : List UInt8) : UInt16 := message.foldl crcSlowByte initialRemainder

def crcFastByte (remainder : UInt16) (byte : UInt8) : UInt16 :=
  crcTable.getD (byte ^^^ (remainder >>> 8).toUInt8).toNat 0 ^^^ (remainder <<< 8)

def crcFast (message : List UInt8) : UInt16 := message.foldl crcFastByte initialRemainder

variable (r : UInt16)

theorem top_bit_test : (r &&& 0x8000 ≠ 0) ↔ r.toBitVec.msb = true := by
  have mask : (r &&& 0x8000).toBitVec = if r.toBitVec.msb then BitVec.twoPow 16 15 else 0#16 := by
    rw [BitVec.msb_eq_getLsbD_last, ← BitVec.and_twoPow]
    rfl
  rw [Ne, ← UInt16.toBitVec_inj, mask]
  cases r.toBitVec.msb <;> decide

theorem crc_bit_step : (crcBit r).toBitVec = ShiftRegister.bitStep polynomial.toBitVec r.toBitVec := by
  have top := top_bit_test r
  unfold crcBit ShiftRegister.bitStep
  by_cases set : r.toBitVec.msb = true
  · rw [if_pos (top.mpr set), if_pos set]
    rfl
  · rw [if_neg (fun bit => set (top.mp bit)), if_neg set]
    rfl

theorem crc_bits (n : Nat) :
    (crcBit^[n] r).toBitVec = (ShiftRegister.bitStep polynomial.toBitVec)^[n] r.toBitVec := by
  induction n generalizing r with
  | zero => rfl
  | succ n ih => rw [Function.iterate_succ_apply, Function.iterate_succ_apply, ih, crc_bit_step]

variable (b : UInt8)

theorem crc_slow_byte :
    (crcSlowByte r b).toBitVec = ShiftRegister.feedByte polynomial.toBitVec r.toBitVec b := by
  rw [crcSlowByte, crc_bits]
  rfl

theorem crc_table_entries : ∀ i : Fin 256,
    (crcTable.getD i.val 0).toBitVec = ShiftRegister.tableEntry polynomial.toBitVec (UInt8.ofFin i) := by
  decide +kernel

theorem crc_fast_byte :
    (crcFastByte r b).toBitVec = ShiftRegister.feedByte polynomial.toBitVec r.toBitVec b := by
  rw [ShiftRegister.feed_byte_table _ _ _ (by decide), crcFastByte, UInt16.toBitVec_xor]
  have index : b ^^^ (r >>> 8).toUInt8 = b ^^^ ShiftRegister.topByte r.toBitVec := rfl
  have entry := crc_table_entries (b ^^^ (r >>> 8).toUInt8).toFin
  rw [UInt8.ofFin_toFin, index] at entry
  rw [index, ← entry]
  rfl

variable (message : List UInt8)

theorem crc_slow_register :
    (crcSlow message).toBitVec =
      ShiftRegister.feed polynomial.toBitVec initialRemainder.toBitVec message := by
  unfold crcSlow
  generalize initialRemainder = r
  induction message generalizing r with
  | nil => rfl
  | cons b rest ih => rw [List.foldl_cons, ih, crc_slow_byte]; rfl

theorem crc_fast_register :
    (crcFast message).toBitVec =
      ShiftRegister.feed polynomial.toBitVec initialRemainder.toBitVec message := by
  unfold crcFast
  generalize initialRemainder = r
  induction message generalizing r with
  | nil => rfl
  | cons b rest ih => rw [List.foldl_cons, ih, crc_fast_byte]; rfl

theorem crc_slow_fast : crcSlow message = crcFast message :=
  UInt16.toBitVec_inj.mp ((crc_slow_register message).trans (crc_fast_register message).symm)

theorem bytes16_register (value : UInt16) :
    ShiftRegister.bitWord ((bytes16 value).flatMap ShiftRegister.bitsOf) = value.toBitVec := by
  have high : ShiftRegister.bitsOf (value >>> 8).toUInt8 = (List.range 8).map value.toBitVec.getMsbD := by
    apply List.map_congr_left
    intro i member
    have inside := List.mem_range.mp member
    simp [BitVec.getMsbD_ushiftRight, show i + 8 < 16 by omega, show ¬ i + 8 < 8 by omega]
  have low : ShiftRegister.bitsOf value.toUInt8 = (List.range 8).map fun i => value.toBitVec.getMsbD (8 + i) := by
    apply List.map_congr_left
    intro i member
    simp [Nat.add_comm]
  have bits : (bytes16 value).flatMap ShiftRegister.bitsOf = (List.range (8 + 8)).map value.toBitVec.getMsbD := by
    simp only [bytes16, List.flatMap_cons, List.flatMap_nil, List.append_nil, high, low, List.range_add,
      List.map_append, List.map_map, Function.comp_def]
  rw [bits]
  apply BitVec.eq_of_getMsbD_eq
  intro i bound
  rw [ShiftRegister.bit_word_bit _ i bound]
  simp [bound]

theorem crc_fast_appended : crcFast (message ++ bytes16 (crcFast message)) = 0 := by
  apply UInt16.toBitVec_inj.mp
  rw [crc_fast_register, ShiftRegister.feed_append, ← crc_fast_register, ShiftRegister.feed_bits _ _ _ (by decide)]
  exact ShiftRegister.feed_own_bits _ _ _ (by simp [bytes16]) (bytes16_register _)

def messageBits (message : List UInt8) : List Bool := message.flatMap ShiftRegister.bitsOf

variable (left right : List UInt8)

theorem crc_burst_detected (front a b back : List Bool)
    (leftBits : messageBits left = front ++ a ++ back) (rightBits : messageBits right = front ++ b ++ back)
    (same : a.length = b.length) (short : a.length ≤ 16) (different : left ≠ right) :
    crcFast left ≠ crcFast right := by
  have window : a ≠ b := by
    intro equal
    rw [equal, ← rightBits] at leftBits
    exact different (ShiftRegister.message_bits_injective left right leftBits)
  intro equal
  have registers := congrArg UInt16.toBitVec equal
  rw [crc_fast_register, crc_fast_register, ShiftRegister.feed_bits _ _ _ (by decide),
    ShiftRegister.feed_bits _ _ _ (by decide)] at registers
  rw [messageBits] at leftBits rightBits
  rw [leftBits, rightBits] at registers
  exact ShiftRegister.burst_detected _ _ (by decide) front a b back same short window registers

theorem crc_fast_xor (same : left.length = right.length) :
    crcFast (List.zipWith (· ^^^ ·) left right) =
      crcFast left ^^^ crcFast right ^^^ crcFast (List.replicate left.length 0) := by
  let zeros : List UInt8 := List.replicate left.length 0
  have length : (List.zipWith (· ^^^ ·) left right).length = zeros.length := by
    rw [List.length_zipWith, List.length_replicate, ← same, Nat.min_self]
  have kept : List.zipWith (· ^^^ ·) (List.zipWith (· ^^^ ·) left right) zeros = List.zipWith (· ^^^ ·) left right := by
    apply List.ext_getElem
    · rw [List.length_zipWith, length, Nat.min_self]
    · intro i _ _
      rw [List.getElem_zipWith, List.getElem_replicate, UInt8.xor_zero]
  have start : initialRemainder.toBitVec =
      (initialRemainder.toBitVec ^^^ initialRemainder.toBitVec) ^^^ initialRemainder.toBitVec := by
    rw [BitVec.xor_self, BitVec.zero_xor]
  apply UInt16.toBitVec_inj.mp
  rw [UInt16.toBitVec_xor, UInt16.toBitVec_xor, crc_fast_register, crc_fast_register, crc_fast_register,
    crc_fast_register]
  conv => lhs; rw [← kept, start]
  rw [ShiftRegister.feed_xor _ _ _ _ _ length, ShiftRegister.feed_xor _ _ _ _ _ same]

-- With CRC_CCITT the table comes from the compiler and crcInit leaves it as it is.
theorem crc_laws (message left right : List UInt8) (same : left.length = right.length) :
    crcFast message = crcSlow message ∧
    crcFast (List.zipWith (· ^^^ ·) left right) =
      crcFast left ^^^ crcFast right ^^^ crcFast (List.replicate left.length 0) ∧
    crcFast (message ++ bytes16 (crcFast message)) = 0 :=
  ⟨(crc_slow_fast message).symm, crc_fast_xor left right same, crc_fast_appended message⟩

theorem crc_laws_two_bytes :
    crcFast [1, 2] = crcSlow [1, 2] ∧
    crcFast (List.zipWith (· ^^^ ·) [3, 4] [5, 6]) = crcFast [3, 4] ^^^ crcFast [5, 6] ^^^ crcFast [0, 0] ∧
    crcFast ([1, 2] ++ bytes16 (crcFast [1, 2])) = 0 :=
  crc_laws [1, 2] [3, 4] [5, 6] rfl

end Vscp
