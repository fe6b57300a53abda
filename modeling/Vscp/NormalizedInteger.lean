import Vscp.IntegerMeasurement
import Vscp.Lib.BitField

set_option autoImplicit false

namespace Vscp

open BitField
open ByteNumber

def copyTo (valarray : Bytes) (place : Nat) (bytes : Bytes) : Bytes :=
  valarray.take place ++ bytes ++ valarray.drop (place + bytes.length)

def int16SwapOnLe (val : UInt16) : Int16 := (((val &&& 0x00ff) <<< 8) ||| ((val &&& 0xff00) >>> 8)).toInt16

def int32SwapOnLe (val : UInt32) : Int32 :=
  (((val &&& 0x000000ff) <<< 24) ||| ((val &&& 0x0000ff00) <<< 8) ||| ((val &&& 0x00ff0000) >>> 8) |||
    ((val &&& 0xff000000) >>> 24)).toInt32

def swap8Bytes (val : UInt64) : UInt64 :=
  (val >>> 56 &&& (0x00000000000000ff : UInt64)) ||| (val >>> 40 &&& (0x000000000000ff00 : UInt64)) |||
    (val >>> 24 &&& (0x0000000000ff0000 : UInt64)) ||| (val >>> 8 &&& (0x00000000ff000000 : UInt64)) |||
    (val <<< 8 &&& (0x000000ff00000000 : UInt64)) ||| (val <<< 24 &&& (0x0000ff0000000000 : UInt64)) |||
    (val <<< 40 &&& (0x00ff000000000000 : UInt64)) ||| (val <<< 56 &&& (0xff00000000000000 : UInt64))

def loadInt8 (valarray : Bytes) : Int := (valarray.getD 0 0).toInt8.toInt
def loadInt16 (valarray : Bytes) : Int := (int16SwapOnLe (UInt16.ofNat (littleNumber (valarray.take 2)))).toInt
def loadInt32 (valarray : Bytes) : Int := (int32SwapOnLe (UInt32.ofNat (littleNumber (valarray.take 4)))).toInt
def loadInt64 (valarray : Bytes) : Int := (swap8Bytes (UInt64.ofNat (littleNumber (valarray.take 8)))).toInt64.toInt

def normalizedMantissa (pCode : Bytes) (count : Nat) : Int :=
  let valarray : Bytes := List.replicate 8 0
  let number := (pCode.drop 2).take count
  let bNegative := pCode.getD 2 0 &&& 0x80 ≠ 0
  match count with
  | 1 => loadInt8 (copyTo valarray 0 number)
  | 2 => loadInt16 (copyTo valarray 0 number)
  | 3 =>
      let valarray := copyTo valarray 1 number
      loadInt32 (if bNegative then copyTo valarray 0 [0xff] else valarray)
  | 4 => loadInt32 (copyTo valarray 0 number)
  | 5 =>
      let valarray := copyTo valarray 3 number
      loadInt64 (if bNegative then copyTo valarray 0 [0xff, 0xff, 0xff] else valarray)
  | 6 =>
      let valarray := copyTo valarray 2 number
      loadInt64 (if bNegative then copyTo valarray 0 [0xff, 0xff] else valarray)
  | _ => 0

def scaledByDecibyte (value : ℚ) (decibyte : UInt8) : ℚ :=
  if decibyte &&& 0x80 ≠ 0 then value / 10 ^ (decibyte &&& 0x7f).toNat else value * 10 ^ (decibyte &&& 0x7f).toNat

-- vscp_getDataCodingNormalizedInteger with the switch as it stands, and exact numbers for the doubles.
def normalizedIntegerValue (pCode : Bytes) (length : UInt8) : ℚ :=
  if length > 8 ∨ length < 2 then 0
  else scaledByDecibyte (normalizedMantissa pCode (length.toNat - 2)) (pCode.getD 1 0)

section swaps

variable (bytes : Bytes)

theorem number_of_eight (eight : bytes.length = 8) :
    bigNumber bytes = (bytes.getD 7 0).toNat + (bytes.getD 6 0).toNat * 2 ^ 8 + (bytes.getD 5 0).toNat * 2 ^ 16 +
      (bytes.getD 4 0).toNat * 2 ^ 24 + (bytes.getD 3 0).toNat * 2 ^ 32 + (bytes.getD 2 0).toNat * 2 ^ 40 +
      (bytes.getD 1 0).toNat * 2 ^ 48 + (bytes.getD 0 0).toNat * 2 ^ 56 := by
  match bytes, eight with
  | [a, b, c, d, e, f, g, h], _ =>
      change (((((((0 * 256 + a.toNat) * 256 + b.toNat) * 256 + c.toNat) * 256 + d.toNat) * 256 + e.toNat) * 256 +
        f.toNat) * 256 + g.toNat) * 256 + h.toNat = h.toNat + g.toNat * 2 ^ 8 + f.toNat * 2 ^ 16 + e.toNat * 2 ^ 24 +
          d.toNat * 2 ^ 32 + c.toNat * 2 ^ 40 + b.toNat * 2 ^ 48 + a.toNat * 2 ^ 56
      omega

theorem eight_bytes_or (a b c d e f g h : UInt8) :
    a.toNat ||| b.toNat * 2 ^ 8 ||| c.toNat * 2 ^ 16 ||| d.toNat * 2 ^ 24 ||| e.toNat * 2 ^ (8 + 24) |||
        f.toNat * 2 ^ (24 + 16) ||| g.toNat * 2 ^ (40 + 8) ||| h.toNat * 2 ^ (56 + 0) =
      a.toNat + b.toNat * 2 ^ 8 + c.toNat * 2 ^ 16 + d.toNat * 2 ^ 24 + e.toNat * 2 ^ 32 + f.toNat * 2 ^ 40 +
        g.toNat * 2 ^ 48 + h.toNat * 2 ^ 56 := by
  have first := a.toNat_lt
  have second := b.toNat_lt
  have third := c.toNat_lt
  have fourth := d.toNat_lt
  have fifth := e.toNat_lt
  have sixth := f.toNat_lt
  have seventh := g.toNat_lt
  have upTo16 : a.toNat + b.toNat * 2 ^ 8 < 2 ^ 16 := by omega
  have upTo24 : a.toNat + b.toNat * 2 ^ 8 + c.toNat * 2 ^ 16 < 2 ^ 24 := by omega
  have upTo32 : a.toNat + b.toNat * 2 ^ 8 + c.toNat * 2 ^ 16 + d.toNat * 2 ^ 24 < 2 ^ 32 := by omega
  have upTo40 : a.toNat + b.toNat * 2 ^ 8 + c.toNat * 2 ^ 16 + d.toNat * 2 ^ 24 + e.toNat * 2 ^ 32 < 2 ^ 40 := by omega
  have upTo48 : a.toNat + b.toNat * 2 ^ 8 + c.toNat * 2 ^ 16 + d.toNat * 2 ^ 24 + e.toNat * 2 ^ 32 +
      f.toNat * 2 ^ 40 < 2 ^ 48 := by omega
  have upTo56 : a.toNat + b.toNat * 2 ^ 8 + c.toNat * 2 ^ 16 + d.toNat * 2 ^ 24 + e.toNat * 2 ^ 32 +
      f.toNat * 2 ^ 40 + g.toNat * 2 ^ 48 < 2 ^ 56 := by omega
  rw [or_shift_above _ _ 8 first, or_shift_above _ _ 16 upTo16, or_shift_above _ _ 24 upTo24,
    or_shift_above _ _ (8 + 24) upTo32, or_shift_above _ _ (24 + 16) upTo40, or_shift_above _ _ (40 + 8) upTo48,
    or_shift_above _ _ (56 + 0) upTo56]

theorem eight_swapped (eight : bytes.length = 8) :
    (swap8Bytes (UInt64.ofNat (littleNumber bytes))).toNat = bigNumber bytes := by
  have small : littleNumber bytes < 2 ^ 64 := by
    have bound := little_number_bound bytes
    rw [eight] at bound
    exact bound
  have moved (i : Nat) : field (8 * i) 8 (littleNumber bytes) = (bytes.getD i 0).toNat := byte_of_number bytes i
  unfold swap8Bytes
  simp only [UInt64.toNat_or, UInt64.toNat_shiftLeft, UInt64.toNat_shiftRight, UInt64.toNat_and, UInt64.toNat_ofNat',
    Nat.mod_eq_of_lt small]
  generalize littleNumber bytes = n at *
  change n >>> 56 &&& (2 ^ 8 - 1) * 2 ^ 0 ||| n >>> 40 &&& (2 ^ 8 - 1) * 2 ^ 8 ||| n >>> 24 &&& (2 ^ 8 - 1) * 2 ^ 16 |||
    n >>> 8 &&& (2 ^ 8 - 1) * 2 ^ 24 ||| (n <<< 8) % 2 ^ 64 &&& (2 ^ 8 - 1) * 2 ^ (8 + 24) |||
    (n <<< 24) % 2 ^ 64 &&& (2 ^ 8 - 1) * 2 ^ (24 + 16) ||| (n <<< 40) % 2 ^ 64 &&& (2 ^ 8 - 1) * 2 ^ (40 + 8) |||
    (n <<< 56) % 2 ^ 64 &&& (2 ^ 8 - 1) * 2 ^ (56 + 0) = _
  rw [field_down, field_down, field_down, field_down, field_up _ _ _ _ _ (by decide), field_up _ _ _ _ _ (by decide),
    field_up _ _ _ _ _ (by decide), field_up _ _ _ _ _ (by decide)]
  rw [moved 7, moved 6, moved 5, moved 4, moved 3, moved 2, moved 1, moved 0, number_of_eight bytes eight, Nat.pow_zero,
    Nat.mul_one]
  exact eight_bytes_or _ _ _ _ _ _ _ _

theorem int16_swapped (two : bytes.length = 2) :
    (int16SwapOnLe (UInt16.ofNat (littleNumber bytes))).toInt = signedNumber bytes := by
  apply signed_number_word bytes 16 (int16SwapOnLe (UInt16.ofNat (littleNumber bytes))).toBitVec (by rw [two])
  have small : littleNumber bytes < 2 ^ 16 := by
    have bound := little_number_bound bytes
    rw [two] at bound
    exact bound
  have byte (i : Nat) : field (8 * i) 8 (littleNumber bytes) = (bytes.getD i 0).toNat := byte_of_number bytes i
  have number : bigNumber bytes = (bytes.getD 0 0).toNat * 2 ^ 8 + (bytes.getD 1 0).toNat := by
    match bytes, two with
    | [a, b], _ =>
        change (0 * 256 + a.toNat) * 256 + b.toNat = a.toNat * 2 ^ 8 + b.toNat
        omega
  change (((UInt16.ofNat (littleNumber bytes) &&& 0x00ff) <<< 8) |||
    ((UInt16.ofNat (littleNumber bytes) &&& 0xff00) >>> 8)).toNat = _
  simp only [UInt16.toNat_or, UInt16.toNat_shiftLeft, UInt16.toNat_shiftRight, UInt16.toNat_and, UInt16.toNat_ofNat',
    Nat.mod_eq_of_lt small, number]
  generalize littleNumber bytes = n at *
  change (n &&& (2 ^ 8 - 1) * 2 ^ 0) <<< 8 % 2 ^ 16 ||| (n &&& (2 ^ 8 - 1) * 2 ^ 8) >>> 8 = _
  rw [masked_field, masked_field, byte 0, byte 1]
  have first := (bytes.getD 0 0).toNat_lt
  have second := (bytes.getD 1 0).toNat_lt
  have inside : (bytes.getD 0 0).toNat <<< 8 < 2 ^ 16 := by
    rw [Nat.shiftLeft_eq]
    omega
  rw [Nat.pow_zero, Nat.mul_one, Nat.shiftRight_eq_div_pow, Nat.mul_div_cancel _ (by decide), Nat.mod_eq_of_lt inside,
    shift_or_below _ _ _ second]

theorem int32_swapped (four : bytes.length = 4) :
    (int32SwapOnLe (UInt32.ofNat (littleNumber bytes))).toInt = signedNumber bytes := by
  apply signed_number_word bytes 32 (int32SwapOnLe (UInt32.ofNat (littleNumber bytes))).toBitVec (by rw [four])
  have small : littleNumber bytes < 2 ^ 32 := by
    have bound := little_number_bound bytes
    rw [four] at bound
    exact bound
  have byte (i : Nat) : field (8 * i) 8 (littleNumber bytes) = (bytes.getD i 0).toNat := byte_of_number bytes i
  have number : bigNumber bytes = (bytes.getD 0 0).toNat * 2 ^ 24 + (bytes.getD 1 0).toNat * 2 ^ 16 +
      (bytes.getD 2 0).toNat * 2 ^ 8 + (bytes.getD 3 0).toNat := by
    match bytes, four with
    | [a, b, c, d], _ =>
        change (((0 * 256 + a.toNat) * 256 + b.toNat) * 256 + c.toNat) * 256 + d.toNat =
          a.toNat * 2 ^ 24 + b.toNat * 2 ^ 16 + c.toNat * 2 ^ 8 + d.toNat
        omega
  change (((UInt32.ofNat (littleNumber bytes) &&& 0x000000ff) <<< 24) |||
    ((UInt32.ofNat (littleNumber bytes) &&& 0x0000ff00) <<< 8) |||
    ((UInt32.ofNat (littleNumber bytes) &&& 0x00ff0000) >>> 8) |||
    ((UInt32.ofNat (littleNumber bytes) &&& 0xff000000) >>> 24)).toNat = _
  simp only [UInt32.toNat_or, UInt32.toNat_shiftLeft, UInt32.toNat_shiftRight, UInt32.toNat_and, UInt32.toNat_ofNat',
    Nat.mod_eq_of_lt small, number]
  generalize littleNumber bytes = n at *
  change (n &&& (2 ^ 8 - 1) * 2 ^ 0) <<< 24 % 2 ^ 32 ||| (n &&& (2 ^ 8 - 1) * 2 ^ 8) <<< 8 % 2 ^ 32 |||
    (n &&& (2 ^ 8 - 1) * 2 ^ 16) >>> 8 ||| (n &&& (2 ^ 8 - 1) * 2 ^ 24) >>> 24 = _
  rw [masked_field, masked_field, masked_field, masked_field, byte 0, byte 1, byte 2, byte 3]
  generalize bytes.getD 0 0 = a, bytes.getD 1 0 = b, bytes.getD 2 0 = c, bytes.getD 3 0 = d
  have first := a.toNat_lt
  have second := b.toNat_lt
  have third := c.toNat_lt
  have fourth := d.toNat_lt
  have upTo16 : d.toNat + c.toNat * 2 ^ 8 < 2 ^ 16 := by omega
  have upTo24 : d.toNat + c.toNat * 2 ^ 8 + b.toNat * 2 ^ 16 < 2 ^ 24 := by omega
  calc
    (a.toNat * 2 ^ 0) <<< 24 % 2 ^ 32 ||| (b.toNat * 2 ^ 8) <<< 8 % 2 ^ 32 ||| (c.toNat * 2 ^ 16) >>> 8 |||
        (d.toNat * 2 ^ 24) >>> 24 = a.toNat * 2 ^ 24 ||| b.toNat * 2 ^ 16 ||| c.toNat * 2 ^ 8 ||| d.toNat := by
      simp only [Nat.shiftLeft_eq, Nat.shiftRight_eq_div_pow]
      congr 1
      · congr 1
        · congr 1 <;> omega
        · omega
      · omega
    _ = d.toNat ||| c.toNat * 2 ^ 8 ||| b.toNat * 2 ^ 16 ||| a.toNat * 2 ^ 24 := by ac_rfl
    _ = _ := by
      rw [or_shift_above _ _ 8 fourth, or_shift_above _ _ 16 upTo16, or_shift_above _ _ 24 upTo24]
      omega

theorem int64_swapped (eight : bytes.length = 8) :
    (swap8Bytes (UInt64.ofNat (littleNumber bytes))).toInt64.toInt = signedNumber bytes :=
  signed_number_word bytes 64 (swap8Bytes (UInt64.ofNat (littleNumber bytes))).toBitVec (by rw [eight])
    (eight_swapped bytes eight)

end swaps

section mantissa

theorem copied_front (place : Nat) (fill : UInt8) (number : Bytes) (room : place + number.length ≤ 8) :
    (copyTo (copyTo (List.replicate 8 0) place number) 0 (List.replicate place fill)).take (place + number.length) =
      List.replicate place fill ++ number := by
  have front : (List.replicate 8 (0 : UInt8)).take place = List.replicate place 0 := by
    rw [List.take_replicate, Nat.min_eq_left (by omega)]
  have whole : copyTo (copyTo (List.replicate 8 0) place number) 0 (List.replicate place fill) =
      (List.replicate place fill ++ number) ++ (List.replicate 8 0).drop (place + number.length) := by
    rw [copyTo, copyTo, front, List.take_zero, List.nil_append, List.length_replicate, Nat.zero_add, List.append_assoc,
      List.drop_left' List.length_replicate, List.append_assoc]
  rw [whole, List.take_left' (by rw [List.length_append, List.length_replicate])]

theorem copied_zeros (place : Nat) (number : Bytes) (room : place + number.length ≤ 8) :
    (copyTo (List.replicate 8 0) place number).take (place + number.length) = List.replicate place 0 ++ number := by
  have front : (List.replicate 8 (0 : UInt8)).take place = List.replicate place 0 := by
    rw [List.take_replicate, Nat.min_eq_left (by omega)]
  rw [copyTo, front, List.take_left' (by rw [List.length_append, List.length_replicate])]

theorem filled_front (place width : Nat) (byte : UInt8) (rest : Bytes) (room : place + (byte :: rest).length = width)
    (inside : width ≤ 8) :
    ((if byte &&& 0x80 ≠ 0 then
        copyTo (copyTo (List.replicate 8 0) place (byte :: rest)) 0 (List.replicate place 0xff)
      else copyTo (List.replicate 8 0) place (byte :: rest)).take width) =
      List.replicate place (if byte &&& 0x80 ≠ 0 then 0xff else 0) ++ byte :: rest := by
  subst room
  by_cases negative : byte &&& 0x80 ≠ 0
  · rw [if_pos negative, if_pos negative, copied_front place _ _ inside]
  · rw [if_neg negative, if_neg negative, copied_zeros place _ inside]

theorem normalized_mantissa (coding decibyte : UInt8) (bytes : Bytes) (few : bytes.length ≤ 6) :
    normalizedMantissa (coding :: decibyte :: bytes) bytes.length = signedNumber bytes := by
  have plain (width : Nat) (size : bytes.length = width) (inside : width ≤ 8) :
      (copyTo (List.replicate 8 0) 0 bytes).take width = bytes := by
    have same := copied_zeros 0 bytes (by omega)
    rw [Nat.zero_add, size] at same
    exact same
  have filled (place width : Nat) (size : place + bytes.length = width) (some : bytes ≠ []) (inside : width ≤ 8) :
      signedNumber ((if bytes.getD 0 0 &&& 0x80 ≠ 0 then
          copyTo (copyTo (List.replicate 8 0) place bytes) 0 (List.replicate place 0xff)
        else copyTo (List.replicate 8 0) place bytes).take width) = signedNumber bytes ∧
      ((if bytes.getD 0 0 &&& 0x80 ≠ 0 then
          copyTo (copyTo (List.replicate 8 0) place bytes) 0 (List.replicate place 0xff)
        else copyTo (List.replicate 8 0) place bytes).take width).length = width := by
    cases bytes with
    | nil => exact absurd rfl some
    | cons byte rest =>
        rw [List.getD_cons_zero, filled_front place width byte rest size inside, signed_number_extended,
          List.length_append, List.length_replicate, size]
        exact ⟨rfl, rfl⟩
  unfold normalizedMantissa
  simp only [List.drop_succ_cons, List.drop_zero, List.take_length, List.getD_cons_succ]
  match size : bytes.length with
  | 0 =>
      rw [List.eq_nil_of_length_eq_zero size]
      rfl
  | 1 =>
      obtain ⟨byte, same⟩ := List.length_eq_one_iff.mp size
      subst same
      apply signed_number_word [byte] 8 byte.toBitVec rfl
      rw [big_number_cons]
      simp [bigNumber]
  | 2 =>
      have loaded := int16_swapped bytes size
      simp only [loadInt16, plain 2 size (by decide), loaded]
  | 3 =>
      obtain ⟨value, length⟩ := filled 1 4 (by omega) (List.ne_nil_of_length_eq_add_one size) (by decide)
      exact (int32_swapped _ length).trans value
  | 4 =>
      have loaded := int32_swapped bytes size
      simp only [loadInt32, plain 4 size (by decide), loaded]
  | 5 =>
      obtain ⟨value, length⟩ := filled 3 8 (by omega) (List.ne_nil_of_length_eq_add_one size) (by decide)
      exact (int64_swapped _ length).trans value
  | 6 =>
      obtain ⟨value, length⟩ := filled 2 8 (by omega) (List.ne_nil_of_length_eq_add_one size) (by decide)
      exact (int64_swapped _ length).trans value
  | more + 7 => omega

end mantissa

-- The exponent is not in two's complement, its first bit stands for the sign.
def decimalExponent (byte : UInt8) : ℤ := if byte < 128 then byte.toNat else 128 - (byte.toNat : ℤ)

theorem scaled_power (value : ℚ) (byte : UInt8) : scaledByDecibyte value byte = value * 10 ^ decimalExponent byte := by
  have parts : (byte &&& 0x80 ≠ 0 ↔ ¬ byte < 128) ∧
      ((byte &&& 0x7f).toNat : ℤ) = if byte < 128 then (byte.toNat : ℤ) else (byte.toNat : ℤ) - 128 := by
    revert byte
    decide +kernel
  rw [scaledByDecibyte, decimalExponent, ← zpow_natCast, parts.2]
  by_cases positive : byte < 128
  · rw [if_neg (fun negative => parts.1.mp negative positive), if_pos positive, if_pos positive]
  · rw [if_pos (parts.1.mpr positive), if_neg positive, if_neg positive, div_eq_mul_inv, ← zpow_neg, neg_sub]

theorem coded_length (coding : UInt8) (data : Bytes) (few : data.length ≤ 8) :
    ((coding :: data).length.toUInt8).toNat = data.length + 1 := by
  rw [List.length_cons]
  exact Nat.mod_eq_of_lt (by omega)

theorem integer_decoded (coding : UInt8) (data : Bytes) (some : data ≠ []) (few : data.length ≤ 8) :
    (getDataCodingInteger (coding :: data) (coding :: data).length.toUInt8).toInt = signedNumber data := by
  cases data with
  | nil => exact absurd rfl some
  | cons byte rest =>
      have length := coded_length coding (byte :: rest) few
      have enough : ¬ (coding :: byte :: rest).length.toUInt8 < 2 := by
        rw [UInt8.lt_iff_toNat_lt, length]
        change ¬ rest.length + 1 + 1 < 2
        omega
      have sign := signed_number_sign byte rest
      obtain ⟨low, high⟩ := signed_number_bounds (byte :: rest) few
      rw [getDataCodingInteger, if_neg enough, length, Nat.add_sub_cancel, List.getD_cons_succ, List.getD_cons_zero]
      simp only
      rw [decoded_loop]
      -- The sum the loop comes to is the number itself, so nothing is lost in 64 bits.
      by_cases negative : byte &&& 0x80 ≠ 0
      · have start : (-1 : Int64) = Int64.ofInt (-1) := rfl
        have sum :
            (-1 : Int) * 256 ^ (byte :: rest).length + bigNumber (byte :: rest) = signedNumber (byte :: rest) := by
          rw [sign, if_pos negative, List.length_cons]
          ring
        rw [if_pos negative, start, decoded_fold, sum, Int64.toInt_ofInt_of_le low high]
      · have start : (0 : Int64) = Int64.ofInt 0 := rfl
        have sum :
            (0 : Int) * 256 ^ (byte :: rest).length + bigNumber (byte :: rest) = signedNumber (byte :: rest) := by
          rw [sign, if_neg negative]
          ring
        rw [if_neg negative, start, decoded_fold, sum, Int64.toInt_ofInt_of_le low high]

theorem normalized_decoded (coding decibyte : UInt8) (bytes : Bytes) (few : bytes.length ≤ 6) :
    normalizedIntegerValue (coding :: decibyte :: bytes) (coding :: decibyte :: bytes).length.toUInt8 =
      signedNumber bytes * 10 ^ decimalExponent decibyte := by
  have length := coded_length coding (decibyte :: bytes) (by rw [List.length_cons]; omega)
  have inside : ¬ ((coding :: decibyte :: bytes).length.toUInt8 > 8 ∨
      (coding :: decibyte :: bytes).length.toUInt8 < 2) := by
    rw [gt_iff_lt, UInt8.lt_iff_toNat_lt, UInt8.lt_iff_toNat_lt, length, List.length_cons]
    change ¬ (8 < bytes.length + 1 + 1 ∨ bytes.length + 1 + 1 < 2)
    omega
  have count : (decibyte :: bytes).length + 1 - 2 = bytes.length := rfl
  rw [normalizedIntegerValue, if_neg inside, length, count, normalized_mantissa _ _ _ few, scaled_power]
  rfl

theorem normalized_refused (pCode : Bytes) (length : UInt8) (long : 8 < length.toNat) :
    normalizedIntegerValue pCode length = 0 := if_pos (.inl (UInt8.lt_iff_toNat_lt.mpr long))

-- With eight bytes behind the coding byte the normalized number has one too many, and the decoder gives zero.
theorem data_coding_numbers (coding : UInt8) (data : Bytes) (some : data ≠ []) (few : data.length ≤ 8) :
    (getDataCodingInteger (coding :: data) (coding :: data).length.toUInt8).toInt = signedNumber data ∧
      normalizedIntegerValue (coding :: data) (coding :: data).length.toUInt8 =
        if data.length ≤ 7 then signedNumber data.tail * (10 : ℚ) ^ decimalExponent (data.getD 0 0) else 0 := by
  refine ⟨integer_decoded coding data some few, ?_⟩
  by_cases short : data.length ≤ 7
  · cases data with
    | nil => exact absurd rfl some
    | cons decibyte bytes =>
        rw [if_pos short, normalized_decoded coding decibyte bytes (Nat.le_of_succ_le_succ short)]
        rfl
  · rw [if_neg short, normalized_refused _ _ (by rw [coded_length coding data few]; omega)]

-- -500 hundredths.
theorem data_coding_numbers_negative :
    (getDataCodingInteger [0x60, 0x82, 0xfe, 0x0c] 4).toInt = signedNumber [0x82, 0xfe, 0x0c] ∧
      normalizedIntegerValue [0x60, 0x82, 0xfe, 0x0c] 4 =
        if [0x82, 0xfe, 0x0c].length ≤ 7 then signedNumber [0xfe, 0x0c] * (10 : ℚ) ^ decimalExponent 0x82 else 0 :=
  data_coding_numbers 0x60 [0x82, 0xfe, 0x0c] (by decide) (by decide)

theorem seven_byte_mantissa_refused :
    normalizedIntegerValue [0x80, 0, 0, 0, 0, 0, 0, 0, 1] 9 = 0 ∧
      signedNumber [0, 0, 0, 0, 0, 0, 1] * (10 : ℚ) ^ decimalExponent 0 = 1 := by
  have one : signedNumber [0, 0, 0, 0, 0, 0, 1] = 1 := by decide
  have exponent : decimalExponent 0 = 0 := rfl
  rw [one, exponent]
  exact ⟨rfl, by norm_num⟩

theorem mantissa_taken (coding decibyte : UInt8) (rest : Bytes) (count : Nat) :
    normalizedMantissa (coding :: decibyte :: rest) count =
      normalizedMantissa (coding :: decibyte :: rest.take count) count := by
  unfold normalizedMantissa
  simp only [List.drop_succ_cons, List.drop_zero, List.take_take, Nat.min_self, List.getD_cons_succ]
  cases rest with
  | nil => rw [List.take_nil]
  | cons byte rest =>
      match count with
      | 0 => rfl
      | count + 1 => rw [List.take_succ_cons, List.getD_cons_zero, List.getD_cons_zero]

theorem normalized_value_parts (pCode : Bytes) (length : UInt8) (whole : length.toNat ≤ pCode.length) :
    normalizedIntegerValue pCode length =
      scaledByDecibyte (getDataCodingNormalizedInteger pCode length).1
        (getDataCodingNormalizedInteger pCode length).2 := by
  by_cases refused : length > 8 ∨ length < 2
  · have nothing : scaledByDecibyte ((0 : ℤ) : ℚ) 0 = 0 := by norm_num [scaledByDecibyte]
    rw [normalizedIntegerValue, getDataCodingNormalizedInteger, if_pos refused, if_pos refused, nothing]
  · rw [normalizedIntegerValue, getDataCodingNormalizedInteger, if_neg refused, if_neg refused]
    rw [gt_iff_lt, UInt8.lt_iff_toNat_lt, UInt8.lt_iff_toNat_lt] at refused
    have two : (2 : UInt8).toNat = 2 := rfl
    have eight : (8 : UInt8).toNat = 8 := rfl
    match pCode, whole with
    | [], whole =>
        rw [List.length_nil] at whole
        omega
    | [_], whole =>
        rw [List.length_singleton] at whole
        omega
    | coding :: decibyte :: rest, whole =>
        rw [List.length_cons, List.length_cons] at whole
        have size : (rest.take (length.toNat - 2)).length = length.toNat - 2 := by
          rw [List.length_take]
          omega
        have read := normalized_mantissa coding decibyte (rest.take (length.toNat - 2)) (by omega)
        rw [size] at read
        rw [mantissa_taken, read]
        simp only [List.drop_succ_cons, List.drop_zero]
        congr 2
        cases rest.take (length.toNat - 2) with
        | nil => rfl
        | cons byte bytes => exact signed_number_sign byte bytes

theorem normalized_value_parts_minus_five :
    normalizedIntegerValue [0x60, 0x82, 0xfe, 0x0c] 4 =
      scaledByDecibyte (getDataCodingNormalizedInteger [0x60, 0x82, 0xfe, 0x0c] 4).1
        (getDataCodingNormalizedInteger [0x60, 0x82, 0xfe, 0x0c] 4).2 :=
  normalized_value_parts _ 4 (by decide)

end Vscp
