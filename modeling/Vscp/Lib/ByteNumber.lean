import Mathlib

set_option autoImplicit false

-- Numbers written in bytes, least or most significant byte first.
namespace ByteNumber

def littleNumber (bytes : List UInt8) : Nat := bytes.foldr (fun byte rest => byte.toNat + 256 * rest) 0

def bigNumber (bytes : List UInt8) : Nat := bytes.foldl (fun value byte => value * 256 + byte.toNat) 0

def numberBytes (count number : Nat) : List UInt8 :=
  (List.range count).map fun i => UInt8.ofNat (number / 256 ^ i)

def signedNumber (bytes : List UInt8) : Int := (BitVec.ofNat (8 * bytes.length) (bigNumber bytes)).toInt

variable (bytes : List UInt8)

theorem big_number_reverse : bigNumber bytes = littleNumber bytes.reverse := by
  rw [bigNumber, littleNumber, List.foldr_reverse]
  congr 1
  funext value byte
  omega

theorem big_number_append (front back : List UInt8) :
    bigNumber (front ++ back) = bigNumber front * 256 ^ back.length + bigNumber back := by
  induction back using List.reverseRecOn with
  | nil => rw [List.append_nil, List.length_nil, pow_zero, Nat.mul_one]; rfl
  | append_singleton back byte ih =>
      have last (bytes : List UInt8) : bigNumber (bytes ++ [byte]) = bigNumber bytes * 256 + byte.toNat := by
        rw [bigNumber, List.foldl_concat]
        rfl
      rw [← List.append_assoc, last, last, ih, List.length_append, List.length_singleton, Nat.pow_succ]
      ring

theorem little_number_bound : littleNumber bytes < 256 ^ bytes.length := by
  induction bytes with
  | nil => exact Nat.one_pos
  | cons byte rest ih =>
      have bound := byte.toNat_lt
      rw [List.length_cons, Nat.pow_succ]
      change byte.toNat + 256 * littleNumber rest < _
      omega

theorem big_number_bound : bigNumber bytes < 256 ^ bytes.length := by
  rw [big_number_reverse, ← List.length_reverse]
  exact little_number_bound _

variable (byte : UInt8) (rest : List UInt8)

theorem big_number_cons :
    bigNumber (byte :: rest) = byte.toNat * 256 ^ rest.length + bigNumber rest := by
  rw [← List.singleton_append, big_number_append]
  congr 2
  exact Nat.zero_add _

theorem signed_number_word (width : Nat) (word : BitVec width) (size : width = 8 * bytes.length)
    (number : word.toNat = bigNumber bytes) : word.toInt = signedNumber bytes := by
  subst size
  rw [signedNumber, ← number, BitVec.ofNat_toNat, BitVec.setWidth_eq]

theorem signed_number_halves : signedNumber bytes =
    bigNumber bytes - if 256 ^ bytes.length ≤ 2 * bigNumber bytes then (256 : Int) ^ bytes.length else 0 := by
  have size : 2 ^ (8 * bytes.length) = 256 ^ bytes.length := Nat.pow_mul 2 8 bytes.length
  have number : (BitVec.ofNat (8 * bytes.length) (bigNumber bytes)).toNat = bigNumber bytes := by
    rw [BitVec.toNat_ofNat, size, Nat.mod_eq_of_lt (big_number_bound bytes)]
  rw [signedNumber, BitVec.toInt_eq_toNat_cond, number, size]
  push_cast
  split <;> split <;> omega

theorem signed_number_bounds (few : bytes.length ≤ 8) :
    -2 ^ 63 ≤ signedNumber bytes ∧ signedNumber bytes < 2 ^ 63 := by
  have low := BitVec.le_toInt (BitVec.ofNat (8 * bytes.length) (bigNumber bytes))
  have high := BitVec.toInt_lt (x := BitVec.ofNat (8 * bytes.length) (bigNumber bytes))
  have most : (2 : Int) ^ (8 * bytes.length - 1) ≤ 2 ^ 63 := pow_le_pow_right₀ (by decide) (by omega)
  exact ⟨by unfold signedNumber; omega, by unfold signedNumber; omega⟩

theorem signed_number_sign : signedNumber (byte :: rest) =
    bigNumber (byte :: rest) - if byte &&& 0x80 ≠ 0 then (256 : Int) ^ (rest.length + 1) else 0 := by
  have bound := big_number_bound rest
  have positive : 0 < 256 ^ rest.length := Nat.pow_pos (by decide)
  have sign : byte &&& 0x80 ≠ 0 ↔ 128 ≤ byte.toNat := by
    revert byte
    decide +kernel
  have half : 256 ^ (rest.length + 1) ≤ 2 * bigNumber (byte :: rest) ↔ 128 ≤ byte.toNat := by
    rw [big_number_cons, Nat.pow_succ]
    constructor
    · intro large
      by_contra small
      have most : byte.toNat * 256 ^ rest.length ≤ 127 * 256 ^ rest.length := Nat.mul_le_mul_right _ (by omega)
      omega
    · intro large
      have least : 128 * 256 ^ rest.length ≤ byte.toNat * 256 ^ rest.length := Nat.mul_le_mul_right _ large
      omega
  rw [signed_number_halves, List.length_cons]
  simp only [half, sign]

theorem byte_of_number (i : Nat) :
    littleNumber bytes / 2 ^ (8 * i) % 2 ^ 8 = (bytes.getD i 0).toNat := by
  induction bytes generalizing i with
  | nil =>
      change 0 / 2 ^ (8 * i) % 2 ^ 8 = 0
      rw [Nat.zero_div, Nat.zero_mod]
  | cons byte rest ih =>
      have bound := byte.toNat_lt
      have number : littleNumber (byte :: rest) = byte.toNat + 256 * littleNumber rest := rfl
      cases i with
      | zero =>
          rw [number, List.getD_cons_zero]
          omega
      | succ i =>
          have back : (byte.toNat + 256 * littleNumber rest) / 2 ^ 8 = littleNumber rest := by omega
          rw [List.getD_cons_succ, ← ih i, number, Nat.mul_succ, Nat.add_comm (8 * i), Nat.pow_add,
            ← Nat.div_div_eq_div_mul, back]

theorem signed_number_extended (count : Nat) (byte : UInt8) (rest : List UInt8) :
    signedNumber (List.replicate count (if byte &&& 0x80 ≠ 0 then 0xff else 0) ++ byte :: rest) =
      signedNumber (byte :: rest) := by
  have once (first : UInt8) (later : List UInt8) :
      signedNumber ((if first &&& 0x80 ≠ 0 then 0xff else 0) :: first :: later) = signedNumber (first :: later) := by
    have power : (256 : Int) ^ (later.length + 1 + 1) = 256 * 256 ^ (later.length + 1) := by ring
    rw [signed_number_sign, signed_number_sign first, List.length_cons, big_number_cons, List.length_cons, power]
    push_cast
    by_cases negative : first &&& 0x80 ≠ 0
    · have sign : (0xff : UInt8) &&& 0x80 ≠ 0 := by decide
      have value : ((0xff : UInt8).toNat : Int) = 255 := rfl
      rw [if_pos negative, if_pos negative, if_pos sign, value]
      ring
    · have sign : ¬ (0 : UInt8) &&& 0x80 ≠ 0 := by decide
      have value : ((0 : UInt8).toNat : Int) = 0 := rfl
      rw [if_neg negative, if_neg negative, if_neg sign, value]
      ring
  induction count with
  | zero => rfl
  | succ count ih =>
      rw [← ih, List.replicate_succ, List.cons_append]
      cases count with
      | zero => exact once byte rest
      | succ count =>
          have same : (if (if byte &&& 0x80 ≠ 0 then (0xff : UInt8) else 0) &&& 0x80 ≠ 0 then (0xff : UInt8) else 0) =
              if byte &&& 0x80 ≠ 0 then 0xff else 0 := by
            by_cases negative : byte &&& 0x80 ≠ 0
            · rw [if_pos negative]
              rfl
            · rw [if_neg negative]
              rfl
          have again := once (if byte &&& 0x80 ≠ 0 then 0xff else 0)
            (List.replicate count (if byte &&& 0x80 ≠ 0 then 0xff else 0) ++ byte :: rest)
          rw [same] at again
          rw [List.replicate_succ, List.cons_append]
          exact again

theorem little_number_injective (first second : List UInt8) (length : first.length = second.length)
    (same : littleNumber first = littleNumber second) : first = second := by
  induction first generalizing second with
  | nil => exact (List.eq_nil_of_length_eq_zero length.symm).symm
  | cons byte rest ih =>
      cases second with
      | nil => cases length
      | cons other others =>
          change byte.toNat + 256 * littleNumber rest = other.toNat + 256 * littleNumber others at same
          have bound := byte.toNat_lt
          have otherBound := other.toNat_lt
          have front : byte.toNat = other.toNat := by omega
          rw [UInt8.toNat_inj.mp front, ih others (Nat.succ.inj length) (by omega)]

theorem both_ways_iff : bigNumber bytes = littleNumber bytes ↔ bytes.reverse = bytes := by
  rw [big_number_reverse]
  constructor
  · exact little_number_injective _ _ List.length_reverse
  · intro same
    rw [same]

variable (count number : Nat)

@[simp] theorem number_bytes_length : (numberBytes count number).length = count := by
  rw [numberBytes, List.length_map, List.length_range]

theorem number_of_bytes : littleNumber (numberBytes count number) = number % 256 ^ count := by
  induction count generalizing number with
  | zero => rw [Nat.pow_zero, Nat.mod_one]; rfl
  | succ count ih =>
      have next : numberBytes (count + 1) number = UInt8.ofNat number :: numberBytes count (number / 256) := by
        simp only [numberBytes, List.range_succ_eq_map, List.map_cons, List.map_map, pow_zero, Nat.div_one]
        congr 1
        apply List.map_congr_left
        intro i _
        simp only [Function.comp_apply, Nat.pow_succ, Nat.div_div_eq_div_mul, Nat.mul_comm]
      rw [next]
      change (UInt8.ofNat number).toNat + 256 * littleNumber (numberBytes count (number / 256)) = _
      have split : number % 256 ^ (count + 1) = number % 256 + 256 * (number / 256 % 256 ^ count) := by
        rw [Nat.pow_succ, Nat.mul_comm, Nat.mod_mul]
      rw [ih, UInt8.toNat_ofNat', split]

end ByteNumber
