import Mathlib

set_option autoImplicit false

namespace ByteMemory

-- Memory behind a pointer: the bytes of a buffer and whatever lies beyond it.
abbrev Memory := Nat → UInt8

def ofBytes (bytes : List UInt8) (beyond : Memory) : Memory := fun i => bytes.getD i (beyond i)

def bytesAt (memory : Memory) (offset count : Nat) : List UInt8 :=
  (List.range count).map fun i => memory (offset + i)

variable (memory : Memory) (bytes : List UInt8) (front back : List UInt8) (beyond : Memory) (offset count : Nat)

@[simp] theorem bytes_at_length :
    (bytesAt memory offset count).length = count := by
  simp [bytesAt]

theorem bytes_at_get (offset count i : Nat) (inside : i < count) :
    (bytesAt memory offset count)[i]? = some (memory (offset + i)) := by
  simp [bytesAt, inside]

theorem bytes_at_append (offset first second : Nat) :
    bytesAt memory offset (first + second) =
      bytesAt memory offset first ++ bytesAt memory (offset + first) second := by
  simp only [bytesAt, List.range_add, List.map_append, List.map_map, Function.comp_def, Nat.add_assoc]

variable (value : UInt16) (i : Nat)

theorem of_bytes_inside (inside : i < bytes.length) :
    ofBytes bytes beyond i = bytes[i] := by
  simp [ofBytes, inside]

theorem of_bytes_front (inside : i < front.length) :
    ofBytes (front ++ back) beyond i = ofBytes front beyond i := by
  simp [ofBytes, List.getElem?_append_left inside]

theorem of_bytes_back :
    ofBytes (front ++ back) beyond (front.length + i) = ofBytes back (fun j => beyond (front.length + j)) i := by
  simp [ofBytes, List.getElem?_append_right]

theorem bytes_at_middle (front middle back : List UInt8) (beyond : Memory) (offset count : Nat)
    (start : offset = front.length) (size : count = middle.length) :
    bytesAt (ofBytes (front ++ (middle ++ back)) beyond) offset count = middle := by
  subst start size
  apply List.ext_getElem
  · simp
  · intro i _ inside
    have here : i < (middle ++ back).length := by simp; omega
    simp only [bytesAt, List.getElem_map, List.getElem_range, of_bytes_back]
    rw [of_bytes_inside _ _ _ here, List.getElem_append_left inside]

theorem bytes_at_prefix (bytes back : List UInt8) (beyond : Memory) (count : Nat) (size : count = bytes.length) :
    bytesAt (ofBytes (bytes ++ back) beyond) 0 count = bytes :=
  bytes_at_middle [] bytes back beyond 0 count rfl size

theorem bytes_at_window (inside : offset + count ≤ bytes.length) :
    bytesAt (ofBytes bytes beyond) offset count = (bytes.drop offset).take count := by
  have split : bytes = bytes.take offset ++ ((bytes.drop offset).take count ++ (bytes.drop offset).drop count) := by
    rw [List.take_append_drop, List.take_append_drop]
  conv => lhs; rw [split]
  apply bytes_at_middle
  · rw [List.length_take]; omega
  · rw [List.length_take, List.length_drop]; omega

def writeBytes (memory : Memory) (offset : Nat) (bytes : List UInt8) : Memory := fun i =>
  if offset ≤ i ∧ i < offset + bytes.length then bytes.getD (i - offset) 0 else memory i

theorem write_bytes_outside (offset : Nat) (bytes : List UInt8) (i : Nat)
    (outside : i < offset ∨ offset + bytes.length ≤ i) : writeBytes memory offset bytes i = memory i := by
  rw [writeBytes, if_neg (by omega)]

theorem write_bytes_read (offset : Nat) (bytes : List UInt8) :
    bytesAt (writeBytes memory offset bytes) offset bytes.length = bytes := by
  apply List.ext_getElem
  · rw [bytes_at_length]
  · intro i _ inside
    simp [bytesAt, writeBytes, inside]

def read16 (memory : Memory) (i : Nat) : UInt16 := (memory i).toUInt16 <<< 8 + (memory (i + 1)).toUInt16

def bytes16 (value : UInt16) : List UInt8 := [(value >>> 8).toUInt8, value.toUInt8]

def read64 (memory : Memory) (i : Nat) : UInt64 :=
  (memory i).toUInt64 <<< 56 + (memory (i + 1)).toUInt64 <<< 48 + (memory (i + 2)).toUInt64 <<< 40 +
    (memory (i + 3)).toUInt64 <<< 32 + (memory (i + 4)).toUInt64 <<< 24 + (memory (i + 5)).toUInt64 <<< 16 +
    (memory (i + 6)).toUInt64 <<< 8 + (memory (i + 7)).toUInt64

def bytes64 (value : UInt64) : List UInt8 :=
  [(value >>> 56).toUInt8, (value >>> 48).toUInt8, (value >>> 40).toUInt8, (value >>> 32).toUInt8,
    (value >>> 24).toUInt8, (value >>> 16).toUInt8, (value >>> 8).toUInt8, value.toUInt8]

theorem joined16 :
    (value >>> 8).toUInt8.toUInt16 <<< 8 + value.toUInt8.toUInt16 = value := by
  apply UInt16.toNat_inj.mp
  have bound := value.toNat_lt
  simp only [UInt16.toNat_add, UInt16.toNat_shiftLeft, UInt8.toNat_toUInt16, UInt16.toNat_toUInt8,
    UInt16.toNat_shiftRight, Nat.shiftLeft_eq, Nat.shiftRight_eq_div_pow, show UInt16.toNat 8 = 8 from rfl,
    Nat.reduceMod, Nat.reducePow]
  omega

theorem split64 (value : Nat) (bound : value < 2 ^ 64) :
    value / 2 ^ 56 % 2 ^ 8 * 2 ^ 56 + value / 2 ^ 48 % 2 ^ 8 * 2 ^ 48 + value / 2 ^ 40 % 2 ^ 8 * 2 ^ 40 +
      value / 2 ^ 32 % 2 ^ 8 * 2 ^ 32 + value / 2 ^ 24 % 2 ^ 8 * 2 ^ 24 + value / 2 ^ 16 % 2 ^ 8 * 2 ^ 16 +
      value / 2 ^ 8 % 2 ^ 8 * 2 ^ 8 + value % 2 ^ 8 = value := by
  omega

theorem joined64 (value : UInt64) :
    (value >>> 56).toUInt8.toUInt64 <<< 56 + (value >>> 48).toUInt8.toUInt64 <<< 48 +
      (value >>> 40).toUInt8.toUInt64 <<< 40 + (value >>> 32).toUInt8.toUInt64 <<< 32 +
      (value >>> 24).toUInt8.toUInt64 <<< 24 + (value >>> 16).toUInt8.toUInt64 <<< 16 +
      (value >>> 8).toUInt8.toUInt64 <<< 8 + value.toUInt8.toUInt64 = value := by
  apply UInt64.toNat_inj.mp
  simp only [UInt64.toNat_add, UInt64.toNat_shiftLeft, UInt8.toNat_toUInt64, UInt64.toNat_toUInt8,
    UInt64.toNat_shiftRight, Nat.shiftLeft_eq, Nat.shiftRight_eq_div_pow, Nat.mod_add_mod, Nat.add_mod_mod]
  exact (congrArg (· % 2 ^ 64) (split64 value.toNat value.toNat_lt)).trans (Nat.mod_eq_of_lt value.toNat_lt)

theorem read16_back (start : i = front.length) : read16 (ofBytes (front ++ (bytes16 value ++ back)) beyond) i = value := by
  subst start
  have first := of_bytes_back front (bytes16 value ++ back) beyond 0
  have second := of_bytes_back front (bytes16 value ++ back) beyond 1
  simp only [Nat.add_zero] at first
  rw [read16, first, second]
  exact joined16 value

end ByteMemory
