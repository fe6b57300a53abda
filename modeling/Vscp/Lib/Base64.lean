import Mathlib

set_option autoImplicit false

-- Three bytes as four digits of six bits each, written in any alphabet.
namespace Base64

def first (a : UInt8) : UInt8 := a >>> 2
def second (a b : UInt8) : UInt8 := (a &&& 3) <<< 4 ||| b >>> 4
def third (b c : UInt8) : UInt8 := (b &&& 15) <<< 2 ||| c >>> 6
def fourth (c : UInt8) : UInt8 := c &&& 63

section values

variable (a b c : UInt8)

theorem first_value : (first a).toNat = a.toNat / 4 := by
  rw [first, UInt8.toNat_shiftRight, Nat.shiftRight_eq_div_pow]
  rfl

theorem joined_value (mask shift down : Nat) (high low : Nat) (room : (high &&& (2 ^ mask - 1)) <<< shift < 2 ^ 8)
    (fits : low >>> down < 2 ^ shift) :
    (high &&& (2 ^ mask - 1)) <<< shift % 2 ^ 8 ||| low >>> down = high % 2 ^ mask * 2 ^ shift + low / 2 ^ down := by
  rw [Nat.mod_eq_of_lt room, ← Nat.shiftLeft_add_eq_or_of_lt fits, Nat.and_two_pow_sub_one_eq_mod, Nat.shiftLeft_eq,
    Nat.shiftRight_eq_div_pow]

theorem second_value : (second a b).toNat = a.toNat % 4 * 16 + b.toNat / 16 := by
  have below := b.toNat_lt
  have low : b.toNat >>> 4 < 2 ^ 4 := by
    rw [Nat.shiftRight_eq_div_pow]
    omega
  have high : (a.toNat &&& (2 ^ 2 - 1)) <<< 4 < 2 ^ 8 := by
    rw [Nat.and_two_pow_sub_one_eq_mod, Nat.shiftLeft_eq]
    omega
  rw [second, UInt8.toNat_or, UInt8.toNat_shiftLeft, UInt8.toNat_and, UInt8.toNat_shiftRight]
  exact joined_value 2 4 4 a.toNat b.toNat high low

theorem third_value : (third b c).toNat = b.toNat % 16 * 4 + c.toNat / 64 := by
  have below := c.toNat_lt
  have low : c.toNat >>> 6 < 2 ^ 2 := by
    rw [Nat.shiftRight_eq_div_pow]
    omega
  have high : (b.toNat &&& (2 ^ 4 - 1)) <<< 2 < 2 ^ 8 := by
    rw [Nat.and_two_pow_sub_one_eq_mod, Nat.shiftLeft_eq]
    omega
  rw [third, UInt8.toNat_or, UInt8.toNat_shiftLeft, UInt8.toNat_and, UInt8.toNat_shiftRight]
  exact joined_value 4 2 6 b.toNat c.toNat high low

theorem fourth_value : (fourth c).toNat = c.toNat % 64 := by
  rw [fourth, UInt8.toNat_and]
  exact Nat.and_two_pow_sub_one_eq_mod _ 6

theorem digits_small : (first a).toNat < 64 ∧ (second a b).toNat < 64 ∧ (third b c).toNat < 64 ∧ (fourth c).toNat < 64 := by
  have aBelow := a.toNat_lt
  have bBelow := b.toNat_lt
  have cBelow := c.toNat_lt
  rw [first_value, second_value, third_value, fourth_value]
  omega

theorem first_byte : (first a <<< 2) + (second a b >>> 4) = a := by
  have aBelow := a.toNat_lt
  have bBelow := b.toNat_lt
  apply UInt8.toNat_inj.mp
  rw [UInt8.toNat_add, UInt8.toNat_shiftLeft, UInt8.toNat_shiftRight, first_value, second_value, Nat.shiftLeft_eq,
    Nat.shiftRight_eq_div_pow, show UInt8.toNat 2 % 8 = 2 from rfl, show UInt8.toNat 4 % 8 = 4 from rfl]
  omega

theorem second_byte : (second a b <<< 4) + (third b c >>> 2) = b := by
  have bBelow := b.toNat_lt
  have cBelow := c.toNat_lt
  apply UInt8.toNat_inj.mp
  rw [UInt8.toNat_add, UInt8.toNat_shiftLeft, UInt8.toNat_shiftRight, second_value, third_value, Nat.shiftLeft_eq,
    Nat.shiftRight_eq_div_pow, show UInt8.toNat 2 % 8 = 2 from rfl, show UInt8.toNat 4 % 8 = 4 from rfl]
  omega

theorem third_byte : (third b c <<< 6) + fourth c = c := by
  have cBelow := c.toNat_lt
  apply UInt8.toNat_inj.mp
  rw [UInt8.toNat_add, UInt8.toNat_shiftLeft, third_value, fourth_value, Nat.shiftLeft_eq,
    show UInt8.toNat 6 % 8 = 6 from rfl]
  omega

end values

-- A last group of one or two bytes is filled up with zeros and padded.
def encode (letter : UInt8 → UInt8) (pad : UInt8) : List UInt8 → List UInt8
  | [] => []
  | [a] => [letter (first a), letter (second a 0), pad, pad]
  | [a, b] => [letter (first a), letter (second a b), letter (third b 0), pad]
  | a :: b :: c :: rest =>
      letter (first a) :: letter (second a b) :: letter (third b c) :: letter (fourth c) :: encode letter pad rest

theorem encode_length (letter : UInt8 → UInt8) (pad : UInt8) (bytes : List UInt8) :
    (encode letter pad bytes).length = 4 * ((bytes.length + 2) / 3) := by
  induction bytes using encode.induct with
  | case1 => rfl
  | case2 a => simp [encode]
  | case3 a b => simp [encode]
  | case4 a b c rest ih =>
      simp only [encode, List.length_cons, ih]
      omega

theorem encode_letters (letter : UInt8 → UInt8) (pad : UInt8) (good : UInt8 → Prop)
    (digit : ∀ value : UInt8, value.toNat < 64 → good (letter value)) (padding : good pad) (bytes : List UInt8) :
    ∀ own ∈ encode letter pad bytes, good own := by
  induction bytes using encode.induct with
  | case1 => exact fun own inside => absurd inside List.not_mem_nil
  | case2 a =>
      obtain ⟨one, two, -⟩ := digits_small a 0 0
      simp only [encode, List.forall_mem_cons]
      exact ⟨digit _ one, digit _ two, padding, padding, fun own inside => absurd inside List.not_mem_nil⟩
  | case3 a b =>
      obtain ⟨one, two, three, -⟩ := digits_small a b 0
      simp only [encode, List.forall_mem_cons]
      exact ⟨digit _ one, digit _ two, digit _ three, padding, fun own inside => absurd inside List.not_mem_nil⟩
  | case4 a b c rest ih =>
      obtain ⟨one, two, three, four⟩ := digits_small a b c
      simp only [encode, List.forall_mem_cons]
      exact ⟨digit _ one, digit _ two, digit _ three, digit _ four, ih⟩

end Base64
