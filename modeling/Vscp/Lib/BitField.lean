import Mathlib

set_option autoImplicit false

namespace BitField

-- The bits `offset` to `offset + width` of a word, as a number of their own.
def field (offset width word : Nat) : Nat := word / 2 ^ offset % 2 ^ width

theorem field_lt (offset width word : Nat) : field offset width word < 2 ^ width :=
  Nat.mod_lt _ (Nat.two_pow_pos width)

theorem field_mod (offset width bits word : Nat) (inside : offset + width ≤ bits) :
    field offset width (word % 2 ^ bits) = field offset width word := by
  have split : 2 ^ bits = 2 ^ offset * 2 ^ (bits - offset) := by
    rw [← Nat.pow_add, Nat.add_sub_cancel' (by omega)]
  have divides : 2 ^ width ∣ 2 ^ (bits - offset) := Nat.pow_dvd_pow 2 (by omega)
  rw [field, split, Nat.mod_mul_right_div_self, Nat.mod_mod_of_dvd _ divides, field]

theorem shift_mask_field (offset width word : Nat) : (word >>> offset) &&& (2 ^ width - 1) = field offset width word := by
  rw [Nat.and_two_pow_sub_one_eq_mod, Nat.shiftRight_eq_div_pow, field]

theorem shift_or_below (high low width : Nat) (fits : low < 2 ^ width) :
    high <<< width ||| low = high * 2 ^ width + low := by
  rw [← Nat.shiftLeft_add_eq_or_of_lt fits, Nat.shiftLeft_eq]

theorem field_bit (offset width word bit : Nat) :
    (field offset width word).testBit bit = (decide (bit < width) && word.testBit (offset + bit)) := by
  rw [field, Nat.testBit_mod_two_pow, Nat.testBit_div_two_pow, Nat.add_comm]

theorem masked_field (offset width word : Nat) :
    word &&& (2 ^ width - 1) * 2 ^ offset = field offset width word * 2 ^ offset := by
  apply Nat.eq_of_testBit_eq
  intro bit
  simp only [Nat.testBit_and, Nat.testBit_mul_two_pow, Nat.testBit_two_pow_sub_one, field_bit]
  by_cases above : offset ≤ bit
  · have place : offset + (bit - offset) = bit := by omega
    simp only [above, decide_true, Bool.true_and, place]
    exact Bool.and_comm _ _
  · simp only [above, decide_false, Bool.false_and, Bool.and_false]

theorem field_down (offset width shift word : Nat) :
    (word >>> shift) &&& (2 ^ width - 1) * 2 ^ offset = field (shift + offset) width word * 2 ^ offset := by
  rw [masked_field, field, field, Nat.shiftRight_eq_div_pow, Nat.div_div_eq_div_mul, Nat.pow_add]

theorem field_up (offset width shift bits word : Nat) (inside : shift + offset + width ≤ bits) :
    (word <<< shift) % 2 ^ bits &&& (2 ^ width - 1) * 2 ^ (shift + offset) =
      field offset width word * 2 ^ (shift + offset) := by
  rw [masked_field, field_mod _ _ _ _ inside, field, field, Nat.shiftLeft_eq, Nat.pow_add, Nat.mul_comm word,
    Nat.mul_div_mul_left _ _ (Nat.two_pow_pos shift)]

theorem or_shift_above (low high width : Nat) (fits : low < 2 ^ width) :
    low ||| high * 2 ^ width = low + high * 2 ^ width := by
  rw [← Nat.shiftLeft_eq, Nat.or_comm, shift_or_below high low width fits, Nat.shiftLeft_eq, Nat.add_comm]

theorem bit_field (offset word : Nat) : word &&& 2 ^ offset = field offset 1 word * 2 ^ offset := by
  rw [Nat.and_two_pow, Nat.testBit_eq_decide_div_mod_eq, field, Nat.pow_one]
  by_cases set : word / 2 ^ offset % 2 = 1
  · simp [set]
  · have clear : word / 2 ^ offset % 2 = 0 := by omega
    simp [clear]

theorem bit_set_iff (offset word : Nat) : word &&& 2 ^ offset ≠ 0 ↔ field offset 1 word = 1 := by
  rw [bit_field]
  have below : field offset 1 word < 2 := field_lt offset 1 word
  have positive := Nat.two_pow_pos offset
  by_cases clear : field offset 1 word = 0
  · simp [clear]
  · have set : field offset 1 word = 1 := by omega
    simp [set]

theorem or_set_bit (offset word : Nat) (set : field offset 1 word = 1) : word ||| 2 ^ offset = word := by
  apply Nat.eq_of_testBit_eq
  intro i
  rw [Nat.testBit_or, Nat.testBit_two_pow]
  by_cases same : offset = i
  · have bit : word.testBit i = true := by
      rw [← same, Nat.testBit_eq_decide_div_mod_eq]
      simpa [field] using set
    rw [bit, Bool.true_or]
  · simp [same]

theorem masked_equal_iff {width : Nat} (wanted found mask : BitVec width) :
    ~~~(wanted ^^^ found) ||| ~~~mask = BitVec.allOnes width ↔
      ∀ bit, mask.getLsbD bit = true → wanted.getLsbD bit = found.getLsbD bit := by
  constructor
  · intro full bit counts
    have inside : bit < width := BitVec.lt_of_getLsbD counts
    have one := congrArg (fun word : BitVec width => word.getLsbD bit) full
    simp only [BitVec.getLsbD_or, BitVec.getLsbD_not, BitVec.getLsbD_xor, BitVec.getLsbD_allOnes, inside, counts,
      decide_true, Bool.true_and, Bool.not_true, Bool.or_false, Bool.not_eq_true', bne_eq_false_iff_eq] at one
    exact one
  · intro agree
    apply BitVec.eq_of_getLsbD_eq
    intro bit inside
    simp only [BitVec.getLsbD_or, BitVec.getLsbD_not, BitVec.getLsbD_xor, BitVec.getLsbD_allOnes, inside, decide_true,
      Bool.true_and]
    cases counts : mask.getLsbD bit with
    | false => simp
    | true => simp [agree bit counts]

end BitField
