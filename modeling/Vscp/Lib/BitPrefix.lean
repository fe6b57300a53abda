import Mathlib

set_option autoImplicit false

-- The first bits of a word, the most significant one in front.
namespace BitPrefix

variable {width : Nat}

def SameBits (bits : Nat) (x y : BitVec width) : Prop := ∀ k < bits, x.getMsbD k = y.getMsbD k

def NoneBehind (bits : Nat) (x : BitVec width) : Prop := ∀ k, bits ≤ k → x.getMsbD k = false

def mask (width bits : Nat) : BitVec width := BitVec.allOnes width <<< (width - bits)

theorem mask_bit (bits k : Nat) (fits : bits ≤ width) : (mask width bits).getMsbD k = decide (k < bits) := by
  rw [mask, BitVec.getMsbD_shiftLeft, BitVec.getMsbD_allOnes]
  apply decide_eq_decide.mpr
  omega

theorem masked_iff (bits : Nat) (fits : bits ≤ width) (x y : BitVec width) :
    x &&& mask width bits = y ↔ SameBits bits x y ∧ NoneBehind bits y := by
  constructor
  · rintro rfl
    constructor
    · intro k inside
      rw [BitVec.getMsbD_and, mask_bit bits k fits, decide_eq_true inside, Bool.and_true]
    · intro k behind
      rw [BitVec.getMsbD_and, mask_bit bits k fits, decide_eq_false (by omega), Bool.and_false]
  · rintro ⟨same, none⟩
    apply BitVec.eq_of_getMsbD_eq
    intro k _
    rw [BitVec.getMsbD_and, mask_bit bits k fits]
    by_cases inside : k < bits
    · rw [decide_eq_true inside, Bool.and_true, same k inside]
    · rw [decide_eq_false inside, Bool.and_false, none k (by omega)]

end BitPrefix
