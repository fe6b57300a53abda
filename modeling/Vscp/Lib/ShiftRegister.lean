import Mathlib

set_option autoImplicit false

namespace ShiftRegister

variable {w : Nat}

-- One division step of a register that shifts out at the top, reduced by the
-- generator `poly` whose leading coefficient is implicit.
def bitStep (poly r : BitVec w) : BitVec w :=
  if r.msb then (r <<< 1) ^^^ poly else r <<< 1

theorem xor_pair_cancel (a b p : BitVec w) : (a ^^^ p) ^^^ (b ^^^ p) = a ^^^ b := by
  rw [BitVec.xor_assoc, BitVec.xor_comm b p, ← BitVec.xor_assoc p p b, BitVec.xor_self, BitVec.zero_xor]

theorem bit_step_xor (poly a b : BitVec w) : bitStep poly (a ^^^ b) = bitStep poly a ^^^ bitStep poly b := by
  simp only [bitStep, BitVec.msb_xor, BitVec.shiftLeft_xor_distrib]
  cases a.msb <;> cases b.msb
  · simp
  · simp [BitVec.xor_assoc]
  · simp only [Bool.xor_false, if_true, Bool.false_eq_true, if_false]
    rw [BitVec.xor_assoc, BitVec.xor_comm (b <<< 1) poly, ← BitVec.xor_assoc]
  · simp only [Bool.xor_self, Bool.false_eq_true, if_false, if_true]
    exact (xor_pair_cancel _ _ poly).symm

theorem bit_step_zero (poly : BitVec w) : bitStep poly 0#w = 0#w := by
  simp [bitStep]

theorem bits_xor (poly : BitVec w) (n : Nat) (a b : BitVec w) :
    (bitStep poly)^[n] (a ^^^ b) = (bitStep poly)^[n] a ^^^ (bitStep poly)^[n] b := by
  induction n generalizing a b with
  | zero => rfl
  | succ n ih => rw [Function.iterate_succ_apply, Function.iterate_succ_apply, Function.iterate_succ_apply,
      bit_step_xor, ih]

theorem bits_zero (poly : BitVec w) (n : Nat) : (bitStep poly)^[n] 0#w = 0#w := by
  induction n with
  | zero => rfl
  | succ n ih => rw [Function.iterate_succ_apply, bit_step_zero, ih]

variable (poly r : BitVec w) (b : UInt8)

theorem bits_clear (n : Nat) (clear : ∀ i, i < n → r.getMsbD i = false) :
    (bitStep poly)^[n] r = r <<< n := by
  induction n generalizing r with
  | zero => simp
  | succ n ih =>
      have top : r.msb = false := by rw [BitVec.msb_eq_getMsbD_zero, clear 0 (by omega)]
      have step : bitStep poly r = r <<< 1 := by simp [bitStep, top]
      rw [Function.iterate_succ_apply, step, ih]
      · rw [← BitVec.shiftLeft_add, Nat.add_comm]
      · intro i bound
        rw [BitVec.getMsbD_shiftLeft, clear (i + 1) (by omega)]

theorem bit_step_kernel (odd : poly.getLsbD 0 = true) (zero : bitStep poly r = 0#w) :
    r = 0#w := by
  cases top : r.msb with
  | true =>
      have low := congrArg (fun x => x.getLsbD 0) zero
      simp [bitStep, top, odd] at low
  | false =>
      apply BitVec.eq_of_getMsbD_eq
      intro i bound
      rw [BitVec.msb_eq_getMsbD_zero] at top
      cases i with
      | zero => simpa using top
      | succ i =>
          have next := congrArg (fun x => x.getMsbD i) zero
          simpa [bitStep, BitVec.msb_eq_getMsbD_zero, top] using next

theorem xor_eq_zero (a b : BitVec w) (zero : a ^^^ b = 0#w) : a = b := by
  rw [← BitVec.xor_zero (x := a), ← BitVec.xor_self (x := b), ← BitVec.xor_assoc, zero, BitVec.zero_xor]

theorem bit_step_injective (poly : BitVec w) (odd : poly.getLsbD 0 = true) : Function.Injective (bitStep poly) := by
  intro a b same
  apply xor_eq_zero
  apply bit_step_kernel poly _ odd
  rw [bit_step_xor, same, BitVec.xor_self]

def atTop (b : UInt8) : BitVec w := b.toBitVec.setWidth w <<< (w - 8)

def feedByte (poly r : BitVec w) (b : UInt8) : BitVec w := (bitStep poly)^[8] (r ^^^ atTop b)

def feed (poly r : BitVec w) (bytes : List UInt8) : BitVec w := bytes.foldl (feedByte poly) r

theorem feed_cons (rest : List UInt8) :
    feed poly r (b :: rest) = feed poly (feedByte poly r b) rest := rfl

theorem feed_append (front back : List UInt8) :
    feed poly r (front ++ back) = feed poly (feed poly r front) back := List.foldl_append

theorem at_top_xor (a b : UInt8) : (atTop (a ^^^ b) : BitVec w) = atTop a ^^^ atTop b := by
  simp only [atTop, UInt8.toBitVec_xor, BitVec.setWidth_xor, BitVec.shiftLeft_xor_distrib]

theorem feed_byte_xor (poly r s : BitVec w) (a b : UInt8) :
    feedByte poly (r ^^^ s) (a ^^^ b) = feedByte poly r a ^^^ feedByte poly s b := by
  have words : (r ^^^ s) ^^^ (atTop a ^^^ atTop b) = (r ^^^ atTop a) ^^^ (s ^^^ atTop b) := by
    rw [BitVec.xor_assoc, BitVec.xor_assoc, ← BitVec.xor_assoc s, BitVec.xor_comm s (atTop a), BitVec.xor_assoc]
  rw [feedByte, at_top_xor, words, bits_xor, feedByte, feedByte]

theorem feed_xor (poly r s : BitVec w) (left right : List UInt8) (same : left.length = right.length) :
    feed poly (r ^^^ s) (List.zipWith (· ^^^ ·) left right) = feed poly r left ^^^ feed poly s right := by
  induction left generalizing r s right with
  | nil =>
      obtain rfl := List.length_eq_zero_iff.mp same.symm
      rfl
  | cons a left ih =>
      cases right with
      | nil => cases same
      | cons b right =>
          rw [List.zipWith_cons_cons, feed_cons, feed_byte_xor, ih _ _ right (Nat.succ.inj same), feed_cons, feed_cons]

def topByte (r : BitVec w) : UInt8 := UInt8.ofBitVec ((r >>> (w - 8)).setWidth 8)

theorem at_top_bit (i : Nat) (wide : 8 ≤ w) :
    (atTop b : BitVec w).getMsbD i = b.toBitVec.getMsbD i := by
  rw [atTop, BitVec.getMsbD_shiftLeft, BitVec.getMsbD_setWidth]
  simp [show i + (w - 8) + 8 - w = i by omega]

theorem top_byte_bit (r : BitVec w) (i : Nat) (wide : 8 ≤ w) :
    (topByte r).toBitVec.getMsbD i = (decide (i < 8) && r.getMsbD i) := by
  by_cases inside : i < 8
  · simp [topByte, BitVec.getMsbD_ushiftRight, show i + w - 8 < w by omega, show ¬ i + w - 8 < w - 8 by omega,
      show 8 ≤ i + w by omega, show i + w - 8 - (w - 8) = i by omega, inside]
  · simp [inside, BitVec.getMsbD_of_ge (topByte r).toBitVec i (by omega)]

def tableEntry (poly : BitVec w) (index : UInt8) : BitVec w := (bitStep poly)^[8] (atTop index)

theorem feed_byte_table (wide : 8 ≤ w) :
    feedByte poly r b = tableEntry poly (b ^^^ topByte r) ^^^ (r <<< 8) := by
  have lowBit (i : Nat) : (r ^^^ atTop (topByte r)).getMsbD i = (!decide (i < 8) && r.getMsbD i) := by
    rw [BitVec.getMsbD_xor, at_top_bit _ _ wide, top_byte_bit _ _ wide]
    by_cases top : i < 8 <;> simp [top]
  have split : r ^^^ atTop b = atTop (b ^^^ topByte r) ^^^ (r ^^^ atTop (topByte r)) := by
    simp only [atTop, UInt8.toBitVec_xor, BitVec.setWidth_xor, BitVec.shiftLeft_xor_distrib]
    rw [xor_pair_cancel, BitVec.xor_comm]
  have moved : (r ^^^ atTop (topByte r)) <<< 8 = r <<< 8 := by
    apply BitVec.eq_of_getMsbD_eq
    intro i bound
    simp [BitVec.getMsbD_shiftLeft, lowBit, - BitVec.getMsbD_xor]
  have clear := bits_clear poly (r ^^^ atTop (topByte r)) 8 (fun i top => by rw [lowBit]; simp [top])
  rw [feedByte, split, bits_xor, clear, moved, tableEntry]

def topBit (bit : Bool) : BitVec w := (BitVec.ofBool bit).setWidth w <<< (w - 1)

def feedBit (poly r : BitVec w) (bit : Bool) : BitVec w := bitStep poly (r ^^^ topBit bit)

def feedBits (poly r : BitVec w) (bits : List Bool) : BitVec w := bits.foldl (feedBit poly) r

-- A window of message bits, the first one at the top of the register.
def bitWord : List Bool → BitVec w
  | [] => 0#w
  | bit :: rest => topBit bit ^^^ (bitWord rest >>> 1)

theorem top_bit_bit (bit : Bool) (i : Nat) (bound : i < w) :
    (topBit bit : BitVec w).getMsbD i = (decide (i = 0) && bit) := by
  rw [topBit, BitVec.getMsbD_shiftLeft, BitVec.getMsbD_setWidth, show i + (w - 1) + 1 - w = i by omega]
  by_cases first : i = 0
  · subst first
    cases bit <;> simp
  · simp [first, BitVec.getMsbD_of_ge (BitVec.ofBool bit) i (by omega)]

theorem bit_word_bit (bits : List Bool) (i : Nat) (bound : i < w) :
    (bitWord bits : BitVec w).getMsbD i = bits.getD i false := by
  induction bits generalizing i with
  | nil => simp [bitWord]
  | cons bit rest ih =>
      rw [bitWord, BitVec.getMsbD_xor, top_bit_bit bit i bound, BitVec.getMsbD_ushiftRight]
      cases i with
      | zero => simp
      | succ i => simp [bound, ih i (by omega)]

theorem feed_bits_window (bits : List Bool) (fits : bits.length ≤ w) :
    feedBits poly r bits = (bitStep poly)^[bits.length] (r ^^^ bitWord bits) := by
  induction bits generalizing r with
  | nil => simp [feedBits, bitWord]
  | cons bit rest ih =>
      simp only [List.length_cons] at fits
      have moved : bitStep poly (bitWord rest >>> 1) = bitWord rest := by
        have step := bits_clear poly (bitWord rest >>> 1) 1 (fun i top => by
          simp [BitVec.getMsbD_ushiftRight, show i = 0 by omega])
        rw [Function.iterate_one] at step
        rw [step]
        apply BitVec.eq_of_getMsbD_eq
        intro i bound
        rw [BitVec.getMsbD_shiftLeft, BitVec.getMsbD_ushiftRight, bit_word_bit rest i bound]
        by_cases last : i + 1 < w
        · simp [last, bit_word_bit rest i bound]
        · simp [last, List.getElem?_eq_none (show rest.length ≤ i by omega)]
      rw [feedBits, List.foldl_cons, ← feedBits, ih _ (by omega), feedBit, List.length_cons,
        Function.iterate_succ_apply, bitWord, ← BitVec.xor_assoc, bit_step_xor poly (r ^^^ topBit bit), moved]

theorem bit_word_injective (a b : List Bool) (same : a.length = b.length) (fits : a.length ≤ w)
    (equal : (bitWord a : BitVec w) = bitWord b) : a = b := by
  apply List.ext_getElem same
  intro i left right
  have here : (bitWord a : BitVec w).getMsbD i = (bitWord b : BitVec w).getMsbD i := by rw [equal]
  rw [bit_word_bit a i (by omega), bit_word_bit b i (by omega)] at here
  simpa [left, right] using here

def bitsOf (b : UInt8) : List Bool := (List.range 8).map b.toBitVec.getMsbD

@[simp] theorem bits_of_length : (bitsOf b).length = 8 := by simp [bitsOf]

theorem bits_of_injective (a b : UInt8) (same : bitsOf a = bitsOf b) : a = b := by
  apply UInt8.toBitVec_inj.mp
  apply BitVec.eq_of_getMsbD_eq
  intro i bound
  have here := congrArg (fun l => l[i]?) same
  simpa [bitsOf, bound] using here

theorem message_bits_injective (a b : List UInt8) (same : a.flatMap bitsOf = b.flatMap bitsOf) : a = b := by
  induction a generalizing b with
  | nil =>
      cases b with
      | nil => rfl
      | cons y ys => simp [bitsOf, List.range_succ] at same
  | cons x xs ih =>
      cases b with
      | nil => simp [bitsOf, List.range_succ] at same
      | cons y ys =>
          rw [List.flatMap_cons, List.flatMap_cons] at same
          obtain ⟨heads, tails⟩ := List.append_inj same (by simp)
          rw [bits_of_injective x y heads, ih ys tails]

theorem feed_byte_bits (wide : 8 ≤ w) :
    feedByte poly r b = feedBits poly r (bitsOf b) := by
  have word : (bitWord (bitsOf b) : BitVec w) = atTop b := by
    apply BitVec.eq_of_getMsbD_eq
    intro i bound
    rw [bit_word_bit _ i bound, at_top_bit b i wide]
    by_cases inside : i < 8
    · simp [bitsOf, inside]
    · simp [bitsOf, inside, BitVec.getMsbD_of_ge b.toBitVec i (by omega)]
  rw [feed_bits_window poly r _ (by simpa using wide), word, bits_of_length, feedByte]

theorem feed_bits (bytes : List UInt8) (wide : 8 ≤ w) :
    feed poly r bytes = feedBits poly r (bytes.flatMap bitsOf) := by
  induction bytes generalizing r with
  | nil => rfl
  | cons b rest ih =>
      rw [feed_cons, ih, feed_byte_bits poly r b wide, List.flatMap_cons, feedBits, feedBits, feedBits,
        List.foldl_append]

theorem feed_bits_injective (poly : BitVec w) (odd : poly.getLsbD 0 = true) (bits : List Bool) :
    Function.Injective (fun r => feedBits poly r bits) := by
  induction bits with
  | nil => exact fun a b same => same
  | cons bit rest ih =>
      intro a b same
      have step : feedBit poly a bit = feedBit poly b bit := ih same
      have cancel := congrArg (fun r => r ^^^ topBit bit) (bit_step_injective poly odd step)
      simpa [BitVec.xor_assoc] using cancel

theorem burst_detected (odd : poly.getLsbD 0 = true) (front a b back : List Bool)
    (same : a.length = b.length) (fits : a.length ≤ w) (different : a ≠ b) :
    feedBits poly r (front ++ a ++ back) ≠ feedBits poly r (front ++ b ++ back) := by
  intro equal
  simp only [feedBits, List.foldl_append] at equal
  have window := feed_bits_injective poly odd back equal
  have left := feed_bits_window poly (feedBits poly r front) a fits
  have right := feed_bits_window poly (feedBits poly r front) b (same ▸ fits)
  have start : (bitStep poly)^[a.length] (feedBits poly r front ^^^ bitWord a) =
      (bitStep poly)^[a.length] (feedBits poly r front ^^^ bitWord b) := by
    rw [← left, same, ← right]
    exact window
  have words := congrArg (fun x => feedBits poly r front ^^^ x) ((bit_step_injective poly odd).iterate _ start)
  apply different
  apply bit_word_injective a b same fits
  simpa [← BitVec.xor_assoc] using words

theorem feed_own_bits (bits : List Bool) (fits : bits.length ≤ w) (own : bitWord bits = r) :
    feedBits poly r bits = 0#w := by
  rw [feed_bits_window poly r bits fits, own, BitVec.xor_self, bits_zero]

end ShiftRegister
