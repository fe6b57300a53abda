import Mathlib

set_option autoImplicit false

-- Numbers as the C library writes and reads them.
namespace NumberText

def digitValue (letter : Char) : Option Nat :=
  if letter.isDigit then some (letter.toNat - 48)
  else if 'a' ≤ letter ∧ letter ≤ 'z' then some (letter.toNat - 87)
  else if 'A' ≤ letter ∧ letter ≤ 'Z' then some (letter.toNat - 55)
  else none

def isDigitOf (base : Nat) (letter : Char) : Bool := (digitValue letter).any (· < base)

def digitsValue (base : Nat) (digits : List Char) : Nat :=
  digits.foldl (fun total letter => total * base + (digitValue letter).getD 0) 0

def lowerDigit (digit : Nat) : Char := Char.ofNat (if digit < 10 then digit + 48 else digit + 87)
def upperDigit (digit : Nat) : Char := Char.ofNat (if digit < 10 then digit + 48 else digit + 55)

def writeDigits (letter : Nat → Char) (base value : Nat) : List Char :=
  if value = 0 then [letter 0] else (Nat.digits base value).reverse.map letter

-- A conversion with a width and the flag 0.
def zeroPadded (width : Nat) (digits : List Char) : List Char :=
  List.replicate (width - digits.length) '0' ++ digits

def decimal (value : Nat) : List Char := writeDigits lowerDigit 10 value
def lowerHex (width value : Nat) : List Char := zeroPadded width (writeDigits lowerDigit 16 value)
def upperHex (width value : Nat) : List Char := zeroPadded width (writeDigits upperDigit 16 value)

def hasHexPrefix (text : List Char) : Bool :=
  text[0]? = some '0' ∧ (text[1]? = some 'x' ∨ text[1]? = some 'X') ∧ (text[2]?).any (isDigitOf 16)

def resolveBase (base : Nat) (text : List Char) : Nat × List Char :=
  if (base = 16 ∨ base = 0) ∧ hasHexPrefix text then (16, text.drop 2)
  else if base ≠ 0 then (base, text)
  else if text[0]? = some '0' then (8, text)
  else (10, text)

def takeSign (text : List Char) : Bool × List Char :=
  if text[0]? = some '-' then (true, text.drop 1)
  else if text[0]? = some '+' then (false, text.drop 1)
  else (false, text)

section

-- isspace of the locale.
variable (isSpace : Char → Bool)

-- The number strtol and its family see before they look at their range, with the text behind it.
def readInteger (base : Nat) (text : List Char) : Option (Int × List Char) :=
  let signed := takeSign (text.dropWhile isSpace)
  let body := resolveBase base signed.2
  let digits := body.2.takeWhile (isDigitOf body.1)
  if digits = [] then none
  else
    let magnitude : Int := digitsValue body.1 digits
    some (if signed.1 then -magnitude else magnitude, body.2.dropWhile (isDigitOf body.1))

-- std::stoi and std::stoll with the bits of their type; none is what they throw.
def stoInteger (bits base : Nat) (text : List Char) : Option (Int × List Char) :=
  (readInteger isSpace base text).filter fun number => -2 ^ (bits - 1) ≤ number.1 ∧ number.1 < 2 ^ (bits - 1)

def strtoull (base : Nat) (text : List Char) : UInt64 :=
  match readInteger isSpace base text with
  | none => 0
  | some (number, _) => if number.natAbs < 2 ^ 64 then UInt64.ofInt number else 0xffffffffffffffff

end

variable (value : Nat) (base : Nat) (digits : List Char) (letter : Char)

theorem word8_of_cast : UInt8.ofInt (value : Int) = UInt8.ofNat value := by
  apply UInt8.toNat_inj.mp
  simp [UInt8.ofInt]
  omega

theorem word16_of_cast : UInt16.ofInt (value : Int) = UInt16.ofNat value := by
  apply UInt16.toNat_inj.mp
  simp [UInt16.ofInt]
  omega

theorem word32_of_cast : UInt32.ofInt (value : Int) = UInt32.ofNat value := by
  apply UInt32.toNat_inj.mp
  simp [UInt32.ofInt]
  omega

theorem word64_of_cast : UInt64.ofInt (value : Int) = UInt64.ofNat value := by
  apply UInt64.toNat_inj.mp
  simp [UInt64.ofInt]
  omega

theorem digits_value_append :
    digitsValue base (digits ++ [letter]) = digitsValue base digits * base + (digitValue letter).getD 0 := by
  rw [digitsValue, List.foldl_append, List.foldl_cons, List.foldl_nil, digitsValue]

theorem digits_value_zeros (base count : Nat) (digits : List Char) :
    digitsValue base (List.replicate count '0' ++ digits) = digitsValue base digits := by
  induction count with
  | zero => rfl
  | succ count ih =>
      rw [List.replicate_succ, List.cons_append, digitsValue, List.foldl_cons]
      have zero : (0 * base + (digitValue '0').getD 0 : Nat) = 0 := by
        rw [Nat.zero_mul]
        rfl
      rw [zero]
      exact ih

theorem digits_value_reverse (letter : Nat → Char) (base : Nat) (digits : List Nat)
    (reads : ∀ digit ∈ digits, digitValue (letter digit) = some digit) :
    digitsValue base (digits.reverse.map letter) = Nat.ofDigits base digits := by
  induction digits with
  | nil => rfl
  | cons digit digits ih =>
      have rest := ih fun other member => reads other (List.mem_cons_of_mem digit member)
      rw [List.reverse_cons, List.map_append, List.map_cons, List.map_nil, digits_value_append, rest,
        reads digit List.mem_cons_self, Option.getD_some, Nat.ofDigits_cons]
      ring

theorem written_value (letter : Nat → Char) (base value : Nat) (wide : 1 < base)
    (reads : ∀ digit < base, digitValue (letter digit) = some digit) :
    digitsValue base (writeDigits letter base value) = value := by
  unfold writeDigits
  by_cases zero : value = 0
  · rw [if_pos zero, zero, digitsValue, List.foldl_cons, List.foldl_nil, reads 0 (by omega)]
    rw [Nat.zero_mul, Option.getD_some]
  · have below : ∀ digit ∈ Nat.digits base value, digitValue (letter digit) = some digit :=
      fun digit member => reads digit (Nat.digits_lt_base wide member)
    rw [if_neg zero, digits_value_reverse letter base _ below, Nat.ofDigits_digits]

theorem written_digits (letter : Nat → Char) (base value : Nat) (wide : 1 < base) :
    ∀ written ∈ writeDigits letter base value, ∃ digit, digit < base ∧ written = letter digit := by
  intro written member
  unfold writeDigits at member
  by_cases zero : value = 0
  · rw [if_pos zero, List.mem_singleton] at member
    exact ⟨0, by omega, member⟩
  · rw [if_neg zero, List.mem_map] at member
    obtain ⟨digit, inside, same⟩ := member
    exact ⟨digit, Nat.digits_lt_base wide (List.mem_reverse.mp inside), same.symm⟩

theorem written_nonempty (letter : Nat → Char) (base value : Nat) : writeDigits letter base value ≠ [] := by
  unfold writeDigits
  by_cases zero : value = 0
  · rw [if_pos zero]
    exact List.cons_ne_nil _ _
  · rw [if_neg zero]
    intro empty
    have none := List.reverse_eq_nil_iff.mp (List.map_eq_nil_iff.mp empty)
    exact zero (Nat.digits_eq_nil_iff_eq_zero.mp none)

theorem lower_digit_reads (digit : Nat) (small : digit < 16) : digitValue (lowerDigit digit) = some digit := by
  revert digit
  decide

theorem upper_digit_reads (digit : Nat) (small : digit < 16) : digitValue (upperDigit digit) = some digit := by
  revert digit
  decide

theorem digit_range (digit : (digitValue letter).isSome) :
    (48 ≤ letter.toNat ∧ letter.toNat ≤ 57) ∨ (65 ≤ letter.toNat ∧ letter.toNat ≤ 90) ∨
      (97 ≤ letter.toNat ∧ letter.toNat ≤ 122) := by
  unfold digitValue at digit
  split at digit
  · rename_i decimalDigit
    exact .inl (Char.isDigit_iff_toNat.mp decimalDigit)
  · split at digit
    · rename_i lower
      exact .inr (.inr ⟨Char.le_def.mp lower.1, Char.le_def.mp lower.2⟩)
    · split at digit
      · rename_i upper
        exact .inr (.inl ⟨Char.le_def.mp upper.1, Char.le_def.mp upper.2⟩)
      · cases digit

theorem digit_not_mark (letter mark : Char) (digit : (digitValue letter).isSome) (other : digitValue mark = none) :
    letter ≠ mark := by
  rintro rfl
  rw [other] at digit
  cases digit

theorem digit_graphic (digit : (digitValue letter).isSome) : ' ' ≤ letter ∧ letter ≤ '~' := by
  have range := digit_range letter digit
  have low : (' ' : Char).toNat ≤ letter.toNat := Nat.le_trans (by decide : (' ' : Char).toNat ≤ 48) (by omega)
  have high : letter.toNat ≤ ('~' : Char).toNat := Nat.le_trans (by omega) (by decide : 122 ≤ ('~' : Char).toNat)
  exact ⟨Char.le_def.mpr low, Char.le_def.mpr high⟩

theorem digit_of_base (digit : isDigitOf base letter = true) :
    ∃ value, digitValue letter = some value ∧ value < base := by
  obtain ⟨value, read, below⟩ := (Option.any_eq_true _ _).mp digit
  exact ⟨value, read, of_decide_eq_true below⟩

theorem first_letter_not (all : ∀ letter ∈ digits, isDigitOf base letter = true)
    (i : Nat) (other : Char) (foreign : isDigitOf base other = false) : digits[i]? ≠ some other := by
  intro here
  have member := List.mem_of_getElem? here
  rw [all other member] at foreign
  exact Bool.noConfusion foreign

theorem no_sign (all : ∀ letter ∈ digits, isDigitOf base letter = true) :
    takeSign digits = (false, digits) := by
  have minus := first_letter_not base digits all 0 '-' rfl
  have plus := first_letter_not base digits all 0 '+' rfl
  rw [takeSign, if_neg minus, if_neg plus]

theorem no_hex_prefix (narrow : base ≤ 16)
    (all : ∀ letter ∈ digits, isDigitOf base letter = true) : hasHexPrefix digits = false := by
  have lower := first_letter_not base digits all 1 'x' (decide_eq_false (by omega : ¬ 33 < base))
  have upper := first_letter_not base digits all 1 'X' (decide_eq_false (by omega : ¬ 33 < base))
  simp [hasHexPrefix, lower, upper]

theorem take_all_digits (all : ∀ letter ∈ digits, isDigitOf base letter = true) :
    digits.takeWhile (isDigitOf base) = digits ∧ digits.dropWhile (isDigitOf base) = [] :=
  ⟨List.takeWhile_eq_self_iff.mpr all, List.dropWhile_eq_nil_iff.mpr all⟩

section

variable (isSpace : Char → Bool) (graphic : ∀ letter, (digitValue letter).isSome → isSpace letter = false)
include graphic

theorem no_leading_space (base : Nat) (digits : List Char) (all : ∀ letter ∈ digits, isDigitOf base letter = true) :
    digits.dropWhile isSpace = digits := by
  cases digits with
  | nil => rfl
  | cons letter digits =>
      obtain ⟨value, read, _⟩ := digit_of_base base letter (all letter List.mem_cons_self)
      have shown := graphic letter (by rw [read]; rfl)
      rw [List.dropWhile_cons, shown, if_neg Bool.false_ne_true]

theorem read_resolved (asked base : Nat) (digits : List Char) (nonempty : digits ≠ [])
    (all : ∀ letter ∈ digits, isDigitOf base letter = true) (resolved : resolveBase asked digits = (base, digits)) :
    readInteger isSpace asked digits = some ((digitsValue base digits : Int), []) := by
  obtain ⟨taken, dropped⟩ := take_all_digits base digits all
  simp only [readInteger, no_leading_space isSpace graphic base digits all, no_sign base digits all, resolved, taken,
    dropped, if_neg nonempty, Bool.false_eq_true, if_false]

theorem read_in_base (base : Nat) (digits : List Char) (positive : base ≠ 0) (narrow : base ≤ 16) (nonempty : digits ≠ [])
    (all : ∀ letter ∈ digits, isDigitOf base letter = true) :
    readInteger isSpace base digits = some ((digitsValue base digits : Int), []) := by
  have resolved : resolveBase base digits = (base, digits) := by
    rw [resolveBase, no_hex_prefix base digits narrow all, if_neg (by simp), if_pos positive]
  exact read_resolved isSpace graphic base base digits nonempty all resolved

theorem read_decimal_before (digits rest : List Char) (mark : Char) (nonempty : digits ≠ [])
    (all : ∀ letter ∈ digits, isDigitOf 10 letter = true) (stop : isDigitOf 10 mark = false) :
    readInteger isSpace 10 (digits ++ mark :: rest) = some ((digitsValue 10 digits : Int), mark :: rest) := by
  obtain ⟨first, others, rfl⟩ := List.exists_cons_of_ne_nil nonempty
  have own := all first List.mem_cons_self
  obtain ⟨value, read, _⟩ := digit_of_base 10 first own
  have shown : isSpace first = false := graphic first (by rw [read]; rfl)
  have minus : first ≠ '-' := by
    rintro rfl
    exact Bool.noConfusion own
  have plus : first ≠ '+' := by
    rintro rfl
    exact Bool.noConfusion own
  have taken : (first :: others ++ mark :: rest).takeWhile (isDigitOf 10) = first :: others := by
    rw [List.takeWhile_append_of_pos all, List.takeWhile_cons, stop]
    simp
  have dropped : (first :: others ++ mark :: rest).dropWhile (isDigitOf 10) = mark :: rest := by
    rw [List.dropWhile_append_of_pos all, List.dropWhile_cons, stop]
    simp
  have signed : takeSign (first :: others ++ mark :: rest) = (false, first :: others ++ mark :: rest) := by
    simp [takeSign, minus, plus]
  have spaced : (first :: others ++ mark :: rest).dropWhile isSpace = first :: others ++ mark :: rest := by
    rw [List.cons_append, List.dropWhile_cons, shown]
    simp
  have resolved : resolveBase 10 (first :: others ++ mark :: rest) = (10, first :: others ++ mark :: rest) := by
    simp [resolveBase]
  simp only [readInteger, spaced, signed, resolved, taken, dropped, if_neg nonempty, Bool.false_eq_true, if_false]

theorem read_any_base (digits : List Char) (nonempty : digits ≠ []) (all : ∀ letter ∈ digits, isDigitOf 10 letter = true)
    (leading : digits[0]? ≠ some '0') : readInteger isSpace 0 digits = some ((digitsValue 10 digits : Int), []) := by
  have resolved : resolveBase 0 digits = (10, digits) := by
    rw [resolveBase, no_hex_prefix 10 digits (by omega) all, if_neg (by simp), if_neg (by simp), if_neg leading]
  exact read_resolved isSpace graphic 0 10 digits nonempty all resolved

theorem sto_integer_in_base (bits base : Nat) (digits : List Char) (positive : base ≠ 0) (narrow : base ≤ 16)
    (nonempty : digits ≠ []) (all : ∀ letter ∈ digits, isDigitOf base letter = true)
    (fits : digitsValue base digits < 2 ^ (bits - 1)) :
    stoInteger isSpace bits base digits = some ((digitsValue base digits : Int), []) := by
  have low : -2 ^ (bits - 1) ≤ (digitsValue base digits : Int) :=
    Int.le_trans (Int.neg_nonpos_of_nonneg (Int.pow_nonneg (by omega))) (Int.natCast_nonneg _)
  have high : (digitsValue base digits : Int) < 2 ^ (bits - 1) := by exact_mod_cast fits
  rw [stoInteger, read_in_base isSpace graphic base digits positive narrow nonempty all, Option.filter_some,
    if_pos (decide_eq_true ⟨low, high⟩)]

theorem strtoull_any_base (digits : List Char) (nonempty : digits ≠ [])
    (all : ∀ letter ∈ digits, isDigitOf 10 letter = true) (leading : digits[0]? ≠ some '0')
    (fits : digitsValue 10 digits < 2 ^ 64) : strtoull isSpace 0 digits = UInt64.ofNat (digitsValue 10 digits) := by
  rw [strtoull, read_any_base isSpace graphic digits nonempty all leading]
  simp only [Int.natAbs_natCast, if_pos fits]
  exact word64_of_cast _

end

theorem written_in_base (letter : Nat → Char) (base value : Nat) (wide : 1 < base)
    (reads : ∀ digit < base, digitValue (letter digit) = some digit) :
    ∀ written ∈ writeDigits letter base value, isDigitOf base written = true := by
  intro written member
  obtain ⟨digit, below, rfl⟩ := written_digits letter base value wide written member
  rw [isDigitOf, reads digit below, Option.any_some, decide_eq_true below]

theorem padded_in_base (base width : Nat) (digits : List Char) (wide : 1 < base)
    (all : ∀ letter ∈ digits, isDigitOf base letter = true) :
    ∀ letter ∈ zeroPadded width digits, isDigitOf base letter = true := by
  intro letter member
  rcases List.mem_append.mp member with pad | digit
  · rw [List.eq_of_mem_replicate pad]
    exact decide_eq_true (by omega : 0 < base)
  · exact all letter digit

theorem padded_length (width bound : Nat) (digits : List Char) (wide : width ≤ bound) (short : digits.length ≤ bound) :
    (zeroPadded width digits).length ≤ bound := by
  rw [zeroPadded, List.length_append, List.length_replicate]
  omega

theorem padded_nonempty (width : Nat) (digits : List Char) (nonempty : digits ≠ []) : zeroPadded width digits ≠ [] := by
  intro empty
  exact nonempty (List.append_eq_nil_iff.mp empty).2

theorem decimal_value (value : Nat) : digitsValue 10 (decimal value) = value :=
  written_value lowerDigit 10 value (by omega) fun digit below => lower_digit_reads digit (by omega)

theorem decimal_digits (value : Nat) : ∀ letter ∈ decimal value, isDigitOf 10 letter = true :=
  written_in_base lowerDigit 10 value (by omega) fun digit below => lower_digit_reads digit (by omega)

theorem decimal_nonempty (value : Nat) : decimal value ≠ [] := written_nonempty lowerDigit 10 value

theorem decimal_length (value count : Nat) (some : 0 < count) (small : value < 10 ^ count) :
    (decimal value).length ≤ count := by
  unfold decimal writeDigits
  by_cases zero : value = 0
  · rw [if_pos zero]
    exact some
  · rw [if_neg zero, List.length_map, List.length_reverse]
    exact (Nat.digits_length_le_iff (by omega) value).mpr small

theorem lower_hex_value (width value : Nat) : digitsValue 16 (lowerHex width value) = value := by
  rw [lowerHex, zeroPadded, digits_value_zeros, written_value lowerDigit 16 value (by omega) lower_digit_reads]

theorem lower_hex_digits (width value : Nat) : ∀ letter ∈ lowerHex width value, isDigitOf 16 letter = true :=
  padded_in_base 16 width _ (by omega) (written_in_base lowerDigit 16 value (by omega) lower_digit_reads)

theorem lower_hex_nonempty (width value : Nat) : lowerHex width value ≠ [] :=
  padded_nonempty width _ (written_nonempty lowerDigit 16 value)

theorem upper_hex_value (width value : Nat) : digitsValue 16 (upperHex width value) = value := by
  rw [upperHex, zeroPadded, digits_value_zeros, written_value upperDigit 16 value (by omega) upper_digit_reads]

theorem upper_hex_digits (width value : Nat) : ∀ letter ∈ upperHex width value, isDigitOf 16 letter = true :=
  padded_in_base 16 width _ (by omega) (written_in_base upperDigit 16 value (by omega) upper_digit_reads)

theorem upper_hex_nonempty (width value : Nat) : upperHex width value ≠ [] :=
  padded_nonempty width _ (written_nonempty upperDigit 16 value)

theorem written_lowered (base value : Nat) (wide : 1 < base) (narrow : base ≤ 16) :
    (writeDigits lowerDigit base value).map Char.toLower = writeDigits lowerDigit base value := by
  have letters : ∀ digit < 16, (lowerDigit digit).toLower = lowerDigit digit := by decide
  have same : ∀ letter ∈ writeDigits lowerDigit base value, letter.toLower = id letter := by
    intro letter member
    obtain ⟨digit, below, rfl⟩ := written_digits lowerDigit base value wide letter member
    exact letters digit (by omega)
  rw [List.map_congr_left same, List.map_id]

theorem lower_hex_lowered (width value : Nat) : (lowerHex width value).map Char.toLower = lowerHex width value := by
  rw [lowerHex, zeroPadded, List.map_append, List.map_replicate, written_lowered 16 value (by omega) (by omega)]
  rfl

theorem upper_hex_lowered (width value : Nat) : (upperHex width value).map Char.toLower = lowerHex width value := by
  have letters : ∀ digit < 16, (upperDigit digit).toLower = lowerDigit digit := by decide
  have written : (writeDigits upperDigit 16 value).map Char.toLower = writeDigits lowerDigit 16 value := by
    unfold writeDigits
    by_cases zero : value = 0
    · rw [if_pos zero, if_pos zero]
      rfl
    · rw [if_neg zero, if_neg zero, List.map_map]
      apply List.map_congr_left
      intro digit member
      exact letters digit (Nat.digits_lt_base (by omega) (List.mem_reverse.mp member))
  rw [upperHex, lowerHex, zeroPadded, zeroPadded, List.map_append, List.map_replicate, written, ← written, List.length_map]
  rfl

theorem decimal_leading (value : Nat) (positive : value ≠ 0) : (decimal value)[0]? ≠ some '0' := by
  have letters : ∀ digit < 10, digit ≠ 0 → lowerDigit digit ≠ '0' := by decide
  have nonempty : Nat.digits 10 value ≠ [] := mt Nat.digits_eq_nil_iff_eq_zero.mp positive
  have last := Nat.getLast_digit_ne_zero 10 positive
  have first : (Nat.digits 10 value).reverse[0]? = some ((Nat.digits 10 value).getLast nonempty) := by
    rw [← List.head?_eq_getElem?, List.head?_reverse, List.getLast?_eq_some_getLast nonempty]
  rw [decimal, writeDigits, if_neg positive, List.getElem?_map, first, Option.map_some]
  intro zero
  have below := Nat.digits_lt_base (by omega : 1 < 10) (List.getLast_mem nonempty)
  exact letters _ below last (Option.some.inj zero)

end NumberText
