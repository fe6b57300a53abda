import Vscp.Lib.NumberText

set_option autoImplicit false

-- The conversions of sscanf that read numbers and words. What is read stops at the first one that fails.
namespace Scanf

open NumberText

inductive Directive where
  | number
  | literal (letter : Char)
  -- `%<limit>[^<stop>]`
  | word (limit : Nat) (stop : Char)
  -- `%n`
  | place

structure Scanned where
  numbers : List Int
  words : List (List Char)
  place : Option Nat

def nothing : Scanned := ⟨[], [], none⟩

variable (isSpace : Char → Bool)

@[grind =] def scanFrom : List Directive → Nat → List Char → Scanned
  | [], _, _ => nothing
  | .number :: more, read, text =>
      match readInteger isSpace 10 text with
      | none => nothing
      | some (number, rest) =>
          let later := scanFrom more (read + (text.length - rest.length)) rest
          { later with numbers := number :: later.numbers }
  | .literal _ :: _, _, [] => nothing
  | .literal letter :: more, read, first :: rest =>
      if first = letter then scanFrom more (read + 1) rest else nothing
  | .word limit stop :: more, read, text =>
      let word := (text.take limit).takeWhile (· ≠ stop)
      if word = [] then nothing
      else
        let later := scanFrom more (read + word.length) (text.drop word.length)
        { later with words := word :: later.words }
  | .place :: more, read, text => { scanFrom more read text with place := some read }

def scan (format : List Directive) (text : List Char) : Scanned := scanFrom isSpace format 0 text

section

variable (graphic : ∀ letter, (digitValue letter).isSome → isSpace letter = false)
include graphic

theorem scan_number (more : List Directive) (read : Nat) (digits rest : List Char) (nonempty : digits ≠ [])
    (all : ∀ letter ∈ digits, isDigitOf 10 letter = true) (stop : ∀ mark later, rest = mark :: later → isDigitOf 10 mark = false) :
    scanFrom isSpace (.number :: more) read (digits ++ rest) =
      { scanFrom isSpace more (read + digits.length) rest with
        numbers := digitsValue 10 digits :: (scanFrom isSpace more (read + digits.length) rest).numbers } := by
  have number : readInteger isSpace 10 (digits ++ rest) = some ((digitsValue 10 digits : Int), rest) := by
    cases rest with
    | nil =>
        rw [List.append_nil]
        exact read_in_base isSpace graphic 10 digits (by omega) (by omega) nonempty all
    | cons mark later => exact read_decimal_before isSpace graphic digits later mark nonempty all (stop mark later rfl)
  have length : (digits ++ rest).length - rest.length = digits.length := by
    rw [List.length_append]
    omega
  simp only [scanFrom, number, length]

end

theorem scan_no_number (more : List Directive) (read : Nat) (first : Char) (rest : List Char)
    (notSpace : isSpace first = false) (noMinus : first ≠ '-') (noPlus : first ≠ '+') (foreign : isDigitOf 10 first = false) :
    scanFrom isSpace (.number :: more) read (first :: rest) = nothing := by
  have front : (first :: rest).dropWhile isSpace = first :: rest := by
    rw [List.dropWhile_cons, notSpace, if_neg Bool.false_ne_true]
  have sign : takeSign (first :: rest) = (false, first :: rest) := by
    simp [takeSign, noMinus, noPlus]
  have base : resolveBase 10 (first :: rest) = (10, first :: rest) := by
    simp [resolveBase]
  have none : (first :: rest).takeWhile (isDigitOf 10) = [] := by
    rw [List.takeWhile_cons, foreign, if_neg Bool.false_ne_true]
  simp only [scanFrom, readInteger, front, sign, base, none, if_true]

@[simp] theorem scan_literal (letter : Char) (more : List Directive) (read : Nat) (rest : List Char) :
    scanFrom isSpace (.literal letter :: more) read (letter :: rest) = scanFrom isSpace more (read + 1) rest :=
  if_pos rfl

theorem scan_other_literal (letter first : Char) (more : List Directive) (read : Nat) (rest : List Char)
    (other : first ≠ letter) : scanFrom isSpace (.literal letter :: more) read (first :: rest) = nothing :=
  if_neg other

theorem scan_word (limit : Nat) (stop : Char) (more : List Directive) (read : Nat) (word rest : List Char)
    (nonempty : word ≠ []) (short : word.length ≤ limit) (inside : stop ∉ word) :
    scanFrom isSpace (.word limit stop :: more) read (word ++ stop :: rest) =
      { scanFrom isSpace more (read + word.length) (stop :: rest) with
        words := word :: (scanFrom isSpace more (read + word.length) (stop :: rest)).words } := by
  have taken : ((word ++ stop :: rest).take limit).takeWhile (· ≠ stop) = word := by
    have whole : word.takeWhile (· ≠ stop) = word :=
      List.takeWhile_eq_self_iff.mpr fun letter member => decide_eq_true fun same => inside (same ▸ member)
    rw [List.take_append, List.take_of_length_le short, List.takeWhile_append, whole, if_pos rfl]
    cases left : limit - word.length with
    | zero => simp
    | succ more => simp
  simp only [scanFrom, taken, if_neg nonempty, List.drop_left]

end Scanf
