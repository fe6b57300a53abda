import Vscp.Lib.NumberText

set_option autoImplicit false

-- The integer conversions of printf. What C leaves undefined has no result.
namespace Printf

open NumberText

structure Argument where
  bits : Nat
  number : Int

structure Directive where
  zeros : Bool
  width : Nat
  shorts : Nat
  longs : Nat

def Directive.read (directive : Directive) (letter : Char) : Option Directive :=
  if letter = 'h' then some { directive with shorts := directive.shorts + 1 }
  else if letter = 'l' then some { directive with longs := directive.longs + 1 }
  else if letter = '0' ∧ directive.width = 0 then some { directive with zeros := true }
  else if letter.isDigit then some { directive with width := directive.width * 10 + (letter.toNat - 48) }
  else none

-- long is the only integer type whose width is not the same everywhere.
def Directive.argumentBits (longBits : Nat) (directive : Directive) : Nat :=
  match directive.longs with
  | 0 => 32
  | 1 => longBits
  | _ => 64

def Directive.shownBits (longBits : Nat) (directive : Directive) : Nat :=
  match directive.shorts with
  | 0 => directive.argumentBits longBits
  | 1 => 16
  | _ => 8

def Directive.layOut (directive : Directive) (sign digits : List Char) : List Char :=
  if directive.zeros then sign ++ zeroPadded (directive.width - sign.length) digits
  else List.replicate (directive.width - (sign.length + digits.length)) ' ' ++ sign ++ digits

def Directive.convert (longBits : Nat) (directive : Directive) (letter : Char) (argument : Argument) :
    Option (List Char) :=
  if argument.bits ≠ directive.argumentBits longBits then none
  else
    let signed := argument.number.bmod (2 ^ directive.shownBits longBits)
    let unsigned := (argument.number % 2 ^ directive.shownBits longBits).toNat
    if letter = 'd' then some (directive.layOut (if signed < 0 then ['-'] else []) (decimal signed.natAbs))
    else if letter = 'u' then some (directive.layOut [] (decimal unsigned))
    else if letter = 'x' then some (directive.layOut [] (lowerHex 0 unsigned))
    else none

-- Arguments that no conversion asks for are passed over.
@[grind =] def formatFrom (longBits : Nat) : Option Directive → List Char → List Argument → Option (List Char)
  | none, [], _ => some []
  | some _, [], _ => none
  | none, letter :: rest, arguments =>
      if letter = '%' then formatFrom longBits (some ⟨false, 0, 0, 0⟩) rest arguments
      else (formatFrom longBits none rest arguments).map (letter :: ·)
  | some directive, letter :: rest, arguments =>
      match directive.read letter with
      | some directive => formatFrom longBits (some directive) rest arguments
      | none =>
          match arguments with
          | [] => none
          | argument :: arguments =>
              (directive.convert longBits letter argument).bind fun shown =>
                (formatFrom longBits none rest arguments).map (shown ++ ·)

def format (longBits : Nat) (text : List Char) (arguments : List Argument) : Option (List Char) :=
  formatFrom longBits none text arguments

def signedDecimal (number : Int) : List Char := (if number < 0 then ['-'] else []) ++ decimal number.natAbs

variable (longBits : Nat) (lead text : List Char)

theorem format_plain (lead rest : List Char) (arguments : List Argument) (plain : '%' ∉ lead) :
    formatFrom longBits none (lead ++ rest) arguments = (formatFrom longBits none rest arguments).map (lead ++ ·) := by
  induction lead with
  | nil => exact Option.map_id'.symm
  | cons letter lead ih =>
      have other : letter ≠ '%' := fun same => plain (same ▸ List.mem_cons_self)
      have later := ih fun member => plain (List.mem_cons_of_mem letter member)
      rw [List.cons_append, formatFrom, if_neg other, later, Option.map_map]
      rfl

theorem format_directive (start directive : Directive) (text : List Char) (letter : Char)
    (argument : Argument) (reads : text.foldlM Directive.read start = some directive)
    (ends : directive.read letter = none) :
    formatFrom longBits (some start) (text ++ [letter]) [argument] = directive.convert longBits letter argument := by
  induction text generalizing start with
  | nil =>
      cases reads
      rw [List.nil_append, formatFrom, ends]
      simp [formatFrom]
  | cons first text ih =>
      rw [List.foldlM_cons, Option.bind_eq_bind, Option.bind_eq_some_iff] at reads
      obtain ⟨next, here, later⟩ := reads
      rw [List.cons_append, formatFrom, here]
      exact ih next later

variable (letter : Char) (directive : Directive) (argument : Argument)

theorem format_single (plain : '%' ∉ lead) (reads : text.foldlM Directive.read ⟨false, 0, 0, 0⟩ = some directive)
    (ends : directive.read letter = none) :
    format longBits (lead ++ '%' :: (text ++ [letter])) [argument] =
      (directive.convert longBits letter argument).map (lead ++ ·) := by
  rw [format, format_plain longBits lead _ _ plain, formatFrom, if_pos rfl,
    format_directive longBits _ directive text letter argument reads ends]

theorem format_misfit (plain : '%' ∉ lead) (reads : text.foldlM Directive.read ⟨false, 0, 0, 0⟩ = some directive)
    (ends : directive.read letter = none) (other : argument.bits ≠ directive.argumentBits longBits) :
    format longBits (lead ++ '%' :: (text ++ [letter])) [argument] = none := by
  rw [format_single longBits lead text letter directive argument plain reads ends, Directive.convert, if_pos other]
  rfl

variable (bits : Nat) (number : Int)

theorem format_signed (plain : '%' ∉ lead) (reads : text.foldlM Directive.read ⟨false, 0, 0, 0⟩ = some directive)
    (fits : bits = directive.argumentBits longBits) (unpadded : directive.width = 0) :
    format longBits (lead ++ '%' :: (text ++ ['d'])) [⟨bits, number⟩] =
      some (lead ++ signedDecimal (number.bmod (2 ^ directive.shownBits longBits))) := by
  rw [format_single longBits lead text 'd' directive _ plain reads rfl, Directive.convert, if_neg (fun other => other fits),
    if_pos rfl, Directive.layOut, unpadded]
  simp [signedDecimal, zeroPadded]

theorem format_unsigned (plain : '%' ∉ lead) (reads : text.foldlM Directive.read ⟨false, 0, 0, 0⟩ = some directive)
    (fits : bits = directive.argumentBits longBits) (unpadded : directive.width = 0) :
    format longBits (lead ++ '%' :: (text ++ ['u'])) [⟨bits, number⟩] =
      some (lead ++ decimal (number % 2 ^ directive.shownBits longBits).toNat) := by
  rw [format_single longBits lead text 'u' directive _ plain reads rfl, Directive.convert, if_neg (fun other => other fits),
    if_neg (by decide), if_pos rfl, Directive.layOut, unpadded]
  simp [zeroPadded]

theorem format_hex (plain : '%' ∉ lead) (reads : text.foldlM Directive.read ⟨false, 0, 0, 0⟩ = some directive)
    (fits : bits = directive.argumentBits longBits) (zeros : directive.zeros = true ∨ directive.width = 0) :
    format longBits (lead ++ '%' :: (text ++ ['x'])) [⟨bits, number⟩] =
      some (lead ++ lowerHex directive.width (number % 2 ^ directive.shownBits longBits).toNat) := by
  rw [format_single longBits lead text 'x' directive _ plain reads rfl, Directive.convert, if_neg (fun other => other fits),
    if_neg (by decide), if_neg (by decide), if_pos rfl, Directive.layOut]
  rcases zeros with padded | unpadded
  · simp [padded, lowerHex, zeroPadded]
  · simp [unpadded, lowerHex, zeroPadded]

example : format 64 ['0', 'x', '%', '0', '4', 'h', 'x', '.'] [⟨32, -2⟩] = some ['0', 'x', 'f', 'f', 'f', 'e', '.'] := by
  decide

end Printf
