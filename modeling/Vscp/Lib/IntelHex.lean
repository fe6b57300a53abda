import Mathlib

set_option autoImplicit false

-- The Intel HEX format: lines of hex digits behind a record mark, and the memory they define.
namespace IntelHex

def hexDigit (letter : UInt8) : Option UInt8 :=
  if 48 ≤ letter ∧ letter ≤ 57 then some (letter - 48)
  else if 65 ≤ letter ∧ letter ≤ 70 then some (letter - 65 + 10)
  else if 97 ≤ letter ∧ letter ≤ 102 then some (letter - 97 + 10)
  else none

def hexBytes : List UInt8 → Option (List UInt8)
  | [] => some []
  | [_] => none
  | high :: low :: rest =>
      match hexDigit high, hexDigit low, hexBytes rest with
      | some upper, some lower, some bytes => some ((upper <<< 4 + lower) :: bytes)
      | _, _, _ => none

inductive Record
  | data (offset : Nat) (bytes : List UInt8)
  | endOfFile
  | segmentBase (paragraph : Nat)
  | startSegment
  | linearBase (upper : Nat)
  | startLinear
deriving DecidableEq

def word (high low : UInt8) : Nat := high.toNat * 2 ^ 8 + low.toNat

def content (kind : UInt8) (offset : Nat) (bytes : List UInt8) : Option Record :=
  match kind.toNat, bytes with
  | 0, bytes => some (.data offset bytes)
  | 1, [] => some .endOfFile
  | 2, [high, low] => some (.segmentBase (word high low))
  | 3, [_, _, _, _] => some .startSegment
  | 4, [high, low] => some (.linearBase (word high low))
  | 5, [_, _, _, _] => some .startLinear
  | _, _ => none

def recordOf : List UInt8 → Option Record
  | count :: high :: low :: kind :: rest =>
      if rest.length = count.toNat + 1 ∧ count + high + low + kind + rest.sum = 0 then
        content kind (word high low) rest.dropLast
      else none
  | _ => none

def recordMark : UInt8 := 58
def carriageReturn : UInt8 := 13
def lineFeed : UInt8 := 10

def trimReturn (text : List UInt8) : List UInt8 :=
  if text.getLast? = some carriageReturn then text.dropLast else text

def lines (file : List UInt8) : List (List UInt8) := file.splitOn lineFeed

-- The records of the lines that have the mark in front; other lines are no records.
def records : List (List UInt8) → Option (List Record)
  | [] => some []
  | line :: rest =>
      match line with
      | [] => records rest
      | mark :: text =>
          if mark = recordMark then
            match (hexBytes (trimReturn text)).bind recordOf, records rest with
            | some record, some later => some (record :: later)
            | _, _ => none
          else records rest

def Defines (file : List UInt8) (body : List Record) : Prop :=
  records (lines file) = some (body ++ [.endOfFile]) ∧ .endOfFile ∉ body

def WellFormed (file : List UInt8) : Prop := ∃ body, Defines file body

inductive Base
  | linear (upper : Nat)
  | segment (paragraph : Nat)
deriving DecidableEq

-- A linear address wraps at four gigabytes, an address in a segment at the end of it.
def Base.address : Base → Nat → Nat → Nat
  | .linear upper, offset, i => (upper * 2 ^ 16 + offset + i) % 2 ^ 32
  | .segment paragraph, offset, i => paragraph * 16 + (offset + i) % 2 ^ 16

def cells : Base → List Record → List (Nat × UInt8)
  | _, [] => []
  | base, .data offset bytes :: rest => bytes.mapIdx (fun i byte => (base.address offset i, byte)) ++ cells base rest
  | _, .segmentBase paragraph :: rest => cells (.segment paragraph) rest
  | _, .linearBase upper :: rest => cells (.linear upper) rest
  | base, .endOfFile :: rest => cells base rest
  | base, .startSegment :: rest => cells base rest
  | base, .startLinear :: rest => cells base rest

def written (before : Nat → Option UInt8) (stored : List (Nat × UInt8)) : Nat → Option UInt8 :=
  stored.foldl (fun before cell => Function.update before cell.1 (some cell.2)) before

def memory (stored : List (Nat × UInt8)) : Nat → Option UInt8 := written (fun _ => none) stored

-- The base is linear and zero until a record sets it.
def image (body : List Record) : Nat → Option UInt8 := memory (cells (.linear 0) body)

theorem hex_pair_read (high low : UInt8) (rest bytes : List UInt8) (read : hexBytes (high :: low :: rest) = some bytes) :
    ∃ upper lower later, hexDigit high = some upper ∧ hexDigit low = some lower ∧ hexBytes rest = some later ∧
      bytes = (upper <<< 4 + lower) :: later := by
  simp only [hexBytes] at read
  split at read
  · exact ⟨_, _, _, ‹_›, ‹_›, ‹_›, (Option.some.inj read).symm⟩
  · cases read

theorem hex_bytes_length (text bytes : List UInt8) (read : hexBytes text = some bytes) :
    text.length = 2 * bytes.length := by
  induction text using List.twoStepInduction generalizing bytes with
  | nil =>
      obtain rfl := Option.some.inj read
      rfl
  | singleton letter => cases read
  | cons_cons high low rest ih =>
      obtain ⟨upper, lower, later, -, -, restRead, rfl⟩ := hex_pair_read high low rest bytes read
      simp only [List.length_cons, ih later restRead]
      omega

variable (before : Nat → Option UInt8) (address : Nat → Nat) (bytes : List UInt8)

theorem record_shape (record : Record) (is : recordOf bytes = some record) :
    ∃ count high low kind rest, bytes = count :: high :: low :: kind :: rest ∧ rest.length = count.toNat + 1 ∧
      bytes.sum = 0 ∧ content kind (word high low) rest.dropLast = some record := by
  unfold recordOf at is
  split at is
  · split at is
    · rename_i count high low kind rest both
      refine ⟨count, high, low, kind, rest, rfl, both.1, ?_, is⟩
      rw [← both.2]
      simp only [List.sum_cons, UInt8.add_assoc]
    · cases is
  · cases is

theorem content_cases (kind : UInt8) (offset : Nat) (bytes : List UInt8) (record : Record)
    (is : content kind offset bytes = some record) :
    (kind = 0 ∧ record = .data offset bytes) ∨ (kind = 1 ∧ bytes = [] ∧ record = .endOfFile) ∨
      (kind = 2 ∧ ∃ high low, bytes = [high, low] ∧ record = .segmentBase (word high low)) ∨
      (kind = 3 ∧ record = .startSegment) ∨
      (kind = 4 ∧ ∃ high low, bytes = [high, low] ∧ record = .linearBase (word high low)) ∨
      (kind = 5 ∧ record = .startLinear) := by
  have same (number : UInt8) (value : kind.toNat = number.toNat) : kind = number := UInt8.toNat_inj.mp value
  unfold content at is
  split at is
  · exact .inl ⟨same 0 ‹_›, (Option.some.inj is).symm⟩
  · exact .inr (.inl ⟨same 1 ‹_›, rfl, (Option.some.inj is).symm⟩)
  · exact .inr (.inr (.inl ⟨same 2 ‹_›, _, _, rfl, (Option.some.inj is).symm⟩))
  · exact .inr (.inr (.inr (.inl ⟨same 3 ‹_›, (Option.some.inj is).symm⟩)))
  · exact .inr (.inr (.inr (.inr (.inl ⟨same 4 ‹_›, _, _, rfl, (Option.some.inj is).symm⟩))))
  · exact .inr (.inr (.inr (.inr (.inr ⟨same 5 ‹_›, (Option.some.inj is).symm⟩))))
  · cases is

theorem memory_append (first second : List (Nat × UInt8)) :
    memory (first ++ second) = written (memory first) second := List.foldl_append

theorem written_concat (stored : List (Nat × UInt8)) (cell : Nat × UInt8) :
    written before (stored ++ [cell]) = Function.update (written before stored) cell.1 (some cell.2) :=
  List.foldl_append

theorem written_at (i : Nat)
    (inside : i < bytes.length)
    (apart : ∀ first second, first < bytes.length → second < bytes.length → address first = address second →
      first = second) :
    written before (bytes.mapIdx fun i byte => (address i, byte)) (address i) = some (bytes.getD i 0) := by
  induction bytes using List.reverseRecOn with
  | nil => exact absurd inside (Nat.not_lt_zero i)
  | append_singleton rest last ih =>
      rw [List.mapIdx_concat, written_concat]
      rw [List.length_append, List.length_singleton] at inside apart
      by_cases final : i = rest.length
      · subst final
        rw [Function.update_self, List.getD_eq_getElem _ _ (by simp), List.getElem_concat_length rfl]
      · have sooner : i < rest.length := by omega
        have other : address i ≠ address rest.length := fun same =>
          final (apart i rest.length inside (by omega) same)
        have same : (rest ++ [last]).getD i 0 = rest.getD i 0 := List.getD_append _ _ _ _ sooner
        rw [Function.update_of_ne other, same]
        exact ih sooner fun first second firstInside secondInside => apart first second (by omega) (by omega)

theorem written_elsewhere (place : Nat)
    (outside : ∀ i < bytes.length, address i ≠ place) :
    written before (bytes.mapIdx fun i byte => (address i, byte)) place = before place := by
  induction bytes using List.reverseRecOn with
  | nil => rfl
  | append_singleton rest last ih =>
      rw [List.length_append, List.length_singleton] at outside
      rw [List.mapIdx_concat, written_concat, Function.update_of_ne (outside rest.length (by omega)).symm]
      exact ih fun i inside => outside i (by omega)

end IntelHex
