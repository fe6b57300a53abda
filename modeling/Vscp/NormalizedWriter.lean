import Vscp.Event
import Vscp.Lib.ByteNumber

set_option autoImplicit false

namespace Vscp

open ByteNumber

-- The bytes of a uint64_t as they lie in memory, and what lies behind them on the stack.
def valueBytes (val64 : UInt64) : Bytes := numberBytes 8 val64.toNat

def valueByte (stack : Nat → UInt8) (val64 : UInt64) (i : Nat) : UInt8 :=
  if i < 8 then (valueBytes val64).getD i 0 else stack i

def leadingZeros (val64 : UInt64) : Nat := ((valueBytes val64).takeWhile (· = 0)).length

structure NormalizedData where
  reads : List Nat
  written : List Nat
  pdata : Bytes
  size : Nat

-- A turn of the loop. The output place stays at its start.
def storeByte (stack : Nat → UInt8) (val64 : UInt64) (nZeros : Nat) (done : NormalizedData) (i : Nat) : NormalizedData :=
  { reads := done.reads ++ [i + nZeros]
    written := done.written ++ [1]
    pdata := done.pdata.set 1 (valueByte stack val64 (i + nZeros))
    size := done.size + 1 }

-- The bytes are copied in the other order first, to an array that nothing reads.
def convertIntegerToNormalizedEventData (stack : Nat → UInt8) (pdata : Bytes) (val64 : UInt64) : NormalizedData :=
  let nZeros := leadingZeros val64
  (List.range' nZeros (8 - nZeros)).foldl (storeByte stack val64 nZeros)
    ⟨[7, 6, 5, 4, 3, 2, 1] ++ List.range (min (nZeros + 1) 8), [], pdata, 1⟩

-- The most significant byte first, without zeros in front; a zero has one byte.
def shortestBytes (val64 : UInt64) : Bytes :=
  let digits := (valueBytes val64).reverse.dropWhile (· = 0)
  if digits = [] then [0] else digits

structure WritesNormalized (pdata : Bytes) (val64 : UInt64) (done : NormalizedData) : Prop where
  inside : ∀ place ∈ done.reads, place < 8
  least : 2 ≤ done.size
  most : done.size ≤ 9
  front : ∀ place ∈ done.written, place < done.size
  kept : done.pdata.drop done.size = pdata.drop done.size
  shortest : (done.pdata.drop 1).take (done.size - 1) = shortestBytes val64
  value : bigNumber ((done.pdata.drop 1).take (done.size - 1)) = val64.toNat

structure AlreadyThere (pdata : Bytes) (val64 : UInt64) : Prop where
  last : val64.toNat % 256 ≠ 0
  first : 2 ^ 56 ≤ val64.toNat
  rest : (pdata.drop 2).take 7 = (valueBytes val64).reverse.drop 1

theorem value_bytes_number (val64 : UInt64) : littleNumber (valueBytes val64) = val64.toNat := by
  rw [valueBytes, number_of_bytes]
  exact Nat.mod_eq_of_lt val64.toNat_lt

theorem value_bytes_eight (val64 : UInt64) : ∃ a b c d e f g h, valueBytes val64 = [a, b, c, d, e, f, g, h] :=
  ⟨_, _, _, _, _, _, _, _, rfl⟩

theorem leading_zeros_some (val64 : UInt64) (byte : UInt8) (rest : Bytes) (bytes : valueBytes val64 = byte :: rest)
    (nonzero : byte ≠ 0) : leadingZeros val64 = 0 := by
  rw [leadingZeros, bytes, List.takeWhile_cons_of_neg (by simpa using nonzero)]
  rfl

theorem leading_zeros_bound (val64 : UInt64) : leadingZeros val64 ≤ 8 := by
  have few := List.Sublist.length_le (List.takeWhile_sublist (fun byte : UInt8 => decide (byte = 0)) (l := valueBytes val64))
  rwa [valueBytes, number_bytes_length] at few

section

variable (stack : Nat → UInt8) (val64 : UInt64) (nZeros : Nat)

theorem stored_reads (places : List Nat) (done : NormalizedData) :
    (places.foldl (storeByte stack val64 nZeros) done).reads = done.reads ++ places.map (· + nZeros) := by
  induction places generalizing done with
  | nil => rw [List.map_nil, List.append_nil]; rfl
  | cons place places ih =>
      rw [List.foldl_cons, ih, List.map_cons, storeByte, List.append_assoc]
      rfl

theorem stored_size (places : List Nat) (done : NormalizedData) :
    (places.foldl (storeByte stack val64 nZeros) done).size = done.size + places.length := by
  induction places generalizing done with
  | nil => rfl
  | cons place places ih =>
      rw [List.foldl_cons, ih, List.length_cons]
      exact Nat.add_right_comm done.size 1 places.length

end

theorem zeros_spoil (stack : Nat → UInt8) (pdata : Bytes) (val64 : UInt64) (zeros : leadingZeros val64 ≠ 0) :
    ¬ WritesNormalized pdata val64 (convertIntegerToNormalizedEventData stack pdata val64) := by
  intro right
  have bound := leading_zeros_bound val64
  by_cases all : leadingZeros val64 = 8
  · have least := right.least
    rw [convertIntegerToNormalizedEventData, stored_size, List.length_range', all] at least
    change 2 ≤ 1 at least
    omega
  · have read : 7 + leadingZeros val64 ∈ (convertIntegerToNormalizedEventData stack pdata val64).reads := by
      rw [convertIntegerToNormalizedEventData, stored_reads]
      refine List.mem_append_right _ (List.mem_map.mpr ⟨7, ?_, rfl⟩)
      rw [List.mem_range'_1]
      omega
    have inside := right.inside _ read
    omega

theorem written_without_zeros (stack : Nat → UInt8) (pdata : Bytes) (val64 : UInt64) (none : leadingZeros val64 = 0) :
    convertIntegerToNormalizedEventData stack pdata val64 =
      ⟨[7, 6, 5, 4, 3, 2, 1, 0, 0, 1, 2, 3, 4, 5, 6, 7], List.replicate 8 1,
        pdata.set 1 ((valueBytes val64).getD 7 0), 9⟩ := by
  have last : valueByte stack val64 7 = (valueBytes val64).getD 7 0 := if_pos (by decide)
  rw [convertIntegerToNormalizedEventData, none, ← last]
  simp only [List.range', List.foldl_cons, List.foldl_nil, storeByte, List.set_set]
  rfl

theorem set_place (pdata : Bytes) (room : 9 ≤ pdata.length) (byte : UInt8) :
    ((pdata.set 1 byte).drop 1).take 8 = byte :: (pdata.drop 2).take 7 := by
  match pdata, room with
  | _ :: _ :: rest, _ => rfl

theorem big_number_trimmed (bytes : Bytes) : bigNumber (bytes.dropWhile (· = 0)) = bigNumber bytes := by
  induction bytes with
  | nil => rfl
  | cons byte rest ih =>
      by_cases zero : byte = 0
      · rw [List.dropWhile_cons_of_pos (by simpa using zero), ih, big_number_cons, zero]
        simp
      · rw [List.dropWhile_cons_of_neg (by simpa using zero)]

theorem shortest_bytes_number (val64 : UInt64) : bigNumber (shortestBytes val64) = val64.toNat := by
  have all : bigNumber ((valueBytes val64).reverse.dropWhile (· = 0)) = val64.toNat := by
    rw [big_number_trimmed, big_number_reverse, List.reverse_reverse, value_bytes_number]
  rw [shortestBytes]
  split
  · next nothing =>
      rw [nothing] at all
      exact all
  · exact all

theorem shortest_bytes_whole (val64 : UInt64) : (shortestBytes val64).length = 8 ↔ 2 ^ 56 ≤ val64.toNat := by
  obtain ⟨a, b, c, d, e, f, g, h, bytes⟩ := value_bytes_eight val64
  have number : bigNumber [h, g, f, e, d, c, b, a] = val64.toNat := by
    rw [← value_bytes_number, bytes, big_number_reverse]
    rfl
  have below := big_number_bound [g, f, e, d, c, b, a]
  rw [big_number_cons] at number
  change h.toNat * 256 ^ 7 + bigNumber [g, f, e, d, c, b, a] = _ at number
  change bigNumber [g, f, e, d, c, b, a] < 256 ^ 7 at below
  have reversed : (valueBytes val64).reverse = h :: [g, f, e, d, c, b, a] := by rw [bytes]; rfl
  by_cases zero : h = 0
  · have few := List.Sublist.length_le (List.dropWhile_sublist (fun byte : UInt8 => decide (byte = 0)) (l := [g, f, e, d, c, b, a]))
    have short : (shortestBytes val64).length ≤ 7 := by
      rw [shortestBytes, reversed, List.dropWhile_cons_of_pos (by simpa using zero)]
      split
      · exact Nat.le_of_ble_eq_true rfl
      · exact few
    have small : h.toNat = 0 := by rw [zero]; rfl
    constructor
    · intro whole
      omega
    · intro large
      rw [small] at number
      omega
  · have some' : 0 < h.toNat := by
      rcases Nat.eq_zero_or_pos h.toNat with nothing | some'
      · exact absurd (UInt8.toNat_inj.mp nothing) zero
      · exact some'
    have whole : (shortestBytes val64).length = 8 := by
      rw [shortestBytes, reversed, List.dropWhile_cons_of_neg (by simpa using zero), if_neg (List.cons_ne_nil _ _)]
      rfl
    refine iff_of_true whole ?_
    omega

theorem integer_normalized_iff (stack : Nat → UInt8) (pdata : Bytes) (room : 9 ≤ pdata.length) (val64 : UInt64) :
    WritesNormalized pdata val64 (convertIntegerToNormalizedEventData stack pdata val64) ↔ AlreadyThere pdata val64 := by
  obtain ⟨a, b, c, d, e, f, g, h, bytes⟩ := value_bytes_eight val64
  have lastByte : a.toNat = val64.toNat % 256 := by
    have number := value_bytes_number val64
    rw [bytes] at number
    change a.toNat + 256 * littleNumber [b, c, d, e, f, g, h] = _ at number
    have bound := a.toNat_lt
    omega
  by_cases zero : a = 0
  · have zeros : leadingZeros val64 ≠ 0 := by
      rw [leadingZeros, bytes, zero, List.takeWhile_cons_of_pos (by decide)]
      exact Nat.succ_ne_zero _
    refine iff_of_false (zeros_spoil stack pdata val64 zeros) fun there => there.last ?_
    rw [← lastByte, zero]
    rfl
  · have odd : val64.toNat % 256 ≠ 0 := by
      rw [← lastByte]
      exact fun nothing => zero (UInt8.toNat_inj.mp nothing)
    rw [written_without_zeros stack pdata val64 (leading_zeros_some val64 a _ bytes zero)]
    have top : (valueBytes val64).getD 7 0 = h := by rw [bytes]; rfl
    have reversed : (valueBytes val64).reverse = h :: [g, f, e, d, c, b, a] := by rw [bytes]; rfl
    have digits := set_place pdata room h
    rw [top]
    constructor
    · intro right
      have shortest := right.shortest
      change ((pdata.set 1 h).drop 1).take 8 = _ at shortest
      have full : ((pdata.set 1 h).drop 1).take 8 = (valueBytes val64).reverse := by
        rw [shortest]
        have whole : (shortestBytes val64).length = 8 := by
          rw [← shortest, List.length_take, List.length_drop, List.length_set]
          omega
        rw [shortestBytes] at whole ⊢
        have most : ((valueBytes val64).reverse.dropWhile (· = 0)).length = 8 := by
          split at whole
          · exact absurd whole (by decide)
          · exact whole
        have same := List.Sublist.eq_of_length (List.dropWhile_sublist (fun byte : UInt8 => decide (byte = 0))
          (l := (valueBytes val64).reverse)) (by rw [most, List.length_reverse, bytes]; rfl)
        rw [same, if_neg (by rw [reversed]; exact List.cons_ne_nil _ _)]
      refine ⟨odd, (shortest_bytes_whole val64).mp ?_, ?_⟩
      · rw [← shortest, full, reversed]
        rfl
      · rw [digits, reversed] at full
        rw [reversed]
        exact List.tail_eq_of_cons_eq full
    · intro there
      have nonzero : h ≠ 0 := by
        rintro rfl
        have short := (shortest_bytes_whole val64).mpr there.first
        rw [shortestBytes, reversed, List.dropWhile_cons_of_pos (by decide)] at short
        have few := List.Sublist.length_le (List.dropWhile_sublist (fun byte : UInt8 => decide (byte = 0))
          (l := [g, f, e, d, c, b, a]))
        change _ ≤ 7 at few
        split at short
        · exact absurd short (by decide)
        · omega
      have shortest : shortestBytes val64 = h :: [g, f, e, d, c, b, a] := by
        rw [shortestBytes, reversed, List.dropWhile_cons_of_neg (by simpa using nonzero), if_neg (List.cons_ne_nil _ _)]
      have rest := there.rest
      rw [reversed] at rest
      have written : ((pdata.set 1 h).drop 1).take 8 = shortestBytes val64 := by
        rw [digits, rest, shortest]
        rfl
      refine ⟨by simp, Nat.le_of_ble_eq_true rfl, Nat.le_refl 9, by simp, ?_, written, ?_⟩
      · exact List.drop_set_of_lt (Nat.le_of_ble_eq_true rfl)
      · change bigNumber (((pdata.set 1 h).drop 1).take 8) = _
        rw [written, shortest_bytes_number]

def knownBuffer : Bytes := [0, 0, 2, 3, 4, 5, 6, 7, 8]

theorem integer_normalized_iff_known :
    WritesNormalized knownBuffer 0x0102030405060708
        (convertIntegerToNormalizedEventData (fun _ => 0) knownBuffer 0x0102030405060708) ↔
      AlreadyThere knownBuffer 0x0102030405060708 :=
  integer_normalized_iff (fun _ => 0) knownBuffer (by decide) 0x0102030405060708

-- The value 1 is written as nine bytes, with a zero where the 1 belongs; of 256 the loop reads behind the value.
theorem one_not_normalized :
    (convertIntegerToNormalizedEventData (fun _ => 0) (List.replicate 9 0) 1).size = 9 ∧
      (convertIntegerToNormalizedEventData (fun _ => 0) (List.replicate 9 0) 1).pdata = List.replicate 9 0 ∧
      8 ∈ (convertIntegerToNormalizedEventData (fun _ => 0) (List.replicate 9 0) 256).reads ∧
      ¬ WritesNormalized (List.replicate 9 0) 1 (convertIntegerToNormalizedEventData (fun _ => 0) (List.replicate 9 0) 1) := by
  refine ⟨by decide, by decide, by decide, fun right => ?_⟩
  exact absurd right.shortest (by decide)

end Vscp
