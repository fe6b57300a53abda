import Vscp.HexFile
import Vscp.Lib.ByteMemory

set_option autoImplicit false

namespace Vscp.Boot

open ByteMemory

def vscpErrorSuccess : Int := 0
def vscpErrorSize : Int := 64

def CBootMemSegment.bytes (pblk : CBootMemSegment) : Bytes := pblk.memSegment.toList

def CBootMemSegment.stop (pblk : CBootMemSegment) : UInt32 := pblk.startAddress + pblk.segSize.toUInt32

def minMaxStep (rangeStart rangeEnd : UInt32) (found : UInt32 × UInt32) (pblk : CBootMemSegment) : UInt32 × UInt32 :=
  if pblk.startAddress ≥ rangeStart ∧ pblk.startAddress ≤ rangeEnd then
    (if pblk.startAddress < found.1 then pblk.startAddress else found.1, if pblk.stop > found.2 then pblk.stop else found.2)
  else found

-- With nothing in the range both are zero.
def getMinMaxForRange (memSegList : List CBootMemSegment) (rangeStart rangeEnd : UInt32) : Except Int (UInt32 × UInt32) :=
  if rangeEnd ≤ rangeStart then .error VscpError.parameter.code
  else
    let found := memSegList.foldl (minMaxStep rangeStart rangeEnd) (0xffffffff, 0)
    .ok (if found = (0xffffffff, 0) then (0, 0) else found)

def fillStep (rangeStart rangeEnd offset : UInt32) (pmem : Memory) (pblk : CBootMemSegment) : Memory :=
  if pblk.startAddress ≥ rangeStart ∧ pblk.stop < rangeEnd then
    writeBytes pmem (pblk.startAddress - rangeStart - offset).toNat pblk.bytes
  else pmem

def fillMemoryBuffer (memSegList : List CBootMemSegment) (pmem : Memory) (size rangeStart rangeEnd offset : UInt32)
    (fillbyte : UInt8) : Except Int Memory :=
  if size = 0 then .error vscpErrorSize
  else
    .ok (memSegList.foldl (fillStep rangeStart rangeEnd offset) fun i => if i < size.toNat then fillbyte else pmem i)

def Touches (rangeStart rangeEnd : UInt32) (pblk : CBootMemSegment) : Prop :=
  ∃ i, i < pblk.segSize.toNat ∧ rangeStart.toNat ≤ (pblk.startAddress.toNat + i) % 2 ^ 32 ∧
    (pblk.startAddress.toNat + i) % 2 ^ 32 ≤ rangeEnd.toNat

def Inside (rangeStart rangeEnd : UInt32) (memSegList : List CBootMemSegment) : Prop :=
  ∀ pblk ∈ memSegList, Touches rangeStart rangeEnd pblk →
    pblk.startAddress ≥ rangeStart ∧ pblk.startAddress ≤ rangeEnd ∧ pblk.stop < rangeEnd

structure Distinct (memSegList : List CBootMemSegment) : Prop where
  void : ∀ pblk ∈ memSegList, 0xff ∉ pblk.bytes
  some : ∀ pblk ∈ memSegList, 0 < pblk.segSize.toNat
  ends : ∀ pblk ∈ memSegList, pblk.startAddress.toNat + pblk.segSize.toNat < 2 ^ 32
  apart : ∀ pblk ∈ memSegList, ∀ other ∈ memSegList, ∀ i < pblk.segSize.toNat, ∀ j < other.segSize.toNat,
    pblk.startAddress.toNat + i = other.startAddress.toNat + j → pblk = other

variable (before : List CBootMemSegment) (pblk : CBootMemSegment)

theorem segment_bytes_length : pblk.bytes.length = pblk.segSize.toNat := by
  rw [CBootMemSegment.bytes, Vector.length_toList]

theorem stop_value :
    pblk.stop.toNat = (pblk.startAddress.toNat + pblk.segSize.toNat) % 2 ^ 32 := by
  rw [CBootMemSegment.stop, UInt32.toNat_add, UInt8.toNat_toUInt32]

variable (address : Nat)

theorem image_append :
    segmentImage (before ++ [pblk]) address =
      IntelHex.written (segmentImage before) (segmentCells pblk) address := by
  rw [segmentImage, segmentImage, List.flatMap_append, List.flatMap_singleton, IntelHex.memory_append]

theorem image_in_segment (i : Nat)
    (inside : i < pblk.segSize.toNat) :
    segmentImage (before ++ [pblk]) ((pblk.startAddress.toNat + i) % 2 ^ 32) = some (pblk.bytes.getD i 0) := by
  have sizeBelow := pblk.segSize.toNat_lt
  have length := segment_bytes_length pblk
  have apart (first second : Nat) (firstInside : first < pblk.bytes.length) (secondInside : second < pblk.bytes.length)
      (same : (pblk.startAddress.toNat + first) % 2 ^ 32 = (pblk.startAddress.toNat + second) % 2 ^ 32) :
      first = second := by
    omega
  rw [image_append, segmentCells, ← CBootMemSegment.bytes]
  exact IntelHex.written_at _ _ _ i (by omega) apart

theorem image_off_segment (outside : ∀ i < pblk.segSize.toNat, (pblk.startAddress.toNat + i) % 2 ^ 32 ≠ address) :
    segmentImage (before ++ [pblk]) address = segmentImage before address := by
  rw [image_append, segmentCells, ← CBootMemSegment.bytes]
  apply IntelHex.written_elsewhere
  rw [segment_bytes_length]
  exact outside

theorem fill_place (rangeStart : UInt32) (pblk : CBootMemSegment) (after : pblk.startAddress ≥ rangeStart) :
    (pblk.startAddress - rangeStart - 0).toNat + rangeStart.toNat = pblk.startAddress.toNat := by
  have less : rangeStart.toNat ≤ pblk.startAddress.toNat := UInt32.le_iff_toNat_le.mp after
  rw [UInt32.sub_zero, UInt32.toNat_sub_of_le _ _ after]
  omega

variable (memSegList : List CBootMemSegment) (rangeStart rangeEnd : UInt32)

variable (pmem : Memory)

theorem fill_step_hit (pblk : CBootMemSegment) (i j : Nat)
    (after : pblk.startAddress ≥ rangeStart) (ahead : pblk.stop < rangeEnd) (inside : j < pblk.segSize.toNat)
    (same : pblk.startAddress.toNat + j = rangeStart.toNat + i) :
    fillStep rangeStart rangeEnd 0 pmem pblk i = pblk.bytes.getD j 0 := by
  have place := fill_place rangeStart pblk after
  have length := segment_bytes_length pblk
  rw [fillStep, if_pos ⟨after, ahead⟩, writeBytes, if_pos (by omega)]
  congr 1
  omega

theorem fill_step_miss (rangeStart rangeEnd offset : UInt32) (pmem : Memory) (pblk : CBootMemSegment) (i : Nat)
    (outside : pblk.startAddress ≥ rangeStart → pblk.stop < rangeEnd → ∀ j < pblk.segSize.toNat,
      (pblk.startAddress - rangeStart - offset).toNat + j ≠ i) :
    fillStep rangeStart rangeEnd offset pmem pblk i = pmem i := by
  unfold fillStep
  split
  · rename_i passes
    have length := segment_bytes_length pblk
    apply write_bytes_outside
    by_contra within
    exact outside passes.1 passes.2 (i - (pblk.startAddress - rangeStart - offset).toNat) (by omega) (by omega)
  · rfl

theorem fill_source (rangeStart rangeEnd offset : UInt32) (pmem : Memory) (i : Nat)
    (changed : memSegList.foldl (fillStep rangeStart rangeEnd offset) pmem i ≠ pmem i) :
    ∃ pblk ∈ memSegList, pblk.startAddress ≥ rangeStart ∧ pblk.stop < rangeEnd ∧
      ∃ j < pblk.segSize.toNat, (pblk.startAddress - rangeStart - offset).toNat + j = i := by
  induction memSegList generalizing pmem with
  | nil => exact absurd rfl changed
  | cons first rest ih =>
      by_cases later : rest.foldl (fillStep rangeStart rangeEnd offset) (fillStep rangeStart rangeEnd offset pmem first) i =
          fillStep rangeStart rangeEnd offset pmem first i
      · by_contra none
        apply changed
        rw [List.foldl_cons, later]
        apply fill_step_miss
        intro after ahead j few same
        exact none ⟨first, List.mem_cons_self, after, ahead, j, few, same⟩
      · obtain ⟨pblk, member, found⟩ := ih _ later
        exact ⟨pblk, List.mem_cons_of_mem _ member, found⟩

-- The range is not the whole address space, so a segment that runs over its end does not come back into it.
theorem filled_byte (rangeStart rangeEnd : UInt32) (i : Nat)
    (void : pmem i = 0xff) (inside : Inside rangeStart rangeEnd memSegList)
    (within : rangeStart.toNat + i ≤ rangeEnd.toNat)
    (gap : 2 ^ 8 ≤ rangeStart.toNat ∨ rangeEnd.toNat + 2 ^ 8 ≤ 2 ^ 32) :
    memSegList.foldl (fillStep rangeStart rangeEnd 0) pmem i =
      (segmentImage memSegList (rangeStart.toNat + i)).getD 0xff := by
  have endBelow := rangeEnd.toNat_lt
  induction memSegList using List.reverseRecOn with
  | nil =>
      rw [List.foldl_nil, void]
      rfl
  | append_singleton rest pblk ih =>
      have own := inside pblk List.mem_concat_self
      have sizeBelow := pblk.segSize.toNat_lt
      have before := ih fun other member => inside other (List.mem_append_left _ member)
      rw [List.foldl_append, List.foldl_cons, List.foldl_nil]
      by_cases hit : ∃ j < pblk.segSize.toNat, (pblk.startAddress.toNat + j) % 2 ^ 32 = rangeStart.toNat + i
      · obtain ⟨j, few, same⟩ := hit
        obtain ⟨after, ahead, taken⟩ := own ⟨j, few, by omega, by omega⟩
        have ends : pblk.startAddress.toNat ≤ rangeEnd.toNat := UInt32.le_iff_toNat_le.mp ahead
        rw [fill_step_hit rangeStart rangeEnd _ pblk i j after taken few (by omega), ← same,
          image_in_segment rest pblk j few]
        rfl
      · have missed : ∀ j < pblk.segSize.toNat, (pblk.startAddress.toNat + j) % 2 ^ 32 ≠ rangeStart.toNat + i :=
          fun j few same => hit ⟨j, few, same⟩
        rw [image_off_segment rest pblk _ missed, ← before]
        apply fill_step_miss
        intro after taken j few same
        have place := fill_place rangeStart pblk after
        exact missed j few (by omega)

theorem image_value (address : Nat) (byte : UInt8)
    (defined : segmentImage memSegList address = some byte) :
    ∃ pblk ∈ memSegList, byte ∈ pblk.bytes ∧
      ∃ i < pblk.segSize.toNat, (pblk.startAddress.toNat + i) % 2 ^ 32 = address := by
  induction memSegList using List.reverseRecOn with
  | nil => cases defined
  | append_singleton rest pblk ih =>
      by_cases hit : ∃ j < pblk.segSize.toNat, (pblk.startAddress.toNat + j) % 2 ^ 32 = address
      · obtain ⟨j, few, same⟩ := hit
        have here := image_in_segment rest pblk j few
        rw [same, defined] at here
        refine ⟨pblk, List.mem_concat_self, ?_, j, few, same⟩
        rw [Option.some.inj here]
        rw [← segment_bytes_length] at few
        rw [List.getD_eq_getElem _ _ few]
        exact List.getElem_mem few
      · rw [image_off_segment rest pblk address fun j few same => hit ⟨j, few, same⟩] at defined
        obtain ⟨other, member, found⟩ := ih defined
        exact ⟨other, List.mem_append_left _ member, found⟩

theorem image_of_segment (pblk : CBootMemSegment) (member : pblk ∈ memSegList)
    (i : Nat) (inside : i < pblk.segSize.toNat) :
    segmentImage memSegList ((pblk.startAddress.toNat + i) % 2 ^ 32) ≠ none := by
  induction memSegList using List.reverseRecOn with
  | nil => cases member
  | append_singleton rest last ih =>
      by_cases hit : ∃ j < last.segSize.toNat,
          (last.startAddress.toNat + j) % 2 ^ 32 = (pblk.startAddress.toNat + i) % 2 ^ 32
      · obtain ⟨j, few, same⟩ := hit
        rw [← same, image_in_segment rest last j few]
        exact Option.some_ne_none _
      · rw [image_off_segment rest last _ fun j few same => hit ⟨j, few, same⟩]
        rcases List.mem_append.mp member with earlier | now
        · exact ih earlier
        · rw [List.mem_singleton.mp now] at inside hit
          exact absurd ⟨i, inside, rfl⟩ hit

theorem min_max_bounds (memSegList : List CBootMemSegment) (rangeStart rangeEnd : UInt32) (found : UInt32 × UInt32) :
    let result := memSegList.foldl (minMaxStep rangeStart rangeEnd) found
    result.1 ≤ found.1 ∧ found.2 ≤ result.2 ∧
      ∀ pblk ∈ memSegList, pblk.startAddress ≥ rangeStart → pblk.startAddress ≤ rangeEnd →
        result.1 ≤ pblk.startAddress ∧ pblk.stop ≤ result.2 := by
  induction memSegList generalizing found with
  | nil => exact ⟨UInt32.le_refl _, UInt32.le_refl _, fun pblk member => absurd member List.not_mem_nil⟩
  | cons first rest ih =>
      obtain ⟨low, high, others⟩ := ih (minMaxStep rangeStart rangeEnd found first)
      have stepLow : (minMaxStep rangeStart rangeEnd found first).1 ≤ found.1 := by
        unfold minMaxStep
        split
        · dsimp only
          split
          · exact UInt32.le_of_lt ‹_›
          · exact UInt32.le_refl _
        · exact UInt32.le_refl _
      have stepHigh : found.2 ≤ (minMaxStep rangeStart rangeEnd found first).2 := by
        unfold minMaxStep
        split
        · dsimp only
          split
          · exact UInt32.le_of_lt ‹_›
          · exact UInt32.le_refl _
        · exact UInt32.le_refl _
      refine ⟨UInt32.le_trans low stepLow, UInt32.le_trans stepHigh high, fun pblk member after ahead => ?_⟩
      rcases List.mem_cons.mp member with rfl | later
      · have own : (minMaxStep rangeStart rangeEnd found pblk).1 ≤ pblk.startAddress ∧
            pblk.stop ≤ (minMaxStep rangeStart rangeEnd found pblk).2 := by
          unfold minMaxStep
          rw [if_pos ⟨after, ahead⟩]
          dsimp only
          constructor
          · split
            · exact UInt32.le_refl _
            · exact UInt32.not_lt.mp ‹_›
          · split
            · exact UInt32.le_refl _
            · exact UInt32.not_lt.mp ‹_›
        exact ⟨UInt32.le_trans low own.1, UInt32.le_trans own.2 high⟩
      · exact others pblk later after ahead

variable (found : UInt32 × UInt32)

theorem min_max_of_segment (answer : getMinMaxForRange memSegList rangeStart rangeEnd = .ok found) (pblk : CBootMemSegment)
    (member : pblk ∈ memSegList) (after : pblk.startAddress ≥ rangeStart) (ahead : pblk.startAddress ≤ rangeEnd) :
    found.1 ≤ pblk.startAddress ∧ pblk.stop ≤ found.2 := by
  unfold getMinMaxForRange at answer
  split at answer
  · cases answer
  · obtain ⟨low, high⟩ := (min_max_bounds memSegList rangeStart rangeEnd (0xffffffff, 0)).2.2 pblk member after ahead
    obtain rfl := Except.ok.inj answer
    split
    · rename_i none
      rw [none] at high
      refine ⟨UInt32.le_iff_toNat_le.mpr (Nat.zero_le _), high⟩
    · exact ⟨low, high⟩

theorem min_max_attained :
    (memSegList.foldl (minMaxStep rangeStart rangeEnd) found).1 = found.1 ∨ ∃ pblk ∈ memSegList,
      pblk.startAddress = (memSegList.foldl (minMaxStep rangeStart rangeEnd) found).1 ∧
        pblk.startAddress ≥ rangeStart ∧ pblk.startAddress ≤ rangeEnd := by
  induction memSegList generalizing found with
  | nil => exact .inl rfl
  | cons first rest ih =>
      rw [List.foldl_cons]
      rcases ih (minMaxStep rangeStart rangeEnd found first) with kept | ⟨pblk, member, is⟩
      · rw [kept]
        unfold minMaxStep
        split
        · rename_i within
          dsimp only
          split
          · exact .inr ⟨first, List.mem_cons_self, rfl, within⟩
          · exact .inl rfl
        · exact .inl rfl
      · exact .inr ⟨pblk, List.mem_cons_of_mem _ member, is⟩

theorem min_address_of_segment (answer : getMinMaxForRange memSegList rangeStart rangeEnd = .ok found)
    (data : found.1 < found.2) :
    ∃ pblk ∈ memSegList, pblk.startAddress = found.1 ∧ pblk.startAddress ≥ rangeStart ∧ pblk.startAddress ≤ rangeEnd := by
  unfold getMinMaxForRange at answer
  split at answer
  · cases answer
  · have attained := min_max_attained memSegList rangeStart rangeEnd (0xffffffff, 0)
    obtain rfl := Except.ok.inj answer
    split at data
    · exact absurd data (UInt32.lt_irrefl 0)
    · rename_i some
      rw [if_neg some]
      rcases attained with top | found
      · rw [top] at data
        have below := (List.foldl (minMaxStep rangeStart rangeEnd) (0xffffffff, 0) memSegList).2.toNat_lt
        have above : (0xffffffff : UInt32).toNat < _ := UInt32.lt_iff_toNat_lt.mp data
        exact absurd below (Nat.not_lt.mpr above)
      · exact found

def sampleSegment (startAddress : UInt32) : CBootMemSegment := ⟨startAddress, 8, #v[1, 2, 3, 4, 5, 6, 7, 8]⟩

example : getMinMaxForRange [sampleSegment 16] 0 0x3fffffff = .ok (16, 24) := by decide

end Vscp.Boot
