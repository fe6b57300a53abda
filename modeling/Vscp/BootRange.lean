import Vscp.BootImage
import Mathlib.Order.Bounds.Basic

set_option autoImplicit false

namespace Vscp.Boot

open ByteMemory

def InRange (rangeStart rangeEnd : UInt32) (address : Nat) : Prop :=
  rangeStart.toNat ≤ address ∧ address ≤ rangeEnd.toNat

def Held (memSegList : List CBootMemSegment) (rangeStart rangeEnd : UInt32) : Set Nat :=
  {address | InRange rangeStart rangeEnd address ∧ segmentImage memSegList address ≠ none}

def Filled (memSegList : List CBootMemSegment) (size rangeStart rangeEnd : UInt32) : Prop :=
  ∀ fillbyte pmem, ∃ after, fillMemoryBuffer memSegList pmem size rangeStart rangeEnd 0 fillbyte = .ok after ∧
    ∀ i, (rangeStart.toNat + i ∈ Held memSegList rangeStart rangeEnd →
        i < size.toNat ∧ segmentImage memSegList (rangeStart.toNat + i) = some (after i)) ∧
      (rangeStart.toNat + i ∉ Held memSegList rangeStart rangeEnd →
        after i = if i < size.toNat then fillbyte else pmem i)

def Bounded (memSegList : List CBootMemSegment) (rangeStart rangeEnd : UInt32) : Prop :=
  (Held memSegList rangeStart rangeEnd).Nonempty → ∃ low high,
    getMinMaxForRange memSegList rangeStart rangeEnd = .ok (low, high) ∧
      IsLeast (Held memSegList rangeStart rangeEnd) low.toNat ∧
      IsGreatest (Held memSegList rangeStart rangeEnd) high.toNat

-- The test of fillMemoryBuffer: the address behind the block is compared, and as if the end were not in the range.
def Copied (rangeStart rangeEnd : UInt32) (pblk : CBootMemSegment) : Prop :=
  pblk.startAddress ≥ rangeStart ∧ pblk.stop < rangeEnd

instance (rangeStart rangeEnd : UInt32) : DecidablePred (Copied rangeStart rangeEnd) :=
  fun pblk => inferInstanceAs (Decidable (pblk.startAddress ≥ rangeStart ∧ pblk.stop < rangeEnd))

def copiedSegments (rangeStart rangeEnd : UInt32) (memSegList : List CBootMemSegment) : List CBootMemSegment :=
  memSegList.filter (Copied rangeStart rangeEnd)

-- The blocks that are copied fit the range and the buffer, and are all there is to see of the image in the range.
structure Covered (memSegList : List CBootMemSegment) (size rangeStart rangeEnd : UInt32) : Prop where
  buffer : size ≠ 0
  fits : ∀ pblk ∈ copiedSegments rangeStart rangeEnd memSegList, ∀ j < pblk.segSize.toNat,
    pblk.startAddress.toNat + j ≤ rangeEnd.toNat ∧ pblk.startAddress.toNat + j < rangeStart.toNat + size.toNat
  whole : ∀ address, InRange rangeStart rangeEnd address →
    segmentImage (copiedSegments rangeStart rangeEnd memSegList) address = segmentImage memSegList address

-- The highest address found is the one behind a block, so it is in the block only at the top of the address space, and
-- then as the end of another block.
structure AtTop (memSegList : List CBootMemSegment) (rangeStart rangeEnd : UInt32) : Prop where
  ordered : rangeStart < rangeEnd
  last : rangeEnd = 0xffffffff
  reached : ∃ pblk ∈ memSegList, pblk.startAddress ≥ rangeStart ∧
    pblk.startAddress.toNat + pblk.segSize.toNat = 2 ^ 32
  stopped : ∃ pblk ∈ memSegList, pblk.startAddress ≥ rangeStart ∧ pblk.stop = 0xffffffff
  started : ∀ pblk ∈ memSegList, pblk.startAddress ≥ rangeStart → ∃ other ∈ memSegList,
    other.segSize ≠ 0 ∧ other.startAddress ≥ rangeStart ∧ other.startAddress ≤ pblk.startAddress

theorem copied_segments_append (rangeStart rangeEnd : UInt32) (rest : List CBootMemSegment) (pblk : CBootMemSegment)
    (copied : Copied rangeStart rangeEnd pblk) :
    copiedSegments rangeStart rangeEnd (rest ++ [pblk]) = copiedSegments rangeStart rangeEnd rest ++ [pblk] := by
  have own : [pblk].filter (fun other => Copied rangeStart rangeEnd other) = [pblk] :=
    List.filter_cons_of_pos (decide_eq_true copied)
  rw [copiedSegments, copiedSegments, List.filter_append, own]

theorem skipped_segments_append (rangeStart rangeEnd : UInt32) (rest : List CBootMemSegment) (pblk : CBootMemSegment)
    (skipped : ¬ Copied rangeStart rangeEnd pblk) :
    copiedSegments rangeStart rangeEnd (rest ++ [pblk]) = copiedSegments rangeStart rangeEnd rest := by
  have own : [pblk].filter (fun other => Copied rangeStart rangeEnd other) = [] :=
    List.filter_cons_of_neg fun passes => skipped (of_decide_eq_true passes)
  rw [copiedSegments, copiedSegments, List.filter_append, own, List.append_nil]

theorem mem_copied_segments (rangeStart rangeEnd : UInt32) (memSegList : List CBootMemSegment) (pblk : CBootMemSegment) :
    pblk ∈ copiedSegments rangeStart rangeEnd memSegList ↔ pblk ∈ memSegList ∧ Copied rangeStart rangeEnd pblk := by
  rw [copiedSegments, List.mem_filter, decide_eq_true_iff]

variable (memSegList : List CBootMemSegment) (size rangeStart rangeEnd : UInt32)

theorem fill_is_image (rangeStart rangeEnd : UInt32) (pmem : Memory) (i : Nat)
    (inside : ∀ pblk ∈ copiedSegments rangeStart rangeEnd memSegList, ∀ j < pblk.segSize.toNat,
      pblk.startAddress.toNat + j < 2 ^ 32) :
    memSegList.foldl (fillStep rangeStart rangeEnd 0) pmem i =
      (segmentImage (copiedSegments rangeStart rangeEnd memSegList) (rangeStart.toNat + i)).getD (pmem i) := by
  induction memSegList using List.reverseRecOn with
  | nil => rfl
  | append_singleton rest pblk ih =>
      rw [List.foldl_append, List.foldl_cons, List.foldl_nil]
      by_cases copied : Copied rangeStart rangeEnd pblk
      · rw [copied_segments_append rangeStart rangeEnd rest pblk copied] at inside ⊢
        have own := inside pblk List.mem_concat_self
        have before := ih fun other member => inside other (List.mem_append_left _ member)
        by_cases hit : ∃ j < pblk.segSize.toNat, pblk.startAddress.toNat + j = rangeStart.toNat + i
        · obtain ⟨j, few, same⟩ := hit
          have below := own j few
          rw [fill_step_hit rangeStart rangeEnd _ pblk i j copied.1 copied.2 few same, ← same,
            ← Nat.mod_eq_of_lt below, image_in_segment _ pblk j few]
          rfl
        · have missed : ∀ j < pblk.segSize.toNat,
              (pblk.startAddress.toNat + j) % 2 ^ 32 ≠ rangeStart.toNat + i := by
            intro j few same
            rw [Nat.mod_eq_of_lt (own j few)] at same
            exact hit ⟨j, few, same⟩
          rw [image_off_segment _ pblk _ missed, ← before]
          apply fill_step_miss
          intro after _ j few same
          have place := fill_place rangeStart pblk after
          exact hit ⟨j, few, by omega⟩
      · rw [skipped_segments_append rangeStart rangeEnd rest pblk copied] at inside ⊢
        rw [← ih inside]
        apply fill_step_miss
        intro after ahead
        exact absurd ⟨after, ahead⟩ copied

theorem fill_overwrites (rangeStart rangeEnd : UInt32) (pmem other : Memory)
    (pblk : CBootMemSegment) (member : pblk ∈ copiedSegments rangeStart rangeEnd memSegList) (j : Nat)
    (few : j < pblk.segSize.toNat) :
    let i := pblk.startAddress.toNat - rangeStart.toNat + j
    memSegList.foldl (fillStep rangeStart rangeEnd 0) pmem i =
      memSegList.foldl (fillStep rangeStart rangeEnd 0) other i := by
  intro i
  have steps (first : CBootMemSegment) (left right : Memory) (same : left i = right i) :
      fillStep rangeStart rangeEnd 0 left first i = fillStep rangeStart rangeEnd 0 right first i := by
    unfold fillStep
    split
    · rw [writeBytes, writeBytes, same]
    · exact same
  induction memSegList using List.reverseRecOn with
  | nil => cases member
  | append_singleton rest last ih =>
      rw [List.foldl_append, List.foldl_append, List.foldl_cons, List.foldl_cons, List.foldl_nil, List.foldl_nil]
      by_cases now : pblk = last
      · subst now
        obtain ⟨after, ahead⟩ := ((mem_copied_segments rangeStart rangeEnd _ pblk).mp member).2
        have start : rangeStart.toNat ≤ pblk.startAddress.toNat := UInt32.le_iff_toNat_le.mp after
        have place : pblk.startAddress.toNat + j = rangeStart.toNat + i := by
          change _ = _ + (pblk.startAddress.toNat - rangeStart.toNat + j)
          omega
        rw [fill_step_hit rangeStart rangeEnd _ pblk i j after ahead few place,
          fill_step_hit rangeStart rangeEnd _ pblk i j after ahead few place]
      · obtain ⟨held, copied⟩ := (mem_copied_segments rangeStart rangeEnd _ pblk).mp member
        have earlier : pblk ∈ rest := by
          rcases List.mem_append.mp held with earlier | is
          · exact earlier
          · exact absurd (List.mem_singleton.mp is) now
        exact steps last _ _ (ih ((mem_copied_segments rangeStart rangeEnd _ pblk).mpr ⟨earlier, copied⟩))

theorem fill_result (pmem : Memory) (size rangeStart rangeEnd : UInt32)
    (fillbyte : UInt8) (some : size ≠ 0) :
    fillMemoryBuffer memSegList pmem size rangeStart rangeEnd 0 fillbyte =
      .ok (memSegList.foldl (fillStep rangeStart rangeEnd 0) fun i => if i < size.toNat then fillbyte else pmem i) :=
  if_neg some

theorem copied_is_image (rangeStart rangeEnd : UInt32) (address : Nat)
    (defined : segmentImage (copiedSegments rangeStart rangeEnd memSegList) address ≠ none) :
    segmentImage memSegList address ≠ none := by
  obtain ⟨byte, defined⟩ := Option.ne_none_iff_exists'.mp defined
  obtain ⟨pblk, member, _, j, few, same⟩ := image_value _ address byte defined
  rw [← same]
  exact image_of_segment memSegList pblk ((mem_copied_segments rangeStart rangeEnd memSegList pblk).mp member).1 j few

theorem filled_of_covered (covered : Covered memSegList size rangeStart rangeEnd) : Filled memSegList size rangeStart rangeEnd := by
  intro fillbyte pmem
  have endBelow := rangeEnd.toNat_lt
  refine ⟨_, fill_result memSegList pmem size rangeStart rangeEnd fillbyte covered.buffer, fun i => ?_⟩
  have value := fill_is_image memSegList rangeStart rangeEnd
    (fun i => if i < size.toNat then fillbyte else pmem i) i fun pblk member j few => by
      have fits := covered.fits pblk member j few
      omega
  -- Where the copied blocks have a byte, the place is one of the range and of the buffer.
  have place (defined : segmentImage (copiedSegments rangeStart rangeEnd memSegList) (rangeStart.toNat + i) ≠ none) :
      InRange rangeStart rangeEnd (rangeStart.toNat + i) ∧ i < size.toNat := by
    obtain ⟨byte, defined⟩ := Option.ne_none_iff_exists'.mp defined
    obtain ⟨pblk, member, _, j, few, same⟩ := image_value _ _ byte defined
    have fits := covered.fits pblk member j few
    rw [Nat.mod_eq_of_lt (by omega)] at same
    exact ⟨⟨by omega, by omega⟩, by omega⟩
  constructor
  · rintro ⟨within, defined⟩
    have same := covered.whole _ within
    rw [← same] at defined
    refine ⟨(place defined).2, ?_⟩
    obtain ⟨byte, is⟩ := Option.ne_none_iff_exists'.mp defined
    rw [value, is, ← same, is]
    rfl
  · intro free
    have none : segmentImage (copiedSegments rangeStart rangeEnd memSegList) (rangeStart.toNat + i) = none := by
      by_contra defined
      exact free ⟨(place defined).1, copied_is_image memSegList rangeStart rangeEnd _ defined⟩
    rw [value, none]
    rfl

theorem filled_size (filled : Filled memSegList size rangeStart rangeEnd) : size ≠ 0 := by
  intro zero
  obtain ⟨after, refused, _⟩ := filled 0 fun _ => 0
  rw [fillMemoryBuffer, if_pos zero] at refused
  cases refused

theorem filled_over (filled : Filled memSegList size rangeStart rangeEnd) (byte : UInt8) (i : Nat) :
    let after := memSegList.foldl (fillStep rangeStart rangeEnd 0) (fun _ => byte)
    (rangeStart.toNat + i ∈ Held memSegList rangeStart rangeEnd →
        i < size.toNat ∧ segmentImage memSegList (rangeStart.toNat + i) = some (after i)) ∧
      (rangeStart.toNat + i ∉ Held memSegList rangeStart rangeEnd → after i = byte) := by
  obtain ⟨after, is, spec⟩ := filled byte fun _ => byte
  rw [fill_result memSegList _ size rangeStart rangeEnd byte (filled_size memSegList size rangeStart rangeEnd filled)]
    at is
  simp only [ite_self] at is spec
  rw [Except.ok.inj is]
  exact spec i

theorem filled_fits (filled : Filled memSegList size rangeStart rangeEnd) (pblk : CBootMemSegment)
    (member : pblk ∈ copiedSegments rangeStart rangeEnd memSegList) (j : Nat) (few : j < pblk.segSize.toNat) :
    pblk.startAddress.toNat + j ≤ rangeEnd.toNat ∧ pblk.startAddress.toNat + j < rangeStart.toNat + size.toNat := by
  have after := ((mem_copied_segments rangeStart rangeEnd memSegList pblk).mp member).2.1
  have start : rangeStart.toNat ≤ pblk.startAddress.toNat := UInt32.le_iff_toNat_le.mp after
  have same := fill_overwrites memSegList rangeStart rangeEnd (fun _ => 0) (fun _ => 1) pblk member j few
  have zero := filled_over memSegList size rangeStart rangeEnd filled 0 (pblk.startAddress.toNat - rangeStart.toNat + j)
  have one := filled_over memSegList size rangeStart rangeEnd filled 1 (pblk.startAddress.toNat - rangeStart.toNat + j)
  have held : rangeStart.toNat + (pblk.startAddress.toNat - rangeStart.toNat + j) ∈
      Held memSegList rangeStart rangeEnd := by
    by_contra free
    exact absurd ((zero.2 free).symm.trans (same.trans (one.2 free))) (by decide)
  have inside := (zero.1 held).1
  have within := held.1.2
  omega

theorem covered_of_filled (filled : Filled memSegList size rangeStart rangeEnd) : Covered memSegList size rangeStart rangeEnd := by
  have fits := filled_fits memSegList size rangeStart rangeEnd filled
  refine ⟨filled_size memSegList size rangeStart rangeEnd filled, fits, fun address within => ?_⟩
  obtain ⟨i, rfl⟩ := Nat.exists_eq_add_of_le within.1
  have value (byte : UInt8) := fill_is_image memSegList rangeStart rangeEnd (fun _ => byte) i fun pblk member j few => by
    have below := (fits pblk member j few).1
    have endBelow := rangeEnd.toNat_lt
    omega
  by_cases held : rangeStart.toNat + i ∈ Held memSegList rangeStart rangeEnd
  · have zero := ((filled_over memSegList size rangeStart rangeEnd filled 0 i).1 held).2
    have one := ((filled_over memSegList size rangeStart rangeEnd filled 1 i).1 held).2
    rw [value] at zero one
    cases copied : segmentImage (copiedSegments rangeStart rangeEnd memSegList) (rangeStart.toNat + i) with
    | none =>
        rw [copied] at zero one
        exact absurd (Option.some.inj (zero.symm.trans one)) (by decide)
    | some byte =>
        rw [copied] at zero
        exact zero.symm
  · have undefined : segmentImage memSegList (rangeStart.toNat + i) = none := by
      by_contra defined
      exact held ⟨within, defined⟩
    rw [undefined]
    by_contra defined
    exact copied_is_image memSegList rangeStart rangeEnd _ defined undefined

theorem filled_iff :
    Filled memSegList size rangeStart rangeEnd ↔ Covered memSegList size rangeStart rangeEnd :=
  ⟨covered_of_filled memSegList size rangeStart rangeEnd, filled_of_covered memSegList size rangeStart rangeEnd⟩

theorem max_attained (rangeStart rangeEnd : UInt32) (found : UInt32 × UInt32) :
    (memSegList.foldl (minMaxStep rangeStart rangeEnd) found).2 = found.2 ∨ ∃ pblk ∈ memSegList,
      pblk.stop = (memSegList.foldl (minMaxStep rangeStart rangeEnd) found).2 ∧
        pblk.startAddress ≥ rangeStart ∧ pblk.startAddress ≤ rangeEnd := by
  induction memSegList generalizing found with
  | nil => exact .inl rfl
  | cons first rest ih =>
      rw [List.foldl_cons]
      rcases ih (minMaxStep rangeStart rangeEnd found first) with kept | ⟨pblk, member, is⟩
      · rw [kept]
        unfold minMaxStep
        split
        · rename_i within
          dsimp only
          split
          · exact .inr ⟨first, List.mem_cons_self, rfl, within⟩
          · exact .inl rfl
        · exact .inl rfl
      · exact .inr ⟨pblk, List.mem_cons_of_mem _ member, is⟩

theorem held_in_block (covered : Covered memSegList size rangeStart rangeEnd) (address : Nat)
    (held : address ∈ Held memSegList rangeStart rangeEnd) :
    ∃ pblk ∈ copiedSegments rangeStart rangeEnd memSegList, ∃ j < pblk.segSize.toNat,
      pblk.startAddress.toNat + j = address := by
  have defined := held.2
  rw [← covered.whole address held.1] at defined
  obtain ⟨byte, defined⟩ := Option.ne_none_iff_exists'.mp defined
  obtain ⟨pblk, member, _, j, few, same⟩ := image_value _ address byte defined
  have fits := covered.fits pblk member j few
  have endBelow := rangeEnd.toNat_lt
  rw [Nat.mod_eq_of_lt (by omega)] at same
  exact ⟨pblk, member, j, few, same⟩

theorem block_held (rangeStart rangeEnd : UInt32) (pblk : CBootMemSegment)
    (member : pblk ∈ memSegList) (after : pblk.startAddress ≥ rangeStart) (j : Nat) (few : j < pblk.segSize.toNat)
    (within : pblk.startAddress.toNat + j ≤ rangeEnd.toNat) :
    pblk.startAddress.toNat + j ∈ Held memSegList rangeStart rangeEnd := by
  have start : rangeStart.toNat ≤ pblk.startAddress.toNat := UInt32.le_iff_toNat_le.mp after
  have endBelow := rangeEnd.toNat_lt
  have defined := image_of_segment memSegList pblk member j few
  rw [Nat.mod_eq_of_lt (by omega)] at defined
  exact ⟨⟨by omega, within⟩, defined⟩

theorem at_top_of_bounded (covered : Covered memSegList size rangeStart rangeEnd) (low high : UInt32)
    (answer : getMinMaxForRange memSegList rangeStart rangeEnd = .ok (low, high))
    (least : IsLeast (Held memSegList rangeStart rangeEnd) low.toNat)
    (greatest : IsGreatest (Held memSegList rangeStart rangeEnd) high.toNat) :
    AtTop memSegList rangeStart rangeEnd := by
  have found := min_max_of_segment memSegList rangeStart rangeEnd (low, high) answer
  have endBelow := rangeEnd.toNat_lt
  have ordered : rangeStart < rangeEnd := by
    unfold getMinMaxForRange at answer
    split at answer
    · cases answer
    · exact UInt32.not_le.mp ‹_›
  obtain ⟨top, topMember, j, few, is⟩ := held_in_block memSegList size rangeStart rangeEnd covered _ greatest.1
  obtain ⟨bottom, bottomMember, k, some, lowest⟩ := held_in_block memSegList size rangeStart rangeEnd covered _ least.1
  have topFits := covered.fits top topMember
  have bottomFits := covered.fits bottom bottomMember
  obtain ⟨topMember, topAfter, _⟩ := (mem_copied_segments rangeStart rangeEnd memSegList top).mp topMember
  obtain ⟨bottomMember, bottomAfter, _⟩ := (mem_copied_segments rangeStart rangeEnd memSegList bottom).mp bottomMember
  -- The greatest address is the last one of its block, and the address behind it is not found.
  have lastFits := topFits (top.segSize.toNat - 1) (by omega)
  have last := greatest.2 (block_held memSegList rangeStart rangeEnd top topMember topAfter (top.segSize.toNat - 1)
    (by omega) lastFits.1)
  have ahead : top.startAddress ≤ rangeEnd := UInt32.le_iff_toNat_le.mpr (by omega)
  have stopBelow : top.stop.toNat ≤ high.toNat :=
    UInt32.le_iff_toNat_le.mp (found top topMember topAfter ahead).2
  have reached : top.startAddress.toNat + top.segSize.toNat = 2 ^ 32 := by
    rw [stop_value] at stopBelow
    omega
  have highest : high.toNat = 2 ^ 32 - 1 := by omega
  have lastEnd : rangeEnd = 0xffffffff := UInt32.toNat_inj.mp (by change rangeEnd.toNat = 2 ^ 32 - 1; omega)
  refine ⟨ordered, lastEnd, ⟨top, topMember, topAfter, reached⟩, ?_, ?_⟩
  · have attained := max_attained memSegList rangeStart rangeEnd (0xffffffff, 0)
    have raw : (memSegList.foldl (minMaxStep rangeStart rangeEnd) (0xffffffff, 0)).2 = high := by
      unfold getMinMaxForRange at answer
      rw [if_neg (UInt32.not_le.mpr ordered)] at answer
      have same := Except.ok.inj answer
      split at same
      · rw [← (Prod.mk.inj same).2] at highest
        exact absurd highest (by decide)
      · rw [same]
    have value : high = 0xffffffff := UInt32.toNat_inj.mp highest
    rw [raw, value] at attained
    rcases attained with none | ⟨pblk, member, stop, after, _⟩
    · exact absurd none (by decide)
    · exact ⟨pblk, member, after, stop⟩
  · intro pblk member after
    have within : pblk.startAddress ≤ rangeEnd := by
      rw [lastEnd]
      exact UInt32.le_iff_toNat_le.mpr (Nat.le_of_lt_succ pblk.startAddress.toNat_lt)
    have above : low.toNat ≤ pblk.startAddress.toNat :=
      UInt32.le_iff_toNat_le.mp (found pblk member after within).1
    refine ⟨bottom, bottomMember, fun zero => ?_, bottomAfter, UInt32.le_iff_toNat_le.mpr (by omega)⟩
    rw [zero] at some
    exact absurd some (Nat.not_lt_zero k)

theorem bounded_of_at_top (covered : Covered memSegList size rangeStart rangeEnd) (top : AtTop memSegList rangeStart rangeEnd) :
    Bounded memSegList rangeStart rangeEnd := by
  intro ⟨address, held⟩
  have lastValue : rangeEnd.toNat = 2 ^ 32 - 1 := by
    rw [top.last]
    rfl
  have ahead (pblk : CBootMemSegment) : pblk.startAddress ≤ rangeEnd := by
    rw [top.last]
    exact UInt32.le_iff_toNat_le.mpr (Nat.le_of_lt_succ pblk.startAddress.toNat_lt)
  obtain ⟨pblk, member, after, stop⟩ := top.stopped
  have raw := (min_max_bounds memSegList rangeStart rangeEnd (0xffffffff, 0)).2.2
  have lowest := min_max_attained memSegList rangeStart rangeEnd (0xffffffff, 0)
  have high := (raw pblk member after (ahead pblk)).2
  generalize found : memSegList.foldl (minMaxStep rangeStart rangeEnd) (0xffffffff, 0) = range at raw lowest high
  rw [stop] at high
  have highest : range.2.toNat = 2 ^ 32 - 1 := by
    have reach : 2 ^ 32 - 1 ≤ range.2.toNat := UInt32.le_iff_toNat_le.mp high
    have below := range.2.toNat_lt
    omega
  have some : range ≠ (0xffffffff, 0) := by
    intro none
    rw [none] at highest
    exact absurd highest (by decide)
  have answer : getMinMaxForRange memSegList rangeStart rangeEnd = .ok (range.1, range.2) := by
    rw [getMinMaxForRange, if_neg (UInt32.not_le.mpr top.ordered), found]
    exact congrArg Except.ok (if_neg some)
  refine ⟨range.1, range.2, answer, ?_, ?_⟩
  · have below : ∀ other ∈ Held memSegList rangeStart rangeEnd, range.1.toNat ≤ other := by
      intro other otherHeld
      obtain ⟨block, blockMember, j, few, is⟩ := held_in_block memSegList size rangeStart rangeEnd covered other otherHeld
      obtain ⟨blockMember, blockAfter, _⟩ := (mem_copied_segments rangeStart rangeEnd memSegList block).mp blockMember
      have low : range.1.toNat ≤ block.startAddress.toNat :=
        UInt32.le_iff_toNat_le.mp (raw block blockMember blockAfter (ahead block)).1
      omega
    refine ⟨?_, below⟩
    -- A block with data starts where the lowest one that was found does.
    have started (first : CBootMemSegment) (member : first ∈ memSegList) (after : first.startAddress ≥ rangeStart)
        (below' : first.startAddress.toNat ≤ range.1.toNat) :
        range.1.toNat ∈ Held memSegList rangeStart rangeEnd := by
      obtain ⟨other, otherMember, data, otherAfter, before⟩ := top.started first member after
      have few : 0 < other.segSize.toNat := Nat.pos_of_ne_zero fun zero => data (UInt8.toNat_inj.mp zero)
      have within : other.startAddress.toNat ≤ rangeEnd.toNat := UInt32.le_iff_toNat_le.mp (ahead other)
      have otherHeld := block_held memSegList rangeStart rangeEnd other otherMember otherAfter 0 few within
      have earlier : other.startAddress.toNat ≤ first.startAddress.toNat := UInt32.le_iff_toNat_le.mp before
      have low := below _ otherHeld
      have same : range.1.toNat = other.startAddress.toNat + 0 := by omega
      rw [same]
      exact otherHeld
    rcases lowest with initial | ⟨first, firstMember, is, firstAfter, _⟩
    · have value : range.1.toNat = 2 ^ 32 - 1 := by
        rw [initial]
        rfl
      have firstBelow := pblk.startAddress.toNat_lt
      exact started pblk member after (by omega)
    · exact started first firstMember firstAfter (by rw [is])
  · obtain ⟨block, blockMember, blockAfter, reached⟩ := top.reached
    have startBelow := block.startAddress.toNat_lt
    have last := block_held memSegList rangeStart rangeEnd block blockMember blockAfter (block.segSize.toNat - 1)
      (by omega) (by omega)
    have same : range.2.toNat = block.startAddress.toNat + (block.segSize.toNat - 1) := by omega
    rw [same]
    refine ⟨last, fun other otherHeld => ?_⟩
    have within := otherHeld.1.2
    omega

-- The fill does what it is to do exactly where the blocks it copies cover the range; the two addresses are then right
-- as well exactly at the top of the address space.
theorem boot_range_iff (memSegList : List CBootMemSegment) (size rangeStart rangeEnd : UInt32) :
    (Filled memSegList size rangeStart rangeEnd ↔ Covered memSegList size rangeStart rangeEnd) ∧
      (Filled memSegList size rangeStart rangeEnd ∧ Bounded memSegList rangeStart rangeEnd ↔
        Covered memSegList size rangeStart rangeEnd ∧
          ((Held memSegList rangeStart rangeEnd).Nonempty → AtTop memSegList rangeStart rangeEnd)) := by
  have fill := filled_iff memSegList size rangeStart rangeEnd
  refine ⟨fill, ?_⟩
  constructor
  · rintro ⟨filled, bounded⟩
    have covered := fill.mp filled
    refine ⟨covered, fun some => ?_⟩
    obtain ⟨low, high, answer, least, greatest⟩ := bounded some
    exact at_top_of_bounded memSegList size rangeStart rangeEnd covered low high answer least greatest
  · rintro ⟨covered, top⟩
    refine ⟨fill.mpr covered, fun some => ?_⟩
    exact bounded_of_at_top memSegList size rangeStart rangeEnd covered (top some) some

-- The last byte of the block is the last of the range: the block is left out, and the address behind it is returned.
theorem boot_range_loses_block :
    let memSegList := [sampleSegment 0x108]
    getMinMaxForRange memSegList 0x100 0x10f = .ok (0x108, 0x110) ∧
      (∃ after, fillMemoryBuffer memSegList (fun _ => 0) 16 0x100 0x10f 0 0xff = .ok after ∧ after 8 = 0xff) ∧
      segmentImage memSegList 0x108 = some 1 ∧
      ¬ Filled memSegList 16 0x100 0x10f ∧ ¬ Bounded memSegList 0x100 0x10f := by
  intro memSegList
  have held : 0x108 ∈ Held memSegList 0x100 0x10f := ⟨⟨by decide, by decide⟩, by decide⟩
  refine ⟨by decide, ⟨_, rfl, by decide⟩, by decide, ?_, ?_⟩
  · intro filled
    obtain ⟨after, is, spec⟩ := filled 0xff fun _ => 0
    rw [← Except.ok.inj is] at spec
    have written := ((spec 8).1 held).2
    exact absurd written (by decide)
  · intro bounded
    obtain ⟨low, high, answer, _, greatest⟩ := bounded ⟨_, held⟩
    have known : getMinMaxForRange memSegList 0x100 0x10f = .ok (0x108, 0x110) := by decide
    have same := (Prod.mk.inj (Except.ok.inj (known.symm.trans answer))).2
    have within := greatest.1.1.2
    rw [← same] at within
    exact absurd within (by decide)

end Vscp.Boot
