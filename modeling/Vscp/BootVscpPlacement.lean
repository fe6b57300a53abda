import Vscp.BootVscpAnswers

set_option autoImplicit false

namespace Vscp.BootVscp

open Boot ByteMemory

def sentBlock (write : BlockWrite) : Bytes := write.chunks.flatMap (·.data)

-- Every byte the image has in a memory type goes over in the block announced for its address,
-- the other bytes of the type are the fill, and what is read lies in the buffer of the range.
structure LoadPlaced (device : Device) (tries : List Try) : Prop where
  sent : ∀ range ∈ memoryRange, ∀ address, range.start.toNat ≤ address → address ≤ range.stop.toNat →
    segmentImage device.memSegList address ≠ none → ∃ attempt ∈ tries, attempt.rv = vscpErrorSuccess ∧
      attempt.memType = range.type ∧ attempt.block.toNat = (address - range.start.toNat) / device.blockSize.toNat
  right : ∀ range ∈ memoryRange, ∀ attempt ∈ tries, attempt.rv = vscpErrorSuccess → attempt.memType = range.type →
    ∃ write, attempt.written = some write ∧ (sentBlock write).length = device.blockSize.toNat ∧
      ∀ j < device.blockSize.toNat,
        range.start.toNat + (attempt.block.toNat * device.blockSize.toNat + j) ≤ range.stop.toNat →
        (sentBlock write).getD j 0 = (segmentImage device.memSegList
          (range.start.toNat + (attempt.block.toNat * device.blockSize.toNat + j))).getD 0xff
  read : ∀ range ∈ memoryRange, ∀ found, getMinMaxForRange device.memSegList range.start range.stop = .ok found →
    ∀ attempt ∈ tries, attempt.memType = range.type → ∀ write ∈ attempt.written,
      (∀ chunk ∈ write.chunks, chunk.offset + chunk.data.length ≤ (device.blockSize * nBlocks device found).toNat) ∧
        (attempt.block * device.blockSize).toNat + intCount device.blockSize.toNat ≤
          (device.blockSize * nBlocks device found).toNat

structure RangeFits (device : Device) (range : MemoryRange) (found : UInt32 × UInt32) : Prop where
  aligned : found.1 < found.2 → device.blockSize.toNat % device.chunkSize.toNat = 0 ∧
    (nBlocks device found).toNat * device.blockSize.toNat < 2 ^ 32 ∧ found.1 < device.blockSize
  reached : ∀ address, range.start.toNat ≤ address → address ≤ range.stop.toNat →
    segmentImage device.memSegList address ≠ none → found.1 < found.2 ∧
      address < range.start.toNat + (nBlocks device found).toNat * device.blockSize.toNat
  inside : Inside range.start range.stop device.memSegList

theorem range_of_type (range : MemoryRange) (known : range ∈ memoryRange) (other : MemoryRange)
    (member : other ∈ memoryRange) (same : range.type = other.type) : range = other := by
  have types : ∀ range ∈ memoryRange, ∀ other ∈ memoryRange, range.type = other.type → range = other := by decide
  exact types range known other member same

theorem range_bounds (range : MemoryRange) (known : range ∈ memoryRange) : range.start < range.stop ∧
    (2 ^ 8 ≤ range.start.toNat ∨ range.stop.toNat + 2 ^ 8 ≤ 2 ^ 32) := by
  have bounds : ∀ range ∈ memoryRange, range.start < range.stop ∧
      (2 ^ 8 ≤ range.start.toNat ∨ range.stop.toNat + 2 ^ 8 ≤ 2 ^ 32) := by decide
  exact bounds range known

theorem range_found (memSegList : List CBootMemSegment) (range : MemoryRange) (known : range ∈ memoryRange) :
    ∃ found, getMinMaxForRange memSegList range.start range.stop = .ok found := by
  rw [getMinMaxForRange, if_neg (UInt32.not_le.mpr (range_bounds range known).1)]
  exact ⟨_, rfl⟩

theorem block_size_large (device : Device) : 8 ≤ device.blockSize.toNat := by
  have fits := device.fits
  have level := chunk_size_cases device
  omega

theorem n_blocks_bounds (device : Device) (found : UInt32 × UInt32) (data : found.1 < found.2) :
    found.2.toNat - found.1.toNat ≤ (nBlocks device found).toNat * device.blockSize.toNat ∧
      (nBlocks device found).toNat * device.blockSize.toNat < found.2.toNat - found.1.toNat + device.blockSize.toNat := by
  have above := found.2.toNat_lt
  have order : found.1.toNat < found.2.toNat := UInt32.lt_iff_toNat_lt.mp data
  have size := block_size_large device
  have span : (found.2 - found.1).toNat = found.2.toNat - found.1.toNat :=
    UInt32.toNat_sub_of_le _ _ (UInt32.le_of_lt data)
  generalize found.2.toNat - found.1.toNat = count at span
  have countBelow : count < 2 ^ 32 := span ▸ (found.2 - found.1).toNat_lt
  have whole := Nat.div_add_mod count device.blockSize.toNat
  have part := Nat.mod_lt count (by omega : 0 < device.blockSize.toNat)
  have few : count / device.blockSize.toNat < 2 ^ 31 := by
    have less : count / device.blockSize.toNat ≤ count / 8 := Nat.div_le_div_left size (by decide)
    omega
  rw [Nat.mul_comm] at whole
  unfold nBlocks
  rw [UInt32.toNat_add, UInt32.toNat_div, span]
  split
  · change count ≤ ((_ + 1) % _) * _ ∧ ((_ + 1) % _) * _ < _
    rw [Nat.mod_eq_of_lt (by omega), Nat.succ_mul]
    rename_i rest
    have rest : count % device.blockSize.toNat ≠ 0 := fun none => rest <| by
      apply UInt32.toNat_inj.mp
      rw [UInt32.toNat_mod, span]
      exact none
    omega
  · change count ≤ ((_ + 0) % _) * _ ∧ ((_ + 0) % _) * _ < _
    rw [Nat.mod_eq_of_lt (by omega), Nat.add_zero]
    rename_i none
    have none : count % device.blockSize.toNat = 0 := by
      rw [← span, ← UInt32.toNat_mod, not_not.mp none]
      rfl
    omega

theorem offset_zero (device : Device) (found : UInt32 × UInt32) (first : found.1 < device.blockSize) :
    startBlock device found * device.blockSize = 0 := by
  apply UInt32.toNat_inj.mp
  have less : found.1.toNat < device.blockSize.toNat := UInt32.lt_iff_toNat_lt.mp first
  rw [UInt32.toNat_mul, startBlock, UInt32.toNat_div, Nat.div_eq_of_lt less, Nat.zero_mul]
  rfl

section Tries

variable (device : Device) (stale : List Arrival → VscpEventEx) (around : Memory)

theorem try_identity (memType : UInt8) (pbuf : Memory) (block : UInt32) (attempt : Try)
    (is : IsTry device stale memType pbuf block attempt) :
    attempt.memType = memType ∧ attempt.block = block ∧ ∀ write ∈ attempt.written, ∃ link,
      write.chunks = (writeChunks device pbuf (block * device.blockSize).toNat (nChunks device).toNat 0 link).1 := by
  obtain ⟨link, rfl⟩ := is
  unfold tryBlock
  dsimp only
  split
  · exact ⟨rfl, rfl, fun write none => by cases none⟩
  · split
    · refine ⟨rfl, rfl, fun write member => ?_⟩
      obtain rfl := Option.some.inj member
      exact ⟨_, rfl⟩
    · refine ⟨rfl, rfl, fun write member => ?_⟩
      obtain rfl := Option.some.inj member
      exact ⟨_, rfl⟩

variable (pbuf : Memory)

theorem sent_block_data (block : UInt32) (write : BlockWrite) (link : Link)
    (chunks : write.chunks =
      (writeChunks device pbuf (block * device.blockSize).toNat (nChunks device).toNat 0 link).1) :
    sentBlock write =
      bytesAt pbuf (block * device.blockSize).toNat (write.chunks.length * device.chunkSize.toNat) := by
  rw [sentBlock, chunks]
  exact write_chunks_data device pbuf _ link

variable (first : Nat)

theorem chunk_place (link : Link) (chunk : Chunk)
    (member : chunk ∈ (writeChunks device pbuf first (nChunks device).toNat 0 link).1) :
    ∃ i < (nChunks device).toNat, chunk.offset + chunk.data.length = first + (i + 1) * device.chunkSize.toNat := by
  obtain ⟨few, pieces⟩ := write_chunks_pieces device pbuf first (nChunks device).toNat 0 link
  have inside : (chunk.offset, chunk.data) ∈ (writeChunks device pbuf first (nChunks device).toNat 0 link).1.map
      fun piece => (piece.offset, piece.data) := List.mem_map.mpr ⟨chunk, member, rfl⟩
  rw [pieces] at inside
  obtain ⟨i, below, is⟩ := List.mem_map.mp inside
  have below : i < (nChunks device).toNat := Nat.lt_of_lt_of_le (List.mem_range.mp below) few
  rw [chunk_of_value device pbuf first i below] at is
  refine ⟨i, below, ?_⟩
  obtain ⟨offset, data⟩ := Prod.mk.inj is
  rw [← offset, ← data, bytes_at_length, Nat.succ_mul, Nat.add_assoc]

theorem chunk_at (link : Link) (i : Nat)
    (below : i < (writeChunks device pbuf first (nChunks device).toNat 0 link).1.length) :
    ∃ chunk ∈ (writeChunks device pbuf first (nChunks device).toNat 0 link).1,
      chunk.offset + chunk.data.length = first + (i + 1) * device.chunkSize.toNat := by
  obtain ⟨few, pieces⟩ := write_chunks_pieces device pbuf first (nChunks device).toNat 0 link
  have inside := List.mem_map_of_mem (f := fun i => chunkOf device pbuf first (0 + UInt32.ofNat i))
    (List.mem_range.mpr below)
  rw [← pieces, chunk_of_value device pbuf first i (Nat.lt_of_lt_of_le below few)] at inside
  obtain ⟨chunk, member, is⟩ := List.mem_map.mp inside
  obtain ⟨offset, data⟩ := Prod.mk.inj is
  refine ⟨chunk, member, ?_⟩
  rw [offset, data, bytes_at_length, Nat.succ_mul, Nat.add_assoc]

theorem loaded_buffer (range : MemoryRange) (found : UInt32 × UInt32) (pbuf : Memory)
    (loaded : Loaded device around range found pbuf) :
    pbuf = device.memSegList.foldl
      (fillStep range.start range.stop (startBlock device found * device.blockSize)) fun i =>
        if i < (device.blockSize * nBlocks device found).toNat then 0xff else around i := by
  have buffer := loaded.buffer
  unfold rangeBuffer fillMemoryBuffer at buffer
  split at buffer
  · cases buffer
  · exact (Except.ok.inj buffer).symm

variable (found : UInt32 × UInt32)

theorem buffer_size (fits : (nBlocks device found).toNat * device.blockSize.toNat < 2 ^ 32) :
    (device.blockSize * nBlocks device found).toNat = (nBlocks device found).toNat * device.blockSize.toNat := by
  rw [UInt32.toNat_mul, Nat.mul_comm, Nat.mod_eq_of_lt fits]

theorem block_place (k : Nat) (below : k < (nBlocks device found).toNat)
    (fits : (nBlocks device found).toNat * device.blockSize.toNat < 2 ^ 32) :
    (UInt32.ofNat k).toNat = k ∧ (UInt32.ofNat k * device.blockSize).toNat = k * device.blockSize.toNat ∧
      k * device.blockSize.toNat + device.blockSize.toNat ≤ (nBlocks device found).toNat * device.blockSize.toNat := by
  have small := (nBlocks device found).toNat_lt
  have next := Nat.mul_le_mul_right device.blockSize.toNat below
  rw [Nat.succ_mul] at next
  have value : (UInt32.ofNat k).toNat = k := by
    rw [UInt32.toNat_ofNat', Nat.mod_eq_of_lt (by omega)]
  refine ⟨value, ?_, next⟩
  rw [UInt32.toNat_mul, value, Nat.mod_eq_of_lt (by omega)]

theorem attempt_of_range (link : Link) (range : MemoryRange) (known : range ∈ memoryRange) (attempt : Try)
    (member : attempt ∈ (deviceLoad device stale around link).tries) (ofType : attempt.memType = range.type) :
    ∃ found pbuf, Loaded device around range found pbuf ∧ ∃ k < (nBlocks device found).toNat,
      IsTry device stale range.type pbuf (UInt32.ofNat k) attempt := by
  obtain ⟨other, inside, found, pbuf, loaded, k, below, is⟩ :=
    (range_loop_tries device stale around memoryRange vscpErrorSuccess link).1 attempt member
  have type := (try_identity device stale _ _ _ _ is).1
  obtain rfl := range_of_type range known other inside (ofType.symm.trans type)
  exact ⟨found, pbuf, loaded, k, below, is⟩

end Tries

theorem int_count_le (n : Nat) (below : n < 2 ^ 32) : intCount n ≤ n := by
  unfold intCount intOf
  split
  all_goals omega

section Placement

variable (device : Device) (stale : List Arrival → VscpEventEx) (around : Memory) (link : Link)

theorem buffer_byte (range : MemoryRange) (known : range ∈ memoryRange) (found : UInt32 × UInt32) (pbuf : Memory)
    (loaded : Loaded device around range found pbuf) (fits : RangeFits device range found) (i : Nat)
    (below : i < (nBlocks device found).toNat * device.blockSize.toNat)
    (within : range.start.toNat + i ≤ range.stop.toNat) :
    pbuf i = (segmentImage device.memSegList (range.start.toNat + i)).getD 0xff := by
  obtain ⟨_, small, first⟩ := fits.aligned loaded.data
  rw [loaded_buffer device around range found pbuf loaded, offset_zero device found first]
  apply filled_byte
  · rw [buffer_size device found small, if_pos below]
  · exact fits.inside
  · exact within
  · exact (range_bounds range known).2

theorem placed_of_fits
    (success : (deviceLoad device stale around link).outcome = .returned vscpErrorSuccess)
    (fits : ∀ range ∈ memoryRange, ∀ found,
      getMinMaxForRange device.memSegList range.start range.stop = .ok found → RangeFits device range found)
    (whole : ∀ attempt ∈ (deviceLoad device stale around link).tries, attempt.rv = vscpErrorSuccess →
      ∀ write ∈ attempt.written, write.chunks.length = (nChunks device).toNat) :
    LoadPlaced device (deviceLoad device stale around link).tries := by
  constructor
  · intro range known address start stop defined
    obtain ⟨found, bounds⟩ := range_found device.memSegList range known
    have fit := fits range known found bounds
    obtain ⟨data, below⟩ := fit.reached address start stop defined
    obtain ⟨_, small, _⟩ := fit.aligned data
    obtain ⟨pbuf, loaded, all⟩ := (range_loop_tries device stale around memoryRange vscpErrorSuccess link).2
      success range known found bounds data
    have inside : (address - range.start.toNat) / device.blockSize.toNat < (nBlocks device found).toNat :=
      Nat.div_lt_of_lt_mul (by rw [Nat.mul_comm]; omega)
    obtain ⟨attempt, member, is, accepted⟩ := all _ inside
    obtain ⟨type, block, _⟩ := try_identity device stale _ _ _ _ is
    refine ⟨attempt, member, accepted, type, ?_⟩
    rw [block, (block_place device found _ inside small).1]
  · intro range known attempt member accepted type
    obtain ⟨found, pbuf, loaded, k, below, is⟩ := attempt_of_range device stale around link range known attempt member type
    have fit := fits range known found loaded.bounds
    obtain ⟨aligned, small, _⟩ := fit.aligned loaded.data
    obtain ⟨write, written, ⟨later, chunks⟩, _⟩ := (accepted_try device stale _ _ _ _ is accepted).written
    obtain ⟨value, place, room⟩ := block_place device found k below small
    have data := sent_block_data device pbuf _ write later chunks
    rw [whole attempt member accepted write written, n_chunks_whole device aligned, place] at data
    obtain ⟨_, block, _⟩ := try_identity device stale _ _ _ _ is
    rw [block, value]
    refine ⟨write, written, by rw [data, bytes_at_length], fun j few within => ?_⟩
    rw [data, ← buffer_byte device around range known found pbuf loaded fit _ (by omega) within,
      List.getD_eq_getElem?_getD, bytes_at_get _ _ _ _ few]
    rfl
  · intro range known found bounds attempt member type write written
    obtain ⟨own, pbuf, loaded, k, below, is⟩ := attempt_of_range device stale around link range known attempt member type
    obtain rfl : found = own := Except.ok.inj (bounds.symm.trans loaded.bounds)
    obtain ⟨aligned, small, _⟩ := (fits range known found bounds).aligned loaded.data
    obtain ⟨value, place, room⟩ := block_place device found k below small
    obtain ⟨_, block, chunks⟩ := try_identity device stale _ _ _ _ is
    obtain ⟨later, chunks⟩ := chunks write written
    rw [buffer_size device found small, block, place]
    constructor
    · intro chunk inside
      rw [chunks, place] at inside
      obtain ⟨i, few, stop⟩ := chunk_place device pbuf _ later chunk inside
      have ends : (i + 1) * device.chunkSize.toNat ≤ (nChunks device).toNat * device.chunkSize.toNat :=
        Nat.mul_le_mul_right _ few
      rw [n_chunks_whole device aligned] at ends
      omega
    · have counted := int_count_le device.blockSize.toNat device.blockSize.toNat_lt
      omega

theorem whole_of_length (pbuf : Memory) (block : UInt32) (write : BlockWrite) (later : Link)
    (chunks : write.chunks =
      (writeChunks device pbuf (block * device.blockSize).toNat (nChunks device).toNat 0 later).1)
    (length : (sentBlock write).length = device.blockSize.toNat) :
    device.blockSize.toNat % device.chunkSize.toNat = 0 ∧ write.chunks.length = (nChunks device).toNat := by
  rw [sent_block_data device pbuf block write later chunks, bytes_at_length] at length
  have aligned : device.blockSize.toNat % device.chunkSize.toNat = 0 := by
    rw [← length, Nat.mul_mod_left]
  refine ⟨aligned, ?_⟩
  rw [← n_chunks_whole device aligned] at length
  apply Nat.eq_of_mul_eq_mul_right _ length
  have level := chunk_size_cases device
  omega

theorem whole_of_placed (placed : LoadPlaced device (deviceLoad device stale around link).tries)
    (attempt : Try) (member : attempt ∈ (deviceLoad device stale around link).tries)
    (accepted : attempt.rv = vscpErrorSuccess) :
    device.blockSize.toNat % device.chunkSize.toNat = 0 ∧
      ∀ write ∈ attempt.written, write.chunks.length = (nChunks device).toNat := by
  obtain ⟨range, known, found, pbuf, loaded, k, below, is⟩ :=
    (range_loop_tries device stale around memoryRange vscpErrorSuccess link).1 attempt member
  obtain ⟨type, block, chunks⟩ := try_identity device stale _ _ _ _ is
  obtain ⟨write, written, length, _⟩ := placed.right range known attempt member accepted type
  obtain ⟨later, chunks⟩ := chunks write written
  obtain ⟨aligned, whole⟩ := whole_of_length device pbuf _ write later chunks length
  refine ⟨aligned, fun other same => ?_⟩
  obtain rfl : write = other := Option.some.inj (written.symm.trans same)
  exact whole

theorem room_of_placed (success : (deviceLoad device stale around link).outcome = .returned vscpErrorSuccess)
    (placed : LoadPlaced device (deviceLoad device stale around link).tries)
    (range : MemoryRange) (known : range ∈ memoryRange) (found : UInt32 × UInt32)
    (bounds : getMinMaxForRange device.memSegList range.start range.stop = .ok found) (data : found.1 < found.2) :
    device.blockSize.toNat % device.chunkSize.toNat = 0 ∧
      (nBlocks device found).toNat * device.blockSize.toNat < 2 ^ 32 := by
  have size := block_size_large device
  have order : found.1.toNat < found.2.toNat := UInt32.lt_iff_toNat_lt.mp data
  have top := found.2.toNat_lt
  obtain ⟨reach, less⟩ := n_blocks_bounds device found data
  have blocks : 0 < (nBlocks device found).toNat := by
    apply Nat.pos_of_ne_zero
    intro none
    rw [none, Nat.zero_mul] at reach
    omega
  obtain ⟨pbuf, loaded, all⟩ := (range_loop_tries device stale around memoryRange vscpErrorSuccess link).2
    success range known found bounds data
  obtain ⟨attempt, member, is, accepted⟩ := all 0 blocks
  obtain ⟨aligned, whole⟩ := whole_of_placed device stale around link placed attempt member accepted
  refine ⟨aligned, ?_⟩
  obtain ⟨type, block, chunks⟩ := try_identity device stale _ _ _ _ is
  obtain ⟨write, written, _⟩ := placed.right range known attempt member accepted type
  obtain ⟨later, chunks⟩ := chunks write written
  have count := whole write written
  have product := n_chunks_whole device aligned
  have some : 0 < (nChunks device).toNat := by
    apply Nat.pos_of_ne_zero
    intro none
    rw [none, Nat.zero_mul] at product
    omega
  -- The last chunk of block 0 lies in the buffer, so its size has not wrapped.
  rw [chunks] at count
  obtain ⟨chunk, inside, stop⟩ := chunk_at device pbuf (UInt32.ofNat 0 * device.blockSize).toNat later
    ((nChunks device).toNat - 1) (by omega)
  rw [← chunks] at inside
  have read := (placed.read range known found bounds attempt member type write written).1 chunk inside
  have wrapped : (device.blockSize * nBlocks device found).toNat =
      (nBlocks device found).toNat * device.blockSize.toNat % 2 ^ 32 := by
    rw [UInt32.toNat_mul, Nat.mul_comm]
  rw [stop, Nat.sub_add_cancel some, product, wrapped] at read
  by_contra wraps
  omega

theorem source_of_placed (placed : LoadPlaced device (deviceLoad device stale around link).tries)
    (distinct : Distinct device.memSegList) (range : MemoryRange) (known : range ∈ memoryRange)
    (found : UInt32 × UInt32) (bounds : getMinMaxForRange device.memSegList range.start range.stop = .ok found)
    (small : (nBlocks device found).toNat * device.blockSize.toNat < 2 ^ 32) (address : Nat)
    (start : range.start.toNat ≤ address) (stop : address ≤ range.stop.toNat)
    (defined : segmentImage device.memSegList address ≠ none) :
    ∃ pblk ∈ device.memSegList, pblk.startAddress ≥ range.start ∧ pblk.stop < range.stop ∧ ∃ j < pblk.segSize.toNat,
      (pblk.startAddress - range.start - startBlock device found * device.blockSize).toNat + j =
        address - range.start.toNat := by
  obtain ⟨attempt, member, accepted, type, place⟩ := placed.sent range known address start stop defined
  obtain ⟨own, pbuf, loaded, k, below, is⟩ := attempt_of_range device stale around link range known attempt member type
  obtain rfl : found = own := Except.ok.inj (bounds.symm.trans loaded.bounds)
  obtain ⟨value, first, room⟩ := block_place device found k below small
  obtain ⟨_, block, chunks⟩ := try_identity device stale _ _ _ _ is
  obtain ⟨write, written, length, bytes⟩ := placed.right range known attempt member accepted type
  obtain ⟨later, chunks⟩ := chunks write written
  have data := sent_block_data device pbuf _ write later chunks
  have count := (congrArg List.length data).symm.trans length
  rw [bytes_at_length] at count
  rw [count, first] at data
  rw [block, value] at place bytes
  have blockSome : 0 < device.blockSize.toNat := Nat.lt_of_lt_of_le (by decide) (block_size_large device)
  have split := Nat.div_add_mod (address - range.start.toNat) device.blockSize.toNat
  have few := Nat.mod_lt (address - range.start.toNat) blockSome
  rw [← place, Nat.mul_comm] at split
  have same : range.start.toNat + (k * device.blockSize.toNat +
      (address - range.start.toNat) % device.blockSize.toNat) = address := by
    omega
  have here := bytes _ few (by omega)
  rw [same, data, List.getD_eq_getElem?_getD, bytes_at_get _ _ _ _ few, Option.getD_some, split] at here
  obtain ⟨byte, image⟩ := Option.ne_none_iff_exists'.mp defined
  obtain ⟨holder, inList, inBytes, _⟩ := image_value device.memSegList address byte image
  rw [image, Option.getD_some, loaded_buffer device around range found pbuf loaded] at here
  apply fill_source device.memSegList range.start range.stop _ fun i =>
    if i < (device.blockSize * nBlocks device found).toNat then 0xff else around i
  rw [here, buffer_size device found small, if_pos (by omega)]
  rintro rfl
  exact distinct.void holder inList inBytes

theorem highest_defined (memSegList : List CBootMemSegment) (range : MemoryRange) (address : Nat)
    (start : range.start.toNat ≤ address) (stop : address ≤ range.stop.toNat)
    (defined : segmentImage memSegList address ≠ none) :
    ∃ top, range.start.toNat ≤ top ∧ top ≤ range.stop.toNat ∧ segmentImage memSegList top ≠ none ∧
      ∀ other, other ≤ range.stop.toNat → segmentImage memSegList other ≠ none → other ≤ top := by
  classical
  have found := Nat.findGreatest_spec (P := fun other => segmentImage memSegList other ≠ none) stop defined
  refine ⟨_, Nat.le_trans start (Nat.le_findGreatest stop defined), Nat.findGreatest_le _, found, ?_⟩
  exact fun other within there => Nat.le_findGreatest within there

theorem first_block_of_placed (success : (deviceLoad device stale around link).outcome = .returned vscpErrorSuccess)
    (placed : LoadPlaced device (deviceLoad device stale around link).tries)
    (distinct : Distinct device.memSegList) (range : MemoryRange) (known : range ∈ memoryRange)
    (found : UInt32 × UInt32) (bounds : getMinMaxForRange device.memSegList range.start range.stop = .ok found)
    (data : found.1 < found.2) : found.1 < device.blockSize := by
  by_contra late
  obtain ⟨_, small⟩ := room_of_placed device stale around link success placed range known found bounds data
  obtain ⟨lowest, lowestIn, lowestIs, after, ahead⟩ := min_address_of_segment _ _ _ found bounds data
  have lowestEnds := distinct.ends lowest lowestIn
  have here := image_of_segment device.memSegList lowest lowestIn 0 (distinct.some lowest lowestIn)
  rw [Nat.add_zero, Nat.mod_eq_of_lt (by omega)] at here
  obtain ⟨top, start, stop, defined, highest⟩ := highest_defined device.memSegList range _
    (UInt32.le_iff_toNat_le.mp after) (UInt32.le_iff_toNat_le.mp ahead) here
  obtain ⟨pblk, member, since, taken, j, few, place⟩ := source_of_placed device stale around link placed distinct
    range known found bounds small top start stop defined
  -- The segment is one of the range, so its bytes are at most at the highest address.
  have ends := distinct.ends pblk member
  have taken : pblk.stop.toNat < range.stop.toNat := UInt32.lt_iff_toNat_lt.mp taken
  rw [stop_value, Nat.mod_eq_of_lt ends] at taken
  have since : range.start.toNat ≤ pblk.startAddress.toNat := UInt32.le_iff_toNat_le.mp since
  have own := image_of_segment device.memSegList pblk member j few
  rw [Nat.mod_eq_of_lt (by omega)] at own
  have below := highest _ (by omega) own
  obtain ⟨low, _⟩ := min_max_of_segment _ _ _ found bounds pblk member (UInt32.le_iff_toNat_le.mpr since)
    (UInt32.le_iff_toNat_le.mpr (by omega))
  have low : found.1.toNat ≤ pblk.startAddress.toNat := UInt32.le_iff_toNat_le.mp low
  have late : device.blockSize.toNat ≤ found.1.toNat := UInt32.le_iff_toNat_le.mp (UInt32.not_lt.mp late)
  have blockSome : 0 < device.blockSize.toNat := Nat.lt_of_lt_of_le (by decide) (block_size_large device)
  have foundBelow := found.1.toNat_lt
  have offsetLow : found.1.toNat / device.blockSize.toNat * device.blockSize.toNat ≤ found.1.toNat :=
    Nat.div_mul_le_self _ _
  have offsetSome : 0 < found.1.toNat / device.blockSize.toNat * device.blockSize.toNat :=
    Nat.mul_pos (Nat.div_pos late blockSome) blockSome
  have offset : (startBlock device found * device.blockSize).toNat =
      found.1.toNat / device.blockSize.toNat * device.blockSize.toNat := by
    rw [UInt32.toNat_mul, startBlock, UInt32.toNat_div, Nat.mod_eq_of_lt (by omega)]
  rw [UInt32.toNat_sub, UInt32.toNat_sub_of_le _ _ (UInt32.le_iff_toNat_le.mpr since), offset] at place
  have stopBelow := range.stop.toNat_lt
  omega

theorem fits_of_placed (success : (deviceLoad device stale around link).outcome = .returned vscpErrorSuccess)
    (distinct : Distinct device.memSegList)
    (placed : LoadPlaced device (deviceLoad device stale around link).tries)
    (range : MemoryRange) (known : range ∈ memoryRange) (found : UInt32 × UInt32)
    (bounds : getMinMaxForRange device.memSegList range.start range.stop = .ok found) :
    RangeFits device range found := by
  have reached (address : Nat) (start : range.start.toNat ≤ address) (stop : address ≤ range.stop.toNat)
      (defined : segmentImage device.memSegList address ≠ none) : found.1 < found.2 ∧
        address < range.start.toNat + (nBlocks device found).toNat * device.blockSize.toNat := by
    obtain ⟨attempt, member, accepted, type, place⟩ := placed.sent range known address start stop defined
    obtain ⟨own, pbuf, loaded, k, below, is⟩ := attempt_of_range device stale around link range known attempt member type
    obtain rfl : found = own := Except.ok.inj (bounds.symm.trans loaded.bounds)
    refine ⟨loaded.data, ?_⟩
    obtain ⟨_, small⟩ := room_of_placed device stale around link success placed range known found bounds loaded.data
    obtain ⟨value, _, room⟩ := block_place device found k below small
    rw [(try_identity device stale _ _ _ _ is).2.1, value] at place
    have split := Nat.div_add_mod (address - range.start.toNat) device.blockSize.toNat
    have blockSome : 0 < device.blockSize.toNat := Nat.lt_of_lt_of_le (by decide) (block_size_large device)
    have few := Nat.mod_lt (address - range.start.toNat) blockSome
    rw [← place, Nat.mul_comm] at split
    omega
  refine ⟨fun data => ?_, reached, fun pblk member touches => ?_⟩
  · obtain ⟨aligned, small⟩ := room_of_placed device stale around link success placed range known found bounds data
    exact ⟨aligned, small,
      first_block_of_placed device stale around link success placed distinct range known found bounds data⟩
  · obtain ⟨i, few, start, stop⟩ := touches
    have ends := distinct.ends pblk member
    have defined := image_of_segment device.memSegList pblk member i few
    obtain ⟨data, _⟩ := reached _ start stop defined
    obtain ⟨_, small⟩ := room_of_placed device stale around link success placed range known found bounds data
    obtain ⟨other, inList, since, taken, j, inside, place⟩ := source_of_placed device stale around link placed distinct
      range known found bounds small _ start stop defined
    have first := first_block_of_placed device stale around link success placed distinct range known found bounds data
    rw [offset_zero device found first] at place
    have beside := fill_place range.start other since
    rw [Nat.mod_eq_of_lt (by omega)] at start stop place
    obtain rfl := distinct.apart pblk member other inList i few j inside (by omega)
    exact ⟨since, UInt32.le_iff_toNat_le.mpr (by omega), taken⟩

end Placement

theorem load_placed_iff (device : Device) (stale : List Arrival → VscpEventEx) (around : Memory) (link : Link)
    (success : (deviceLoad device stale around link).outcome = .returned vscpErrorSuccess) :
    let tries := (deviceLoad device stale around link).tries
    let fits := (∀ range ∈ memoryRange, ∀ found,
        getMinMaxForRange device.memSegList range.start range.stop = .ok found → RangeFits device range found) ∧
      ∀ attempt ∈ tries, attempt.rv = vscpErrorSuccess → ∀ write ∈ attempt.written,
        write.chunks.length = (nChunks device).toNat
    (fits → LoadPlaced device tries) ∧ (Distinct device.memSegList → (LoadPlaced device tries ↔ fits)) := by
  intro tries fits
  have enough (fit : fits) : LoadPlaced device tries := placed_of_fits device stale around link success fit.1 fit.2
  refine ⟨enough, fun distinct => ⟨fun placed => ⟨?_, ?_⟩, enough⟩⟩
  · exact fits_of_placed device stale around link success distinct placed
  · intro attempt member accepted
    exact (whole_of_placed device stale around link placed attempt member accepted).2

theorem load_placed_iff_example :
    let tries := (sampleLoad goodLink).tries
    let fits := (∀ range ∈ memoryRange, ∀ found,
        getMinMaxForRange sampleDevice.memSegList range.start range.stop = .ok found →
          RangeFits sampleDevice range found) ∧
      ∀ attempt ∈ tries, attempt.rv = vscpErrorSuccess → ∀ write ∈ attempt.written,
        write.chunks.length = (nChunks sampleDevice).toNat
    (fits → LoadPlaced sampleDevice tries) ∧
      (Distinct sampleDevice.memSegList → (LoadPlaced sampleDevice tries ↔ fits)) :=
  load_placed_iff sampleDevice (fun _ => emptyEventEx) (fun _ => 0) goodLink (by decide +kernel)

def thirdBlockDevice : Device := { sampleDevice with memSegList := [sampleSegment 16] }

-- They are announced as block 0.
theorem third_block_announced_as_first :
    (deviceLoad thirdBlockDevice (fun _ => emptyEventEx) (fun _ => 0) goodLink).outcome = .returned vscpErrorSuccess ∧
      ¬ LoadPlaced thirdBlockDevice
        (deviceLoad thirdBlockDevice (fun _ => emptyEventEx) (fun _ => 0) goodLink).tries := by
  refine ⟨by decide +kernel, fun placed => ?_⟩
  have elsewhere : ∀ attempt ∈ (deviceLoad thirdBlockDevice (fun _ => emptyEventEx) (fun _ => 0) goodLink).tries,
      attempt.block.toNat ≠ 2 := by
    decide +kernel
  obtain ⟨attempt, member, _, _, block⟩ := placed.sent ⟨0x00, 0x00000000, 0x3fffffff⟩ (by decide) 16
    (by decide) (by decide) (by decide +kernel)
  exact elsewhere attempt member block

end Vscp.BootVscp
