import Vscp.BootVscp

set_option autoImplicit false

namespace Vscp.BootVscp

open Boot ByteMemory

def FromNode (device : Device) (ex : VscpEventEx) : Prop :=
  if device.isFullLevel2 then device.nodeGuid = ex.guid else device.nodeid = getLSB ex.guid

structure Acknowledged (device : Device) (ack : UInt16) (exchange : Exchange) : Prop where
  rv : exchange.rv = vscpErrorSuccess
  vscpClass : exchange.ex.vscpClass = vscpClass1Protocol
  vscpType : exchange.ex.vscpType = ack
  node : FromNode device exchange.ex

structure BlockDone (device : Device) (attempt : Try) : Prop where
  start : Acknowledged device typeStartBlockAck attempt.start
  written : ∃ write, attempt.written = some write ∧ write.chunks.length = (nChunks device).toNat ∧
    (∀ chunk ∈ write.chunks, Acknowledged device typeBlockChunkAck chunk.exchange) ∧
    Acknowledged device typeBlockDataAck write.answer ∧
    constructUnsigned16 write.answer.ex = crcFast (write.chunks.flatMap (·.data))
  program : ∃ exchange, attempt.program = some exchange ∧ Acknowledged device typeProgramBlockDataAck exchange

structure LoadDone (device : Device) (tries : List Try) : Prop where
  blocks : ∀ range ∈ memoryRange, ∀ found, getMinMaxForRange device.memSegList range.start range.stop = .ok found →
    found.1 < found.2 → ∀ k < (nBlocks device found).toNat, ∃ attempt ∈ tries,
      attempt.memType = range.type ∧ attempt.block = UInt32.ofNat k ∧ attempt.rv = vscpErrorSuccess
  done : ∀ attempt ∈ tries, attempt.rv = vscpErrorSuccess → BlockDone device attempt

-- No wait took a negative answer, and no chunk was given up.
structure Orderly (attempt : Try) : Prop where
  start : attempt.start.ex.vscpType ≠ typeStartBlockNack
  chunks : ∀ write ∈ attempt.written, ∀ chunk ∈ write.chunks,
    chunk.exchange.rv = vscpErrorSuccess ∧ chunk.exchange.ex.vscpType ≠ typeBlockChunkNack
  answer : ∀ write ∈ attempt.written, write.answer.ex.vscpType ≠ typeBlockDataNack
  program : ∀ exchange ∈ attempt.program, exchange.ex.vscpType ≠ typeProgramBlockDataNack

def Addressed (device : Device) : Prop := device.isFullLevel2 = true ∨ getLSB device.nodeGuid = device.nodeid

def CrcCovers (device : Device) (pbuf : Memory) (block : UInt32) : Prop :=
  crcFast (bytesAt pbuf (block * device.blockSize).toNat ((nChunks device).toNat * device.chunkSize.toNat)) =
    crcOfBlock device pbuf (block * device.blockSize).toNat

def Answered (device : Device) (ack nack : UInt16) (exchange : Exchange) : Prop :=
  exchange.rv = vscpErrorSuccess ∧ (isAnswer device ack exchange.ex ∨
    ¬ device.isFullLevel2 ∧ isAnswer device nack exchange.ex)

theorem is_answer_iff (device : Device) (response : UInt16) (ex : VscpEventEx) :
    isAnswer device response ex ↔ vscpClass1Protocol = ex.vscpClass ∧ response = ex.vscpType ∧
      if device.isFullLevel2 then device.nodeGuid = ex.guid else getLSB device.nodeGuid = getLSB ex.guid := by
  rw [isAnswer, decide_eq_true_iff]

section Waits

variable (device : Device) (ack nack : UInt16)

theorem check_response_answer (ex : VscpEventEx) (arrivals : List Arrival)
    (success : (checkResponse device ack nack ex arrivals).1.rv = vscpErrorSuccess) :
    Answered device ack nack (checkResponse device ack nack ex arrivals).1 := by
  have timeout : vscpErrorTimeout ≠ vscpErrorSuccess := by decide
  have refusal : vscpErrorNack ≠ vscpErrorSuccess := by decide
  induction arrivals generalizing ex with
  | nil => exact absurd success timeout
  | cons arrival rest ih =>
      cases arrival with
      | timeout => exact absurd success timeout
      | event received =>
          rw [checkResponse] at success ⊢
          by_cases positive : isAnswer device ack received
          · rw [if_pos positive]
            exact ⟨rfl, .inl positive⟩
          rw [if_neg positive] at success ⊢
          by_cases negative : isAnswer device nack received
          · rw [if_pos negative] at success ⊢
            by_cases level : device.isFullLevel2
            · rw [if_pos level] at success
              exact absurd success refusal
            · exact ⟨success, .inr ⟨level, negative⟩⟩
          · rw [if_neg negative] at success ⊢
            exact ih received success

theorem request_answer (event : VscpEventEx) (link : Link)
    (success : (request device event ack nack link).1.rv = vscpErrorSuccess) :
    Answered device ack nack (request device event ack nack link).1 := by
  unfold request at success ⊢
  dsimp only at success ⊢
  split at success
  · rename_i failed
    exact absurd success failed
  · rename_i sent
    rw [if_neg sent]
    exact check_response_answer device ack nack event link.arrivals success

theorem acknowledged_iff (exchange : Exchange) (answered : Answered device ack nack exchange) (differ : ack ≠ nack) :
    Acknowledged device ack exchange ↔ exchange.ex.vscpType ≠ nack ∧ Addressed device := by
  obtain ⟨rv, answer⟩ := answered
  rw [is_answer_iff, is_answer_iff] at answer
  constructor
  · intro acknowledged
    refine ⟨fun negative => differ (acknowledged.vscpType.symm.trans negative), ?_⟩
    have node := acknowledged.node
    unfold FromNode at node
    by_cases level : device.isFullLevel2
    · exact .inl level
    · simp only [if_neg level] at node answer
      refine .inr (Eq.trans ?_ node.symm)
      rcases answer with ⟨_, _, same⟩ | ⟨_, _, _, same⟩
      · exact same
      · exact same
  · rintro ⟨positive, addressed⟩
    rcases answer with ⟨vscpClass, vscpType, same⟩ | ⟨_, _, negative, _⟩
    · refine ⟨rv, vscpClass.symm, vscpType.symm, ?_⟩
      unfold FromNode
      by_cases level : device.isFullLevel2
      · rw [if_pos level] at same ⊢
        exact same
      · rw [if_neg level] at same ⊢
        exact (addressed.resolve_left level).symm.trans same
    · exact absurd negative.symm positive

end Waits

section Blocks

variable (device : Device) (pbuf : Memory) (first : Nat)

variable (left : Nat) (chunk : UInt32) (link : Link)

theorem write_chunks_answers :
    ∀ piece ∈ (writeChunks device pbuf first left chunk link).1, piece.exchange.rv = vscpErrorSuccess →
      Answered device typeBlockChunkAck typeBlockChunkNack piece.exchange := by
  induction left generalizing chunk link with
  | zero => exact fun piece member => absurd member List.not_mem_nil
  | succ left ih =>
      have own := request_answer device typeBlockChunkAck typeBlockChunkNack
        (protocolEvent typeBlockData (chunkOf device pbuf first chunk).2) link
      intro piece member success
      rw [writeChunks] at member
      dsimp only at member
      split at member
      · rw [List.mem_singleton.mp member] at success ⊢
        exact own success
      · rcases List.mem_cons.mp member with rfl | later
        · exact own success
        · exact ih _ _ piece later success

theorem write_chunks_pieces :
    (writeChunks device pbuf first left chunk link).1.length ≤ left ∧
      (writeChunks device pbuf first left chunk link).1.map (fun piece => (piece.offset, piece.data)) =
        (List.range (writeChunks device pbuf first left chunk link).1.length).map fun i =>
          chunkOf device pbuf first (chunk + UInt32.ofNat i) := by
  induction left generalizing chunk link with
  | zero => exact ⟨Nat.le_refl _, rfl⟩
  | succ left ih =>
      have here : chunk + UInt32.ofNat 0 = chunk := UInt32.add_zero chunk
      rw [writeChunks]
      dsimp only
      split
      · refine ⟨Nat.succ_le_succ (Nat.zero_le _), ?_⟩
        change [chunkOf device pbuf first chunk] = [chunkOf device pbuf first (chunk + UInt32.ofNat 0)]
        rw [here]
      · obtain ⟨few, pieces⟩ := ih (chunk + 1) (writeChunk device (chunkOf device pbuf first chunk).2 link).2
        refine ⟨Nat.succ_le_succ few, ?_⟩
        rw [List.map_cons, pieces, List.length_cons, List.range_succ_eq_map, List.map_cons, List.map_map, here]
        congr 1
        exact List.map_congr_left fun i _ => congrArg (chunkOf device pbuf first) (next_of_nat chunk i)

theorem write_chunks_complete (all : ∀ piece ∈ (writeChunks device pbuf first left chunk link).1, piece.exchange.rv = vscpErrorSuccess) :
    (writeChunks device pbuf first left chunk link).1.length = left := by
  induction left generalizing chunk link with
  | zero => rfl
  | succ left ih =>
      rw [writeChunks] at all ⊢
      dsimp only at all ⊢
      split at all
      · rename_i failed
        exact absurd (all _ (List.mem_singleton_self _)) failed
      · rename_i sent
        rw [if_neg sent, List.length_cons, ih _ _ fun piece member => all piece (List.mem_cons_of_mem _ member)]

theorem chunk_size_cases : device.chunkSize.toNat = 8 ∨ device.chunkSize.toNat = 512 :=
  device.level.imp (congrArg UInt16.toNat) (congrArg UInt16.toNat)

theorem n_chunks_value :
    (nChunks device).toNat = (device.blockSize.toNat + device.chunkSize.toNat - 1) / device.chunkSize.toNat := by
  have fits := device.fits
  have blockBelow := device.blockSize.toNat_lt
  have size : device.chunkSize.toUInt32.toNat = device.chunkSize.toNat := UInt16.toNat_toUInt32 _
  unfold nChunks
  split
  · rename_i more
    have more : device.chunkSize.toNat < device.blockSize.toNat := size ▸ UInt32.lt_iff_toNat_lt.mp more
    rw [UInt32.toNat_add, UInt32.toNat_div, size]
    split
    · rename_i part
      have part : device.blockSize.toNat % device.chunkSize.toNat ≠ 0 := fun none => part <| by
        apply UInt32.toNat_inj.mp
        rw [UInt32.toNat_mod, size]
        exact none
      change (_ + 1) % _ = _
      rcases chunk_size_cases device with eight | many
      · rw [eight] at part ⊢
        omega
      · rw [many] at part ⊢
        omega
    · rename_i whole
      have whole : device.blockSize.toNat % device.chunkSize.toNat = 0 := by
        rw [← size, ← UInt32.toNat_mod, not_not.mp whole]
        rfl
      change (_ + 0) % _ = _
      rcases chunk_size_cases device with eight | many
      · rw [eight] at whole ⊢
        omega
      · rw [many] at whole ⊢
        omega
  · rename_i one
    have one : device.blockSize.toNat ≤ device.chunkSize.toNat := size ▸ UInt32.le_iff_toNat_le.mp (UInt32.not_lt.mp one)
    change 1 = _
    rcases chunk_size_cases device with eight | many
    · rw [eight] at one fits ⊢
      omega
    · rw [many] at one fits ⊢
      omega

theorem chunk_of_value (i : Nat) (below : i < (nChunks device).toNat) :
    chunkOf device pbuf first (0 + UInt32.ofNat i) =
      (first + i * device.chunkSize.toNat, bytesAt pbuf (first + i * device.chunkSize.toNat) device.chunkSize.toNat) := by
  have fits := device.fits
  have blockBelow := device.blockSize.toNat_lt
  rw [n_chunks_value] at below
  have offset : ((0 + UInt32.ofNat i) * device.chunkSize.toUInt32).toNat = i * device.chunkSize.toNat := by
    rw [UInt32.zero_add, UInt32.toNat_mul, UInt16.toNat_toUInt32, UInt32.toNat_ofNat']
    rcases chunk_size_cases device with eight | many
    · rw [eight] at below ⊢
      omega
    · rw [many] at below ⊢
      omega
  rw [chunkOf, offset]

theorem pieces_together (n size : Nat) :
    ((List.range n).map fun i => bytesAt pbuf (first + i * size) size).flatten = bytesAt pbuf first (n * size) := by
  induction n with
  | zero => rw [Nat.zero_mul]; rfl
  | succ n ih =>
      rw [List.range_succ, List.map_append, List.flatten_append, ih, Nat.succ_mul, bytes_at_append]
      simp

theorem write_chunks_data :
    (writeChunks device pbuf first (nChunks device).toNat 0 link).1.flatMap (·.data) =
      bytesAt pbuf first ((writeChunks device pbuf first (nChunks device).toNat 0 link).1.length *
        device.chunkSize.toNat) := by
  obtain ⟨few, pieces⟩ := write_chunks_pieces device pbuf first (nChunks device).toNat 0 link
  replace pieces := congrArg (List.map Prod.snd) pieces
  rw [List.map_map, List.map_map] at pieces
  rw [List.flatMap_def, ← pieces_together]
  refine congrArg List.flatten (Eq.trans pieces (List.map_congr_left fun i member => ?_))
  exact congrArg Prod.snd (chunk_of_value device pbuf first i (by have := List.mem_range.mp member; omega))

end Blocks

theorem n_chunks_whole (device : Device) (whole : device.blockSize.toNat % device.chunkSize.toNat = 0) :
    (nChunks device).toNat * device.chunkSize.toNat = device.blockSize.toNat := by
  rw [n_chunks_value]
  rcases chunk_size_cases device with eight | many
  · rw [eight] at whole ⊢
    omega
  · rw [many] at whole ⊢
    omega

structure Accepted (device : Device) (memType : UInt8) (pbuf : Memory) (block : UInt32) (attempt : Try) : Prop where
  ofType : attempt.memType = memType
  ofBlock : attempt.block = block
  start : Answered device typeStartBlockAck typeStartBlockNack attempt.start
  written : ∃ write, attempt.written = some write ∧
    (∃ link, write.chunks =
      (writeChunks device pbuf (block * device.blockSize).toNat (nChunks device).toNat 0 link).1) ∧
    Answered device typeBlockDataAck typeBlockDataNack write.answer ∧
    constructUnsigned16 write.answer.ex = crcOfBlock device pbuf (block * device.blockSize).toNat
  program : ∃ exchange, attempt.program = some exchange ∧
    Answered device typeProgramBlockDataAck typeProgramBlockDataNack exchange

theorem write_block_answer (device : Device) (stale : List Arrival → VscpEventEx) (pbuf : Memory) (block : UInt32)
    (first : Nat) (link : Link) (success : (writeBlock device stale pbuf block first link).1.rv = vscpErrorSuccess) :
    Answered device typeBlockDataAck typeBlockDataNack (writeBlock device stale pbuf block first link).1.answer ∧
      constructUnsigned16 (writeBlock device stale pbuf block first link).1.answer.ex = crcOfBlock device pbuf first := by
  have refusal : vscpErrorInvalidFrame ≠ vscpErrorSuccess := by decide
  unfold writeBlock at success ⊢
  dsimp only at success ⊢
  split at success
  · exact absurd success refusal
  · rename_i right
    exact ⟨check_response_answer device _ _ _ _ success, not_not.mp (not_or.mp right).1⟩

theorem accepted_try (device : Device) (stale : List Arrival → VscpEventEx) (memType : UInt8) (pbuf : Memory)
    (block : UInt32) (attempt : Try) (is : IsTry device stale memType pbuf block attempt)
    (success : attempt.rv = vscpErrorSuccess) : Accepted device memType pbuf block attempt := by
  obtain ⟨link, rfl⟩ := is
  unfold tryBlock at success ⊢
  dsimp only at success ⊢
  split at success
  · rename_i failed
    exact absurd success failed
  rename_i started
  rw [if_neg started]
  split at success
  · rename_i failed
    exact absurd success failed
  rename_i wrote
  rw [if_neg wrote]
  obtain ⟨answer, crc⟩ := write_block_answer device stale pbuf block _ _ (not_not.mp wrote)
  exact ⟨rfl, rfl, request_answer device _ _ _ _ (not_not.mp started), ⟨_, rfl, ⟨_, rfl⟩, answer, crc⟩,
    _, rfl, request_answer device _ _ _ _ success⟩

theorem block_done_iff (device : Device) (memType : UInt8) (pbuf : Memory) (block : UInt32) (attempt : Try)
    (accepted : Accepted device memType pbuf block attempt) :
    BlockDone device attempt ↔ Orderly attempt ∧ Addressed device ∧ CrcCovers device pbuf block := by
  obtain ⟨write, written, ⟨link, chunks⟩, answer, crc⟩ := accepted.written
  obtain ⟨exchange, programmed, program⟩ := accepted.program
  have started := acknowledged_iff device _ _ _ accepted.start (by decide)
  have answered := acknowledged_iff device _ _ _ answer (by decide)
  have finished := acknowledged_iff device _ _ _ program (by decide)
  have data (all : ∀ piece ∈ write.chunks, piece.exchange.rv = vscpErrorSuccess) :
      write.chunks.flatMap (·.data) = bytesAt pbuf (block * device.blockSize).toNat
        ((nChunks device).toNat * device.chunkSize.toNat) := by
    rw [chunks] at all ⊢
    rw [write_chunks_data, write_chunks_complete device pbuf _ _ _ link all]
  constructor
  · intro done
    obtain ⟨own, same, _, each, reply, sum⟩ := done.written
    obtain rfl : write = own := Option.some.inj (written.symm.trans same)
    obtain ⟨other, same, last⟩ := done.program
    obtain rfl : exchange = other := Option.some.inj (programmed.symm.trans same)
    refine ⟨⟨(started.mp done.start).1, ?_, ?_, ?_⟩, (started.mp done.start).2, ?_⟩
    · intro _ member chunk inside
      obtain rfl := Option.some.inj (written.symm.trans member)
      refine ⟨(each chunk inside).rv, fun negative => ?_⟩
      exact absurd ((each chunk inside).vscpType.symm.trans negative) (by decide)
    · intro _ member
      obtain rfl := Option.some.inj (written.symm.trans member)
      exact (answered.mp reply).1
    · intro _ member
      obtain rfl := Option.some.inj (programmed.symm.trans member)
      exact (finished.mp last).1
    · rw [CrcCovers, ← data fun piece inside => (each piece inside).rv, ← crc]
      exact sum.symm
  · rintro ⟨orderly, addressed, covers⟩
    have each := orderly.chunks write written
    refine ⟨started.mpr ⟨orderly.start, addressed⟩, ⟨write, written, ?_, ?_, ?_, ?_⟩, exchange, programmed, ?_⟩
    · rw [chunks] at each ⊢
      exact write_chunks_complete device pbuf _ _ _ link fun piece inside => (each piece inside).1
    · intro chunk inside
      obtain ⟨sent, positive⟩ := each chunk inside
      rw [chunks] at inside
      have reply := write_chunks_answers device pbuf _ _ _ _ chunk inside sent
      exact (acknowledged_iff device _ _ _ reply (by decide)).mpr ⟨positive, addressed⟩
    · exact answered.mpr ⟨orderly.answer write written, addressed⟩
    · rw [crc, data fun piece inside => (each piece inside).1]
      exact covers.symm
    · exact finished.mpr ⟨orderly.program exchange programmed, addressed⟩

theorem load_acknowledged_iff (device : Device) (stale : List Arrival → VscpEventEx) (around : Memory) (link : Link)
    (success : (deviceLoad device stale around link).outcome = .returned vscpErrorSuccess) :
    LoadDone device (deviceLoad device stale around link).tries ↔
      (∀ attempt ∈ (deviceLoad device stale around link).tries, attempt.rv = vscpErrorSuccess →
        Orderly attempt ∧ Addressed device) ∧
      ∀ range ∈ memoryRange, ∀ found pbuf, Loaded device around range found pbuf →
        ∀ k < (nBlocks device found).toNat, CrcCovers device pbuf (UInt32.ofNat k) := by
  obtain ⟨are, succeeds⟩ := range_loop_tries device stale around memoryRange vscpErrorSuccess link
  have goal (attempt : Try) (member : attempt ∈ (deviceLoad device stale around link).tries)
      (accepted : attempt.rv = vscpErrorSuccess) :
      ∃ range ∈ memoryRange, ∃ found pbuf, Loaded device around range found pbuf ∧
        ∃ k < (nBlocks device found).toNat,
          (BlockDone device attempt ↔ Orderly attempt ∧ Addressed device ∧ CrcCovers device pbuf (UInt32.ofNat k)) := by
    obtain ⟨range, inside, found, pbuf, loaded, k, below, is⟩ := are attempt member
    exact ⟨range, inside, found, pbuf, loaded, k, below,
      block_done_iff device _ _ _ _ (accepted_try device stale _ _ _ _ is accepted)⟩
  have each (range : MemoryRange) (inside : range ∈ memoryRange) (found : UInt32 × UInt32) (pbuf : Memory)
      (loaded : Loaded device around range found pbuf) (k : Nat) (below : k < (nBlocks device found).toNat) :
      ∃ attempt ∈ (deviceLoad device stale around link).tries, attempt.rv = vscpErrorSuccess ∧
        Accepted device range.type pbuf (UInt32.ofNat k) attempt := by
    obtain ⟨own, ofRange, all⟩ := succeeds success range inside found loaded.bounds loaded.data
    obtain rfl : own = pbuf := Except.ok.inj (ofRange.buffer.symm.trans loaded.buffer)
    obtain ⟨attempt, member, is, accepted⟩ := all k below
    exact ⟨attempt, member, accepted, accepted_try device stale _ _ _ _ is accepted⟩
  constructor
  · intro load
    constructor
    · intro attempt member accepted
      obtain ⟨_, _, _, _, _, _, _, done⟩ := goal attempt member accepted
      exact (done.mp (load.done attempt member accepted)).imp_right And.left
    · intro range inside found pbuf loaded k below
      obtain ⟨attempt, member, accepted, known⟩ := each range inside found pbuf loaded k below
      exact ((block_done_iff device _ _ _ _ known).mp (load.done attempt member accepted)).2.2
  · rintro ⟨orderly, covers⟩
    constructor
    · intro range inside found bounds data k below
      obtain ⟨pbuf, loaded, _⟩ := succeeds success range inside found bounds data
      obtain ⟨attempt, member, accepted, known⟩ := each range inside found pbuf loaded k below
      exact ⟨attempt, member, known.ofType, known.ofBlock, accepted⟩
    · intro attempt member accepted
      obtain ⟨range, inside, found, pbuf, loaded, k, below, done⟩ := goal attempt member accepted
      obtain ⟨answers, addressed⟩ := orderly attempt member accepted
      exact done.mpr ⟨answers, addressed, covers range inside found pbuf loaded k below⟩

def sampleDevice : Device :=
  { chunkSize := 8, blockSize := 8, isFullLevel2 := false, nodeid := 5, nodeGuid := Vector.replicate 16 5
    memSegList := [sampleSegment 0], statusCallback := true
    level := .inl rfl, fits := Nat.le_refl _ }

def sampleAnswer (vscpType : UInt16) (data : Bytes) : Arrival :=
  .event { protocolEvent vscpType data with guid := Vector.replicate 16 5 }

def sampleLink (start chunk data program : UInt16) : Link :=
  ⟨[], [sampleAnswer start [], sampleAnswer chunk [], sampleAnswer data [71, 146, 0, 0, 0, 0], sampleAnswer program []]⟩

def sampleLoad (link : Link) : Progress := deviceLoad sampleDevice (fun _ => emptyEventEx) (fun _ => 0) link

def goodLink : Link := sampleLink typeStartBlockAck typeBlockChunkAck typeBlockDataAck typeProgramBlockDataAck

def refusingLink : Link := sampleLink typeStartBlockNack typeBlockChunkNack typeBlockDataNack typeProgramBlockDataNack

theorem load_acknowledged_iff_example :
    LoadDone sampleDevice (sampleLoad goodLink).tries ↔
      (∀ attempt ∈ (sampleLoad goodLink).tries, attempt.rv = vscpErrorSuccess →
        Orderly attempt ∧ Addressed sampleDevice) ∧
      ∀ range ∈ memoryRange, ∀ found pbuf, Loaded sampleDevice (fun _ => 0) range found pbuf →
        ∀ k < (nBlocks sampleDevice found).toNat, CrcCovers sampleDevice pbuf (UInt32.ofNat k) :=
  load_acknowledged_iff sampleDevice (fun _ => emptyEventEx) (fun _ => 0) goodLink (by decide +kernel)

-- Each of the four requests is refused, and the block counts as loaded.
theorem refused_block_loaded :
    (sampleLoad refusingLink).outcome = .returned vscpErrorSuccess ∧
      ¬ LoadDone sampleDevice (sampleLoad refusingLink).tries := by
  refine ⟨by decide +kernel, fun load => ?_⟩
  have refused : ∃ attempt ∈ (sampleLoad refusingLink).tries,
      attempt.rv = vscpErrorSuccess ∧ attempt.start.ex.vscpType ≠ typeStartBlockAck := by
    decide +kernel
  obtain ⟨attempt, member, accepted, negative⟩ := refused
  exact negative (load.done attempt member accepted).start.vscpType

end Vscp.BootVscp
