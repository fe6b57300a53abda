import Vscp.BootImage
import Vscp.Canal

set_option autoImplicit false

namespace Vscp.BootVscp

open Boot ByteMemory

def vscpClass1Protocol : UInt16 := 0
def typeStartBlock : UInt16 := 15
def typeBlockData : UInt16 := 16
def typeBlockDataAck : UInt16 := 17
def typeBlockDataNack : UInt16 := 18
def typeProgramBlockData : UInt16 := 19
def typeProgramBlockDataAck : UInt16 := 20
def typeProgramBlockDataNack : UInt16 := 21
def typeStartBlockAck : UInt16 := 50
def typeStartBlockNack : UInt16 := 51
def typeBlockChunkAck : UInt16 := 52
def typeBlockChunkNack : UInt16 := 53

def vscpErrorTimeout : Int := 32
def vscpErrorInvalidFrame : Int := 63
def vscpErrorNack : Int := 65

structure MemoryRange where
  type : UInt8
  start : UInt32
  stop : UInt32
deriving DecidableEq

def memoryRange : List MemoryRange :=
  [⟨0x00, 0x00000000, 0x3fffffff⟩, ⟨0x01, 0xc3000000, 0xc3ffffff⟩, ⟨0x02, 0xc2000000, 0xc2ffffff⟩,
    ⟨0x03, 0x40000000, 0xbfffffff⟩, ⟨0x04, 0xc1000000, 0xc1ffffff⟩, ⟨0x05, 0xc4000000, 0xc4ffffff⟩,
    ⟨0x06, 0xc5000000, 0xc5ffffff⟩, ⟨0xfd, 0xd0000000, 0xdfffffff⟩, ⟨0xfe, 0xe0000000, 0xefffffff⟩,
    ⟨0xff, 0xf0000000, 0xffffffff⟩]

structure Device where
  chunkSize : UInt16
  blockSize : UInt32
  isFullLevel2 : Bool
  nodeid : UInt8
  nodeGuid : Guid
  memSegList : List CBootMemSegment
  statusCallback : Bool
  level : chunkSize = 8 ∨ chunkSize = 512
  fits : chunkSize.toNat ≤ blockSize.toNat

-- What the client answers: one number for each send, and the events that come in, with a
-- mark where a wait runs out. Nothing more comes in after the last one.
inductive Arrival
  | event (ex : VscpEventEx)
  | timeout

structure Link where
  sends : List Int
  arrivals : List Arrival

structure Exchange where
  rv : Int
  ex : VscpEventEx

def protocolEvent (vscpType : UInt16) (data : Bytes) : VscpEventEx :=
  { emptyEventEx with
    vscpClass := vscpClass1Protocol
    vscpType := vscpType
    sizeData := UInt16.ofNat data.length
    data := overlay data data.length emptyEventEx.data }

def isAnswer (device : Device) (response : UInt16) (ex : VscpEventEx) : Bool :=
  vscpClass1Protocol = ex.vscpClass ∧ response = ex.vscpType ∧
    if device.isFullLevel2 then device.nodeGuid = ex.guid else getLSB device.nodeGuid = getLSB ex.guid

-- On Level I a negative answer is a success.
def checkResponse (device : Device) (ack nack : UInt16) (ex : VscpEventEx) : List Arrival → Exchange × List Arrival
  | [] => (⟨vscpErrorTimeout, ex⟩, [])
  | .timeout :: rest => (⟨vscpErrorTimeout, ex⟩, rest)
  | .event received :: rest =>
      if isAnswer device ack received then (⟨vscpErrorSuccess, received⟩, rest)
      else if isAnswer device nack received then
        (⟨if device.isFullLevel2 then vscpErrorNack else vscpErrorSuccess, received⟩, rest)
      else checkResponse device ack nack received rest

def request (device : Device) (event : VscpEventEx) (ack nack : UInt16) (link : Link) : Exchange × Link :=
  let rv := link.sends.headD vscpErrorSuccess
  let link := { link with sends := link.sends.tail }
  if rv ≠ vscpErrorSuccess then (⟨rv, event⟩, link)
  else
    let result := checkResponse device ack nack event link.arrivals
    (result.1, { link with arrivals := result.2 })

def bytes32 (value : UInt32) : Bytes :=
  [(value >>> 24).toUInt8, (value >>> 16).toUInt8, (value >>> 8).toUInt8, value.toUInt8]

def writeBlockStart (device : Device) (block : UInt32) (memType : UInt8) (link : Link) : Exchange × Link :=
  request device (protocolEvent typeStartBlock (bytes32 block ++ [memType, 0])) typeStartBlockAck typeStartBlockNack link

def programBlock (device : Device) (block : UInt32) (link : Link) : Exchange × Link :=
  request device (protocolEvent typeProgramBlockData (bytes32 block)) typeProgramBlockDataAck typeProgramBlockDataNack link

def writeChunk (device : Device) (data : Bytes) (link : Link) : Exchange × Link :=
  request device (protocolEvent typeBlockData data) typeBlockChunkAck typeBlockChunkNack link

structure Chunk where
  offset : Nat
  data : Bytes
  exchange : Exchange

def chunkOf (device : Device) (pbuf : Memory) (first : Nat) (chunk : UInt32) : Nat × Bytes :=
  let offset := first + (chunk * device.chunkSize.toUInt32).toNat
  (offset, bytesAt pbuf offset device.chunkSize.toNat)

-- A chunk that fails ends the loop, and its code is lost.
def writeChunks (device : Device) (pbuf : Memory) (first : Nat) : Nat → UInt32 → Link → List Chunk × Link
  | 0, _, link => ([], link)
  | left + 1, chunk, link =>
      let piece := chunkOf device pbuf first chunk
      let result := writeChunk device piece.2 link
      if result.1.rv ≠ vscpErrorSuccess then ([⟨piece.1, piece.2, result.1⟩], result.2)
      else
        let later := writeChunks device pbuf first left (chunk + 1) result.2
        (⟨piece.1, piece.2, result.1⟩ :: later.1, later.2)

def nChunks (device : Device) : UInt32 :=
  if device.blockSize > device.chunkSize.toUInt32 then
    device.blockSize / device.chunkSize.toUInt32 + if device.blockSize % device.chunkSize.toUInt32 ≠ 0 then 1 else 0
  else 1

structure BlockWrite where
  chunks : List Chunk
  answer : Exchange
  rv : Int

def constructUnsigned16 (ex : VscpEventEx) : UInt16 := (ex.data.get 0).toUInt16 <<< 8 + (ex.data.get 1).toUInt16

def constructUnsigned32 (ex : VscpEventEx) : UInt32 :=
  (ex.data.get 2).toUInt32 <<< 24 + (ex.data.get 3).toUInt32 <<< 16 + (ex.data.get 4).toUInt32 <<< 8 +
    (ex.data.get 5).toUInt32

def crcOfBlock (device : Device) (pbuf : Memory) (first : Nat) : UInt16 :=
  crcFast (bytesAt pbuf first (intCount device.blockSize.toNat))

def writeBlock (device : Device) (stale : List Arrival → VscpEventEx) (pbuf : Memory) (block : UInt32) (first : Nat)
    (link : Link) : BlockWrite × Link :=
  let sent := writeChunks device pbuf first (nChunks device).toNat 0 link
  let result := checkResponse device typeBlockDataAck typeBlockDataNack (stale sent.2.arrivals) sent.2.arrivals
  let wrong := constructUnsigned16 result.1.ex ≠ crcOfBlock device pbuf first ∨ constructUnsigned32 result.1.ex ≠ block
  (⟨sent.1, result.1, if wrong then vscpErrorInvalidFrame else result.1.rv⟩, { sent.2 with arrivals := result.2 })

structure Try where
  memType : UInt8
  block : UInt32
  start : Exchange
  written : Option BlockWrite
  program : Option Exchange
  rv : Int

def tryBlock (device : Device) (stale : List Arrival → VscpEventEx) (memType : UInt8) (pbuf : Memory) (block : UInt32)
    (link : Link) : Try × Link :=
  let start := writeBlockStart device block memType link
  if start.1.rv ≠ vscpErrorSuccess then (⟨memType, block, start.1, none, none, start.1.rv⟩, start.2)
  else
    let written := writeBlock device stale pbuf block (block * device.blockSize).toNat start.2
    if written.1.rv ≠ vscpErrorSuccess then
      (⟨memType, block, start.1, some written.1, none, written.1.rv⟩, written.2)
    else
      let program := programBlock device block written.2
      (⟨memType, block, start.1, some written.1, some program.1, program.1.rv⟩, program.2)

inductive Outcome
  | returned (rv : Int)
  | badFunctionCall
deriving DecidableEq

structure Progress where
  tries : List Try
  outcome : Outcome
  link : Link

def Progress.after (tries : List Try) (later : Progress) : Progress := { later with tries := tries ++ later.tries }

-- trycnt: each block has three tries.
def tryLoop (device : Device) (stale : List Arrival → VscpEventEx) (memType : UInt8) (pbuf : Memory) (block : UInt32) :
    Nat → Link → Progress
  | 0, link => ⟨[], .returned vscpErrorSuccess, link⟩
  | trycnt + 1, link =>
      let result := tryBlock device stale memType pbuf block link
      if result.1.rv = vscpErrorSuccess then ⟨[result.1], .returned vscpErrorSuccess, result.2⟩
      else if trycnt = 0 then ⟨[result.1], .returned result.1.rv, result.2⟩
      else (tryLoop device stale memType pbuf block trycnt result.2).after [result.1]

def blockLoop (device : Device) (stale : List Arrival → VscpEventEx) (memType : UInt8) (pbuf : Memory) :
    Nat → UInt32 → Link → Progress
  | 0, _, link => ⟨[], .returned vscpErrorSuccess, link⟩
  | left + 1, block, link =>
      let result := tryLoop device stale memType pbuf block 3 link
      if result.outcome ≠ .returned vscpErrorSuccess then result
      else (blockLoop device stale memType pbuf left (block + 1) result.link).after result.tries

def nBlocks (device : Device) (found : UInt32 × UInt32) : UInt32 :=
  (found.2 - found.1) / device.blockSize + if (found.2 - found.1) % device.blockSize ≠ 0 then 1 else 0

def startBlock (device : Device) (found : UInt32 × UInt32) : UInt32 := found.1 / device.blockSize

def rangeBuffer (device : Device) (around : Memory) (range : MemoryRange) (found : UInt32 × UInt32) : Except Int Memory :=
  fillMemoryBuffer device.memSegList around (device.blockSize * nBlocks device found) range.start range.stop
    (startBlock device found * device.blockSize) 0xff

def writeRange (device : Device) (stale : List Arrival → VscpEventEx) (around : Memory) (range : MemoryRange)
    (found : UInt32 × UInt32) (link : Link) : Progress :=
  match rangeBuffer device around range found with
  | .error code => ⟨[], .returned code, link⟩
  | .ok pbuf =>
      if ¬ device.statusCallback then ⟨[], .badFunctionCall, link⟩
      else blockLoop device stale range.type pbuf (nBlocks device found).toNat 0 link

def rangeLoop (device : Device) (stale : List Arrival → VscpEventEx) (around : Memory) :
    List MemoryRange → Int → Link → Progress
  | [], rv, link => ⟨[], .returned rv, link⟩
  | range :: rest, _, link =>
      match getMinMaxForRange device.memSegList range.start range.stop with
      | .error code => rangeLoop device stale around rest code link
      | .ok found =>
          if found.2 ≤ found.1 then rangeLoop device stale around rest vscpErrorSuccess link
          else
            let result := writeRange device stale around range found link
            if result.outcome ≠ .returned vscpErrorSuccess then result
            else (rangeLoop device stale around rest vscpErrorSuccess result.link).after result.tries

def deviceLoad (device : Device) (stale : List Arrival → VscpEventEx) (around : Memory) (link : Link) : Progress :=
  rangeLoop device stale around memoryRange vscpErrorSuccess link

def IsTry (device : Device) (stale : List Arrival → VscpEventEx) (memType : UInt8) (pbuf : Memory) (block : UInt32)
    (attempt : Try) : Prop :=
  ∃ link, attempt = (tryBlock device stale memType pbuf block link).1

theorem next_of_nat (first : UInt32) (k : Nat) : first + 1 + UInt32.ofNat k = first + UInt32.ofNat (k + 1) := by
  rw [UInt32.add_assoc, UInt32.ofNat_add, UInt32.add_comm 1]
  rfl

section Loops

variable (device : Device) (stale : List Arrival → VscpEventEx)

theorem try_loop_tries (memType : UInt8) (pbuf : Memory) (block : UInt32) (trycnt : Nat) (link : Link) :
    (∀ attempt ∈ (tryLoop device stale memType pbuf block trycnt link).tries,
        IsTry device stale memType pbuf block attempt) ∧
      (0 < trycnt → (tryLoop device stale memType pbuf block trycnt link).outcome = .returned vscpErrorSuccess →
        ∃ attempt ∈ (tryLoop device stale memType pbuf block trycnt link).tries, attempt.rv = vscpErrorSuccess) := by
  induction trycnt generalizing link with
  | zero => exact ⟨fun attempt member => absurd member List.not_mem_nil, fun none => absurd none (Nat.lt_irrefl 0)⟩
  | succ trycnt ih =>
      have first : IsTry device stale memType pbuf block (tryBlock device stale memType pbuf block link).1 := ⟨link, rfl⟩
      obtain ⟨are, succeeds⟩ := ih (tryBlock device stale memType pbuf block link).2
      rw [tryLoop]
      split
      · rename_i done
        refine ⟨fun attempt member => ?_, fun _ _ => ⟨_, List.mem_singleton_self _, done⟩⟩
        rw [List.mem_singleton.mp member]
        exact first
      split
      · rename_i failed last
        refine ⟨fun attempt member => ?_, fun _ outcome => ?_⟩
        · rw [List.mem_singleton.mp member]
          exact first
        · exact absurd (Outcome.returned.inj outcome) failed
      · rename_i failed more
        refine ⟨fun attempt member => ?_, fun _ outcome => ?_⟩
        · rcases List.mem_append.mp member with now | later
          · rw [List.mem_singleton.mp now]
            exact first
          · exact are attempt later
        · obtain ⟨attempt, member, done⟩ := succeeds (Nat.pos_of_ne_zero more) outcome
          exact ⟨attempt, List.mem_append_right _ member, done⟩

theorem block_loop_tries (memType : UInt8) (pbuf : Memory) (left : Nat) (block : UInt32) (link : Link) :
    (∀ attempt ∈ (blockLoop device stale memType pbuf left block link).tries,
        ∃ k < left, IsTry device stale memType pbuf (block + UInt32.ofNat k) attempt) ∧
      ((blockLoop device stale memType pbuf left block link).outcome = .returned vscpErrorSuccess → ∀ k < left,
        ∃ attempt ∈ (blockLoop device stale memType pbuf left block link).tries,
          IsTry device stale memType pbuf (block + UInt32.ofNat k) attempt ∧ attempt.rv = vscpErrorSuccess) := by
  induction left generalizing block link with
  | zero =>
      exact ⟨fun attempt member => absurd member List.not_mem_nil, fun _ k below => absurd below (Nat.not_lt_zero k)⟩
  | succ left ih =>
      obtain ⟨own, succeeds⟩ := try_loop_tries device stale memType pbuf block 3 link
      obtain ⟨others, rest⟩ := ih (block + 1) (tryLoop device stale memType pbuf block 3 link).link
      have here : block + UInt32.ofNat 0 = block := UInt32.add_zero block
      rw [blockLoop]
      split
      · rename_i failed
        refine ⟨fun attempt member => ⟨0, Nat.succ_pos _, ?_⟩, fun outcome => absurd outcome failed⟩
        rw [here]
        exact own attempt member
      · rename_i done
        refine ⟨fun attempt member => ?_, fun outcome k below => ?_⟩
        · rcases List.mem_append.mp member with now | later
          · refine ⟨0, Nat.succ_pos _, ?_⟩
            rw [here]
            exact own attempt now
          · obtain ⟨k, below, is⟩ := others attempt later
            exact ⟨k + 1, Nat.succ_lt_succ below, next_of_nat block k ▸ is⟩
        · cases k with
          | zero =>
              obtain ⟨attempt, member, succeeded⟩ := succeeds (by decide) (not_not.mp done)
              refine ⟨attempt, List.mem_append_left _ member, ?_, succeeded⟩
              rw [here]
              exact own attempt member
          | succ k =>
              obtain ⟨attempt, member, is, succeeded⟩ := rest outcome k (Nat.lt_of_succ_lt_succ below)
              exact ⟨attempt, List.mem_append_right _ member, next_of_nat block k ▸ is, succeeded⟩

structure Loaded (around : Memory) (range : MemoryRange) (found : UInt32 × UInt32) (pbuf : Memory) : Prop where
  bounds : getMinMaxForRange device.memSegList range.start range.stop = .ok found
  data : found.1 < found.2
  buffer : rangeBuffer device around range found = .ok pbuf

theorem write_range_tries (around : Memory) (range : MemoryRange) (found : UInt32 × UInt32) (link : Link) :
    (∀ attempt ∈ (writeRange device stale around range found link).tries, ∃ pbuf,
        rangeBuffer device around range found = .ok pbuf ∧ ∃ k < (nBlocks device found).toNat,
          IsTry device stale range.type pbuf (UInt32.ofNat k) attempt) ∧
      ((writeRange device stale around range found link).outcome = .returned vscpErrorSuccess → ∃ pbuf,
        rangeBuffer device around range found = .ok pbuf ∧ ∀ k < (nBlocks device found).toNat,
          ∃ attempt ∈ (writeRange device stale around range found link).tries,
            IsTry device stale range.type pbuf (UInt32.ofNat k) attempt ∧ attempt.rv = vscpErrorSuccess) := by
  unfold writeRange
  cases buffer : rangeBuffer device around range found with
  | error code =>
      refine ⟨fun attempt member => absurd member List.not_mem_nil, fun outcome => ?_⟩
      unfold rangeBuffer fillMemoryBuffer at buffer
      split at buffer
      · cases buffer
        cases outcome
      · cases buffer
  | ok pbuf =>
      dsimp only
      split
      · exact ⟨fun attempt member => absurd member List.not_mem_nil, fun outcome => by cases outcome⟩
      · obtain ⟨are, succeeds⟩ := block_loop_tries device stale range.type pbuf (nBlocks device found).toNat 0 link
        simp only [UInt32.zero_add] at are succeeds
        exact ⟨fun attempt member => ⟨pbuf, rfl, are attempt member⟩, fun outcome => ⟨pbuf, rfl, succeeds outcome⟩⟩

theorem range_loop_tries (around : Memory) (ranges : List MemoryRange) (rv : Int) (link : Link) :
    (∀ attempt ∈ (rangeLoop device stale around ranges rv link).tries, ∃ range ∈ ranges, ∃ found pbuf,
        Loaded device around range found pbuf ∧ ∃ k < (nBlocks device found).toNat,
          IsTry device stale range.type pbuf (UInt32.ofNat k) attempt) ∧
      ((rangeLoop device stale around ranges rv link).outcome = .returned vscpErrorSuccess → ∀ range ∈ ranges, ∀ found,
        getMinMaxForRange device.memSegList range.start range.stop = .ok found → found.1 < found.2 → ∃ pbuf,
          Loaded device around range found pbuf ∧ ∀ k < (nBlocks device found).toNat,
            ∃ attempt ∈ (rangeLoop device stale around ranges rv link).tries,
              IsTry device stale range.type pbuf (UInt32.ofNat k) attempt ∧ attempt.rv = vscpErrorSuccess) := by
  induction ranges generalizing rv link with
  | nil =>
      exact ⟨fun attempt member => absurd member List.not_mem_nil, fun _ range member => absurd member List.not_mem_nil⟩
  | cons first rest ih =>
      rw [rangeLoop]
      cases bounds : getMinMaxForRange device.memSegList first.start first.stop with
      | error code =>
          obtain ⟨are, succeeds⟩ := ih code link
          refine ⟨fun attempt member => ?_, fun outcome range member found answer data => ?_⟩
          · obtain ⟨range, inside, is⟩ := are attempt member
            exact ⟨range, List.mem_cons_of_mem _ inside, is⟩
          · rcases List.mem_cons.mp member with rfl | later
            · rw [bounds] at answer
              cases answer
            · exact succeeds outcome range later found answer data
      | ok found =>
          dsimp only
          split
          · rename_i empty
            obtain ⟨are, succeeds⟩ := ih vscpErrorSuccess link
            refine ⟨fun attempt member => ?_, fun outcome range member other answer data => ?_⟩
            · obtain ⟨range, inside, is⟩ := are attempt member
              exact ⟨range, List.mem_cons_of_mem _ inside, is⟩
            · rcases List.mem_cons.mp member with rfl | later
              · rw [bounds] at answer
                obtain rfl := Except.ok.inj answer
                exact absurd data (UInt32.not_lt.mpr empty)
              · exact succeeds outcome range later other answer data
          · rename_i data
            obtain ⟨own, written⟩ := write_range_tries device stale around first found link
            obtain ⟨are, succeeds⟩ := ih vscpErrorSuccess (writeRange device stale around first found link).link
            have mine (attempt : Try) (member : attempt ∈ (writeRange device stale around first found link).tries) :
                ∃ range ∈ first :: rest, ∃ found pbuf, Loaded device around range found pbuf ∧
                  ∃ k < (nBlocks device found).toNat, IsTry device stale range.type pbuf (UInt32.ofNat k) attempt := by
              obtain ⟨pbuf, buffer, k, below, is⟩ := own attempt member
              exact ⟨first, List.mem_cons_self, found, pbuf, ⟨bounds, UInt32.not_le.mp data, buffer⟩, k, below, is⟩
            split
            · rename_i failed
              exact ⟨mine, fun outcome => absurd outcome failed⟩
            · rename_i done
              refine ⟨fun attempt member => ?_, fun outcome range member other answer more => ?_⟩
              · rcases List.mem_append.mp member with now | later
                · exact mine attempt now
                · obtain ⟨range, inside, is⟩ := are attempt later
                  exact ⟨range, List.mem_cons_of_mem _ inside, is⟩
              · rcases List.mem_cons.mp member with rfl | later
                · rw [bounds] at answer
                  obtain rfl := Except.ok.inj answer
                  obtain ⟨pbuf, buffer, all⟩ := written (not_not.mp done)
                  refine ⟨pbuf, ⟨bounds, more, buffer⟩, fun k below => ?_⟩
                  obtain ⟨attempt, inside, is⟩ := all k below
                  exact ⟨attempt, List.mem_append_left _ inside, is⟩
                · obtain ⟨pbuf, loaded, all⟩ := succeeds outcome range later other answer more
                  refine ⟨pbuf, loaded, fun k below => ?_⟩
                  obtain ⟨attempt, inside, is⟩ := all k below
                  exact ⟨attempt, List.mem_append_right _ inside, is⟩

end Loops

end Vscp.BootVscp
