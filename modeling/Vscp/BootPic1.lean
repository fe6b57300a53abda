import Vscp.BootImage
import Vscp.Canal

set_option autoImplicit false

namespace Vscp.BootPic1

open Boot ByteMemory

structure MemoryArea where
  start : UInt32
  stop : UInt32
deriving DecidableEq

def memoryArea : List MemoryArea :=
  [⟨0x000000, 0x1fffff⟩, ⟨0x200000, 0x2fffff⟩, ⟨0x300000, 0x3fffff⟩, ⟨0xf00000, 0xffffff⟩]

def modeWrtUnlck : UInt8 := 0x01
def modeAutoErase : UInt8 := 0x04
def modeAutoInc : UInt8 := 0x08
def modeAck : UInt8 := 0x10

def cmdNop : UInt8 := 0x00
def cmdRstChksm : UInt8 := 0x02

def idPutBaseInfo : UInt64 := 0x00001000
def idPutData : UInt64 := 0x00001100
def idResponsePutBaseInfo : UInt64 := 0x00001400
def idResponsePutData : UInt64 := 0x00001500

def vscpClass1Protocol : UInt16 := 0
def vscpClass2Protocol1 : UInt16 := 512

-- `frames` is a client of type CANAL or SOCKETCAN; any other takes events.
structure Device where
  frames : Bool
  nodeid : UInt8
  guid : Guid
  guidif : Guid
  memSegList : List CBootMemSegment

structure Poll (α : Type) where
  got : Option α
  late : Bool

structure Link where
  sends : List Int
  messages : List (Poll CanalMsg)
  events : List (Poll VscpEventEx)
  handshake : Bool

structure Wait (α : Type) where
  rv : Int
  took : Option α
  rest : List (Poll α)

def isResponse (device : Device) (responseId : UInt64) (msg : CanalMsg) : Bool :=
  msg.id &&& 0xffffff00 = responseId ∧ msg.id &&& 0xff = device.nodeid.toUInt64

def checkResponseLevel1 (device : Device) (responseId : UInt64) : List (Poll CanalMsg) → Wait CanalMsg
  | [] => ⟨VscpError.timeout.code, none, []⟩
  | poll :: rest =>
      match poll.got with
      | some msg =>
          if isResponse device responseId msg then ⟨vscpErrorSuccess, some msg, rest⟩
          else if poll.late then ⟨VscpError.timeout.code, none, rest⟩
          else checkResponseLevel1 device responseId rest
      | none => if poll.late then ⟨VscpError.timeout.code, none, rest⟩ else checkResponseLevel1 device responseId rest

def isNodeEvent (device : Device) (ex : VscpEventEx) : Bool :=
  vscpClass1Protocol = ex.vscpClass ∧ getLSB device.guid = getLSB ex.guid

-- The id to look for is not used. An event that comes in is a success whatever it is, and where there is
-- none the test is made on `ex` as it is, which nothing has been received into.
def checkResponseLevel2 (device : Device) (ex : VscpEventEx) : List (Poll VscpEventEx) → Wait VscpEventEx
  | [] => ⟨VscpError.timeout.code, none, []⟩
  | poll :: rest =>
      match poll.got with
      | some received => ⟨vscpErrorSuccess, some received, rest⟩
      | none =>
          if isNodeEvent device ex then ⟨vscpErrorSuccess, none, rest⟩
          else if poll.late then ⟨VscpError.timeout.code, none, rest⟩
          else checkResponseLevel2 device ex rest

def frameOf (id : UInt64) (data : Vector UInt8 8) : CanalMsg := ⟨canalIdFlagExtended, 0, id, 8, data, 0⟩

def baseInfo (device : Device) (addr : UInt32) (flags cmd cmdData0 cmdData1 : UInt8) : CanalMsg :=
  frameOf (idPutBaseInfo + device.nodeid.toUInt64)
    #v[addr.toUInt8, (addr >>> 8).toUInt8, (addr >>> 16).toUInt8, (addr >>> 24).toUInt8, flags, cmd, cmdData0, cmdData1]

structure Control where
  sent : CanalMsg
  rv : Int

def writeDeviceControlRegs (device : Device) (addr : UInt32) (flags cmd cmdData0 cmdData1 : UInt8) (link : Link) :
    Control × Link :=
  let msg := baseInfo device addr flags cmd cmdData0 cmdData1
  let rv := link.sends.headD vscpErrorSuccess
  let link := { link with sends := link.sends.tail, handshake := flags &&& modeAck ≠ 0 }
  if rv ≠ vscpErrorSuccess then (⟨msg, rv⟩, link)
  else if link.handshake then
    let wait := checkResponseLevel1 device idResponsePutBaseInfo link.messages
    (⟨msg, wait.rv⟩, { link with messages := wait.rest })
  else (⟨msg, vscpErrorSuccess⟩, link)

def defaultFlags : UInt8 := modeWrtUnlck ||| modeAutoErase ||| modeAutoInc ||| modeAck

inductive Sent
  | message (msg : CanalMsg)
  | event (ex : VscpEventEx)

-- What the device writes, behind the GUID of the interface in an event.
def Sent.payload : Sent → Bytes
  | .message msg => msg.data.toList
  | .event ex => (ex.data.toList.take 24).drop 16

structure Sector where
  sent : Sent
  rv : Int
  message : Option CanalMsg
  event : Option VscpEventEx

def putData (device : Device) (paddr : Memory) (place : Nat) : Sent :=
  if device.frames then .message (frameOf idPutData (Vector.ofFn fun i => paddr (place + i.val)))
  else
    .event { emptyEventEx with
      vscpClass := vscpClass2Protocol1
      vscpType := (idPutData >>> 8).toUInt16
      sizeData := 16 + 8
      data := overlay (device.guidif.toList ++ bytesAt paddr place 8) 24 emptyEventEx.data }

def writeFirmwareSector (device : Device) (stale : List (Poll VscpEventEx) → VscpEventEx) (paddr : Memory) (place : Nat)
    (link : Link) : Sector × Link :=
  let sent := putData device paddr place
  let rv := link.sends.headD vscpErrorSuccess
  let link := { link with sends := link.sends.tail }
  if rv ≠ vscpErrorSuccess then (⟨sent, rv, none, none⟩, link)
  else if ¬ link.handshake then (⟨sent, vscpErrorSuccess, none, none⟩, link)
  else if device.frames then
    let wait := checkResponseLevel1 device idResponsePutData link.messages
    (⟨sent, wait.rv, wait.took, none⟩, { link with messages := wait.rest })
  else
    let wait := checkResponseLevel2 device (stale link.events) link.events
    (⟨sent, wait.rv, none, wait.took⟩, { link with events := wait.rest })

def sectorLoop (device : Device) (stale : List (Poll VscpEventEx) → VscpEventEx) (pbuf : Memory) :
    Nat → Nat → Link → List Sector × Link
  | 0, _, link => ([], link)
  | left + 1, place, link =>
      let result := writeFirmwareSector device stale pbuf place link
      if result.1.rv ≠ vscpErrorSuccess then ([result.1], result.2)
      else
        let later := sectorLoop device stale pbuf left (place + 8) result.2
        (result.1 :: later.1, later.2)

structure Written where
  area : MemoryArea
  control : Control
  sectors : List Sector

structure Block where
  rv : Int
  written : List Written
  link : Link

def nPackets (found : UInt32 × UInt32) : UInt32 :=
  (found.2 - found.1) / 8 + if (found.2 - found.1) % 8 ≠ 0 then 1 else 0

-- `around` is the memory the buffer lies in.
def areaBuffer (device : Device) (around : Memory) (area : MemoryArea) : Except Int Memory :=
  fillMemoryBuffer device.memSegList around (area.stop - area.start + 1) area.start area.stop 0 0xff

def writeFirmwareBlock (device : Device) (stale : List (Poll VscpEventEx) → VscpEventEx) (around : Memory)
    (area : MemoryArea) (link : Link) : Block :=
  if area.stop - area.start + 1 = 0 then ⟨vscpErrorSuccess, [], link⟩
  else
    match getMinMaxForRange device.memSegList area.start area.stop with
    | .error code => ⟨code, [], link⟩
    | .ok found =>
        if found = (0, 0) then ⟨vscpErrorSuccess, [], link⟩
        else if found.2 ≤ found.1 then ⟨vscpErrorSuccess, [], link⟩
        else
          match areaBuffer device around area with
          | .error code => ⟨code, [], link⟩
          | .ok pbuf =>
              let control := writeDeviceControlRegs device found.1 defaultFlags cmdNop 0 0 link
              if control.1.rv ≠ vscpErrorSuccess then ⟨control.1.rv, [], control.2⟩
              else
                let sent := sectorLoop device stale pbuf (nPackets found).toNat (found.1 - area.start).toNat control.2
                ⟨vscpErrorSuccess, [⟨area, control.1, sent.1⟩], sent.2⟩

def areaLoop (device : Device) (stale : List (Poll VscpEventEx) → VscpEventEx) (around : Memory) :
    List MemoryArea → Link → Block
  | [], link => ⟨vscpErrorSuccess, [], link⟩
  | area :: rest, link =>
      let block := writeFirmwareBlock device stale around area link
      if block.rv ≠ vscpErrorSuccess then block
      else
        let later := areaLoop device stale around rest block.link
        { later with written := block.written ++ later.written }

def deviceLoad (device : Device) (stale : List (Poll VscpEventEx) → VscpEventEx) (around : Memory) (link : Link) : Block :=
  let control := writeDeviceControlRegs device 0 defaultFlags cmdRstChksm 0 0 link
  if control.1.rv ≠ vscpErrorSuccess then ⟨VscpError.communication.code, [], control.2⟩
  else areaLoop device stale around memoryArea control.2

def baseOf (msg : CanalMsg) : Nat :=
  (msg.data.get 0).toNat + 2 ^ 8 * (msg.data.get 1).toNat + 2 ^ 16 * (msg.data.get 2).toNat +
    2 ^ 24 * (msg.data.get 3).toNat

def NodeAnswered (device : Device) (sector : Sector) : Prop :=
  if device.frames then ∃ msg ∈ sector.message, isResponse device idResponsePutData msg
  else ∃ ex ∈ sector.event, isNodeEvent device ex ∧ ex.vscpType = (idResponsePutData >>> 8).toUInt16

structure Acknowledged (device : Device) (sector : Sector) : Prop where
  rv : sector.rv = vscpErrorSuccess
  answer : NodeAnswered device sector

-- Every byte the image has in an area goes over at its address, the others are the fill,
-- and the node has acknowledged each sector.
structure LoadSent (device : Device) (written : List Written) : Prop where
  sent : ∀ area ∈ memoryArea, ∀ address, area.start.toNat ≤ address → address ≤ area.stop.toNat →
    segmentImage device.memSegList address ≠ none → ∃ block ∈ written, block.area = area ∧
      baseOf block.control.sent ≤ address ∧ address < baseOf block.control.sent + 8 * block.sectors.length
  right : ∀ block ∈ written, ∀ i sector, block.sectors[i]? = some sector → ∀ j < 8,
    baseOf block.control.sent + (8 * i + j) ≤ block.area.stop.toNat → sector.sent.payload[j]? =
      some ((segmentImage device.memSegList (baseOf block.control.sent + (8 * i + j))).getD 0xff)
  acknowledged : ∀ block ∈ written, ∀ sector ∈ block.sectors, Acknowledged device sector

theorem base_of_base_info (device : Device) (addr : UInt32) (flags cmd cmdData0 cmdData1 : UInt8) :
    baseOf (baseInfo device addr flags cmd cmdData0 cmdData1) = addr.toNat := by
  have below := addr.toNat_lt
  change addr.toUInt8.toNat + 2 ^ 8 * (addr >>> 8).toUInt8.toNat + 2 ^ 16 * (addr >>> 16).toUInt8.toNat +
    2 ^ 24 * (addr >>> 24).toUInt8.toNat = _
  simp only [UInt32.toNat_toUInt8, UInt32.toNat_shiftRight, Nat.shiftRight_eq_div_pow, UInt32.reduceToNat,
    Nat.reduceMod]
  omega

theorem control_hands_shake (device : Device) (addr : UInt32) (cmd cmdData0 cmdData1 : UInt8) (link : Link) :
    (writeDeviceControlRegs device addr defaultFlags cmd cmdData0 cmdData1 link).2.handshake = true ∧
      (writeDeviceControlRegs device addr defaultFlags cmd cmdData0 cmdData1 link).1.sent =
        baseInfo device addr defaultFlags cmd cmdData0 cmdData1 := by
  unfold writeDeviceControlRegs
  dsimp only
  split
  · exact ⟨rfl, rfl⟩
  · exact ⟨rfl, rfl⟩

theorem level1_answer (device : Device) (responseId : UInt64) (messages : List (Poll CanalMsg))
    (success : (checkResponseLevel1 device responseId messages).rv = vscpErrorSuccess) :
    ∃ msg ∈ (checkResponseLevel1 device responseId messages).took, isResponse device responseId msg := by
  have timeout : VscpError.timeout.code ≠ vscpErrorSuccess := by decide
  induction messages with
  | nil => exact absurd success timeout
  | cons poll rest ih =>
      unfold checkResponseLevel1 at success ⊢
      cases got : poll.got with
      | none =>
          simp only [got] at success ⊢
          split at success
          · exact absurd success timeout
          · rename_i more
            rw [if_neg more]
            exact ih success
      | some msg =>
          simp only [got] at success ⊢
          by_cases own : isResponse device responseId msg
          · rw [if_pos own]
            exact ⟨msg, rfl, own⟩
          rw [if_neg own] at success ⊢
          split at success
          · exact absurd success timeout
          · rename_i more
            rw [if_neg more]
            exact ih success

theorem put_data_payload (device : Device) (paddr : Memory) (place : Nat) :
    (putData device paddr place).payload = bytesAt paddr place 8 := by
  unfold putData
  split
  · rfl
  · have length : (device.guidif.toList ++ bytesAt paddr place 8).length = 24 := by
      rw [List.length_append, Vector.length_toList, bytes_at_length]
    have front := overlay_front (device.guidif.toList ++ bytesAt paddr place 8) (by rw [length]; decide) emptyEventEx.data
    rw [length] at front
    change (List.take 24 _).drop 16 = _
    rw [front, List.drop_left' (Vector.length_toList)]

section Sectors

variable (device : Device) (stale : List (Poll VscpEventEx) → VscpEventEx) (pbuf : Memory)

theorem sector_facts (place : Nat) (link : Link) (shakes : link.handshake = true) :
    (writeFirmwareSector device stale pbuf place link).1.sent = putData device pbuf place ∧
      (writeFirmwareSector device stale pbuf place link).2.handshake = true ∧
      (device.frames = true → (writeFirmwareSector device stale pbuf place link).1.rv = vscpErrorSuccess →
        NodeAnswered device (writeFirmwareSector device stale pbuf place link).1) := by
  unfold writeFirmwareSector
  dsimp only
  split
  · rename_i failed
    exact ⟨rfl, shakes, fun _ success => absurd success failed⟩
  · split
    · rename_i frames
      refine ⟨rfl, shakes, fun _ success => ?_⟩
      rw [NodeAnswered, if_pos frames]
      exact level1_answer device idResponsePutData link.messages success
    · rename_i events
      exact ⟨rfl, shakes, fun frames => absurd frames events⟩

theorem sector_loop_sectors (left place : Nat) (link : Link) (shakes : link.handshake = true) (i : Nat)
    (sector : Sector) (get : (sectorLoop device stale pbuf left place link).1[i]? = some sector) :
    sector.sent = putData device pbuf (place + 8 * i) ∧
      (device.frames = true → sector.rv = vscpErrorSuccess → NodeAnswered device sector) := by
  induction left generalizing place link i with
  | zero => cases get
  | succ left ih =>
      obtain ⟨sent, still, answer⟩ := sector_facts device stale pbuf place link shakes
      rw [sectorLoop] at get
      dsimp only at get
      split at get
      · cases i with
        | zero =>
            obtain rfl := Option.some.inj get
            exact ⟨sent, answer⟩
        | succ i => cases get
      · cases i with
        | zero =>
            obtain rfl := Option.some.inj get
            exact ⟨sent, answer⟩
        | succ i =>
            have later := ih (place + 8) _ still i get
            rwa [Nat.add_assoc, Nat.add_comm 8, ← Nat.mul_succ] at later

theorem sector_loop_complete (left place : Nat) (link : Link)
    (all : ∀ sector ∈ (sectorLoop device stale pbuf left place link).1, sector.rv = vscpErrorSuccess) :
    (sectorLoop device stale pbuf left place link).1.length = left := by
  induction left generalizing place link with
  | zero => rfl
  | succ left ih =>
      rw [sectorLoop] at all ⊢
      dsimp only at all ⊢
      split at all
      · rename_i failed
        exact absurd (all _ (List.mem_singleton_self _)) failed
      · rename_i sent
        rw [if_neg sent, List.length_cons, ih _ _ fun sector member => all sector (List.mem_cons_of_mem _ member)]

end Sectors

def IsWritten (device : Device) (stale : List (Poll VscpEventEx) → VscpEventEx) (around : Memory) (found : UInt32 × UInt32)
    (pbuf : Memory) (block : Written) : Prop :=
  getMinMaxForRange device.memSegList block.area.start block.area.stop = .ok found ∧ found.1 < found.2 ∧
    areaBuffer device around block.area = .ok pbuf ∧ baseOf block.control.sent = found.1.toNat ∧
    ∃ link, link.handshake = true ∧ block.sectors =
      (sectorLoop device stale pbuf (nPackets found).toNat (found.1 - block.area.start).toNat link).1

section Areas

variable (device : Device) (stale : List (Poll VscpEventEx) → VscpEventEx) (around : Memory)

theorem firmware_block_written (area : MemoryArea) (link : Link) :
    (∀ block ∈ (writeFirmwareBlock device stale around area link).written, block.area = area ∧
        ∃ found pbuf, IsWritten device stale around found pbuf block) ∧
      ((writeFirmwareBlock device stale around area link).rv = vscpErrorSuccess →
        area.stop - area.start + 1 ≠ 0 → ∀ found, getMinMaxForRange device.memSegList area.start area.stop = .ok found →
          found.1 < found.2 → ∃ block ∈ (writeFirmwareBlock device stale around area link).written, block.area = area) := by
  unfold writeFirmwareBlock
  split
  · rename_i empty
    exact ⟨fun block member => absurd member List.not_mem_nil, fun _ some => absurd empty some⟩
  cases bounds : getMinMaxForRange device.memSegList area.start area.stop with
  | error code => exact ⟨fun block member => absurd member List.not_mem_nil, fun _ _ found answer => by cases answer⟩
  | ok found =>
      dsimp only
      split
      · rename_i none
        refine ⟨fun block member => absurd member List.not_mem_nil, fun _ _ other answer data => ?_⟩
        obtain rfl := Except.ok.inj answer
        rw [none] at data
        exact absurd data (UInt32.lt_irrefl 0)
      split
      · rename_i empty
        refine ⟨fun block member => absurd member List.not_mem_nil, fun _ _ other answer data => ?_⟩
        obtain rfl := Except.ok.inj answer
        exact absurd data (UInt32.not_lt.mpr empty)
      rename_i data
      cases buffer : areaBuffer device around area with
      | error code =>
          refine ⟨fun block member => absurd member List.not_mem_nil, fun success => ?_⟩
          unfold areaBuffer fillMemoryBuffer at buffer
          split at buffer
          · cases buffer
            exact absurd success (show vscpErrorSize ≠ vscpErrorSuccess by decide)
          · cases buffer
      | ok pbuf =>
          dsimp only
          obtain ⟨shakes, sent⟩ := control_hands_shake device found.1 cmdNop 0 0 link
          split
          · rename_i failed
            exact ⟨fun block member => absurd member List.not_mem_nil, fun success => absurd success failed⟩
          · refine ⟨fun block member => ?_, fun _ _ _ _ _ => ⟨_, List.mem_singleton_self _, rfl⟩⟩
            rw [List.mem_singleton.mp member]
            refine ⟨rfl, found, pbuf, bounds, UInt32.not_le.mp data, buffer, ?_, _, shakes, rfl⟩
            exact (congrArg baseOf sent).trans (base_of_base_info device found.1 defaultFlags cmdNop 0 0)

theorem area_loop_written (areas : List MemoryArea) (sized : ∀ area ∈ areas, area.stop - area.start + 1 ≠ 0)
    (link : Link) :
    (∀ block ∈ (areaLoop device stale around areas link).written, block.area ∈ areas ∧
        ∃ found pbuf, IsWritten device stale around found pbuf block) ∧
      ((areaLoop device stale around areas link).rv = vscpErrorSuccess → ∀ area ∈ areas, ∀ found,
        getMinMaxForRange device.memSegList area.start area.stop = .ok found → found.1 < found.2 →
          ∃ block ∈ (areaLoop device stale around areas link).written, block.area = area) := by
  induction areas generalizing link with
  | nil =>
      exact ⟨fun block member => absurd member List.not_mem_nil, fun _ area member => absurd member List.not_mem_nil⟩
  | cons first rest ih =>
      obtain ⟨own, writes⟩ := firmware_block_written device stale around first link
      obtain ⟨others, later⟩ := ih (fun area member => sized area (List.mem_cons_of_mem _ member))
        (writeFirmwareBlock device stale around first link).link
      rw [areaLoop]
      dsimp only
      split
      · rename_i failed
        refine ⟨fun block member => ?_, fun success => absurd success failed⟩
        obtain ⟨area, is⟩ := own block member
        exact ⟨area ▸ List.mem_cons_self, is⟩
      · rename_i done
        refine ⟨fun block member => ?_, fun success area member found bounds data => ?_⟩
        · rcases List.mem_append.mp member with now | after
          · obtain ⟨area, is⟩ := own block now
            exact ⟨area ▸ List.mem_cons_self, is⟩
          · obtain ⟨area, is⟩ := others block after
            exact ⟨List.mem_cons_of_mem _ area, is⟩
        · rcases List.mem_cons.mp member with rfl | after
          · obtain ⟨block, inside, is⟩ := writes (not_not.mp done) (sized area List.mem_cons_self) found bounds data
            exact ⟨block, List.mem_append_left _ inside, is⟩
          · obtain ⟨block, inside, is⟩ := later success area after found bounds data
            exact ⟨block, List.mem_append_right _ inside, is⟩

theorem area_bounds (area : MemoryArea) (known : area ∈ memoryArea) : area.start < area.stop ∧
    area.stop.toNat < 2 ^ 24 ∧ area.stop - area.start + 1 ≠ 0 ∧
    (area.stop - area.start + 1).toNat = area.stop.toNat - area.start.toNat + 1 := by
  have bounds : ∀ area ∈ memoryArea, area.start < area.stop ∧ area.stop.toNat < 2 ^ 24 ∧
      area.stop - area.start + 1 ≠ 0 ∧
      (area.stop - area.start + 1).toNat = area.stop.toNat - area.start.toNat + 1 := by decide
  exact bounds area known

theorem load_written (link : Link) :
    (∀ block ∈ (deviceLoad device stale around link).written, block.area ∈ memoryArea ∧
        ∃ found pbuf, IsWritten device stale around found pbuf block) ∧
      ((deviceLoad device stale around link).rv = vscpErrorSuccess → ∀ area ∈ memoryArea, ∀ found,
        getMinMaxForRange device.memSegList area.start area.stop = .ok found → found.1 < found.2 →
          ∃ block ∈ (deviceLoad device stale around link).written, block.area = area) := by
  unfold deviceLoad
  dsimp only
  split
  · have failure : VscpError.communication.code ≠ vscpErrorSuccess := by decide
    exact ⟨fun block member => absurd member List.not_mem_nil, fun success => absurd success failure⟩
  · exact area_loop_written device stale around memoryArea (fun area known => (area_bounds area known).2.2.1) _

theorem sector_byte (block : Written) (found : UInt32 × UInt32) (pbuf : Memory)
    (is : IsWritten device stale around found pbuf block) (i : Nat) (sector : Sector)
    (get : block.sectors[i]? = some sector) (j : Nat) (few : j < 8) :
    block.area.start.toNat ≤ baseOf block.control.sent ∧ sector.sent.payload[j]? =
      some (pbuf (baseOf block.control.sent + (8 * i + j) - block.area.start.toNat)) := by
  obtain ⟨bounds, data, _, base, link, shakes, sectors⟩ := is
  rw [sectors] at get
  obtain ⟨lowest, _, start, after, _⟩ := min_address_of_segment _ _ _ found bounds data
  rw [start] at after
  have above : block.area.start.toNat ≤ found.1.toNat := UInt32.le_iff_toNat_le.mp after
  rw [(sector_loop_sectors device stale pbuf _ _ link shakes i sector get).1, put_data_payload,
    bytes_at_get _ _ _ _ few, UInt32.toNat_sub_of_le _ _ after, base]
  refine ⟨above, congrArg (some ∘ pbuf) ?_⟩
  omega

theorem area_buffer (area : MemoryArea) (known : area ∈ memoryArea) (pbuf : Memory)
    (buffer : areaBuffer device around area = .ok pbuf) :
    pbuf = device.memSegList.foldl (fillStep area.start area.stop 0) fun i =>
      if i < area.stop.toNat - area.start.toNat + 1 then 0xff else around i := by
  obtain ⟨_, _, some, size⟩ := area_bounds area known
  unfold areaBuffer fillMemoryBuffer at buffer
  rw [if_neg some] at buffer
  rw [← size]
  exact (Except.ok.inj buffer).symm

theorem n_packets_reach (found : UInt32 × UInt32) (data : found.1 < found.2) :
    found.2.toNat - found.1.toNat ≤ 8 * (nPackets found).toNat := by
  have span : (found.2 - found.1).toNat = found.2.toNat - found.1.toNat :=
    UInt32.toNat_sub_of_le _ _ (UInt32.le_of_lt data)
  have below := (found.2 - found.1).toNat_lt
  rw [← span]
  unfold nPackets
  rw [UInt32.toNat_add, UInt32.toNat_div]
  split
  · change _ ≤ 8 * ((_ / 8 + 1) % 2 ^ 32)
    omega
  · rename_i none
    have none : (found.2 - found.1).toNat % 8 = 0 := by
      have value := congrArg UInt32.toNat (not_not.mp none)
      rwa [UInt32.toNat_mod] at value
    change _ ≤ 8 * ((_ / 8 + 0) % 2 ^ 32)
    omega

variable (link : Link)

theorem sent_of_inside (success : (deviceLoad device stale around link).rv = vscpErrorSuccess)
    (inside : ∀ area ∈ memoryArea, Inside area.start area.stop device.memSegList)
    (answered : ∀ block ∈ (deviceLoad device stale around link).written, ∀ sector ∈ block.sectors,
      sector.rv = vscpErrorSuccess ∧ (¬ device.frames → NodeAnswered device sector)) :
    LoadSent device (deviceLoad device stale around link).written := by
  obtain ⟨are, writes⟩ := load_written device stale around link
  constructor
  · intro area known address start stop defined
    obtain ⟨order, small, _⟩ := area_bounds area known
    obtain ⟨byte, image⟩ := Option.ne_none_iff_exists'.mp defined
    obtain ⟨pblk, member, _, i, few, same⟩ := image_value device.memSegList address byte image
    obtain ⟨after, ahead, taken⟩ := inside area known pblk member ⟨i, few, by omega, by omega⟩
    have first : pblk.startAddress.toNat ≤ area.stop.toNat := UInt32.le_iff_toNat_le.mp ahead
    have sizeBelow := pblk.segSize.toNat_lt
    have stopIs := stop_value pblk
    have found : ∃ found, getMinMaxForRange device.memSegList area.start area.stop = .ok found := by
      rw [getMinMaxForRange, if_neg (UInt32.not_le.mpr order)]
      exact ⟨_, rfl⟩
    obtain ⟨found, bounds⟩ := found
    obtain ⟨low, high⟩ := min_max_of_segment _ _ _ found bounds pblk member after ahead
    have low : found.1.toNat ≤ pblk.startAddress.toNat := UInt32.le_iff_toNat_le.mp low
    have high : pblk.stop.toNat ≤ found.2.toNat := UInt32.le_iff_toNat_le.mp high
    have data : found.1 < found.2 := UInt32.lt_iff_toNat_lt.mpr (by omega)
    obtain ⟨block, inLoad, ofArea⟩ := writes success area known found bounds data
    obtain ⟨_, own, pbuf, ownBounds, _, _, base, later, _, sectors⟩ := are block inLoad
    rw [ofArea] at ownBounds
    obtain rfl : found = own := Except.ok.inj (bounds.symm.trans ownBounds)
    have complete : block.sectors.length = (nPackets found).toNat := by
      rw [sectors]
      refine sector_loop_complete device stale pbuf _ _ later fun sector among => ?_
      rw [← sectors] at among
      exact (answered block inLoad sector among).1
    have reach := n_packets_reach found data
    refine ⟨block, inLoad, ofArea, ?_, ?_⟩
    · omega
    · rw [base, complete]
      omega
  · intro block inLoad i sector get j few within
    obtain ⟨known, found, pbuf, is⟩ := are block inLoad
    obtain ⟨order, small, _⟩ := area_bounds block.area known
    obtain ⟨above, byte⟩ := sector_byte device stale around block found pbuf is i sector get j few
    have place : block.area.start.toNat + (baseOf block.control.sent + (8 * i + j) - block.area.start.toNat) =
        baseOf block.control.sent + (8 * i + j) := by
      omega
    rw [byte, area_buffer device around block.area known pbuf is.2.2.1, filled_byte, place]
    · exact if_pos (by omega)
    · exact inside block.area known
    · omega
    · exact .inr (by omega)
  · intro block inLoad sector member
    obtain ⟨_, found, pbuf, _, _, _, _, later, shakes, sectors⟩ := are block inLoad
    obtain ⟨rv, event⟩ := answered block inLoad sector member
    refine ⟨rv, ?_⟩
    by_cases frames : device.frames
    · obtain ⟨i, get⟩ := List.mem_iff_getElem?.mp member
      rw [sectors] at get
      exact (sector_loop_sectors device stale pbuf _ _ later shakes i sector get).2 frames rv
    · exact event frames

theorem inside_of_sent (distinct : Distinct device.memSegList)
    (sent : LoadSent device (deviceLoad device stale around link).written) (area : MemoryArea)
    (known : area ∈ memoryArea) : Inside area.start area.stop device.memSegList := by
  intro pblk member touches
  obtain ⟨i, few, start, stop⟩ := touches
  have ends := distinct.ends pblk member
  have defined := image_of_segment device.memSegList pblk member i few
  rw [Nat.mod_eq_of_lt (by omega)] at start stop defined
  obtain ⟨block, inLoad, ofArea, low, high⟩ := sent.sent area known _ start stop defined
  obtain ⟨_, found, pbuf, is⟩ := (load_written device stale around link).1 block inLoad
  -- The sector the byte went over in, and its place there.
  obtain ⟨n, j, below, small, place⟩ : ∃ n j, n < block.sectors.length ∧ j < 8 ∧
      baseOf block.control.sent + (8 * n + j) = pblk.startAddress.toNat + i := by
    refine ⟨(pblk.startAddress.toNat + i - baseOf block.control.sent) / 8,
      (pblk.startAddress.toNat + i - baseOf block.control.sent) % 8, ?_, Nat.mod_lt _ (by decide), ?_⟩
    · omega
    · omega
  have get := List.getElem?_eq_getElem below
  obtain ⟨_, byte⟩ := sector_byte device stale around block found pbuf is n _ get j small
  have right := sent.right block inLoad n _ get j small (by rw [place, ofArea]; exact stop)
  obtain ⟨value, image⟩ := Option.ne_none_iff_exists'.mp defined
  obtain ⟨holder, inList, inBytes, _⟩ := image_value device.memSegList _ value image
  have bytes := Option.some.inj (byte.symm.trans right)
  rw [place, image, Option.getD_some, ofArea,
    area_buffer device around area known pbuf (by rw [← ofArea]; exact is.2.2.1)] at bytes
  obtain ⟨other, among, after, taken, k, inside, same⟩ := fill_source device.memSegList area.start area.stop 0
    (fun i => if i < area.stop.toNat - area.start.toNat + 1 then 0xff else around i)
    (pblk.startAddress.toNat + i - area.start.toNat) (by
      rw [bytes, if_pos (by omega)]
      rintro rfl
      exact distinct.void holder inList inBytes)
  have beside := fill_place area.start other after
  obtain rfl := distinct.apart pblk member other among i few k inside (by omega)
  exact ⟨after, UInt32.le_iff_toNat_le.mpr (by omega), taken⟩

end Areas

theorem pic1_load_sent_iff (device : Device) (stale : List (Poll VscpEventEx) → VscpEventEx) (around : Memory)
    (link : Link) (success : (deviceLoad device stale around link).rv = vscpErrorSuccess) :
    let written := (deviceLoad device stale around link).written
    let fits := (∀ area ∈ memoryArea, Inside area.start area.stop device.memSegList) ∧
      ∀ block ∈ written, ∀ sector ∈ block.sectors,
        sector.rv = vscpErrorSuccess ∧ (¬ device.frames → NodeAnswered device sector)
    (fits → LoadSent device written) ∧ (Distinct device.memSegList → (LoadSent device written ↔ fits)) := by
  intro written fits
  have enough (fit : fits) : LoadSent device written := sent_of_inside device stale around link success fit.1 fit.2
  refine ⟨enough, fun distinct => ⟨fun sent => ⟨?_, ?_⟩, enough⟩⟩
  · exact inside_of_sent device stale around link distinct sent
  · intro block member sector among
    have acknowledged := sent.acknowledged block member sector among
    exact ⟨acknowledged.rv, fun _ => acknowledged.answer⟩

def sampleDevice : Device :=
  { frames := true, nodeid := 5, guid := Vector.replicate 16 5, guidif := Vector.replicate 16 0
    memSegList := [sampleSegment 0] }

def sampleResponse (id : UInt64) : Poll CanalMsg := ⟨some (frameOf (id + 5) (Vector.replicate 8 0)), false⟩

def goodLink : Link :=
  ⟨[], [sampleResponse idResponsePutBaseInfo, sampleResponse idResponsePutBaseInfo, sampleResponse idResponsePutData],
    [], true⟩

def silentLink : Link :=
  ⟨[], [sampleResponse idResponsePutBaseInfo, sampleResponse idResponsePutBaseInfo, ⟨none, true⟩], [], true⟩

def sampleLoad (link : Link) : Block := deviceLoad sampleDevice (fun _ => emptyEventEx) (fun _ => 0) link

theorem pic1_load_sent_iff_example :
    let written := (sampleLoad goodLink).written
    let fits := (∀ area ∈ memoryArea, Inside area.start area.stop sampleDevice.memSegList) ∧
      ∀ block ∈ written, ∀ sector ∈ block.sectors,
        sector.rv = vscpErrorSuccess ∧ (¬ sampleDevice.frames → NodeAnswered sampleDevice sector)
    (fits → LoadSent sampleDevice written) ∧
      (Distinct sampleDevice.memSegList → (LoadSent sampleDevice written ↔ fits)) :=
  pic1_load_sent_iff sampleDevice (fun _ => emptyEventEx) (fun _ => 0) goodLink (by decide)

-- The sector is not acknowledged, and the load is a success.
theorem silent_node_loaded :
    (sampleLoad silentLink).rv = vscpErrorSuccess ∧ ¬ LoadSent sampleDevice (sampleLoad silentLink).written := by
  refine ⟨by decide, fun sent => ?_⟩
  have failed : ∃ block ∈ (sampleLoad silentLink).written, ∃ sector ∈ block.sectors, sector.rv ≠ vscpErrorSuccess := by
    decide
  obtain ⟨block, member, sector, among, failure⟩ := failed
  exact failure (sent.acknowledged block member sector among).rv

end Vscp.BootPic1
