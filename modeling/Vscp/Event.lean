import Mathlib

set_option autoImplicit false

namespace Vscp

abbrev Bytes := List UInt8
abbrev Guid := Vector UInt8 16

inductive VscpError
  | error
  | fifoEmpty
  | notSupported
  | overrun
  | rcvEmpty
  | timeout
  | parameter
  | communication
  | connection
  | operationFailed
  | bufferTooSmall
  | alreadyDefined
  | stopped
  | notConnected
  | invalidFrame
  | read
deriving DecidableEq

def VscpError.code : VscpError → Int
  | .error => -1
  | .fifoEmpty => 8
  | .notSupported => 17
  | .overrun => 18
  | .rcvEmpty => 19
  | .timeout => 32
  | .parameter => 34
  | .communication => 37
  | .connection => 40
  | .operationFailed => 42
  | .bufferTooSmall => 43
  | .alreadyDefined => 45
  | .stopped => 47
  | .notConnected => 54
  | .invalidFrame => 63
  | .read => 66

-- `(int)` of a size_t, and what a loop counting up to it runs through.
def intOf (n : Nat) : Int := if n % 2 ^ 32 < 2 ^ 31 then n % 2 ^ 32 else n % 2 ^ 32 - 2 ^ 32
def intCount (n : Nat) : Nat := (intOf n).toNat

def maxData : Nat := 512
def headerNoCrc : UInt8 := 0x08
def frameVersionMask : UInt16 := 0x0300
def frameVersionUnixNs : UInt16 := 0x0100

-- `timestampNs` stands for the union of vscp_event_t: its eight bytes are also
-- day, hour, minute, second and the 32-bit timestamp, in memory order on a
-- little-endian host. `pdata` is none for a null pointer.
structure VscpEvent where
  head : UInt16
  obid : UInt32
  year : UInt16
  month : UInt8
  timestampNs : UInt64
  vscpClass : UInt16
  vscpType : UInt16
  guid : Guid
  sizeData : UInt16
  pdata : Option Bytes
  crc : UInt16
deriving DecidableEq

structure VscpEventEx where
  head : UInt16
  obid : UInt32
  year : UInt16
  month : UInt8
  timestampNs : UInt64
  crc : UInt16
  vscpClass : UInt16
  vscpType : UInt16
  guid : Guid
  sizeData : UInt16
  data : Vector UInt8 512
deriving DecidableEq

structure VscpEventFilter where
  filterPriority : UInt8
  maskPriority : UInt8
  filterClass : UInt16
  maskClass : UInt16
  filterType : UInt16
  maskType : UInt16
  filterGuid : Guid
  maskGuid : Guid
deriving DecidableEq

namespace VscpEvent

def day (ev : VscpEvent) : UInt8 := ev.timestampNs.toUInt8
def hour (ev : VscpEvent) : UInt8 := (ev.timestampNs >>> 8).toUInt8
def minute (ev : VscpEvent) : UInt8 := (ev.timestampNs >>> 16).toUInt8
def second (ev : VscpEvent) : UInt8 := (ev.timestampNs >>> 24).toUInt8
def timestamp (ev : VscpEvent) : UInt32 := (ev.timestampNs >>> 32).toUInt32

def dataBytes (ev : VscpEvent) : Bytes :=
  (List.range ev.sizeData.toNat).map fun i => (ev.pdata.getD []).getD i 0

end VscpEvent

def timeBlock (day hour minute second : UInt8) (timestamp : UInt32) : UInt64 :=
  day.toUInt64 ||| (hour.toUInt64 <<< 8) ||| (minute.toUInt64 <<< 16) ||| (second.toUInt64 <<< 24) |||
    (timestamp.toUInt64 <<< 32)

def frameVersion (head : UInt16) : UInt16 := head &&& frameVersionMask

def overlay (source : Bytes) (count : Nat) (old : Vector UInt8 512) : Vector UInt8 512 :=
  Vector.ofFn fun i => if i.val < count then source.getD i.val 0 else old.get i

def convertEventToEventEx (pex : VscpEventEx) (pev : VscpEvent) : Option VscpEventEx :=
  if pev.sizeData.toNat > maxData ∨ (pev.sizeData ≠ 0 ∧ pev.pdata = none) then none
  else
    let unixNs := frameVersion pev.head = frameVersionUnixNs
    some {
      head := pev.head
      crc := pev.crc
      obid := pev.obid
      year := if unixNs then 0xffff else pev.year
      month := if unixNs then 0xff else pev.month
      -- Both branches of the source copy the whole union.
      timestampNs := pev.timestampNs
      vscpClass := pev.vscpClass
      vscpType := pev.vscpType
      guid := pev.guid
      sizeData := pev.sizeData
      data := overlay (pev.pdata.getD []) pev.sizeData.toNat pex.data }

def convertEventExToEvent (pex : VscpEventEx) : Option VscpEvent :=
  if pex.sizeData.toNat > maxData then none
  else
    let unixNs := frameVersion pex.head = frameVersionUnixNs
    some {
      head := pex.head
      obid := pex.obid
      year := if unixNs then 0xffff else pex.year
      month := if unixNs then 0xff else pex.month
      timestampNs := pex.timestampNs
      vscpClass := pex.vscpClass
      vscpType := pex.vscpType
      guid := pex.guid
      sizeData := pex.sizeData
      pdata := if pex.sizeData = 0 then none else some (pex.data.toList.take pex.sizeData.toNat)
      crc := pex.crc }

def copyEvent (pevFrom : VscpEvent) : Option VscpEvent :=
  if pevFrom.sizeData.toNat > maxData then none
  else
    let unixNs := frameVersion pevFrom.head = frameVersionUnixNs
    some {
      head := pevFrom.head
      obid := pevFrom.obid
      year := if unixNs then 0xffff else pevFrom.year
      month := if unixNs then 0xff else pevFrom.month
      timestampNs :=
        if unixNs then pevFrom.timestampNs
        else timeBlock pevFrom.day pevFrom.hour pevFrom.minute pevFrom.second pevFrom.timestamp
      vscpClass := pevFrom.vscpClass
      vscpType := pevFrom.vscpType
      guid := pevFrom.guid
      sizeData := pevFrom.sizeData
      pdata := if pevFrom.sizeData = 0 then none else some pevFrom.dataBytes
      crc := pevFrom.crc }

def getEventPriority (pev : VscpEvent) : UInt8 := ((pev.head >>> 5) &&& 0x07).toUInt8

-- A filter bit counts where the mask has a one there.
def doLevel2Filter (pev : VscpEvent) (filter : VscpEventFilter) : Bool :=
  ~~~(filter.filterClass ^^^ pev.vscpClass) ||| ~~~filter.maskClass == 0xffff &&
  ~~~(filter.filterType ^^^ pev.vscpType) ||| ~~~filter.maskType == 0xffff &&
  ((List.finRange 16).all fun i =>
    ~~~(filter.filterGuid.get i ^^^ pev.guid.get i) ||| ~~~(filter.maskGuid.get i) == 0xff) &&
  ~~~(filter.filterPriority ^^^ getEventPriority pev) ||| ~~~filter.maskPriority == 0xff

def emptyEventEx : VscpEventEx := ⟨0, 0, 0, 0, 0, 0, 0, 0, Vector.replicate 16 0, 0, Vector.replicate 512 0⟩

def clearVSCPFilter : VscpEventFilter :=
  ⟨0, 0, 0, 0, 0, 0, Vector.replicate 16 0, Vector.replicate 16 0⟩

theorem overlay_front (source : Bytes) (room : source.length ≤ maxData) (old : Vector UInt8 512) :
    (overlay source source.length old).toList.take source.length = source := by
  have bound : source.length ≤ 512 := room
  apply List.ext_getElem
  · rw [List.length_take, Vector.length_toList]
    omega
  · intro i left right
    simp only [List.getElem_take, Vector.getElem_toList, overlay, Vector.getElem_ofFn, if_pos right]
    exact List.getD_eq_getElem _ _ right

theorem time_block_parts (ev : VscpEvent) :
    timeBlock ev.day ev.hour ev.minute ev.second ev.timestamp = ev.timestampNs := by
  simp only [timeBlock, VscpEvent.day, VscpEvent.hour, VscpEvent.minute, VscpEvent.second, VscpEvent.timestamp]
  apply UInt64.toBitVec_inj.mp
  apply BitVec.eq_of_getLsbD_eq
  intro i bound
  simp only [UInt64.toBitVec_or, UInt64.toBitVec_shiftLeft, UInt64.toBitVec_shiftRight, UInt8.toBitVec_toUInt64,
    UInt64.toBitVec_toUInt8, UInt32.toBitVec_toUInt64, UInt64.toBitVec_toUInt32, BitVec.getLsbD_or,
    BitVec.getLsbD_setWidth, UInt64.toBitVec_ofNat, BitVec.ofNat_eq_ofNat, BitVec.reduceMod, BitVec.ushiftRight_eq',
    BitVec.toNat_ofNat, Nat.reducePow, Nat.reduceMod, BitVec.shiftLeft_eq', BitVec.getLsbD_shiftLeft,
    BitVec.getLsbD_ushiftRight]
  generalize ev.timestampNs.toBitVec.getLsbD = bit
  grind

theorem int_of_small (n : Nat) (small : n < 2 ^ 31) : intOf n = n := by
  unfold intOf
  split <;> omega

theorem int_count_small (n : Nat) (small : n < 2 ^ 31) : intCount n = n := by
  rw [intCount, int_of_small n small, Int.toNat_natCast]

end Vscp
