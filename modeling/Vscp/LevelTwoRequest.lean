import Vscp.RegisterBlock
import Vscp.Lib.Run

set_option autoImplicit false

namespace Vscp.RemoteTcp

open Registers (dataAt class1Protocol class2Level1Protocol typeExtendedPageRead typeExtendedPageWrite
  typeExtendedPageResponse priorityNormal)

def class2Protocol : UInt16 := 1024
def type2ReadRegister : UInt16 := 1
def type2WriteRegister : UInt16 := 2
def type2ReadWriteResponse : UInt16 := 3

def nullGuid : Guid := Vector.replicate 16 0

structure RegisterCall where
  reg : UInt32
  page : UInt16
  ifGUID : Guid
  bLevel2 : Bool
  -- The two timeouts of the client, and when the call began.
  errorTimeout : UInt32
  resendTimeout : UInt32
  startTime : UInt32

-- What one turn of the loop finds: how many events wait, the event that doCmdReceiveEx hands out, none where it fails,
-- and what the clock reads each time it is asked.
structure ClientTurn where
  available : Int
  received : Option VscpEvent
  clock : UInt32
  resendClock : UInt32

def clearTimestamp (e : VscpEventEx) : VscpEventEx := { e with timestampNs := e.timestampNs &&& 0xffffffff }

def requestEvent (e : VscpEventEx) (vscpClass vscpType : UInt16) (data : Bytes) : VscpEventEx :=
  { e with
    head := priorityNormal
    vscpClass := vscpClass
    vscpType := vscpType
    guid := nullGuid
    sizeData := UInt16.ofNat data.length
    data := overlay data data.length e.data }

def pageData (call : RegisterCall) (first dest : Guid) (last : UInt8) : Bytes :=
  first.toList ++ [dest.get Registers.nicknameIndex, (call.page >>> 8).toUInt8, call.page.toUInt8, call.reg.toUInt8, last]

def registerData (call : RegisterCall) (dest : Guid) (last : Bytes) : Bytes :=
  dest.toList ++ [(call.reg >>> 24).toUInt8, (call.reg >>> 16).toUInt8, (call.reg >>> 8).toUInt8, call.reg.toUInt8] ++ last

-- Only the two reads clear the time and the id of the event on the stack.
def readRequest (call : RegisterCall) (dest : Guid) (count : UInt8) (e : VscpEventEx) : VscpEventEx :=
  let e := { clearTimestamp e with obid := 0 }
  if call.ifGUID ≠ nullGuid then
    requestEvent e class2Level1Protocol typeExtendedPageRead (pageData call call.ifGUID dest count)
  else if call.bLevel2 then requestEvent e class2Protocol type2ReadRegister (registerData call dest [0, count])
  else requestEvent e class2Level1Protocol typeExtendedPageRead (pageData call dest dest count)

def writeRequest (call : RegisterCall) (dest : Guid) (value : UInt8) (e : VscpEventEx) : VscpEventEx :=
  if call.ifGUID ≠ nullGuid then
    requestEvent e class2Level1Protocol typeExtendedPageWrite (pageData call dest dest value)
  else if call.bLevel2 then requestEvent e class2Protocol type2WriteRegister (registerData call dest [value])
  else requestEvent e class2Level1Protocol typeExtendedPageWrite (pageData call dest dest value)

-- doCmdReceiveEx writes over the event structure it is given; none where there is nothing to take or it fails.
def receiveEx (e : VscpEventEx) (turn : ClientTurn) : Option VscpEventEx :=
  if 0 < turn.available then turn.received.bind (convertEventToEventEx e) else none

def responseRegister (e : VscpEventEx) : UInt32 :=
  ((dataAt e 0).toUInt32 <<< 24) + ((dataAt e 1).toUInt32 <<< 16) + ((dataAt e 2).toUInt32 <<< 8) + (dataAt e 3).toUInt32

def answersPage (call : RegisterCall) (offset : Nat) (e : VscpEventEx) : Bool :=
  dataAt e offset = 0 ∧ dataAt e (offset + 1) = (call.page >>> 8).toUInt8 ∧ dataAt e (offset + 2) = call.page.toUInt8 ∧
    call.reg = (dataAt e (offset + 3)).toUInt32

def ownByte (ev : VscpEvent) (index : Nat) : Option UInt8 := ev.dataBytes[index]?

def PageResponse (call : RegisterCall) (offset : Nat) (ev : VscpEvent) (byte : UInt8) : Prop :=
  ownByte ev offset = some 0 ∧ ownByte ev (offset + 1) = some (call.page >>> 8).toUInt8 ∧
    ownByte ev (offset + 2) = some call.page.toUInt8 ∧
    (∃ reg, ownByte ev (offset + 3) = some reg ∧ call.reg = reg.toUInt32) ∧ ownByte ev (offset + 4) = some byte

def RegisterResponse (call : RegisterCall) (ev : VscpEvent) (byte : UInt8) : Prop :=
  (∃ first second third fourth, ownByte ev 0 = some first ∧ ownByte ev 1 = some second ∧ ownByte ev 2 = some third ∧
    ownByte ev 3 = some fourth ∧
    call.reg = (first.toUInt32 <<< 24) + (second.toUInt32 <<< 16) + (third.toUInt32 <<< 8) + fourth.toUInt32) ∧
  ownByte ev 4 = some byte

def ResponseWith (call : RegisterCall) (dest : Guid) (ev : VscpEvent) (byte : UInt8) : Prop :=
  ev.guid = dest ∧
    ((ev.vscpClass = class1Protocol ∧ ev.vscpType = typeExtendedPageResponse ∧ PageResponse call 0 ev byte) ∨
      (ev.vscpClass = class2Level1Protocol ∧ ev.vscpType = typeExtendedPageResponse ∧ PageResponse call 16 ev byte) ∨
      (ev.vscpClass = class2Protocol ∧ ev.vscpType = type2ReadWriteResponse ∧ RegisterResponse call ev byte))

def Whole (ev : VscpEvent) : Prop := (if ev.vscpClass = class2Level1Protocol then 21 else 5) ≤ ev.sizeData.toNat

theorem own_byte_inside (ev : VscpEvent) (index : Nat) (byte : UInt8) (own : ownByte ev index = some byte) :
    index < ev.sizeData.toNat := by
  have inside := (List.getElem?_eq_some_iff.mp own).1
  rwa [VscpEvent.dataBytes, List.length_map, List.length_range] at inside

theorem data_at_overlaid (source : Bytes) (count : Nat) (e : VscpEventEx) {old : Vector UInt8 512}
    (written : e.data = overlay source count old) (index : Nat) (inside : index < count) (room : index < 512) :
    dataAt e index = source.getD index 0 := by
  have bound : index < e.data.toList.length := by
    rw [Vector.length_toList]
    exact room
  rw [dataAt, List.getD_eq_getElem _ _ bound, Vector.getElem_toList]
  simp only [written, overlay, Vector.getElem_ofFn, if_pos inside]

structure Held (ev : VscpEvent) (e : VscpEventEx) : Prop where
  vscpClass : e.vscpClass = ev.vscpClass
  vscpType : e.vscpType = ev.vscpType
  guid : e.guid = ev.guid
  sizeData : e.sizeData = ev.sizeData
  fits : ev.sizeData.toNat ≤ maxData
  data : ∀ index, index < ev.sizeData.toNat → ownByte ev index = some (dataAt e index)

theorem held_of_convert (old e : VscpEventEx) (ev : VscpEvent) (converted : convertEventToEventEx old ev = some e) :
    Held ev e := by
  rw [convertEventToEventEx] at converted
  by_cases refused : ev.sizeData.toNat > maxData ∨ (ev.sizeData ≠ 0 ∧ ev.pdata = none)
  · rw [if_pos refused] at converted
    cases converted
  rw [if_neg refused] at converted
  have result := Option.some_inj.mp converted
  have written : e.data = overlay (ev.pdata.getD []) ev.sizeData.toNat old.data := by rw [← result]
  have fits : ev.sizeData.toNat ≤ maxData := not_lt.mp fun long => refused (.inl long)
  refine ⟨by rw [← result], by rw [← result], by rw [← result], by rw [← result], fits, ?_⟩
  intro index inside
  simp only [ownByte, VscpEvent.dataBytes, List.getElem?_map, List.getElem?_range inside, Option.map_some]
  exact congrArg some (data_at_overlaid _ _ e written index inside (Nat.lt_of_lt_of_le inside fits)).symm

theorem receive_held (e held : VscpEventEx) (turn : ClientTurn) (got : receiveEx e turn = some held) :
    ∃ ev, turn.received = some ev ∧ Held ev held := by
  rw [receiveEx] at got
  split at got
  · obtain ⟨ev, received, converted⟩ := Option.bind_eq_some_iff.mp got
    exact ⟨ev, received, held_of_convert e held ev converted⟩
  · cases got

section held

variable (call : RegisterCall) (ev : VscpEvent) (e : VscpEventEx) (held : Held ev e)

include held

theorem held_own_iff (index : Nat) (byte : UInt8) :
    ownByte ev index = some byte ↔ index < ev.sizeData.toNat ∧ byte = dataAt e index := by
  constructor
  · intro own
    have inside := own_byte_inside ev index byte own
    exact ⟨inside, Option.some_inj.mp (own.symm.trans (held.data index inside))⟩
  · rintro ⟨inside, rfl⟩
    exact held.data index inside

theorem page_response_iff (offset : Nat) (byte : UInt8) :
    PageResponse call offset ev byte ↔
      offset + 5 ≤ ev.sizeData.toNat ∧ answersPage call offset e = true ∧ byte = dataAt e (offset + 4) := by
  rw [PageResponse, answersPage, decide_eq_true_iff]
  constructor
  · rintro ⟨index, high, low, ⟨reg, own, same⟩, value⟩
    have inside := own_byte_inside ev _ _ value
    obtain ⟨-, index⟩ := (held_own_iff ev e held _ _).mp index
    obtain ⟨-, high⟩ := (held_own_iff ev e held _ _).mp high
    obtain ⟨-, low⟩ := (held_own_iff ev e held _ _).mp low
    obtain ⟨-, own⟩ := (held_own_iff ev e held _ _).mp own
    obtain ⟨-, value⟩ := (held_own_iff ev e held _ _).mp value
    exact ⟨inside, ⟨index.symm, high.symm, low.symm, own ▸ same⟩, value⟩
  · rintro ⟨long, ⟨index, high, low, reg⟩, rfl⟩
    have own (further : Nat) (inside : further < 5) := held.data (offset + further) (by omega)
    refine ⟨?_, ?_, ?_, ⟨_, own 3 (by decide), reg⟩, own 4 (by decide)⟩
    · rw [← index]
      exact own 0 (by decide)
    · rw [← high]
      exact own 1 (by decide)
    · rw [← low]
      exact own 2 (by decide)

theorem register_response_iff (byte : UInt8) :
    RegisterResponse call ev byte ↔
      5 ≤ ev.sizeData.toNat ∧ responseRegister e = call.reg ∧ byte = dataAt e 4 := by
  constructor
  · rintro ⟨⟨first, second, third, fourth, own0, own1, own2, own3, same⟩, value⟩
    have inside := own_byte_inside ev _ _ value
    obtain ⟨-, rfl⟩ := (held_own_iff ev e held _ _).mp own0
    obtain ⟨-, rfl⟩ := (held_own_iff ev e held _ _).mp own1
    obtain ⟨-, rfl⟩ := (held_own_iff ev e held _ _).mp own2
    obtain ⟨-, rfl⟩ := (held_own_iff ev e held _ _).mp own3
    exact ⟨inside, same.symm, ((held_own_iff ev e held _ _).mp value).2⟩
  · rintro ⟨long, same, rfl⟩
    have own (index : Nat) (inside : index < 5) := held.data index (by omega)
    exact ⟨⟨_, _, _, _, own 0 (by decide), own 1 (by decide), own 2 (by decide), own 3 (by decide), same.symm⟩,
      own 4 (by decide)⟩

end held

end Vscp.RemoteTcp
