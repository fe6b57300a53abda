import Vscp.EventFrame

set_option autoImplicit false

namespace Vscp

namespace VscpEventEx

def day (ex : VscpEventEx) : UInt8 := ex.timestampNs.toUInt8
def hour (ex : VscpEventEx) : UInt8 := (ex.timestampNs >>> 8).toUInt8
def minute (ex : VscpEventEx) : UInt8 := (ex.timestampNs >>> 16).toUInt8
def second (ex : VscpEventEx) : UInt8 := (ex.timestampNs >>> 24).toUInt8
def timestamp (ex : VscpEventEx) : UInt32 := (ex.timestampNs >>> 32).toUInt32

end VscpEventEx

-- The four functions with the target they are given, assignment by assignment; day to timestamp together make up
-- the whole union.
namespace Copies

def convertEventToEventEx (pex : VscpEventEx) (pev : VscpEvent) : Bool × VscpEventEx :=
  if pev.sizeData.toNat > maxData ∨ (pev.sizeData ≠ 0 ∧ pev.pdata = none) then (false, pex)
  else
    let pex := { pex with head := pev.head, crc := pev.crc, obid := pev.obid }
    let pex :=
      if frameVersion pex.head = frameVersionUnixNs then
        { pex with timestampNs := pev.timestampNs, year := 0xffff, month := 0xff }
      else
        { pex with
          year := pev.year
          month := pev.month
          timestampNs := timeBlock pev.day pev.hour pev.minute pev.second pev.timestamp }
    let pex :=
      { pex with
        obid := pev.obid
        vscpClass := pev.vscpClass
        vscpType := pev.vscpType
        sizeData := pev.sizeData
        guid := pev.guid }
    (true,
      if pev.sizeData ≠ 0 then { pex with data := overlay (pev.pdata.getD []) pev.sizeData.toNat pex.data } else pex)

def convertEventExToEvent (pev : VscpEvent) (pex : VscpEventEx) : Bool × VscpEvent :=
  if pex.sizeData.toNat > maxData then (false, pev)
  else
    let pev :=
      { pev with pdata := if pex.sizeData ≠ 0 then some (pex.data.toList.take pex.sizeData.toNat) else none }
    let pev := { pev with head := pex.head, crc := pex.crc, obid := pex.obid }
    let pev :=
      if frameVersion pex.head = frameVersionUnixNs then
        { pev with year := 0xffff, month := 0xff, timestampNs := pex.timestampNs }
      else
        { pev with
          year := pex.year
          month := pex.month
          timestampNs := timeBlock pex.day pex.hour pex.minute pex.second pex.timestamp }
    (true,
      { pev with
        obid := pex.obid
        vscpClass := pex.vscpClass
        vscpType := pex.vscpType
        sizeData := pex.sizeData
        guid := pex.guid })

def copyEvent (pevTo pevFrom : VscpEvent) : Bool × VscpEvent :=
  if pevFrom.sizeData.toNat > maxData then (false, pevTo)
  else
    let pevTo :=
      if frameVersion pevFrom.head = frameVersionUnixNs then
        { pevTo with year := 0xffff, month := 0xff, timestampNs := pevFrom.timestampNs }
      else
        { pevTo with
          year := pevFrom.year
          month := pevFrom.month
          timestampNs := timeBlock pevFrom.day pevFrom.hour pevFrom.minute pevFrom.second pevFrom.timestamp }
    let pevTo :=
      { pevTo with
        head := pevFrom.head
        crc := pevFrom.crc
        obid := pevFrom.obid
        vscpClass := pevFrom.vscpClass
        vscpType := pevFrom.vscpType
        sizeData := pevFrom.sizeData
        guid := pevFrom.guid }
    (true, { pevTo with pdata := if pevFrom.sizeData ≠ 0 then some pevFrom.dataBytes else none })

def copyEventEx (pexTo pexFrom : VscpEventEx) : Bool × VscpEventEx :=
  if pexFrom.sizeData.toNat > maxData then (false, pexTo)
  else
    let pexTo := { pexTo with head := pexFrom.head, crc := pexFrom.crc, obid := pexFrom.obid }
    let pexTo :=
      if frameVersion pexFrom.head = frameVersionUnixNs then
        { pexTo with year := 0xffff, month := 0xff, timestampNs := pexFrom.timestampNs }
      else
        { pexTo with
          year := pexFrom.year
          month := pexFrom.month
          timestampNs := timeBlock pexFrom.day pexFrom.hour pexFrom.minute pexFrom.second pexFrom.timestamp }
    let pexTo :=
      { pexTo with
        obid := pexFrom.obid
        vscpClass := pexFrom.vscpClass
        vscpType := pexFrom.vscpType
        sizeData := pexFrom.sizeData
        guid := pexFrom.guid
        data := overlay pexFrom.data.toList pexFrom.sizeData.toNat pexTo.data }
    (true,
      if pexFrom.sizeData ≠ 0 then
        { pexTo with data := overlay pexFrom.data.toList pexFrom.sizeData.toNat pexTo.data }
      else pexTo)

end Copies

inductive EventTime
  | unixNs (timestampNs : UInt64)
  | calendar (year : UInt16) (month day hour minute second : UInt8) (timestamp : UInt32)
deriving DecidableEq

structure EventContent where
  head : UInt16
  crc : UInt16
  obid : UInt32
  vscpClass : UInt16
  vscpType : UInt16
  guid : Guid
  sizeData : UInt16
  data : Bytes
  time : EventTime
deriving DecidableEq

def timeOf (head year : UInt16) (month : UInt8) (timestampNs : UInt64) : EventTime :=
  if frameVersion head = frameVersionUnixNs then .unixNs timestampNs
  else .calendar year month timestampNs.toUInt8 (timestampNs >>> 8).toUInt8 (timestampNs >>> 16).toUInt8
    (timestampNs >>> 24).toUInt8 (timestampNs >>> 32).toUInt32

def VscpEvent.content (ev : VscpEvent) : EventContent :=
  { head := ev.head
    crc := ev.crc
    obid := ev.obid
    vscpClass := ev.vscpClass
    vscpType := ev.vscpType
    guid := ev.guid
    sizeData := ev.sizeData
    data := ev.dataBytes
    time := timeOf ev.head ev.year ev.month ev.timestampNs }

def VscpEventEx.content (ex : VscpEventEx) : EventContent :=
  { head := ex.head
    crc := ex.crc
    obid := ex.obid
    vscpClass := ex.vscpClass
    vscpType := ex.vscpType
    guid := ex.guid
    sizeData := ex.sizeData
    data := ex.data.toList.take ex.sizeData.toNat
    time := timeOf ex.head ex.year ex.month ex.timestampNs }

def TimeMarked (head year : UInt16) (month : UInt8) : Prop :=
  frameVersion head = frameVersionUnixNs → year = 0xffff ∧ month = 0xff

def Carried (answer : Bool × VscpEvent) (content : EventContent) : Prop :=
  answer.1 = true ∧ answer.2.content = content ∧ TimeMarked answer.2.head answer.2.year answer.2.month

def CarriedEx (answer : Bool × VscpEventEx) (content : EventContent) : Prop :=
  answer.1 = true ∧ answer.2.content = content ∧ TimeMarked answer.2.head answer.2.year answer.2.month

structure HoldsData (ev : VscpEvent) : Prop where
  size : ev.sizeData.toNat ≤ maxData
  data : (ev.pdata.getD []).length = ev.sizeData.toNat

variable (ev : VscpEvent)

theorem holds_present (holds : HoldsData ev) : ¬ (ev.sizeData ≠ 0 ∧ ev.pdata = none) := by
  intro missing
  have length := holds.data
  rw [missing.2] at length
  exact missing.1 (UInt16.toNat_inj.mp length.symm)

theorem time_block_parts_ex (ex : VscpEventEx) :
    timeBlock ex.day ex.hour ex.minute ex.second ex.timestamp = ex.timestampNs :=
  time_block_parts ⟨ex.head, ex.obid, ex.year, ex.month, ex.timestampNs, ex.vscpClass, ex.vscpType, ex.guid,
    ex.sizeData, none, ex.crc⟩

variable (source : Bytes) (count : Nat)

theorem overlay_taken (room : count ≤ maxData) (enough : count ≤ source.length)
    (old : Vector UInt8 512) : (overlay source count old).toList.take count = source.take count := by
  have bound : count ≤ 512 := room
  apply List.ext_getElem
  · rw [List.length_take, List.length_take, Vector.length_toList]
    omega
  · intro i left right
    rw [List.length_take] at left right
    have inside : i < count := by omega
    simp only [List.getElem_take, Vector.getElem_toList, overlay, Vector.getElem_ofFn, if_pos inside]
    exact List.getD_eq_getElem _ _ (by omega)

variable (old : Vector UInt8 512)

theorem overlay_nothing : overlay source 0 old = old := by
  apply Vector.ext
  intro i inside
  rw [overlay, Vector.getElem_ofFn, if_neg (Nat.not_lt_zero _)]
  rfl

theorem overlay_filled (size : UInt16) (source : Bytes) (old : Vector UInt8 512) :
    (if size ≠ 0 then overlay source size.toNat old else old) = overlay source size.toNat old := by
  by_cases filled : size ≠ 0
  · rw [if_pos filled]
  · have empty : size.toNat = 0 := UInt16.toNat_inj.mpr (not_not.mp filled)
    rw [if_neg filled, empty, overlay_nothing]

theorem overlay_again :
    overlay source count (overlay source count old) = overlay source count old := by
  apply Vector.ext
  intro i inside
  by_cases front : i < count
  · simp only [overlay, Vector.getElem_ofFn, if_pos front]
  · simp only [overlay, Vector.getElem_ofFn, if_neg front]
    simp only [Vector.get_ofFn, if_neg front]

variable (pev : VscpEvent) (pex : VscpEventEx)

theorem convert_event_same (pev : VscpEvent) :
    Copies.convertEventToEventEx pex pev = (convertEventToEventEx pex pev).elim (false, pex) (true, ·) := by
  unfold Copies.convertEventToEventEx convertEventToEventEx
  by_cases refused : pev.sizeData.toNat > maxData ∨ (pev.sizeData ≠ 0 ∧ pev.pdata = none)
  · rw [if_pos refused, if_pos refused]
    rfl
  · rw [if_neg refused, if_neg refused, time_block_parts, ← overlay_filled]
    by_cases unixNs : frameVersion pev.head = frameVersionUnixNs
    · simp only [if_pos unixNs]
      split <;> rfl
    · simp only [if_neg unixNs]
      split <;> rfl

theorem convert_event_ex_same :
    Copies.convertEventExToEvent pev pex = (convertEventExToEvent pex).elim (false, pev) (true, ·) := by
  unfold Copies.convertEventExToEvent convertEventExToEvent
  by_cases refused : pex.sizeData.toNat > maxData
  · rw [if_pos refused, if_pos refused]
    rfl
  · rw [if_neg refused, if_neg refused, time_block_parts_ex]
    by_cases unixNs : frameVersion pex.head = frameVersionUnixNs
    · simp only [if_pos unixNs, ite_not]
      rfl
    · simp only [if_neg unixNs, ite_not]
      rfl

variable (pevTo pevFrom : VscpEvent)

theorem copy_event_same :
    Copies.copyEvent pevTo pevFrom = (copyEvent pevFrom).elim (false, pevTo) (true, ·) := by
  unfold Copies.copyEvent copyEvent
  by_cases refused : pevFrom.sizeData.toNat > maxData
  · rw [if_pos refused, if_pos refused]
    rfl
  · rw [if_neg refused, if_neg refused]
    by_cases unixNs : frameVersion pevFrom.head = frameVersionUnixNs
    · simp only [if_pos unixNs, ite_not]
      rfl
    · simp only [if_neg unixNs, ite_not]
      rfl

variable (pexTo pexFrom : VscpEventEx)

theorem copy_event_ex_same (fits : ¬ pexFrom.sizeData.toNat > maxData) :
    Copies.copyEventEx pexTo pexFrom = (true,
      { pexFrom with
        year := if frameVersion pexFrom.head = frameVersionUnixNs then 0xffff else pexFrom.year
        month := if frameVersion pexFrom.head = frameVersionUnixNs then 0xff else pexFrom.month
        data := overlay pexFrom.data.toList pexFrom.sizeData.toNat pexTo.data }) := by
  have twice := overlay_again pexFrom.data.toList pexFrom.sizeData.toNat pexTo.data
  unfold Copies.copyEventEx
  rw [if_neg fits, time_block_parts_ex]
  by_cases unixNs : frameVersion pexFrom.head = frameVersionUnixNs
  · simp only [if_pos unixNs, twice, ite_self]
  · simp only [if_neg unixNs, twice, ite_self]

variable (head year : UInt16) (month : UInt8)

theorem time_marked (timestampNs : UInt64) :
    timeOf head (if frameVersion head = frameVersionUnixNs then 0xffff else year)
      (if frameVersion head = frameVersionUnixNs then 0xff else month) timestampNs =
        timeOf head year month timestampNs := by
  by_cases unixNs : frameVersion head = frameVersionUnixNs
  · rw [timeOf, timeOf, if_pos unixNs, if_pos unixNs]
  · rw [if_neg unixNs, if_neg unixNs]

theorem markers_set :
    TimeMarked head (if frameVersion head = frameVersionUnixNs then 0xffff else year)
      (if frameVersion head = frameVersionUnixNs then 0xff else month) :=
  fun unixNs => ⟨if_pos unixNs, if_pos unixNs⟩

theorem event_to_ex_carries (pev : VscpEvent) (holds : HoldsData pev) :
    CarriedEx (Copies.convertEventToEventEx pex pev) pev.content := by
  have accepted : ¬ (pev.sizeData.toNat > maxData ∨ (pev.sizeData ≠ 0 ∧ pev.pdata = none)) :=
    not_or.mpr ⟨Nat.not_lt.mpr holds.size, holds_present pev holds⟩
  have data : (overlay (pev.pdata.getD []) pev.sizeData.toNat pex.data).toList.take pev.sizeData.toNat =
      pev.dataBytes := by
    rw [overlay_taken _ _ holds.size (Nat.le_of_eq holds.data.symm), data_bytes_exact pev holds.data,
      List.take_of_length_le (Nat.le_of_eq holds.data)]
  rw [convert_event_same, convertEventToEventEx, if_neg accepted]
  refine ⟨rfl, ?_, markers_set _ _ _⟩
  simp only [Option.elim_some, VscpEventEx.content, VscpEvent.content, time_marked, data]

theorem block_bytes (bytes : Bytes) (length : bytes.length = ev.sizeData.toNat)
    (block : ev.pdata = if ev.sizeData = 0 then none else some bytes) : ev.dataBytes = bytes := by
  have held : ev.pdata.getD [] = bytes := by
    rw [block]
    by_cases empty : ev.sizeData = 0
    · rw [if_pos empty]
      rw [empty] at length
      exact (List.length_eq_zero_iff.mp length).symm
    · rw [if_neg empty]
      rfl
  rw [data_bytes_exact ev (by rw [held, length]), held]

theorem ex_to_event_carries (fits : pex.sizeData.toNat ≤ maxData) :
    Carried (Copies.convertEventExToEvent pev pex) pex.content := by
  have length : (pex.data.toList.take pex.sizeData.toNat).length = pex.sizeData.toNat := by
    rw [List.length_take, Vector.length_toList]
    exact Nat.min_eq_left fits
  rw [convert_event_ex_same, convertEventExToEvent, if_neg (Nat.not_lt.mpr fits)]
  refine ⟨rfl, ?_, markers_set _ _ _⟩
  simp only [Option.elim_some, VscpEventEx.content, VscpEvent.content, time_marked]
  congr 1
  exact block_bytes _ _ length rfl

theorem converted_holds (fits : pex.sizeData.toNat ≤ maxData) :
    HoldsData (Copies.convertEventExToEvent pev pex).2 := by
  rw [convert_event_ex_same, convertEventExToEvent, if_neg (Nat.not_lt.mpr fits)]
  refine ⟨fits, ?_⟩
  simp only [Option.elim_some]
  by_cases empty : pex.sizeData = 0
  · rw [if_pos empty, empty]
    rfl
  · rw [if_neg empty, Option.getD_some, List.length_take, Vector.length_toList]
    exact Nat.min_eq_left fits

theorem copy_event_carries (fits : pevFrom.sizeData.toNat ≤ maxData) :
    Carried (Copies.copyEvent pevTo pevFrom) pevFrom.content := by
  rw [copy_event_same, copyEvent, if_neg (Nat.not_lt.mpr fits)]
  refine ⟨rfl, ?_, markers_set _ _ _⟩
  simp only [Option.elim_some, VscpEvent.content, time_marked, time_block_parts, ite_self]
  congr 1
  exact block_bytes _ _ (data_bytes_length pevFrom) rfl

theorem copy_event_ex_carries (fits : pexFrom.sizeData.toNat ≤ maxData) :
    CarriedEx (Copies.copyEventEx pexTo pexFrom) pexFrom.content := by
  have enough : pexFrom.sizeData.toNat ≤ pexFrom.data.toList.length := by
    rw [Vector.length_toList]
    exact fits
  rw [copy_event_ex_same _ _ (Nat.not_lt.mpr fits)]
  refine ⟨rfl, ?_, markers_set _ _ _⟩
  simp only [VscpEventEx.content, time_marked, overlay_taken _ _ fits enough]

theorem events_converted_and_copied (pev target : VscpEvent) (pex targetEx : VscpEventEx) :
    (HoldsData pev →
      (Copies.convertEventToEventEx targetEx pev).1 = true ∧
        Carried (Copies.convertEventExToEvent target (Copies.convertEventToEventEx targetEx pev).2) pev.content ∧
        Carried (Copies.copyEvent target pev) pev.content) ∧
    (pex.sizeData.toNat ≤ maxData →
      (Copies.convertEventExToEvent target pex).1 = true ∧
        CarriedEx (Copies.convertEventToEventEx targetEx (Copies.convertEventExToEvent target pex).2) pex.content ∧
        CarriedEx (Copies.copyEventEx targetEx pex) pex.content) ∧
    (maxData < pev.sizeData.toNat →
      Copies.convertEventToEventEx targetEx pev = (false, targetEx) ∧ Copies.copyEvent target pev = (false, target)) ∧
    (maxData < pex.sizeData.toNat →
      Copies.convertEventExToEvent target pex = (false, target) ∧
        Copies.copyEventEx targetEx pex = (false, targetEx)) := by
  refine ⟨fun holds => ?_, fun fits => ?_, fun large => ?_, fun large => ?_⟩
  · obtain ⟨accepted, same, -⟩ := event_to_ex_carries targetEx pev holds
    have size := congrArg EventContent.sizeData same
    have fits : (Copies.convertEventToEventEx targetEx pev).2.sizeData.toNat ≤ maxData :=
      Nat.le_trans (Nat.le_of_eq (congrArg UInt16.toNat size)) holds.size
    have back := ex_to_event_carries target _ fits
    rw [same] at back
    exact ⟨accepted, back, copy_event_carries target pev holds.size⟩
  · obtain ⟨accepted, same, -⟩ := ex_to_event_carries target pex fits
    have back := event_to_ex_carries targetEx _ (converted_holds target pex fits)
    rw [same] at back
    exact ⟨accepted, back, copy_event_ex_carries targetEx pex fits⟩
  · exact ⟨if_pos (.inl large), if_pos large⟩
  · exact ⟨if_pos large, if_pos large⟩

theorem example_holds_data : HoldsData exampleEvent := ⟨by decide, by decide⟩

theorem events_converted_and_copied_example :
    CarriedEx (Copies.copyEventEx emptyEventEx emptyEventEx) emptyEventEx.content ∧
      Carried (Copies.copyEvent exampleEvent exampleEvent) exampleEvent.content :=
  ⟨((events_converted_and_copied exampleEvent exampleEvent emptyEventEx emptyEventEx).2.1 (by decide)).2.2,
    ((events_converted_and_copied exampleEvent exampleEvent emptyEventEx emptyEventEx).1 example_holds_data).2.2⟩

end Vscp
