import Vscp.EventFrame
import Vscp.Lib.BitField

set_option autoImplicit false

namespace Vscp

open BitField

def headerHardCoded : UInt16 := 0x10
def canIdHardCoded : UInt64 := 0x02000000
def canalIdFlagExtended : UInt64 := 1
def maskPriority : UInt16 := 0xe0

structure CanalMsg where
  flags : UInt64
  obid : UInt64
  id : UInt64
  sizeData : UInt8
  data : Vector UInt8 8
  timestamp : UInt64
deriving DecidableEq

def getHeadFromCanalId (id : UInt32) : UInt8 :=
  let hardcoded : UInt8 := if id &&& 0x02000000 ≠ 0 then headerHardCoded.toUInt8 else 0
  let priority := ((id >>> 26) &&& 0x07).toUInt8
  (priority <<< 5) ||| hardcoded

def getVscpClassFromCanalId (id : UInt32) : UInt16 := ((id >>> 16) &&& 0x1ff).toUInt16
def getVscpTypeFromCanalId (id : UInt32) : UInt16 := ((id >>> 8) &&& 0xff).toUInt16

def setDateTime (pev : VscpEvent) (date : CalendarTime) : VscpEvent :=
  { pev with
    year := date.year
    month := date.month
    timestampNs := timeBlock date.day date.hour date.minute date.second pev.timestamp }

def setEventDateTimeBlockToNow (clock : Clock) (pev : VscpEvent) : VscpEvent :=
  if frameVersion pev.head = frameVersionUnixNs then
    { pev with timestampNs := clock.makeTimeStampNs, year := 0xffff, month := 0xff }
  else setDateTime pev clock.gmtime

def setEventToNow (clock : Clock) (rawtime : UInt64) (pev : VscpEvent) : VscpEvent :=
  if frameVersion pev.head = frameVersionUnixNs then
    { pev with timestampNs := rawtime * 1000000000, year := 0xffff, month := 0xff }
  else setDateTime pev clock.gmtime

def setTimestamp (pev : VscpEvent) (timestamp : UInt32) : VscpEvent :=
  { pev with timestampNs := timeBlock pev.day pev.hour pev.minute pev.second timestamp }

-- A message with too much data has already changed the GUID and the head of the event.
def convertCanalToEvent (clock : Clock) (rawtime : UInt64) (pev : VscpEvent) (pcanalMsg : CanalMsg)
    (pguid : Guid) : Bool × VscpEvent :=
  let id := pcanalMsg.id.toUInt32
  let pev := { pev with guid := pguid, head := 0 }
  if pcanalMsg.sizeData > 8 then (false, pev)
  else
    let pev :=
      if pcanalMsg.sizeData > 0 then
        { pev with
          pdata := some (pcanalMsg.data.toList.take pcanalMsg.sizeData.toNat)
          sizeData := pcanalMsg.sizeData.toUInt16 }
      else { pev with pdata := none, sizeData := 0 }
    let head := (getHeadFromCanalId id).toUInt16
    let head := if pcanalMsg.id &&& 0x02000000 ≠ 0 then head ||| headerHardCoded else head
    let pev :=
      { pev with
        head := head ||| frameVersionUnixNs
        vscpClass := getVscpClassFromCanalId id
        vscpType := getVscpTypeFromCanalId id }
    let pev := setTimestamp (setEventDateTimeBlockToNow clock pev) pcanalMsg.timestamp.toUInt32
    let pev := setEventToNow clock rawtime pev
    (true, { pev with guid := pev.guid.set 15 (pcanalMsg.id &&& 0xff).toUInt8 })

-- A Level II event with the GUID of an interface in front of its data goes out as the Level I event it mirrors.
def mirrorsLevel1 (pev : VscpEvent) : Bool :=
  pev.vscpClass ≥ 512 && pev.vscpClass < 1024 && pev.sizeData ≥ 16

def canalClass (pev : VscpEvent) : UInt16 :=
  if mirrorsLevel1 pev then pev.vscpClass - 512 else pev.vscpClass

-- `short sizeData`: from 32768 on it is negative, and then it passes as at most 8.
def canalSize (pev : VscpEvent) : Int16 :=
  if mirrorsLevel1 pev then (pev.sizeData - 16).toInt16 else pev.sizeData.toInt16

def moveDown (data : Bytes) (count : Nat) : Bytes :=
  (List.range count).map (fun i => data.getD (i + 16) 0) ++ data.drop count

def canalData (pev : VscpEvent) : Option Bytes :=
  if mirrorsLevel1 pev ∧ canalSize pev ≠ 0 then
    pev.pdata.map fun data => moveDown data (canalSize pev).toNatClampNeg
  else pev.pdata

def canalIdOf (pev : VscpEvent) : UInt64 :=
  let priority := ((pev.head &&& maskPriority) >>> 5).toUInt8
  let id := priority.toUInt64 <<< 26 ||| (canalClass pev).toUInt64 <<< 16 ||| pev.vscpType.toUInt64 <<< 8 |||
    (pev.guid.get 15).toUInt64
  if pev.head &&& headerHardCoded ≠ 0 then id ||| canIdHardCoded else id

abbrev getLSB (guid : Guid) : UInt8 := guid.get 15
abbrev getMSB (guid : Guid) : UInt8 := guid.get 0

-- Sizes from 32768 on can leave a count above 8, and the source's memcpy then writes behind data; the copy is
-- followed inside data only.
def convertEventToCanal (pcanalMsg : CanalMsg) (pev : VscpEvent) : Option (CanalMsg × VscpEvent) :=
  if pev.sizeData ≠ 0 ∧ pev.pdata = none then none
  else
    let sizeData := if canalSize pev ≤ 8 then (canalSize pev).toUInt16.toUInt8 else 8
    let data :=
      match canalData pev with
      | none => pcanalMsg.data
      | some bytes =>
          Vector.ofFn fun i => if i.val < sizeData.toNat then bytes.getD i.val 0 else pcanalMsg.data.get i
    some (
      { pcanalMsg with
        obid := pev.obid.toUInt64
        flags := canalIdFlagExtended
        sizeData := sizeData
        id := canalIdOf pev
        data := data },
      { pev with pdata := canalData pev })

theorem date_time_block_writes_time_only (clock : Clock) (pev : VscpEvent) :
    ∃ year month ns, setEventDateTimeBlockToNow clock pev =
      { pev with year := year, month := month, timestampNs := ns } := by
  unfold setEventDateTimeBlockToNow
  split
  · exact ⟨0xffff, 0xff, clock.makeTimeStampNs, rfl⟩
  · exact ⟨_, _, _, rfl⟩

theorem event_to_now_writes_time_only (clock : Clock) (rawtime : UInt64) (pev : VscpEvent) :
    ∃ year month ns, setEventToNow clock rawtime pev =
      { pev with year := year, month := month, timestampNs := ns } := by
  unfold setEventToNow
  split
  · exact ⟨0xffff, 0xff, rawtime * 1000000000, rfl⟩
  · exact ⟨_, _, _, rfl⟩

variable (id : UInt32) (pev : VscpEvent)

theorem class_of_canal_id : (getVscpClassFromCanalId id).toNat = field 16 9 id.toNat := by
  have below := field_lt 16 9 id.toNat
  have value : ((id >>> 16) &&& 0x1ff).toNat = field 16 9 id.toNat := by
    rw [UInt32.toNat_and, UInt32.toNat_shiftRight]
    exact shift_mask_field 16 9 id.toNat
  rw [getVscpClassFromCanalId, UInt32.toNat_toUInt16, value]
  omega

theorem type_of_canal_id : (getVscpTypeFromCanalId id).toNat = field 8 8 id.toNat := by
  have below := field_lt 8 8 id.toNat
  have value : ((id >>> 8) &&& 0xff).toNat = field 8 8 id.toNat := by
    rw [UInt32.toNat_and, UInt32.toNat_shiftRight]
    exact shift_mask_field 8 8 id.toNat
  rw [getVscpTypeFromCanalId, UInt32.toNat_toUInt16, value]
  omega

theorem hard_coded_bit : id &&& 0x02000000 ≠ 0 ↔ field 25 1 id.toNat = 1 := by
  rw [← bit_set_iff 25 id.toNat, ne_eq, ← UInt32.toNat_inj, UInt32.toNat_and]
  rfl

theorem hard_coded_bit_long (id : UInt64) : id &&& 0x02000000 ≠ 0 ↔ field 25 1 id.toNat = 1 := by
  rw [← bit_set_iff 25 id.toNat, ne_eq, ← UInt64.toNat_inj, UInt64.toNat_and]
  rfl

theorem head_of_canal_id :
    (getHeadFromCanalId id).toNat = field 26 3 id.toNat * 32 + field 25 1 id.toNat * 16 := by
  have priorityBelow := field_lt 26 3 id.toNat
  have hardBelow := field_lt 25 1 id.toNat
  have value : (((id >>> 26) &&& 0x07).toUInt8).toNat = field 26 3 id.toNat := by
    have wide : ((id >>> 26) &&& 0x07).toNat = field 26 3 id.toNat := by
      rw [UInt32.toNat_and, UInt32.toNat_shiftRight]
      exact shift_mask_field 26 3 id.toNat
    rw [UInt32.toNat_toUInt8, wide]
    omega
  have hard : (if id &&& 0x02000000 ≠ 0 then headerHardCoded.toUInt8 else 0 : UInt8).toNat = field 25 1 id.toNat * 16 := by
    by_cases set : id &&& 0x02000000 ≠ 0
    · rw [if_pos set, (hard_coded_bit id).mp set]
      decide
    · have clear : field 25 1 id.toNat = 0 := by
        have unset := mt (hard_coded_bit id).mpr set
        omega
      rw [if_neg set, clear]
      decide
  rw [getHeadFromCanalId, UInt8.toNat_or, hard, UInt8.toNat_shiftLeft, value]
  have small : field 26 3 id.toNat <<< 5 % 2 ^ 8 = field 26 3 id.toNat <<< 5 := by
    rw [Nat.shiftLeft_eq]
    omega
  have fits : field 25 1 id.toNat * 16 < 2 ^ 5 := by omega
  have joined := shift_or_below (field 26 3 id.toNat) (field 25 1 id.toNat * 16) 5 fits
  rw [← small] at joined
  exact joined

theorem converted_head (id : UInt64) (small : id.toNat < 2 ^ 32) :
    let head := (getHeadFromCanalId id.toUInt32).toUInt16
    ((if id &&& 0x02000000 ≠ 0 then head ||| headerHardCoded else head) ||| frameVersionUnixNs).toNat =
      256 + field 26 3 id.toNat * 32 + field 25 1 id.toNat * 16 := by
  intro head
  have same : id.toUInt32.toNat = id.toNat := by
    rw [UInt64.toNat_toUInt32, Nat.mod_eq_of_lt small]
  have priorityBelow := field_lt 26 3 id.toNat
  have hardBelow := field_lt 25 1 id.toNat
  have headValue : head.toNat = field 26 3 id.toNat * 32 + field 25 1 id.toNat * 16 := by
    rw [UInt8.toNat_toUInt16, head_of_canal_id, same]
  have again : (if id &&& 0x02000000 ≠ 0 then head ||| headerHardCoded else head) = head := by
    split
    · rename_i set
      have bit := (hard_coded_bit_long id).mp set
      have odd : field 4 1 head.toNat = 1 := by
        rw [field, headValue]
        omega
      apply UInt16.toNat_inj.mp
      rw [UInt16.toNat_or]
      exact or_set_bit 4 head.toNat odd
    · rfl
  rw [again, UInt16.toNat_or, headValue]
  have fits : field 26 3 id.toNat * 32 + field 25 1 id.toNat * 16 < 2 ^ 8 := by omega
  have joined := shift_or_below 1 _ 8 fits
  rw [Nat.or_comm] at joined
  exact joined.trans (by omega)

-- What an event read from a CANAL message holds of it.
structure CarriesMessage (pcanalMsg : CanalMsg) (pguid : Guid) (pev : VscpEvent) : Prop where
  head : pev.head.toNat = 256 + field 26 3 pcanalMsg.id.toNat * 32 + field 25 1 pcanalMsg.id.toNat * 16
  vscpClass : pev.vscpClass.toNat = field 16 9 pcanalMsg.id.toNat
  vscpType : pev.vscpType.toNat = field 8 8 pcanalMsg.id.toNat
  guid : pev.guid = pguid.set 15 (pcanalMsg.id &&& 0xff).toUInt8
  sizeData : pev.sizeData = pcanalMsg.sizeData.toUInt16
  pdata : pev.pdata =
    if pcanalMsg.sizeData > 0 then some (pcanalMsg.data.toList.take pcanalMsg.sizeData.toNat) else none

theorem canal_to_event_reads (clock : Clock) (rawtime : UInt64) (pev : VscpEvent) (pcanalMsg : CanalMsg)
    (pguid : Guid) (extended : pcanalMsg.id.toNat < 2 ^ 32) (size : pcanalMsg.sizeData ≤ 8) :
    ∃ ev, convertCanalToEvent clock rawtime pev pcanalMsg pguid = (true, ev) ∧ CarriesMessage pcanalMsg pguid ev := by
  have same : pcanalMsg.id.toUInt32.toNat = pcanalMsg.id.toNat := by
    rw [UInt64.toNat_toUInt32, Nat.mod_eq_of_lt extended]
  have notBig : ¬ pcanalMsg.sizeData > 8 := UInt8.not_lt.mpr size
  simp only [convertCanalToEvent, if_neg notBig]
  generalize idHead : (if pcanalMsg.id &&& 0x02000000 ≠ 0 then
    (getHeadFromCanalId pcanalMsg.id.toUInt32).toUInt16 ||| headerHardCoded
    else (getHeadFromCanalId pcanalMsg.id.toUInt32).toUInt16) = head
  generalize filled : ({ (if pcanalMsg.sizeData > 0 then _ else _ : VscpEvent) with
    head := _, vscpClass := _, vscpType := _ } : VscpEvent) = event
  obtain ⟨year, month, ns, dated⟩ := date_time_block_writes_time_only clock event
  obtain ⟨lastYear, lastMonth, lastNs, now⟩ :=
    event_to_now_writes_time_only clock rawtime
      (setTimestamp (setEventDateTimeBlockToNow clock event) pcanalMsg.timestamp.toUInt32)
  refine ⟨_, rfl, ?_⟩
  rw [now, dated, ← filled, ← idHead]
  have headValue := converted_head pcanalMsg.id extended
  have classValue := class_of_canal_id pcanalMsg.id.toUInt32
  have typeValue := type_of_canal_id pcanalMsg.id.toUInt32
  rw [same] at classValue typeValue
  by_cases some : pcanalMsg.sizeData > 0
  · simp only [if_pos some, setTimestamp]
    exact ⟨headValue, classValue, typeValue, rfl, rfl, by rw [if_pos some]⟩
  · simp only [if_neg some, setTimestamp]
    have empty : pcanalMsg.sizeData = 0 := by
      have none := UInt8.not_lt.mp some
      exact UInt8.le_zero_iff.mp none
    exact ⟨headValue, classValue, typeValue, rfl, by rw [empty]; rfl, by rw [if_neg some]⟩

theorem canal_fields (priority hard vscpClass vscpType nickname : Nat) (hardBit : hard < 2 ^ 1)
    (classBelow : vscpClass < 2 ^ 9) (typeBelow : vscpType < 2 ^ 8) (nicknameBelow : nickname < 2 ^ 8) :
    priority <<< 26 ||| vscpClass <<< 16 ||| vscpType <<< 8 ||| nickname ||| hard <<< 25 =
      priority * 2 ^ 26 + hard * 2 ^ 25 + vscpClass * 2 ^ 16 + vscpType * 2 ^ 8 + nickname := by
  have ordered : priority <<< 26 ||| vscpClass <<< 16 ||| vscpType <<< 8 ||| nickname ||| hard <<< 25 =
      priority <<< 26 ||| (hard <<< 25 ||| (vscpClass <<< 16 ||| (vscpType <<< 8 ||| nickname))) := by
    simp only [Nat.or_assoc, Nat.or_comm (hard <<< 25)]
  have low := shift_or_below vscpType nickname 8 nicknameBelow
  have middle := shift_or_below vscpClass (vscpType * 2 ^ 8 + nickname) 16 (by omega)
  have flagged := shift_or_below hard (vscpClass * 2 ^ 16 + (vscpType * 2 ^ 8 + nickname)) 25 (by omega)
  have top := shift_or_below priority
    (hard * 2 ^ 25 + (vscpClass * 2 ^ 16 + (vscpType * 2 ^ 8 + nickname))) 26 (by omega)
  rw [ordered, low, middle, flagged, top]
  omega

theorem shifted_value (value : UInt64) (width : UInt64) (bits : Nat) (narrow : width.toNat = bits)
    (fits : value.toNat * 2 ^ bits < 2 ^ 64) (below : bits < 64) : (value <<< width).toNat = value.toNat <<< bits := by
  rw [UInt64.toNat_shiftLeft, narrow, Nat.mod_eq_of_lt below, Nat.mod_eq_of_lt]
  rw [Nat.shiftLeft_eq]
  exact fits

theorem priority_field :
    (((pev.head &&& maskPriority) >>> 5).toUInt8.toUInt64).toNat = field 5 3 pev.head.toNat := by
  have below := field_lt 5 3 pev.head.toNat
  have value : ((pev.head &&& maskPriority) >>> 5).toNat = field 5 3 pev.head.toNat := by
    rw [UInt16.toNat_shiftRight, UInt16.toNat_and, ← shift_mask_field]
    exact Nat.shiftRight_and_distrib
  rw [UInt8.toNat_toUInt64, UInt16.toNat_toUInt8, value]
  omega

theorem head_hard_coded : pev.head &&& headerHardCoded ≠ 0 ↔ field 4 1 pev.head.toNat = 1 := by
  rw [← bit_set_iff 4 pev.head.toNat, ne_eq, ← UInt16.toNat_inj, UInt16.toNat_and]
  rfl

theorem canal_id_value (classBelow : (canalClass pev).toNat < 512)
    (typeBelow : pev.vscpType.toNat < 256) :
    (canalIdOf pev).toNat = field 5 3 pev.head.toNat * 2 ^ 26 + field 4 1 pev.head.toNat * 2 ^ 25 +
      (canalClass pev).toNat * 2 ^ 16 + pev.vscpType.toNat * 2 ^ 8 + (pev.guid.get 15).toNat := by
  have hardBit := field_lt 4 1 pev.head.toNat
  have priorityBelow := field_lt 5 3 pev.head.toNat
  have priorityValue := priority_field pev
  have nicknameBelow : (pev.guid.get 15).toNat < 2 ^ 8 := (pev.guid.get 15).toNat_lt
  have joined := canal_fields (field 5 3 pev.head.toNat) (field 4 1 pev.head.toNat) (canalClass pev).toNat
    pev.vscpType.toNat (pev.guid.get 15).toNat hardBit classBelow typeBelow nicknameBelow
  have priorityPart := shifted_value ((pev.head &&& maskPriority) >>> 5).toUInt8.toUInt64 26 26 rfl (by omega) (by omega)
  have classPart := shifted_value (canalClass pev).toUInt64 16 16 rfl (by simp; omega) (by omega)
  have typePart := shifted_value pev.vscpType.toUInt64 8 8 rfl (by simp; omega) (by omega)
  rw [← joined, canalIdOf]
  rw [priorityValue] at priorityPart
  by_cases hard : pev.head &&& headerHardCoded ≠ 0
  · rw [if_pos hard, (head_hard_coded pev).mp hard, UInt64.toNat_or, UInt64.toNat_or, UInt64.toNat_or, UInt64.toNat_or,
      priorityPart, classPart, typePart]
    rfl
  · have clear : field 4 1 pev.head.toNat = 0 := by
      have unset := mt (head_hard_coded pev).mpr hard
      omega
    rw [if_neg hard, clear, UInt64.toNat_or, UInt64.toNat_or, UInt64.toNat_or, priorityPart, classPart, typePart,
      Nat.zero_shiftLeft, Nat.or_zero]
    rfl

-- The id of a Level I event, bit by bit; a type that does not fit its field reaches into the class.
theorem canal_id_bit (levelOne : pev.vscpClass < 512) (bit : Nat) :
    (canalIdOf pev).toNat.testBit bit =
      ((decide (26 ≤ bit ∧ bit < 29) && pev.head.toNat.testBit (5 + (bit - 26))) ||
        (decide (16 ≤ bit) && pev.vscpClass.toNat.testBit (bit - 16)) ||
        (decide (8 ≤ bit) && pev.vscpType.toNat.testBit (bit - 8)) || (pev.guid.get 15).toNat.testBit bit ||
        (decide (bit = 25) && pev.head.toNat.testBit 4)) := by
  have plain : canalClass pev = pev.vscpClass := by
    have low : ¬ pev.vscpClass ≥ 512 := UInt16.not_le.mpr levelOne
    simp only [canalClass, mirrorsLevel1, low, decide_false, Bool.false_and, Bool.false_eq_true, if_false]
  have classBelow := pev.vscpClass.toNat_lt
  have typeBelow := pev.vscpType.toNat_lt
  have priorityBelow := field_lt 5 3 pev.head.toNat
  have priorityValue := priority_field pev
  have priorityPart := shifted_value ((pev.head &&& maskPriority) >>> 5).toUInt8.toUInt64 26 26 rfl (by omega) (by omega)
  have classPart := shifted_value pev.vscpClass.toUInt64 16 16 rfl (by simp; omega) (by omega)
  have typePart := shifted_value pev.vscpType.toUInt64 8 8 rfl (by simp; omega) (by omega)
  rw [priorityValue] at priorityPart
  have priorityBit : (field 5 3 pev.head.toNat <<< 26).testBit bit =
      (decide (26 ≤ bit ∧ bit < 29) && pev.head.toNat.testBit (5 + (bit - 26))) := by
    rw [Nat.testBit_shiftLeft, field_bit]
    by_cases high : 26 ≤ bit
    · have inside : bit - 26 < 3 ↔ bit < 29 := by omega
      simp [high, inside]
    · simp [high]
  have bits : ((((pev.head &&& maskPriority) >>> 5).toUInt8.toUInt64 <<< 26 ||| pev.vscpClass.toUInt64 <<< 16 |||
      pev.vscpType.toUInt64 <<< 8 ||| (pev.guid.get 15).toUInt64).toNat).testBit bit =
        ((decide (26 ≤ bit ∧ bit < 29) && pev.head.toNat.testBit (5 + (bit - 26))) ||
          (decide (16 ≤ bit) && pev.vscpClass.toNat.testBit (bit - 16)) ||
          (decide (8 ≤ bit) && pev.vscpType.toNat.testBit (bit - 8)) || (pev.guid.get 15).toNat.testBit bit) := by
    rw [UInt64.toNat_or, UInt64.toNat_or, UInt64.toNat_or, priorityPart, classPart, typePart, ← priorityBit]
    simp only [Nat.testBit_or, Nat.testBit_shiftLeft, UInt8.toNat_toUInt64, UInt16.toNat_toUInt64, ge_iff_le]
  have hardBit : pev.head &&& headerHardCoded ≠ 0 ↔ pev.head.toNat.testBit 4 = true := by
    rw [head_hard_coded, Nat.testBit_eq_decide_div_mod_eq, decide_eq_true_eq]
    rfl
  rw [canalIdOf, plain, ← bits]
  by_cases hard : pev.head &&& headerHardCoded ≠ 0
  · have flag : canIdHardCoded.toNat.testBit bit = decide (bit = 25) := by
      have value : canIdHardCoded.toNat = 2 ^ 25 := rfl
      rw [value, Nat.testBit_two_pow]
      exact decide_eq_decide.mpr eq_comm
    rw [if_pos hard, UInt64.toNat_or, Nat.testBit_or, flag, hardBit.mp hard, Bool.and_true]
  · have clear : pev.head.toNat.testBit 4 = false := Bool.eq_false_iff.mpr fun set => hard (hardBit.mpr set)
    rw [if_neg hard, clear, Bool.and_false, Bool.or_false]

def canalPayload (pev : VscpEvent) : Bytes :=
  if mirrorsLevel1 pev then pev.dataBytes.drop 16 else pev.dataBytes

def msgData (pcanalMsg : CanalMsg) : Bytes := pcanalMsg.data.toList.take pcanalMsg.sizeData.toNat

theorem event_to_canal_refuses (pcanalMsg : CanalMsg) (pev : VscpEvent) :
    convertEventToCanal pcanalMsg pev = none ↔ pev.sizeData ≠ 0 ∧ pev.pdata = none := by
  unfold convertEventToCanal
  split
  · rename_i missing
    simp [missing]
  · rename_i present
    simp [present]

theorem short_value (size : UInt16) (short : size.toNat < 2 ^ 15) : size.toInt16.toInt = (size.toNat : Int) := by
  have small : 2 * size.toBitVec.toNat < 2 ^ 16 := by
    have same : size.toBitVec.toNat = size.toNat := rfl
    omega
  exact BitVec.toInt_eq_toNat_of_lt small

theorem mirrored_long (mirror : mirrorsLevel1 pev = true) : 16 ≤ pev.sizeData.toNat := by
  simp only [mirrorsLevel1, ge_iff_le, Bool.and_eq_true, decide_eq_true_eq] at mirror
  exact UInt16.le_iff_toNat_le.mp mirror.2

theorem canal_size_value (short : pev.sizeData.toNat < 2 ^ 15) :
    (canalSize pev).toInt = ((canalPayload pev).length : Int) := by
  have length : pev.dataBytes.length = pev.sizeData.toNat := by simp [VscpEvent.dataBytes]
  unfold canalSize canalPayload
  by_cases mirror : mirrorsLevel1 pev
  · have long := mirrored_long pev mirror
    have less : (pev.sizeData - 16).toNat = pev.sizeData.toNat - 16 := by
      exact UInt16.toNat_sub_of_le _ _ (UInt16.le_iff_toNat_le.mpr long)
    rw [if_pos mirror, if_pos mirror, List.length_drop, length, short_value _ (by omega), less]
  · rw [if_neg mirror, if_neg mirror, length, short_value _ short]

theorem moved_down_byte (data : Bytes) (count i : Nat) (inside : i < count) :
    (moveDown data count).getD i 0 = data.getD (i + 16) 0 := by
  have early : i < ((List.range count).map fun i => data.getD (i + 16) 0).length := by simpa using inside
  rw [moveDown, List.getD_append _ _ _ _ early]
  simp [inside]

theorem data_byte (i : Nat) (inside : i < pev.sizeData.toNat) :
    pev.dataBytes.getD i 0 = (pev.pdata.getD []).getD i 0 := by
  simp [VscpEvent.dataBytes, inside]

theorem canal_data_byte (short : pev.sizeData.toNat < 2 ^ 15) (i : Nat)
    (inside : i < (canalPayload pev).length) :
    ((canalData pev).getD []).getD i 0 = (canalPayload pev).getD i 0 := by
  have size := canal_size_value pev short
  have length : pev.dataBytes.length = pev.sizeData.toNat := by simp [VscpEvent.dataBytes]
  by_cases mirror : mirrorsLevel1 pev
  · have someData : canalSize pev ≠ 0 := by
      intro empty
      rw [empty] at size
      have zero : (0 : Int16).toInt = 0 := rfl
      omega
    have count : (canalSize pev).toNatClampNeg = (canalPayload pev).length := by
      rw [← Int16.toNat_toInt, size, Int.toNat_natCast]
    have payload : canalPayload pev = pev.dataBytes.drop 16 := by rw [canalPayload, if_pos mirror]
    have reach : i + 16 < pev.sizeData.toNat := by
      rw [payload, List.length_drop, length] at inside
      omega
    have shifted : (pev.dataBytes.drop 16).getD i 0 = pev.dataBytes.getD (i + 16) 0 := by
      rw [List.getD_eq_getElem?_getD, List.getElem?_drop, List.getD_eq_getElem?_getD, Nat.add_comm]
    rw [canalData, if_pos ⟨mirror, someData⟩, count]
    cases held : pev.pdata with
    | none =>
        have same := data_byte pev (i + 16) reach
        rw [payload, shifted, same, held]
        rfl
    | some data =>
        have same := data_byte pev (i + 16) reach
        rw [held] at same
        rw [Option.map_some, Option.getD_some, moved_down_byte data _ i inside, payload, shifted, same]
        rfl
  · have payload : canalPayload pev = pev.dataBytes := by rw [canalPayload, if_neg mirror]
    rw [payload, length] at inside
    rw [canalData, if_neg (by simp [mirror]), payload, data_byte pev i inside]

theorem message_size_value (short : pev.sizeData.toNat < 2 ^ 15) :
    (if canalSize pev ≤ 8 then (canalSize pev).toUInt16.toUInt8 else 8).toNat = min 8 (canalPayload pev).length := by
  have size := canal_size_value pev short
  by_cases small : canalSize pev ≤ 8
  · have bound : (canalSize pev).toInt ≤ 8 := Int16.le_iff_toInt_le.mp small
    have positive : 0 ≤ canalSize pev := by
      apply Int16.le_iff_toInt_le.mpr
      rw [size]
      exact Int.natCast_nonneg _
    have value : (canalSize pev).toUInt16.toNat = (canalPayload pev).length := by
      rw [Int16.toNat_toUInt16_of_le positive, ← Int16.toNat_toInt, size, Int.toNat_natCast]
    rw [if_pos small, UInt16.toNat_toUInt8, value]
    omega
  · have large : ¬ (canalSize pev).toInt ≤ (8 : Int16).toInt := mt Int16.le_iff_toInt_le.mpr small
    have bound : (8 : Int16).toInt = 8 := rfl
    have eight : (8 : UInt8).toNat = 8 := rfl
    rw [if_neg small]
    omega

theorem canal_data_present (present : ¬ (pev.sizeData ≠ 0 ∧ pev.pdata = none))
    (nonempty : 0 < (canalPayload pev).length) : ∃ bytes, canalData pev = some bytes := by
  have length : pev.dataBytes.length = pev.sizeData.toNat := by simp [VscpEvent.dataBytes]
  have nonzero : pev.sizeData ≠ 0 := by
    intro zero
    have empty : (canalPayload pev).length = 0 := by
      unfold canalPayload
      split
      · rw [List.length_drop, length, zero]
        rfl
      · rw [length, zero]
        rfl
    omega
  obtain ⟨data, held⟩ := Option.ne_none_iff_exists'.mp fun missing => present ⟨nonzero, missing⟩
  unfold canalData
  split
  · exact ⟨moveDown data (canalSize pev).toNatClampNeg, by rw [held, Option.map_some]⟩
  · exact ⟨data, held⟩

theorem event_to_canal_carries (pcanalMsg : CanalMsg) (pev : VscpEvent)
    (present : ¬ (pev.sizeData ≠ 0 ∧ pev.pdata = none)) (short : pev.sizeData.toNat < 2 ^ 15) :
    ∃ msg moved, convertEventToCanal pcanalMsg pev = some (msg, moved) ∧ msg.id = canalIdOf pev ∧
      msg.sizeData.toNat = min 8 (canalPayload pev).length ∧ msgData msg = (canalPayload pev).take 8 := by
  have size := message_size_value pev short
  simp only [convertEventToCanal, if_neg present]
  generalize (if canalSize pev ≤ 8 then (canalSize pev).toUInt16.toUInt8 else 8) = sizeData at size
  refine ⟨_, _, rfl, rfl, size, ?_⟩
  simp only [msgData]
  apply List.ext_getElem
  · simp only [List.length_take, Vector.length_toList, size]
    omega
  · intro i left right
    have inside : i < (canalPayload pev).length := by
      rw [List.length_take] at right
      omega
    have counted : i < sizeData.toNat := by
      rw [List.length_take] at right
      omega
    have eight : i < 8 := by omega
    have same := canal_data_byte pev short i inside
    obtain ⟨bytes, held⟩ := canal_data_present pev present (by omega)
    rw [held, Option.getD_some, List.getD_eq_getElem _ _ inside] at same
    simp only [held, List.getElem_take, Vector.getElem_toList, Vector.getElem_ofFn, if_pos counted]
    exact same

theorem event_priority_value : (getEventPriority pev).toNat = field 5 3 pev.head.toNat := by
  have below := field_lt 5 3 pev.head.toNat
  have value : ((pev.head >>> 5) &&& 0x07).toNat = field 5 3 pev.head.toNat := by
    rw [UInt16.toNat_and, UInt16.toNat_shiftRight]
    exact shift_mask_field 5 3 pev.head.toNat
  rw [getEventPriority, UInt16.toNat_toUInt8, value]
  omega

theorem low_byte_value (id : UInt64) : (id &&& 0xff).toUInt8.toNat = field 0 8 id.toNat := by
  have below := field_lt 0 8 id.toNat
  have value : (id &&& 0xff).toNat = field 0 8 id.toNat := by
    rw [UInt64.toNat_and]
    exact shift_mask_field 0 8 id.toNat
  rw [UInt64.toNat_toUInt8, value]
  omega

theorem nickname_of_set (guid : Guid) (nickname : UInt8) : (guid.set 15 nickname).get 15 = nickname :=
  Vector.getElem_set_self (by decide)

theorem read_data_bytes (pcanalMsg : CanalMsg) (pguid : Guid) (ev : VscpEvent) (size : pcanalMsg.sizeData ≤ 8)
    (read : CarriesMessage pcanalMsg pguid ev) : ev.dataBytes = msgData pcanalMsg := by
  have bound : pcanalMsg.sizeData.toNat ≤ 8 := UInt8.le_iff_toNat_le.mp size
  have count : ev.sizeData.toNat = pcanalMsg.sizeData.toNat := by
    rw [read.sizeData, UInt8.toNat_toUInt16]
  apply List.ext_getElem
  · simp only [VscpEvent.dataBytes, msgData, List.length_map, List.length_range, List.length_take, Vector.length_toList]
    omega
  · intro i left right
    have inside : i < pcanalMsg.sizeData.toNat := by
      simp only [msgData, List.length_take] at right
      omega
    have some : pcanalMsg.sizeData > 0 := by
      apply UInt8.lt_iff_toNat_lt.mpr
      exact Nat.zero_lt_of_lt inside
    have data := read.pdata
    rw [if_pos some] at data
    simp only [VscpEvent.dataBytes, data, List.getElem_map, List.getElem_range, Option.getD_some]
    exact List.getD_eq_getElem _ _ right

def sampleClock : Clock := ⟨1000000000, 0, ⟨2024, 1, 2, 3, 4, 5⟩⟩
def blankEvent : VscpEvent := ⟨0, 0, 0, 0, 0, 0, 0, Vector.replicate 16 0, 0, none, 0⟩
def blankMsg : CanalMsg := ⟨0, 0, 0, 0, Vector.replicate 8 0, 0⟩

theorem canal_message_round_trip (clock : Clock) (rawtime : UInt64) (pev : VscpEvent) (pcanalMsg out : CanalMsg)
    (pguid : Guid) (extended : pcanalMsg.id < 0x20000000) (size : pcanalMsg.sizeData ≤ 8) :
    ∃ ev, convertCanalToEvent clock rawtime pev pcanalMsg pguid = (true, ev) ∧
      ∃ msg moved, convertEventToCanal out ev = some (msg, moved) ∧ msg.id = pcanalMsg.id ∧
        msg.sizeData = pcanalMsg.sizeData ∧ msgData msg = msgData pcanalMsg := by
  have idBound : pcanalMsg.id.toNat < 2 ^ 29 := UInt64.lt_iff_toNat_lt.mp extended
  have sizeBound : pcanalMsg.sizeData.toNat ≤ 8 := UInt8.le_iff_toNat_le.mp size
  obtain ⟨ev, converted, read⟩ := canal_to_event_reads clock rawtime pev pcanalMsg pguid (by omega) size
  have count : ev.sizeData.toNat = pcanalMsg.sizeData.toNat := by
    rw [read.sizeData, UInt8.toNat_toUInt16]
  have classBound : ev.vscpClass.toNat < 2 ^ 9 := read.vscpClass ▸ field_lt 16 9 pcanalMsg.id.toNat
  have typeBound : ev.vscpType.toNat < 2 ^ 8 := read.vscpType ▸ field_lt 8 8 pcanalMsg.id.toNat
  have plain : mirrorsLevel1 ev = false := by
    have low : ¬ ev.vscpClass ≥ 512 := by
      intro high
      have reach : 512 ≤ ev.vscpClass.toNat := UInt16.le_iff_toNat_le.mp high
      omega
    simp only [mirrorsLevel1, low, decide_false, Bool.false_and]
  have sameClass : canalClass ev = ev.vscpClass := by simp [canalClass, plain]
  have payload : canalPayload ev = msgData pcanalMsg := by
    simp [canalPayload, plain, read_data_bytes pcanalMsg pguid ev size read]
  have present : ¬ (ev.sizeData ≠ 0 ∧ ev.pdata = none) := by
    rintro ⟨nonzero, missing⟩
    have data := read.pdata
    by_cases some : pcanalMsg.sizeData > 0
    · simp [some, missing] at data
    · have zero := UInt8.le_zero_iff.mp (UInt8.not_lt.mp some)
      exact nonzero (by rw [read.sizeData, zero]; rfl)
  obtain ⟨msg, moved, written, idWritten, sizeWritten, dataWritten⟩ :=
    event_to_canal_carries out ev present (by omega)
  have length : (msgData pcanalMsg).length = pcanalMsg.sizeData.toNat := by
    simp only [msgData, List.length_take, Vector.length_toList]
    omega
  refine ⟨ev, converted, msg, moved, written, ?_, ?_, ?_⟩
  · apply UInt64.toNat_inj.mp
    have value := canal_id_value ev (by rw [sameClass]; exact classBound) typeBound
    have nickname : (ev.guid.get 15).toNat = field 0 8 pcanalMsg.id.toNat := by
      rw [read.guid, nickname_of_set, low_byte_value]
    rw [idWritten, value, sameClass, read.vscpClass, read.vscpType, nickname, read.head]
    simp only [field]
    omega
  · apply UInt8.toNat_inj.mp
    rw [sizeWritten, payload, length]
    omega
  · rw [dataWritten, payload, List.take_of_length_le (by omega)]

theorem canal_message_round_trip_all_bits :
    ∃ ev, convertCanalToEvent sampleClock 0 blankEvent { blankMsg with id := 0x1fffffff, sizeData := 8 }
        (Vector.replicate 16 7) = (true, ev) ∧
      ∃ msg moved, convertEventToCanal blankMsg ev = some (msg, moved) ∧ msg.id = 0x1fffffff ∧ msg.sizeData = 8 ∧
        msgData msg = msgData { blankMsg with id := 0x1fffffff, sizeData := 8 } :=
  canal_message_round_trip sampleClock 0 blankEvent { blankMsg with id := 0x1fffffff, sizeData := 8 } blankMsg
    (Vector.replicate 16 7) (by decide) (by decide)

-- What a 29-bit CANAL id has room for, from an event or from the one it mirrors.
def canalRange (pev : VscpEvent) : Prop :=
  (pev.vscpClass < 512 ∨ (512 ≤ pev.vscpClass ∧ pev.vscpClass < 1024 ∧ 16 ≤ pev.sizeData)) ∧ pev.vscpType < 256

theorem range_class (range : canalRange pev) :
    canalClass pev = (if pev.vscpClass < 512 then pev.vscpClass else pev.vscpClass - 512) ∧
      canalPayload pev = (if pev.vscpClass < 512 then pev.dataBytes else pev.dataBytes.drop 16) ∧
      (canalClass pev).toNat < 512 := by
  rcases range.1 with low | ⟨high, below, long⟩
  · have plain : mirrorsLevel1 pev = false := by
      simp [mirrorsLevel1, UInt16.not_le.mpr low]
    simp only [canalClass, canalPayload, plain, if_pos low, Bool.false_eq_true, if_false]
    exact ⟨trivial, trivial, UInt16.lt_iff_toNat_lt.mp low⟩
  · have mirror : mirrorsLevel1 pev = true := by
      simp [mirrorsLevel1, high, below, long]
    have less : (pev.vscpClass - 512).toNat = pev.vscpClass.toNat - 512 := UInt16.toNat_sub_of_le _ _ high
    have bound : pev.vscpClass.toNat < 1024 := UInt16.lt_iff_toNat_lt.mp below
    simp only [canalClass, canalPayload, mirror, if_true, if_neg (UInt16.not_lt.mpr high), less]
    exact ⟨trivial, trivial, by omega⟩

theorem event_canal_round_trip (clock : Clock) (rawtime : UInt64) (pev target : VscpEvent) (out : CanalMsg)
    (pguid : Guid) (short : pev.sizeData.toNat < 2 ^ 15) :
    (convertEventToCanal out pev = none ↔ pev.sizeData ≠ 0 ∧ pev.pdata = none) ∧
    ∀ msg moved, convertEventToCanal out pev = some (msg, moved) → canalRange pev →
      ∃ ev, convertCanalToEvent clock rawtime target msg pguid = (true, ev) ∧
        getEventPriority ev = getEventPriority pev ∧
        ev.vscpClass = (if pev.vscpClass < 512 then pev.vscpClass else pev.vscpClass - 512) ∧
        ev.vscpType = pev.vscpType ∧
        ev.guid = pguid.set 15 (pev.guid.get 15) ∧
        ev.dataBytes = (if pev.vscpClass < 512 then pev.dataBytes else pev.dataBytes.drop 16).take 8 := by
  refine ⟨event_to_canal_refuses out pev, ?_⟩
  intro msg moved written range
  obtain ⟨sameClass, payload, classBelow⟩ := range_class pev range
  have typeBelow : pev.vscpType.toNat < 256 := UInt16.lt_iff_toNat_lt.mp range.2
  have present : ¬ (pev.sizeData ≠ 0 ∧ pev.pdata = none) := by
    intro missing
    rw [(event_to_canal_refuses out pev).mpr missing] at written
    cases written
  obtain ⟨given, rest, again, idWritten, sizeWritten, dataWritten⟩ := event_to_canal_carries out pev present short
  obtain ⟨rfl, rfl⟩ : given = msg ∧ rest = moved := by
    simpa only [again, Option.some.injEq, Prod.mk.injEq] using written
  have value := canal_id_value pev classBelow typeBelow
  have priorityBelow := field_lt 5 3 pev.head.toNat
  have hardBelow := field_lt 4 1 pev.head.toNat
  have nicknameBelow : (pev.guid.get 15).toNat < 2 ^ 8 := (pev.guid.get 15).toNat_lt
  have size : given.sizeData ≤ 8 := by
    apply UInt8.le_iff_toNat_le.mpr
    rw [sizeWritten]
    exact Nat.min_le_left 8 _
  rw [← idWritten] at value
  obtain ⟨ev, converted, read⟩ := canal_to_event_reads clock rawtime target given pguid (by omega) size
  refine ⟨ev, converted, ?_, ?_, ?_, ?_, ?_⟩
  · apply UInt8.toNat_inj.mp
    rw [event_priority_value, event_priority_value, read.head, value]
    simp only [field] at priorityBelow hardBelow ⊢
    omega
  · apply UInt16.toNat_inj.mp
    rw [← sameClass, read.vscpClass, value]
    simp only [field] at priorityBelow hardBelow ⊢
    omega
  · apply UInt16.toNat_inj.mp
    rw [read.vscpType, value]
    simp only [field] at priorityBelow hardBelow ⊢
    omega
  · have nickname : (given.id &&& 0xff).toUInt8 = pev.guid.get 15 := by
      apply UInt8.toNat_inj.mp
      rw [low_byte_value, value]
      simp only [field] at priorityBelow hardBelow ⊢
      omega
    rw [read.guid, nickname]
  · rw [read_data_bytes given pguid ev size read, dataWritten, payload]

def mirroredEvent : VscpEvent :=
  { blankEvent with
    head := 0x60
    vscpClass := 522
    vscpType := 6
    guid := (Vector.replicate 16 0).set 15 9
    sizeData := 18
    pdata := some (List.replicate 16 1 ++ [33, 44]) }

theorem event_canal_round_trip_mirrored :
    ∃ ev, convertCanalToEvent sampleClock 0 blankEvent
        { blankMsg with flags := 1, id := 0x0c0a0609, sizeData := 2, data := #v[33, 44, 0, 0, 0, 0, 0, 0] }
        (Vector.replicate 16 0) = (true, ev) ∧
      getEventPriority ev = 3 ∧ ev.vscpClass = 10 ∧ ev.vscpType = 6 ∧ ev.guid = mirroredEvent.guid ∧
      ev.dataBytes = [33, 44] :=
  (event_canal_round_trip sampleClock 0 mirroredEvent blankEvent blankMsg (Vector.replicate 16 0) (by decide)).2 _
    { mirroredEvent with pdata := canalData mirroredEvent } (by decide) ⟨.inr (by decide), by decide⟩

-- Nothing looks at the type: its ninth bit lands in the class.
theorem wide_type_accepted :
    ∃ msg moved ev, convertEventToCanal blankMsg { blankEvent with vscpClass := 20, vscpType := 256 } = some (msg, moved) ∧
      convertCanalToEvent sampleClock 0 blankEvent msg (Vector.replicate 16 0) = (true, ev) ∧
      ev.vscpClass = 21 ∧ ev.vscpType = 0 :=
  ⟨_, _, _, rfl, rfl, by decide, by decide⟩

end Vscp
