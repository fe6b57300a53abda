import Vscp.EventText
import Vscp.Canal

set_option autoImplicit false

namespace Vscp.RemoteTcp

open BitField

def vscpErrorGeneric : Int := 12

-- What doCmdSendEx hands on: a command for doCommand, or in binary mode an event for doCmdSend.
inductive Sent
  | command (strBuf : Text)
  | frame (event : VscpEvent)
deriving DecidableEq

def sendWord : Text := ['s', 'e', 'n', 'd', ' ']

def doCmdSendEx (session : TextSession) (pEventEx : VscpEventEx) : Except VscpError Sent :=
  if ¬ session.connected then .error .connection
  else if session.modeReceiveLoop ∧ ¬ session.singleChannelReceiveLoop then .error .parameter
  else if pEventEx.sizeData.toNat > maxData then .error .parameter
  else if session.binaryMode then
    match convertEventExToEvent pEventEx with
    | none => .error .parameter
    | some event => .ok (.frame event)
  else
    match convertEventExToString pEventEx with
    | none => .error .parameter
    | some strBuf => .ok (.command (sendWord ++ strBuf ++ ['\r', '\n']))

def levelOneEvent (event : VscpEventEx) (pCanalMsg : CanalMsg) : VscpEventEx :=
  { event with
    vscpClass := ((pCanalMsg.id >>> 16) &&& 0x1ff).toUInt16
    vscpType := ((pCanalMsg.id >>> 8) &&& 0xff).toUInt8.toUInt16
    obid := pCanalMsg.obid.toUInt32
    timestampNs := (event.timestampNs &&& (0xffffffff : UInt64)) ||| (pCanalMsg.timestamp.toUInt32.toUInt64 <<< 32)
    head := 0
    guid := Vector.ofFn fun i => if i.val = 0 then (pCanalMsg.id &&& 0xff).toUInt8 else 0
    sizeData := pCanalMsg.sizeData.toUInt16
    data := overlay pCanalMsg.data.toList pCanalMsg.sizeData.toNat event.data }

def doCmdSendLevel1 (session : TextSession) (event : VscpEventEx) (pCanalMsg : CanalMsg) : Except VscpError Sent :=
  if ¬ session.connected then .error .connection
  else if session.modeReceiveLoop ∧ ¬ session.singleChannelReceiveLoop then .error .parameter
  else doCmdSendEx session (levelOneEvent event pCanalMsg)

def sentEvent (clock : Clock) (strBuf : Text) : Option VscpEvent :=
  convertStringToEvent clock emptyEvent (strBuf.drop sendWord.length).dropLast.dropLast

structure Retrieved where
  result : Except VscpError Unit
  inputStrArray : List Text

-- None stands for every error code: the caller makes the same one of them all.
def doCmdReceiveEx (clock : Clock) (session : TextSession) (blocking : Option VscpEventEx) (pEventEx : VscpEventEx)
    (retrieved : Retrieved) : Option VscpEventEx :=
  if ¬ session.connected then none
  else if session.binaryMode then blocking
  else if session.modeReceiveLoop then none
  else
    match retrieved.result, retrieved.inputStrArray with
    | .ok _, line :: _ => convertStringToEventEx clock pEventEx line
    | _, _ => none

-- The priority is three bits further up in a CANAL id, and the hard coded bit has a place of its own there.
def levelOneId (event : VscpEventEx) : UInt64 :=
  (event.head >>> 5).toUInt64 <<< 20 ||| event.vscpClass.toUInt64 <<< 16 ||| event.vscpType.toUInt64 <<< 8 |||
    (getLSB event.guid).toUInt64

def levelOneMessage (event : VscpEventEx) (pCanalMsg : CanalMsg) : CanalMsg :=
  { pCanalMsg with
    id := levelOneId event
    obid := event.obid.toUInt64
    sizeData := event.sizeData.toUInt8
    data := Vector.ofFn fun i =>
      if i.val < event.sizeData.toNat then event.data.toList.getD i.val 0 else pCanalMsg.data.get i
    timestamp := event.timestampNs >>> 32 }

def doCmdReceiveLevel1 (clock : Clock) (session : TextSession) (blocking : Option VscpEventEx) (event : VscpEventEx)
    (pCanalMsg : CanalMsg) (retrieved : Retrieved) : Except Int CanalMsg :=
  if ¬ session.connected then .error VscpError.connection.code
  else if session.modeReceiveLoop then .error VscpError.parameter.code
  else
    match doCmdReceiveEx clock session blocking event retrieved with
    | none => .error vscpErrorGeneric
    | some event =>
        if event.sizeData > 8 then .error vscpErrorGeneric
        else .ok (levelOneMessage event pCanalMsg)

def receiveLines (clock : Clock) (session : TextSession) (event : VscpEventEx) (pCanalMsg : CanalMsg) :
    List Text → List (Except Int CanalMsg)
  | [] => []
  | line :: rest =>
      let received := doCmdReceiveLevel1 clock session none event pCanalMsg ⟨.ok (), [line]⟩
      received :: receiveLines clock session event (received.toOption.getD pCanalMsg) rest

structure SameMessage (left right : VscpEvent) : Prop where
  priority : field 5 3 left.head.toNat = field 5 3 right.head.toNat
  hardCoded : field 4 1 left.head.toNat = field 4 1 right.head.toNat
  vscpClass : left.vscpClass = right.vscpClass
  vscpType : left.vscpType = right.vscpType
  nickname : left.guid.get 15 = right.guid.get 15
  data : left.dataBytes = right.dataBytes

structure ReadySession (session : TextSession) : Prop where
  connected : session.connected = true
  text : session.binaryMode = false
  free : session.modeReceiveLoop = false

variable (clock : Clock) (session : TextSession) (event : VscpEventEx) (pCanalMsg : CanalMsg)

variable (line : Text) (rest : List Text) (pev : VscpEvent)

theorem any_event_text_reads (size : pev.sizeData.toNat ≤ maxData)
    (whole : (pev.pdata.getD []).length = pev.sizeData.toNat) :
    ∃ read, convertStringToEvent clock emptyEvent (convertEventToString pev) = some read ∧
      read.head = ((((pev.head &&& ~~~frameVersionMask) ||| frameVersionUnixNs) &&& ~~~frameVersionMask) |||
        frameVersionUnixNs) ∧ read.vscpClass = pev.vscpClass ∧
      read.vscpType = pev.vscpType ∧ read.guid = pev.guid ∧ read.sizeData = pev.sizeData ∧
      read.dataBytes = pev.dataBytes := by
  have bytes := data_bytes_exact pev whole
  have length : pev.dataBytes.length = pev.sizeData.toNat := data_bytes_length pev
  have present : pev.sizeData ≠ 0 → pev.pdata ≠ none := by
    intro nonempty missing
    rw [missing] at whole
    exact nonempty (UInt16.toNat_inj.mp whole.symm)
  have fields : split (convertEventToString pev) ',' = eventFields pev := by
    rw [event_text_fields pev present]
    exact split_joined ',' _ _ (field_letters pev) (.inl (NumberText.decimal_nonempty _))
  have room : ¬ (pev.dataBytes.map (dataLetters false)).length > maxData := by
    rw [List.length_map, length]
    exact Nat.not_lt.mpr size
  rw [convertStringToEvent, fields]
  simp only [eventFields, List.cons_append, List.nil_append, if_neg room, read_word16, read_word32, read_data_list,
    guid_text_round_trip]
  have sizeBack : UInt16.ofNat pev.dataBytes.length = pev.sizeData := by rw [length, UInt16.ofNat_toNat]
  refine ⟨_, rfl, rfl, rfl, rfl, rfl, sizeBack, ?_⟩
  have held : (if pev.dataBytes = [] then none else some pev.dataBytes).getD [] = pev.dataBytes := by
    split
    · rename_i empty
      exact empty.symm
    · rfl
  rw [data_bytes_exact _ (by rw [held, sizeBack, length])]
  exact held

theorem level_one_fields :
    (levelOneEvent event pCanalMsg).vscpClass.toNat = field 16 9 pCanalMsg.id.toNat ∧
      (levelOneEvent event pCanalMsg).vscpType.toNat = field 8 8 pCanalMsg.id.toNat := by
  have classBelow := field_lt 16 9 pCanalMsg.id.toNat
  have typeBelow := field_lt 8 8 pCanalMsg.id.toNat
  have classValue : ((pCanalMsg.id >>> 16) &&& 0x1ff).toNat = field 16 9 pCanalMsg.id.toNat := by
    rw [UInt64.toNat_and, UInt64.toNat_shiftRight]
    exact shift_mask_field 16 9 pCanalMsg.id.toNat
  have typeValue : ((pCanalMsg.id >>> 8) &&& 0xff).toNat = field 8 8 pCanalMsg.id.toNat := by
    rw [UInt64.toNat_and, UInt64.toNat_shiftRight]
    exact shift_mask_field 8 8 pCanalMsg.id.toNat
  constructor
  · rw [levelOneEvent, UInt64.toNat_toUInt16, classValue]
    omega
  · rw [levelOneEvent, UInt8.toNat_toUInt16, UInt64.toNat_toUInt8, typeValue]
    omega

theorem level_one_nickname :
    (levelOneEvent event pCanalMsg).guid.get 15 = 0 := by
  rw [levelOneEvent]
  exact (Vector.getElem_ofFn (by decide)).trans (if_neg (by decide))

theorem level_one_sent (ready : ReadySession session) (size : pCanalMsg.sizeData ≤ 8) :
    ∃ strBuf read, doCmdSendLevel1 session event pCanalMsg = .ok (.command strBuf) ∧
      sentEvent clock strBuf = some read ∧ read.head = frameVersionUnixNs ∧
      read.vscpClass.toNat = field 16 9 pCanalMsg.id.toNat ∧ read.vscpType.toNat = field 8 8 pCanalMsg.id.toNat ∧
      read.guid = (levelOneEvent event pCanalMsg).guid ∧ read.dataBytes = msgData pCanalMsg := by
  have bound : pCanalMsg.sizeData.toNat ≤ 8 := UInt8.le_iff_toNat_le.mp size
  have count : (levelOneEvent event pCanalMsg).sizeData.toNat = pCanalMsg.sizeData.toNat := UInt8.toNat_toUInt16 _
  have fits : ¬ (levelOneEvent event pCanalMsg).sizeData.toNat > maxData := by
    have most : maxData = 512 := rfl
    omega
  obtain ⟨classValue, typeValue⟩ := level_one_fields event pCanalMsg
  have front : ((levelOneEvent event pCanalMsg).data.toList.take (levelOneEvent event pCanalMsg).sizeData.toNat) =
      msgData pCanalMsg := by
    rw [count]
    apply List.ext_getElem
    · simp [msgData]
      omega
    · intro i left right
      have inside : i < pCanalMsg.sizeData.toNat := by
        rw [List.length_take] at left
        omega
      have within : i < pCanalMsg.data.toList.length := by
        rw [Vector.length_toList]
        omega
      simp only [msgData, List.getElem_take, Vector.getElem_toList, levelOneEvent, overlay, Vector.getElem_ofFn,
        if_pos inside]
      rw [List.getD_eq_getElem _ _ within, Vector.getElem_toList]
  have free : ¬ (session.modeReceiveLoop = true ∧ ¬ session.singleChannelReceiveLoop = true) := by
    rw [ready.free]
    exact fun loops => Bool.noConfusion loops.1
  obtain ⟨pev, converted, head, vscpClass, vscpType, guid, sizeData, pdata⟩ : ∃ pev,
      convertEventExToEvent (levelOneEvent event pCanalMsg) = some pev ∧ pev.head = 0 ∧
        pev.vscpClass = (levelOneEvent event pCanalMsg).vscpClass ∧
        pev.vscpType = (levelOneEvent event pCanalMsg).vscpType ∧
        pev.guid = (levelOneEvent event pCanalMsg).guid ∧ pev.sizeData = (levelOneEvent event pCanalMsg).sizeData ∧
        pev.pdata.getD [] = msgData pCanalMsg := by
    refine ⟨_, if_neg fits, rfl, rfl, rfl, rfl, rfl, ?_⟩
    dsimp only
    split
    · rename_i empty
      rw [← front, empty]
      rfl
    · exact front
  have whole : (pev.pdata.getD []).length = pev.sizeData.toNat := by
    rw [pdata, sizeData, count, msgData, List.length_take, Vector.length_toList]
    omega
  obtain ⟨read, parsed, readHead, readClass, readType, readGuid, _, readData⟩ :=
    any_event_text_reads clock pev (by rw [sizeData]; omega) whole
  refine ⟨sendWord ++ convertEventToString pev ++ ['\r', '\n'], read, ?_, ?_, ?_, ?_, ?_, ?_, ?_⟩
  · rw [doCmdSendLevel1, if_neg (by simp [ready.connected]), if_neg free, doCmdSendEx,
      if_neg (by simp [ready.connected]), if_neg free, if_neg fits, if_neg (by simp [ready.text]),
      convertEventExToString, converted]
    rfl
  · rw [sentEvent, List.append_assoc, List.drop_left' rfl]
    simpa using parsed
  · rw [readHead, head]
    decide
  · rw [readClass, vscpClass, classValue]
  · rw [readType, vscpType, typeValue]
  · rw [readGuid, guid]
  · rw [readData, data_bytes_exact pev whole, pdata]

theorem sent_same_message_iff (rawtime : UInt64) (pev : VscpEvent) (pguid : Guid) (ready : ReadySession session)
    (extended : pCanalMsg.id < 0x20000000) (size : pCanalMsg.sizeData ≤ 8) :
    ∃ strBuf read converted, doCmdSendLevel1 session event pCanalMsg = .ok (.command strBuf) ∧
      sentEvent clock strBuf = some read ∧
      convertCanalToEvent clock rawtime pev pCanalMsg pguid = (true, converted) ∧
      (SameMessage read converted ↔ pCanalMsg.id < 0x2000000 ∧ pCanalMsg.id &&& 0xff = 0) := by
  have small : pCanalMsg.id.toNat < 2 ^ 29 := UInt64.lt_iff_toNat_lt.mp extended
  obtain ⟨strBuf, read, sent, parsed, head, vscpClass, vscpType, guid, data⟩ :=
    level_one_sent clock session event pCanalMsg ready size
  obtain ⟨converted, library, carries⟩ := canal_to_event_reads clock rawtime pev pCanalMsg pguid (by omega) size
  refine ⟨strBuf, read, converted, sent, parsed, library, ?_⟩
  have priorityBelow := field_lt 26 3 pCanalMsg.id.toNat
  have hardBelow := field_lt 25 1 pCanalMsg.id.toNat
  have low : pCanalMsg.id < 0x2000000 ↔ field 26 3 pCanalMsg.id.toNat = 0 ∧ field 25 1 pCanalMsg.id.toNat = 0 := by
    have bound : (0x2000000 : UInt64).toNat = 2 ^ 25 := rfl
    rw [UInt64.lt_iff_toNat_lt, bound]
    simp only [field]
    omega
  have byte : pCanalMsg.id &&& 0xff = 0 ↔ (pCanalMsg.id &&& 0xff).toUInt8 = 0 := by
    have value : (pCanalMsg.id &&& 0xff).toNat = field 0 8 pCanalMsg.id.toNat := by
      rw [UInt64.toNat_and]
      exact shift_mask_field 0 8 _
    rw [← UInt64.toNat_inj, ← UInt8.toNat_inj, low_byte_value, value]
    rfl
  have readNickname : read.guid.get 15 = 0 := by rw [guid, level_one_nickname]
  have sentHead : field 5 3 read.head.toNat = 0 ∧ field 4 1 read.head.toNat = 0 := by
    rw [head]
    decide
  have libraryHead : field 5 3 converted.head.toNat = field 26 3 pCanalMsg.id.toNat ∧
      field 4 1 converted.head.toNat = field 25 1 pCanalMsg.id.toNat := by
    rw [carries.head]
    simp only [field] at priorityBelow hardBelow ⊢
    omega
  have libraryNickname : converted.guid.get 15 = (pCanalMsg.id &&& 0xff).toUInt8 := by
    rw [carries.guid, nickname_of_set]
  rw [low, byte]
  constructor
  · intro same
    have priority := same.priority
    have hardCoded := same.hardCoded
    have nickname := same.nickname
    rw [sentHead.1, libraryHead.1] at priority
    rw [sentHead.2, libraryHead.2] at hardCoded
    rw [readNickname, libraryNickname] at nickname
    exact ⟨⟨priority.symm, hardCoded.symm⟩, nickname.symm⟩
  · rintro ⟨⟨priority, hardCoded⟩, nickname⟩
    constructor
    · rw [sentHead.1, libraryHead.1, priority]
    · rw [sentHead.2, libraryHead.2, hardCoded]
    · apply UInt16.toNat_inj.mp
      rw [vscpClass, carries.vscpClass]
    · apply UInt16.toNat_inj.mp
      rw [vscpType, carries.vscpType]
    · rw [readNickname, libraryNickname, nickname]
    · rw [data, read_data_bytes pCanalMsg pguid converted size carries]

-- A head that fares as well twenty bits up as in the places of a CANAL id: what lands on the class is there
-- already, and the bits above repeat the priority and the hard coded bit.
structure HeadFits (head vscpClass : Nat) : Prop where
  onClass : ∀ k < 5, head.testBit (5 + k) = true → vscpClass.testBit (4 + k) = true
  hardCoded : head.testBit 10 = head.testBit 4
  priority : ∀ k < 3, head.testBit (11 + k) = head.testBit (5 + k)
  top : head.testBit 14 = false ∧ head.testBit 15 = false

theorem level_one_id_bit (bit : Nat) :
    (levelOneId event).toNat.testBit bit =
      ((decide (20 ≤ bit) && event.head.toNat.testBit (5 + (bit - 20))) ||
        (decide (16 ≤ bit) && event.vscpClass.toNat.testBit (bit - 16)) ||
        (decide (8 ≤ bit) && event.vscpType.toNat.testBit (bit - 8)) || (event.guid.get 15).toNat.testBit bit) := by
  have headBelow := event.head.toNat_lt
  have classBelow := event.vscpClass.toNat_lt
  have typeBelow := event.vscpType.toNat_lt
  have headValue : (event.head >>> 5).toUInt64.toNat = event.head.toNat >>> 5 := by
    rw [UInt16.toNat_toUInt64, UInt16.toNat_shiftRight]
    rfl
  have headPart := shifted_value (event.head >>> 5).toUInt64 20 20 rfl (by
    rw [headValue, Nat.shiftRight_eq_div_pow]
    omega) (by omega)
  have classPart := shifted_value event.vscpClass.toUInt64 16 16 rfl (by simp; omega) (by omega)
  have typePart := shifted_value event.vscpType.toUInt64 8 8 rfl (by simp; omega) (by omega)
  rw [levelOneId, UInt64.toNat_or, UInt64.toNat_or, UInt64.toNat_or, headPart, classPart, typePart, headValue]
  simp only [Nat.testBit_or, Nat.testBit_shiftLeft, Nat.testBit_shiftRight, UInt8.toNat_toUInt64,
    UInt16.toNat_toUInt64, ge_iff_le]

theorem level_one_id_iff (head : event.head = pev.head)
    (vscpClass : event.vscpClass = pev.vscpClass) (vscpType : event.vscpType = pev.vscpType)
    (guid : event.guid = pev.guid) (levelOne : pev.vscpClass < 512) (typeBelow : pev.vscpType < 256) :
    levelOneId event = canalIdOf pev ↔ HeadFits pev.head.toNat pev.vscpClass.toNat := by
  have classBound : pev.vscpClass.toNat < 2 ^ 9 := UInt16.lt_iff_toNat_lt.mp levelOne
  have typeBound : pev.vscpType.toNat < 2 ^ 8 := UInt16.lt_iff_toNat_lt.mp typeBelow
  have headBound : pev.head.toNat < 2 ^ 16 := pev.head.toNat_lt
  have nicknameBound : (pev.guid.get 15).toNat < 2 ^ 8 := (pev.guid.get 15).toNat_lt
  have noClass (bit : Nat) (above : 9 ≤ bit) : pev.vscpClass.toNat.testBit bit = false :=
    Nat.testBit_lt_two_pow (Nat.lt_of_lt_of_le classBound (Nat.pow_le_pow_right (by decide) above))
  have noType (bit : Nat) (above : 8 ≤ bit) : pev.vscpType.toNat.testBit bit = false :=
    Nat.testBit_lt_two_pow (Nat.lt_of_lt_of_le typeBound (Nat.pow_le_pow_right (by decide) above))
  have noNickname (bit : Nat) (above : 8 ≤ bit) : (pev.guid.get 15).toNat.testBit bit = false :=
    Nat.testBit_lt_two_pow (Nat.lt_of_lt_of_le nicknameBound (Nat.pow_le_pow_right (by decide) above))
  have noHead (bit : Nat) (above : 16 ≤ bit) : pev.head.toNat.testBit bit = false :=
    Nat.testBit_lt_two_pow (Nat.lt_of_lt_of_le headBound (Nat.pow_le_pow_right (by decide) above))
  have here (bit : Nat) := level_one_id_bit event bit
  have there (bit : Nat) := canal_id_bit pev levelOne bit
  rw [head, vscpClass, vscpType, guid] at here
  constructor
  · intro same
    have agree (bit : Nat) := (here bit).symm.trans ((congrArg (fun id => UInt64.toNat id |>.testBit bit) same).trans (there bit))
    refine ⟨?_, ?_, ?_, ?_, ?_⟩
    · intro k small set
      have at20 := agree (20 + k)
      simp [show ¬ (26 ≤ 20 + k) by omega, show 16 ≤ 20 + k by omega, show 8 ≤ 20 + k by omega,
        show ¬ 20 + k = 25 by omega, show 20 + k - 16 = 4 + k by omega, set, noType (20 + k - 8) (by omega),
        noNickname (20 + k) (by omega)] at at20
      exact at20
    · have at25 := agree 25
      simpa [noClass 9 (by omega), noType 17 (by omega), noNickname 25 (by omega)] using at25
    · intro k small
      have at26 := agree (26 + k)
      simpa [show 26 + k < 29 by omega, show 20 ≤ 26 + k by omega, show 16 ≤ 26 + k by omega,
        show 8 ≤ 26 + k by omega, show ¬ 26 + k = 25 by omega, show 5 + (26 + k - 20) = 11 + k by omega,
        noClass (26 + k - 16) (by omega), noType (26 + k - 8) (by omega), noNickname (26 + k) (by omega)] using at26
    · have at29 := agree 29
      simpa [noClass 13 (by omega), noType 21 (by omega), noNickname 29 (by omega)] using at29
    · have at30 := agree 30
      simpa [noClass 14 (by omega), noType 22 (by omega), noNickname 30 (by omega)] using at30
  · intro fits
    apply UInt64.toNat_inj.mp
    apply Nat.eq_of_testBit_eq
    intro bit
    rw [here, there]
    by_cases low : bit < 20
    · simp [show ¬ 20 ≤ bit by omega, show ¬ 26 ≤ bit by omega, show ¬ bit = 25 by omega]
    have tail : pev.vscpType.toNat.testBit (bit - 8) = false ∧ (pev.guid.get 15).toNat.testBit bit = false :=
      ⟨noType _ (by omega), noNickname _ (by omega)⟩
    simp only [tail, Bool.and_false, Bool.or_false, show 20 ≤ bit by omega, show 16 ≤ bit by omega, decide_true,
      Bool.true_and]
    by_cases onClass : bit < 25
    · have covered := fits.onClass (bit - 20) (by omega)
      rw [show 4 + (bit - 20) = bit - 16 by omega] at covered
      simp only [show ¬ (26 ≤ bit ∧ bit < 29) by omega, show ¬ bit = 25 by omega, decide_false, Bool.false_and,
        Bool.false_or, Bool.or_false]
      cases set : pev.head.toNat.testBit (5 + (bit - 20)) with
      | false => rw [Bool.false_or]
      | true => rw [covered set, Bool.or_true]
    rw [noClass (bit - 16) (by omega), Bool.or_false, Bool.or_false]
    by_cases flag : bit = 25
    · subst flag
      simpa using fits.hardCoded
    by_cases priority : bit < 29
    · have repeated := fits.priority (bit - 26) (by omega)
      rw [show 11 + (bit - 26) = 5 + (bit - 20) by omega] at repeated
      simp [repeated, flag, show 26 ≤ bit by omega, priority]
    · have clear : pev.head.toNat.testBit (5 + (bit - 20)) = false := by
        rcases (by omega : bit = 29 ∨ bit = 30 ∨ 31 ≤ bit) with rfl | rfl | above
        · exact fits.top.1
        · exact fits.top.2
        · exact noHead _ (by omega)
      simp [clear, flag, show ¬ bit < 29 by omega]

structure LevelOneLine (clock : Clock) (line : Text) (pev : VscpEvent) : Prop where
  denotes : convertStringToEvent clock emptyEvent line = some pev
  vscpClass : pev.vscpClass < 512
  vscpType : pev.vscpType < 256
  size : pev.sizeData ≤ 8

structure SameCanalMsg (left right : CanalMsg) : Prop where
  id : left.id = right.id
  sizeData : left.sizeData = right.sizeData
  data : msgData left = msgData right

theorem parsed_whole (old : VscpEvent) (line : Text) (pev : VscpEvent)
    (parsed : convertStringToEvent clock old line = some pev) :
    (pev.pdata.getD []).length = pev.sizeData.toNat ∧ pev.sizeData.toNat ≤ maxData := by
  unfold convertStringToEvent at parsed
  split at parsed
  · rename_i data _
    split at parsed
    · cases parsed
    · rename_i fits
      have most : maxData = 512 := rfl
      rw [← Option.some.inj parsed]
      dsimp only
      rw [List.length_map, UInt16.toNat_ofNat', Nat.mod_eq_of_lt (by omega)]
      refine ⟨?_, by omega⟩
      split
      · rename_i empty
        rw [← List.length_map (f := fun token => UInt8.ofInt (readStringValue token)), empty]
        rfl
      · rw [Option.getD_some, List.length_map]
  · cases parsed

theorem line_to_ex (denotes : convertStringToEvent clock emptyEvent line = some pev) :
    ∃ pex, convertStringToEventEx clock event line = some pex ∧ pex.head = pev.head ∧ pex.vscpClass = pev.vscpClass ∧
      pex.vscpType = pev.vscpType ∧ pex.guid = pev.guid ∧ pex.sizeData = pev.sizeData ∧
      pex.data.toList.take pex.sizeData.toNat = pev.dataBytes := by
  obtain ⟨whole, small⟩ := parsed_whole clock emptyEvent line pev denotes
  have present : ¬ (pev.sizeData.toNat > maxData ∨ (pev.sizeData ≠ 0 ∧ pev.pdata = none)) := by
    rintro (long | ⟨nonempty, missing⟩)
    · omega
    · rw [missing] at whole
      exact nonempty (UInt16.toNat_inj.mp whole.symm)
  rw [convertStringToEventEx, denotes, Option.bind_some]
  refine ⟨_, if_neg present, rfl, rfl, rfl, rfl, rfl, ?_⟩
  rw [data_bytes_exact pev whole, ← whole]
  exact overlay_front _ (by rw [whole]; exact small) event.data

theorem received_message (ready : ReadySession session)
    (levelOne : LevelOneLine clock line pev) :
    ∃ pex message, doCmdReceiveLevel1 clock session none event pCanalMsg ⟨.ok (), line :: rest⟩ = .ok message ∧
      pex.head = pev.head ∧ pex.vscpClass = pev.vscpClass ∧ pex.vscpType = pev.vscpType ∧ pex.guid = pev.guid ∧
      message.id = levelOneId pex ∧ message.sizeData.toNat = pev.sizeData.toNat ∧ msgData message = pev.dataBytes := by
  obtain ⟨pex, parsed, head, vscpClass, vscpType, guid, sizeData, data⟩ :=
    line_to_ex clock event line pev levelOne.denotes
  have eight : pev.sizeData.toNat ≤ 8 := UInt16.le_iff_toNat_le.mp levelOne.size
  have size : pex.sizeData.toUInt8.toNat = pev.sizeData.toNat := by
    rw [sizeData, UInt16.toNat_toUInt8]
    omega
  have fits : ¬ pex.sizeData > 8 := by
    rw [sizeData]
    exact UInt16.not_lt.mpr levelOne.size
  refine ⟨pex, levelOneMessage pex pCanalMsg, ?_, head, vscpClass, vscpType, guid, rfl, size, ?_⟩
  · rw [doCmdReceiveLevel1, if_neg (by simp [ready.connected]), if_neg (by simp [ready.free])]
    simp only [doCmdReceiveEx, ready.connected, ready.text, ready.free, not_true_eq_false, if_false, parsed,
      Bool.false_eq_true, if_neg fits]
  · have count : (levelOneMessage pex pCanalMsg).sizeData.toNat = pev.sizeData.toNat := size
    rw [← data, msgData, count, sizeData]
    apply List.ext_getElem
    · simp
      omega
    · intro i left right
      have inside : i < pev.sizeData.toNat := by
        rw [List.length_take] at left
        omega
      have within : i < pex.data.toList.length := by
        rw [Vector.length_toList]
        omega
      simp only [List.getElem_take, Vector.getElem_toList, levelOneMessage, Vector.getElem_ofFn, sizeData, if_pos inside]
      rw [List.getD_eq_getElem _ _ within, Vector.getElem_toList]

theorem received_same_message_iff (pCanalMsg out : CanalMsg) (line : Text) (rest : List Text) (pev : VscpEvent) (ready : ReadySession session)
    (levelOne : LevelOneLine clock line pev) :
    ∃ message library moved,
      doCmdReceiveLevel1 clock session none event pCanalMsg ⟨.ok (), line :: rest⟩ = .ok message ∧
      convertEventToCanal out pev = some (library, moved) ∧
      (SameCanalMsg message library ↔ HeadFits pev.head.toNat pev.vscpClass.toNat) := by
  obtain ⟨pex, message, received, head, vscpClass, vscpType, guid, id, size, data⟩ :=
    received_message clock session event pCanalMsg line rest pev ready levelOne
  obtain ⟨whole, _⟩ := parsed_whole clock emptyEvent line pev levelOne.denotes
  have eight : pev.sizeData.toNat ≤ 8 := UInt16.le_iff_toNat_le.mp levelOne.size
  have present : ¬ (pev.sizeData ≠ 0 ∧ pev.pdata = none) := by
    rintro ⟨nonempty, missing⟩
    rw [missing] at whole
    exact nonempty (UInt16.toNat_inj.mp whole.symm)
  obtain ⟨library, moved, written, idWritten, sizeWritten, dataWritten⟩ :=
    event_to_canal_carries out pev present (by omega)
  have plain : canalPayload pev = pev.dataBytes := by
    have low : ¬ pev.vscpClass ≥ 512 := UInt16.not_le.mpr levelOne.vscpClass
    simp only [canalPayload, mirrorsLevel1, low, decide_false, Bool.false_and, Bool.false_eq_true, if_false]
  have length := data_bytes_length pev
  have ids := level_one_id_iff pex pev head vscpClass vscpType guid levelOne.vscpClass levelOne.vscpType
  refine ⟨message, library, moved, received, written, ?_⟩
  rw [← ids, ← id, ← idWritten]
  constructor
  · exact fun same => same.id
  · intro same
    refine ⟨same, ?_, ?_⟩
    · apply UInt8.toNat_inj.mp
      rw [size, sizeWritten, plain, length]
      omega
    · rw [data, dataWritten, plain, List.take_of_length_le (by omega)]

theorem level_one_id_fields (levelOne : event.vscpClass < 512) (typeBelow : event.vscpType < 256) :
    field 8 8 (levelOneId event).toNat = event.vscpType.toNat ∧
      (field 16 9 (levelOneId event).toNat = event.vscpClass.toNat ↔
        ∀ k < 5, event.head.toNat.testBit (5 + k) = true → event.vscpClass.toNat.testBit (4 + k) = true) := by
  have classBound : event.vscpClass.toNat < 2 ^ 9 := UInt16.lt_iff_toNat_lt.mp levelOne
  have typeBound : event.vscpType.toNat < 2 ^ 8 := UInt16.lt_iff_toNat_lt.mp typeBelow
  have nicknameBound : (event.guid.get 15).toNat < 2 ^ 8 := (event.guid.get 15).toNat_lt
  have noClass (bit : Nat) (above : 9 ≤ bit) : event.vscpClass.toNat.testBit bit = false :=
    Nat.testBit_lt_two_pow (Nat.lt_of_lt_of_le classBound (Nat.pow_le_pow_right (by decide) above))
  have noType (bit : Nat) (above : 8 ≤ bit) : event.vscpType.toNat.testBit bit = false :=
    Nat.testBit_lt_two_pow (Nat.lt_of_lt_of_le typeBound (Nat.pow_le_pow_right (by decide) above))
  have noNickname (bit : Nat) (above : 8 ≤ bit) : (event.guid.get 15).toNat.testBit bit = false :=
    Nat.testBit_lt_two_pow (Nat.lt_of_lt_of_le nicknameBound (Nat.pow_le_pow_right (by decide) above))
  constructor
  · apply Nat.eq_of_testBit_eq
    intro bit
    rw [field_bit, level_one_id_bit]
    by_cases inside : bit < 8
    · simp [inside, show ¬ 20 ≤ 8 + bit by omega, show ¬ 16 ≤ 8 + bit by omega, noNickname (8 + bit) (by omega)]
    · simp [inside, noType bit (by omega)]
  · constructor
    · intro same k small set
      have bits := congrArg (fun value => Nat.testBit value (4 + k)) same
      simp only [field_bit, level_one_id_bit] at bits
      simpa [show 4 + k < 9 by omega, show 20 ≤ 16 + (4 + k) by omega, show 5 + (16 + (4 + k) - 20) = 5 + k by omega,
        set] using bits
    · intro covered
      apply Nat.eq_of_testBit_eq
      intro bit
      rw [field_bit, level_one_id_bit]
      by_cases inside : bit < 9
      · simp only [inside, decide_true, Bool.true_and, show 16 ≤ 16 + bit by omega, show 8 ≤ 16 + bit by omega,
          show 16 + bit - 16 = bit by omega, noType (16 + bit - 8) (by omega), noNickname (16 + bit) (by omega),
          Bool.or_false]
        by_cases low : bit < 4
        · simp [show ¬ 20 ≤ 16 + bit by omega]
        · have here := covered (bit - 4) (by omega)
          rw [show 4 + (bit - 4) = bit by omega] at here
          rw [show 5 + (16 + bit - 20) = 5 + (bit - 4) by omega, decide_eq_true (by omega), Bool.true_and]
          cases set : event.head.toNat.testBit (5 + (bit - 4)) with
          | false => rw [Bool.false_or]
          | true => rw [here set, Bool.or_true]
      · simp [inside, noClass bit (by omega)]

structure ComesThrough (pev : VscpEvent) : Prop where
  onClass : ∀ k < 5, pev.head.toNat.testBit (5 + k) = true → pev.vscpClass.toNat.testBit (4 + k) = true
  priority : field 5 3 pev.head.toNat = 0
  hardCoded : field 4 1 pev.head.toNat = 0
  nickname : pev.guid.get 15 = 0

theorem passed_on_iff (ready : ReadySession session)
    (levelOne : LevelOneLine clock line pev) :
    ∃ message strBuf read,
      doCmdReceiveLevel1 clock session none event pCanalMsg ⟨.ok (), line :: rest⟩ = .ok message ∧
      doCmdSendLevel1 session event message = .ok (.command strBuf) ∧ sentEvent clock strBuf = some read ∧
      (SameMessage read pev ↔ ComesThrough pev) := by
  obtain ⟨pex, message, received, head, vscpClass, vscpType, guid, id, size, data⟩ :=
    received_message clock session event pCanalMsg line rest pev ready levelOne
  have eight : message.sizeData ≤ 8 := by
    apply UInt8.le_iff_toNat_le.mpr
    rw [size]
    exact UInt16.le_iff_toNat_le.mp levelOne.size
  obtain ⟨strBuf, read, sent, parsed, readHead, readClass, readType, readGuid, readData⟩ :=
    level_one_sent clock session event message ready eight
  obtain ⟨typeField, classField⟩ := level_one_id_fields pex (by rw [vscpClass]; exact levelOne.vscpClass)
    (by rw [vscpType]; exact levelOne.vscpType)
  rw [head, vscpClass] at classField
  rw [vscpType] at typeField
  have sentHead : field 5 3 read.head.toNat = 0 ∧ field 4 1 read.head.toNat = 0 := by
    rw [readHead]
    decide
  have nickname : read.guid.get 15 = 0 := by rw [readGuid, level_one_nickname]
  refine ⟨message, strBuf, read, received, sent, parsed, ?_⟩
  rw [id] at readClass readType
  constructor
  · intro same
    refine ⟨classField.mp ?_, ?_, ?_, ?_⟩
    · rw [← readClass, same.vscpClass]
    · rw [← same.priority, sentHead.1]
    · rw [← same.hardCoded, sentHead.2]
    · rw [← same.nickname, nickname]
  · intro through
    constructor
    · rw [sentHead.1, through.priority]
    · rw [sentHead.2, through.hardCoded]
    · apply UInt16.toNat_inj.mp
      rw [readClass, classField.mpr through.onClass]
    · apply UInt16.toNat_inj.mp
      rw [readType, typeField]
    · rw [nickname, through.nickname]
    · rw [readData, data]

def ReceivesLikeLibrary (clock : Clock) (out : CanalMsg) (line : Text) (received : Except Int CanalMsg) : Prop :=
  ∀ pev, LevelOneLine clock line pev → ∃ message library moved, received = .ok message ∧
    convertEventToCanal out pev = some (library, moved) ∧
    (SameCanalMsg message library ↔ HeadFits pev.head.toNat pev.vscpClass.toNat)

theorem received_lines_like_library (pCanalMsg out : CanalMsg) (lines : List Text) (ready : ReadySession session) :
    List.Forall₂ (ReceivesLikeLibrary clock out) lines (receiveLines clock session event pCanalMsg lines) := by
  induction lines generalizing pCanalMsg with
  | nil => exact .nil
  | cons line rest ih =>
      refine .cons ?_ (ih _)
      intro pev levelOne
      exact received_same_message_iff clock session event pCanalMsg out line [] pev ready levelOne

theorem level_one_text_iff (clock : Clock) (session : TextSession) (event : VscpEventEx) (ready : ReadySession session) :
    (∀ pCanalMsg : CanalMsg, pCanalMsg.id < 0x20000000 → pCanalMsg.sizeData ≤ 8 → ∀ rawtime pev pguid,
      ∃ strBuf read converted, doCmdSendLevel1 session event pCanalMsg = .ok (.command strBuf) ∧
        sentEvent clock strBuf = some read ∧
        convertCanalToEvent clock rawtime pev pCanalMsg pguid = (true, converted) ∧
        (SameMessage read converted ↔ pCanalMsg.id < 0x2000000 ∧ pCanalMsg.id &&& 0xff = 0)) ∧
    (∀ pCanalMsg out lines,
      List.Forall₂ (ReceivesLikeLibrary clock out) lines (receiveLines clock session event pCanalMsg lines)) ∧
    ∀ pCanalMsg line rest pev, LevelOneLine clock line pev →
      ∃ message strBuf read,
        doCmdReceiveLevel1 clock session none event pCanalMsg ⟨.ok (), line :: rest⟩ = .ok message ∧
        doCmdSendLevel1 session event message = .ok (.command strBuf) ∧ sentEvent clock strBuf = some read ∧
        (SameMessage read pev ↔ ComesThrough pev) :=
  ⟨fun pCanalMsg extended size rawtime pev pguid =>
      sent_same_message_iff clock session event pCanalMsg rawtime pev pguid ready extended size,
    fun pCanalMsg out lines => received_lines_like_library clock session event pCanalMsg out lines ready,
    fun pCanalMsg line rest pev levelOne =>
      passed_on_iff clock session event pCanalMsg line rest pev ready levelOne⟩

theorem fresh_session_ready : ReadySession freshSession := ⟨rfl, rfl, rfl⟩

def temperatureSent : VscpEvent :=
  { emptyEvent with head := 0x0160, timestampNs := 5, vscpClass := 10, vscpType := 6, sizeData := 2, pdata := some [1, 2] }

def priorityMessage : CanalMsg := { blankMsg with id := 0x0c0a0609, sizeData := 2 }

theorem level_one_text_iff_example :
    ∃ strBuf read converted,
      doCmdSendLevel1 freshSession emptyEventEx { blankMsg with id := 0x000a0600 } = .ok (.command strBuf) ∧
      sentEvent sampleClock strBuf = some read ∧
      convertCanalToEvent sampleClock 0 blankEvent { blankMsg with id := 0x000a0600 } (Vector.replicate 16 7) =
        (true, converted) ∧
      (SameMessage read converted ↔ (0x000a0600 : UInt64) < 0x2000000 ∧ (0x000a0600 : UInt64) &&& 0xff = 0) :=
  (level_one_text_iff sampleClock freshSession emptyEventEx fresh_session_ready).1 { blankMsg with id := 0x000a0600 }
    (by decide) (by decide) 0 blankEvent (Vector.replicate 16 7)

-- A message of priority 3 from node 9 goes out as one of priority 0 from node 0, and the
-- text of an ordinary event is read into another id than the library gives it.
theorem level_one_texts_differ :
    (∃ strBuf read converted, doCmdSendLevel1 freshSession emptyEventEx priorityMessage = .ok (.command strBuf) ∧
      sentEvent sampleClock strBuf = some read ∧
      convertCanalToEvent sampleClock 0 blankEvent priorityMessage (Vector.replicate 16 0) = (true, converted) ∧
      ¬ SameMessage read converted) ∧
    ∃ pev message library moved, LevelOneLine sampleClock (convertEventToString temperatureSent) pev ∧
      doCmdReceiveLevel1 sampleClock freshSession none emptyEventEx blankMsg
        ⟨.ok (), [convertEventToString temperatureSent]⟩ = .ok message ∧
      convertEventToCanal blankMsg pev = some (library, moved) ∧ ¬ SameCanalMsg message library := by
  constructor
  · obtain ⟨strBuf, read, converted, sent, parsed, library, same⟩ := sent_same_message_iff sampleClock freshSession
      emptyEventEx priorityMessage 0 blankEvent (Vector.replicate 16 0) fresh_session_ready (by decide) (by decide)
    refine ⟨strBuf, read, converted, sent, parsed, library, ?_⟩
    rw [same]
    decide
  · obtain ⟨pev, denotes, same⟩ := event_text_reads sampleClock emptyEvent temperatureSent
      ⟨by decide, by decide, by decide, by decide⟩
    have levelOne : LevelOneLine sampleClock (convertEventToString temperatureSent) pev :=
      ⟨denotes, by rw [same.vscpClass]; decide, by rw [same.vscpType]; decide, by rw [same.sizeData]; decide⟩
    obtain ⟨message, library, moved, received, written, alike⟩ := received_same_message_iff sampleClock freshSession
      emptyEventEx blankMsg blankMsg _ [] pev fresh_session_ready levelOne
    refine ⟨pev, message, library, moved, levelOne, received, written, ?_⟩
    rw [alike]
    intro fits
    have covered := fits.onClass 3 (by decide)
    rw [same.head, same.vscpClass] at covered
    exact absurd (covered (by decide)) (by decide)

end Vscp.RemoteTcp
