import Vscp.EventCopies
import Vscp.TextReply

set_option autoImplicit false

namespace Vscp.RemoteTcp

-- One turn of the waiting loop: what transportRead finds, nothing, or that the client is being stopped. The list of
-- turns ends with the timeout.
inductive ReceivePoll
  | arrived (available : Nat)
  | nothing
  | stopped

-- What the transport gives to a call: the frame of a binary client, what the queue of a single channel client gives, and
-- the turns of the waiting loop.
structure Transport where
  receiveBinaryEvent : Except VscpError VscpEvent
  eventLine : Except VscpError Text
  polls : List ReceivePoll

def receiveBufferSize : Nat := 0xffff

section

variable (getEventFromLine : Text → Option VscpEvent)

def eventOfLine (line : Text) : Except VscpError VscpEvent :=
  match getEventFromLine line with
  | some event => .ok event
  | none => .error .read

def takeEventLine : List Text → Option Text × List Text
  | [] => (none, [])
  | strItem :: later =>
      if strItem = [] ∨ hasOk strItem ∨ hasErr strItem then takeEventLine later else (some strItem, later)

def waitForEvent (session : TextSession) (stream : Text) : List ReceivePoll → Except VscpError VscpEvent
  | [] => .error .timeout
  | .stopped :: _ => .error .stopped
  | .nothing :: later => waitForEvent session stream later
  | .arrived available :: later =>
      let size := min receiveBufferSize available
      let read := addInputStringArrayFromReply { session with strResponse := session.strResponse ++ stream.take size }
      let taken := takeEventLine read.inputStrArray
      match taken.1 with
      | some line => eventOfLine getEventFromLine line
      | none => waitForEvent { read with inputStrArray := taken.2 } (stream.drop size) later

def doCmdBlockingReceive (session : TextSession) (stream : Text) (transport : Transport) : Except VscpError VscpEvent :=
  if ¬ session.connected then .error .connection
  else if session.binaryMode then transport.receiveBinaryEvent
  else if ¬ session.modeReceiveLoop then .error .parameter
  else if session.singleChannelReceiveLoop then transport.eventLine.bind (eventOfLine getEventFromLine)
  else
    let taken := takeEventLine session.inputStrArray
    match taken.1 with
    | some line => eventOfLine getEventFromLine line
    | none => waitForEvent getEventFromLine { session with inputStrArray := taken.2 } stream transport.polls

def lowHalf : UInt64 := 0xffffffff

-- The copy of the text mode: of the time fields only the timestamp, which is the upper half of the union.
def copyReceived (pEventEx : VscpEventEx) (e : VscpEvent) : VscpEventEx :=
  { pEventEx with
    head := e.head
    vscpClass := e.vscpClass
    vscpType := e.vscpType
    obid := e.obid
    timestampNs := (pEventEx.timestampNs &&& lowHalf) ||| (e.timestamp.toUInt64 <<< 32)
    crc := e.crc
    sizeData := e.sizeData
    guid := e.guid
    data := if e.pdata ≠ none ∧ e.sizeData ≠ 0 then overlay (e.pdata.getD []) e.sizeData.toNat pEventEx.data
      else pEventEx.data }

def doCmdBlockingReceiveEx (session : TextSession) (stream : Text) (transport : Transport) (pEventEx : VscpEventEx) :
    Except VscpError VscpEventEx :=
  if ¬ session.connected then .error .connection
  else if session.binaryMode then
    transport.receiveBinaryEvent.bind fun event =>
      match convertEventToEventEx pEventEx event with
      | some filled => .ok filled
      | none => .error .invalidFrame
  else if ¬ session.modeReceiveLoop then .error .parameter
  else (doCmdBlockingReceive getEventFromLine session stream transport).map (copyReceived pEventEx)

structure SameReceived (filled converted : VscpEventEx) : Prop where
  head : filled.head = converted.head
  obid : filled.obid = converted.obid
  year : filled.year = converted.year
  month : filled.month = converted.month
  timestampNs : filled.timestampNs = converted.timestampNs
  vscpClass : filled.vscpClass = converted.vscpClass
  vscpType : filled.vscpType = converted.vscpType
  guid : filled.guid = converted.guid
  sizeData : filled.sizeData = converted.sizeData
  data : filled.data.toList.take filled.sizeData.toNat = converted.data.toList.take converted.sizeData.toNat

def ReceivesAlike (session : TextSession) (stream : Text) (transport : Transport) (pEventEx : VscpEventEx) : Prop :=
  ∀ event converted, doCmdBlockingReceive getEventFromLine session stream transport = .ok event →
    convertEventToEventEx pEventEx event = some converted →
    ∃ filled, doCmdBlockingReceiveEx getEventFromLine session stream transport pEventEx = .ok filled ∧
      SameReceived filled converted

end

def DateHeld (pEventEx : VscpEventEx) (event : VscpEvent) : Prop :=
  pEventEx.year = (if frameVersion event.head = frameVersionUnixNs then 0xffff else event.year) ∧
    pEventEx.month = (if frameVersion event.head = frameVersionUnixNs then 0xff else event.month) ∧
    pEventEx.timestampNs &&& lowHalf = event.timestampNs &&& lowHalf

theorem low_half_bit (i : Nat) : lowHalf.toBitVec.getLsbD i = decide (i < 32) := by
  have ones : lowHalf.toBitVec = (BitVec.allOnes 32).setWidth 64 := by decide
  rw [ones, BitVec.getLsbD_setWidth, BitVec.getLsbD_allOnes]
  by_cases low : i < 32
  · simp [low, Nat.lt_trans low (by decide : 32 < 64)]
  · simp [low]

theorem joined_low (low : UInt64) (high : UInt32) :
    ((low &&& lowHalf) ||| (high.toUInt64 <<< 32)) &&& lowHalf = low &&& lowHalf := by
  apply UInt64.toBitVec_inj.mp
  apply BitVec.eq_of_getLsbD_eq
  intro i bound
  simp only [UInt64.toBitVec_or, UInt64.toBitVec_and, UInt64.toBitVec_shiftLeft, UInt32.toBitVec_toUInt64,
    BitVec.getLsbD_or, BitVec.getLsbD_and, low_half_bit, BitVec.getLsbD_setWidth, UInt64.toBitVec_ofNat,
    BitVec.ofNat_eq_ofNat, BitVec.reduceMod, BitVec.toNat_ofNat, Nat.reducePow, Nat.reduceMod, BitVec.shiftLeft_eq',
    BitVec.getLsbD_shiftLeft]
  grind

theorem halves_joined (ev : VscpEvent) :
    (ev.timestampNs &&& lowHalf) ||| (ev.timestamp.toUInt64 <<< 32) = ev.timestampNs := by
  rw [VscpEvent.timestamp]
  apply UInt64.toBitVec_inj.mp
  apply BitVec.eq_of_getLsbD_eq
  intro i bound
  simp only [UInt64.toBitVec_or, UInt64.toBitVec_and, UInt64.toBitVec_shiftLeft, UInt64.toBitVec_shiftRight,
    UInt32.toBitVec_toUInt64, UInt64.toBitVec_toUInt32, BitVec.getLsbD_or, BitVec.getLsbD_and, low_half_bit,
    BitVec.getLsbD_setWidth, UInt64.toBitVec_ofNat, BitVec.ofNat_eq_ofNat, BitVec.reduceMod, BitVec.toNat_ofNat,
    BitVec.ushiftRight_eq', BitVec.getLsbD_ushiftRight, Nat.reducePow, Nat.reduceMod, BitVec.shiftLeft_eq',
    BitVec.getLsbD_shiftLeft]
  generalize ev.timestampNs.toBitVec.getLsbD = bit
  grind

theorem joined_iff (old : UInt64) (ev : VscpEvent) :
    (old &&& lowHalf) ||| (ev.timestamp.toUInt64 <<< 32) = ev.timestampNs ↔
      old &&& lowHalf = ev.timestampNs &&& lowHalf := by
  constructor
  · intro same
    rw [← joined_low old ev.timestamp, same]
  · intro same
    rw [same, halves_joined]

theorem converted_fields (pEventEx converted : VscpEventEx) (event : VscpEvent)
    (result : convertEventToEventEx pEventEx event = some converted) :
    event.sizeData.toNat ≤ maxData ∧ (event.sizeData ≠ 0 → event.pdata ≠ none) ∧ converted = { copyReceived pEventEx event with
      year := if frameVersion event.head = frameVersionUnixNs then 0xffff else event.year
      month := if frameVersion event.head = frameVersionUnixNs then 0xff else event.month
      timestampNs := event.timestampNs } := by
  rw [convertEventToEventEx] at result
  split at result
  case isTrue => cases result
  case isFalse kept =>
    have given : event.sizeData ≠ 0 → event.pdata ≠ none := fun some none => kept (.inr ⟨some, none⟩)
    refine ⟨not_lt.mp fun long => kept (.inl long), given, ?_⟩
    rw [← Option.some_inj.mp result, copyReceived]
    by_cases empty : event.sizeData = 0
    · simp only [empty, UInt16.toNat_zero, overlay_nothing, ne_eq, not_true_eq_false, and_false, if_false]
    · simp only [ne_eq, given empty, empty, not_false_eq_true, and_self, if_true]

theorem copy_alike_iff (pEventEx converted : VscpEventEx) (event : VscpEvent)
    (result : convertEventToEventEx pEventEx event = some converted) :
    SameReceived (copyReceived pEventEx event) converted ↔ DateHeld pEventEx event := by
  obtain ⟨-, -, rfl⟩ := converted_fields pEventEx converted event result
  constructor
  · intro same
    exact ⟨same.year, same.month, (joined_iff pEventEx.timestampNs event).mp same.timestampNs⟩
  · rintro ⟨year, month, low⟩
    exact ⟨rfl, rfl, year, month, (joined_iff pEventEx.timestampNs event).mpr low, rfl, rfl, rfl, rfl, rfl⟩

section

variable (getEventFromLine : Text → Option VscpEvent) (session : TextSession) (stream : Text) (transport : Transport)
  (pEventEx : VscpEventEx)

theorem received_session (event : VscpEvent)
    (delivered : doCmdBlockingReceive getEventFromLine session stream transport = .ok event) :
    session.connected = true ∧ (session.binaryMode = true → transport.receiveBinaryEvent = .ok event) ∧
      (session.binaryMode = false → session.modeReceiveLoop = true) := by
  rw [doCmdBlockingReceive] at delivered
  cases connected : session.connected with
  | false =>
      simp only [connected, Bool.false_eq_true, not_false_eq_true, if_true] at delivered
      cases delivered
  | true =>
      refine ⟨rfl, ?_, ?_⟩
      · intro binary
        simpa only [connected, binary, not_true_eq_false, if_false, if_true] using delivered
      · intro text
        cases loop : session.modeReceiveLoop with
        | true => rfl
        | false => simp [connected, text, loop] at delivered

theorem blocking_receive_alike_iff :
    ReceivesAlike getEventFromLine session stream transport pEventEx ↔
      ∀ event converted, doCmdBlockingReceive getEventFromLine session stream transport = .ok event →
        convertEventToEventEx pEventEx event = some converted →
        session.binaryMode = true ∨ DateHeld pEventEx event := by
  refine forall_congr' fun event => forall_congr' fun converted => forall_congr' fun delivered =>
    forall_congr' fun result => ?_
  obtain ⟨connected, frame, loop⟩ := received_session getEventFromLine session stream transport event delivered
  rw [doCmdBlockingReceiveEx, connected, if_neg (not_not.mpr rfl)]
  cases binary : session.binaryMode with
  | true =>
      refine iff_of_true ⟨converted, ?_, ⟨rfl, rfl, rfl, rfl, rfl, rfl, rfl, rfl, rfl, rfl⟩⟩ (.inl rfl)
      rw [if_pos rfl, frame binary, Except.bind, result]
  | false =>
      rw [if_neg Bool.false_ne_true, loop binary, if_neg (not_not.mpr rfl), delivered, Except.map, or_iff_right Bool.false_ne_true,
        ← copy_alike_iff pEventEx converted event result]
      constructor
      · rintro ⟨filled, same, alike⟩
        cases same
        exact alike
      · exact fun alike => ⟨_, rfl, alike⟩

end

def loopSession : TextSession :=
  { connected := true, binaryMode := false, binaryInput := [], modeReceiveLoop := true,
    singleChannelReceiveLoop := false, strResponse := [], inputStrArray := [['x']] }

def datedEvent : VscpEvent := ⟨frameVersionUnixNs, 0, 0xffff, 0xff, 1, 0, 0, Vector.replicate 16 0, 0, none, 0⟩

-- The year, the month and the lower half of the nanoseconds are lost.
theorem date_not_received :
    ¬ ReceivesAlike (fun _ => some datedEvent) loopSession [] ⟨.error .read, .error .read, []⟩ emptyEventEx := by
  intro alike
  obtain ⟨filled, received, same⟩ := alike datedEvent _ rfl rfl
  cases received
  exact absurd same.year (by decide)

end Vscp.RemoteTcp
