import Vscp.Canal
import Vscp.DatagramDelivery

set_option autoImplicit false

namespace Vscp.SocketCan

open BitField Fifo Run

def vscpErrorWriteError : Int := 46
def canEffFlag : UInt32 := 0x80000000
def canEffMask : UInt32 := 0x1fffffff
def flagFdMode : UInt32 := 0x4000000

-- The sixteen bytes of a can_frame; a canfd_frame is written and read in this size too.
structure CanFrame where
  canId : UInt32
  len : UInt8
  flags : UInt8
  data : Vector UInt8 8
deriving DecidableEq

def canalTbldlc2len : List UInt8 := [0, 1, 2, 3, 4, 5, 6, 7, 8, 12, 16, 20, 24, 32, 48, 64]

def canalDlc2len (canDlc : UInt8) : UInt8 := canalTbldlc2len.getD (canDlc &&& 0x0f).toNat 0

def canalTbllen2dlc : List UInt8 :=
  [0, 1, 2, 3, 4, 5, 6, 7, 8] ++ List.replicate 4 9 ++ List.replicate 4 10 ++ List.replicate 4 11 ++
    List.replicate 4 12 ++ List.replicate 8 13 ++ List.replicate 16 14 ++ List.replicate 16 15

structure Client where
  socket : Int
  flags : UInt32
  filterIn : VscpEventFilter
  callbackEvActive : Bool
  callbackExActive : Bool
  receiveList : List VscpEvent
  semReceiveQueue : Nat
deriving DecidableEq

def frameOf (client : Client) (msg : CanalMsg) : CanFrame where
  canId := msg.id.toUInt32 ||| canEffFlag
  len :=
    if client.flags &&& flagFdMode ≠ 0 then canalDlc2len (canalTbllen2dlc.getD msg.sizeData.toNat 0) else msg.sizeData
  flags := msg.flags.toUInt8
  data := Vector.ofFn fun i => if i.val < msg.sizeData.toNat then msg.data.get i else 0

def sendMsg (client : Client) (msg : CanalMsg) (written : Bool) : Except Int CanFrame :=
  if client.socket ≤ 0 then .error vscpErrorWriteError
  else if ¬ written then .error vscpErrorWriteError
  else .ok (frameOf client msg)

-- `canalMsg` is the local message before it is filled in; the caller's event comes back as the conversion leaves it.
def send (client : Client) (canalMsg : CanalMsg) (ev : VscpEvent) (written : Bool) : Except Int CanFrame × VscpEvent :=
  if client.socket ≤ 0 then (.error vscpErrorWriteError, ev)
  else
    match convertEventToCanal canalMsg ev with
    | none => (.error VscpError.parameter.code, ev)
    | some (msg, moved) => (sendMsg client msg written, moved)

def sendEx (client : Client) (canalMsg : CanalMsg) (ex : VscpEventEx) (written : Bool) : Except Int CanFrame :=
  if client.socket ≤ 0 then .error vscpErrorWriteError
  else
    match (convertEventExToEvent ex).bind (convertEventToCanal canalMsg) with
    | none => .error VscpError.parameter.code
    | some (msg, _) => sendMsg client msg written

-- The event workerThread makes of a frame. Nothing puts the priority of the id into its head.
-- `stale` is what lies behind the eight bytes that were read.
def readFrame (stale : Nat → UInt8) (stamp : UInt32) (frame : CanFrame) : Option VscpEvent :=
  if frame.canId &&& canEffFlag = 0 then none
  else
    let id := frame.canId &&& canEffMask
    some
      { blankEvent with
        timestampNs := stamp.toUInt64 <<< 32
        guid := Vector.ofFn fun i => if i.val = 15 then (id &&& 0xff).toUInt8 else 0
        vscpClass := getVscpClassFromCanalId id
        vscpType := getVscpTypeFromCanalId id
        sizeData := frame.len.toUInt16
        pdata := some ((List.range frame.len.toNat).map fun i => frame.data.toList.getD i (stale i)) }

inductive Target
  | event
  | eventEx (old : VscpEventEx)
  | canalMsg (old : CanalMsg)

inductive Filled
  | event (ev : Option VscpEvent)
  | eventEx (ex : Except VscpError VscpEventEx)
  | canalMsg (msg : Option CanalMsg)

inductive Output
  | received (event : VscpEvent)
  | callbackEv (event : VscpEvent)
  | callbackEx (event : VscpEventEx)
  | returned (queued : VscpEvent) (filled : Filled)
  | fifoEmpty
  | timedOut (waiting : Nat)
  | waitRefused
  | counted (count : UInt16)

def callbacks (client : Client) (event : VscpEvent) : List Output :=
  (if client.callbackEvActive then [.callbackEv event] else []) ++
    if client.callbackExActive then (convertEventToEventEx emptyEventEx event).toList.map .callbackEx else []

def workerTurn (client : Client) (stale : Nat → UInt8) (stamp : UInt32) (frame : CanFrame) : Client × List Output :=
  match readFrame stale stamp frame with
  | none => (client, [])
  | some event =>
      if doLevel2Filter event client.filterIn then
        let queues := ¬ client.callbackEvActive ∨ ¬ client.callbackExActive
        ({ client with
            receiveList := client.receiveList ++ if queues then [event] else []
            semReceiveQueue := client.semReceiveQueue + if queues then 1 else 0 },
          .received event :: callbacks client event)
      else (client, [])

def fill (queued : VscpEvent) : Target → Filled
  | .event => .event (copyEvent queued)
  | .eventEx old => .eventEx (((copyEvent queued).bind (convertEventToEventEx old)).elim (.error .error) .ok)
  | .canalMsg old => .canalMsg ((convertEventToCanal old queued).map Prod.fst)

def receive (client : Client) (target : Target) : Client × Output :=
  match client.receiveList with
  | [] => (client, .fifoEmpty)
  | pev :: rest => ({ client with receiveList := rest }, .returned pev (fill pev target))

def getcount (client : Client) : UInt16 := UInt16.ofNat client.receiveList.length

-- Callers of receiveBlocking that are past the semaphore are counted: each has still to receive.
structure World where
  client : Client
  waiting : Nat

inductive Step
  | frame (stale : Nat → UInt8) (stamp : UInt32) (frame : CanFrame)
  | receive (target : Target)
  | semWait (timeout : Int64)
  | receiveAfterWait (target : Target)
  | getcount
  | clear

-- `long timeout` is cut to the `uint32_t waitms` of vscp_sem_wait. From four seconds on that
-- one gives up at once, and the code its caller then answers depends on an old errno.
def step (world : World) : Step → World × List Output
  | .frame stale stamp frame =>
      let turn := workerTurn world.client stale stamp frame
      ({ world with client := turn.1 }, turn.2)
  | .receive target =>
      let result := receive world.client target
      ({ world with client := result.1 }, [result.2])
  | .semWait timeout =>
      if timeout.toUInt64.toUInt32 ≥ 4000 then (world, [.waitRefused])
      else if world.client.semReceiveQueue = 0 then (world, [.timedOut world.waiting])
      else
        let client := { world.client with semReceiveQueue := world.client.semReceiveQueue - 1 }
        ({ client := client, waiting := world.waiting + 1 }, [])
  | .receiveAfterWait target =>
      if world.waiting = 0 then (world, [])
      else
        let result := receive world.client target
        ({ client := result.1, waiting := world.waiting - 1 }, [result.2])
  | .getcount => (world, [.counted (getcount world.client)])
  | .clear => (world, [])

def history (outputs : List Output) : List (Entry VscpEvent) :=
  outputs.filterMap fun | .received event => some (.enter event) | .returned queued _ => some (.leave queued) | _ => none

def passing (client : Client) : Step → Option VscpEvent
  | .frame stale stamp frame => (readFrame stale stamp frame).filter fun event => doLevel2Filter event client.filterIn
  | _ => none

structure CarriedOver (received sent : VscpEvent) : Prop where
  priority : getEventPriority received = getEventPriority sent
  vscpClass : received.vscpClass = sent.vscpClass
  vscpType : received.vscpType = sent.vscpType
  nickname : received.guid.get 15 = sent.guid.get 15
  data : received.dataBytes = sent.dataBytes

variable (client : Client) (msg : CanalMsg) (world : World) (past : List Output)

theorem frame_length (size : msg.sizeData.toNat ≤ 8) :
    (frameOf client msg).len = msg.sizeData := by
  have table : ∀ n : Fin 9, canalDlc2len (canalTbllen2dlc.getD n 0) = UInt8.ofNat n := by decide
  simp only [frameOf]
  split
  · rw [table ⟨msg.sizeData.toNat, by omega⟩]
    exact UInt8.ofNat_toNat
  · rfl

theorem frame_id :
    (frameOf client msg).canId &&& canEffFlag ≠ 0 ∧
      ((frameOf client msg).canId &&& canEffMask).toNat = msg.id.toNat % 2 ^ 29 := by
  have flag : canEffFlag.toNat = 2 ^ 31 := rfl
  have mask : canEffMask.toNat = 2 ^ 29 - 1 := rfl
  constructor
  · intro clear
    have bits := congrArg (fun word : UInt32 => word.toNat.testBit 31) clear
    simp only [frameOf, UInt32.toNat_and, UInt32.toNat_or, Nat.testBit_and, Nat.testBit_or, flag,
      Nat.testBit_two_pow_self, Bool.or_true, Bool.and_true] at bits
    exact absurd bits (by decide)
  · rw [UInt32.toNat_and, mask, Nat.and_two_pow_sub_one_eq_mod]
    simp only [frameOf, UInt32.toNat_or, UInt64.toNat_toUInt32, flag]
    rw [Nat.or_mod_two_pow]
    have above : 2 ^ 31 % 2 ^ 29 = 0 := rfl
    rw [above, Nat.or_zero]
    omega

variable (stale : Nat → UInt8) (stamp : UInt32)

theorem read_frame_back (size : msg.sizeData.toNat ≤ 8) :
    ∃ received, readFrame stale stamp (frameOf client msg) = some received ∧ received.head = 0 ∧
      received.vscpClass.toNat = field 16 9 (msg.id.toNat % 2 ^ 29) ∧
      received.vscpType.toNat = field 8 8 (msg.id.toNat % 2 ^ 29) ∧
      (received.guid.get 15).toNat = field 0 8 (msg.id.toNat % 2 ^ 29) ∧ received.dataBytes = msgData msg := by
  obtain ⟨extended, id⟩ := frame_id client msg
  have length := frame_length client msg size
  rw [readFrame, if_neg extended]
  refine ⟨_, rfl, rfl, ?_, ?_, ?_, ?_⟩
  · rw [← id]
    exact class_of_canal_id _
  · rw [← id]
    exact type_of_canal_id _
  · rw [← id]
    generalize (frameOf client msg).canId &&& canEffMask = id
    have low : (id &&& 0xff).toNat = field 0 8 id.toNat := by
      rw [UInt32.toNat_and]
      exact shift_mask_field 0 8 id.toNat
    have below := field_lt 0 8 id.toNat
    have last : (Vector.ofFn fun i : Fin 16 => if i.val = 15 then (id &&& 0xff).toUInt8 else 0).get 15 =
        (id &&& 0xff).toUInt8 := by
      exact Vector.getElem_ofFn (by decide)
    simp only [last, UInt32.toNat_toUInt8, low]
    omega
  · apply List.ext_getElem
    · simp only [VscpEvent.dataBytes, msgData, List.length_map, List.length_range, length, List.length_take,
        Vector.length_toList, UInt8.toNat_toUInt16]
      omega
    · intro i left right
      have inside : i < msg.sizeData.toNat := by
        rw [msgData, List.length_take] at right
        omega
      have room : i < 8 := by omega
      have data : (frameOf client msg).data =
          Vector.ofFn fun i => if i.val < msg.sizeData.toNat then msg.data.get i else 0 := rfl
      simp only [VscpEvent.dataBytes, msgData, length, data, List.getElem_map, List.getElem_range,
        Option.getD_some, List.getElem_take, Vector.getElem_toList]
      rw [List.getD_eq_getElem _ _ (by simpa using inside), List.getElem_map, List.getElem_range,
        List.getD_eq_getElem _ _ (by simpa using room), Vector.getElem_toList, Vector.getElem_ofFn, if_pos inside]
      rfl

variable (ev : VscpEvent)

theorem level_one_plain (levelOne : ev.vscpClass < 512) :
    canalClass ev = ev.vscpClass ∧ canalPayload ev = ev.dataBytes := by
  have plain : mirrorsLevel1 ev = false := by
    simp [mirrorsLevel1, UInt16.not_le.mpr levelOne]
  simp [canalClass, canalPayload, plain]

-- The worker makes every event with priority zero, and the id has eight bits for the type.
-- The three parts of the id that a level I event has in its own fields.
theorem canal_id_parts (levelOne : ev.vscpClass < 512) (narrow : ev.vscpType < 256) :
    field 16 9 (canalIdOf ev).toNat = ev.vscpClass.toNat ∧ field 8 8 (canalIdOf ev).toNat = ev.vscpType.toNat ∧
      field 0 8 (canalIdOf ev).toNat = (ev.guid.get 15).toNat := by
  obtain ⟨sameClass, -⟩ := level_one_plain ev levelOne
  have classBelow : ev.vscpClass.toNat < 512 := UInt16.lt_iff_toNat_lt.mp levelOne
  have typeBelow : ev.vscpType.toNat < 256 := UInt16.lt_iff_toNat_lt.mp narrow
  have value := canal_id_value ev (by rw [sameClass]; exact classBelow) typeBelow
  have hardBelow := field_lt 4 1 ev.head.toNat
  have priorityBelow := field_lt 5 3 ev.head.toNat
  have nicknameBelow : (ev.guid.get 15).toNat < 2 ^ 8 := (ev.guid.get 15).toNat_lt
  rw [sameClass] at value
  rw [value]
  simp only [field] at hardBelow priorityBelow ⊢
  omega

theorem frame_carried_iff (ev received : VscpEvent) (stale : Nat → UInt8)
    (stamp : UInt32) (levelOne : ev.vscpClass < 512) (size : msg.sizeData.toNat ≤ 8) (id : msg.id = canalIdOf ev)
    (data : msgData msg = ev.dataBytes) (read : readFrame stale stamp (frameOf client msg) = some received) :
    CarriedOver received ev ↔ getEventPriority ev = 0 ∧ ev.vscpType < 256 := by
  obtain ⟨made, again, head, classRead, typeRead, nicknameRead, dataRead⟩ := read_frame_back client msg stale stamp size
  rw [field_mod 16 9 29 _ (by decide)] at classRead
  rw [field_mod 8 8 29 _ (by decide)] at typeRead
  rw [field_mod 0 8 29 _ (by decide)] at nicknameRead
  obtain rfl : made = received := Option.some.inj (again.symm.trans read)
  have priority : getEventPriority made = 0 := by
    rw [getEventPriority, head]
    rfl
  constructor
  · intro carried
    refine ⟨carried.priority.symm.trans priority, UInt16.lt_iff_toNat_lt.mpr ?_⟩
    rw [← carried.vscpType, typeRead]
    exact field_lt 8 8 _
  · rintro ⟨zero, narrow⟩
    obtain ⟨vscpClass, vscpType, nickname⟩ := canal_id_parts ev levelOne narrow
    rw [← id] at vscpClass vscpType nickname
    exact ⟨priority.trans zero.symm, UInt16.toNat_inj.mp (classRead.trans vscpClass),
      UInt16.toNat_inj.mp (typeRead.trans vscpType), UInt8.toNat_inj.mp (nicknameRead.trans nickname),
      dataRead.trans data⟩

theorem send_carried_iff (sender : Client) (canalMsg : CanalMsg) (ev : VscpEvent) (stale : Nat → UInt8)
    (stamp : UInt32) (connected : 0 < sender.socket) (levelOne : ev.vscpClass < 512) (short : ev.sizeData ≤ 8)
    (present : ¬ (ev.sizeData ≠ 0 ∧ ev.pdata = none)) :
    ∃ frame received, (send sender canalMsg ev true).1 = .ok frame ∧
      (∀ ex, convertEventExToEvent ex = some ev → sendEx sender canalMsg ex true = .ok frame) ∧
      readFrame stale stamp frame = some received ∧
      (CarriedOver received ev ↔ getEventPriority ev = 0 ∧ ev.vscpType < 256) := by
  have few : ev.sizeData.toNat ≤ 8 := UInt16.le_iff_toNat_le.mp short
  obtain ⟨-, payload⟩ := level_one_plain ev levelOne
  obtain ⟨msg, moved, converted, id, size, data⟩ := event_to_canal_carries canalMsg ev present (by omega)
  have eight : msg.sizeData.toNat ≤ 8 := by
    rw [size]
    exact Nat.min_le_left 8 _
  rw [payload, List.take_of_length_le (by rw [data_bytes_length]; exact few)] at data
  obtain ⟨received, read, -⟩ := read_frame_back sender msg stale stamp eight
  have opened : ¬ sender.socket ≤ 0 := not_le.mpr connected
  refine ⟨frameOf sender msg, received, ?_, ?_, read,
    frame_carried_iff sender msg ev received stale stamp levelOne eight id data read⟩
  · simp [send, sendMsg, opened, converted]
  · intro ex same
    simp [sendEx, sendMsg, opened, same, converted]

structure SameMessage (msg : CanalMsg) (ev : VscpEvent) : Prop where
  vscpClass : field 16 9 msg.id.toNat = ev.vscpClass.toNat
  vscpType : field 8 8 msg.id.toNat = ev.vscpType.toNat
  nickname : field 0 8 msg.id.toNat = (ev.guid.get 15).toNat
  data : msgData msg = ev.dataBytes.take 8

def FilledFrom (queued : VscpEvent) : Filled → Prop
  | .event ev => ∃ copy, ev = some copy ∧ Datagram.SameOnWire copy queued
  | .eventEx ex => ∃ copy, ex = .ok copy ∧ Datagram.SameOnWireEx copy queued
  | .canalMsg msg => ∃ copy, msg = some copy ∧ SameMessage copy queued

-- What a caller may be told, after the outputs before it.
def Fair (past : List Output) : Output → Prop
  | .returned queued filled =>
      left (history past) ++ [queued] <+: entered (history past) ∧ FilledFrom queued filled
  | .fifoEmpty => left (history past) = entered (history past)
  | .timedOut waiting => (entered (history past)).length ≤ (left (history past)).length + waiting
  | .counted count =>
      (entered (history past)).length = (left (history past)).length + count.toNat ↔
        (entered (history past)).length < (left (history past)).length + 2 ^ 16
  | _ => True

structure FromFrame (event : VscpEvent) : Prop where
  levelOne : event.vscpClass < 512
  narrow : event.vscpType < 256
  head : event.head = 0
  few : event.sizeData.toNat < 2 ^ 8
  whole : (event.pdata.getD []).length = event.sizeData.toNat
  present : event.pdata ≠ none

variable (frame : CanFrame) (event : VscpEvent)

theorem read_frame_shape (read : readFrame stale stamp frame = some event) : FromFrame event := by
  unfold readFrame at read
  split at read
  · cases read
  · obtain rfl := Option.some.inj read
    have classValue := class_of_canal_id (frame.canId &&& canEffMask)
    have typeValue := type_of_canal_id (frame.canId &&& canEffMask)
    have size : frame.len.toUInt16.toNat = frame.len.toNat := UInt8.toNat_toUInt16 frame.len
    refine ⟨UInt16.lt_iff_toNat_lt.mpr ?_, UInt16.lt_iff_toNat_lt.mpr ?_, rfl, ?_, ?_, ?_⟩
    · rw [classValue]
      exact field_lt 16 9 _
    · rw [typeValue]
      exact field_lt 8 8 _
    · rw [size]
      exact frame.len.toNat_lt
    · simp
    · exact Option.some_ne_none _

theorem copy_of_frame (shape : FromFrame event) :
    ∃ copy, copyEvent event = some copy ∧ Datagram.SameOnWire copy event ∧ Datagram.WellFormed copy := by
  have few := shape.few
  have room : ¬ event.sizeData.toNat > maxData := by
    have bound : maxData = 512 := rfl
    omega
  rw [copyEvent, if_neg room]
  refine ⟨_, rfl, ⟨rfl, ?_, rfl, rfl, rfl, rfl, copied_data_exact event shape.whole⟩, Nat.not_lt.mp room, ?_, ?_⟩
  · simp only [time_block_parts, ite_self]
  · intro nonzero
    exact ⟨event.dataBytes, if_neg nonzero, data_bytes_length event⟩
  · intro zero
    exact if_pos zero

theorem message_of_frame (old : CanalMsg) (shape : FromFrame event) :
    ∃ msg moved, convertEventToCanal old event = some (msg, moved) ∧ SameMessage msg event := by
  obtain ⟨levelOne, narrow, head, few, whole, given⟩ := shape
  obtain ⟨-, payload⟩ := level_one_plain event levelOne
  have present : ¬ (event.sizeData ≠ 0 ∧ event.pdata = none) := fun missing => given missing.2
  obtain ⟨msg, moved, converted, id, size, data⟩ := event_to_canal_carries old event present (by omega)
  obtain ⟨vscpClass, vscpType, nickname⟩ := canal_id_parts event levelOne narrow
  rw [← id] at vscpClass vscpType nickname
  rw [payload] at data
  exact ⟨msg, moved, converted, vscpClass, vscpType, nickname, data⟩

theorem fill_from_frame (shape : FromFrame event) (target : Target) :
    FilledFrom event (fill event target) := by
  obtain ⟨copy, copied, same, formed⟩ := copy_of_frame event shape
  cases target with
  | event => exact ⟨copy, copied, same⟩
  | eventEx old =>
      obtain ⟨ex, converted, sameEx⟩ := Datagram.copied_event_ex old copy formed
      have made : convertEventToEventEx old copy = some ex := by
        generalize convertEventToEventEx old copy = result at converted
        cases result with
        | none => cases converted
        | some made => exact congrArg some (Except.ok.inj converted)
      refine ⟨ex, by simp [copied, made], ?_⟩
      exact ⟨sameEx.head.trans same.head, sameEx.timestampNs.trans same.timestampNs,
        sameEx.vscpClass.trans same.vscpClass, sameEx.vscpType.trans same.vscpType, sameEx.guid.trans same.guid,
        sameEx.sizeData.trans same.sizeData, sameEx.data.trans same.data⟩
  | canalMsg old =>
      obtain ⟨msg, moved, converted, sameMessage⟩ := message_of_frame event old shape
      exact ⟨msg, by rw [converted, Option.map_some], sameMessage⟩

theorem history_append (first second : List Output) : history (first ++ second) = history first ++ history second :=
  List.filterMap_append

theorem nothing_dropped (outputs : List Output) : NothingDropped (history outputs) := by
  intro event member
  obtain ⟨output, -, drops⟩ := List.mem_filterMap.mp member
  cases output <;> cases drops

-- What every run keeps without callbacks. An event in the queue has a permit, in the
-- semaphore or with a caller that waited.
structure Serving (world : World) (past : List Output) : Prop where
  quietEv : world.client.callbackEvActive = false
  quietEx : world.client.callbackExActive = false
  shapes : ∀ event ∈ world.client.receiveList, FromFrame event
  holds : Holds (history past) world.client.receiveList
  permits : world.client.receiveList.length ≤ world.client.semReceiveQueue + world.waiting

theorem serving_entered (serving : Serving world past) :
    entered (history past) = left (history past) ++ world.client.receiveList :=
  entered_of_nothing_dropped _ _ serving.holds (nothing_dropped past)

theorem worker_turn_quiet (quietEv : client.callbackEvActive = false) (quietEx : client.callbackExActive = false) :
    workerTurn client stale stamp frame =
      match passing client (.frame stale stamp frame) with
      | none => (client, [])
      | some event =>
          ({ client with
              receiveList := client.receiveList ++ [event]
              semReceiveQueue := client.semReceiveQueue + 1 }, [.received event]) := by
  cases read : readFrame stale stamp frame with
  | none => simp only [workerTurn, passing, read, Option.filter_none]
  | some event =>
      cases passes : doLevel2Filter event client.filterIn <;>
        simp [workerTurn, passing, read, Option.filter, passes, callbacks, quietEv, quietEx]

theorem step_frame (serving : Serving world past) (stale : Nat → UInt8)
    (stamp : UInt32) (frame : CanFrame) :
    let result := step world (.frame stale stamp frame)
    Sound Fair past result.2 ∧ Serving result.1 (past ++ result.2) := by
  dsimp only [step]
  rw [worker_turn_quiet world.client stale stamp frame serving.quietEv serving.quietEx]
  cases passed : passing world.client (.frame stale stamp frame) with
  | none =>
      refine ⟨trivial, ?_⟩
      rw [List.append_nil]
      exact serving
  | some event =>
      have read : readFrame stale stamp frame = some event := (Option.filter_eq_some_iff.mp passed).1
      refine ⟨⟨trivial, trivial⟩, serving.quietEv, serving.quietEx, ?_, ?_, ?_⟩
      · intro other member
        rcases List.mem_append.mp member with old | new
        · exact serving.shapes other old
        · rw [List.mem_singleton.mp new]
          exact read_frame_shape stale stamp frame event read
      · rw [history_append]
        exact holds_enter _ _ _ serving.holds
      · have permits := serving.permits
        simp only [List.length_append, List.length_singleton]
        omega

theorem receive_serving (waiting : Nat) (past : List Output)
    (serving : Serving ⟨client, waiting⟩ past) (target : Target) :
    Sound Fair past [(receive client target).2] ∧
      Serving ⟨(receive client target).1, waiting - 1⟩ (past ++ [(receive client target).2]) ∧
      Serving ⟨(receive client target).1, waiting⟩ (past ++ [(receive client target).2]) := by
  have whole := serving_entered _ _ serving
  obtain ⟨quietEv, quietEx, shapes, holds, permits⟩ := serving
  dsimp only at whole shapes holds permits
  unfold receive
  cases queue : client.receiveList with
  | nil =>
      rw [queue, List.append_nil] at whole
      have unchanged : Holds (history (past ++ [.fifoEmpty])) client.receiveList := by
        rw [history_append]
        simpa [history] using holds
      have nobody : client.receiveList.length = 0 := congrArg List.length queue
      refine ⟨⟨whole.symm, trivial⟩, ⟨quietEv, quietEx, shapes, unchanged, ?_⟩, quietEv, quietEx, shapes, unchanged, permits⟩
      rw [nobody]
      exact Nat.zero_le _
  | cons pev rest =>
      rw [queue] at whole shapes holds permits
      have gone : Holds (history (past ++ [.returned pev (fill pev target)])) rest := by
        rw [history_append]
        exact holds_leave _ _ _ holds
      have later : ∀ event ∈ rest, FromFrame event := fun event member => shapes event (List.mem_cons_of_mem _ member)
      rw [List.length_cons] at permits
      refine ⟨⟨⟨⟨rest, ?_⟩, fill_from_frame pev (shapes pev List.mem_cons_self) target⟩, trivial⟩,
        ⟨quietEv, quietEx, later, gone, ?_⟩, quietEv, quietEx, later, gone, ?_⟩
      · rw [whole, List.append_assoc]
        rfl
      · dsimp only
        omega
      · dsimp only
        omega

theorem serving_silent (serving : Serving world past) (output : Output)
    (silent : history [output] = []) : Serving world (past ++ [output]) := by
  refine ⟨serving.quietEv, serving.quietEx, serving.shapes, ?_, serving.permits⟩
  rw [history_append, silent, List.append_nil]
  exact serving.holds

theorem step_sem_wait (serving : Serving world past) (timeout : Int64) :
    let result := step world (.semWait timeout)
    Sound Fair past result.2 ∧ Serving result.1 (past ++ result.2) := by
  have whole := serving_entered world past serving
  have permits := serving.permits
  dsimp only [step]
  split
  · exact ⟨⟨trivial, trivial⟩, serving_silent world past serving _ rfl⟩
  split
  · refine ⟨⟨?_, trivial⟩, serving_silent world past serving _ rfl⟩
    rw [Fair, whole, List.length_append]
    omega
  · refine ⟨trivial, ?_⟩
    rw [List.append_nil]
    refine ⟨serving.quietEv, serving.quietEx, serving.shapes, serving.holds, ?_⟩
    dsimp only
    omega

variable (input : Step)

theorem step_serving (serving : Serving world past) :
    Sound Fair past (step world input).2 ∧ Serving (step world input).1 (past ++ (step world input).2) := by
  cases input with
  | frame stale stamp frame => exact step_frame world past serving stale stamp frame
  | receive target =>
      obtain ⟨sound, -, after⟩ := receive_serving world.client world.waiting past serving target
      exact ⟨sound, after⟩
  | semWait timeout => exact step_sem_wait world past serving timeout
  | receiveAfterWait target =>
      dsimp only [step]
      split
      · refine ⟨trivial, ?_⟩
        rw [List.append_nil]
        exact serving
      · obtain ⟨sound, after, -⟩ := receive_serving world.client world.waiting past serving target
        exact ⟨sound, after⟩
  | getcount =>
      refine ⟨⟨?_, trivial⟩, serving_silent world past serving _ rfl⟩
      rw [Fair, serving_entered world past serving, List.length_append, getcount, UInt16.toNat_ofNat']
      omega
  | clear =>
      refine ⟨trivial, ?_⟩
      simp only [step, List.append_nil]
      exact serving

theorem step_receives (quietEv : world.client.callbackEvActive = false)
    (quietEx : world.client.callbackExActive = false) :
    entered (history (step world input).2) = (passing world.client input).toList ∧
      (step world input).1.client.filterIn = world.client.filterIn ∧
      (step world input).1.client.callbackEvActive = false ∧ (step world input).1.client.callbackExActive = false := by
  have receives (client : Client) (target : Target) : entered (history [(receive client target).2]) = [] ∧
      (receive client target).1.filterIn = client.filterIn ∧
      (receive client target).1.callbackEvActive = client.callbackEvActive ∧
      (receive client target).1.callbackExActive = client.callbackExActive := by
    unfold receive
    cases client.receiveList <;> exact ⟨rfl, rfl, rfl, rfl⟩
  cases input with
  | frame stale stamp frame =>
      simp only [step, worker_turn_quiet world.client stale stamp frame quietEv quietEx]
      cases passing world.client (.frame stale stamp frame) <;> exact ⟨rfl, rfl, quietEv, quietEx⟩
  | receive target =>
      obtain ⟨silent, filterIn, callbackEv, callbackEx⟩ := receives world.client target
      exact ⟨silent, filterIn, callbackEv.trans quietEv, callbackEx.trans quietEx⟩
  | semWait timeout =>
      dsimp only [step]
      split
      · exact ⟨rfl, rfl, quietEv, quietEx⟩
      split <;> exact ⟨rfl, rfl, quietEv, quietEx⟩
  | receiveAfterWait target =>
      dsimp only [step]
      split
      · exact ⟨rfl, rfl, quietEv, quietEx⟩
      · obtain ⟨silent, filterIn, callbackEv, callbackEx⟩ := receives world.client target
        exact ⟨silent, filterIn, callbackEv.trans quietEv, callbackEx.trans quietEx⟩
  | getcount => exact ⟨rfl, rfl, quietEv, quietEx⟩
  | clear => exact ⟨rfl, rfl, quietEv, quietEx⟩

theorem run_receives (steps : List Step)
    (quietEv : world.client.callbackEvActive = false) (quietEx : world.client.callbackExActive = false)
    (filterIn : world.client.filterIn = client.filterIn) :
    entered (history (run step world steps).2) = steps.filterMap (passing client) := by
  induction steps generalizing world with
  | nil => rfl
  | cons input rest ih =>
      obtain ⟨now, filterAfter, evAfter, exAfter⟩ := step_receives world input quietEv quietEx
      have same : passing world.client input = passing client input := by
        cases input <;> simp only [passing, filterIn]
      rw [run, history_append, entered_append, now, same, ih _ evAfter exAfter (filterAfter.trans filterIn)]
      cases passed : passing client input <;> simp [passed]

theorem socket_can_path_iff (sender receiver : Client) (canalMsg : CanalMsg) (ev : VscpEvent) (stale : Nat → UInt8)
    (stamp : UInt32) (steps : List Step) (connected : 0 < sender.socket) (levelOne : ev.vscpClass < 512)
    (short : ev.sizeData ≤ 8) (present : ¬ (ev.sizeData ≠ 0 ∧ ev.pdata = none))
    (quietEv : receiver.callbackEvActive = false) (quietEx : receiver.callbackExActive = false)
    (fresh : receiver.receiveList = []) :
    let result := run step ⟨receiver, 0⟩ steps
    (∃ frame received, (send sender canalMsg ev true).1 = .ok frame ∧
      (∀ ex, convertEventExToEvent ex = some ev → sendEx sender canalMsg ex true = .ok frame) ∧
      readFrame stale stamp frame = some received ∧
      (CarriedOver received ev ↔ getEventPriority ev = 0 ∧ ev.vscpType < 256)) ∧
      Sound Fair [] result.2 ∧ entered (history result.2) = steps.filterMap (passing receiver) ∧
      entered (history result.2) = left (history result.2) ++ result.1.client.receiveList := by
  have start : Serving ⟨receiver, 0⟩ [] := by
    refine ⟨quietEv, quietEx, ?_, ?_, ?_⟩
    · intro event member
      rw [fresh] at member
      cases member
    · rw [fresh]
      exact holds_nil
    · rw [fresh]
      exact Nat.zero_le _
  obtain ⟨sound, last⟩ := run_keeps step (fun _ _ => True) Fair Serving
    (fun world past input serving _ => step_serving world past input serving) ⟨receiver, 0⟩ [] steps start
    (meets_always _ _ _)
  rw [List.nil_append] at last
  exact ⟨send_carried_iff sender canalMsg ev stale stamp connected levelOne short present, sound,
    run_receives receiver ⟨receiver, 0⟩ steps quietEv quietEx rfl, serving_entered _ _ last⟩

def quietClient : Client := ⟨3, 0, clearVSCPFilter, false, false, [], 0⟩

def urgentEvent : VscpEvent :=
  { blankEvent with head := 0x60, vscpClass := 10, vscpType := 6, sizeData := 2, pdata := some [33, 44] }

def busFrame (byte : UInt8) : CanFrame := ⟨0x800a0607, 2, 0, #v[byte, 44, 0, 0, 0, 0, 0, 0]⟩

def busSteps : List Step :=
  [.frame (fun _ => 0) 5 (busFrame 1), .semWait 100, .frame (fun _ => 0) 6 (busFrame 2), .receive .event, .getcount,
    .receiveAfterWait .event, .receive .event]

theorem socket_can_path_iff_example :
    let result := run step ⟨quietClient, 0⟩ busSteps
    (∃ frame received, (send quietClient blankMsg urgentEvent true).1 = .ok frame ∧
      (∀ ex, convertEventExToEvent ex = some urgentEvent → sendEx quietClient blankMsg ex true = .ok frame) ∧
      readFrame (fun _ => 0) 5 frame = some received ∧
      (CarriedOver received urgentEvent ↔ getEventPriority urgentEvent = 0 ∧ urgentEvent.vscpType < 256)) ∧
      Sound Fair [] result.2 ∧ entered (history result.2) = busSteps.filterMap (passing quietClient) ∧
      entered (history result.2) = left (history result.2) ++ result.1.client.receiveList :=
  socket_can_path_iff quietClient quietClient blankMsg urgentEvent (fun _ => 0) 5 busSteps (by decide) (by decide)
    (by decide) (by decide) rfl rfl rfl

-- An event of priority three, CLASS1.MEASUREMENT temperature, arrives with priority zero.
theorem priority_lost_on_the_bus :
    ∃ frame received, (send quietClient blankMsg urgentEvent true).1 = .ok frame ∧
      readFrame (fun _ => 0) 5 frame = some received ∧ getEventPriority urgentEvent = 3 ∧
      getEventPriority received = 0 ∧ ¬ CarriedOver received urgentEvent := by
  refine ⟨_, _, rfl, rfl, by decide, by decide, fun carried => ?_⟩
  exact absurd carried.priority (by decide)

end Vscp.SocketCan
