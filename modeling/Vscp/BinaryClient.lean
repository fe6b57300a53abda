import Vscp.CommandFrame
import Vscp.Lib.Run

set_option autoImplicit false

namespace Vscp.BinaryTcp

open ByteMemory

def binaryRetrCommand : UInt16 := 6
def binaryClearCommand : UInt16 := 10
def binaryEventConfirmation : UInt16 := 0xffff

def binaryRead16 (frame : Bytes) (position : Nat) : UInt16 := read16 (ofBytes frame fun _ => 0) position

def binaryReply (frame : Bytes) : Option (UInt16 × UInt16) :=
  if frame.length < 7 ∨ frame.headD 0 ≠ packetTypeResponse ∨ crcFast (frame.drop 1) ≠ 0 then none
  else some (binaryRead16 frame 1, binaryRead16 frame 3)

def makeBinaryCommand (command : UInt16) : Except VscpError Bytes :=
  writeCommandToFrame (List.replicate 5 0) command none 0

structure Request where
  id : Nat
  code : UInt16
deriving DecidableEq

-- The origin says which command a frame answers. The client never looks at it: nothing
-- in a frame tells one answer from another of the same code.
inductive Origin
  | reply (request : Request)
  | other
deriving DecidableEq

structure Arrival where
  frame : Bytes
  origin : Origin
deriving DecidableEq

structure Pending where
  id : Nat
  deadline : Nat
deriving DecidableEq

-- The fields of vscpClientTcp that m_singleChannelMutex guards, with one connection:
-- every channel is normalized to the send channel.
structure BinaryClient where
  running : Bool
  error : Int
  polling : Bool
  filterIn : VscpEventFilter
  callbackEvActive : Bool
  callbackExActive : Bool
  events : List VscpEventEx
  frames : List Arrival
  rawActive : Bool
  rawPending : UInt16 → List Pending
  pollPending : Bool
  pollSawEvent : Bool
  pollDeadline : Nat
  controlPending : Bool
  controlComplete : Bool
  controlCode : UInt16
  controlReply : Arrival

-- Where the thread inside binaryCommand is; it holds the control mutex unless idle, and
-- the command mutex while it sends.
inductive Control
  | idle
  | sending (id : Nat)
  | unsent (id : Nat) (code : VscpError)
  | sent (id : Nat)
  | waiting (id : Nat) (deadline : Nat)
  | failing (id : Nat) (code : Int)
deriving DecidableEq

-- The thread inside sendBinaryFrame that holds the command mutex.
inductive Sender
  | none
  | raw (id : Nat) (tracked : Option UInt16)
deriving DecidableEq

inductive Worker
  | stopped
  | top
  | turn
  | pollSend (id : Nat)
  | reading
  | processing (arrival : Arrival)
  | dispatching (frame : Bytes) (acknowledge : Bool)
  | calling (event : VscpEvent)
  | queueing (arrival : Arrival)
  | failing (code : Int)
deriving DecidableEq

structure World where
  client : BinaryClient
  responseTimeout : Nat
  now : Nat
  nextPoll : Nat
  control : Control
  sender : Sender
  worker : Worker
  connected : Bool
  server : List Request
  wire : List Arrival
  nextId : Nat
  pollId : Nat

inductive Waiter
  | poll (id : Nat)
  | control (id : Nat)
  | raw (id : Nat)
deriving DecidableEq

inductive Event
  | commandDone (id : Nat) (code : Int) (reply : Option Arrival)
  | gaveUp (id : Nat)
  | commandRefused (code : VscpError)
  | rawDone (code : Int)
  | rawFrame (arrival : Arrival)
  | rawEmpty (code : Int)
  | routed (waiter : Waiter) (arrival : Arrival)
  | confirmed (frame : Bytes)
  | arrived (event : VscpEvent) (running : Bool) (filter : VscpEventFilter)
  | called (event : VscpEvent)
  | missed (event : VscpEvent)
  | handed (event : VscpEventEx)
  | noEvent (code : Int)
  | refused (code : VscpError)
  | cleared (events : List VscpEventEx)
  | dropped (events : List VscpEventEx)
  | stopped (code : Int)
deriving DecidableEq

def failSingleChannelWorker (client : BinaryClient) (code : Int) : BinaryClient :=
  if client.running then { client with error := code, running := false } else client

def setPending (client : BinaryClient) (code : UInt16) (pending : List Pending) : BinaryClient :=
  { client with rawPending := fun other => if other = code then pending else client.rawPending other }

def stoppedCode (client : BinaryClient) : Int :=
  if client.error = 0 then VscpError.notConnected.code else client.error

def beginCommand (client : BinaryClient) (command : UInt16) : Except VscpError BinaryClient :=
  if ¬ client.running then .error .notConnected
  else if client.rawPending command ≠ [] ∨ (client.pollPending ∧ command = binaryRetrCommand) then .error .alreadyDefined
  else .ok { client with
    controlPending := true, controlComplete := false, controlCode := command, controlReply := ⟨[], .other⟩ }

def rawCommand (frame : Bytes) : Option UInt16 :=
  if frame.length ≥ 3 ∧ frame.headD 0 = packetTypeCommand then some (binaryRead16 frame 1) else none

def tracked (polling : Bool) (frame : Bytes) : Option UInt16 :=
  (rawCommand frame).filter fun code => code = binaryClearCommand ∨ (polling ∧ code = binaryRetrCommand)

def checkRawFrame (polling : Bool) (frame : Bytes) : Except VscpError Unit :=
  if frame = [] ∨ frame.length > 65535 then .error .parameter
  else if (tracked polling frame).isSome ∧ frame.length < 5 then .error .parameter
  else if (tracked polling frame).isSome ∧ crcFast (frame.drop 1) ≠ 0 then .error .invalidFrame
  else if polling ∧ rawCommand frame = some binaryRetrCommand ∧ frame.length ≠ 5 ∧
      (frame.length ≠ 7 ∨ binaryRead16 frame 3 > 1) then .error .notSupported
  else .ok ()

def beginRaw (client : BinaryClient) (code : Option UInt16) (pending : Pending) : Except VscpError BinaryClient :=
  if ¬ client.running then .error .notConnected
  else
    match code with
    | none => .ok { client with rawActive := true }
    | some code =>
        if (client.pollPending ∧ code = binaryRetrCommand) ∨ (client.controlPending ∧ code = client.controlCode) then
          .error .alreadyDefined
        else .ok (setPending { client with rawActive := true } code (client.rawPending code ++ [pending]))

inductive Next
  | finished
  | failed (code : Int)
  | dispatch (frame : Bytes) (acknowledge : Bool)
  | queue (arrival : Arrival)
deriving DecidableEq

-- The event in a reply to RETR, as a frame of its own.
def pollEventFrame (frame : Bytes) : Bytes :=
  let body := (frame.drop 5).take (frame.length - 7)
  0x10 :: (body ++ bytes16 (crcFast body))

def pollNext (sawEvent : Bool) (frame : Bytes) : Next :=
  match binaryReply frame with
  | none => .failed VscpError.invalidFrame.code
  | some (_, error) =>
      if (error.toNat : Int) = VscpError.rcvEmpty.code ∧ frame.length = 7 then .finished
      else if error ≠ 0 then .failed error.toNat
      else if frame.length = 7 ∧ sawEvent then .finished
      else if frame.length < 42 then .failed VscpError.invalidFrame.code
      else .dispatch (pollEventFrame frame) false

def isEventFrame (frame : Bytes) : Bool := frame.headD 0 &&& (0x0f : UInt8) = 0 ∧ frame.headD 0 >>> (4 : UInt8) ≤ 1

def isReplyFrame (frame : Bytes) : Bool := frame.length ≥ 3 ∧ frame.headD 0 = packetTypeResponse

-- A reply goes to the poll, to the thread in binaryCommand or to the oldest raw command,
-- whichever waits for its code. `pollId` and `controlId` name the waiters.
def processReply (client : BinaryClient) (pollId controlId : Nat) (arrival : Arrival) :
    BinaryClient × Next × List Event :=
  let frame := arrival.frame
  let code := binaryRead16 frame 1
  if client.pollPending ∧ code = binaryRetrCommand then
    ({ client with pollPending := false }, pollNext client.pollSawEvent frame,
      if (binaryReply frame).isSome then [.routed (.poll pollId) arrival] else [])
  else if client.controlPending ∧ ¬ client.controlComplete ∧ code = client.controlCode then
    match binaryReply frame with
    | none => (client, .failed VscpError.invalidFrame.code, [])
    | some (_, error) =>
        if frame.length ≠ 7 then (client, .failed VscpError.invalidFrame.code, [])
        else
          let clears := code = binaryClearCommand ∧ error = 0
          ({ client with
              events := if clears then [] else client.events, controlReply := arrival, controlComplete := true },
            .finished, .routed (.control controlId) arrival :: if clears then [.cleared client.events] else [])
  else
    match binaryReply frame, client.rawPending code with
    | some _, oldest :: rest => (setPending client code rest, .queue arrival, [.routed (.raw oldest.id) arrival])
    | reply, _ =>
        if code = binaryEventConfirmation ∧ ¬ client.rawActive then
          match reply with
          | none => (client, .failed VscpError.invalidFrame.code, [])
          | some (_, error) =>
              if frame.length ≠ 13 then (client, .failed VscpError.invalidFrame.code, [])
              else (client, if error = 0 then .finished else .failed error.toNat, [])
        else (client, .queue arrival, [])

def processBinaryFrame (client : BinaryClient) (pollId controlId : Nat) (arrival : Arrival) :
    BinaryClient × Next × List Event :=
  if arrival.frame = [] then (client, .failed VscpError.invalidFrame.code, [])
  else if isEventFrame arrival.frame then
    (if client.polling ∧ client.pollPending then { client with pollSawEvent := true } else client,
      .dispatch arrival.frame true, [])
  else if isReplyFrame arrival.frame then processReply client pollId controlId arrival
  else (client, .queue arrival, [])

def confirmationFrame (frame : Bytes) : Bytes :=
  let byte (position : Nat) := frame.getD position 0
  let argument := [0, 0, byte 1, byte 2, byte (frame.length - 2), byte (frame.length - 1)]
  replyFrame binaryEventConfirmation 0 (some argument) 6

-- `written` is the answer of sendBinaryFrame to the confirmation.
def processBinaryEventFrame (clock : Clock) (beyond : Memory) (frame : Bytes) (acknowledge : Bool)
    (written : Except VscpError Unit) : Except VscpError VscpEvent :=
  if frame.length < 38 ∨ ¬ isEventFrame frame then .error .invalidFrame
  else
    let sizeData := (binaryRead16 frame posSizeMsb).toNat
    if sizeData > maxData ∨ frame.length ≠ sizeData + 38 then .error .invalidFrame
    else
      match getEventFromFrame clock (ofBytes frame beyond) frame.length with
      | none => .error .invalidFrame
      | some event =>
          if ¬ acknowledge then .ok event
          else
            match written with
            | .error code => .error code
            | .ok _ => .ok event

def toEventEx (event : VscpEvent) : VscpEventEx := (convertEventToEventEx emptyEventEx event).getD emptyEventEx

def filterEvent (client : BinaryClient) (event : VscpEvent) : BinaryClient × Worker :=
  if client.running ∧ doLevel2Filter event client.filterIn then
    if client.callbackEvActive ∨ client.callbackExActive then (client, .calling event)
    else
      match convertEventToEventEx emptyEventEx event with
      | none => (client, .failing VscpError.invalidFrame.code)
      | some converted => ({ client with events := client.events ++ [converted] }, .top)
  else (client, .top)

-- A call of receiveSingleChannel that does not block, or one whose wait is over by
-- then: none when it goes on waiting.
def receiveSingleChannel (client : BinaryClient) (blocking expired : Bool) : BinaryClient × Option Event :=
  if client.callbackEvActive ∨ client.callbackExActive then (client, some (.refused .notSupported))
  else
    match client.events with
    | event :: rest => ({ client with events := rest }, some (.handed event))
    | [] =>
        if client.running then
          if ¬ blocking then (client, some (.noEvent VscpError.rcvEmpty.code))
          else (client, if expired then some (.noEvent VscpError.timeout.code) else none)
        else (client, some (.noEvent (stoppedCode client)))

def receiveBinaryFrame (client : BinaryClient) (timeout : Nat) (expired : Bool) : BinaryClient × Option Event :=
  match client.frames with
  | frame :: rest => ({ client with rawActive := true, frames := rest }, some (.rawFrame frame))
  | [] =>
      if ¬ client.running then (client, some (.rawEmpty (stoppedCode client)))
      else
        ({ client with rawActive := true },
          if timeout = 0 then some (.rawEmpty VscpError.rcvEmpty.code)
          else if expired then some (.rawEmpty VscpError.timeout.code) else none)

inductive Received
  | frame
  | timeout
  | error (code : VscpError)

-- Each step is one locked part of one thread, one call on the connection, or one act of
-- the server. A step that is not due changes nothing.
inductive Step
  | tick (milliseconds : Nat)
  | clear (onWorker : Bool)
  | controlSends (written : Except VscpError Unit)
  | controlUnsent (disconnected : Bool)
  | controlWaits
  | controlWakes
  | controlTimesOut
  | controlFails
  | sendBinaryFrame (frame : Bytes)
  | rawSends (written : Except VscpError Unit)
  | receiveBinaryFrame (timeout : Nat) (expired : Bool)
  | receive (blocking expired : Bool)
  | setfilter (filter : VscpEventFilter)
  | fail (code : Int)
  | disconnect
  | close
  | connect (buffered : List Bytes)
  | serverAnswers (frame : Bytes)
  | serverSends (frame : Bytes)
  | workerTop
  | workerTurn
  | workerPolls (written : Except VscpError Unit)
  | workerReceives (received : Received)
  | workerProcesses
  | workerDispatches (clock : Clock) (beyond : Memory) (written : Except VscpError Unit)
  | workerCalls
  | workerQueues
  | workerFails

def Control.id : Control → Nat
  | .idle => 0
  | .sending id | .unsent id _ | .sent id | .waiting id _ | .failing id _ => id

def Control.sends : Control → Bool
  | .sending _ => true
  | _ => false

def commandFree (world : World) : Bool := world.sender = .none ∧ ¬ world.control.sends

-- clear() is the only caller of binaryCommand. From a callback it is refused.
def clear (world : World) (onWorker : Bool) : World × List Event :=
  if onWorker then (world, [.commandRefused .notSupported])
  else if world.control ≠ .idle ∨ ¬ commandFree world then (world, [])
  else
    match makeBinaryCommand binaryClearCommand, beginCommand world.client binaryClearCommand with
    | .error code, _ => (world, [.commandRefused code])
    | .ok _, .error code => (world, [.commandRefused code])
    | .ok _, .ok client => ({ world with client, control := .sending world.nextId, nextId := world.nextId + 1 }, [])

def withoutControl (client : BinaryClient) : BinaryClient := { client with controlPending := false }

def controlSends (world : World) (written : Except VscpError Unit) : World × List Event :=
  match world.control, written with
  | .sending id, .ok _ => ({ world with control := .sent id, server := world.server ++ [⟨id, binaryClearCommand⟩] }, [])
  | .sending id, .error code => ({ world with control := .unsent id code }, [])
  | _, _ => (world, [])

def controlUnsent (world : World) (disconnected : Bool) : World × List Event :=
  match world.control with
  | .unsent id code =>
      let client := withoutControl world.client
      if disconnected then ({ world with client, control := .failing id code.code }, [])
      else ({ world with client, control := .idle }, [.commandDone id code.code none])
  | _ => (world, [])

def controlWaits (world : World) : World × List Event :=
  match world.control with
  | .sent id => ({ world with control := .waiting id (world.now + world.responseTimeout) }, [])
  | _ => (world, [])

def controlWakes (world : World) : World × List Event :=
  match world.control with
  | .waiting id _ =>
      let client := withoutControl world.client
      let reply := world.client.controlReply
      if world.client.controlComplete then
        match binaryReply reply.frame with
        | none => ({ world with client, control := .failing id VscpError.invalidFrame.code }, [])
        | some (command, error) =>
            if command ≠ binaryClearCommand ∨ reply.frame.length ≠ 7 then
              ({ world with client, control := .failing id VscpError.invalidFrame.code }, [])
            else ({ world with client, control := .idle }, [.commandDone id error.toNat (some reply)])
      else if world.client.running then (world, [])
      else ({ world with client, control := .idle }, [.commandDone id (stoppedCode world.client) none])
  | _ => (world, [])

-- The pending flag goes first; the worker is stopped in a step of its own.
def controlTimesOut (world : World) : World × List Event :=
  match world.control with
  | .waiting id deadline =>
      if deadline ≤ world.now ∧ ¬ world.client.controlComplete ∧ world.client.running then
        ({ world with client := withoutControl world.client, control := .failing id VscpError.timeout.code }, [.gaveUp id])
      else (world, [])
  | _ => (world, [])

def controlFails (world : World) : World × List Event :=
  match world.control with
  | .failing id code =>
      ({ world with client := failSingleChannelWorker world.client code, control := .idle }, [.commandDone id code none])
  | _ => (world, [])

def sendBinaryFrame (world : World) (frame : Bytes) : World × List Event :=
  match checkRawFrame world.client.polling frame with
  | .error code => (world, [.rawDone code.code])
  | .ok _ =>
      if ¬ commandFree world then (world, [])
      else
        let code := tracked world.client.polling frame
        match beginRaw world.client code ⟨world.nextId, world.now + world.responseTimeout⟩ with
        | .error code => (world, [.rawDone code.code])
        | .ok client => ({ world with client, sender := .raw world.nextId code, nextId := world.nextId + 1 }, [])

def rawSends (world : World) (written : Except VscpError Unit) : World × List Event :=
  match world.sender, written with
  | .none, _ => (world, [])
  | .raw id code, .ok _ =>
      ({ world with sender := .none, server := world.server ++ (code.map (⟨id, ·⟩)).toList }, [.rawDone 0])
  | .raw _ none, .error code => ({ world with sender := .none }, [.rawDone code.code])
  | .raw _ (some key), .error code =>
      ({ world with
          sender := .none, client := setPending world.client key (world.client.rawPending key).dropLast },
        [.rawDone code.code])

def disconnect (world : World) : World × List Event :=
  ({ world with client := { world.client with
      running := false, error := VscpError.notConnected.code, events := [], frames := [], rawPending := fun _ => [] } },
    [.dropped world.client.events])

-- The end of disconnect: the worker has been joined, the command mutex is taken.
def close (world : World) : World × List Event :=
  if ¬ world.client.running ∧ world.worker = .stopped ∧ commandFree world then
    ({ world with connected := false, server := [], wire := [] }, [])
  else (world, [])

-- The end of connectBinary; `buffered` came in while the channel was opened.
def connect (world : World) (buffered : List Bytes) : World × List Event :=
  if ¬ world.connected ∧ ¬ world.client.running ∧ world.worker = .stopped then
    ({ world with
        client := { world.client with
          running := true, error := 0, events := [], frames := [], rawActive := false, rawPending := fun _ => []
          pollPending := false, pollSawEvent := false
          controlPending := false, controlComplete := false, controlReply := ⟨[], .other⟩ }
        worker := .top
        nextPoll := world.now
        connected := true
        server := []
        wire := buffered.map (⟨·, .other⟩) },
      [.dropped world.client.events])
  else (world, [])

-- The server answers its commands in order, with a valid reply of their code.
def serverAnswers (world : World) (frame : Bytes) : World × List Event :=
  match world.server with
  | [] => (world, [])
  | request :: rest =>
      if (binaryReply frame).map Prod.fst = some request.code then
        ({ world with server := rest, wire := world.wire ++ [⟨frame, .reply request⟩] }, [])
      else (world, [])

def serverSends (world : World) (frame : Bytes) : World × List Event :=
  if world.connected then ({ world with wire := world.wire ++ [⟨frame, .other⟩] }, []) else (world, [])

def workerTop (world : World) : World × List Event :=
  match world.worker with
  | .top => ({ world with worker := if world.client.running then .turn else .stopped }, [])
  | _ => (world, [])

def overdue (client : BinaryClient) (now : Nat) : Bool :=
  [binaryRetrCommand, binaryClearCommand].any fun code =>
    match client.rawPending code with
    | [] => false
    | front :: _ => front.deadline ≤ now

def workerTurn (world : World) : World × List Event :=
  match world.worker with
  | .turn =>
      let client := world.client
      if overdue client world.now ∨ (client.polling ∧ client.pollPending ∧ client.pollDeadline ≤ world.now) then
        ({ world with worker := .failing VscpError.timeout.code }, [])
      else if client.polling ∧ ¬ client.pollPending ∧ world.nextPoll ≤ world.now ∧
          client.rawPending binaryRetrCommand = [] then
        ({ world with
            client := { client with
              pollPending := true, pollSawEvent := false, pollDeadline := world.now + world.responseTimeout }
            worker := .pollSend world.nextId
            nextPoll := world.now + 50
            pollId := world.nextId
            nextId := world.nextId + 1 }, [])
      else ({ world with worker := .reading }, [])
  | _ => (world, [])

def workerPolls (world : World) (written : Except VscpError Unit) : World × List Event :=
  match world.worker, written with
  | .pollSend id, .ok _ =>
      ({ world with worker := .reading, server := world.server ++ [⟨id, binaryRetrCommand⟩] }, [])
  | .pollSend _, .error code => ({ world with worker := .failing code.code }, [])
  | _, _ => (world, [])

def workerReceives (world : World) (received : Received) : World × List Event :=
  match world.worker, received, world.wire with
  | .reading, .frame, arrival :: rest =>
      ({ world with wire := rest, worker := if world.client.running then .processing arrival else .stopped }, [])
  | .reading, .timeout, _ => ({ world with worker := if world.client.running then .top else .stopped }, [])
  | .reading, .error code, _ =>
      ({ world with worker := if world.client.running then .failing code.code else .stopped }, [])
  | _, _, _ => (world, [])

def afterFrame : Next → Worker
  | .finished => .top
  | .failed code => .failing code
  | .dispatch frame acknowledge => .dispatching frame acknowledge
  | .queue arrival => .queueing arrival

def workerProcesses (world : World) : World × List Event :=
  match world.worker with
  | .processing arrival =>
      let result := processBinaryFrame world.client world.pollId world.control.id arrival
      ({ world with client := result.1, worker := afterFrame result.2.1 }, result.2.2)
  | _ => (world, [])

def dispatchOutputs (client : BinaryClient) (frame : Bytes) (acknowledge : Bool) (event : VscpEvent) : List Event :=
  (if acknowledge then [.confirmed (confirmationFrame frame)] else []) ++ [.arrived event client.running client.filterIn]

def workerDispatches (world : World) (clock : Clock) (beyond : Memory) (written : Except VscpError Unit) :
    World × List Event :=
  match world.worker with
  | .dispatching frame acknowledge =>
      match processBinaryEventFrame clock beyond frame acknowledge written with
      | .error code => ({ world with worker := .failing code.code }, [])
      | .ok event =>
          let result := filterEvent world.client event
          ({ world with client := result.1, worker := result.2 },
            dispatchOutputs world.client frame acknowledge event)
  | _ => (world, [])

def workerCalls (world : World) : World × List Event :=
  match world.worker with
  | .calling event =>
      ({ world with worker := .top }, [if world.client.running then .called event else .missed event])
  | _ => (world, [])

def workerQueues (world : World) : World × List Event :=
  match world.worker with
  | .queueing arrival =>
      ({ world with client := { world.client with frames := world.client.frames ++ [arrival] }, worker := .top }, [])
  | _ => (world, [])

def workerFails (world : World) : World × List Event :=
  match world.worker with
  | .failing code =>
      ({ world with client := failSingleChannelWorker world.client code, worker := .stopped }, [.stopped code])
  | _ => (world, [])

def step (world : World) : Step → World × List Event
  | .tick milliseconds => ({ world with now := world.now + milliseconds }, [])
  | .clear onWorker => clear world onWorker
  | .controlSends written => controlSends world written
  | .controlUnsent disconnected => controlUnsent world disconnected
  | .controlWaits => controlWaits world
  | .controlWakes => controlWakes world
  | .controlTimesOut => controlTimesOut world
  | .controlFails => controlFails world
  | .sendBinaryFrame frame => sendBinaryFrame world frame
  | .rawSends written => rawSends world written
  | .receiveBinaryFrame timeout expired =>
      let result := receiveBinaryFrame world.client timeout expired
      ({ world with client := result.1 }, result.2.toList)
  | .receive blocking expired =>
      let result := receiveSingleChannel world.client blocking expired
      ({ world with client := result.1 }, result.2.toList)
  | .setfilter filter => ({ world with client := { world.client with filterIn := filter } }, [])
  | .fail code => ({ world with client := failSingleChannelWorker world.client code }, [])
  | .disconnect => disconnect world
  | .close => close world
  | .connect buffered => connect world buffered
  | .serverAnswers frame => serverAnswers world frame
  | .serverSends frame => serverSends world frame
  | .workerTop => workerTop world
  | .workerTurn => workerTurn world
  | .workerPolls written => workerPolls world written
  | .workerReceives received => workerReceives world received
  | .workerProcesses => workerProcesses world
  | .workerDispatches clock beyond written => workerDispatches world clock beyond written
  | .workerCalls => workerCalls world
  | .workerQueues => workerQueues world
  | .workerFails => workerFails world

def initial (polling : Bool) (filterIn : VscpEventFilter) (callbackEv callbackEx : Bool) (responseTimeout : Nat) : World where
  client := {
    running := false, error := VscpError.notConnected.code, polling, filterIn, callbackEvActive := callbackEv
    callbackExActive := callbackEx, events := [], frames := [], rawActive := false, rawPending := fun _ => []
    pollPending := false, pollSawEvent := false, pollDeadline := 0
    controlPending := false, controlComplete := false, controlCode := 0, controlReply := ⟨[], .other⟩ }
  responseTimeout
  now := 0
  nextPoll := 0
  control := .idle
  sender := .none
  worker := .stopped
  connected := false
  server := []
  wire := []
  nextId := 0
  pollId := 0

theorem valid_reply_frame (frame : Bytes) (code error : UInt16) (reply : binaryReply frame = some (code, error)) :
    frame ≠ [] ∧ isEventFrame frame = false ∧ isReplyFrame frame = true ∧ binaryRead16 frame 1 = code := by
  unfold binaryReply at reply
  split at reply
  · cases reply
  · next valid =>
      have long : 7 ≤ frame.length := Nat.le_of_not_lt (fun short => valid (Or.inl short))
      have kind : frame.headD 0 = packetTypeResponse := Decidable.not_not.mp (fun other => valid (Or.inr (Or.inl other)))
      refine ⟨?_, ?_, ?_, (Prod.mk.inj (Option.some.inj reply)).1⟩
      · intro empty
        rw [empty] at long
        exact absurd long (by decide)
      · rw [isEventFrame, kind]
        decide
      · exact decide_eq_true ⟨by omega, kind⟩

end Vscp.BinaryTcp
