import Vscp.BinaryClient

set_option autoImplicit false

namespace Vscp.BinaryTcp

open ByteMemory

-- What the worker has taken off the connection and not dealt with yet.
inductive Hand
  | empty
  | taken (frame : Bytes)
  | event (frame : Bytes) (acknowledge : Bool)

abbrev Arrived := VscpEvent × Bool × VscpEventFilter

-- An event frame carries itself; a good reply to the poll has an event behind its error code.
def carriedEvent (client : BinaryClient) (frame : Bytes) : Hand :=
  if frame = [] then .empty
  else if isEventFrame frame then .event frame true
  else if client.pollPending ∧ binaryReply frame = some (binaryRetrCommand, 0) ∧ 42 ≤ frame.length then
    .event (pollEventFrame frame) false
  else .empty

def decodedEvent (clock : Clock) (beyond : Memory) (frame : Bytes) : Option VscpEvent :=
  let sizeData := (binaryRead16 frame posSizeMsb).toNat
  if isEventFrame frame ∧ sizeData ≤ maxData ∧ frame.length = sizeData + 38 then
    getEventFromFrame clock (ofBytes frame beyond) frame.length
  else none

def confirmedEvent (clock : Clock) (beyond : Memory) (frame : Bytes) (acknowledge : Bool)
    (written : Except VscpError Unit) : Option VscpEvent :=
  if ¬ acknowledge ∨ written.isOk then decodedEvent clock beyond frame else none

-- A frame comes into the hand when the running worker takes it. A malformed event is lost, and so is one whose
-- confirmation cannot be sent.
def Hand.after (world : World) (hand : Hand) : Step → Hand × List Arrived
  | .workerReceives .frame =>
      match world.worker, world.wire with
      | .reading, arrival :: _ => (if world.client.running then .taken arrival.frame else .empty, [])
      | _, _ => (hand, [])
  | .workerProcesses =>
      match hand with
      | .taken frame => (carriedEvent world.client frame, [])
      | _ => (hand, [])
  | .workerDispatches clock beyond written =>
      match hand with
      | .event frame acknowledge =>
          (.empty, (confirmedEvent clock beyond frame acknowledge written).toList.map
            (·, world.client.running, world.client.filterIn))
      | _ => (hand, [])
  | _ => (hand, [])

def arriving (world : World) (hand : Hand) : List Step → List Arrived
  | [] => []
  | next :: rest => (hand.after world next).2 ++ arriving (step world next).1 (hand.after world next).1 rest

def arrivedEvents (outputs : List Event) : List Arrived :=
  outputs.filterMap fun | .arrived event running filter => some (event, running, filter) | _ => none

def Worker.hand : Worker → Hand
  | .processing arrival => .taken arrival.frame
  | .dispatching frame acknowledge => .event frame acknowledge
  | _ => .empty

def Worker.calls : Worker → List VscpEventEx
  | .calling event => [toEventEx event]
  | _ => []

def callbacksActive (client : BinaryClient) : Bool := client.callbackEvActive ∨ client.callbackExActive

def Event.quiet : Event → Bool
  | .arrived _ _ _ | .called _ | .missed _ | .handed _ | .cleared _ | .dropped _ | .noEvent _ => false
  | _ => true

structure Untouched (world : World) (hand : Hand) (result : World × List Event) : Prop where
  events : result.1.client.events = world.client.events
  callbacks : callbacksActive result.1.client = callbacksActive world.client
  calls : result.1.worker.calls = world.worker.calls
  hand : result.1.worker.hand = hand
  quiet : ∀ output ∈ result.2, output.quiet = true

abbrev Idle (world : World) (result : World × List Event) : Prop := Untouched world world.worker.hand result

variable (world : World) (past : List Event) (client : BinaryClient) (frame : Bytes)

theorem same_untouched : Idle world (world, []) :=
  ⟨rfl, rfl, rfl, rfl, fun _ member => absurd member List.not_mem_nil⟩

variable (code : Int)

theorem fail_events : (failSingleChannelWorker client code).events = client.events := by
  unfold failSingleChannelWorker
  split <;> rfl

theorem fail_callbacks :
    callbacksActive (failSingleChannelWorker client code) = callbacksActive client := by
  unfold failSingleChannelWorker
  split <;> rfl

theorem begin_command_events (client next : BinaryClient) (command : UInt16)
    (begins : beginCommand client command = .ok next) :
    next.events = client.events ∧ callbacksActive next = callbacksActive client := by
  unfold beginCommand at begins
  split at begins
  · cases begins
  · split at begins
    · cases begins
    · cases begins
      exact ⟨rfl, rfl⟩

theorem begin_raw_events (client next : BinaryClient) (code : Option UInt16) (pending : Pending)
    (begins : beginRaw client code pending = .ok next) :
    next.events = client.events ∧ callbacksActive next = callbacksActive client := by
  unfold beginRaw at begins
  split at begins
  · cases begins
  · cases code with
    | none => cases begins; exact ⟨rfl, rfl⟩
    | some key =>
        simp only at begins
        split at begins
        · cases begins
        · cases begins
          exact ⟨rfl, rfl⟩

theorem clear_untouched (onWorker : Bool) : Idle world (clear world onWorker) := by
  unfold clear
  split
  · exact ⟨rfl, rfl, rfl, rfl, by simp [Event.quiet]⟩
  · split
    · exact same_untouched world
    · split
      · exact ⟨rfl, rfl, rfl, rfl, by simp [Event.quiet]⟩
      · exact ⟨rfl, rfl, rfl, rfl, by simp [Event.quiet]⟩
      · next client _ begins =>
          obtain ⟨events, callbacks⟩ := begin_command_events world.client client binaryClearCommand begins
          exact ⟨events, callbacks, rfl, rfl, by simp⟩

variable (written : Except VscpError Unit)

theorem control_untouched (disconnected : Bool) :
    Idle world (controlSends world written) ∧ Idle world (controlUnsent world disconnected) ∧
      Idle world (controlWaits world) ∧ Idle world (controlWakes world) ∧
      Idle world (controlTimesOut world) ∧ Idle world (controlFails world) := by
  refine ⟨?_, ?_, ?_, ?_, ?_, ?_⟩
  · unfold controlSends
    split <;> exact ⟨rfl, rfl, rfl, rfl, by simp⟩
  · unfold controlUnsent
    split
    · split <;> exact ⟨rfl, rfl, rfl, rfl, by simp [Event.quiet]⟩
    · exact same_untouched world
  · unfold controlWaits
    split <;> exact ⟨rfl, rfl, rfl, rfl, by simp⟩
  · unfold controlWakes
    split
    · split
      · simp only
        split
        · exact ⟨rfl, rfl, rfl, rfl, by simp⟩
        · split <;> exact ⟨rfl, rfl, rfl, rfl, by simp [Event.quiet]⟩
      · split <;> exact ⟨rfl, rfl, rfl, rfl, by simp [Event.quiet]⟩
    · exact same_untouched world
  · unfold controlTimesOut
    split
    · split <;> exact ⟨rfl, rfl, rfl, rfl, by simp [Event.quiet]⟩
    · exact same_untouched world
  · unfold controlFails
    split
    · exact ⟨fail_events _ _, fail_callbacks _ _, rfl, rfl, by simp [Event.quiet]⟩
    · exact same_untouched world

theorem raw_untouched :
    Idle world (sendBinaryFrame world frame) ∧ Idle world (rawSends world written) := by
  constructor
  · unfold sendBinaryFrame
    split
    · exact ⟨rfl, rfl, rfl, rfl, by simp [Event.quiet]⟩
    · split
      · exact same_untouched world
      · simp only
        split
        · exact ⟨rfl, rfl, rfl, rfl, by simp [Event.quiet]⟩
        · next client begins =>
            obtain ⟨events, callbacks⟩ := begin_raw_events world.client client _ _ begins
            exact ⟨events, callbacks, rfl, rfl, by simp⟩
  · unfold rawSends
    split <;> exact ⟨rfl, rfl, rfl, rfl, by simp [Event.quiet]⟩

theorem read_untouched (timeout : Nat) (expired : Bool) :
    Idle world (step world (.receiveBinaryFrame timeout expired)) := by
  simp only [step, receiveBinaryFrame]
  split
  · exact ⟨rfl, rfl, rfl, rfl, by simp [Event.quiet]⟩
  · split
    · exact ⟨rfl, rfl, rfl, rfl, by simp [Event.quiet]⟩
    · refine ⟨rfl, rfl, rfl, rfl, ?_⟩
      split
      · simp [Event.quiet]
      · split <;> simp [Event.quiet]

theorem link_untouched :
    Idle world (close world) ∧ Idle world (serverAnswers world frame) ∧
      Idle world (serverSends world frame) := by
  refine ⟨?_, ?_, ?_⟩
  · unfold close
    split <;> exact ⟨rfl, rfl, rfl, rfl, by simp⟩
  · unfold serverAnswers
    split
    · exact same_untouched world
    · split <;> exact ⟨rfl, rfl, rfl, rfl, by simp⟩
  · unfold serverSends
    split <;> exact ⟨rfl, rfl, rfl, rfl, by simp⟩

theorem worker_untouched :
    Idle world (workerTop world) ∧ Idle world (workerTurn world) ∧ Idle world (workerPolls world written) ∧
      Idle world (workerQueues world) ∧ Idle world (workerFails world) := by
  refine ⟨?_, ?_, ?_, ?_, ?_⟩
  · unfold workerTop
    split
    · next due =>
        refine ⟨rfl, rfl, ?_, ?_, by simp⟩
        · rw [due]
          split <;> rfl
        · rw [due]
          split <;> rfl
    · exact same_untouched world
  · unfold workerTurn
    split
    · next due =>
        simp only
        split
        · exact ⟨rfl, rfl, by rw [due]; rfl, by rw [due]; rfl, by simp⟩
        · split <;> exact ⟨rfl, rfl, by rw [due]; rfl, by rw [due]; rfl, by simp⟩
    · exact same_untouched world
  · unfold workerPolls
    split
    · next due => exact ⟨rfl, rfl, by rw [due]; rfl, by rw [due]; rfl, by simp⟩
    · next due => exact ⟨rfl, rfl, by rw [due]; rfl, by rw [due]; rfl, by simp⟩
    · exact same_untouched world
  · unfold workerQueues
    split
    · next due => exact ⟨rfl, rfl, by rw [due]; rfl, by rw [due]; rfl, by simp⟩
    · exact same_untouched world
  · unfold workerFails
    split
    · next due =>
        exact ⟨fail_events _ _, fail_callbacks _ _, by rw [due]; rfl, by rw [due]; rfl, by simp [Event.quiet]⟩
    · exact same_untouched world

theorem receives_untouched (received : Received) :
    Untouched world (world.worker.hand.after world (.workerReceives received)).1 (workerReceives world received) := by
  cases received with
  | frame =>
      cases due : world.worker with
      | reading =>
          cases wire : world.wire with
          | nil =>
              simp only [workerReceives, Hand.after, due, wire]
              exact ⟨rfl, rfl, rfl, by rw [due], by simp⟩
          | cons arrival rest =>
              simp only [workerReceives, Hand.after, due, wire]
              refine ⟨rfl, rfl, ?_, ?_, by simp⟩
              · rw [due]
                split <;> rfl
              · split <;> rfl
      | _ =>
          simp only [workerReceives, Hand.after, due]
          exact ⟨rfl, rfl, rfl, by rw [due], by simp⟩
  | timeout =>
      unfold workerReceives
      split
      · next due taken _ => cases taken
      · next due _ =>
          refine ⟨rfl, rfl, ?_, ?_, by simp⟩
          · rw [due]
            split <;> rfl
          · rw [due]
            split <;> rfl
      · next due taken => cases taken
      · exact same_untouched world
  | error code =>
      unfold workerReceives
      split
      · next due taken _ => cases taken
      · next due taken => cases taken
      · next due _ =>
          refine ⟨rfl, rfl, ?_, ?_, by simp⟩
          · rw [due]
            split <;> rfl
          · rw [due]
            split <;> rfl
      · exact same_untouched world

-- The steps that touch no event and leave the worker's hand to the rule above.
def Step.plain : Step → Bool
  | .receive _ _ | .disconnect | .connect _ | .workerProcesses | .workerDispatches _ _ _ | .workerCalls => false
  | _ => true

variable (next : Step)

theorem step_untouched (plain : next.plain = true) :
    Untouched world (world.worker.hand.after world next).1 (step world next) := by
  cases next with
  | tick milliseconds => exact ⟨rfl, rfl, rfl, rfl, by simp [step]⟩
  | clear onWorker => exact clear_untouched world onWorker
  | controlSends written => exact (control_untouched world written false).1
  | controlUnsent disconnected => exact (control_untouched world (.ok ()) disconnected).2.1
  | controlWaits => exact (control_untouched world (.ok ()) false).2.2.1
  | controlWakes => exact (control_untouched world (.ok ()) false).2.2.2.1
  | controlTimesOut => exact (control_untouched world (.ok ()) false).2.2.2.2.1
  | controlFails => exact (control_untouched world (.ok ()) false).2.2.2.2.2
  | sendBinaryFrame frame => exact (raw_untouched world frame (.ok ())).1
  | rawSends written => exact (raw_untouched world [] written).2
  | receiveBinaryFrame timeout expired => exact read_untouched world timeout expired
  | setfilter filter => exact ⟨rfl, rfl, rfl, rfl, by simp [step]⟩
  | fail code => exact ⟨fail_events _ _, fail_callbacks _ _, rfl, rfl, by simp [step]⟩
  | close => exact (link_untouched world []).1
  | serverAnswers frame => exact (link_untouched world frame).2.1
  | serverSends frame => exact (link_untouched world frame).2.2
  | workerTop => exact (worker_untouched world (.ok ())).1
  | workerTurn => exact (worker_untouched world (.ok ())).2.1
  | workerPolls written => exact (worker_untouched world written).2.2.1
  | workerReceives received => exact receives_untouched world received
  | workerQueues => exact (worker_untouched world (.ok ())).2.2.2.1
  | workerFails => exact (worker_untouched world (.ok ())).2.2.2.2
  | _ => cases plain

theorem arrived_append (first second : List Event) :
    arrivedEvents (first ++ second) = arrivedEvents first ++ arrivedEvents second :=
  List.filterMap_append

theorem arrived_quiet (outputs : List Event) (quiet : ∀ output ∈ outputs, output.quiet = true) : arrivedEvents outputs = [] := by
  refine List.filterMap_eq_nil_iff.mpr fun output member => ?_
  have silent := quiet output member
  cases output <;> first | rfl | cases silent

theorem plain_carries (hand : Hand) (next : Step) (plain : next.plain = true) : (hand.after world next).2 = [] := by
  cases next with
  | workerReceives received =>
      cases received with
      | frame =>
          simp only [Hand.after]
          split <;> rfl
      | _ => rfl
  | receive => rfl
  | disconnect => rfl
  | connect => rfl
  | workerProcesses => cases plain
  | workerDispatches => cases plain
  | _ => rfl

theorem poll_carries (sawEvent : Bool) (retr : binaryRead16 frame 1 = binaryRetrCommand) :
    (afterFrame (pollNext sawEvent frame)).hand =
      if binaryReply frame = some (binaryRetrCommand, 0) ∧ 42 ≤ frame.length then .event (pollEventFrame frame) false
      else .empty := by
  unfold pollNext
  cases reply : binaryReply frame with
  | none => simp only [reduceCtorEq, false_and, if_false, afterFrame, Worker.hand]
  | some read =>
      obtain ⟨code, error⟩ := read
      obtain ⟨_, _, _, own⟩ := valid_reply_frame frame code error reply
      rw [retr] at own
      subst own
      by_cases good : error = 0
      · subst good
        have some' : ¬ (((0 : UInt16).toNat : Int) = VscpError.rcvEmpty.code ∧ frame.length = 7) := fun both =>
          absurd both.1 (by decide)
        simp only [some', ne_eq, not_true_eq_false, if_false, true_and]
        by_cases long : 42 ≤ frame.length
        · rw [if_neg (by omega), if_neg (by omega), if_pos long]
          rfl
        · rw [if_neg long]
          split
          · rfl
          · rw [if_pos (by omega)]
            rfl
      · have refused : ¬ (some (binaryRetrCommand, error) = some (binaryRetrCommand, (0 : UInt16)) ∧ 42 ≤ frame.length) :=
          fun both => good (Prod.mk.inj (Option.some.inj both.1)).2
        simp only [refused, good, ne_eq, not_false_eq_true, if_true, if_false]
        split <;> rfl

variable (pollId controlId : Nat) (arrival : Arrival)

theorem other_reply_carries (other : ¬ (client.pollPending = true ∧ binaryRead16 arrival.frame 1 = binaryRetrCommand)) :
    (afterFrame (processReply client pollId controlId arrival).2.1).hand = .empty := by
  unfold processReply
  simp only [if_neg other]
  split
  · split
    · rfl
    · split <;> rfl
  · split
    · rfl
    · split
      · split
        · rfl
        · split
          · rfl
          · dsimp only
            split <;> rfl
      · rfl

theorem process_carries :
    (afterFrame (processBinaryFrame client pollId controlId arrival).2.1).hand = carriedEvent client arrival.frame := by
  unfold processBinaryFrame carriedEvent
  by_cases empty : arrival.frame = []
  · rw [if_pos empty, if_pos empty]
    rfl
  · rw [if_neg empty, if_neg empty]
    by_cases event : isEventFrame arrival.frame = true
    · rw [if_pos event, if_pos event]
      rfl
    · rw [if_neg event, if_neg event]
      by_cases polled : client.pollPending = true ∧ binaryRead16 arrival.frame 1 = binaryRetrCommand
      · by_cases reply : isReplyFrame arrival.frame = true
        · have taken : (processReply client pollId controlId arrival).2.1 = pollNext client.pollSawEvent arrival.frame := by
            unfold processReply
            rw [if_pos polled]
          have carries := poll_carries arrival.frame client.pollSawEvent polled.2
          rw [if_pos reply, taken, carries]
          simp only [polled.1, true_and]
        · rw [if_neg reply, if_neg fun good => reply (valid_reply_frame _ _ _ good.2.1).2.2.1]
          rfl
      · have unasked : ¬ (client.pollPending = true ∧ binaryReply arrival.frame = some (binaryRetrCommand, 0) ∧
            42 ≤ arrival.frame.length) := fun good => polled ⟨good.1, (valid_reply_frame _ _ _ good.2.1).2.2.2⟩
        rw [if_neg unasked]
        split
        · exact other_reply_carries client pollId controlId arrival polled
        · rfl

theorem dispatch_carries (clock : Clock) (beyond : Memory) (frame : Bytes) (acknowledge : Bool)
    (written : Except VscpError Unit) :
    (processBinaryEventFrame clock beyond frame acknowledge written).toOption =
      confirmedEvent clock beyond frame acknowledge written := by
  unfold processBinaryEventFrame confirmedEvent decodedEvent
  by_cases shape : frame.length < 38 ∨ ¬ isEventFrame frame = true
  · have malformed : ¬ (isEventFrame frame = true ∧ (binaryRead16 frame posSizeMsb).toNat ≤ maxData ∧
        frame.length = (binaryRead16 frame posSizeMsb).toNat + 38) := by
      rintro ⟨lead, _, length⟩
      rcases shape with short | other
      · omega
      · exact other lead
    simp only [if_pos shape, if_neg malformed, ite_self]
    rfl
  · obtain ⟨long, lead⟩ := not_or.mp shape
    rw [if_neg shape]
    dsimp only
    by_cases sized : (binaryRead16 frame posSizeMsb).toNat > maxData ∨
        frame.length ≠ (binaryRead16 frame posSizeMsb).toNat + 38
    · have malformed : ¬ (isEventFrame frame = true ∧ (binaryRead16 frame posSizeMsb).toNat ≤ maxData ∧
          frame.length = (binaryRead16 frame posSizeMsb).toNat + 38) := by
        rintro ⟨_, small, length⟩
        rcases sized with large | other
        · omega
        · exact other length
      rw [if_pos sized, if_neg malformed, ite_self]
      rfl
    · obtain ⟨small, length⟩ := not_or.mp sized
      have formed : isEventFrame frame = true ∧ (binaryRead16 frame posSizeMsb).toNat ≤ maxData ∧
          frame.length = (binaryRead16 frame posSizeMsb).toNat + 38 :=
        ⟨not_not.mp lead, by omega, not_not.mp length⟩
      simp only [if_neg sized, if_pos formed]
      cases getEventFromFrame clock (ofBytes frame beyond) frame.length with
      | none => rw [ite_self]; rfl
      | some event => cases acknowledge <;> cases written <;> rfl

def KeepsOrClears (client : BinaryClient) (controlId : Nat) (arrival : Arrival)
    (result : BinaryClient × Next × List Event) : Prop :=
  callbacksActive result.1 = callbacksActive client ∧
    ((result.1.events = client.events ∧ ∀ output ∈ result.2.2, output.quiet = true) ∨
      (result.1.events = [] ∧ result.2.2 = [.routed (.control controlId) arrival, .cleared client.events]))

theorem keeps_same (controlId : Nat) (arrival : Arrival) (next : Next) :
    KeepsOrClears client controlId arrival (client, next, []) := ⟨rfl, Or.inl ⟨rfl, by simp⟩⟩

theorem process_reply_events :
    KeepsOrClears client controlId arrival (processReply client pollId controlId arrival) := by
  unfold processReply
  simp only
  split
  · refine ⟨rfl, Or.inl ⟨rfl, ?_⟩⟩
    split <;> simp [Event.quiet]
  · split
    · split
      · exact keeps_same client controlId arrival _
      · split
        · exact keeps_same client controlId arrival _
        · refine ⟨rfl, ?_⟩
          by_cases clears : binaryRead16 arrival.frame 1 = binaryClearCommand ∧ ‹UInt16› = 0
          · rw [if_pos clears, if_pos clears]
            exact Or.inr ⟨rfl, rfl⟩
          · rw [if_neg clears, if_neg clears]
            exact Or.inl ⟨rfl, by simp [Event.quiet]⟩
    · split
      · exact ⟨rfl, Or.inl ⟨rfl, by simp [Event.quiet]⟩⟩
      · split
        · split
          · exact keeps_same client controlId arrival _
          · split <;> exact keeps_same client controlId arrival _
        · exact keeps_same client controlId arrival _

theorem process_events :
    KeepsOrClears client controlId arrival (processBinaryFrame client pollId controlId arrival) := by
  unfold processBinaryFrame
  split
  · exact keeps_same client controlId arrival _
  · split
    · refine ⟨?_, Or.inl ⟨?_, by simp⟩⟩
      · split <;> rfl
      · split <;> rfl
    · split
      · exact process_reply_events client pollId controlId arrival
      · exact keeps_same client controlId arrival _

theorem received_arrivals (blocking expired : Bool) :
    arrivedEvents (receiveSingleChannel client blocking expired).2.toList = [] := by
  unfold receiveSingleChannel
  split
  · rfl
  · split
    · rfl
    · split
      · split
        · rfl
        · split <;> rfl
      · rfl

theorem processed_arrivals :
    arrivedEvents (processBinaryFrame client pollId controlId arrival).2.2 = [] := by
  obtain ⟨_, kept | cleared⟩ := process_events client pollId controlId arrival
  · exact arrived_quiet _ kept.2
  · rw [cleared.2]
    rfl

theorem filtered_hand (event : VscpEvent) : (filterEvent client event).2.hand = .empty := by
  unfold filterEvent
  split
  · split
    · rfl
    · split <;> rfl
  · rfl

theorem step_carries :
    (step world next).1.worker.hand = (world.worker.hand.after world next).1 ∧
      arrivedEvents (step world next).2 = (world.worker.hand.after world next).2 := by
  by_cases plain : next.plain = true
  · have untouched := step_untouched world next plain
    exact ⟨untouched.hand, by rw [arrived_quiet _ untouched.quiet, plain_carries world _ next plain]⟩
  · cases next with
    | receive blocking expired => exact ⟨rfl, received_arrivals world.client blocking expired⟩
    | disconnect => exact ⟨rfl, rfl⟩
    | connect buffered =>
        simp only [step, connect]
        split
        · next due => exact ⟨by rw [due.2.2]; rfl, rfl⟩
        · exact ⟨rfl, rfl⟩
    | workerProcesses =>
        simp only [step, workerProcesses]
        cases due : world.worker with
        | processing arrival =>
            exact ⟨process_carries world.client world.pollId world.control.id arrival,
              processed_arrivals world.client world.pollId world.control.id arrival⟩
        | _ => exact ⟨by rw [due]; rfl, rfl⟩
    | workerDispatches clock beyond written =>
        simp only [step, workerDispatches]
        cases due : world.worker with
        | dispatching frame acknowledge =>
            have carries := dispatch_carries clock beyond frame acknowledge written
            simp only [Worker.hand, Hand.after, ← carries]
            cases processBinaryEventFrame clock beyond frame acknowledge written with
            | error code => exact ⟨rfl, rfl⟩
            | ok event =>
                refine ⟨filtered_hand world.client event, ?_⟩
                cases acknowledge <;> rfl
        | _ => exact ⟨by rw [due]; rfl, rfl⟩
    | workerCalls =>
        simp only [step, workerCalls]
        cases due : world.worker with
        | calling event =>
            refine ⟨rfl, ?_⟩
            dsimp only
            cases world.client.running <;> rfl
        | _ => exact ⟨by rw [due]; rfl, rfl⟩
    | _ => exact absurd rfl plain

theorem run_arrived (steps : List Step) :
    arrivedEvents (Run.run step world steps).2 = arriving world world.worker.hand steps := by
  induction steps generalizing world with
  | nil => rfl
  | cons next rest ih =>
      obtain ⟨hand, now⟩ := step_carries world next
      rw [Run.run, arrived_append, now, ih, hand]
      rfl

end Vscp.BinaryTcp
