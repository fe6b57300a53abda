import Vscp.ReplyRaw

set_option autoImplicit false

namespace Vscp.BinaryTcp

variable (world : World) (past : List Event)

variable (timeout : Nat)

theorem receive_binary_frame_steady (expired : Bool) :
    Steady world (step world (.receiveBinaryFrame timeout expired)).1 := by
  simp only [step, receiveBinaryFrame]
  split
  · exact steady_client world _ rfl id
  · split
    · exact steady_same world
    · exact steady_client world _ rfl id

theorem receive_binary_frame_silent (expired : Bool) :
    ∀ output ∈ (step world (.receiveBinaryFrame timeout expired)).2, output.silent = true := by
  simp only [step, receiveBinaryFrame]
  split
  · simp [Event.silent]
  · split
    · simp [Event.silent]
    · simp only
      split
      · simp [Event.silent]
      · split <;> simp [Event.silent]

variable (blocking expired : Bool)

theorem receive_steady : Steady world (step world (.receive blocking expired)).1 := by
  simp only [step, receiveSingleChannel]
  split
  · exact steady_same world
  · split
    · exact steady_client world _ rfl id
    · split
      · split <;> exact steady_same world
      · exact steady_same world

theorem receive_silent :
    ∀ output ∈ (step world (.receive blocking expired)).2, output.silent = true := by
  simp only [step, receiveSingleChannel]
  split
  · simp [Event.silent]
  · split
    · simp [Event.silent]
    · split
      · split
        · simp [Event.silent]
        · cases expired <;> simp [Event.silent]
      · simp [Event.silent]

variable (frame : Bytes)

theorem wire_grows_steady (server : List Request) (arrival : Arrival) (coded : Coded arrival)
    (same : inFlight { world with server := server, wire := world.wire ++ [arrival] } = inFlight world) :
    Steady world { world with server := server, wire := world.wire ++ [arrival] } := by
  refine ⟨rfl, onward_same world _ id rfl, id, rfl, rfl, rfl, rfl, ?_, fun _ => same, ?_, rfl, id⟩
  · rw [same]
  · intro before other member
    simp only [arrivals, ← List.append_assoc] at member
    cases List.mem_append.mp member with
    | inl old => exact before other old
    | inr new =>
        rw [List.mem_singleton.mp new]
        exact coded

theorem server_answers_steady : Steady world (serverAnswers world frame).1 := by
  unfold serverAnswers
  split
  · exact steady_same world
  · next request rest due =>
      split
      · next answers =>
          refine wire_grows_steady world rest ⟨frame, .reply request⟩ ?_ ?_
          · intro other origin
            cases origin
            exact answers
          · simp [inFlight, repliesOnWire, arrivals, due, Arrival.request?]
      · exact steady_same world

theorem server_answers_silent : ∀ output ∈ (serverAnswers world frame).2, output.silent = true := by
  unfold serverAnswers
  split
  · simp
  · split <;> simp

theorem server_sends_steady : Steady world (serverSends world frame).1 := by
  unfold serverSends
  split
  · refine wire_grows_steady world world.server ⟨frame, .other⟩ ?_ ?_
    · intro other origin
      cases origin
    · simp [inFlight, repliesOnWire, arrivals, Arrival.request?]
  · exact steady_same world

theorem server_sends_silent : ∀ output ∈ (serverSends world frame).2, output.silent = true := by
  unfold serverSends
  split <;> simp

theorem worker_top_steady : Steady world (workerTop world).1 := by
  unfold workerTop
  split
  · next due =>
      refine steady_alive world world.client .top _ due rfl rfl id ?_ ?_
      · split <;> rfl
      · split <;> rfl
  · exact steady_same world

theorem worker_top_silent : ∀ output ∈ (workerTop world).2, output.silent = true := by
  unfold workerTop
  split <;> simp

theorem worker_calls_steady : Steady world (workerCalls world).1 := by
  unfold workerCalls
  split
  · next event due => exact steady_alive world world.client _ .top due rfl rfl id rfl rfl
  · exact steady_same world

theorem worker_calls_silent : ∀ output ∈ (workerCalls world).2, output.silent = true := by
  unfold workerCalls
  split
  · simp only
    split <;> simp [Event.silent]
  · simp

theorem worker_queues_steady : Steady world (workerQueues world).1 := by
  unfold workerQueues
  split
  · next arrival due => exact steady_alive world _ _ .top due rfl rfl id rfl rfl
  · exact steady_same world

theorem worker_queues_silent : ∀ output ∈ (workerQueues world).2, output.silent = true := by
  unfold workerQueues
  split <;> simp

theorem worker_fails_steady : Steady world (workerFails world).1 := by
  unfold workerFails
  split
  · next code due =>
      refine steady_local world _ .stopped (fail_routes _ code) (fail_runs _ code) ?_ ?_ ?_ ?_ <;> rw [due]
      · rfl
      · rfl
      · exact id
      · exact fun stopped => Worker.noConfusion stopped
  · exact steady_same world

theorem worker_fails_silent : ∀ output ∈ (workerFails world).2, output.silent = true := by
  unfold workerFails
  split <;> simp [Event.silent]

variable (client : BinaryClient)

theorem filter_event_routes (event : VscpEvent) :
    routes (filterEvent client event).1 = routes client ∧ (filterEvent client event).1.running = client.running ∧
      (filterEvent client event).2.holds = [] ∧ (filterEvent client event).2.request = [] := by
  unfold filterEvent
  split
  · split
    · exact ⟨rfl, rfl, rfl, rfl⟩
    · split <;> exact ⟨rfl, rfl, rfl, rfl⟩
  · exact ⟨rfl, rfl, rfl, rfl⟩

variable (clock : Clock) (beyond : ByteMemory.Memory) (written : Except VscpError Unit)

theorem worker_dispatches_steady :
    Steady world (workerDispatches world clock beyond written).1 := by
  unfold workerDispatches
  split
  · next frame acknowledge due =>
      split
      · exact steady_alive world world.client _ _ due rfl rfl id rfl rfl
      · next event _ =>
          obtain ⟨same, running, holds, request⟩ := filter_event_routes world.client event
          refine steady_alive world _ _ _ due rfl same ?_ holds request
          rw [running]
          exact id
  · exact steady_same world

theorem worker_dispatches_silent :
    ∀ output ∈ (workerDispatches world clock beyond written).2, output.silent = true := by
  unfold workerDispatches
  split
  · split
    · simp
    · simp only [dispatchOutputs]
      split <;> simp [Event.silent]
  · simp

variable (received : Received)

theorem worker_receives_steady : Steady world (workerReceives world received).1 := by
  unfold workerReceives
  split
  · next arrival rest due wire =>
      cases running : world.client.running with
      | true =>
          have same : inFlight { world with wire := rest, worker := .processing arrival } = inFlight world := by
            simp [inFlight, repliesOnWire, arrivals, due, wire, Worker.holds, Worker.request]
          refine ⟨rfl, ⟨id, fun _ => Or.inl running, ?_⟩, ?_, rfl, rfl, rfl, rfl, ?_, fun _ => same, ?_, rfl, ?_⟩
          · rw [due]
            exact id
          · exact fun request => absurd rfl request
          · simp only [if_true]
            rw [same]
          · simp only [arrivals, due, wire, Worker.holds, if_true, List.nil_append, List.singleton_append]
            exact id
          · rw [due]
            exact fun stopped => Worker.noConfusion stopped
      | false =>
          refine ⟨rfl, ⟨id, ?_, ?_⟩, ?_, rfl, rfl, rfl, rfl, ?_, ?_, ?_, rfl, fun _ => rfl⟩
          · exact fun holds => absurd rfl holds
          · exact fun alive => Bool.noConfusion alive
          · exact fun request => absurd rfl request
          · simp only [inFlight, repliesOnWire, arrivals, due, wire, Worker.holds, Worker.request, List.nil_append]
            exact ((List.sublist_cons_self arrival rest).filterMap Arrival.request?).append (List.Sublist.refl _)
          · intro listening
            cases listening with
            | inl up => exact absurd (running.symm.trans up) (by decide)
            | inr holds => exact absurd rfl holds
          · intro coded other member
            refine coded other ?_
            rw [arrivals, due, wire]
            exact List.mem_cons_of_mem arrival member
  · next due => refine steady_alive world world.client _ _ due rfl rfl id ?_ ?_ <;> split <;> rfl
  · next due => refine steady_alive world world.client _ _ due rfl rfl id ?_ ?_ <;> split <;> rfl
  · exact steady_same world

theorem worker_receives_silent : ∀ output ∈ (workerReceives world received).2, output.silent = true := by
  unfold workerReceives
  split <;> simp

theorem worker_asks (used : List Nat) (given : Bool) (routing : Routing world used given)
    (pollPending pollSawEvent : Bool) (pollDeadline : Nat) (worker : Worker) (server : List Request)
    (nextPoll pollId nextId : Nat) (there : world.worker ≠ .stopped) (holds : worker.holds = world.worker.holds)
    (alive : worker.alive = true → world.worker.alive = true)
    (tickets : Tickets ((inFlight { world with worker, server }).map Request.id) nextId used)
    (clears : flight { world with worker, server } binaryClearCommand = flight world binaryClearCommand)
    (poll : PollRouting { world with
      client := { world.client with pollPending, pollSawEvent, pollDeadline }
      worker, server, nextPoll, pollId, nextId }) : Routing { world with
        client := { world.client with pollPending, pollSawEvent, pollDeadline }
        worker, server, nextPoll, pollId, nextId } used given := by
  have onward : Onward world { world with
      client := { world.client with pollPending, pollSawEvent, pollDeadline }
      worker, server, nextPoll, pollId, nextId } := by
    refine ⟨fun up => up, ?_, alive⟩
    rw [holds]
    exact Or.inr
  refine ⟨tickets, ?_, ?_, ?_, poll, ?_⟩
  · rw [arrivals, holds]
    exact routing.coded
  · refine control_frame world _ _ routing.control rfl rfl rfl rfl rfl (fun up => up) ?_ routing.control.exclusive ?_
    · exact fun _ _ member => clears ▸ member
    · exact fun sending => (routing.control.sending sending).2
  · exact raw_frame world _ _ routing.raw onward rfl rfl rfl (fun _ => clears)
  · exact fun off => absurd (routing.down off).2.1 there

theorem in_flight_worker : inFlight world =
    (repliesOnWire world ++ (world.server ++ (world.control.request ++ world.sender.request))) ++
      world.worker.request := by
  simp only [inFlight, List.append_assoc]

theorem poll_issued (used : List Nat) (given : Bool) (routing : Routing world used given) (due : world.worker = .turn)
    (on : world.client.polling = true) (idle : world.client.pollPending = false)
    (waits : world.client.rawPending binaryRetrCommand = []) (now later : Nat) : Routing { world with
      client := { world.client with pollPending := true, pollSawEvent := false, pollDeadline := later }
      worker := .pollSend world.nextId
      nextPoll := now
      pollId := world.nextId
      nextId := world.nextId + 1 } used given := by
  have alive : world.worker.alive = true := by rw [due]; rfl
  have before := in_flight_worker world
  have split : inFlight { world with worker := .pollSend world.nextId } =
      (repliesOnWire world ++ (world.server ++ (world.control.request ++ world.sender.request))) ++
        [⟨world.nextId, binaryRetrCommand⟩] := by
    rw [in_flight_worker]
    simp only [repliesOnWire, arrivals, due, Worker.holds, Worker.request]
  rw [due, show Worker.turn.request = [] from rfl] at before
  refine worker_asks world used given routing true false later (.pollSend world.nextId) world.server now world.nextId
    (world.nextId + 1) (by rw [due]; exact Worker.noConfusion) (by rw [due]; rfl) (fun _ => alive) ?_ ?_ ?_
  · have tickets := routing.tickets
    rw [before, List.map_append] at tickets
    rw [split, List.map_append]
    exact Tickets.issue _ _ _ _ tickets List.perm_middle
  · rw [flight, flight, split, before, ids_of_append, ids_of_append _ _ [], ids_of_other _ _ _ codes_differ.symm]
  · refine ⟨fun _ => ⟨on, waits⟩, ?_, fun _ pending => Bool.noConfusion pending, fun _ => rfl⟩
    intro _ _ listening id member
    have up : world.client.running = true := listening.resolve_right fun holds => holds rfl
    have empty : flight world binaryRetrCommand = [] := by
      cases routing.poll.rawRetr on idle alive (Or.inl up) with
      | inl quiet => exact absurd (up.symm.trans quiet.1) (by decide)
      | inr equal => rw [equal, rawIds, waits]; rfl
    rw [flight, before, List.append_nil] at empty
    change id ∈ flight { world with worker := .pollSend world.nextId } binaryRetrCommand at member
    rw [flight, split, ids_of_append, empty, ids_of_same] at member
    exact List.mem_singleton.mp member

theorem worker_turn_kept (routing : Routing world (routedIds past) (gaveUp past)) : Kept past (workerTurn world) := by
  unfold workerTurn
  split
  · next due =>
      have turns (worker : Worker) (holds : worker.holds = []) (request : worker.request = []) :
          Steady world { world with worker } :=
        steady_alive world world.client .turn worker due rfl rfl id holds request
      simp only
      split
      · exact kept_steady world past _ (by simp) routing (turns _ rfl rfl)
      · split
        · next issues =>
            obtain ⟨on, idle, _, waits⟩ := issues
            exact kept_silent past _ (by simp)
              (poll_issued world _ _ routing due on (Bool.eq_false_iff.mpr idle) waits _ _)
        · exact kept_steady world past _ (by simp) routing (turns _ rfl rfl)
  · exact kept_same world past routing

theorem poll_sent (used : List Nat) (given : Bool) (routing : Routing world used given) (id : Nat)
    (due : world.worker = .pollSend id) : Routing { world with
      worker := .reading, server := world.server ++ [⟨id, binaryRetrCommand⟩] } used given := by
  have alive : world.worker.alive = true := by rw [due]; rfl
  have before : inFlight world = ((repliesOnWire world ++ world.server) ++
      (world.control.request ++ world.sender.request)) ++ ⟨id, binaryRetrCommand⟩ :: [] := by
    simp only [inFlight, due, Worker.request, List.append_assoc]
  have split : inFlight { world with worker := .reading, server := world.server ++ [⟨id, binaryRetrCommand⟩] } =
      (repliesOnWire world ++ world.server) ++
        ⟨id, binaryRetrCommand⟩ :: (world.control.request ++ world.sender.request) := by
    simp only [inFlight, repliesOnWire, arrivals, due, Worker.holds, Worker.request, List.append_assoc,
      List.append_nil, List.singleton_append]
  have perm : (inFlight { world with
      worker := .reading, server := world.server ++ [⟨id, binaryRetrCommand⟩] }).Perm (inFlight world) := by
    rw [before, split]
    refine List.perm_middle.trans (List.Perm.trans ?_ List.perm_middle.symm)
    rw [List.append_nil]
  have pending : world.client.pollPending = true := routing.poll.polls (by rw [due]; exact List.cons_ne_nil _ _)
  refine worker_asks world used given routing world.client.pollPending world.client.pollSawEvent
    world.client.pollDeadline .reading (world.server ++ [⟨id, binaryRetrCommand⟩]) world.nextPoll world.pollId
    world.nextId (by rw [due]; exact Worker.noConfusion) (by rw [due]; rfl) (fun _ => alive) ?_ ?_ ?_
  · exact Tickets.lose _ _ _ _ routing.tickets (perm.map Request.id).subperm
  · rw [flight, flight, split, before, ids_of_append, ids_of_append _ _ [_], ids_of_append _ _ (_ ++ _),
      ids_of_other _ _ _ codes_differ.symm, ids_of_other _ _ _ codes_differ.symm, List.append_assoc]
    exact congrArg _ (List.append_nil _).symm
  · refine ⟨routing.poll.pollOn, ?_, fun _ free => absurd (pending.symm.trans free) (by decide),
      fun asks => absurd rfl asks⟩
    intro _ _ listening other member
    have up : world.client.running = true := listening.resolve_right fun holds => holds rfl
    exact routing.poll.pollAwaited pending alive (Or.inl up) other (((perm.filter _).map Request.id).mem_iff.mp member)

theorem poll_failed (used : List Nat) (given : Bool) (routing : Routing world used given) (id : Nat) (code : Int)
    (due : world.worker = .pollSend id) : Routing { world with worker := .failing code } used given := by
  have before := in_flight_worker world
  have split : inFlight { world with worker := .failing code } =
      (repliesOnWire world ++ (world.server ++ (world.control.request ++ world.sender.request))) ++ [] := by
    rw [in_flight_worker]
    simp only [repliesOnWire, arrivals, due, Worker.holds, Worker.request]
  rw [due, Worker.request] at before
  refine worker_asks world used given routing world.client.pollPending world.client.pollSawEvent
    world.client.pollDeadline (.failing code) world.server world.nextPoll world.pollId world.nextId
    (by rw [due]; exact Worker.noConfusion) (by rw [due]; rfl) (fun alive => Bool.noConfusion alive) ?_ ?_ ?_
  · refine Tickets.lose _ _ _ _ routing.tickets (List.Sublist.map Request.id ?_).subperm
    rw [split, before]
    exact (List.Sublist.refl _).append (List.nil_sublist _)
  · rw [flight, flight, split, before, ids_of_append, ids_of_append _ _ [_], ids_of_other _ _ _ codes_differ.symm]
  · exact ⟨routing.poll.pollOn, fun _ alive => Bool.noConfusion alive, fun _ _ alive => Bool.noConfusion alive,
      fun asks => absurd rfl asks⟩

theorem worker_polls_kept (routing : Routing world (routedIds past) (gaveUp past)) :
    Kept past (workerPolls world written) := by
  unfold workerPolls
  split
  · next id _ due => exact kept_silent past _ (by simp) (poll_sent world _ _ routing id due)
  · next id code due => exact kept_silent past _ (by simp) (poll_failed world _ _ routing id code.code due)
  · exact kept_same world past routing

-- What a valid reply does: it is taken by the poll, by the thread in binaryCommand, by the
-- oldest raw command of its code, or it answers nothing the client waits for.
inductive Takes (client : BinaryClient) (pollId controlId : Nat) (arrival : Arrival) (code : UInt16) :
    BinaryClient × Next × List Event → Prop
  | poll (next : Next) (pending : client.pollPending = true) (asked : code = binaryRetrCommand) :
      Takes client pollId controlId arrival code
        ({ client with pollPending := false }, next, [.routed (.poll pollId) arrival])
  | control (events : List VscpEventEx) (outputs : List Event) (pending : client.controlPending = true)
      (waits : client.controlComplete = false) (asked : code = client.controlCode)
      (silent : ∀ output ∈ outputs, output.silent = true) :
      Takes client pollId controlId arrival code
        ({ client with events, controlReply := arrival, controlComplete := true }, .finished,
          .routed (.control controlId) arrival :: outputs)
  | misfit (failure : Int) (pending : client.controlPending = true) (asked : code = client.controlCode) :
      Takes client pollId controlId arrival code (client, .failed failure, [])
  | raw (oldest : Pending) (rest : List Pending) (waits : client.rawPending code = oldest :: rest) :
      Takes client pollId controlId arrival code
        (setPending client code rest, .queue arrival, [.routed (.raw oldest.id) arrival])
  | nobody (next : Next) (unheard : ¬ awaits client code) : Takes client pollId controlId arrival code (client, next, [])

theorem valid_reply_takes (pollId controlId : Nat) (arrival : Arrival) (code error : UInt16)
    (reply : binaryReply arrival.frame = some (code, error)) :
    Takes client pollId controlId arrival code (processBinaryFrame client pollId controlId arrival) := by
  obtain ⟨some_bytes, no_event, is_reply, same⟩ := valid_reply_frame _ _ _ reply
  rw [processBinaryFrame, if_neg some_bytes, if_neg (by rw [no_event]; decide), if_pos is_reply]
  unfold processReply
  simp only [same, reply, Option.isSome_some, if_true]
  split
  · next polls => exact .poll _ polls.1 polls.2
  · next noPoll =>
      split
      · next controls =>
          obtain ⟨pending, waits, asked⟩ := controls
          split
          · exact .misfit _ pending asked
          · refine .control _ _ pending (Bool.eq_false_iff.mpr waits) asked ?_
            split <;> simp [Event.silent]
      · next noControl =>
          cases raw : client.rawPending code with
          | cons oldest rest => exact .raw oldest rest raw
          | nil =>
              have unheard : ¬ awaits client code := by
                intro heard
                obtain polls | controls | waits := heard
                · exact noPoll polls
                · exact noControl controls
                · exact waits raw
              simp only
              split
              · split <;> exact .nobody _ unheard
              · exact .nobody _ unheard

-- A frame that is no valid reply fails the poll at most; so does a valid one nobody waits for.
theorem other_frame_routes (pollId controlId : Nat) (arrival : Arrival)
    (unheard : (binaryReply arrival.frame).isSome = true → ¬ awaits client (binaryRead16 arrival.frame 1)) :
    let result := processBinaryFrame client pollId controlId arrival
    result.2.2 = [] ∧ ((routes result.1 = routes client ∧ result.1.running = client.running) ∨
      (result.1 = { client with pollPending := false } ∧ ∃ code, result.2.1 = .failed code)) := by
  cases reply : binaryReply arrival.frame with
  | some valid =>
      obtain ⟨code, error⟩ := valid
      have none_waits : ¬ awaits client code := by
        rw [← (valid_reply_frame _ _ _ reply).2.2.2]
        exact unheard (by rw [reply]; rfl)
      have takes := valid_reply_takes client pollId controlId arrival code error reply
      simp only
      generalize processBinaryFrame client pollId controlId arrival = result at takes
      cases takes with
      | poll _ pending asked => exact absurd (Or.inl ⟨pending, asked⟩) none_waits
      | control _ _ pending waits asked _ =>
          exact absurd (Or.inr (Or.inl ⟨pending, Bool.eq_false_iff.mp waits, asked⟩)) none_waits
      | misfit failure pending asked => exact ⟨rfl, Or.inl ⟨rfl, rfl⟩⟩
      | raw oldest rest waits =>
          exact absurd (Or.inr (Or.inr (by rw [waits]; exact List.cons_ne_nil _ _))) none_waits
      | nobody _ _ => exact ⟨rfl, Or.inl ⟨rfl, rfl⟩⟩
  | none =>
      simp only
      unfold processBinaryFrame
      split
      · exact ⟨rfl, Or.inl ⟨rfl, rfl⟩⟩
      · split
        · refine ⟨rfl, Or.inl ⟨?_, ?_⟩⟩ <;> split <;> rfl
        · split
          · unfold processReply
            simp only [reply, Option.isSome_none, Bool.false_eq_true, if_false]
            split
            · exact ⟨rfl, Or.inr ⟨rfl, _, by rw [pollNext, reply]⟩⟩
            · split
              · exact ⟨rfl, Or.inl ⟨rfl, rfl⟩⟩
              · split <;> exact ⟨rfl, Or.inl ⟨rfl, rfl⟩⟩
          · exact ⟨rfl, Or.inl ⟨rfl, rfl⟩⟩

theorem after_frame_rests (next : Next) :
    (afterFrame next).holds = [] ∧ (afterFrame next).request = [] ∧ afterFrame next ≠ .stopped := by
  cases next <;> exact ⟨rfl, rfl, by simp [afterFrame]⟩

structure Consumed (world next : World) (request : Request) : Prop where
  flights : inFlight world = request :: inFlight next
  onward : Onward world next
  alive : world.worker.alive = true
  heard : Listening world
  resting : next.worker.request = []
  control : next.control = world.control
  sender : next.sender = world.sender
  nextId : next.nextId = world.nextId
  pollId : next.pollId = world.pollId
  coded : ∀ arrival ∈ arrivals next, arrival ∈ arrivals world
  up : next.connected = world.connected
  works : world.worker ≠ .stopped

section consumed

variable {world next : World} {request : Request} {used : List Nat} {given : Bool}

theorem consumed_flight (consumed : Consumed world next request) :
    flight world request.code = request.id :: flight next request.code := by
  rw [flight, consumed.flights]
  exact ids_of_same _ _ _

theorem consumed_other (consumed : Consumed world next request) (code : UInt16) (other : request.code ≠ code) :
    flight next code = flight world code := by
  rw [flight, flight, consumed.flights, ids_of_other _ _ _ other]

theorem consumed_fewer (consumed : Consumed world next request) (code : UInt16) (id : Nat) (member : id ∈ flight next code) :
    id ∈ flight world code := by
  have fewer : (inFlight next).Sublist (inFlight world) := by
    rw [consumed.flights]
    exact List.sublist_cons_self _ _
  exact (ids_of_fewer _ _ _ fewer).subset member

theorem consumed_only (routing : Routing world used given)
    (consumed : Consumed world next request) (code : UInt16) : request.id ∉ flight next code := by
  have distinct := routing.tickets.distinct
  rw [consumed.flights] at distinct
  exact fun member => (List.nodup_cons.mp distinct).1 ((ids_of_sublist _ _).subset member)

theorem consumed_lost (routing : Routing world used given)
    (consumed : Consumed world next request) : Tickets ((inFlight next).map Request.id) next.nextId used := by
  have tickets := routing.tickets
  rw [consumed.flights] at tickets
  rw [consumed.nextId]
  exact Tickets.lose _ _ _ _ tickets (List.sublist_cons_self _ _).subperm

theorem consumed_used (routing : Routing world used given)
    (consumed : Consumed world next request) :
    request.id ∉ used ∧ Tickets ((inFlight next).map Request.id) next.nextId (used ++ [request.id]) := by
  have tickets := routing.tickets
  rw [consumed.flights] at tickets
  rw [consumed.nextId]
  exact ⟨tickets.unused _ List.mem_cons_self, Tickets.use _ _ _ _ tickets⟩

theorem consumed_down (routing : Routing world used given)
    (consumed : Consumed world next request) :
    next.connected = false → next.client.running = false ∧ next.worker = .stopped ∧ commandFree next = true := by
  intro off
  rw [consumed.up] at off
  exact absurd (routing.down off).2.1 consumed.works

theorem consumed_aligned (consumed : Consumed world next request) (code : UInt16)
    (same : next.client.rawPending code = world.client.rawPending code)
    (unheard : request.code = code → world.client.rawPending code = []) (was : Aligned world code) : Aligned next code := by
  by_cases mine : request.code = code
  · have empty := unheard mine
    cases was with
    | inl quiet => exact Or.inl ⟨stopped_onward world next consumed.onward quiet.1, same.trans empty⟩
    | inr equal =>
        have head := consumed_flight consumed
        rw [mine, equal, rawIds, empty] at head
        exact absurd head.symm (List.cons_ne_nil _ _)
  · exact aligned_onward world next code consumed.onward same (consumed_other consumed code mine) was

theorem consumed_control (routing : Routing world used given) (consumed : Consumed world next request)
    (pending : next.client.controlPending = world.client.controlPending)
    (complete : next.client.controlComplete = world.client.controlComplete)
    (code : next.client.controlCode = world.client.controlCode)
    (reply : next.client.controlReply = world.client.controlReply)
    (exclusive : world.client.controlPending = true → next.client.rawPending binaryClearCommand = []) :
    ControlRouting next given := by
  refine control_frame world next given routing.control consumed.control pending complete code reply
    consumed.onward.running (fun _ => consumed_fewer consumed binaryClearCommand) exclusive ?_
  rw [consumed.sender]
  exact fun sending => (routing.control.sending sending).2

end consumed

variable (next : World) (request : Request) (used : List Nat) (given : Bool)

theorem consumed_by_nobody (routing : Routing world used given) (consumed : Consumed world next request)
    (client : next.client = world.client)
    (unheard : (¬ awaits world.client request.code) ∨
      (world.client.controlPending = true ∧ request.code = binaryClearCommand ∧ next.worker.alive = false)) :
    Routing next used given := by
  have coded := fun arrival member => routing.coded arrival (consumed.coded arrival member)
  have control : ControlRouting next given := by
    refine consumed_control routing consumed ?_ ?_ ?_ ?_ ?_ <;> rw [client]
    exact routing.control.exclusive
  have aligned (code : UInt16) (silent : ¬ awaits world.client request.code) (was : Aligned world code) : Aligned next code := by
    refine consumed_aligned consumed code (by rw [client]) ?_ was
    intro mine
    rw [mine] at silent
    exact Decidable.not_not.mp (fun waits => silent (Or.inr (Or.inr waits)))
  refine ⟨consumed_lost routing consumed, coded, control, ⟨?_, ?_⟩, ⟨?_, ?_, ?_, ?_⟩,
    consumed_down routing consumed⟩
  · rw [client]
    exact routing.raw.tracks
  · intro fresh free _
    rw [client] at free
    cases unheard with
    | inl silent => exact aligned _ silent (routing.raw.rawClear fresh free consumed.heard)
    | inr controls => exact absurd (controls.1.symm.trans free) (by decide)
  · rw [client]
    exact routing.poll.pollOn
  · intro pending _ _ id member
    rw [client] at pending
    rw [consumed.pollId]
    exact routing.poll.pollAwaited pending consumed.alive consumed.heard id
      (consumed_fewer consumed _ id member)
  · intro on free alive _
    rw [client] at on free
    cases unheard with
    | inl silent => exact aligned _ silent (routing.poll.rawRetr on free consumed.alive consumed.heard)
    | inr controls => exact absurd (controls.2.2.symm.trans alive) (by decide)
  · rw [consumed.resting]
    exact fun asks => absurd rfl asks

theorem consumed_by_poll (routing : Routing world used given) (consumed : Consumed world next request)
    (client : next.client = { world.client with pollPending := false }) (pending : world.client.pollPending = true)
    (asked : request.code = binaryRetrCommand) :
    request.id = world.pollId ∧ Routing next (used ++ [request.id]) given := by
  have awaited := routing.poll.pollAwaited pending consumed.alive consumed.heard
  obtain ⟨on, none_waits⟩ := routing.poll.pollOn pending
  have head := consumed_flight consumed
  rw [asked] at head
  have own : request.id = world.pollId := by
    refine awaited request.id ?_
    rw [head]
    exact List.mem_cons_self
  have empty : flight next binaryRetrCommand = [] := by
    refine List.eq_nil_iff_forall_not_mem.mpr (fun id member => ?_)
    have same := awaited id (consumed_fewer consumed _ id member)
    rw [same, ← own] at member
    exact consumed_only routing consumed _ member
  have control : ControlRouting next given := by
    refine consumed_control routing consumed ?_ ?_ ?_ ?_ ?_ <;> rw [client]
    exact routing.control.exclusive
  refine ⟨own, (consumed_used routing consumed).2,
    fun arrival member => routing.coded arrival (consumed.coded arrival member), control, ?_, ⟨?_, ?_, ?_, ?_⟩,
    consumed_down routing consumed⟩
  · refine raw_frame world next given routing.raw consumed.onward ?_ ?_ ?_ (fun _ => ?_)
    · rw [client]
    · rw [client]
    · rw [client]
    · exact consumed_other consumed _ (by rw [asked]; exact codes_differ.symm)
  · rw [client]
    exact fun off => Bool.noConfusion off
  · rw [client]
    exact fun off => Bool.noConfusion off
  · intro _ _ _ _
    refine flight_empty_aligned next _ empty ?_
    rw [client]
    exact none_waits
  · rw [consumed.resting]
    exact fun asks => absurd rfl asks

theorem consumed_by_control (routing : Routing world used given) (consumed : Consumed world next request)
    (arrival : Arrival) (events : List VscpEventEx) (origin : arrival.origin = .reply request)
    (client : next.client = { world.client with events, controlReply := arrival, controlComplete := true })
    (pending : world.client.controlPending = true) (asked : request.code = binaryClearCommand) :
    request.id = world.control.id ∧ Routing next (used ++ [request.id]) given := by
  have awaited := routing.control.awaited pending
  have head := consumed_flight consumed
  rw [asked] at head
  obtain ⟨own, sent, _⟩ := awaited request.id (by rw [head]; exact List.mem_cons_self)
  have retr : flight next binaryRetrCommand = flight world binaryRetrCommand :=
    consumed_other consumed _ (by rw [asked]; exact codes_differ)
  have same : arrival.origin = .reply ⟨world.control.id, binaryClearCommand⟩ := by
    rw [origin, ← own, ← asked]
  refine ⟨own, (consumed_used routing consumed).2,
    fun other member => routing.coded other (consumed.coded other member), ?_, ⟨?_, ?_⟩, ?_,
    consumed_down routing consumed⟩
  · refine ⟨?_, ?_, ?_, ?_, ?_, ?_, ?_⟩
    · rw [client, consumed.control]
      exact routing.control.owner
    · intro _ id member
      have mine := (awaited id (consumed_fewer consumed _ id member)).1
      rw [mine, ← own] at member
      exact absurd member (consumed_only routing consumed _)
    · rw [client]
      exact routing.control.exclusive
    · rw [client, consumed.control]
      exact fun _ _ => same
    · rw [client, consumed.control, consumed.sender]
      exact routing.control.sending
    · rw [consumed.control]
      exact routing.control.failing
    · rw [consumed.control]
      exact fun spent up => routing.control.gone spent (consumed.onward.running up)
  · rw [client]
    exact routing.raw.tracks
  · rw [client]
    exact fun _ free => absurd (pending.symm.trans free) (by decide)
  · refine poll_frame world next routing.poll consumed.onward ?_ ?_ ?_ consumed.pollId ?_ (fun _ => retr)
    · rw [client]
    · rw [client]
    · rw [client]
    · rw [consumed.resting]
      exact fun asks => absurd rfl asks

theorem consumed_by_raw (routing : Routing world used given) (consumed : Consumed world next request)
    (oldest : Pending) (rest : List Pending) (waits : world.client.rawPending request.code = oldest :: rest)
    (client : next.client = setPending world.client request.code rest) :
    (given = false → request.id = oldest.id) ∧ Routing next (used ++ [request.id]) given := by
  have some_wait : world.client.rawPending request.code ≠ [] := by
    rw [waits]
    exact List.cons_ne_nil _ _
  have own (was : Aligned world request.code) : request.id = oldest.id ∧ flight next request.code = rest.map Pending.id := by
    cases was with
    | inl quiet => exact absurd quiet.2 some_wait
    | inr equal =>
        rw [consumed_flight consumed, rawIds, waits] at equal
        exact List.cons_eq_cons.mp equal
  have popped : next.client.rawPending request.code = rest := by
    rw [client]
    exact if_pos rfl
  have pendings (code : UInt16) (other : request.code ≠ code) : next.client.rawPending code = world.client.rawPending code := by
    rw [client]
    exact if_neg other.symm
  have aligned (code : UInt16) (was : Aligned world code) : Aligned next code := by
    by_cases mine : request.code = code
    · rw [← mine] at was ⊢
      exact Or.inr (by rw [(own was).2, rawIds, popped])
    · exact aligned_onward world next code consumed.onward (pendings code mine)
        (consumed_other consumed code mine) was
  have known := routing.raw.tracks request.code some_wait
  have notControl (pending : world.client.controlPending = true) : request.code ≠ binaryClearCommand := by
    intro clears
    rw [clears] at some_wait
    exact some_wait (routing.control.exclusive pending)
  have notPoll (pending : world.client.pollPending = true) : request.code ≠ binaryRetrCommand := by
    intro retrieves
    rw [retrieves] at some_wait
    exact some_wait (routing.poll.pollOn pending).2
  refine ⟨fun fresh => ?_, (consumed_used routing consumed).2,
    fun other member => routing.coded other (consumed.coded other member), ?_, ⟨?_, ?_⟩, ⟨?_, ?_, ?_, ?_⟩,
    consumed_down routing consumed⟩
  · cases known with
    | inl clears =>
        have free : world.client.controlPending = false := Bool.eq_false_iff.mpr (fun pending => notControl pending clears)
        refine (own ?_).1
        rw [clears]
        exact routing.raw.rawClear fresh free consumed.heard
    | inr retrieves =>
        have free : world.client.pollPending = false := Bool.eq_false_iff.mpr (fun pending => notPoll pending retrieves.2)
        refine (own ?_).1
        rw [retrieves.2]
        exact routing.poll.rawRetr retrieves.1 free consumed.alive consumed.heard
  · refine consumed_control routing consumed ?_ ?_ ?_ ?_ ?_
    · rw [client]
      rfl
    · rw [client]
      rfl
    · rw [client]
      rfl
    · rw [client]
      rfl
    · intro pending
      rw [pendings _ (notControl pending)]
      exact routing.control.exclusive pending
  · intro code waiting
    have polling : next.client.polling = world.client.polling := by
      rw [client]
      rfl
    rw [polling]
    by_cases mine : request.code = code
    · rw [← mine]
      exact known
    · rw [pendings code mine] at waiting
      exact routing.raw.tracks code waiting
  · intro fresh free _
    rw [client] at free
    exact aligned _ (routing.raw.rawClear fresh free consumed.heard)
  · intro pending
    rw [client] at pending
    rw [pendings _ (notPoll pending), client]
    exact routing.poll.pollOn pending
  · intro pending _ _ id member
    rw [client] at pending
    rw [consumed.pollId]
    exact routing.poll.pollAwaited pending consumed.alive consumed.heard id
      (consumed_fewer consumed _ id member)
  · intro on free _ _
    rw [client] at on free
    exact aligned _ (routing.poll.rawRetr on free consumed.alive consumed.heard)
  · rw [consumed.resting]
    exact fun asks => absurd rfl asks

theorem kept_routed (waiter : Waiter) (arrival : Arrival) (outputs : List Event) (origin : arrival.origin = .reply request)
    (unused : request.id ∉ routedIds past) (owns : waiter.Owns past request)
    (silent : ∀ output ∈ outputs, output.silent = true)
    (routing : Routing next (routedIds past ++ [request.id]) (gaveUp past)) :
    Kept past (next, .routed waiter arrival :: outputs) := by
  have routed : routedIds (past ++ [.routed waiter arrival]) = routedIds past ++ [request.id] := by
    rw [routed_ids_append]
    simp [routedIds, Arrival.request?, origin]
  have given : gaveUp (past ++ [.routed waiter arrival]) = gaveUp past := by
    rw [gaveUp, List.foldl_append]
    rfl
  have books := plain_books (past ++ [.routed waiter arrival]) outputs
    (fun output member => plain_of_silent output (silent output member))
  refine ⟨⟨⟨request, origin, unused, owns⟩, sound_silent _ outputs silent⟩, ?_⟩
  simp only
  rw [← List.singleton_append, ← List.append_assoc, books.1, books.2, routed, given]
  exact routing

section processed

variable (arrival : Arrival) (due : world.worker = .processing arrival)
include due

theorem processed_flights (client : BinaryClient) (after : Next) :
    inFlight world = arrival.request?.toList ++ inFlight { world with client, worker := afterFrame after } := by
  obtain ⟨holds, resting, _⟩ := after_frame_rests after
  simp only [inFlight, repliesOnWire, arrivals, due]
  rw [holds, resting]
  cases origin : arrival.request? <;> simp [Worker.holds, Worker.request, origin]

theorem processed_fewer (client : BinaryClient) (after : Next) (other : Arrival)
    (member : other ∈ arrivals { world with client, worker := afterFrame after }) : other ∈ arrivals world := by
  simp only [arrivals, (after_frame_rests after).1] at member
  rw [arrivals, due]
  exact List.mem_cons_of_mem _ member

theorem processing_alive : world.worker.alive = true := by
  rw [due]
  rfl

theorem processing_works : world.worker ≠ .stopped := by
  rw [due]
  exact Worker.noConfusion

theorem processed_onward (client : BinaryClient) (after : Next) (running : client.running = world.client.running) :
    Onward world { world with client, worker := afterFrame after } :=
  ⟨fun up => running.symm.trans up, fun holds => absurd (after_frame_rests after).1 holds,
    fun _ => processing_alive world arrival due⟩

theorem processed_consumed (request : Request) (origin : arrival.origin = .reply request) (client : BinaryClient)
    (after : Next) (running : client.running = world.client.running) :
    Consumed world { world with client, worker := afterFrame after } request := by
  refine ⟨?_, processed_onward world arrival due client after running, processing_alive world arrival due, ?_,
    (after_frame_rests after).2.1, rfl, rfl, rfl, rfl, processed_fewer world arrival due client after, rfl,
    processing_works world arrival due⟩
  · rw [processed_flights world arrival due client after, Arrival.request?, origin]
    rfl
  · refine Or.inr ?_
    rw [due]
    exact List.cons_ne_nil _ _

theorem processed_no_reply (origin : arrival.origin = .other) (client : BinaryClient) (after : Next) :
    inFlight { world with client, worker := afterFrame after } = inFlight world := by
  rw [processed_flights world arrival due client after, Arrival.request?, origin]
  rfl

theorem poll_given_up (used : List Nat) (given : Bool) (routing : Routing world used given)
    (origin : arrival.origin = .other) (code : Int) : Routing { world with
      client := { world.client with pollPending := false }, worker := afterFrame (.failed code) } used given := by
  have same := processed_no_reply world arrival due origin { world.client with pollPending := false } (.failed code)
  have goes := processed_onward world arrival due { world.client with pollPending := false } (.failed code) rfl
  refine ⟨?_, ?_, ?_, ?_, ?_, fun off => absurd (routing.down off).2.1 (processing_works world arrival due)⟩
  · rw [same]
    exact routing.tickets
  · exact fun other member => routing.coded other (processed_fewer world arrival due _ _ other member)
  · refine control_frame world _ _ routing.control rfl rfl rfl rfl rfl (fun up => up) ?_ routing.control.exclusive ?_
    · intro _ id member
      rw [flight, same] at member
      exact member
    · exact fun sending => (routing.control.sending sending).2
  · refine raw_frame world _ _ routing.raw goes rfl rfl rfl (fun _ => ?_)
    rw [flight, same]
    rfl
  · refine ⟨?_, ?_, ?_, fun asks => absurd rfl asks⟩
    · exact fun pending => Bool.noConfusion pending
    · exact fun pending => Bool.noConfusion pending
    · exact fun _ _ lives => Bool.noConfusion lives

theorem other_frame_kept (routing : Routing world (routedIds past) (gaveUp past)) (origin : arrival.origin = .other)
    (unheard : (binaryReply arrival.frame).isSome = true → ¬ awaits world.client (binaryRead16 arrival.frame 1)) :
    let result := processBinaryFrame world.client world.pollId world.control.id arrival
    Kept past ({ world with client := result.1, worker := afterFrame result.2.1 }, result.2.2) := by
  obtain ⟨quiet, result⟩ := other_frame_routes world.client world.pollId world.control.id arrival unheard
  generalize processBinaryFrame world.client world.pollId world.control.id arrival = outcome at quiet result
  obtain ⟨client, after, outputs⟩ := outcome
  simp only at quiet result ⊢
  subst quiet
  have same := processed_no_reply world arrival due origin client after
  cases result with
  | inl kept =>
      refine kept_steady world past _ (by simp) routing ⟨kept.1,
        processed_onward world arrival due client after kept.2, ?_, rfl, rfl, rfl, rfl, ?_, fun _ => same, ?_, rfl,
        fun stopped => absurd stopped (processing_works world arrival due)⟩
      · exact fun asks => absurd (after_frame_rests after).2.1 asks
      · rw [same]
      · exact fun coded other member => coded other (processed_fewer world arrival due client after other member)
  | inr failed =>
      obtain ⟨drops, code, fails⟩ := failed
      subst drops fails
      exact kept_silent past _ (by simp) (poll_given_up world arrival due _ _ routing origin code)

theorem reply_frame_kept (routing : Routing world (routedIds past) (gaveUp past)) (request : Request)
    (origin : arrival.origin = .reply request) :
    let result := processBinaryFrame world.client world.pollId world.control.id arrival
    Kept past ({ world with client := result.1, worker := afterFrame result.2.1 }, result.2.2) := by
  have held : arrival ∈ arrivals world := by
    rw [arrivals, due]
    exact List.mem_cons_self
  obtain ⟨valid, reply, code⟩ := Option.map_eq_some_iff.mp (routing.coded arrival held request origin)
  obtain ⟨answers, error⟩ := valid
  simp only at code
  subst code
  have takes := valid_reply_takes world.client world.pollId world.control.id arrival _ error reply
  generalize processBinaryFrame world.client world.pollId world.control.id arrival = outcome at takes
  have consumed := processed_consumed world arrival due request origin
  have unused := (consumed_used routing (consumed world.client .finished rfl)).1
  cases takes with
  | poll after pending asked =>
      obtain ⟨own, next⟩ := consumed_by_poll world _ request _ _ routing
        (consumed { world.client with pollPending := false } after rfl) rfl pending asked
      refine kept_routed past _ request _ arrival [] origin unused ?_ (by simp) next
      rw [Waiter.Owns, ← own, ← asked]
  | control events outputs pending waits asked silent =>
      have clears := asked.trans (routing.control.owner pending).1
      obtain ⟨own, next⟩ := consumed_by_control world _ request _ _ routing
        (consumed { world.client with events, controlReply := arrival, controlComplete := true } .finished rfl)
        arrival events origin rfl pending clears
      refine kept_routed past _ request _ arrival outputs origin unused ?_ silent next
      rw [Waiter.Owns, ← own, ← clears]
  | misfit failure pending asked =>
      have clears := asked.trans (routing.control.owner pending).1
      exact kept_silent past _ (by simp) (consumed_by_nobody world _ request _ _ routing
        (consumed world.client (.failed failure) rfl) rfl (Or.inr ⟨pending, clears, rfl⟩))
  | raw oldest rest waits =>
      obtain ⟨own, next⟩ := consumed_by_raw world _ request _ _ routing
        (consumed (setPending world.client request.code rest) (.queue arrival) rfl) oldest rest waits rfl
      exact kept_routed past _ request _ arrival [] origin unused own (by simp) next
  | nobody after unheard =>
      exact kept_silent past _ (by simp) (consumed_by_nobody world _ request _ _ routing
        (consumed world.client after rfl) rfl (Or.inl unheard))

end processed

theorem worker_processes_kept (routing : Routing world (routedIds past) (gaveUp past))
    (genuine : NoImpostor world .workerProcesses) : Kept past (workerProcesses world) := by
  unfold workerProcesses
  split
  · next arrival due =>
      cases origin : arrival.origin with
      | other => exact other_frame_kept world past arrival due routing origin (genuine arrival due origin)
      | reply request => exact reply_frame_kept world past arrival due routing request origin
  · exact kept_same world past routing

theorem step_kept (input : Step) (routing : Routing world (routedIds past) (gaveUp past)) (genuine : NoImpostor world input) :
    Kept past (step world input) := by
  cases input with
  | tick milliseconds =>
      exact kept_steady world past _ (by simp [step]) routing
        ⟨rfl, onward_same world _ id rfl, id, rfl, rfl, rfl, rfl, List.Sublist.refl _, fun _ => rfl, id, rfl, id⟩
  | clear onWorker => exact clear_kept world past onWorker routing
  | controlSends written => exact control_sends_kept world past written routing
  | controlUnsent disconnected => exact control_unsent_kept world past disconnected routing
  | controlWaits => exact control_waits_kept world past routing
  | controlWakes => exact control_wakes_kept world past routing
  | controlTimesOut => exact control_times_out_kept world past routing
  | controlFails => exact control_fails_kept world past routing
  | sendBinaryFrame frame => exact send_binary_frame_kept world past frame routing
  | rawSends written => exact raw_sends_kept world past written routing
  | receiveBinaryFrame timeout expired =>
      exact kept_steady world past _ (receive_binary_frame_silent world timeout expired) routing
        (receive_binary_frame_steady world timeout expired)
  | receive blocking expired =>
      exact kept_steady world past _ (receive_silent world blocking expired) routing (receive_steady world blocking expired)
  | setfilter filter => exact kept_steady world past _ (by simp [step]) routing (steady_client world _ rfl id)
  | fail code =>
      exact kept_steady world past _ (by simp [step]) routing (steady_client world _ (fail_routes _ code) (fail_runs _ code))
  | disconnect => exact disconnect_kept world past routing
  | close => exact close_kept world past routing
  | connect buffered => exact connect_kept world past buffered routing
  | serverAnswers frame => exact kept_steady world past _ (server_answers_silent world frame) routing (server_answers_steady world frame)
  | serverSends frame => exact kept_steady world past _ (server_sends_silent world frame) routing (server_sends_steady world frame)
  | workerTop => exact kept_steady world past _ (worker_top_silent world) routing (worker_top_steady world)
  | workerTurn => exact worker_turn_kept world past routing
  | workerPolls written => exact worker_polls_kept world past written routing
  | workerReceives received =>
      exact kept_steady world past _ (worker_receives_silent world received) routing (worker_receives_steady world received)
  | workerProcesses => exact worker_processes_kept world past routing genuine
  | workerDispatches clock beyond written =>
      exact kept_steady world past _ (worker_dispatches_silent world clock beyond written) routing
        (worker_dispatches_steady world clock beyond written)
  | workerCalls => exact kept_steady world past _ (worker_calls_silent world) routing (worker_calls_steady world)
  | workerQueues => exact kept_steady world past _ (worker_queues_silent world) routing (worker_queues_steady world)
  | workerFails => exact kept_steady world past _ (worker_fails_silent world) routing (worker_fails_steady world)

theorem initial_routing (polling : Bool) (filterIn : VscpEventFilter) (callbackEv callbackEx : Bool)
    (responseTimeout : Nat) : Routing (initial polling filterIn callbackEv callbackEx responseTimeout) [] false := by
  refine ⟨Tickets.none_out _ _ (by simp), ?_, ?_, ?_, ?_, fun _ => ⟨rfl, rfl, rfl⟩⟩
  · exact fun arrival member => absurd member List.not_mem_nil
  · refine ⟨?_, ?_, ?_, ?_, ?_, ?_, ?_⟩
    · exact fun pending => Bool.noConfusion pending
    · exact fun pending => Bool.noConfusion pending
    · exact fun pending => Bool.noConfusion pending
    · exact fun complete => Bool.noConfusion complete
    · exact fun sending => Bool.noConfusion sending
    · exact fun _ _ failing => Control.noConfusion failing
    · exact fun spent => Bool.noConfusion spent
  · exact ⟨fun _ waits => absurd rfl waits, fun _ _ _ => Or.inr rfl⟩
  · refine ⟨?_, ?_, fun _ _ _ _ => Or.inr rfl, fun asks => absurd rfl asks⟩
    · exact fun pending => Bool.noConfusion pending
    · exact fun pending => Bool.noConfusion pending

-- Whoever is given a reply asked for it: the thread in binaryCommand, the poll and, as
-- long as no thread gave up its wait, the raw commands. No reply is given twice.
theorem replies_reach_their_commands (polling : Bool) (filterIn : VscpEventFilter) (callbackEv callbackEx : Bool)
    (responseTimeout : Nat) (steps : List Step)
    (genuine : Run.Meets step NoImpostor (initial polling filterIn callbackEv callbackEx responseTimeout) steps) :
    Run.Sound FairRouting [] (Run.run step (initial polling filterIn callbackEv callbackEx responseTimeout) steps).2 :=
  (Run.run_keeps step NoImpostor FairRouting (fun world past => Routing world (routedIds past) (gaveUp past))
    (fun world past input routing allowed => step_kept world past input routing allowed) _ [] steps
    (initial_routing polling filterIn callbackEv callbackEx responseTimeout) genuine).1

def clearReply : Bytes := replyFrame binaryClearCommand 0 none 0

def clearSteps (arrives : Step) : List Step :=
  [.connect [], .clear false, .controlSends (.ok ()), .controlWaits, arrives, .workerTop, .workerTurn,
    .workerReceives .frame, .workerProcesses, .controlWakes]

theorem replies_reach_their_commands_example :
    Run.Sound FairRouting [] (Run.run step (initial false clearVSCPFilter false false 100) (clearSteps (.serverAnswers clearReply))).2 ∧
      Event.commandDone 0 0 (some ⟨clearReply, .reply ⟨0, binaryClearCommand⟩⟩) ∈
        (Run.run step (initial false clearVSCPFilter false false 100) (clearSteps (.serverAnswers clearReply))).2 := by
  refine ⟨replies_reach_their_commands false clearVSCPFilter false false 100 _
    ⟨trivial, trivial, trivial, trivial, trivial, trivial, trivial, trivial, ?_, trivial, trivial⟩, by decide⟩
  intro arrival due origin
  have held : (Run.run step (initial false clearVSCPFilter false false 100)
      ((clearSteps (.serverAnswers clearReply)).take 8)).1.worker =
      .processing ⟨clearReply, .reply ⟨0, binaryClearCommand⟩⟩ := by decide
  have same := held.symm.trans due
  cases same
  exact Origin.noConfusion origin

-- An unsolicited reply to CLEAR comes before the one the server still owes.
theorem impostor_answers_clear :
    let result := Run.run step (initial false clearVSCPFilter false false 100) (clearSteps (.serverSends clearReply))
    result.2 = [.dropped [], .routed (.control 0) ⟨clearReply, .other⟩, .cleared [], .commandDone 0 0 (some ⟨clearReply, .other⟩)] ∧
      result.1.server = [⟨0, binaryClearCommand⟩] := by
  decide

end Vscp.BinaryTcp
