import Vscp.Lib.Tickets
import Vscp.BinaryClient

set_option autoImplicit false

namespace Vscp.BinaryTcp

def Arrival.request? (arrival : Arrival) : Option Request :=
  match arrival.origin with
  | .reply request => some request
  | .other => none

def Worker.holds : Worker → List Arrival
  | .processing arrival => [arrival]
  | _ => []

def Control.request : Control → List Request
  | .sending id => [⟨id, binaryClearCommand⟩]
  | _ => []

def Sender.request : Sender → List Request
  | .raw id (some code) => [⟨id, code⟩]
  | _ => []

def Worker.request : Worker → List Request
  | .pollSend id => [⟨id, binaryRetrCommand⟩]
  | _ => []

def arrivals (world : World) : List Arrival := world.worker.holds ++ world.wire

def repliesOnWire (world : World) : List Request := (arrivals world).filterMap Arrival.request?

-- Every tracked command that is being sent, waits at the server or has its reply under
-- way, the next reply first.
def inFlight (world : World) : List Request :=
  repliesOnWire world ++ (world.server ++ (world.control.request ++ (world.sender.request ++ world.worker.request)))

def idsOf (code : UInt16) (requests : List Request) : List Nat := (requests.filter (·.code = code)).map Request.id

def flight (world : World) (code : UInt16) : List Nat := idsOf code (inFlight world)

def rawIds (client : BinaryClient) (code : UInt16) : List Nat := (client.rawPending code).map Pending.id

def routedIds (past : List Event) : List Nat :=
  past.filterMap fun
    | .routed _ arrival => arrival.request?.map Request.id
    | _ => none

def gaveUp (past : List Event) : Bool :=
  past.foldl (fun given => fun | .gaveUp _ => true | .dropped _ => false | _ => given) false

def awaits (client : BinaryClient) (code : UInt16) : Prop :=
  (client.pollPending ∧ code = binaryRetrCommand) ∨
    (client.controlPending ∧ ¬ client.controlComplete ∧ code = client.controlCode) ∨ client.rawPending code ≠ []

-- No valid reply that answers nothing is read while a command of its code is outstanding.
def NoImpostor (world : World) : Step → Prop
  | .workerProcesses => ∀ arrival, world.worker = .processing arrival → arrival.origin = .other →
      (binaryReply arrival.frame).isSome = true → ¬ awaits world.client (binaryRead16 arrival.frame 1)
  | _ => True

def Waiter.Owns (past : List Event) : Waiter → Request → Prop
  | .poll id, request => request = ⟨id, binaryRetrCommand⟩
  | .control id, request => request = ⟨id, binaryClearCommand⟩
  | .raw id, request => gaveUp past = false → request.id = id

-- What may be given to a caller or a waiter, after the outputs before it.
def FairRouting (past : List Event) : Event → Prop
  | .commandDone id code (some arrival) => arrival.origin = .reply ⟨id, binaryClearCommand⟩ ∧
      ∃ error, binaryReply arrival.frame = some (binaryClearCommand, error) ∧ code = error.toNat
  | .commandDone _ code none => code ≠ 0
  | .routed waiter arrival =>
      ∃ request, arrival.origin = .reply request ∧ request.id ∉ routedIds past ∧ waiter.Owns past request
  | _ => True

def Control.active : Control → Bool
  | .sending _ | .unsent _ _ | .sent _ | .waiting _ _ => true
  | _ => false

def Control.fails : Control → Bool
  | .failing _ _ => true
  | _ => false

def Control.isUnsent : Control → Bool
  | .unsent _ _ => true
  | _ => false

def Worker.alive : Worker → Bool
  | .stopped | .failing _ => false
  | _ => true

def Listening (world : World) : Prop := world.client.running = true ∨ world.worker.holds ≠ []

-- The raw commands that wait are those in flight, in the same order.
def Aligned (world : World) (code : UInt16) : Prop :=
  (world.client.running = false ∧ world.client.rawPending code = []) ∨ flight world code = rawIds world.client code

def Coded (arrival : Arrival) : Prop :=
  ∀ request, arrival.origin = .reply request → (binaryReply arrival.frame).map Prod.fst = some request.code

structure ControlRouting (world : World) (given : Bool) : Prop where
  owner : world.client.controlPending = true →
    world.client.controlCode = binaryClearCommand ∧ world.control.active = true
  awaited : world.client.controlPending = true → ∀ id ∈ flight world binaryClearCommand,
    id = world.control.id ∧ world.control.isUnsent = false ∧ world.client.controlComplete = false
  exclusive : world.client.controlPending = true → world.client.rawPending binaryClearCommand = []
  answered : world.client.controlComplete = true → world.control.active = true →
    world.client.controlReply.origin = .reply ⟨world.control.id, binaryClearCommand⟩
  sending : world.control.sends = true → world.client.controlPending = true ∧ world.sender = .none
  failing : ∀ id code, world.control = .failing id code → code ≠ 0
  gone : given = true → world.client.running = true → world.control.fails = true

structure RawRouting (world : World) (given : Bool) : Prop where
  tracks : ∀ code, world.client.rawPending code ≠ [] →
    code = binaryClearCommand ∨ (world.client.polling = true ∧ code = binaryRetrCommand)
  rawClear : given = false → world.client.controlPending = false → Listening world → Aligned world binaryClearCommand

structure PollRouting (world : World) : Prop where
  pollOn : world.client.pollPending = true →
    world.client.polling = true ∧ world.client.rawPending binaryRetrCommand = []
  pollAwaited : world.client.pollPending = true → world.worker.alive = true → Listening world →
    ∀ id ∈ flight world binaryRetrCommand, id = world.pollId
  rawRetr : world.client.polling = true → world.client.pollPending = false → world.worker.alive = true →
    Listening world → Aligned world binaryRetrCommand
  polls : world.worker.request ≠ [] → world.client.pollPending = true

structure Routing (world : World) (used : List Nat) (given : Bool) : Prop where
  tickets : Tickets ((inFlight world).map Request.id) world.nextId used
  coded : ∀ arrival ∈ arrivals world, Coded arrival
  control : ControlRouting world given
  raw : RawRouting world given
  poll : PollRouting world
  down : world.connected = false → world.client.running = false ∧ world.worker = .stopped ∧ commandFree world = true

variable (code : UInt16)

theorem ids_of_append (first second : List Request) :
    idsOf code (first ++ second) = idsOf code first ++ idsOf code second := by
  rw [idsOf, List.filter_append, List.map_append]
  rfl

theorem ids_of_same (id : Nat) (rest : List Request) :
    idsOf code (⟨id, code⟩ :: rest) = id :: idsOf code rest := by
  simp [idsOf]

theorem ids_of_other (request : Request) (rest : List Request) (other : request.code ≠ code) :
    idsOf code (request :: rest) = idsOf code rest := by
  simp [idsOf, other]

theorem ids_of_sublist (requests : List Request) :
    (idsOf code requests).Sublist (requests.map Request.id) := List.filter_sublist.map Request.id

theorem ids_of_fewer (fewer requests : List Request) (sublist : fewer.Sublist requests) :
    (idsOf code fewer).Sublist (idsOf code requests) := (sublist.filter _).map Request.id

theorem codes_differ : binaryClearCommand ≠ binaryRetrCommand := by decide

theorem routed_ids_append (past outputs : List Event) : routedIds (past ++ outputs) = routedIds past ++ routedIds outputs :=
  List.filterMap_append

def Event.silent : Event → Bool
  | .commandDone _ _ _ | .gaveUp _ | .routed _ _ | .dropped _ => false
  | _ => true

def Event.plain : Event → Bool
  | .gaveUp _ | .routed _ _ | .dropped _ => false
  | _ => true

theorem plain_of_silent (output : Event) (silent : output.silent = true) : output.plain = true := by
  cases output <;> first | rfl | exact Bool.noConfusion silent

theorem plain_books (past outputs : List Event) (plain : ∀ output ∈ outputs, output.plain = true) :
    routedIds (past ++ outputs) = routedIds past ∧ gaveUp (past ++ outputs) = gaveUp past := by
  induction outputs generalizing past with
  | nil => rw [List.append_nil]; exact ⟨rfl, rfl⟩
  | cons output rest ih =>
      obtain ⟨routed, given⟩ := ih (past ++ [output]) (fun other member => plain other (List.mem_cons_of_mem _ member))
      rw [List.append_assoc, List.singleton_append] at routed given
      have first := plain output List.mem_cons_self
      rw [routed, given, routed_ids_append, gaveUp, List.foldl_append]
      cases output <;> first | exact ⟨List.append_nil _, rfl⟩ | exact Bool.noConfusion first

theorem sound_silent (past outputs : List Event) (silent : ∀ output ∈ outputs, output.silent = true) :
    Run.Sound FairRouting past outputs := by
  induction outputs generalizing past with
  | nil => exact trivial
  | cons output rest ih =>
      refine ⟨?_, ih (past ++ [output]) (fun other member => silent other (List.mem_cons_of_mem _ member))⟩
      have first := silent output List.mem_cons_self
      cases output <;> trivial


structure Onward (world next : World) : Prop where
  running : next.client.running = true → world.client.running = true
  holds : next.worker.holds ≠ [] → Listening world
  alive : next.worker.alive = true → world.worker.alive = true

theorem onward_same (world next : World) (running : next.client.running = true → world.client.running = true)
    (worker : next.worker = world.worker) : Onward world next := by
  refine ⟨running, fun holds => ?_, fun alive => ?_⟩
  · rw [worker] at holds
    exact Or.inr holds
  · rw [worker] at alive
    exact alive

theorem onward_listening (world next : World) (onward : Onward world next) (listening : Listening next) :
    Listening world := by
  cases listening with
  | inl running => exact Or.inl (onward.running running)
  | inr holds => exact onward.holds holds

theorem stopped_onward (world next : World) (onward : Onward world next) (stopped : world.client.running = false) :
    next.client.running = false := by
  cases running : next.client.running with
  | false => rfl
  | true => exact absurd ((onward.running running).symm.trans stopped) (by decide)

theorem aligned_onward (world next : World) (code : UInt16) (onward : Onward world next)
    (raw : next.client.rawPending code = world.client.rawPending code) (same : flight next code = flight world code)
    (aligned : Aligned world code) : Aligned next code := by
  cases aligned with
  | inl quiet => exact Or.inl ⟨stopped_onward world next onward quiet.1, raw.trans quiet.2⟩
  | inr equal => exact Or.inr (by rw [same, equal, rawIds, rawIds, raw])

theorem poll_frame (world next : World) (poll : PollRouting world) (onward : Onward world next)
    (polling : next.client.polling = world.client.polling) (pending : next.client.pollPending = world.client.pollPending)
    (raw : next.client.rawPending binaryRetrCommand = world.client.rawPending binaryRetrCommand)
    (id : next.pollId = world.pollId) (polls : next.worker.request ≠ [] → world.worker.request ≠ [])
    (same : Listening next → flight next binaryRetrCommand = flight world binaryRetrCommand) : PollRouting next := by
  obtain ⟨pollOn, pollAwaited, rawRetr, asks⟩ := poll
  refine ⟨?_, ?_, ?_, ?_⟩
  · rw [polling, pending, raw]
    exact pollOn
  · intro awaited alive listening
    rw [pending] at awaited
    rw [same listening, id]
    exact pollAwaited awaited (onward.alive alive) (onward_listening world next onward listening)
  · intro on free alive listening
    rw [polling] at on
    rw [pending] at free
    exact aligned_onward world next _ onward raw (same listening)
      (rawRetr on free (onward.alive alive) (onward_listening world next onward listening))
  · intro request
    rw [pending]
    exact asks (polls request)

theorem raw_frame (world next : World) (given : Bool) (raw : RawRouting world given) (onward : Onward world next)
    (polling : next.client.polling = world.client.polling) (pending : next.client.rawPending = world.client.rawPending)
    (control : next.client.controlPending = world.client.controlPending)
    (same : Listening next → flight next binaryClearCommand = flight world binaryClearCommand) : RawRouting next given := by
  obtain ⟨tracks, rawClear⟩ := raw
  refine ⟨?_, ?_⟩
  · rw [pending, polling]
    exact tracks
  · intro fresh free listening
    rw [control] at free
    exact aligned_onward world next _ onward (congrFun pending _) (same listening)
      (rawClear fresh free (onward_listening world next onward listening))

theorem control_frame (world next : World) (given : Bool) (control : ControlRouting world given)
    (same : next.control = world.control) (pending : next.client.controlPending = world.client.controlPending)
    (complete : next.client.controlComplete = world.client.controlComplete)
    (code : next.client.controlCode = world.client.controlCode)
    (reply : next.client.controlReply = world.client.controlReply)
    (running : next.client.running = true → world.client.running = true)
    (fewer : world.client.controlPending = true →
      ∀ id ∈ flight next binaryClearCommand, id ∈ flight world binaryClearCommand)
    (exclusive : world.client.controlPending = true → next.client.rawPending binaryClearCommand = [])
    (sender : world.control.sends = true → next.sender = .none) : ControlRouting next given := by
  obtain ⟨owner, awaited, _, answered, sending, failing, gone⟩ := control
  refine ⟨?_, ?_, ?_, ?_, ?_, ?_, ?_⟩
  · rw [pending, code, same]
    exact owner
  · rw [pending, same, complete]
    exact fun waits id member => awaited waits id (fewer waits id member)
  · rw [pending]
    exact exclusive
  · rw [complete, same, reply]
    exact answered
  · rw [same, pending]
    exact fun sends => ⟨(sending sends).1, sender sends⟩
  · rw [same]
    exact failing
  · rw [same]
    exact fun spent up => gone spent (running up)

def routes (client : BinaryClient) :=
  (client.polling, client.rawPending, client.pollPending, client.controlPending, client.controlComplete,
    client.controlCode, client.controlReply)

-- A step that routes no reply and lets nobody begin or end a wait.
structure Steady (world next : World) : Prop where
  routes : routes next.client = routes world.client
  onward : Onward world next
  polls : next.worker.request ≠ [] → world.worker.request ≠ []
  control : next.control = world.control
  sender : next.sender = world.sender
  nextId : next.nextId = world.nextId
  pollId : next.pollId = world.pollId
  fewer : (inFlight next).Sublist (inFlight world)
  same : Listening next → inFlight next = inFlight world
  coded : (∀ arrival ∈ arrivals world, Coded arrival) → ∀ arrival ∈ arrivals next, Coded arrival
  connected : next.connected = world.connected
  stopped : world.worker = .stopped → next.worker = .stopped

theorem steady_routing (world next : World) (used : List Nat) (given : Bool) (routing : Routing world used given)
    (steady : Steady world next) : Routing next used given := by
  obtain ⟨tickets, coded, control, raw, poll, down⟩ := routing
  obtain ⟨sameRoutes, onward, polls, sameControl, sameSender, nextId, pollId, fewer, same, keepsCoded, connected, stopped⟩ :=
    steady
  simp only [BinaryTcp.routes, Prod.mk.injEq] at sameRoutes
  obtain ⟨polling, rawPending, pollPending, controlPending, controlComplete, controlCode, controlReply⟩ := sameRoutes
  refine ⟨?_, keepsCoded coded, ?_, ?_, ?_, ?_⟩
  · rw [nextId]
    exact Tickets.lose _ _ _ _ tickets (fewer.map Request.id).subperm
  · refine control_frame world next given control sameControl controlPending controlComplete controlCode controlReply
      onward.running ?_ ?_ ?_
    · exact fun _ id member => (ids_of_fewer _ _ _ fewer).subset member
    · rw [rawPending]
      exact control.exclusive
    · rw [sameSender]
      exact fun sends => (control.sending sends).2
  · refine raw_frame world next given raw onward polling rawPending controlPending ?_
    exact fun listening => congrArg (idsOf binaryClearCommand) (same listening)
  · refine poll_frame world next poll onward polling pollPending (congrFun rawPending _) pollId polls ?_
    exact fun listening => congrArg (idsOf binaryRetrCommand) (same listening)
  · rw [connected, commandFree, sameSender, sameControl]
    intro off
    obtain ⟨notRunning, noWorker, free⟩ := down off
    exact ⟨stopped_onward world next onward notRunning, stopped noWorker, free⟩

theorem steady_same (world : World) : Steady world world :=
  ⟨rfl, onward_same world world id rfl, id, rfl, rfl, rfl, rfl, List.Sublist.refl _, fun _ => rfl, id, rfl, id⟩

theorem steady_local (world : World) (client : BinaryClient) (worker : Worker)
    (routes : routes client = routes world.client) (running : client.running = true → world.client.running = true)
    (holds : worker.holds = world.worker.holds) (request : worker.request = world.worker.request)
    (alive : worker.alive = true → world.worker.alive = true) (stopped : world.worker = .stopped → worker = .stopped) :
    Steady world { world with client, worker } := by
  have same : inFlight { world with client, worker } = inFlight world := by
    simp only [inFlight, repliesOnWire, arrivals, holds, request]
  refine ⟨routes, ⟨running, ?_, alive⟩, ?_, rfl, rfl, rfl, rfl, ?_, fun _ => same, ?_, rfl, stopped⟩
  · rw [holds]
    exact Or.inr
  · rw [request]
    exact id
  · rw [same]
  · rw [arrivals, arrivals, holds]
    exact id

theorem steady_alive (world : World) (client : BinaryClient) (due worker : Worker) (here : world.worker = due)
    (alive : due.alive = true) (routes : routes client = routes world.client)
    (running : client.running = true → world.client.running = true) (holds : worker.holds = due.holds)
    (request : worker.request = due.request) : Steady world { world with client, worker } := by
  refine steady_local world client worker routes running ?_ ?_ ?_ ?_ <;> rw [here]
  · exact holds
  · exact request
  · exact fun _ => alive
  · intro stopped
    rw [stopped] at alive
    exact Bool.noConfusion alive

theorem steady_client (world : World) (client : BinaryClient) (routes : routes client = routes world.client)
    (running : client.running = true → world.client.running = true) : Steady world { world with client } :=
  steady_local world client world.worker routes running rfl rfl id id

variable (client : BinaryClient)

theorem fail_routes (code : Int) : routes (failSingleChannelWorker client code) = routes client := by
  unfold failSingleChannelWorker
  split <;> rfl

theorem fail_stops (code : Int) : (failSingleChannelWorker client code).running = false := by
  unfold failSingleChannelWorker
  split
  · rfl
  · next stopped => exact Bool.eq_false_iff.mpr stopped

theorem fail_runs (code : Int) (running : (failSingleChannelWorker client code).running = true) :
    client.running = true := absurd ((fail_stops client code).symm.trans running) (by decide)

def Kept (past : List Event) (result : World × List Event) : Prop :=
  Run.Sound FairRouting past result.2 ∧
    Routing result.1 (routedIds (past ++ result.2)) (gaveUp (past ++ result.2))

theorem kept_silent (past : List Event) (result : World × List Event)
    (silent : ∀ output ∈ result.2, output.silent = true)
    (routing : Routing result.1 (routedIds past) (gaveUp past)) : Kept past result := by
  have books := plain_books past result.2 (fun output member => plain_of_silent output (silent output member))
  refine ⟨sound_silent past result.2 silent, ?_⟩
  rw [books.1, books.2]
  exact routing

theorem kept_done (past : List Event) (next : World) (id : Nat) (code : Int) (reply : Option Arrival)
    (fair : FairRouting past (.commandDone id code reply))
    (routing : Routing next (routedIds past) (gaveUp past)) : Kept past (next, [.commandDone id code reply]) := by
  have books := plain_books past [.commandDone id code reply] (by simp [Event.plain])
  refine ⟨⟨fair, trivial⟩, ?_⟩
  rw [books.1, books.2]
  exact routing

variable (world : World) (past : List Event)

theorem kept_steady (result : World × List Event) (silent : ∀ output ∈ result.2, output.silent = true)
    (routing : Routing world (routedIds past) (gaveUp past)) (steady : Steady world result.1) : Kept past result :=
  kept_silent past result silent (steady_routing world result.1 _ _ routing steady)

theorem kept_same (routing : Routing world (routedIds past) (gaveUp past)) : Kept past (world, []) :=
  kept_silent past (world, []) (by simp) routing

end Vscp.BinaryTcp
