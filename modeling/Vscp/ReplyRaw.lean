import Vscp.ReplyControl

set_option autoImplicit false

namespace Vscp.BinaryTcp

variable (world : World) (past : List Event)

theorem begin_raw_cases (client next : BinaryClient) (code : Option UInt16) (pending : Pending)
    (begins : beginRaw client code pending = .ok next) :
    client.running = true ∧
      ((code = none ∧ next = { client with rawActive := true }) ∨
        ∃ key, code = some key ∧ ¬ (client.pollPending = true ∧ key = binaryRetrCommand) ∧
          ¬ (client.controlPending = true ∧ key = client.controlCode) ∧
          next = setPending { client with rawActive := true } key (client.rawPending key ++ [pending])) := by
  unfold beginRaw at begins
  split at begins
  · cases begins
  · next running =>
      refine ⟨Decidable.not_not.mp running, ?_⟩
      cases code with
      | none =>
          cases begins
          exact Or.inl ⟨rfl, rfl⟩
      | some key =>
          simp only at begins
          split at begins
          · cases begins
          · next free =>
              cases begins
              exact Or.inr ⟨key, rfl, fun polls => free (Or.inl polls), fun waits => free (Or.inr waits), rfl⟩

theorem tracked_codes (polling : Bool) (frame : Bytes) (key : UInt16) (tracks : tracked polling frame = some key) :
    key = binaryClearCommand ∨ (polling = true ∧ key = binaryRetrCommand) := by
  rw [tracked, Option.filter_eq_some_iff] at tracks
  simpa using tracks.2

theorem in_flight_sender : inFlight world =
    (repliesOnWire world ++ (world.server ++ world.control.request)) ++ (world.sender.request ++ world.worker.request) := by
  simp only [inFlight, List.append_assoc]

theorem worker_request_clear (worker : Worker) : idsOf binaryClearCommand worker.request = [] := by
  cases worker <;> rfl

def rawSent (key : UInt16) (deadline : Nat) : World :=
  { world with
    client := setPending { world.client with rawActive := true } key
      (world.client.rawPending key ++ [⟨world.nextId, deadline⟩])
    sender := .raw world.nextId (some key)
    nextId := world.nextId + 1 }

section sent

variable (used : List Nat) (given : Bool) (key : UInt16) (deadline : Nat)

theorem raw_sent_onward : Onward world (rawSent world key deadline) := onward_same world _ (fun up => up) rfl

theorem raw_sent_pending (code : UInt16) (other : key ≠ code) :
    (rawSent world key deadline).client.rawPending code = world.client.rawPending code := if_neg other.symm

theorem raw_sent_own : (rawSent world key deadline).client.rawPending key =
    world.client.rawPending key ++ [⟨world.nextId, deadline⟩] := if_pos rfl

theorem raw_sent_in_flight (noSender : world.sender = .none) :
    inFlight world = (repliesOnWire world ++ (world.server ++ world.control.request)) ++ world.worker.request ∧
      inFlight (rawSent world key deadline) = (repliesOnWire world ++ (world.server ++ world.control.request)) ++
        (⟨world.nextId, key⟩ :: world.worker.request) := by
  constructor
  · rw [in_flight_sender, noSender]
    rfl
  · rw [in_flight_sender]
    rfl

theorem raw_sent_flight (noSender : world.sender = .none) (code : UInt16) (other : key ≠ code) :
    flight (rawSent world key deadline) code = flight world code := by
  obtain ⟨before, split⟩ := raw_sent_in_flight world key deadline noSender
  rw [flight, flight, split, before, ids_of_append, ids_of_append _ _ world.worker.request, ids_of_other _ _ _ other]

theorem raw_sent_added (noSender : world.sender = .none) (silent : idsOf key world.worker.request = []) :
    flight (rawSent world key deadline) key = flight world key ++ [world.nextId] := by
  obtain ⟨before, split⟩ := raw_sent_in_flight world key deadline noSender
  rw [flight, flight, split, before, ids_of_append, ids_of_append _ _ world.worker.request, ids_of_same, silent,
    List.append_nil]

theorem raw_sent_aligned (noSender : world.sender = .none) (running : world.client.running = true)
    (silent : idsOf key world.worker.request = []) (code : UInt16) (was : Aligned world code) :
    Aligned (rawSent world key deadline) code := by
  by_cases same : key = code
  · rw [← same] at was ⊢
    cases was with
    | inl quiet => exact absurd (running.symm.trans quiet.1) (by decide)
    | inr equal =>
        refine Or.inr ?_
        rw [raw_sent_added world key deadline noSender silent, equal, rawIds, rawIds, raw_sent_own, List.map_append]
        rfl
  · exact aligned_onward world _ code (raw_sent_onward world key deadline)
      (raw_sent_pending world key deadline code same) (raw_sent_flight world key deadline noSender code same) was

theorem raw_sent_control (control : ControlRouting world given) (noSender : world.sender = .none)
    (sends : world.control.sends = false) (notClear : world.client.controlPending = true → key ≠ binaryClearCommand) :
    ControlRouting (rawSent world key deadline) given := by
  refine control_frame world _ given control rfl rfl rfl rfl rfl (fun up => up) ?_ ?_ ?_
  · intro pending id member
    rw [raw_sent_flight world key deadline noSender _ (notClear pending)] at member
    exact member
  · intro pending
    rw [raw_sent_pending world key deadline _ (notClear pending)]
    exact control.exclusive pending
  · exact fun sending => absurd (sends.symm.trans sending) (by decide)

theorem raw_sent_poll (routing : Routing world used given) (noSender : world.sender = .none)
    (running : world.client.running = true) (silent : idsOf key world.worker.request = [])
    (notRetr : world.client.pollPending = true → key ≠ binaryRetrCommand) :
    PollRouting (rawSent world key deadline) := by
  refine ⟨?_, ?_, ?_, routing.poll.polls⟩
  · intro pending
    rw [raw_sent_pending world key deadline _ (notRetr pending)]
    exact routing.poll.pollOn pending
  · intro pending alive _ id member
    rw [raw_sent_flight world key deadline noSender _ (notRetr pending)] at member
    exact routing.poll.pollAwaited pending alive (Or.inl running) id member
  · intro on idle alive _
    exact raw_sent_aligned world key deadline noSender running silent _
      (routing.poll.rawRetr on idle alive (Or.inl running))

theorem send_raw_tracked (routing : Routing world used given) (free : commandFree world = true)
    (running : world.client.running = true)
    (known : key = binaryClearCommand ∨ (world.client.polling = true ∧ key = binaryRetrCommand))
    (noPoll : ¬ (world.client.pollPending = true ∧ key = binaryRetrCommand))
    (noControl : ¬ (world.client.controlPending = true ∧ key = world.client.controlCode)) :
    Routing (rawSent world key deadline) used given := by
  obtain ⟨noSender, sends⟩ := command_free_sender world free
  obtain ⟨before, split⟩ := raw_sent_in_flight world key deadline noSender
  have notClear (pending : world.client.controlPending = true) : key ≠ binaryClearCommand := fun clears =>
    noControl ⟨pending, clears.trans (routing.control.owner pending).1.symm⟩
  have silent : idsOf key world.worker.request = [] := by
    cases known with
    | inl clears =>
        rw [clears]
        exact worker_request_clear _
    | inr retrieves =>
        have idle : world.worker.request = [] :=
          Decidable.not_not.mp (fun asks => noPoll ⟨routing.poll.polls asks, retrieves.2⟩)
        rw [idle]
        rfl
  refine ⟨?_, routing.coded, raw_sent_control world given key deadline routing.control noSender sends notClear,
    ⟨fun code waits => ?_, fun fresh idle _ => ?_⟩,
    raw_sent_poll world used given key deadline routing noSender running silent fun pending retrieves =>
      noPoll ⟨pending, retrieves⟩,
    fun off => absurd (running.symm.trans (routing.down off).1) (by decide)⟩
  · have tickets := routing.tickets
    rw [before, List.map_append] at tickets
    rw [split, List.map_append]
    exact Tickets.issue _ _ _ _ tickets List.perm_middle
  · by_cases same : key = code
    · rw [← same]
      exact known
    · rw [raw_sent_pending world key deadline code same] at waits
      exact routing.raw.tracks code waits
  · exact raw_sent_aligned world key deadline noSender running silent _
      (routing.raw.rawClear fresh idle (Or.inl running))

end sent

theorem sender_moves (used : List Nat) (given : Bool) (routing : Routing world used given) (client : BinaryClient)
    (sender : Sender) (server : List Request) (nextId : Nat) (sameRoutes : routes client = routes world.client)
    (running : client.running = true → world.client.running = true) (later : world.nextId ≤ nextId)
    (sends : world.control.sends = false) (same : inFlight { world with client, sender, server, nextId } = inFlight world)
    (free : world.connected = false → sender = .none) : Routing { world with client, sender, server, nextId } used given := by
  simp only [routes, Prod.mk.injEq] at sameRoutes
  obtain ⟨polling, rawPending, pollPending, controlPending, controlComplete, controlCode, controlReply⟩ := sameRoutes
  have onward := onward_same world { world with client, sender, server, nextId } running rfl
  refine ⟨?_, routing.coded, ?_, ?_, ?_, ?_⟩
  · rw [same]
    exact Tickets.later _ _ _ _ routing.tickets later
  · refine control_frame world _ given routing.control rfl controlPending controlComplete controlCode controlReply running
      ?_ ?_ ?_
    · intro _ id member
      rw [flight, same] at member
      exact member
    · intro pending
      exact (congrFun rawPending _).trans (routing.control.exclusive pending)
    · exact fun sending => absurd (sends.symm.trans sending) (by decide)
  · refine raw_frame world _ given routing.raw onward polling rawPending controlPending (fun _ => ?_)
    rw [flight, same]
    rfl
  · refine poll_frame world _ routing.poll onward polling pollPending (congrFun rawPending _) rfl (fun asks => asks) (fun _ => ?_)
    rw [flight, same]
    rfl
  · intro off
    obtain ⟨stopped, worker, _⟩ := routing.down off
    exact ⟨stopped_onward world _ onward stopped, worker, command_free_of _ (free off) sends⟩

theorem send_binary_frame_kept (frame : Bytes) (routing : Routing world (routedIds past) (gaveUp past)) :
    Kept past (sendBinaryFrame world frame) := by
  unfold sendBinaryFrame
  split
  · exact kept_silent past _ (by simp [Event.silent]) routing
  · split
    · exact kept_same world past routing
    · next due =>
        have free : commandFree world = true := Decidable.not_not.mp due
        obtain ⟨noSender, sends⟩ := command_free_sender world free
        simp only
        split
        · exact kept_silent past _ (by simp [Event.silent]) routing
        · next client begins =>
            refine kept_silent past _ (by simp) ?_
            obtain ⟨running, ⟨untracked, same⟩ | ⟨key, tracks, noPoll, noControl, same⟩⟩ := begin_raw_cases _ _ _ _ begins
            · rw [untracked, same]
              refine sender_moves world _ _ routing _ _ world.server _ rfl (fun up => up) (Nat.le_succ _) sends ?_ ?_
              · rw [in_flight_sender, in_flight_sender world, noSender]
                rfl
              · exact fun off => absurd (running.symm.trans (routing.down off).1) (by decide)
            · rw [same, tracks]
              exact send_raw_tracked world _ _ key _ routing free running (tracked_codes _ _ _ tracks) noPoll noControl

theorem drop_last_empty (client : BinaryClient) (key code : UInt16) (empty : client.rawPending code = []) :
    (setPending client key (client.rawPending key).dropLast).rawPending code = [] := by
  unfold setPending
  by_cases same : code = key
  · rw [same] at empty
    simp only [if_pos same, empty, List.dropLast_nil]
  · simp only [if_neg same, empty]

def rawFailed (key : UInt16) : World :=
  { world with sender := .none, client := setPending world.client key (world.client.rawPending key).dropLast }

section failed

variable (used : List Nat) (given : Bool) (id : Nat) (key : UInt16) (due : world.sender = .raw id (some key))

theorem raw_failed_onward : Onward world (rawFailed world key) := onward_same world _ (fun up => up) rfl

theorem raw_failed_empty (code : UInt16) (empty : world.client.rawPending code = []) :
    (rawFailed world key).client.rawPending code = [] := drop_last_empty _ _ _ empty

include due

theorem raw_failed_in_flight :
    inFlight world =
        (repliesOnWire world ++ (world.server ++ world.control.request)) ++ (⟨id, key⟩ :: world.worker.request) ∧
      inFlight (rawFailed world key) =
        (repliesOnWire world ++ (world.server ++ world.control.request)) ++ world.worker.request := by
  constructor
  · rw [in_flight_sender, due]
    rfl
  · rw [in_flight_sender]
    rfl

theorem raw_failed_fewer : (inFlight (rawFailed world key)).Sublist (inFlight world) := by
  obtain ⟨before, split⟩ := raw_failed_in_flight world id key due
  rw [before, split]
  exact (List.Sublist.refl _).append (List.sublist_cons_self _ _)

theorem raw_failed_aligned (code : UInt16) (silent : idsOf code world.worker.request = []) (was : Aligned world code) :
    Aligned (rawFailed world key) code := by
  obtain ⟨before, split⟩ := raw_failed_in_flight world id key due
  by_cases same : key = code
  · rw [← same] at silent was ⊢
    cases was with
    | inl quiet =>
        exact Or.inl ⟨stopped_onward world _ (raw_failed_onward world key) quiet.1,
          raw_failed_empty world key key quiet.2⟩
    | inr equal =>
        have removed : flight world key = flight (rawFailed world key) key ++ [id] := by
          rw [flight, flight, split, before, ids_of_append, ids_of_append _ _ world.worker.request, ids_of_same, silent,
            List.append_nil]
        have dropped : (rawFailed world key).client.rawPending key = (world.client.rawPending key).dropLast :=
          if_pos rfl
        refine Or.inr ?_
        rw [removed] at equal
        rw [rawIds, dropped, List.map_dropLast, ← rawIds, ← equal, List.dropLast_concat]
  · refine aligned_onward world _ code (raw_failed_onward world key) (if_neg fun equal => same equal.symm) ?_ was
    rw [flight, flight, split, before, ids_of_append, ids_of_append _ _ (_ :: _), ids_of_other _ _ _ same]

theorem raw_failed_control (control : ControlRouting world given) : ControlRouting (rawFailed world key) given :=
  control_frame world _ given control rfl rfl rfl rfl rfl (fun up => up)
    (fun _ _ member => (ids_of_fewer _ _ _ (raw_failed_fewer world id key due)).subset member)
    (fun pending => raw_failed_empty world key _ (control.exclusive pending)) (fun _ => rfl)

theorem raw_failed_poll (poll : PollRouting world) : PollRouting (rawFailed world key) := by
  have onward := raw_failed_onward world key
  refine ⟨?_, ?_, ?_, poll.polls⟩
  · intro pending
    obtain ⟨on, empty⟩ := poll.pollOn pending
    exact ⟨on, raw_failed_empty world key _ empty⟩
  · intro pending alive listening other member
    exact poll.pollAwaited pending alive (onward_listening world _ onward listening) other
      ((ids_of_fewer _ _ _ (raw_failed_fewer world id key due)).subset member)
  · intro on idle alive listening
    have asks : world.worker.request = [] :=
      Decidable.not_not.mp (fun asks => absurd (idle.symm.trans (poll.polls asks)) (by decide))
    refine raw_failed_aligned world id key due _ ?_
      (poll.rawRetr on idle alive (onward_listening world _ onward listening))
    rw [asks]
    rfl

theorem raw_send_fails (routing : Routing world used given) : Routing (rawFailed world key) used given := by
  refine ⟨?_, routing.coded, raw_failed_control world given id key due routing.control,
    ⟨fun code waits => ?_, fun fresh idle listening => ?_⟩, raw_failed_poll world id key due routing.poll, ?_⟩
  · exact Tickets.lose _ _ _ _ routing.tickets ((raw_failed_fewer world id key due).map Request.id).subperm
  · exact routing.raw.tracks code fun empty => waits (raw_failed_empty world key code empty)
  · exact raw_failed_aligned world id key due _ (worker_request_clear _)
      (routing.raw.rawClear fresh idle (onward_listening world _ (raw_failed_onward world key) listening))
  · intro off
    obtain ⟨stopped, worker, free⟩ := routing.down off
    exact ⟨stopped, worker, command_free_of _ rfl (command_free_sender world free).2⟩

end failed

theorem raw_sends_kept (written : Except VscpError Unit) (routing : Routing world (routedIds past) (gaveUp past)) :
    Kept past (rawSends world written) := by
  have sends (busy : world.sender ≠ .none) : world.control.sends = false :=
    Bool.eq_false_iff.mpr (fun sending => busy (routing.control.sending sending).2)
  unfold rawSends
  split
  · exact kept_same world past routing
  · next id code _ due =>
      refine kept_silent past _ (by simp [Event.silent]) ?_
      have idle : world.control.sends = false := sends (by rw [due]; exact Sender.noConfusion)
      refine sender_moves world _ _ routing world.client .none _ world.nextId rfl (fun up => up) (Nat.le_refl _) idle ?_ (fun _ => rfl)
      rw [in_flight_sender, in_flight_sender world, due, control_request_idle _ idle]
      cases code <;> simp [Sender.request, repliesOnWire, arrivals]
  · next id code due =>
      refine kept_silent past _ (by simp [Event.silent]) ?_
      have idle : world.control.sends = false := sends (by rw [due]; exact Sender.noConfusion)
      refine sender_moves world _ _ routing world.client .none world.server world.nextId rfl (fun up => up) (Nat.le_refl _) idle ?_
        (fun _ => rfl)
      rw [in_flight_sender, in_flight_sender world, due]
      rfl
  · next id key code due =>
      exact kept_silent past _ (by simp [Event.silent]) (raw_send_fails world _ _ id key due routing)

end Vscp.BinaryTcp
