import Vscp.ReplyInvariant

set_option autoImplicit false

namespace Vscp.BinaryTcp

variable (world : World) (past : List Event)

theorem begin_command_cases (client next : BinaryClient) (command : UInt16)
    (begins : beginCommand client command = .ok next) :
    client.running = true ∧ client.rawPending command = [] ∧
      next = { client with
        controlPending := true, controlComplete := false, controlCode := command, controlReply := ⟨[], .other⟩ } := by
  unfold beginCommand at begins
  split at begins
  · cases begins
  · next running =>
      split at begins
      · cases begins
      · next free =>
          cases begins
          exact ⟨Decidable.not_not.mp running, Decidable.not_not.mp (fun waits => free (Or.inl waits)), rfl⟩

theorem command_free_sender (free : commandFree world = true) : world.sender = .none ∧ world.control.sends = false := by
  obtain ⟨sender, sends⟩ := of_decide_eq_true free
  exact ⟨sender, Bool.eq_false_iff.mpr sends⟩

theorem in_flight_control : inFlight world =
    (repliesOnWire world ++ world.server) ++ (world.control.request ++ (world.sender.request ++ world.worker.request)) :=
  (List.append_assoc _ _ _).symm

variable (control : Control)

theorem control_request_idle (sends : control.sends = false) : control.request = [] := by
  cases control <;> first | rfl | exact Bool.noConfusion sends

variable (used : List Nat) (given : Bool)

theorem idle_flight (routing : Routing world used given) (idle : world.control = .idle)
    (running : world.client.running = true) (none_waits : world.client.rawPending binaryClearCommand = []) :
    flight world binaryClearCommand = [] := by
  have fresh : given = false := by
    cases spent : given with
    | false => rfl
    | true =>
        have fails := routing.control.gone spent running
        rw [idle] at fails
        exact Bool.noConfusion fails
  have free : world.client.controlPending = false := by
    cases pending : world.client.controlPending with
    | false => rfl
    | true =>
        have active := (routing.control.owner pending).2
        rw [idle] at active
        exact Bool.noConfusion active
  cases routing.raw.rawClear fresh free (Or.inl running) with
  | inl quiet => exact absurd (running.symm.trans quiet.1) (by decide)
  | inr equal => rw [equal, rawIds, none_waits]; rfl

theorem clear_kept (onWorker : Bool) (routing : Routing world (routedIds past) (gaveUp past)) :
    Kept past (clear world onWorker) := by
  unfold clear
  split
  · exact kept_silent past _ (by simp [Event.silent]) routing
  · split
    · exact kept_same world past routing
    · next due =>
        have idle : world.control = .idle := Decidable.not_not.mp (fun busy => due (Or.inl busy))
        have free : commandFree world = true := Decidable.not_not.mp (fun taken => due (Or.inr taken))
        split
        · exact kept_silent past _ (by simp [Event.silent]) routing
        · exact kept_silent past _ (by simp [Event.silent]) routing
        · next client _ begins =>
            obtain ⟨running, none_waits, same⟩ := begin_command_cases world.client client _ begins
            obtain ⟨noSender, _⟩ := command_free_sender world free
            have empty := idle_flight world _ _ routing idle running none_waits
            have before : inFlight world =
                (repliesOnWire world ++ world.server) ++ (world.sender.request ++ world.worker.request) := by
              rw [in_flight_control, idle]
              rfl
            refine kept_silent past _ (by simp) ?_
            rw [same]
            generalize after : ({ world with
              client := { world.client with
                controlPending := true, controlComplete := false, controlCode := binaryClearCommand
                controlReply := ⟨[], .other⟩ }
              control := .sending world.nextId
              nextId := world.nextId + 1 } : World) = next
            have split : inFlight next = (repliesOnWire world ++ world.server) ++
                (⟨world.nextId, binaryClearCommand⟩ :: (world.sender.request ++ world.worker.request)) := by
              rw [in_flight_control, ← after]
              rfl
            have retr : flight next binaryRetrCommand = flight world binaryRetrCommand := by
              rw [flight, flight, split, before, ids_of_append, ids_of_append _ _ (_ ++ _),
                ids_of_other _ _ _ codes_differ]
            have onward : Onward world next := onward_same world next (by rw [← after]; exact id) (by rw [← after])
            refine ⟨?_, ?_, ?_, ?_, ?_, ?_⟩
            · have tickets := routing.tickets
              rw [before, List.map_append] at tickets
              rw [split, List.map_append, ← after]
              exact Tickets.issue _ _ _ _ tickets List.perm_middle
            · rw [← after]
              exact routing.coded
            · have only : ∀ id ∈ flight next binaryClearCommand, id = world.nextId := by
                rw [flight, before, ids_of_append] at empty
                obtain ⟨front, back⟩ := List.append_eq_nil_iff.mp empty
                rw [flight, split, ids_of_append, ids_of_same, front, back]
                exact fun id member => List.mem_singleton.mp member
              rw [← after] at only ⊢
              refine ⟨fun _ => ⟨rfl, rfl⟩, fun _ id member => ⟨only id member, rfl, rfl⟩, fun _ => none_waits, ?_, ?_, ?_, ?_⟩
              · exact fun complete => Bool.noConfusion complete
              · exact fun _ => ⟨rfl, noSender⟩
              · exact fun _ _ failing => Control.noConfusion failing
              · intro given up
                have fails := routing.control.gone given up
                rw [idle] at fails
                exact Bool.noConfusion fails
            · rw [← after]
              exact ⟨routing.raw.tracks, fun _ pending => Bool.noConfusion pending⟩
            · refine poll_frame world next routing.poll onward ?_ ?_ ?_ ?_ ?_ (fun _ => retr) <;> rw [← after]
              exact id
            · rw [← after]
              exact fun off => absurd (running.symm.trans (routing.down off).1) (by decide)

theorem active_not_failing (active : control.active = true) : control.fails = false := by
  cases control <;> first | rfl | exact Bool.noConfusion active

theorem never_failing (fails : control.fails = false) (id : Nat) (code : Int) :
    control ≠ .failing id code := by
  intro failing
  rw [failing] at fails
  exact Bool.noConfusion fails

theorem active_not_gone (routing : Routing world used given)
    (active : world.control.active = true) (spent : given = true) : world.client.running = false := by
  cases running : world.client.running with
  | false => rfl
  | true => exact absurd ((routing.control.gone spent running).symm.trans (active_not_failing _ active)) (by decide)

theorem command_free_of (sender : world.sender = .none) (sends : world.control.sends = false) : commandFree world = true :=
  decide_eq_true ⟨sender, Bool.eq_false_iff.mp sends⟩

theorem control_moves (routing : Routing world used given) (control : Control)
    (server : List Request) (active : world.control.active = true) (works : control.active = true)
    (id : control.id = world.control.id) (sent : control.isUnsent = false) (sends : control.sends = false)
    (same : inFlight { world with control, server } = inFlight world) : Routing { world with control, server } used given := by
  have fails := active_not_failing control works
  refine ⟨?_, routing.coded, ?_, ?_, ?_, ?_⟩
  · rw [same]
    exact routing.tickets
  · refine ⟨?_, ?_, routing.control.exclusive, ?_, ?_, ?_, ?_⟩
    · exact fun pending => ⟨(routing.control.owner pending).1, works⟩
    · intro pending other member
      rw [flight, same] at member
      obtain ⟨own, _, open_⟩ := routing.control.awaited pending other member
      exact ⟨own.trans id.symm, sent, open_⟩
    · intro complete _
      rw [id]
      exact routing.control.answered complete active
    · exact fun sending => absurd (sends.symm.trans sending) (by decide)
    · exact fun other code failing => absurd failing (never_failing control fails other code)
    · exact fun spent running => absurd (running.symm.trans (active_not_gone world used given routing active spent)) (by decide)
  · refine raw_frame world _ given routing.raw (onward_same world _ (fun up => up) rfl) rfl rfl rfl (fun _ => ?_)
    rw [flight, same]
    rfl
  · refine poll_frame world _ routing.poll (onward_same world _ (fun up => up) rfl) rfl rfl rfl rfl (fun asks => asks) (fun _ => ?_)
    rw [flight, same]
    rfl
  · intro off
    obtain ⟨stopped, worker, free⟩ := routing.down off
    exact ⟨stopped, worker, command_free_of _ (command_free_sender world free).1 sends⟩

theorem control_leaves (given later : Bool) (routing : Routing world used given) (control : Control)
    (sends : world.control.sends = false) (rests : control.active = false) (silent : control.sends = false)
    (failing : ∀ id code, control = .failing id code → code ≠ 0)
    (gone : later = true → world.client.running = true → control.fails = true)
    (fresh : later = false → given = false)
    (settled : later = false → world.client.controlPending = true → Listening world → Aligned world binaryClearCommand) :
    Routing { world with client := withoutControl world.client, control } used later := by
  have same : inFlight { world with client := withoutControl world.client, control } = inFlight world := by
    rw [in_flight_control, in_flight_control world, control_request_idle _ silent, control_request_idle _ sends]
    rfl
  refine ⟨?_, routing.coded, ?_, ?_, ?_, ?_⟩
  · rw [same]
    exact routing.tickets
  · refine ⟨?_, ?_, ?_, ?_, ?_, failing, gone⟩
    · exact fun pending => Bool.noConfusion pending
    · exact fun pending => Bool.noConfusion pending
    · exact fun pending => Bool.noConfusion pending
    · exact fun _ active => absurd (rests.symm.trans active) (by decide)
    · exact fun sending => absurd (silent.symm.trans sending) (by decide)
  · refine ⟨routing.raw.tracks, fun on _ listening => ?_⟩
    have aligned : Aligned world binaryClearCommand := by
      cases pending : world.client.controlPending with
      | true => exact settled on pending listening
      | false => exact routing.raw.rawClear (fresh on) pending listening
    refine aligned_onward world _ _ (onward_same world _ (fun up => up) rfl) rfl ?_ aligned
    rw [flight, same]
    rfl
  · refine poll_frame world _ routing.poll (onward_same world _ (fun up => up) rfl) rfl rfl rfl rfl (fun asks => asks) (fun _ => ?_)
    rw [flight, same]
    rfl
  · intro off
    obtain ⟨stopped, worker, free⟩ := routing.down off
    exact ⟨stopped, worker, command_free_of _ (command_free_sender world free).1 silent⟩

theorem distinct_middle (front back : List Request) (request : Request)
    (distinct : ((front ++ request :: back).map Request.id).Nodup) : request.id ∉ (front ++ back).map Request.id := by
  have moved : ((request :: (front ++ back)).map Request.id).Nodup :=
    (List.perm_middle.map Request.id).nodup_iff.mp distinct
  exact (List.nodup_cons.mp moved).1

theorem control_sends_kept (written : Except VscpError Unit) (routing : Routing world (routedIds past) (gaveUp past)) :
    Kept past (controlSends world written) := by
  unfold controlSends
  split
  · next id _ due =>
      refine kept_silent past _ (by simp) ?_
      refine control_moves world _ _ routing (.sent id) _ (by rw [due]; rfl) rfl (by rw [due]; rfl) rfl rfl ?_
      simp [inFlight, repliesOnWire, arrivals, due, Control.request]
  · next id code due =>
      refine kept_silent past _ (by simp) ?_
      have sends : world.control.sends = true := by rw [due]; rfl
      have active : world.control.active = true := by rw [due]; rfl
      obtain ⟨pending, noSender⟩ := routing.control.sending sends
      have before : inFlight world = (repliesOnWire world ++ world.server) ++
          (⟨id, binaryClearCommand⟩ :: (world.sender.request ++ world.worker.request)) := by
        rw [in_flight_control, due]
        rfl
      have after : inFlight { world with control := .unsent id code } =
          (repliesOnWire world ++ world.server) ++ (world.sender.request ++ world.worker.request) := by
        rw [in_flight_control]
        rfl
      have fewer : (inFlight { world with control := .unsent id code }).Sublist (inFlight world) := by
        rw [before, after]
        exact (List.Sublist.refl _).append (List.sublist_cons_self _ _)
      have retr : flight { world with control := .unsent id code } binaryRetrCommand = flight world binaryRetrCommand := by
        rw [flight, flight, after, before, ids_of_append, ids_of_append _ _ (_ :: _), ids_of_other _ _ _ codes_differ]
      have onward := onward_same world { world with control := .unsent id code } (fun up => up) rfl
      refine ⟨?_, routing.coded, ?_, ?_, ?_, ?_⟩
      · exact Tickets.lose _ _ _ _ routing.tickets (fewer.map Request.id).subperm
      · refine ⟨?_, ?_, routing.control.exclusive, ?_, ?_, ?_, ?_⟩
        · exact fun waits => ⟨(routing.control.owner waits).1, rfl⟩
        · intro waits other member
          -- Its own request is lost with the send, and every other reply to CLEAR would be its own.
          have own := (routing.control.awaited waits other ((ids_of_fewer _ _ _ fewer).subset member)).1
          rw [due] at own
          have distinct := routing.tickets.distinct
          rw [before] at distinct
          have lost := distinct_middle _ _ _ distinct
          rw [← after] at lost
          rw [own] at member
          exact absurd ((ids_of_sublist _ _).subset member) lost
        · intro complete _
          have own := routing.control.answered complete active
          rw [due] at own
          exact own
        · exact fun sending => Bool.noConfusion sending
        · exact fun _ _ failing => Control.noConfusion failing
        · exact fun spent running => absurd (running.symm.trans (active_not_gone world _ _ routing active spent)) (by decide)
      · exact ⟨routing.raw.tracks, fun _ free => absurd (pending.symm.trans free) (by decide)⟩
      · exact poll_frame world _ routing.poll onward rfl rfl rfl rfl (fun asks => asks) (fun _ => retr)
      · intro off
        obtain ⟨stopped, worker, _⟩ := routing.down off
        exact ⟨stopped, worker, command_free_of _ noSender rfl⟩
  · exact kept_same world past routing

theorem control_waits_kept (routing : Routing world (routedIds past) (gaveUp past)) : Kept past (controlWaits world) := by
  unfold controlWaits
  split
  · next id due =>
      refine kept_silent past _ (by simp) ?_
      refine control_moves world _ _ routing (.waiting id _) world.server (by rw [due]; rfl) rfl (by rw [due]; rfl) rfl rfl ?_
      simp [inFlight, repliesOnWire, arrivals, due, Control.request]
  · exact kept_same world past routing

theorem error_code_ne_zero (code : VscpError) : code.code ≠ 0 := by cases code <;> decide

theorem stopped_code_ne_zero (client : BinaryClient) : stoppedCode client ≠ 0 := by
  unfold stoppedCode
  split
  · exact error_code_ne_zero _
  · assumption

theorem flight_empty_aligned (code : UInt16) (empty : flight world code = []) (none_waits : world.client.rawPending code = []) :
    Aligned world code := Or.inr (by rw [empty, rawIds, none_waits]; rfl)

theorem control_unsent_kept (disconnected : Bool) (routing : Routing world (routedIds past) (gaveUp past)) :
    Kept past (controlUnsent world disconnected) := by
  unfold controlUnsent
  split
  · next id code due =>
      have active : world.control.active = true := by rw [due]; rfl
      have settled : world.client.controlPending = true → Aligned world binaryClearCommand := by
        intro pending
        refine flight_empty_aligned world _ (List.eq_nil_iff_forall_not_mem.mpr (fun other member => ?_))
          (routing.control.exclusive pending)
        have sent := (routing.control.awaited pending other member).2.1
        rw [due] at sent
        exact Bool.noConfusion sent
      have gone (spent : gaveUp past = true) (up : world.client.running = true) : False :=
        absurd (up.symm.trans (active_not_gone world _ _ routing active spent)) (by decide)
      simp only
      split
      · refine kept_silent past _ (by simp) (control_leaves world _ _ _ routing _ (by rw [due]; rfl) rfl rfl ?_ ?_ (fun fresh => fresh) ?_)
        · intro _ _ failing
          cases failing
          exact error_code_ne_zero code
        · exact fun _ _ => rfl
        · exact fun _ pending _ => settled pending
      · refine kept_done past _ id _ none (error_code_ne_zero code)
          (control_leaves world _ _ _ routing _ (by rw [due]; rfl) rfl rfl ?_ ?_ (fun fresh => fresh) ?_)
        · exact fun _ _ failing => Control.noConfusion failing
        · exact fun spent up => (gone spent up).elim
        · exact fun _ pending _ => settled pending
  · exact kept_same world past routing

theorem reply_flight_empty (routing : Routing world used given)
    (complete : world.client.controlComplete = true) (pending : world.client.controlPending = true) :
    flight world binaryClearCommand = [] := by
  refine List.eq_nil_iff_forall_not_mem.mpr (fun id member => ?_)
  have waits := (routing.control.awaited pending id member).2.2
  exact absurd (complete.symm.trans waits) (by decide)

theorem control_wakes_kept (routing : Routing world (routedIds past) (gaveUp past)) : Kept past (controlWakes world) := by
  unfold controlWakes
  split
  · next id deadline due =>
      have active : world.control.active = true := by rw [due]; rfl
      have sends : world.control.sends = false := by rw [due]; rfl
      have gone (spent : gaveUp past = true) (up : world.client.running = true) : False :=
        absurd (up.symm.trans (active_not_gone world _ _ routing active spent)) (by decide)
      simp only
      split
      · next complete =>
          have settled (pending : world.client.controlPending = true) : Aligned world binaryClearCommand :=
            flight_empty_aligned world _ (reply_flight_empty world _ _ routing complete pending)
              (routing.control.exclusive pending)
          have fails : Routing { world with
              client := withoutControl world.client, control := .failing id VscpError.invalidFrame.code }
              (routedIds past) (gaveUp past) := by
            refine control_leaves world _ _ _ routing _ sends rfl rfl ?_ ?_ (fun fresh => fresh) ?_
            · intro _ _ failing
              cases failing
              decide
            · exact fun _ _ => rfl
            · exact fun _ pending _ => settled pending
          split
          · exact kept_silent past _ (by simp) fails
          · next command error reply =>
              split
              · exact kept_silent past _ (by simp) fails
              · next valid =>
                  have clears : command = binaryClearCommand := Decidable.not_not.mp (fun other => valid (Or.inl other))
                  have own := routing.control.answered complete active
                  rw [due] at own
                  rw [clears] at reply
                  refine kept_done past _ id _ _ ⟨own, error, reply, rfl⟩
                    (control_leaves world _ _ _ routing _ sends rfl rfl ?_ ?_ (fun fresh => fresh) ?_)
                  · exact fun _ _ failing => Control.noConfusion failing
                  · exact fun spent up => (gone spent up).elim
                  · exact fun _ pending _ => settled pending
      · split
        · exact kept_same world past routing
        · next stopped =>
            refine kept_done past _ id _ none (stopped_code_ne_zero world.client)
              (control_leaves world _ _ _ routing _ sends rfl rfl ?_ ?_ (fun fresh => fresh) ?_)
            · exact fun _ _ failing => Control.noConfusion failing
            · exact fun spent up => (gone spent up).elim
            · exact fun _ pending _ => Or.inl ⟨Bool.eq_false_iff.mpr stopped, routing.control.exclusive pending⟩
  · exact kept_same world past routing

theorem control_times_out_kept (routing : Routing world (routedIds past) (gaveUp past)) :
    Kept past (controlTimesOut world) := by
  unfold controlTimesOut
  split
  · next id deadline due =>
      split
      · have routed : routedIds (past ++ [.gaveUp id]) = routedIds past := by
          rw [routed_ids_append]
          exact List.append_nil _
        have given : gaveUp (past ++ [.gaveUp id]) = true := by
          rw [gaveUp, List.foldl_append]
          rfl
        refine ⟨⟨trivial, trivial⟩, ?_⟩
        simp only
        rw [routed, given]
        refine control_leaves world _ _ true routing _ (by rw [due]; rfl) rfl rfl ?_ ?_ ?_ ?_
        · intro _ _ failing
          cases failing
          decide
        · exact fun _ _ => rfl
        · exact fun fresh => Bool.noConfusion fresh
        · exact fun fresh => Bool.noConfusion fresh
      · exact kept_same world past routing
  · exact kept_same world past routing

theorem control_fails_kept (routing : Routing world (routedIds past) (gaveUp past)) : Kept past (controlFails world) := by
  unfold controlFails
  split
  · next id code due =>
      generalize after : ({ world with
        client := failSingleChannelWorker world.client code, control := .idle } : World) = next
      have same : inFlight next = inFlight world := by
        rw [in_flight_control, in_flight_control world, due, ← after]
        rfl
      have stopped : next.client.running = false := by
        rw [← after]
        exact fail_stops _ _
      have onward : Onward world next :=
        onward_same world next (fun up => absurd (up.symm.trans stopped) (by decide)) (by rw [← after])
      have sameRoutes : routes next.client = routes world.client := by
        rw [← after]
        exact fail_routes _ _
      simp only [routes, Prod.mk.injEq] at sameRoutes
      obtain ⟨polling, rawPending, pollPending, controlPending, _, _, _⟩ := sameRoutes
      have free : next.client.controlPending = false := by
        cases pending : world.client.controlPending with
        | false => rw [controlPending, pending]
        | true =>
            have active := (routing.control.owner pending).2
            rw [due] at active
            exact Bool.noConfusion active
      refine kept_done past _ id code none (routing.control.failing id code due) ⟨?_, ?_, ?_, ?_, ?_, ?_⟩
      · rw [same, ← after]
        exact routing.tickets
      · rw [← after]
        exact routing.coded
      · refine ⟨?_, ?_, ?_, ?_, ?_, ?_, ?_⟩
        · exact fun pending => absurd (free.symm.trans pending) (by decide)
        · exact fun pending => absurd (free.symm.trans pending) (by decide)
        · exact fun pending => absurd (free.symm.trans pending) (by decide)
        · rw [← after]
          exact fun _ active => Bool.noConfusion active
        · rw [← after]
          exact fun sending => Bool.noConfusion sending
        · rw [← after]
          exact fun _ _ failing => Control.noConfusion failing
        · exact fun _ up => absurd (stopped.symm.trans up) (by decide)
      · refine raw_frame world next _ routing.raw onward polling rawPending controlPending (fun _ => ?_)
        rw [flight, same]
        rfl
      · refine poll_frame world next routing.poll onward polling pollPending (congrFun rawPending _) ?_ ?_ (fun _ => ?_)
        · rw [← after]
        · rw [← after]
          exact fun asks => asks
        · rw [flight, same]
          rfl
      · intro off
        rw [← after] at off
        obtain ⟨_, worker, noSender⟩ := routing.down off
        refine ⟨stopped, ?_, ?_⟩
        · rw [← after]
          exact worker
        · rw [← after]
          exact command_free_of _ (command_free_sender world noSender).1 rfl
  · exact kept_same world past routing

variable (next : World) (events : List VscpEventEx)

theorem dropped_books :
    routedIds (past ++ [.dropped events]) = routedIds past ∧ gaveUp (past ++ [.dropped events]) = false := by
  rw [routed_ids_append, gaveUp, List.foldl_append]
  exact ⟨List.append_nil _, rfl⟩

theorem kept_dropped (routing : Routing next (routedIds past) false) :
    Kept past (next, [.dropped events]) := by
  obtain ⟨routed, given⟩ := dropped_books past events
  refine ⟨⟨trivial, trivial⟩, ?_⟩
  simp only
  rw [routed, given]
  exact routing

theorem control_again (control : ControlRouting world given) : ControlRouting world false :=
  ⟨control.owner, control.awaited, control.exclusive, control.answered, control.sending, control.failing,
    fun spent => Bool.noConfusion spent⟩

theorem disconnect_kept (routing : Routing world (routedIds past) (gaveUp past)) : Kept past (disconnect world) := by
  unfold disconnect
  refine kept_dropped past _ _ ?_
  generalize after : ({ world with client := { world.client with
    running := false, error := VscpError.notConnected.code, events := [], frames := []
    rawPending := fun _ => [] } } : World) = next
  have same : inFlight next = inFlight world := by
    rw [← after]
    rfl
  have stopped : next.client.running = false := by rw [← after]
  have none_waits (code : UInt16) : next.client.rawPending code = [] := by rw [← after]
  refine ⟨?_, ?_, ?_, ?_, ?_, ?_⟩
  · rw [same, ← after]
    exact routing.tickets
  · rw [← after]
    exact routing.coded
  · refine control_again next _ (control_frame world next _ routing.control ?_ ?_ ?_ ?_ ?_ ?_ ?_ (fun _ => none_waits _) ?_)
    · rw [← after]
    · rw [← after]
    · rw [← after]
    · rw [← after]
    · rw [← after]
    · exact fun up => absurd (stopped.symm.trans up) (by decide)
    · intro _ id member
      rw [flight, same] at member
      exact member
    · rw [← after]
      exact fun sends => (routing.control.sending sends).2
  · exact ⟨fun code waits => absurd (none_waits code) waits, fun _ _ _ => Or.inl ⟨stopped, none_waits _⟩⟩
  · refine ⟨?_, ?_, fun _ _ _ _ => Or.inl ⟨stopped, none_waits _⟩, ?_⟩
    · rw [← after]
      exact fun pending => ⟨(routing.poll.pollOn pending).1, rfl⟩
    · intro pending alive listening id member
      rw [flight, same] at member
      rw [← after] at pending alive listening ⊢
      refine routing.poll.pollAwaited pending alive ?_ id member
      cases listening with
      | inl up => exact Bool.noConfusion up
      | inr holds => exact Or.inr holds
    · rw [← after]
      exact routing.poll.polls
  · rw [← after]
    exact fun off => ⟨rfl, (routing.down off).2⟩

theorem drained (free : commandFree world = true) (control : next.control = world.control)
    (sender : next.sender = world.sender) (holds : next.worker.holds = []) (request : next.worker.request = [])
    (server : next.server = []) (wire : next.wire.filterMap Arrival.request? = []) : inFlight next = [] := by
  obtain ⟨noSender, sends⟩ := command_free_sender world free
  rw [inFlight, repliesOnWire, arrivals, holds, List.nil_append, wire, server, control, sender, request, noSender,
    control_request_idle _ sends]
  rfl

theorem close_kept (routing : Routing world (routedIds past) (gaveUp past)) : Kept past (close world) := by
  unfold close
  split
  · next due =>
      obtain ⟨notRunning, worker, free⟩ := due
      have stopped : world.client.running = false := Bool.eq_false_iff.mpr notRunning
      refine kept_silent past _ (by simp) ?_
      have empty : inFlight { world with connected := false, server := [], wire := [] } = [] :=
        drained world _ free rfl rfl (by rw [worker]; rfl) (by rw [worker]; rfl) rfl rfl
      have onward := onward_same world { world with connected := false, server := [], wire := [] } (fun up => up) rfl
      have deaf : ¬ Listening { world with connected := false, server := [], wire := [] } := by
        intro listening
        cases listening with
        | inl up => exact absurd (stopped.symm.trans up) (by decide)
        | inr holds => exact holds (by rw [worker]; rfl)
      refine ⟨?_, ?_, ?_, ?_, ?_, fun _ => ⟨stopped, worker, free⟩⟩
      · rw [empty]
        exact Tickets.lose _ _ _ _ routing.tickets List.nil_subperm
      · rw [arrivals, worker]
        exact fun arrival member => absurd member List.not_mem_nil
      · refine control_frame world _ _ routing.control rfl rfl rfl rfl rfl (fun up => up) ?_ routing.control.exclusive ?_
        · intro _ id member
          rw [flight, empty] at member
          exact absurd member List.not_mem_nil
        · exact fun sends => (routing.control.sending sends).2
      · exact raw_frame world _ _ routing.raw onward rfl rfl rfl (fun listening => absurd listening deaf)
      · exact poll_frame world _ routing.poll onward rfl rfl rfl rfl (fun asks => asks) (fun listening => absurd listening deaf)
  · exact kept_same world past routing

theorem connect_kept (buffered : List Bytes) (routing : Routing world (routedIds past) (gaveUp past)) :
    Kept past (connect world buffered) := by
  unfold connect
  split
  · next due =>
      obtain ⟨off, _, worker⟩ := due
      obtain ⟨_, _, free⟩ := routing.down (Bool.eq_false_iff.mpr off)
      obtain ⟨noSender, sends⟩ := command_free_sender world free
      refine kept_dropped past _ _ ?_
      generalize after : ({ world with
        client := { world.client with
          running := true, error := 0, events := [], frames := [], rawActive := false, rawPending := fun _ => []
          pollPending := false, pollSawEvent := false
          controlPending := false, controlComplete := false, controlReply := ⟨[], .other⟩ }
        worker := .top
        nextPoll := world.now
        connected := true
        server := []
        wire := buffered.map (⟨·, .other⟩) } : World) = next
      have unsolicited : next.wire.filterMap Arrival.request? = [] := by
        rw [← after]
        exact List.filterMap_eq_nil_iff.mpr (fun arrival member => by
          obtain ⟨frame, _, same⟩ := List.mem_map.mp member
          rw [← same]
          rfl)
      have empty : inFlight next = [] := by
        refine drained world next free ?_ ?_ ?_ ?_ ?_ unsolicited <;> rw [← after]
        · rfl
        · rfl
      have none_waits (code : UInt16) : next.client.rawPending code = [] := by rw [← after]
      have aligned (code : UInt16) : Aligned next code :=
        flight_empty_aligned next code (by rw [flight, empty]; rfl) (none_waits code)
      refine ⟨?_, ?_, ?_, ?_, ?_, ?_⟩
      · rw [empty, ← after]
        exact Tickets.lose _ _ _ _ routing.tickets List.nil_subperm
      · intro arrival member request origin
        have held : request ∈ (arrivals next).filterMap Arrival.request? :=
          List.mem_filterMap.mpr ⟨arrival, member, by rw [Arrival.request?, origin]⟩
        have silent : (arrivals next).filterMap Arrival.request? = [] := by
          rw [arrivals, List.filterMap_append, unsolicited, ← after]
          rfl
        rw [silent] at held
        exact absurd held List.not_mem_nil
      · rw [← after]
        refine ⟨?_, ?_, ?_, ?_, ?_, routing.control.failing, ?_⟩
        · exact fun pending => Bool.noConfusion pending
        · exact fun pending => Bool.noConfusion pending
        · exact fun pending => Bool.noConfusion pending
        · exact fun complete => Bool.noConfusion complete
        · exact fun sending => absurd (sends.symm.trans sending) (by decide)
        · exact fun spent => Bool.noConfusion spent
      · exact ⟨fun code waits => absurd (none_waits code) waits, fun _ _ _ => aligned _⟩
      · refine ⟨?_, ?_, fun _ _ _ _ => aligned _, ?_⟩
        · rw [← after]
          exact fun pending => Bool.noConfusion pending
        · rw [← after]
          exact fun pending => Bool.noConfusion pending
        · rw [← after]
          exact fun request => absurd rfl request
      · rw [← after]
        exact fun up => Bool.noConfusion up
  · exact kept_same world past routing

end Vscp.BinaryTcp
