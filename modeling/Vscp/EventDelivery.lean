import Vscp.Lib.Fifo
import Vscp.EventArrivals

set_option autoImplicit false

namespace Vscp.BinaryTcp

open ByteMemory

def entries : Event → List (Fifo.Entry VscpEventEx)
  | .arrived event running filter => if running ∧ doLevel2Filter event filter then [.enter (toEventEx event)] else []
  | .called event => [.leave (toEventEx event)]
  | .missed event => [.drop (toEventEx event)]
  | .handed event => [.leave event]
  | .cleared events => events.map .drop
  | .dropped events => events.map .drop
  | _ => []

def history (outputs : List Event) : List (Fifo.Entry VscpEventEx) := outputs.flatMap entries

def settledItems (past : List Event) : List VscpEventEx := (Fifo.settled (history past)).map Prod.snd

def FairDelivery (past : List Event) : Event → Prop
  | .handed event => settledItems past ++ [event] <+: Fifo.entered (history past)
  | .called event => settledItems past ++ [toEventEx event] <+: Fifo.entered (history past)
  | .missed event => settledItems past ++ [toEventEx event] <+: Fifo.entered (history past)
  | .cleared events => settledItems past ++ events = Fifo.entered (history past)
  | .dropped events => settledItems past ++ events <+: Fifo.entered (history past)
  | .noEvent _ => settledItems past = Fifo.entered (history past)
  | _ => True

def pendingEvents (world : World) : List VscpEventEx := world.client.events ++ world.worker.calls

structure Ledger (world : World) (past : List Event) : Prop where
  holds : Fifo.Holds (history past) (pendingEvents world)
  queued : callbacksActive world.client = true → world.client.events = []
  called : callbacksActive world.client = false → world.worker.calls = []

theorem history_append (first second : List Event) : history (first ++ second) = history first ++ history second :=
  List.flatMap_append

theorem entries_quiet (output : Event) (quiet : output.quiet = true) : entries output = [] := by
  cases output <;> first | rfl | exact Bool.noConfusion quiet

variable (world : World) (past : List Event) (client : BinaryClient) (frame : Bytes)

variable (clock : Clock) (beyond : Memory) (acknowledge : Bool) (event : VscpEvent) (next : Step) (output : Event)

theorem fair_quiet (quiet : output.quiet = true) : FairDelivery past output := by
  cases output <;> trivial

theorem history_quiet (past outputs : List Event) (quiet : ∀ output ∈ outputs, output.quiet = true) :
    history (past ++ outputs) = history past := by
  rw [history_append, history, history, List.flatMap_eq_nil_iff.mpr (fun output member => entries_quiet output (quiet output member)),
    List.append_nil]

theorem sound_quiet (past outputs : List Event) (quiet : ∀ output ∈ outputs, output.quiet = true) :
    Run.Sound FairDelivery past outputs := by
  induction outputs generalizing past with
  | nil => exact trivial
  | cons output rest ih =>
      exact ⟨fair_quiet past output (quiet output List.mem_cons_self),
        ih (past ++ [output]) (fun other member => quiet other (List.mem_cons_of_mem _ member))⟩

abbrev LedgerKept (past : List Event) (world : World) (outputs : List Event) : Prop :=
  Run.Sound FairDelivery past outputs ∧ Ledger world (past ++ outputs)

theorem untouched_ledger (hand : Hand) (result : World × List Event) (ledger : Ledger world past)
    (untouched : Untouched world hand result) :
    LedgerKept past result.1 result.2 := by
  obtain ⟨holds, queued, called⟩ := ledger
  obtain ⟨events, callbacks, calls, _, quiet⟩ := untouched
  refine ⟨sound_quiet past result.2 quiet, ?_, ?_, ?_⟩
  · rw [history_quiet past result.2 quiet, pendingEvents, events, calls]
    exact holds
  · rw [callbacks, events]
    exact queued
  · rw [callbacks, calls]
    exact called

theorem after_frame_calls (next : Next) : (afterFrame next).calls = [] := by cases next <;> rfl

theorem next_pending (first : VscpEventEx) (rest : List VscpEventEx)
    (holds : Fifo.Holds (history past) (first :: rest)) : settledItems past ++ [first] <+: Fifo.entered (history past) := by
  rw [holds]
  exact ⟨rest, by rw [List.append_assoc]; rfl⟩

theorem process_ledger (ledger : Ledger world past) :
    LedgerKept past (workerProcesses world).1 (workerProcesses world).2 := by
  unfold workerProcesses
  split
  · next arrival due =>
      obtain ⟨callbacks, kept | cleared⟩ := process_events world.client world.pollId world.control.id arrival
      · exact untouched_ledger world past _ _ ledger
          ⟨kept.1, callbacks, by rw [due]; exact after_frame_calls _, rfl, kept.2⟩
      · obtain ⟨holds, queued, called⟩ := ledger
        have pending : pendingEvents world = world.client.events := by
          rw [pendingEvents, due]
          exact List.append_nil _
        rw [pending] at holds
        simp only [cleared.2]
        refine ⟨⟨trivial, ?_, trivial⟩, ?_, fun _ => cleared.1, fun _ => after_frame_calls _⟩
        · have quiet : history (past ++ [.routed (.control world.control.id) arrival]) = history past :=
            history_quiet past _ (by simp [Event.quiet])
          rw [FairDelivery, settledItems, quiet]
          exact holds.symm
        · have none_left : pendingEvents { world with
              client := (processBinaryFrame world.client world.pollId world.control.id arrival).1
              worker := afterFrame (processBinaryFrame world.client world.pollId world.control.id arrival).2.1 } = [] := by
            simp only [pendingEvents, cleared.1, after_frame_calls, List.append_nil]
          have emptied : history (past ++ [.routed (.control world.control.id) arrival, .cleared world.client.events]) =
              history past ++ world.client.events.map .drop := by
            rw [history_append]
            simp [history, entries]
          rw [none_left, emptied]
          exact Fifo.holds_clear _ _ holds
  · exact untouched_ledger world past _ _ ledger (same_untouched world)

theorem decoded_converts (frame : Bytes) (acknowledge : Bool)
    (written : Except VscpError Unit) (event : VscpEvent)
    (decoded : processBinaryEventFrame clock beyond frame acknowledge written = .ok event) :
    convertEventToEventEx emptyEventEx event = some (toEventEx event) := by
  unfold processBinaryEventFrame at decoded
  split at decoded
  · cases decoded
  · next shape =>
      simp only at decoded
      split at decoded
      · cases decoded
      · next sized =>
          cases found : getEventFromFrame clock (ofBytes frame beyond) frame.length with
          | none => rw [found] at decoded; cases decoded
          | some result =>
              have same : result = event := by
                rw [found] at decoded
                cases acknowledge with
                | false => exact Except.ok.inj decoded
                | true =>
                    cases written with
                    | error code => cases decoded
                    | ok _ => exact Except.ok.inj decoded
              rw [same] at found
              obtain ⟨_, size, data⟩ := decoded_event clock _ _ event found
              have long : 38 ≤ frame.length := Nat.le_of_not_lt (fun short => shape (Or.inl short))
              have read : binaryRead16 frame posSizeMsb = read16 (ofBytes frame beyond) posSizeMsb := by
                have first : posSizeMsb < frame.length := by rw [posSizeMsb]; omega
                have second : posSizeMsb + 1 < frame.length := by rw [posSizeMsb]; omega
                rw [binaryRead16, read16, read16, of_bytes_inside _ _ _ first, of_bytes_inside _ _ _ first,
                  of_bytes_inside _ _ _ second, of_bytes_inside _ _ _ second]
              have small : ¬ (event.sizeData.toNat > maxData ∨ (event.sizeData ≠ 0 ∧ event.pdata = none)) := by
                rintro (large | missing)
                · rw [size, ← read] at large
                  exact sized (Or.inl large)
                · rw [data, frameData, ← size, if_neg missing.1] at missing
                  exact absurd missing.2 (by simp)
              rw [toEventEx, convertEventToEventEx, if_neg small]
              rfl

def accepts (client : BinaryClient) (event : VscpEvent) : Bool := client.running ∧ doLevel2Filter event client.filterIn

theorem filter_event_cases (converts : convertEventToEventEx emptyEventEx event = some (toEventEx event)) :
    (accepts client event = true ∧ callbacksActive client = true ∧ filterEvent client event = (client, .calling event)) ∨
      (accepts client event = true ∧ callbacksActive client = false ∧
        filterEvent client event = ({ client with events := client.events ++ [toEventEx event] }, .top)) ∨
      (accepts client event = false ∧ filterEvent client event = (client, .top)) := by
  by_cases accepted : client.running ∧ doLevel2Filter event client.filterIn
  · by_cases active : client.callbackEvActive ∨ client.callbackExActive
    · exact Or.inl ⟨decide_eq_true accepted, decide_eq_true active, by rw [filterEvent, if_pos accepted, if_pos active]⟩
    · refine Or.inr (Or.inl ⟨decide_eq_true accepted, decide_eq_false active, ?_⟩)
      rw [filterEvent, if_pos accepted, if_neg active, converts]
  · exact Or.inr (Or.inr ⟨decide_eq_false accepted, by rw [filterEvent, if_neg accepted]⟩)

theorem dispatch_history : history (past ++ dispatchOutputs client frame acknowledge event) =
      history past ++ if accepts client event then [.enter (toEventEx event)] else [] := by
  have own : history (dispatchOutputs client frame acknowledge event) =
      if accepts client event then [.enter (toEventEx event)] else [] := by
    cases acknowledge <;> cases accepted : accepts client event <;>
      simp only [accepts, decide_eq_true_eq, decide_eq_false_iff_not] at accepted <;>
      simp [dispatchOutputs, history, entries, accepted]
  rw [history_append, own]

theorem dispatch_sound : Run.Sound FairDelivery past (dispatchOutputs client frame acknowledge event) := by
  cases acknowledge
  · exact ⟨trivial, trivial⟩
  · exact ⟨trivial, trivial, trivial⟩

theorem dispatch_ledger (written : Except VscpError Unit) (ledger : Ledger world past) :
    LedgerKept past (workerDispatches world clock beyond written).1
      (workerDispatches world clock beyond written).2 := by
  unfold workerDispatches
  split
  · next frame acknowledge due =>
      have calls : world.worker.calls = [] := by rw [due]; rfl
      cases decoded : processBinaryEventFrame clock beyond frame acknowledge written with
      | error code =>
          exact untouched_ledger world past _ ({ world with worker := .failing code.code }, []) ledger
            ⟨rfl, rfl, calls.symm, rfl, by simp⟩
      | ok event =>
          obtain ⟨holds, queued, called⟩ := ledger
          have pending : pendingEvents world = world.client.events := by rw [pendingEvents, calls, List.append_nil]
          rw [pending] at holds
          have converts := decoded_converts clock beyond frame acknowledge written event decoded
          refine ⟨dispatch_sound past world.client frame acknowledge event, ?_⟩
          obtain ⟨accepted, active, next⟩ | ⟨accepted, inactive, next⟩ | ⟨ignored, next⟩ :=
            filter_event_cases world.client event converts
          · refine ⟨?_, ?_, ?_⟩
            · have one : pendingEvents { world with client := world.client, worker := .calling event } = [toEventEx event] := by
                rw [pendingEvents, queued active]
                rfl
              simp only [next]
              rw [one, dispatch_history, if_pos accepted]
              rw [queued active] at holds
              exact Fifo.holds_enter _ _ _ holds
            · simp only [next]
              exact queued
            · simp only [next, active]
              exact fun inactive => absurd inactive (by decide)
          · refine ⟨?_, ?_, ?_⟩
            · simp only [next]
              rw [dispatch_history, if_pos accepted, pendingEvents]
              simp only [Worker.calls, List.append_nil]
              exact Fifo.holds_enter _ _ _ holds
            · simp only [next]
              intro active
              exact absurd (active.symm.trans inactive) (by decide)
            · simp only [next]
              exact fun _ => rfl
          · refine ⟨?_, ?_, ?_⟩
            · simp only [next]
              rw [dispatch_history, ignored, pendingEvents]
              simp only [Worker.calls, List.append_nil, Bool.false_eq_true, if_false]
              exact holds
            · simp only [next]
              exact queued
            · simp only [next]
              exact fun _ => rfl
  · exact untouched_ledger world past _ _ ledger (same_untouched world)

theorem call_ledger (ledger : Ledger world past) :
    LedgerKept past (workerCalls world).1 (workerCalls world).2 := by
  unfold workerCalls
  split
  · next event due =>
      obtain ⟨holds, queued, called⟩ := ledger
      have calls : world.worker.calls = [toEventEx event] := by rw [due]; rfl
      have active : callbacksActive world.client = true := by
        refine Bool.of_not_eq_false (fun inactive => ?_)
        rw [called inactive] at calls
        exact absurd calls (by simp)
      have only : pendingEvents world = [toEventEx event] := by rw [pendingEvents, queued active, calls]; rfl
      rw [only] at holds
      have first := next_pending past (toEventEx event) [] holds
      have empty : pendingEvents { world with worker := .top } = [] := by rw [pendingEvents, queued active]; rfl
      cases running : world.client.running with
      | true =>
          refine ⟨⟨first, trivial⟩, ?_, queued, fun _ => rfl⟩
          rw [empty, history_append]
          exact Fifo.holds_leave _ _ _ holds
      | false =>
          refine ⟨⟨first, trivial⟩, ?_, queued, fun _ => rfl⟩
          rw [empty, history_append]
          exact Fifo.holds_clear _ _ holds
  · exact untouched_ledger world past _ _ ledger (same_untouched world)

theorem no_event_ledger (code : Int) (ledger : Ledger world past)
    (none_held : pendingEvents world = []) :
    LedgerKept past world [.noEvent code] := by
  obtain ⟨holds, queued, called⟩ := ledger
  have same : history (past ++ [.noEvent code]) = history past := by
    rw [history_append]
    exact List.append_nil _
  refine ⟨⟨?_, trivial⟩, by rw [same]; exact holds, queued, called⟩
  rw [none_held] at holds
  rw [FairDelivery, holds, List.append_nil]
  rfl

theorem receive_ledger (blocking expired : Bool) (ledger : Ledger world past) :
    LedgerKept past (step world (.receive blocking expired)).1 (step world (.receive blocking expired)).2 := by
  simp only [step, receiveSingleChannel]
  by_cases active : world.client.callbackEvActive ∨ world.client.callbackExActive
  · rw [if_pos active]
    exact untouched_ledger world past _ (world, [.refused .notSupported]) ledger
      ⟨rfl, rfl, rfl, rfl, by simp [Event.quiet]⟩
  · rw [if_neg active]
    obtain ⟨holds, queued, called⟩ := ledger
    have inactive : callbacksActive world.client = false := decide_eq_false active
    have pending : pendingEvents world = world.client.events := by
      rw [pendingEvents, called inactive]
      exact List.append_nil _
    rw [pending] at holds
    cases events : world.client.events with
    | nil =>
        rw [events] at holds
        have none_held : pendingEvents world = [] := pending.trans events
        have told (code : Int) := no_event_ledger world past code ⟨by rw [none_held]; exact holds, queued, called⟩ none_held
        cases running : world.client.running with
        | false => exact told _
        | true =>
            cases blocking with
            | false => exact told _
            | true =>
                cases expired with
                | true => exact told _
                | false =>
                    exact untouched_ledger world past _ (world, []) ⟨by rw [none_held]; exact holds, queued, called⟩ (same_untouched world)
    | cons first rest =>
        rw [events] at holds
        refine ⟨⟨next_pending past first rest holds, trivial⟩, ?_, ?_, called⟩
        · have left : pendingEvents { world with client := { world.client with events := rest } } = rest := by
            rw [pendingEvents, called inactive]
            exact List.append_nil _
          rw [left, history_append]
          exact Fifo.holds_leave _ _ _ holds
        · intro some_active
          exact absurd some_active (by rw [show callbacksActive { world.client with events := rest } = false from inactive]; decide)

theorem drop_ledger (next : World) (ledger : Ledger world past)
    (empty : next.client.events = []) (callbacks : callbacksActive next.client = callbacksActive world.client)
    (calls : next.worker.calls = world.worker.calls) :
    LedgerKept past next [.dropped world.client.events] := by
  obtain ⟨holds, queued, called⟩ := ledger
  refine ⟨⟨⟨world.worker.calls, ?_⟩, trivial⟩, ?_, fun _ => empty, ?_⟩
  · rw [holds, pendingEvents, List.append_assoc]
    rfl
  · have entry : history (past ++ [.dropped world.client.events]) = history past ++ world.client.events.map .drop := by
      rw [history_append]
      simp [history, entries]
    rw [entry, pendingEvents, empty, List.nil_append, calls]
    cases active : callbacksActive world.client with
    | true =>
        rw [pendingEvents, queued active] at holds
        rw [queued active, List.map_nil, List.append_nil]
        exact holds
    | false =>
        rw [pendingEvents, called active, List.append_nil] at holds
        rw [called active]
        exact Fifo.holds_clear _ _ holds
  · rw [callbacks, calls]
    exact called

theorem step_ledger (ledger : Ledger world past) :
    LedgerKept past (step world next).1 (step world next).2 := by
  by_cases plain : next.plain = true
  · exact untouched_ledger world past _ _ ledger (step_untouched world next plain)
  · cases next with
    | receive blocking expired => exact receive_ledger world past blocking expired ledger
    | disconnect => exact drop_ledger world past _ ledger rfl rfl rfl
    | connect buffered =>
        simp only [step, connect]
        split
        · next due => exact drop_ledger world past _ ledger rfl rfl (by rw [due.2.2]; rfl)
        · exact untouched_ledger world past _ _ ledger (same_untouched world)
    | workerProcesses => exact process_ledger world past ledger
    | workerDispatches clock beyond written => exact dispatch_ledger world past clock beyond written ledger
    | workerCalls => exact call_ledger world past ledger
    | _ => exact absurd rfl plain

-- What an event that came in may be lost for: the client was stopped before the callback, the server has confirmed a
-- clear, or the client is disconnected or connected again.
def Excused (world : World) (next : Step) : Event → Prop
  | .missed _ => world.client.running = false
  | .cleared _ => ∃ arrival, world.worker = .processing arrival ∧ world.client.controlPending = true ∧
      world.client.controlCode = binaryClearCommand ∧ binaryReply arrival.frame = some (binaryClearCommand, 0)
  | .dropped _ => next = .disconnect ∨ ∃ buffered, next = .connect buffered
  | _ => True

structure Delivers (world : World) : Prop where
  handed : ∀ blocking expired event rest, callbacksActive world.client = false → world.client.events = event :: rest →
    (step world (.receive blocking expired)).2 = [.handed event]
  called : ∀ event, world.worker = .calling event → world.client.running = true →
    (step world .workerCalls).2 = [.called event]
  excused : ∀ next, ∀ output ∈ (step world next).2, Excused world next output

theorem excused_quiet (quiet : output.quiet = true) : Excused world next output := by
  cases output <;> trivial

variable (pollId controlId : Nat) (arrival : Arrival) (events : List VscpEventEx)

theorem reply_cleared (cleared : .cleared events ∈ (processReply client pollId controlId arrival).2.2) :
    client.controlPending = true ∧ client.controlCode = binaryClearCommand ∧
      binaryReply arrival.frame = some (binaryClearCommand, 0) := by
  unfold processReply at cleared
  simp only at cleared
  split at cleared
  · split at cleared <;> simp at cleared
  · split at cleared
    · next waits =>
        cases reply : binaryReply arrival.frame with
        | none => simp [reply] at cleared
        | some read =>
            obtain ⟨code, error⟩ := read
            obtain ⟨_, _, _, own⟩ := valid_reply_frame _ _ _ reply
            simp only [reply] at cleared
            split at cleared
            · cases cleared
            · split at cleared
              · next clears => exact ⟨waits.1, waits.2.2 ▸ clears.1, by rw [← own, clears.1, clears.2]⟩
              · simp at cleared
    · split at cleared
      · simp at cleared
      · split at cleared
        · split at cleared
          · cases cleared
          · split at cleared <;> cases cleared
        · cases cleared

theorem process_cleared (cleared : .cleared events ∈ (processBinaryFrame client pollId controlId arrival).2.2) :
    client.controlPending = true ∧ client.controlCode = binaryClearCommand ∧
      binaryReply arrival.frame = some (binaryClearCommand, 0) := by
  unfold processBinaryFrame at cleared
  split at cleared
  · cases cleared
  · split at cleared
    · cases cleared
    · split at cleared
      · exact reply_cleared client pollId controlId arrival events cleared
      · cases cleared

theorem process_excused (put : output ∈ (workerProcesses world).2) :
    Excused world .workerProcesses output := by
  unfold workerProcesses at put
  split at put
  · next arrival due =>
      obtain ⟨_, kept | clears⟩ := process_events world.client world.pollId world.control.id arrival
      · exact excused_quiet world _ output (kept.2 output put)
      · have taken := process_cleared world.client world.pollId world.control.id arrival world.client.events
        rw [clears.2] at taken put
        rcases List.mem_pair.mp put with rfl | rfl
        · exact trivial
        · exact ⟨arrival, due, taken (List.mem_pair.mpr (.inr rfl))⟩
  · cases put

theorem step_excused (put : output ∈ (step world next).2) : Excused world next output := by
  by_cases plain : next.plain = true
  · exact excused_quiet world next output ((step_untouched world next plain).quiet output put)
  · cases next with
    | receive blocking expired =>
        simp only [step, receiveSingleChannel] at put
        split at put
        · rw [List.mem_singleton.mp put]
          exact trivial
        · split at put
          · rw [List.mem_singleton.mp put]
            exact trivial
          · split at put
            · split at put
              · rw [List.mem_singleton.mp put]
                exact trivial
              · cases expired with
                | false => cases put
                | true =>
                    rw [List.mem_singleton.mp put]
                    exact trivial
            · rw [List.mem_singleton.mp put]
              exact trivial
    | disconnect =>
        rw [List.mem_singleton.mp put]
        exact .inl rfl
    | connect buffered =>
        simp only [step, connect] at put
        split at put
        · rw [List.mem_singleton.mp put]
          exact .inr ⟨buffered, rfl⟩
        · cases put
    | workerProcesses => exact process_excused world output put
    | workerDispatches clock beyond written =>
        simp only [step, workerDispatches] at put
        split at put
        · split at put
          · cases put
          · rcases List.mem_append.mp put with confirmed | arrived
            · split at confirmed
              · rw [List.mem_singleton.mp confirmed]
                exact trivial
              · cases confirmed
            · rw [List.mem_singleton.mp arrived]
              exact trivial
        · cases put
    | workerCalls =>
        simp only [step, workerCalls] at put
        split at put
        · rw [List.mem_singleton.mp put]
          split
          · exact trivial
          · next stopped => exact Bool.eq_false_iff.mpr stopped
        · cases put
    | _ => exact absurd rfl plain

theorem delivers : Delivers world where
  handed blocking expired event rest inactive events := by
    have quiet : ¬ (world.client.callbackEvActive = true ∨ world.client.callbackExActive = true) :=
      of_decide_eq_false inactive
    simp only [step, receiveSingleChannel, if_neg quiet, events]
    rfl
  called event calling running := by
    simp only [step, workerCalls, calling, running, if_true]
  excused := step_excused world

theorem initial_ledger (polling : Bool) (filterIn : VscpEventFilter) (callbackEv callbackEx : Bool)
    (responseTimeout : Nat) : Ledger (initial polling filterIn callbackEv callbackEx responseTimeout) [] :=
  ⟨Fifo.holds_nil, fun _ => rfl, fun _ => rfl⟩

-- Every event the worker takes arrives, and every accepted one is handed out, called back or thrown away for a reason
-- that is on record, once and in order of arrival, or it is still held.
theorem events_delivered_in_order (polling : Bool) (filterIn : VscpEventFilter) (callbackEv callbackEx : Bool)
    (responseTimeout : Nat) (steps : List Step) :
    let start := initial polling filterIn callbackEv callbackEx responseTimeout
    let result := Run.run step start steps
    arrivedEvents result.2 = arriving start .empty steps ∧ Run.Sound FairDelivery [] result.2 ∧
      Fifo.Holds (history result.2) (pendingEvents result.1) ∧ Delivers result.1 := by
  have start := initial_ledger polling filterIn callbackEv callbackEx responseTimeout
  have kept := Run.run_keeps step (fun _ _ => True) FairDelivery Ledger
    (fun world past next ledger _ => step_ledger world past next ledger) _ [] steps start (Run.meets_always step _ steps)
  exact ⟨run_arrived _ steps, kept.1, kept.2.holds, delivers _⟩

def stoppedFrame : Bytes := eventFrame 0 exampleEvent

def stoppedEvent : VscpEvent :=
  { exampleEvent with obid := 0, crc := crcFast ((eventFrameContent 0 exampleEvent).drop 1) }

-- An event is being read while a clear goes unanswered: the worker finds the client
-- stopped and drops it.
theorem stopped_client_drops_event :
    let result := Run.run step (initial false clearVSCPFilter false false 100)
      [.connect [], .serverSends stoppedFrame, .clear false, .controlSends (.ok ()), .controlWaits, .workerTop,
        .workerTurn, .workerReceives .frame, .tick 100, .controlTimesOut, .controlFails, .workerProcesses,
        .workerDispatches exampleClock (fun _ => 0) (.ok ()), .receive false false]
    result.2 = [.dropped [], .gaveUp 0, .commandDone 0 VscpError.timeout.code none,
        .confirmed (confirmationFrame stoppedFrame), .arrived stoppedEvent false clearVSCPFilter, .noEvent VscpError.timeout.code] ∧
      doLevel2Filter stoppedEvent clearVSCPFilter = true ∧ result.1.client.events = [] := by
  decide +kernel

end Vscp.BinaryTcp
