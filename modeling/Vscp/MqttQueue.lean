import Vscp.Lib.Fifo
import Vscp.Lib.Run
import Vscp.MqttClient

set_option autoImplicit false

namespace Vscp.Mqtt

open RemoteTcp (Text)

inductive Call where
  | handleMessage (clock : Clock) (rawtime : UInt64) (ev : VscpEvent) (pmsg : Message)
  | receive (target : Target)
  | receiveBlocking (target : Target) (timeout : UInt32) (errnoTimedOut : Bool)
  | clear

inductive Output where
  | queued (event : VscpEvent)
  | overran
  | delivered (event : VscpEvent)
  | lost (event : VscpEvent)
  | fifoEmpty (blocking : Bool)
  | waited
  | discarded (event : VscpEvent)
deriving DecidableEq

def answer (blocking : Bool) (before : Client) : Except ReceiveError VscpEvent → List Output
  | .ok event => [.delivered event]
  | .error .memory => before.receiveQueue.head?.toList.map .lost
  | .error .fifoEmpty => [.fifoEmpty blocking]
  | .error .timeout => []
  | .error .error => []

def step (readers : Readers) (client : Client) : Call → Client × List Output
  | .handleMessage clock rawtime ev pmsg =>
      match handleMessage readers clock rawtime client ev pmsg with
      | none => (client, [.overran])
      | some (_, after) => (after, (after.receiveQueue.drop client.receiveQueue.length).map .queued)
  | .receive target =>
      let taken := receive client target
      (taken.2, answer false client taken.1)
  | .receiveBlocking target timeout errnoTimedOut =>
      let taken := receiveBlocking client target timeout errnoTimedOut
      if timeout < 4000 ∧ (semWait client timeout).isNone then (taken.2, [.waited])
      else (taken.2, answer true client taken.1)
  | .clear => (clear client, client.receiveQueue.map .discarded)

def history (outputs : List Output) : List (Fifo.Entry VscpEvent) :=
  outputs.filterMap fun
    | .queued event => some (.enter event)
    | .delivered event => some (.leave event)
    | .lost event => some (.drop event)
    | .discarded event => some (.drop event)
    | _ => none

def out (past : List Output) : List VscpEvent := (Fifo.settled (history past)).map Prod.snd

-- What a caller may be told, after the outputs before it: the next event that came in, or that there is none.
def Fair (past : List Output) : Output → Prop
  | .delivered event => out past ++ [event] <+: Fifo.entered (history past)
  | .fifoEmpty blocking => blocking = false ∧ out past = Fifo.entered (history past)
  | .waited => out past = Fifo.entered (history past)
  | .lost _ => False
  | .overran => False
  | .queued _ => True
  | .discarded _ => True

structure InStep (client : Client) (past : List Output) : Prop where
  counted : client.semReceiveQueue = client.receiveQueue.length
  holds : Fifo.Holds (history past) client.receiveQueue
  fair : Run.Sound Fair [] past

def Heeded (client : Client) : Call → Prop
  | .handleMessage _ _ _ pmsg =>
      messageFormat client.subscribeTopicList pmsg = some .xmlfmt → pmsg.payload.length ≤ xmlBuffSize
  | .receive _ => client.receiveQueue = []
  | .receiveBlocking _ _ _ => True
  | .clear => client.receiveQueue = []

structure Copied (event : VscpEvent) : Prop where
  size : event.sizeData.toNat ≤ maxData
  present : ¬ (event.sizeData ≠ 0 ∧ event.pdata = none)

theorem copy_event_copied (ev copy : VscpEvent) (copied : copyEvent ev = some copy) : Copied copy := by
  unfold copyEvent at copied
  split at copied
  · cases copied
  · rename_i fits
    obtain rfl := Option.some.inj copied
    refine ⟨Nat.le_of_not_lt fits, ?_⟩
    rintro ⟨size, missing⟩
    have present : (if ev.sizeData = 0 then none else some ev.dataBytes) = some ev.dataBytes := if_neg size
    cases present.symm.trans missing

theorem copied_converts (target : Target) (event : VscpEvent) (copied : Copied event) :
    convertFor target event = true := by
  have fits := Nat.not_lt.mpr copied.size
  cases target with
  | ev =>
      rw [convertFor, copyEvent, if_neg fits]
      rfl
  | ex =>
      rw [convertFor, convertEventToEventEx, if_neg (not_or.mpr ⟨fits, copied.present⟩)]
      rfl
  | msg =>
      rw [convertFor, Option.isSome_iff_ne_none]
      intro refused
      exact copied.present ((event_to_canal_refuses blankMsg event).mp refused)

theorem xml_comes_back (readers : Readers) (clock : Clock) (rawtime : UInt64) (depth : Int) (ev : VscpEvent)
    (payload : Text) :
    (convertXmlToEvent readers.sax clock rawtime depth ev payload).isSome ↔ payload.length ≤ xmlBuffSize := by
  have runs : ∀ (events : List XmlText.SaxEvent) (state : Int × VscpEvent),
      (events.foldlM (callback (startEventXmlParser clock rawtime)) state).isSome := by
    intro events
    induction events with
    | nil => exact fun _ => rfl
    | cons event events ih =>
        intro state
        obtain ⟨next, taken⟩ : ∃ next, callback (startEventXmlParser clock rawtime) state event = some next := by
          cases event with
          | start name attributes =>
              simp only [callback, startEventXmlParser]
              split
              · exact ⟨_, rfl⟩
              · exact ⟨_, rfl⟩
          | stop name => exact ⟨_, rfl⟩
        rw [List.foldlM_cons, taken]
        exact ih next
  unfold convertXmlToEvent decodeXml
  by_cases empty : payload = []
  · rw [if_pos empty, empty]
    exact ⟨fun _ => Nat.zero_le _, fun _ => rfl⟩
  · rw [if_neg empty]
    by_cases long : xmlBuffSize < payload.length
    · rw [if_pos long]
      exact ⟨fun some => Bool.noConfusion some, fun fits => absurd long (Nat.not_lt.mpr fits)⟩
    · rw [if_neg long, Option.isSome_map]
      exact ⟨fun _ => Nat.le_of_not_lt long, fun _ => runs _ _⟩

theorem save_event_cases (client : Client) (event : VscpEvent) :
    saveEvent client event = client ∨
      saveEvent client event = { client with
        receiveQueue := client.receiveQueue ++ [event]
        semReceiveQueue := client.semReceiveQueue + 1 } := by
  unfold saveEvent
  split
  · exact .inr rfl
  · exact .inl rfl

def Extends (before after : Client) : Prop :=
  (after.receiveQueue = before.receiveQueue ∧ after.semReceiveQueue = before.semReceiveQueue) ∨
    ∃ event, Copied event ∧ after.receiveQueue = before.receiveQueue ++ [event] ∧
      after.semReceiveQueue = before.semReceiveQueue + 1

theorem handle_event_extends (client : Client) (ev : VscpEvent) : Extends client (handleEvent client ev).2 := by
  unfold handleEvent
  split
  · exact .inl ⟨rfl, rfl⟩
  · split
    · exact .inl ⟨rfl, rfl⟩
    · cases copied : copyEvent ev with
      | none => exact .inl ⟨rfl, rfl⟩
      | some pEvent =>
          rcases save_event_cases client pEvent with full | room
          · exact .inl ⟨congrArg Client.receiveQueue full, congrArg Client.semReceiveQueue full⟩
          · exact .inr ⟨pEvent, copy_event_copied ev pEvent copied, congrArg Client.receiveQueue room,
              congrArg Client.semReceiveQueue room⟩

theorem history_append (first second : List Output) : history (first ++ second) = history first ++ history second :=
  List.filterMap_append

section

variable (readers : Readers)

variable (clock : Clock) (rawtime : UInt64)

theorem handle_message_extends (client : Client) (ev : VscpEvent) (pmsg : Message)
    (handled : Bool × Client) (comes : handleMessage readers clock rawtime client ev pmsg = some handled) :
    Extends client handled.2 := by
  obtain ⟨decoded, _, rfl⟩ := Option.map_eq_some_iff.mp comes
  cases decoded.2 with
  | none => exact .inl ⟨rfl, rfl⟩
  | some read => exact handle_event_extends { client with depthEventParser := decoded.1 } read

theorem handle_message_comes_back (client : Client) (ev : VscpEvent)
    (pmsg : Message) :
    (handleMessage readers clock rawtime client ev pmsg).isSome ↔
      (messageFormat client.subscribeTopicList pmsg = some .xmlfmt → pmsg.payload.length ≤ xmlBuffSize) := by
  rw [handleMessage, Option.isSome_map, readMessage]
  by_cases empty : pmsg.payload = []
  · rw [if_pos empty, empty]
    exact ⟨fun _ _ => Nat.zero_le _, fun _ => rfl⟩
  · rw [if_neg empty]
    cases messageFormat client.subscribeTopicList pmsg with
    | none =>
        constructor
        · intro _ xml
          cases xml
        · exact fun _ => rfl
    | some format =>
        simp only [Option.some.injEq]
        cases format with
        | xmlfmt =>
            rw [decodePayload, Option.isSome_map, xml_comes_back]
            exact ⟨fun fits _ => fits, fun fits => fits rfl⟩
        | jsonfmt => exact ⟨fun _ xml => MqttMsgFormat.noConfusion xml, fun _ => rfl⟩
        | strfmt => exact ⟨fun _ xml => MqttMsgFormat.noConfusion xml, fun _ => rfl⟩
        | binfmt => exact ⟨fun _ xml => MqttMsgFormat.noConfusion xml, fun _ => rfl⟩
        | autofmt => exact ⟨fun _ xml => MqttMsgFormat.noConfusion xml, fun _ => rfl⟩

theorem handle_message_keeps (client : Client) (ev : VscpEvent) (pmsg : Message)
    (past : List Output) (here : InStep client past) :
    InStep (step readers client (.handleMessage clock rawtime ev pmsg)).1
      (past ++ (step readers client (.handleMessage clock rawtime ev pmsg)).2) ↔
        Heeded client (.handleMessage clock rawtime ev pmsg) := by
  have back := handle_message_comes_back readers clock rawtime client ev pmsg
  cases comes : handleMessage readers clock rawtime client ev pmsg with
  | none =>
      have taken : step readers client (.handleMessage clock rawtime ev pmsg) = (client, [.overran]) := by
        simp only [step, comes]
      rw [comes] at back
      rw [taken]
      constructor
      · intro after
        exact absurd ((Run.sound_append_iff Fair [] past _).mp after.fair).2.1 not_false
      · intro heeded
        cases back.mpr heeded
  | some handled =>
      have taken : step readers client (.handleMessage clock rawtime ev pmsg) =
          (handled.2, (handled.2.receiveQueue.drop client.receiveQueue.length).map .queued) := by
        simp only [step, comes]
      rw [comes] at back
      rw [taken]
      refine ⟨fun _ => back.mp rfl, fun _ => ?_⟩
      rcases handle_message_extends readers clock rawtime client ev pmsg handled comes with
        ⟨queue, count⟩ | ⟨event, _, queue, count⟩
      · rw [queue, List.drop_length, List.map_nil, List.append_nil]
        exact ⟨by rw [queue, count, here.counted], by rw [queue]; exact here.holds, here.fair⟩
      · rw [queue, List.drop_left, List.map_singleton]
        constructor
        · rw [queue, count, here.counted, List.length_append, List.length_singleton]
        · rw [queue, history_append]
          exact Fifo.holds_enter _ _ event here.holds
        · exact Run.sound_append Fair [] past _ here.fair ⟨trivial, trivial⟩

variable (client : Client) (target : Target) (past : List Output)

variable (event : VscpEvent) (rest : List VscpEvent)

theorem delivered_fair (past : List Output)
    (here : InStep client past) (queue : client.receiveQueue = event :: rest) : Fair past (.delivered event) := by
  have holds := here.holds
  rw [queue] at holds
  exact ⟨rest, by rw [holds, List.append_assoc, List.singleton_append]; rfl⟩

theorem empty_out (here : InStep client past) (queue : client.receiveQueue = []) :
    out past = Fifo.entered (history past) := by
  have holds := here.holds
  rw [queue] at holds
  rw [holds, List.append_nil]
  rfl

theorem receive_first (copied : Copied event) (queue : client.receiveQueue = event :: rest) :
    receive client target = (.ok event, { client with receiveQueue := rest }) := by
  rw [receive, queue]
  exact if_pos (copied_converts target event copied)

theorem receive_none (queue : client.receiveQueue = []) :
    receive client target = (.error .fifoEmpty, client) := by
  rw [receive, queue]

def AllCopied (client : Client) : Prop := ∀ event ∈ client.receiveQueue, Copied event

theorem receive_keeps (copied : AllCopied client)
    (here : InStep client past) :
    InStep (step readers client (.receive target)).1 (past ++ (step readers client (.receive target)).2) ↔
      Heeded client (.receive target) := by
  cases queue : client.receiveQueue with
  | nil =>
      have none := receive_none client target queue
      have told := empty_out client past here queue
      simp only [step, none, answer]
      refine ⟨fun _ => queue, fun _ => ⟨here.counted, ?_, ?_⟩⟩
      · rw [history_append]
        exact (List.append_nil (history past)).symm ▸ here.holds
      · exact Run.sound_append Fair [] past _ here.fair ⟨⟨rfl, told⟩, trivial⟩
  | cons event rest =>
      have first := receive_first client target event rest
        (copied event (by rw [queue]; exact List.mem_cons_self)) queue
      simp only [step, first, Heeded]
      constructor
      · intro after
        -- The permit of the event is still there.
        have counted : client.semReceiveQueue = rest.length := after.counted
        rw [here.counted, queue, List.length_cons] at counted
        omega
      · intro heeded
        cases heeded.symm.trans queue

-- A permit is an event in the queue, so a call that gets one finds its event, and one that waits finds none.
theorem receive_blocking_keeps (timeout : UInt32) (errnoTimedOut : Bool)
    (past : List Output) (copied : AllCopied client) (here : InStep client past) :
    InStep (step readers client (.receiveBlocking target timeout errnoTimedOut)).1
      (past ++ (step readers client (.receiveBlocking target timeout errnoTimedOut)).2) := by
  by_cases long : 4000 ≤ timeout
  · have refused : ¬ timeout < 4000 := UInt32.not_lt.mpr long
    have silent : step readers client (.receiveBlocking target timeout errnoTimedOut) = (client, []) := by
      simp only [step, receiveBlocking, semWait, if_pos long, refused, false_or, false_and, if_false]
      cases errnoTimedOut <;> rfl
    rw [silent, List.append_nil]
    exact here
  · have short : timeout < 4000 := UInt32.not_le.mp long
    cases queue : client.receiveQueue with
    | nil =>
        have none : client.semReceiveQueue = 0 := by rw [here.counted, queue, List.length_nil]
        have waited : step readers client (.receiveBlocking target timeout errnoTimedOut) = (client, [.waited]) := by
          simp [step, receiveBlocking, semWait, long, none, short]
        rw [waited]
        refine ⟨here.counted, ?_, ?_⟩
        · rw [history_append]
          exact (List.append_nil (history past)).symm ▸ here.holds
        · exact Run.sound_append Fair [] past _ here.fair ⟨empty_out client past here queue, trivial⟩
    | cons event rest =>
        have counted : client.semReceiveQueue = rest.length + 1 := by rw [here.counted, queue, List.length_cons]
        have own : Copied event := copied event (by rw [queue]; exact List.mem_cons_self)
        have first := receive_first { client with semReceiveQueue := rest.length } target event rest own queue
        have taken : step readers client (.receiveBlocking target timeout errnoTimedOut) =
            ({ client with semReceiveQueue := rest.length, receiveQueue := rest }, [.delivered event]) := by
          simp [step, receiveBlocking, semWait, long, counted, first, answer]
        have holds := here.holds
        rw [queue] at holds
        rw [taken]
        refine ⟨rfl, ?_, ?_⟩
        · rw [history_append]
          exact Fifo.holds_leave _ rest event holds
        · exact Run.sound_append Fair [] past _ here.fair ⟨delivered_fair client event rest past here queue, trivial⟩

theorem clear_keeps (here : InStep client past) :
    InStep (step readers client .clear).1 (past ++ (step readers client .clear).2) ↔ Heeded client .clear := by
  constructor
  · intro after
    have counted : client.semReceiveQueue = 0 := after.counted
    exact List.length_eq_zero_iff.mp (here.counted.symm.trans counted)
  · intro heeded
    have queue : client.receiveQueue = [] := heeded
    simp only [step, clear, queue, List.map_nil, List.append_nil]
    refine ⟨?_, ?_, here.fair⟩
    · rw [here.counted, queue]
    · rw [← queue]
      exact here.holds

variable (call : Call)

theorem step_keeps_copied (copied : AllCopied client) :
    AllCopied (step readers client call).1 := by
  have taken : ∀ (client : Client) target, AllCopied client → AllCopied (receive client target).2 := by
    intro client target copied
    cases queue : client.receiveQueue with
    | nil =>
        rw [receive_none client target queue]
        exact copied
    | cons event rest =>
        have own : Copied event := copied event (by rw [queue]; exact List.mem_cons_self)
        rw [receive_first client target event rest own queue]
        exact fun other inside => copied other (by rw [queue]; exact List.mem_cons_of_mem _ inside)
  cases call with
  | handleMessage clock rawtime ev pmsg =>
      simp only [step]
      cases comes : handleMessage readers clock rawtime client ev pmsg with
      | none => exact copied
      | some handled =>
          intro event inside
          rcases handle_message_extends readers clock rawtime client ev pmsg handled comes with
            ⟨queue, _⟩ | ⟨added, own, queue, _⟩
          · exact copied event (by rwa [← queue])
          · rcases List.mem_append.mp (queue ▸ inside) with before | last
            · exact copied event before
            · rw [List.mem_singleton.mp last]
              exact own
  | receive target => exact taken client target copied
  | receiveBlocking target timeout errnoTimedOut =>
      have waits : AllCopied (receiveBlocking client target timeout errnoTimedOut).2 := by
        unfold receiveBlocking
        cases waited : semWait client timeout with
        | none => exact copied
        | some permitted =>
            have queue : permitted.receiveQueue = client.receiveQueue := by
              unfold semWait at waited
              split at waited
              · cases waited
              · split at waited
                · cases waited
                · obtain rfl := Option.some.inj waited
                  rfl
            exact taken permitted target (fun event inside => copied event (queue ▸ inside))
      simp only [step]
      split
      · exact waits
      · exact waits
  | clear =>
      intro event inside
      cases inside

theorem step_keeps_iff (copied : AllCopied client)
    (here : InStep client past) :
    InStep (step readers client call).1 (past ++ (step readers client call).2) ↔ Heeded client call := by
  cases call with
  | handleMessage clock rawtime ev pmsg => exact handle_message_keeps readers clock rawtime client ev pmsg past here
  | receive target => exact receive_keeps readers client target past copied here
  | receiveBlocking target timeout errnoTimedOut =>
      exact ⟨fun _ => trivial,
        fun _ => receive_blocking_keeps readers client target timeout errnoTimedOut past copied here⟩
  | clear => exact clear_keeps readers client past here

end

structure Fresh (client : Client) : Prop where
  queue : client.receiveQueue = []
  permits : client.semReceiveQueue = 0

theorem fresh_in_step (client : Client) (fresh : Fresh client) : InStep client [] := by
  refine ⟨?_, ?_, trivial⟩
  · rw [fresh.permits, fresh.queue, List.length_nil]
  · rw [fresh.queue]
    exact Fifo.holds_nil

theorem receive_queue_in_step_iff (readers : Readers) (client : Client) (fresh : Fresh client) (calls : List Call) :
    Run.Throughout (step readers) InStep client [] calls ↔ Run.Meets (step readers) Heeded client calls := by
  apply Run.throughout_iff_meets (step readers) InStep Heeded (fun client _ => AllCopied client)
  · exact fun client _ call => step_keeps_copied readers client call
  · exact fun client past call copied here => step_keeps_iff readers client past call copied here
  · intro event inside
    rw [fresh.queue] at inside
    cases inside
  · exact fresh_in_step client fresh

def plainReaders : Readers := ⟨plainParse, fun _ => 0, plainSax⟩

def newClient : Client := ⟨[], false, false, 0, [], 0⟩

def textMessage : Message :=
  ⟨['v', 's', 'c', 'p'], ['2', '5', '6', ',', '2', '0', ',', '3', ',', '0', ',', ',', '5', ',', '-'], []⟩

def textEvent : VscpEvent := ⟨0x0100, 0, 0xffff, 0xff, 5, 20, 3, Vector.replicate 16 0, 0, none, 0⟩

theorem receive_queue_in_step_example :
    Run.Throughout (step plainReaders) InStep newClient []
      [.handleMessage exampleClock 0 emptyEvent textMessage, .receiveBlocking .ex 100 false, .receive .ev] :=
  (receive_queue_in_step_iff plainReaders newClient ⟨rfl, rfl⟩ _).mpr
    ⟨fun _ => by decide, trivial, by simp only [Heeded]; decide, trivial⟩

-- The permit of an event that was read without waiting, or cleared, is taken by a read that then finds no event.
theorem permit_outlives_event :
    (∃ calls, (Run.run (step plainReaders) newClient calls).2 =
        [.queued textEvent, .delivered textEvent, .fifoEmpty true] ∧
      ¬ Run.Throughout (step plainReaders) InStep newClient [] calls) ∧
    (∃ calls, (Run.run (step plainReaders) newClient calls).2 =
        [.queued textEvent, .discarded textEvent, .fifoEmpty true] ∧
      ¬ Run.Throughout (step plainReaders) InStep newClient [] calls) := by
  refine ⟨⟨[.handleMessage exampleClock 0 emptyEvent textMessage, .receive .ev, .receiveBlocking .ev 100 false],
    by decide, ?_⟩, ⟨[.handleMessage exampleClock 0 emptyEvent textMessage, .clear,
    .receiveBlocking .ev 100 false], by decide, ?_⟩⟩
  · intro through
    exact absurd through.2.1.counted (by decide)
  · intro through
    exact absurd through.2.1.counted (by decide)

end Vscp.Mqtt
