import Vscp.DatagramChecks
import Vscp.Lib.Fifo
import Vscp.Lib.Run

set_option autoImplicit false

namespace Vscp.Datagram

open Fifo Run

structure Client where
  settings : Settings
  filter : VscpEventFilter
  callbackEvActive : Bool
  callbackExActive : Bool
  receiveQueue : List VscpEvent
  running : Bool
deriving DecidableEq

inductive Output
  | sent (event : VscpEvent) (datagram : Bytes)
  | refused (code : VscpError)
  | calledEv (event : VscpEvent)
  | calledEx (event : VscpEventEx)
  | arrived (datagram : Bytes) (queued : Option VscpEvent)
  | returned (queued : VscpEvent) (copy : Except VscpError VscpEvent)
  | returnedEx (queued : VscpEvent) (copy : Except VscpError VscpEventEx)
  | noEvent (code : VscpError)
  | cleared (queued : VscpEvent)

def callbacks (client : Client) (event : VscpEvent) : List Output :=
  (if client.callbackEvActive then [.calledEv event] else []) ++
    if client.callbackExActive then (convertEventToEventEx emptyEventEx event).toList.map .calledEx else []

def receiveDatagram (ssl : OpenSsl) (aes : BlockCipher) (client : Client) (useOpenSsl : Bool) (clock : Clock)
    (datagram : Bytes) : Client × List Output :=
  match readDatagram ssl aes useOpenSsl client.settings clock datagram with
  | none => (client, [.arrived datagram none])
  | some event =>
      if doLevel2Filter event client.filter then
        if ¬ client.callbackEvActive ∨ ¬ client.callbackExActive then
          ({ client with receiveQueue := client.receiveQueue ++ [event] },
            callbacks client event ++ [.arrived datagram (some event)])
        else (client, callbacks client event ++ [.arrived datagram none])
      else (client, [.arrived datagram none])

def popEvent (client : Client) (blocking : Bool) (timeout : Int) : Except VscpError (VscpEvent × Client) :=
  if blocking ∧ timeout < 0 then .error .parameter
  else
    match client.receiveQueue with
    | [] => .error (if blocking then .timeout else .fifoEmpty)
    | event :: rest => .ok (event, { client with receiveQueue := rest })

def copied {Copy : Type} (copy : Option Copy) : Except VscpError Copy :=
  match copy with
  | none => .error .invalidFrame
  | some copy => .ok copy

def receiveEvent (client : Client) (blocking : Bool) (timeout : Int) : Client × List Output :=
  match popEvent client blocking timeout with
  | .error code => (client, [.noEvent code])
  | .ok popped => (popped.2, [.returned popped.1 (copied (copyEvent popped.1))])

def receiveEventEx (client : Client) (blocking : Bool) (timeout : Int) (event : VscpEventEx) : Client × List Output :=
  match popEvent client blocking timeout with
  | .error code => (client, [.noEvent code])
  | .ok popped => (popped.2, [.returnedEx popped.1 (copied (convertEventToEventEx event popped.1))])

def clearQueue (client : Client) : Client × List Output :=
  ({ client with receiveQueue := [] }, client.receiveQueue.map .cleared)

-- `send` is a send of any peer with the same settings. `deliver` is any datagram
-- at all that the socket of this client answers with, so the network may lose,
-- repeat and reorder what was sent and add its own. A turn of the loop that finds
-- nothing changes nothing; `stop` is a failed wait or a disconnect.
inductive Step
  | send (useOpenSsl : Bool) (random : Option Block) (connected stillConnected : Bool) (sent : Int) (event : VscpEvent)
  | deliver (useOpenSsl : Bool) (clock : Clock) (datagram : Bytes)
  | stop
  | receive (blocking : Bool) (timeout : Int)
  | receiveEx (blocking : Bool) (timeout : Int) (event : VscpEventEx)
  | clear

def sendOutput (event : VscpEvent) (result : Except VscpError Bytes) : Output :=
  match result with
  | .error code => .refused code
  | .ok wire => .sent event wire

def step (ssl : OpenSsl) (aes : BlockCipher) (client : Client) : Step → Client × List Output
  | .send useOpenSsl random connected stillConnected sent event =>
      (client, [sendOutput event (sendEvent ssl aes useOpenSsl random client.settings connected stillConnected sent event)])
  | .deliver useOpenSsl clock datagram =>
      if client.running then receiveDatagram ssl aes client useOpenSsl clock datagram else (client, [])
  | .stop => ({ client with running := false }, [])
  | .receive blocking timeout => receiveEvent client blocking timeout
  | .receiveEx blocking timeout event => receiveEventEx client blocking timeout event
  | .clear => clearQueue client

def entry : Output → Option (Entry VscpEvent)
  | .arrived _ (some event) => some (.enter event)
  | .returned queued _ => some (.leave queued)
  | .returnedEx queued _ => some (.leave queued)
  | .cleared queued => some (.drop queued)
  | _ => none

def history (outputs : List Output) : List (Entry VscpEvent) := outputs.filterMap entry

def arrivals (outputs : List Output) : List Bytes :=
  outputs.filterMap fun | .arrived datagram _ => some datagram | _ => none

def delivered (steps : List Step) : List Bytes :=
  steps.filterMap fun | .deliver _ _ datagram => some datagram | _ => none

structure Sendable (event : VscpEvent) : Prop where
  version : frameVersion event.head = frameVersionUnixNs
  stamped : event.timestampNs ≠ 0
  whole : (event.pdata.getD []).length = event.sizeData.toNat

structure SameOnWireEx (ex : VscpEventEx) (event : VscpEvent) : Prop where
  head : ex.head = event.head
  timestampNs : ex.timestampNs = event.timestampNs
  vscpClass : ex.vscpClass = event.vscpClass
  vscpType : ex.vscpType = event.vscpType
  guid : ex.guid = event.guid
  sizeData : ex.sizeData = event.sizeData
  data : ex.data.toList.take ex.sizeData.toNat = event.pdata.getD []

def Right (ssl : OpenSsl) (aes : BlockCipher) (settings : Settings) (past : List Output) : Output → Prop
  | .arrived datagram queued =>
      (∀ event, .sent event datagram ∈ past → Sendable event → ∃ ev, queued = some ev ∧ SameOnWire ev event) ∧
        (¬ ChecksHold ssl aes settings datagram → queued = none)
  | .returned queued copy => ∃ ev, copy = .ok ev ∧ SameOnWire ev queued
  | .returnedEx queued copy => ∃ ex, copy = .ok ex ∧ SameOnWireEx ex queued
  | .noEvent code => code = .parameter ∨ Holds (history past) []
  | _ => True

-- While the queue holds an event, a receive hands out the oldest, unless it is to wait for a negative time.
def HandsOut (ssl : OpenSsl) (aes : BlockCipher) (client : Client) : Prop :=
  ∀ event rest blocking timeout, client.receiveQueue = event :: rest → ¬ (blocking = true ∧ timeout < 0) →
    (∃ ev, SameOnWire ev event ∧ step ssl aes client (.receive blocking timeout) =
      ({ client with receiveQueue := rest }, [.returned event (.ok ev)])) ∧
    ∀ old, ∃ ex, SameOnWireEx ex event ∧ step ssl aes client (.receiveEx blocking timeout old) =
      ({ client with receiveQueue := rest }, [.returnedEx event (.ok ex)])

theorem well_formed_data (ev : VscpEvent) (formed : WellFormed ev) :
    (ev.pdata.getD []).length = ev.sizeData.toNat ∧ ¬ (ev.sizeData ≠ 0 ∧ ev.pdata = none) := by
  obtain ⟨_, filled, empty⟩ := formed
  by_cases zero : ev.sizeData = 0
  · rw [empty zero, zero]
    exact ⟨rfl, fun both => both.1 rfl⟩
  · obtain ⟨data, present, length⟩ := filled zero
    rw [present]
    exact ⟨length, fun both => Option.some_ne_none _ both.2⟩

theorem copied_event (ev : VscpEvent) (formed : WellFormed ev) :
    ∃ copy, copied (copyEvent ev) = .ok copy ∧ SameOnWire copy ev := by
  obtain ⟨whole, _⟩ := well_formed_data ev formed
  rw [copyEvent, if_neg (Nat.not_lt.mpr formed.1)]
  refine ⟨_, rfl, rfl, ?_, rfl, rfl, rfl, rfl, copied_data_exact ev whole⟩
  simp only [time_block_parts, ite_self]

theorem copied_event_ex (old : VscpEventEx) (ev : VscpEvent) (formed : WellFormed ev) :
    ∃ copy, copied (convertEventToEventEx old ev) = .ok copy ∧ SameOnWireEx copy ev := by
  obtain ⟨whole, present⟩ := well_formed_data ev formed
  have room : (ev.pdata.getD []).length ≤ maxData := by
    rw [whole]
    exact formed.1
  rw [convertEventToEventEx, if_neg (not_or.mpr ⟨Nat.not_lt.mpr formed.1, present⟩)]
  refine ⟨_, rfl, rfl, rfl, rfl, rfl, rfl, rfl, ?_⟩
  dsimp only
  rw [← whole]
  exact overlay_front _ room old.data

theorem history_append (first second : List Output) : history (first ++ second) = history first ++ history second :=
  List.filterMap_append

theorem arrivals_append (first second : List Output) :
    arrivals (first ++ second) = arrivals first ++ arrivals second := List.filterMap_append

theorem delivered_append (first second : List Step) : delivered (first ++ second) = delivered first ++ delivered second :=
  List.filterMap_append

-- What every run keeps: the peers' settings, the queue between what came in and
-- what went out, and where each datagram that was sent comes from.
structure Running (ssl : OpenSsl) (aes : BlockCipher) (settings : Settings) (client : Client) (past : List Output) :
    Prop where
  same : client.settings = settings
  quietEv : client.callbackEvActive = false
  quietEx : client.callbackExActive = false
  passesAll : ∀ event, doLevel2Filter event client.filter = true
  formed : ∀ event ∈ client.receiveQueue, WellFormed event
  fifo : Holds (history past) client.receiveQueue
  sent : ∀ event wire, Output.sent event wire ∈ past → ∃ useOpenSsl random connected stillConnected count,
    sendEvent ssl aes useOpenSsl random settings connected stillConnected count event = .ok wire

section Steps

variable (ssl : OpenSsl) (aes : BlockCipher) (settings : Settings) (client : Client) (past : List Output)

theorem running_after (running : Running ssl aes settings client past) (outputs : List Output)
    (queue : List VscpEvent) (formed : ∀ event ∈ queue, WellFormed event)
    (fifo : Holds (history past ++ history outputs) queue) (silent : ∀ event wire, Output.sent event wire ∉ outputs) :
    Running ssl aes settings { client with receiveQueue := queue } (past ++ outputs) := by
  refine ⟨running.same, running.quietEv, running.quietEx, running.passesAll, formed, ?_, ?_⟩
  · rw [history_append]
    exact fifo
  · intro event wire member
    rcases List.mem_append.mp member with old | new
    · exact running.sent event wire old
    · exact absurd new (silent event wire)

theorem running_silent (running : Running ssl aes settings client past) (output : Output)
    (noEntry : entry output = none) (silent : ∀ event wire, output ≠ .sent event wire) :
    Running ssl aes settings client (past ++ [output]) := by
  refine running_after ssl aes settings client past running [output] client.receiveQueue running.formed ?_ ?_
  · have none : history [output] = [] := by simp only [history, List.filterMap_cons, noEntry, List.filterMap_nil]
    rw [none, List.append_nil]
    exact running.fifo
  · intro event wire member
    exact silent event wire (List.mem_singleton.mp member).symm

theorem step_send (running : Running ssl aes settings client past) (useOpenSsl : Bool) (random : Option Block)
    (connected stillConnected : Bool) (count : Int) (event : VscpEvent) :
    let result := step ssl aes client (.send useOpenSsl random connected stillConnected count event)
    Sound (Right ssl aes settings) past result.2 ∧ Running ssl aes settings result.1 (past ++ result.2) := by
  have sending := running.same
  dsimp only [step]
  cases sends : sendEvent ssl aes useOpenSsl random client.settings connected stillConnected count event with
  | error code =>
      exact ⟨⟨trivial, trivial⟩, running_silent ssl aes settings client past running _ rfl (by simp [sendOutput])⟩
  | ok wire =>
      refine ⟨⟨trivial, trivial⟩, running.same, running.quietEv, running.quietEx, running.passesAll, running.formed, ?_, ?_⟩
      · have nothing : history [sendOutput event (.ok wire)] = [] := rfl
        rw [history_append, nothing, List.append_nil]
        exact running.fifo
      · intro earlier found member
        rcases List.mem_append.mp member with old | new
        · exact running.sent earlier found old
        · simp only [sendOutput, List.mem_singleton, Output.sent.injEq] at new
          rw [new.1, new.2, ← sending]
          exact ⟨useOpenSsl, random, connected, stillConnected, count, sends⟩

theorem pop_event_cases (blocking : Bool) (timeout : Int) :
    (∃ code, popEvent client blocking timeout = .error code ∧ (code = .parameter ∨ client.receiveQueue = [])) ∨
      ∃ event rest, client.receiveQueue = event :: rest ∧
        popEvent client blocking timeout = .ok (event, { client with receiveQueue := rest }) := by
  unfold popEvent
  split
  · exact Or.inl ⟨_, rfl, Or.inl rfl⟩
  · cases queue : client.receiveQueue with
    | nil => exact Or.inl ⟨_, rfl, Or.inr rfl⟩
    | cons event rest => exact Or.inr ⟨event, rest, rfl, rfl⟩

theorem running_popped (running : Running ssl aes settings client past) (event : VscpEvent) (rest : List VscpEvent)
    (queue : client.receiveQueue = event :: rest) (output : Output) (leaves : entry output = some (.leave event))
    (silent : ∀ event wire, output ≠ .sent event wire) :
    Running ssl aes settings { client with receiveQueue := rest } (past ++ [output]) := by
  have fifo := running.fifo
  rw [queue] at fifo
  refine running_after ssl aes settings client past running [output] rest ?_ ?_ ?_
  · intro later member
    exact running.formed later (queue ▸ List.mem_cons_of_mem _ member)
  · have left : history [output] = [.leave event] := by
      simp only [history, List.filterMap_cons, leaves, List.filterMap_nil]
    rw [left]
    exact holds_leave _ _ _ fifo
  · intro later wire member
    exact silent later wire (List.mem_singleton.mp member).symm

theorem nothing_held (running : Running ssl aes settings client past) (code : VscpError)
    (nothing : code = .parameter ∨ client.receiveQueue = []) : code = .parameter ∨ Holds (history past) [] := by
  refine nothing.imp_right fun empty => ?_
  rw [← empty]
  exact running.fifo

theorem step_receive (running : Running ssl aes settings client past) (blocking : Bool) (timeout : Int) :
    let result := step ssl aes client (.receive blocking timeout)
    Sound (Right ssl aes settings) past result.2 ∧ Running ssl aes settings result.1 (past ++ result.2) := by
  dsimp only [step, receiveEvent]
  rcases pop_event_cases client blocking timeout with ⟨code, popped, nothing⟩ | ⟨event, rest, queue, popped⟩ <;> rw [popped]
  · exact ⟨⟨nothing_held ssl aes settings client past running code nothing, trivial⟩,
      running_silent ssl aes settings client past running _ rfl (by simp)⟩
  · have formed := running.formed event (queue ▸ List.mem_cons_self)
    exact ⟨⟨copied_event event formed, trivial⟩,
      running_popped ssl aes settings client past running event rest queue _ rfl (by simp)⟩

theorem step_receive_ex (running : Running ssl aes settings client past) (blocking : Bool) (timeout : Int)
    (old : VscpEventEx) :
    let result := step ssl aes client (.receiveEx blocking timeout old)
    Sound (Right ssl aes settings) past result.2 ∧ Running ssl aes settings result.1 (past ++ result.2) := by
  dsimp only [step, receiveEventEx]
  rcases pop_event_cases client blocking timeout with ⟨code, popped, nothing⟩ | ⟨event, rest, queue, popped⟩ <;> rw [popped]
  · exact ⟨⟨nothing_held ssl aes settings client past running code nothing, trivial⟩,
      running_silent ssl aes settings client past running _ rfl (by simp)⟩
  · have formed := running.formed event (queue ▸ List.mem_cons_self)
    exact ⟨⟨copied_event_ex old event formed, trivial⟩,
      running_popped ssl aes settings client past running event rest queue _ rfl (by simp)⟩

theorem hands_out (running : Running ssl aes settings client past) : HandsOut ssl aes client := by
  intro event rest blocking timeout queue waits
  have formed := running.formed event (queue ▸ List.mem_cons_self)
  have popped : popEvent client blocking timeout = .ok (event, { client with receiveQueue := rest }) := by
    rw [popEvent, if_neg waits, queue]
  constructor
  · obtain ⟨ev, copied, same⟩ := copied_event event formed
    exact ⟨ev, same, by simp only [step, receiveEvent, popped, copied]⟩
  · intro old
    obtain ⟨ex, copied, same⟩ := copied_event_ex old event formed
    exact ⟨ex, same, by simp only [step, receiveEventEx, popped, copied]⟩

theorem cleared_history (queue : List VscpEvent) : history (queue.map .cleared) = queue.map .drop := by
  induction queue with
  | nil => rfl
  | cons event rest ih => exact congrArg (Entry.drop event :: ·) ih

theorem cleared_sound (queue : List VscpEvent) : Sound (Right ssl aes settings) past (queue.map .cleared) := by
  induction queue generalizing past with
  | nil => exact trivial
  | cons event rest ih => exact ⟨trivial, ih _⟩

theorem step_clear (running : Running ssl aes settings client past) :
    let result := step ssl aes client .clear
    Sound (Right ssl aes settings) past result.2 ∧ Running ssl aes settings result.1 (past ++ result.2) := by
  dsimp only [step, clearQueue]
  refine ⟨cleared_sound ssl aes settings past client.receiveQueue, ?_⟩
  refine running_after ssl aes settings client past running _ [] ?_ ?_ ?_
  · intro event member
    cases member
  · rw [cleared_history]
    exact holds_clear _ _ running.fifo
  · simp

theorem running_queued (running : Running ssl aes settings client past) (datagram : Bytes) (event : VscpEvent)
    (formed : WellFormed event) :
    Running ssl aes settings { client with receiveQueue := client.receiveQueue ++ [event] }
      (past ++ [.arrived datagram (some event)]) := by
  refine running_after ssl aes settings client past running _ _ ?_ ?_ (by simp)
  · intro queued member
    rcases List.mem_append.mp member with old | new
    · exact running.formed queued old
    · rw [List.mem_singleton.mp new]
      exact formed
  · exact holds_enter _ _ event running.fifo

theorem step_deliver (documented : DocumentedCbc ssl aes) (running : Running ssl aes settings client past)
    (useOpenSsl : Bool) (clock : Clock) (datagram : Bytes) :
    let result := step ssl aes client (.deliver useOpenSsl clock datagram)
    Sound (Right ssl aes settings) past result.2 ∧ Running ssl aes settings result.1 (past ++ result.2) := by
  obtain rfl := running.same
  have carries (event : VscpEvent) (sent : .sent event datagram ∈ past) (sendable : Sendable event) :
      ∃ ev, readDatagram ssl aes useOpenSsl client.settings clock datagram = some ev ∧ SameOnWire ev event := by
    obtain ⟨_, _, _, _, _, success⟩ := running.sent event datagram sent
    exact sent_event_read ssl aes documented _ useOpenSsl _ client.settings _ _ _ event datagram clock success
      sendable.version sendable.stamped sendable.whole
  dsimp only [step]
  by_cases live : client.running = true
  · rw [if_pos live]
    unfold receiveDatagram
    cases read : readDatagram ssl aes useOpenSsl client.settings clock datagram with
    | none =>
        refine ⟨⟨⟨?_, fun _ => rfl⟩, trivial⟩, running_silent ssl aes _ client past running _ rfl (by simp)⟩
        intro event sent sendable
        obtain ⟨ev, found, _⟩ := carries event sent sendable
        rw [read] at found
        cases found
    | some event =>
        obtain ⟨checks, formed⟩ := accepted_checks ssl aes documented useOpenSsl _ clock datagram event read
        have silent : callbacks client event = [] := by simp [callbacks, running.quietEv, running.quietEx]
        have uncalled : ¬ client.callbackEvActive = true ∨ ¬ client.callbackExActive = true := by simp [running.quietEv]
        dsimp only
        rw [if_pos (running.passesAll event), if_pos uncalled, silent, List.nil_append]
        refine ⟨⟨⟨?_, fun fails => absurd checks fails⟩, trivial⟩,
          running_queued ssl aes _ client past running datagram event formed⟩
        intro sent member sendable
        obtain ⟨ev, found, carried⟩ := carries sent member sendable
        rw [read] at found
        exact ⟨ev, found, carried⟩
  · rw [if_neg live]
    refine ⟨trivial, ?_⟩
    rw [List.append_nil]
    exact running

theorem step_keeps (documented : DocumentedCbc ssl aes) (running : Running ssl aes settings client past)
    (input : Step) :
    Sound (Right ssl aes settings) past (step ssl aes client input).2 ∧
      Running ssl aes settings (step ssl aes client input).1 (past ++ (step ssl aes client input).2) := by
  cases input with
  | send useOpenSsl random connected stillConnected sent event =>
      exact step_send ssl aes settings client past running useOpenSsl random connected stillConnected sent event
  | deliver useOpenSsl clock datagram =>
      exact step_deliver ssl aes settings client past documented running useOpenSsl clock datagram
  | stop =>
      refine ⟨trivial, running.same, running.quietEv, running.quietEx, running.passesAll, running.formed, ?_, ?_⟩
      · simp only [step, List.append_nil]
        exact running.fifo
      · simp only [step, List.append_nil]
        exact running.sent
  | receive blocking timeout => exact step_receive ssl aes settings client past running blocking timeout
  | receiveEx blocking timeout event =>
      exact step_receive_ex ssl aes settings client past running blocking timeout event
  | clear => exact step_clear ssl aes settings client past running

omit settings past in
theorem callbacks_silent (event : VscpEvent) : ∀ output ∈ callbacks client event, entry output = none := by
  intro output member
  rcases List.mem_append.mp member with called | called
  · split at called
    · rw [List.mem_singleton.mp called]
      rfl
    · cases called
  · split at called
    · obtain ⟨ex, _, rfl⟩ := List.mem_map.mp called
      rfl
    · cases called

omit settings past in
theorem step_arrivals (live : client.running = true) (input : Step) (lasting : input ≠ .stop) :
    arrivals (step ssl aes client input).2 = delivered [input] ∧ (step ssl aes client input).1.running = true := by
  cases input with
  | send useOpenSsl random connected stillConnected sent event =>
      refine ⟨?_, live⟩
      dsimp only [step]
      cases sendEvent ssl aes useOpenSsl random client.settings connected stillConnected sent event <;> rfl
  | deliver useOpenSsl clock datagram =>
      have calls (event : VscpEvent) : arrivals (callbacks client event) = [] := by
        unfold callbacks
        cases convertEventToEventEx emptyEventEx event <;> split <;> split <;> rfl
      dsimp only [step]
      rw [if_pos live]
      unfold receiveDatagram
      split
      · exact ⟨rfl, live⟩
      · split
        · split <;> refine ⟨?_, live⟩ <;> rw [arrivals_append, calls] <;> rfl
        · exact ⟨rfl, live⟩
  | stop => exact absurd rfl lasting
  | receive blocking timeout =>
      dsimp only [step, receiveEvent]
      rcases pop_event_cases client blocking timeout with ⟨code, popped, nothing⟩ | ⟨event, rest, queue, popped⟩ <;>
        rw [popped] <;> exact ⟨rfl, live⟩
  | receiveEx blocking timeout event =>
      dsimp only [step, receiveEventEx]
      rcases pop_event_cases client blocking timeout with ⟨code, popped, nothing⟩ | ⟨event, rest, queue, popped⟩ <;>
        rw [popped] <;> exact ⟨rfl, live⟩
  | clear =>
      refine ⟨?_, live⟩
      dsimp only [step, clearQueue, arrivals]
      rw [List.filterMap_map]
      exact List.filterMap_eq_nil_iff.mpr fun _ _ => rfl

omit settings past in
theorem run_arrivals (live : client.running = true) (steps : List Step) (lasting : Step.stop ∉ steps) :
    arrivals (run (step ssl aes) client steps).2 = delivered steps := by
  induction steps generalizing client with
  | nil => rfl
  | cons input rest ih =>
      have lastingNow : input ≠ .stop := fun same => lasting (same ▸ List.mem_cons_self)
      obtain ⟨now, stillLive⟩ := step_arrivals ssl aes client live input lastingNow
      have later := ih (step ssl aes client input).1 stillLive fun member => lasting (List.mem_cons_of_mem _ member)
      rw [run, arrivals_append, now, later]
      exact (delivered_append [input] rest).symm

omit settings past in
theorem step_drops (input : Step) (uncleared : input ≠ .clear) :
    ∀ output ∈ (step ssl aes client input).2, ∀ event, entry output ≠ some (.drop event) := by
  cases input with
  | send useOpenSsl random connected stillConnected sent event =>
      intro output member other
      dsimp only [step] at member
      rw [List.mem_singleton.mp member]
      cases sendEvent ssl aes useOpenSsl random client.settings connected stillConnected sent event <;>
        exact (Option.some_ne_none _).symm
  | deliver useOpenSsl clock datagram =>
      have arrives (queued : Option VscpEvent) (other : VscpEvent) :
          entry (.arrived datagram queued) ≠ some (.drop other) := by
        cases queued <;> simp [entry]
      dsimp only [step]
      split
      · unfold receiveDatagram
        split
        · simpa using arrives none
        · split
          · split <;> intro output member other <;> rcases List.mem_append.mp member with called | last
            · rw [callbacks_silent client _ output called]
              exact (Option.some_ne_none _).symm
            · rw [List.mem_singleton.mp last]
              exact arrives _ other
            · rw [callbacks_silent client _ output called]
              exact (Option.some_ne_none _).symm
            · rw [List.mem_singleton.mp last]
              exact arrives _ other
          · simpa using arrives none
      · intro output member
        cases member
  | stop =>
      intro output member
      cases member
  | receive blocking timeout =>
      dsimp only [step, receiveEvent]
      rcases pop_event_cases client blocking timeout with ⟨code, popped, nothing⟩ | ⟨event, rest, queue, popped⟩ <;>
        rw [popped] <;> simp [entry]
  | receiveEx blocking timeout event =>
      dsimp only [step, receiveEventEx]
      rcases pop_event_cases client blocking timeout with ⟨code, popped, nothing⟩ | ⟨event, rest, queue, popped⟩ <;>
        rw [popped] <;> simp [entry]
  | clear => exact absurd rfl uncleared

end Steps

theorem datagrams_delivered (ssl : OpenSsl) (aes : BlockCipher) (documented : DocumentedCbc ssl aes) (client : Client)
    (steps : List Step) (quietEv : client.callbackEvActive = false) (quietEx : client.callbackExActive = false)
    (passesAll : ∀ event, doLevel2Filter event client.filter = true) (fresh : client.receiveQueue = []) :
    let result := run (step ssl aes) client steps
    Sound (Right ssl aes client.settings) [] result.2 ∧
      (client.running = true → Step.stop ∉ steps → arrivals result.2 = delivered steps) ∧
      Holds (history result.2) result.1.receiveQueue ∧
      (Step.clear ∉ steps → entered (history result.2) = left (history result.2) ++ result.1.receiveQueue) ∧
      HandsOut ssl aes result.1 := by
  have start : Running ssl aes client.settings client [] := by
    refine ⟨rfl, quietEv, quietEx, passesAll, ?_, ?_, ?_⟩
    · intro event member
      rw [fresh] at member
      cases member
    · rw [fresh]
      exact holds_nil
    · intro event wire member
      cases member
  obtain ⟨sound, last⟩ := run_keeps (step ssl aes) (fun _ _ => True) (Right ssl aes client.settings)
    (Running ssl aes client.settings)
    (fun state past input running _ => step_keeps ssl aes client.settings state past documented running input)
    client [] steps start (meets_always _ _ _)
  rw [List.nil_append] at last
  refine ⟨sound, fun live lasting => run_arrivals ssl aes client live steps lasting, last.fifo, fun uncleared => ?_,
    hands_out ssl aes client.settings _ _ last⟩
  apply entered_of_nothing_dropped _ _ last.fifo
  intro event member
  obtain ⟨output, put, drops⟩ := List.mem_filterMap.mp member
  exact run_outputs (step ssl aes) (fun output => ∀ event, entry output ≠ some (.drop event)) steps
    (fun state input member => step_drops ssl aes state input fun same => uncleared (same ▸ member)) client output put
    event drops

theorem clear_filter_passes (event : VscpEvent) : doLevel2Filter event clearVSCPFilter = true := by
  simp only [doLevel2Filter, clearVSCPFilter, Bool.and_eq_true, List.all_eq_true, beq_iff_eq]
  have words : ∀ word : UInt16, ~~~(0 ^^^ word) ||| ~~~(0 : UInt16) = 0xffff := by
    intro word
    exact UInt16.or_neg_one
  have bytes : ∀ byte : UInt8, ~~~(0 ^^^ byte) ||| ~~~(0 : UInt8) = 0xff := by
    intro byte
    exact UInt8.or_neg_one
  refine ⟨⟨⟨words _, words _⟩, fun i _ => ?_⟩, bytes _⟩
  have zero : (Vector.replicate 16 (0 : UInt8)).get i = 0 := by simp [Vector.get]
  rw [zero]
  exact bytes _

def plainSettings : Settings := ⟨0, Vector.replicate 32 0, 0, none, 0, Vector.replicate 32 0⟩

def exampleClient : Client := ⟨plainSettings, clearVSCPFilter, false, false, [], true⟩

def exampleSteps : List Step :=
  [.send true none true true 41 exampleEvent, .deliver false exampleClock (eventFrame 0 exampleEvent),
    .deliver true exampleClock ((eventFrame 0 exampleEvent).set 20 0xff),
    .deliver true exampleClock (eventFrame 0 exampleEvent), .receive false 0]

theorem datagrams_delivered_example :
    let result := run (step knownOpenSsl knownAes) exampleClient exampleSteps
    Sound (Right knownOpenSsl knownAes exampleClient.settings) [] result.2 ∧
      (exampleClient.running = true → Step.stop ∉ exampleSteps → arrivals result.2 = delivered exampleSteps) ∧
      Holds (history result.2) result.1.receiveQueue ∧
      (Step.clear ∉ exampleSteps → entered (history result.2) = left (history result.2) ++ result.1.receiveQueue) ∧
      HandsOut knownOpenSsl knownAes result.1 :=
  datagrams_delivered knownOpenSsl knownAes known_documented exampleClient exampleSteps rfl rfl
    clear_filter_passes rfl

example : (left (history (run (step knownOpenSsl knownAes) exampleClient exampleSteps).2)).map VscpEvent.head = [0x0160] ∧
    (run (step knownOpenSsl knownAes) exampleClient exampleSteps).1.receiveQueue.length = 1 := by
  decide +kernel

end Vscp.Datagram
