import Vscp.DatagramDelivery

set_option autoImplicit false

namespace Vscp.Datagram

open Fifo Run

def semValueMax : Nat := 0x7fffffff

-- Where the semaphore could not be made there is none, and nothing is posted or taken.
structure Receiver where
  client : Client
  semaphore : Option Nat

def postSignal (semaphore : Option Nat) : Option Nat :=
  semaphore.map fun count => if count < semValueMax then count + 1 else count

def consumeSignal (semaphore : Option Nat) : Option Nat := semaphore.map (· - 1)

-- After the filter: both callbacks and the queue, each behind its own test. `memory` is whether the event can be
-- allocated and enqueued.
def handOver (receiver : Receiver) (memory : Bool) (datagram : Bytes) (event : VscpEvent) : Receiver × List Output :=
  let client := receiver.client
  if (¬ client.callbackEvActive ∨ ¬ client.callbackExActive) ∧ memory then
    (⟨{ client with receiveQueue := client.receiveQueue ++ [event] }, postSignal receiver.semaphore⟩,
      callbacks client event ++ [.arrived datagram (some event)])
  else (receiver, callbacks client event ++ [.arrived datagram none])

def receiveTurn (ssl : OpenSsl) (aes : BlockCipher) (receiver : Receiver) (useOpenSsl : Bool) (clock : Clock)
    (memory : Bool) (datagram : Bytes) : Receiver × List Output :=
  match readDatagram ssl aes useOpenSsl receiver.client.settings clock datagram with
  | none => (receiver, [.arrived datagram none])
  | some event =>
      if doLevel2Filter event receiver.client.filter then handOver receiver memory datagram event
      else (receiver, [.arrived datagram none])

def popSignal (receiver : Receiver) (blocking : Bool) (timeout : Int) : Option Nat :=
  match popEvent receiver.client blocking timeout with
  | .error _ => receiver.semaphore
  | .ok _ => consumeSignal receiver.semaphore

def clearSignals (semaphore : Option Nat) (queue : List VscpEvent) : Option Nat :=
  queue.foldl (fun semaphore _ => consumeSignal semaphore) semaphore

-- `connect` starts the worker with the settings of that moment, `stop` ends it. Between two turns of the loop anyone
-- may set the filter, turn a callback on or off, receive and clear.
inductive ReceiverStep
  | connect (settings : Settings)
  | stop
  | setfilter (filter : VscpEventFilter)
  | setCallbackEvActive (b : Bool)
  | setCallbackExActive (b : Bool)
  | deliver (useOpenSsl : Bool) (clock : Clock) (memory : Bool) (datagram : Bytes)
  | receive (blocking : Bool) (timeout : Int)
  | receiveEx (blocking : Bool) (timeout : Int) (event : VscpEventEx)
  | clear

def Receiver.withClient (receiver : Receiver) (client : Client) : Receiver × List Output :=
  ({ receiver with client := client }, [])

def receiverStep (ssl : OpenSsl) (aes : BlockCipher) (receiver : Receiver) : ReceiverStep → Receiver × List Output
  | .connect settings => receiver.withClient { receiver.client with settings := settings, running := true }
  | .stop => receiver.withClient { receiver.client with running := false }
  | .setfilter filter => receiver.withClient { receiver.client with filter := filter }
  | .setCallbackEvActive b => receiver.withClient { receiver.client with callbackEvActive := b }
  | .setCallbackExActive b => receiver.withClient { receiver.client with callbackExActive := b }
  | .deliver useOpenSsl clock memory datagram =>
      if receiver.client.running then receiveTurn ssl aes receiver useOpenSsl clock memory datagram else (receiver, [])
  | .receive blocking timeout =>
      let taken := receiveEvent receiver.client blocking timeout
      (⟨taken.1, popSignal receiver blocking timeout⟩, taken.2)
  | .receiveEx blocking timeout event =>
      let taken := receiveEventEx receiver.client blocking timeout event
      (⟨taken.1, popSignal receiver blocking timeout⟩, taken.2)
  | .clear =>
      let taken := clearQueue receiver.client
      (⟨taken.1, clearSignals receiver.semaphore receiver.client.receiveQueue⟩, taken.2)

def newReceiver (settings : Settings) (semReady : Bool) : Receiver :=
  ⟨⟨settings, clearVSCPFilter, false, false, [], false⟩, if semReady then some 0 else none⟩

def calledEv (outputs : List Output) : List VscpEvent :=
  outputs.filterMap fun | .calledEv event => some event | _ => none

def calledEx (outputs : List Output) : List VscpEventEx :=
  outputs.filterMap fun | .calledEx event => some event | _ => none

def passing (ssl : OpenSsl) (aes : BlockCipher) (receiver : Receiver) : ReceiverStep → List VscpEvent
  | .deliver useOpenSsl clock _ datagram =>
      if receiver.client.running then
        ((readDatagram ssl aes useOpenSsl receiver.client.settings clock datagram).filter
          (doLevel2Filter · receiver.client.filter)).toList
      else []
  | _ => []

def Signalled (receiver : Receiver) : Prop :=
  ∀ count, receiver.semaphore = some count → count = receiver.client.receiveQueue.length

-- The events are handed once to each active callback, and come into the queue where none is active; the queue is what
-- was in it and came in, less what went out in front.
structure Served (before : Receiver) (events : List VscpEvent) (result : Receiver × List Output) : Prop where
  handedEv : calledEv result.2 = if before.client.callbackEvActive then events else []
  handedEx : List.Forall₂ SameOnWireEx (calledEx result.2) (if before.client.callbackExActive then events else [])
  queued : entered (history result.2) =
    if before.client.callbackEvActive ∨ before.client.callbackExActive then [] else events
  held : before.client.receiveQueue ++ entered (history result.2) =
    (settled (history result.2)).map Prod.snd ++ result.1.client.receiveQueue
  signalled : Signalled result.1

def ServesRight (ssl : OpenSsl) (aes : BlockCipher) (before : Receiver) (input : ReceiverStep) : Prop :=
  Served before (passing ssl aes before input) (receiverStep ssl aes before input)

-- Room for one more event and its signal.
def Room (receiver : Receiver) (memory : Bool) : Prop :=
  memory = true ∧ ∀ count, receiver.semaphore = some count → count < semValueMax

-- Both callbacks or none; with one of them the event goes into the queue as well, unless that fails.
def SettingsAgree (receiver : Receiver) (memory : Bool) : Prop :=
  (receiver.client.callbackEvActive = true ∧ receiver.client.callbackExActive = true) ∨
    (receiver.client.callbackEvActive = false ∧ receiver.client.callbackExActive = false ∧ Room receiver memory) ∨
    (receiver.client.callbackEvActive ≠ receiver.client.callbackExActive ∧ memory = false)

def Serviceable (ssl : OpenSsl) (aes : BlockCipher) (before : Receiver) (input : ReceiverStep) : Prop :=
  match input with
  | .deliver _ _ memory _ => passing ssl aes before input ≠ [] → SettingsAgree before memory
  | _ => True

theorem read_datagram_formed (ssl : OpenSsl) (aes : BlockCipher) (useOpenSsl : Bool) (settings : Settings)
    (clock : Clock) (datagram : Bytes) (event : VscpEvent)
    (read : readDatagram ssl aes useOpenSsl settings clock datagram = some event) : WellFormed event := by
  simp only [readDatagram] at read
  split at read
  · cases read
  · obtain ⟨frame, _, decoded⟩ := Option.bind_eq_some_iff.mp read
    exact (read_frame_result clock settings _ frame event decoded).2.2

section callbacks

variable (client : Client) (event : VscpEvent)

theorem called_ev (last : Output) (uncalled : calledEv [last] = []) :
    calledEv (callbacks client event ++ [last]) = if client.callbackEvActive then [event] else [] := by
  have converted : calledEv (if client.callbackExActive then
      (convertEventToEventEx emptyEventEx event).toList.map .calledEx else []) = [] := by
    split
    · cases convertEventToEventEx emptyEventEx event <;> rfl
    · rfl
  rw [callbacks, List.append_assoc, calledEv, List.filterMap_append, List.filterMap_append]
  change _ ++ (calledEv _ ++ calledEv [last]) = _
  rw [converted, uncalled]
  split <;> rfl

theorem called_ex (formed : WellFormed event) (last : Output) (uncalled : calledEx [last] = []) :
    List.Forall₂ SameOnWireEx (calledEx (callbacks client event ++ [last]))
      (if client.callbackExActive then [event] else []) := by
  obtain ⟨copy, converts, same⟩ := copied_event_ex emptyEventEx event formed
  have plain : calledEx (if client.callbackEvActive then [.calledEv event] else []) = [] := by split <;> rfl
  have converted : convertEventToEventEx emptyEventEx event = some copy := by
    cases result : convertEventToEventEx emptyEventEx event with
    | none =>
        rw [result] at converts
        cases converts
    | some ex =>
        rw [result] at converts
        rw [Except.ok.inj converts]
  rw [callbacks, List.append_assoc, calledEx, List.filterMap_append, List.filterMap_append]
  change List.Forall₂ _ (calledEx _ ++ (calledEx _ ++ calledEx [last])) _
  rw [plain, uncalled, converted]
  split
  · exact .cons same .nil
  · exact .nil

theorem callbacks_history (last : Output) : history (callbacks client event ++ [last]) = history [last] := by
  rw [history_append]
  have silent : history (callbacks client event) = [] :=
    List.filterMap_eq_nil_iff.mpr (callbacks_silent client event)
  rw [silent, List.nil_append]

end callbacks

variable (semaphore : Option Nat) (length : Nat)

theorem posted (counted : ∀ count, semaphore = some count → count = length)
    (room : ∀ count, semaphore = some count → count < semValueMax) :
    ∀ count, postSignal semaphore = some count → count = length + 1 := by
  intro count signal
  obtain ⟨old, present, rfl⟩ := Option.map_eq_some_iff.mp signal
  rw [if_pos (room old present), counted old present]

theorem posted_full (counted : ∀ count, semaphore = some count → count = length)
    (posts : ∀ count, postSignal semaphore = some count → count = length + 1) :
    ∀ count, semaphore = some count → count < semValueMax := by
  intro count present
  by_contra full
  have kept : postSignal semaphore = some count := by rw [present, postSignal, Option.map_some, if_neg full]
  have more := posts count kept
  have same := counted count present
  omega

theorem consumed (counted : ∀ count, semaphore = some count → count = length + 1) :
    ∀ count, consumeSignal semaphore = some count → count = length := by
  intro count signal
  obtain ⟨old, present, rfl⟩ := Option.map_eq_some_iff.mp signal
  rw [counted old present]
  rfl

theorem clear_signals (queue : List VscpEvent) (semaphore : Option Nat)
    (counted : ∀ count, semaphore = some count → count = queue.length) :
    ∀ count, clearSignals semaphore queue = some count → count = 0 := by
  induction queue generalizing semaphore with
  | nil => exact counted
  | cons event rest ih => exact ih (consumeSignal semaphore) (consumed semaphore rest.length counted)

section steps

variable (receiver : Receiver) (signalled : Signalled receiver)
include signalled

theorem served_queued (event : VscpEvent) (formed : WellFormed event) (datagram : Bytes) :
    Served receiver [event] (⟨{ receiver.client with receiveQueue := receiver.client.receiveQueue ++ [event] },
        postSignal receiver.semaphore⟩, callbacks receiver.client event ++ [.arrived datagram (some event)]) ↔
      receiver.client.callbackEvActive = false ∧ receiver.client.callbackExActive = false ∧
        ∀ count, receiver.semaphore = some count → count < semValueMax := by
  have came : history (callbacks receiver.client event ++ [.arrived datagram (some event)]) = [.enter event] := by
    rw [callbacks_history]
    rfl
  constructor
  · intro served
    have queued := served.queued
    rw [came] at queued
    refine ⟨?_, ?_, ?_⟩
    · by_contra active
      rw [if_pos (Or.inl (by simpa using active))] at queued
      cases queued
    · by_contra active
      rw [if_pos (Or.inr (by simpa using active))] at queued
      cases queued
    · apply posted_full receiver.semaphore receiver.client.receiveQueue.length signalled
      intro count post
      rw [served.signalled count post]
      exact List.length_append
  · rintro ⟨quietEv, quietEx, room⟩
    refine ⟨called_ev receiver.client event _ rfl, called_ex receiver.client event formed _ rfl, ?_, ?_, ?_⟩
    · rw [came, quietEv, quietEx]
      rfl
    · rw [came]
      rfl
    · intro count post
      change count = (receiver.client.receiveQueue ++ [event]).length
      rw [posted receiver.semaphore _ signalled room count post, List.length_append]
      rfl

theorem served_unqueued (event : VscpEvent) (formed : WellFormed event) (datagram : Bytes) :
    Served receiver [event] (receiver, callbacks receiver.client event ++ [.arrived datagram none]) ↔
      receiver.client.callbackEvActive = true ∨ receiver.client.callbackExActive = true := by
  have nothing : history (callbacks receiver.client event ++ [.arrived datagram none]) = [] := by
    rw [callbacks_history]
    rfl
  constructor
  · intro served
    have queued := served.queued
    rw [nothing] at queued
    by_contra quiet
    rw [if_neg quiet] at queued
    cases queued
  · intro active
    refine ⟨called_ev receiver.client event _ rfl, called_ex receiver.client event formed _ rfl, ?_, ?_, signalled⟩
    · rw [nothing, if_pos active]
      rfl
    · rw [nothing]
      exact List.append_nil _

theorem hand_over_served (event : VscpEvent) (formed : WellFormed event) (memory : Bool) (datagram : Bytes) :
    Served receiver [event] (handOver receiver memory datagram event) ↔ SettingsAgree receiver memory := by
  unfold handOver SettingsAgree Room
  dsimp only
  split
  case isTrue queues =>
    rw [served_queued receiver signalled event formed datagram]
    obtain ⟨quiet, rfl⟩ := queues
    cases ev : receiver.client.callbackEvActive <;> cases ex : receiver.client.callbackExActive <;> simp_all
  case isFalse keeps =>
    rw [served_unqueued receiver signalled event formed datagram]
    cases ev : receiver.client.callbackEvActive <;> cases ex : receiver.client.callbackExActive <;> simp_all

theorem served_idle (client : Client) (outputs : List Output)
    (same : client.receiveQueue = receiver.client.receiveQueue) (uncalledEv : calledEv outputs = [])
    (uncalledEx : calledEx outputs = []) (silent : history outputs = []) :
    Served receiver [] (⟨client, receiver.semaphore⟩, outputs) := by
  refine ⟨?_, ?_, ?_, ?_, ?_⟩
  · rw [uncalledEv, ite_self]
  · rw [uncalledEx, ite_self]
    exact .nil
  · rw [silent, ite_self]
    rfl
  · rw [silent]
    change _ ++ [] = [] ++ client.receiveQueue
    rw [List.append_nil, List.nil_append, same]
  · intro count present
    change count = client.receiveQueue.length
    rw [same]
    exact signalled count present

theorem deliver_served (ssl : OpenSsl) (aes : BlockCipher) (useOpenSsl : Bool) (clock : Clock) (memory : Bool)
    (datagram : Bytes) :
    ServesRight ssl aes receiver (.deliver useOpenSsl clock memory datagram) ↔
      Serviceable ssl aes receiver (.deliver useOpenSsl clock memory datagram) := by
  dsimp only [ServesRight, Serviceable, passing, receiverStep]
  by_cases live : receiver.client.running = true
  · rw [if_pos live, if_pos live, receiveTurn]
    have formed := read_datagram_formed ssl aes useOpenSsl receiver.client.settings clock datagram
    cases read : readDatagram ssl aes useOpenSsl receiver.client.settings clock datagram with
    | none => exact iff_of_true (served_idle receiver signalled _ _ rfl rfl rfl rfl) (fun some => absurd rfl some)
    | some event =>
        dsimp only
        by_cases passes : doLevel2Filter event receiver.client.filter = true
        · rw [if_pos passes, Option.filter_some, if_pos passes, Option.toList_some,
            hand_over_served receiver signalled event (formed event read)]
          simp
        · rw [if_neg passes, Option.filter_some, if_neg passes, Option.toList_none]
          exact iff_of_true (served_idle receiver signalled _ _ rfl rfl rfl rfl) (fun some => absurd rfl some)
  · rw [if_neg live, if_neg live]
    exact iff_of_true (served_idle receiver signalled _ _ rfl rfl rfl rfl) (fun some => absurd rfl some)

theorem pop_served (blocking : Bool) (timeout : Int) (taken : Client × List Output)
    (fails : ∀ code, popEvent receiver.client blocking timeout = .error code →
      taken = (receiver.client, [.noEvent code]))
    (pops : ∀ popped, popEvent receiver.client blocking timeout = .ok popped →
      ∃ output, taken = (popped.2, [output]) ∧ entry output = some (.leave popped.1)) :
    Served receiver [] (⟨taken.1, popSignal receiver blocking timeout⟩, taken.2) := by
  rcases pop_event_cases receiver.client blocking timeout with ⟨code, failed, _⟩ | ⟨event, rest, queue, popped⟩
  · rw [fails code failed, popSignal, failed]
    exact served_idle receiver signalled _ _ rfl rfl rfl rfl
  · obtain ⟨output, shape, leaves⟩ := pops _ popped
    have left : history [output] = [.leave event] := by
      simp only [history, List.filterMap_cons, leaves, List.filterMap_nil]
    have uncalled : calledEv [output] = [] ∧ calledEx [output] = [] := by
      cases output <;> first | exact ⟨rfl, rfl⟩ | cases leaves
    rw [shape, popSignal, popped]
    refine ⟨?_, ?_, ?_, ?_, ?_⟩
    · rw [uncalled.1, ite_self]
    · rw [uncalled.2, ite_self]
      exact .nil
    · rw [left, ite_self]
      rfl
    · rw [left, queue]
      exact List.append_nil _
    · apply consumed
      intro count present
      rw [signalled count present, queue]
      rfl

theorem clear_served : Served receiver [] (⟨(clearQueue receiver.client).1,
    clearSignals receiver.semaphore receiver.client.receiveQueue⟩, (clearQueue receiver.client).2) := by
  have uncalledEv (queue : List VscpEvent) : calledEv (queue.map .cleared) = [] := by
    rw [calledEv, List.filterMap_map]
    exact List.filterMap_eq_nil_iff.mpr fun _ _ => rfl
  have uncalledEx (queue : List VscpEvent) : calledEx (queue.map .cleared) = [] := by
    rw [calledEx, List.filterMap_map]
    exact List.filterMap_eq_nil_iff.mpr fun _ _ => rfl
  dsimp only [clearQueue]
  refine ⟨?_, ?_, ?_, ?_, ?_⟩
  · rw [uncalledEv, ite_self]
  · rw [uncalledEx, ite_self]
    exact .nil
  · rw [cleared_history, entered_drops, ite_self]
  · rw [cleared_history, entered_drops, settled_drops]
  · exact clear_signals receiver.client.receiveQueue receiver.semaphore signalled

theorem step_served (ssl : OpenSsl) (aes : BlockCipher) (input : ReceiverStep) :
    ServesRight ssl aes receiver input ↔ Serviceable ssl aes receiver input := by
  cases input with
  | connect settings => exact iff_of_true (served_idle receiver signalled _ _ rfl rfl rfl rfl) trivial
  | stop => exact iff_of_true (served_idle receiver signalled _ _ rfl rfl rfl rfl) trivial
  | setfilter filter => exact iff_of_true (served_idle receiver signalled _ _ rfl rfl rfl rfl) trivial
  | setCallbackEvActive b => exact iff_of_true (served_idle receiver signalled _ _ rfl rfl rfl rfl) trivial
  | setCallbackExActive b => exact iff_of_true (served_idle receiver signalled _ _ rfl rfl rfl rfl) trivial
  | deliver useOpenSsl clock memory datagram =>
      exact deliver_served receiver signalled ssl aes useOpenSsl clock memory datagram
  | receive blocking timeout =>
      refine iff_of_true (pop_served receiver signalled blocking timeout _ ?_ ?_) trivial
      · intro code failed
        rw [receiveEvent, failed]
      · intro popped success
        rw [receiveEvent, success]
        exact ⟨_, rfl, rfl⟩
  | receiveEx blocking timeout event =>
      refine iff_of_true (pop_served receiver signalled blocking timeout _ ?_ ?_) trivial
      · intro code failed
        rw [receiveEventEx, failed]
      · intro popped success
        rw [receiveEventEx, success]
        exact ⟨_, rfl, rfl⟩
  | clear => exact iff_of_true (clear_served receiver signalled) trivial

end steps

def UsesCallback (ssl : OpenSsl) (aes : BlockCipher) (before : Receiver) (input : ReceiverStep) : Prop :=
  passing ssl aes before input ≠ [] →
    before.client.callbackEvActive = true ∨ before.client.callbackExActive = true

theorem served_stays_empty (before : Receiver) (events : List VscpEvent) (result : Receiver × List Output)
    (served : Served before events result) (empty : before.client.receiveQueue = [])
    (uses : events ≠ [] → before.client.callbackEvActive = true ∨ before.client.callbackExActive = true) :
    result.1.client.receiveQueue = [] := by
  have none : entered (history result.2) = [] := by
    rw [served.queued]
    split
    · rfl
    · rename_i quiet
      by_contra some
      exact quiet (uses some)
  have held := served.held
  rw [empty, none, List.append_nil] at held
  exact (List.append_eq_nil_iff.mp held.symm).2

theorem new_signalled (settings : Settings) (semReady : Bool) : Signalled (newReceiver settings semReady) := by
  intro count present
  cases semReady with
  | false => cases present
  | true => exact (Option.some.inj present).symm

-- Every event that passes the filter is handed once to each active callback and queued only where none is active, with
-- as many signals as queued events, exactly in the runs whose callbacks are both on or both off when one passes. There
-- the queue of a client that uses a callback stays empty.
theorem datagrams_served_iff (ssl : OpenSsl) (aes : BlockCipher) (settings : Settings) (semReady : Bool)
    (steps : List ReceiverStep) :
    let start := newReceiver settings semReady
    (Meets (receiverStep ssl aes) (ServesRight ssl aes) start steps ↔
      Meets (receiverStep ssl aes) (Serviceable ssl aes) start steps) ∧
    (Meets (receiverStep ssl aes) (Serviceable ssl aes) start steps →
      Meets (receiverStep ssl aes) (UsesCallback ssl aes) start steps →
        (run (receiverStep ssl aes) start steps).1.client.receiveQueue = []) := by
  intro start
  have signalled := new_signalled settings semReady
  have serves := meets_iff_meets (receiverStep ssl aes) (ServesRight ssl aes) (Serviceable ssl aes) Signalled
    (fun receiver input signalled => step_served receiver signalled ssl aes input)
    (fun receiver input signalled right => right.signalled) start steps signalled
  refine ⟨serves, fun allowed uses => ?_⟩
  exact run_meets_invariant (receiverStep ssl aes) _ (fun receiver => receiver.client.receiveQueue = [])
    (fun receiver input empty both => served_stays_empty receiver _ _ both.1 empty both.2)
    start steps rfl (meets_and (receiverStep ssl aes) _ _ start steps (serves.mpr allowed) uses)

def callbackSteps : List ReceiverStep :=
  [.connect plainSettings, .setCallbackEvActive true, .deliver false exampleClock true (eventFrame 0 exampleEvent)]

-- The callback has had the event, and the event waits in the queue as well.
theorem one_callback_queues :
    let result := run (receiverStep knownOpenSsl knownAes) (newReceiver plainSettings true) callbackSteps
    (calledEv result.2).length = 1 ∧ calledEv result.2 = result.1.client.receiveQueue ∧
      ¬ Meets (receiverStep knownOpenSsl knownAes) (ServesRight knownOpenSsl knownAes) (newReceiver plainSettings true)
        callbackSteps := by
  refine ⟨by decide +kernel, by decide +kernel, ?_⟩
  rintro ⟨_, _, right, _⟩
  have queued := right.queued
  revert queued
  decide +kernel

end Vscp.Datagram
