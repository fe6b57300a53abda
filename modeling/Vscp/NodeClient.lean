import Vscp.Lib.Run

set_option autoImplicit false

namespace Vscp.NodeClient

structure Waiter where
  call : Nat
  timedOut : Bool
deriving DecidableEq

structure Client (Event : Type) where
  connected : Bool
  eventQueue : List Event
  maxQueueSize : Nat
  listeners : List Waiter
  eventsReceived : Nat

inductive Answer (Event : Type) where
  | success (event : Event)
  | timeout
  | notConnected
deriving DecidableEq

inductive Happening (Event : Type) where
  | settled (call : Nat) (answer : Answer Event)
  | dropped (event : Event)
deriving DecidableEq

variable {Event : Type}

def Client.waiting (client : Client Event) : List Waiter := client.listeners.filter fun waiter => !waiter.timedOut

-- The event is queued and emitted. Every listener is called once and taken away; a promise that is settled stays so.
def injectEvent (client : Client Event) (event : Event) : Client Event × List (Happening Event) :=
  let excess := if client.maxQueueSize ≤ client.eventQueue.length then 1 else 0
  ({ client with
      eventQueue := client.eventQueue.drop excess ++ [event]
      listeners := []
      eventsReceived := client.eventsReceived + client.listeners.length },
    (client.eventQueue.take excess).map .dropped ++
      client.waiting.map fun waiter => .settled waiter.call (.success event))

-- With and without a timeout of its own the call gets a timer, which may run out at any later time.
def receive (client : Client Event) (call : Nat) : Client Event × List (Happening Event) :=
  if !client.connected then (client, [.settled call .notConnected])
  else
    match client.eventQueue with
    | event :: rest =>
        ({ client with eventQueue := rest, eventsReceived := client.eventsReceived + 1 },
          [.settled call (.success event)])
    | [] => ({ client with listeners := client.listeners ++ [⟨call, false⟩] }, [])

-- The timer of a call; there is none once the call is settled.
def expire (client : Client Event) (call : Nat) : Client Event × List (Happening Event) :=
  ({ client with listeners := client.listeners.map fun waiter =>
      if waiter.call = call then { waiter with timedOut := true } else waiter },
    (client.waiting.filter fun waiter => waiter.call = call).map fun waiter => .settled waiter.call .timeout)

def clear (client : Client Event) : Client Event × List (Happening Event) :=
  ({ client with eventQueue := [] }, client.eventQueue.map .dropped)

def connect (client : Client Event) : Client Event × List (Happening Event) := ({ client with connected := true }, [])

def disconnect (client : Client Event) : Client Event × List (Happening Event) :=
  if !client.connected then (client, [])
  else ({ client with connected := false, eventQueue := [] }, client.eventQueue.map .dropped)

-- An event with the number of its arrival, and whether receive calls were waiting for it.
structure Arrival (Event : Type) where
  number : Nat
  awaited : Bool
  event : Event
deriving DecidableEq

structure World (Event : Type) where
  client : Client (Arrival Event)
  arrived : Nat
  calls : Nat

inductive Input (Event : Type) where
  | injectEvent (event : Event)
  | receive
  | expire (call : Nat)
  | clear
  | connect
  | disconnect

def step (world : World Event) (input : Input Event) : World Event × List (Happening (Arrival Event)) :=
  match input with
  | .injectEvent event =>
      let taken := injectEvent world.client ⟨world.arrived, !world.client.waiting.isEmpty, event⟩
      ({ world with client := taken.1, arrived := world.arrived + 1 }, taken.2)
  | .receive =>
      let taken := receive world.client world.calls
      ({ world with client := taken.1, calls := world.calls + 1 }, taken.2)
  | .expire call =>
      let taken := expire world.client call
      ({ world with client := taken.1 }, taken.2)
  | .clear =>
      let taken := clear world.client
      ({ world with client := taken.1 }, taken.2)
  | .connect =>
      let taken := connect world.client
      ({ world with client := taken.1 }, taken.2)
  | .disconnect =>
      let taken := disconnect world.client
      ({ world with client := taken.1 }, taken.2)

def resolved (past : List (Happening (Arrival Event))) : List Nat :=
  past.filterMap fun
    | .settled _ (.success arrival) => some arrival.number
    | _ => none

def droppedNumbers (past : List (Happening (Arrival Event))) : List Nat :=
  past.filterMap fun
    | .dropped arrival => some arrival.number
    | _ => none

def World.queued (world : World Event) : List Nat := world.client.eventQueue.map Arrival.number

-- When no receive waits any more, an event that arrives is given to none and is last in the queue, and the next
-- receive gets it if it is the only one there.
def LeftForNext (world : World Event) : Prop :=
  world.client.waiting = [] → ∀ event,
    resolved (step world (.injectEvent event)).2 = [] ∧
      (step world (.injectEvent event)).1.queued.getLast? = some world.arrived ∧
      (world.client.eventQueue = [] → world.client.connected = true →
        resolved (step (step world (.injectEvent event)).1 .receive).2 = [world.arrived])

structure QueueKept (world : World Event) (past : List (Happening (Arrival Event))) : Prop where
  once : (resolved past).Nodup
  ordered : (resolved past).Pairwise (· ≤ ·)
  accounted : ∀ number < world.arrived,
    number ∈ resolved past ∨ number ∈ world.queued ∨ number ∈ droppedNumbers past
  left : LeftForNext world

-- At most one receive waits when an event arrives, and the oldest event in the queue went to no waiting receive.
def OneTaker (world : World Event) : Input Event → Prop
  | .injectEvent _ => world.client.waiting.length ≤ 1
  | .receive => world.client.connected = true → ∀ arrival ∈ world.client.eventQueue.head?, arrival.awaited = false
  | _ => True

structure Recorded (world : World Event) (past : List (Happening (Arrival Event))) : Prop where
  listening : world.client.listeners ≠ [] → world.client.eventQueue = []
  known : ∀ number ∈ resolved past, number < world.arrived
  increasing : world.queued.Pairwise (· < ·)
  bounded : ∀ number ∈ world.queued, number < world.arrived
  behind : ∀ number ∈ resolved past, ∀ later ∈ world.queued, number ≤ later
  marked : ∀ arrival ∈ world.client.eventQueue, arrival.number ∈ resolved past ↔ arrival.awaited = true
  ordered : (resolved past).Pairwise (· ≤ ·)
  accounted : ∀ number < world.arrived,
    number ∈ resolved past ∨ number ∈ world.queued ∨ number ∈ droppedNumbers past

variable (first second : List (Happening (Arrival Event)))

@[simp] theorem resolved_append :
    resolved (first ++ second) = resolved first ++ resolved second := List.filterMap_append

@[simp] theorem dropped_append :
    droppedNumbers (first ++ second) = droppedNumbers first ++ droppedNumbers second := List.filterMap_append

variable (arrivals : List (Arrival Event))

@[simp] theorem resolved_drops :
    resolved (arrivals.map Happening.dropped) = [] := by
  rw [resolved, List.filterMap_map]
  exact List.filterMap_eq_nil_iff.mpr fun _ _ => rfl

@[simp] theorem dropped_drops :
    droppedNumbers (arrivals.map Happening.dropped) = arrivals.map Arrival.number := by
  rw [droppedNumbers, List.filterMap_map, ← List.filterMap_eq_map]
  rfl

variable (waiters : List Waiter) (world : World Event) (past : List (Happening (Arrival Event)))

variable (arrival : Arrival Event)

@[simp] theorem resolved_successes :
    resolved (waiters.map fun waiter => Happening.settled waiter.call (.success arrival)) =
      List.replicate waiters.length arrival.number := by
  rw [resolved, List.filterMap_map, ← List.map_const', ← List.filterMap_eq_map]
  rfl

@[simp] theorem dropped_successes :
    droppedNumbers (waiters.map fun waiter => Happening.settled waiter.call (.success arrival)) = [] := by
  rw [droppedNumbers, List.filterMap_map]
  exact List.filterMap_eq_nil_iff.mpr fun _ _ => rfl

@[simp] theorem resolved_timeouts :
    resolved (waiters.map fun waiter => (Happening.settled waiter.call .timeout : Happening (Arrival Event))) = [] := by
  rw [resolved, List.filterMap_map]
  exact List.filterMap_eq_nil_iff.mpr fun _ _ => rfl

@[simp] theorem dropped_timeouts :
    droppedNumbers (waiters.map fun waiter => (Happening.settled waiter.call .timeout : Happening (Arrival Event))) =
      [] := by
  rw [droppedNumbers, List.filterMap_map]
  exact List.filterMap_eq_nil_iff.mpr fun _ _ => rfl

variable (event : Event)

theorem inject_step :
    ∃ excess, resolved (step world (.injectEvent event)).2 =
        List.replicate world.client.waiting.length world.arrived ∧
      droppedNumbers (step world (.injectEvent event)).2 = world.queued.take excess ∧
      (step world (.injectEvent event)).1.client.eventQueue =
        world.client.eventQueue.drop excess ++ [⟨world.arrived, !world.client.waiting.isEmpty, event⟩] ∧
      (step world (.injectEvent event)).1.arrived = world.arrived + 1 ∧
      (step world (.injectEvent event)).1.client.listeners = [] := by
  refine ⟨if world.client.maxQueueSize ≤ world.client.eventQueue.length then 1 else 0, ?_, ?_, rfl, rfl, rfl⟩
  · simp only [step, injectEvent, resolved_append, resolved_drops, resolved_successes, List.nil_append]
  · rw [World.queued, ← List.map_take]
    simp only [step, injectEvent, dropped_append, dropped_drops, dropped_successes, List.append_nil]

theorem waiting_of_listeners (client : Client Event) (none : client.listeners = []) : client.waiting = [] := by
  rw [Client.waiting, none]
  rfl

theorem inject_recorded (recorded : Recorded world past) :
    Recorded (step world (.injectEvent event)).1 (past ++ (step world (.injectEvent event)).2) := by
  obtain ⟨excess, taken, lost, queue, count, listeners⟩ := inject_step world event
  have queued : (step world (.injectEvent event)).1.queued = world.queued.drop excess ++ [world.arrived] := by
    rw [World.queued, queue, List.map_append, List.map_drop]
    rfl
  have fresh : world.arrived ∉ resolved past := fun inside => lt_irrefl _ (recorded.known _ inside)
  have rest : ∀ number ∈ world.queued.drop excess, number ∈ world.queued := fun _ => List.mem_of_mem_drop
  refine ⟨?_, ?_, ?_, ?_, ?_, ?_, ?_, ?_⟩
  · intro some
    exact absurd listeners some
  · intro number inside
    rw [resolved_append, taken] at inside
    rw [count]
    obtain old | new := List.mem_append.mp inside
    · exact Nat.lt_succ_of_lt (recorded.known number old)
    · rw [List.eq_of_mem_replicate new]
      exact Nat.lt_succ_self _
  · rw [queued, List.pairwise_append]
    refine ⟨recorded.increasing.sublist (List.drop_sublist _ _), List.pairwise_singleton _ _, ?_⟩
    intro number inside last here
    rw [List.mem_singleton.mp here]
    exact recorded.bounded number (rest number inside)
  · intro number inside
    rw [queued] at inside
    rw [count]
    obtain old | new := List.mem_append.mp inside
    · exact Nat.lt_succ_of_lt (recorded.bounded number (rest number old))
    · rw [List.mem_singleton.mp new]
      exact Nat.lt_succ_self _
  · intro number inside later here
    rw [resolved_append, taken] at inside
    rw [queued] at here
    obtain old | new := List.mem_append.mp inside
    · obtain before | last := List.mem_append.mp here
      · exact recorded.behind number old later (rest later before)
      · rw [List.mem_singleton.mp last]
        exact le_of_lt (recorded.known number old)
    · rw [List.eq_of_mem_replicate new]
      -- Where a receive waits, the queue was empty.
      have waiting : world.client.listeners ≠ [] := by
        intro none
        rw [waiting_of_listeners _ none] at new
        exact absurd new List.not_mem_nil
      have empty : world.queued = [] := congrArg (List.map Arrival.number) (recorded.listening waiting)
      rw [empty, List.drop_nil, List.nil_append] at here
      rw [List.mem_singleton.mp here]
  · intro arrival inside
    rw [queue] at inside
    rw [resolved_append, taken, List.mem_append, List.mem_replicate]
    obtain old | new := List.mem_append.mp inside
    · have member := List.mem_of_mem_drop old
      have less := recorded.bounded arrival.number (List.mem_map_of_mem member)
      have other : ¬ (world.client.waiting.length ≠ 0 ∧ arrival.number = world.arrived) := by
        rintro ⟨-, same⟩
        omega
      rw [or_iff_left other]
      exact recorded.marked arrival member
    · rw [List.mem_singleton.mp new, or_iff_right fresh, and_iff_left rfl]
      cases world.client.waiting <;> simp
  · rw [resolved_append, taken, List.pairwise_append]
    refine ⟨recorded.ordered, List.pairwise_replicate_of_refl, ?_⟩
    intro number old later new
    rw [List.eq_of_mem_replicate new]
    exact le_of_lt (recorded.known number old)
  · intro number less
    rw [count] at less
    rw [resolved_append, dropped_append, queued, lost, List.mem_append, List.mem_append, List.mem_append]
    obtain old | rfl := Nat.lt_succ_iff_lt_or_eq.mp less
    · obtain done | held | gone := recorded.accounted number old
      · exact .inl (.inl done)
      · rw [← List.take_append_drop excess world.queued] at held
        obtain front | back := List.mem_append.mp held
        · exact .inr (.inr (.inr front))
        · exact .inr (.inl (.inl back))
      · exact .inr (.inr (.inl gone))
    · exact .inr (.inl (.inr List.mem_cons_self))

theorem silent_recorded (world next : World Event) (past more : List (Happening (Arrival Event)))
    (recorded : Recorded world past) (count : next.arrived = world.arrived) (silent : resolved more = [])
    (listening : next.client.listeners ≠ [] → next.client.eventQueue = [])
    (queue : next.client.eventQueue = world.client.eventQueue ∧ droppedNumbers more = [] ∨
      next.client.eventQueue = [] ∧ droppedNumbers more = world.queued) : Recorded next (past ++ more) := by
  have same : resolved (past ++ more) = resolved past := by
    rw [resolved_append, silent, List.append_nil]
  obtain ⟨kept, none⟩ | ⟨empty, all⟩ := queue
  · have queued : next.queued = world.queued := congrArg (List.map Arrival.number) kept
    refine ⟨listening, ?_, ?_, ?_, ?_, ?_, ?_, ?_⟩
    · rw [same, count]
      exact recorded.known
    · rw [queued]
      exact recorded.increasing
    · rw [queued, count]
      exact recorded.bounded
    · rw [same, queued]
      exact recorded.behind
    · rw [kept, same]
      exact recorded.marked
    · rw [same]
      exact recorded.ordered
    · rw [same, queued, count, dropped_append, none, List.append_nil]
      exact recorded.accounted
  · have queued : next.queued = [] := congrArg (List.map Arrival.number) empty
    refine ⟨listening, ?_, ?_, ?_, ?_, ?_, ?_, ?_⟩
    · rw [same, count]
      exact recorded.known
    · rw [queued]
      exact List.Pairwise.nil
    · rw [queued]
      exact fun _ inside => absurd inside List.not_mem_nil
    · rw [queued]
      exact fun _ _ _ inside => absurd inside List.not_mem_nil
    · rw [empty]
      exact fun _ inside => absurd inside List.not_mem_nil
    · rw [same]
      exact recorded.ordered
    · intro number less
      rw [count] at less
      rw [same, dropped_append, all, List.mem_append]
      obtain done | held | gone := recorded.accounted number less
      · exact .inl done
      · exact .inr (.inr (.inr held))
      · exact .inr (.inr (.inl gone))

theorem taken_recorded (world next : World Event) (past more : List (Happening (Arrival Event)))
    (recorded : Recorded world past) (arrival : Arrival Event) (rest : List (Arrival Event))
    (queue : world.client.eventQueue = arrival :: rest) (count : next.arrived = world.arrived)
    (left : next.client.eventQueue = rest) (taken : resolved more = [arrival.number]) (none : droppedNumbers more = [])
    (listening : next.client.listeners ≠ [] → next.client.eventQueue = []) : Recorded next (past ++ more) := by
  have queued : world.queued = arrival.number :: next.queued := by
    rw [World.queued, queue, World.queued, left]
    rfl
  have increasing := recorded.increasing
  rw [queued, List.pairwise_cons] at increasing
  have first : arrival.number ∈ world.queued := by
    rw [queued]
    exact List.mem_cons_self
  have later : ∀ number ∈ next.queued, number ∈ world.queued := by
    intro number inside
    rw [queued]
    exact List.mem_cons_of_mem _ inside
  refine ⟨listening, ?_, increasing.2, ?_, ?_, ?_, ?_, ?_⟩
  · intro number inside
    rw [resolved_append, taken] at inside
    rw [count]
    obtain old | new := List.mem_append.mp inside
    · exact recorded.known number old
    · rw [List.mem_singleton.mp new]
      exact recorded.bounded _ first
  · intro number inside
    rw [count]
    exact recorded.bounded number (later number inside)
  · intro number inside other here
    rw [resolved_append, taken] at inside
    obtain old | new := List.mem_append.mp inside
    · exact recorded.behind number old other (later other here)
    · rw [List.mem_singleton.mp new]
      exact le_of_lt (increasing.1 other here)
  · intro other inside
    rw [left] at inside
    have after : other.number ∈ next.queued := by
      rw [World.queued, left]
      exact List.mem_map_of_mem inside
    have apart : ¬ other.number ∈ [arrival.number] := by
      intro same
      exact lt_irrefl _ ((List.mem_singleton.mp same) ▸ increasing.1 other.number after)
    rw [resolved_append, taken, List.mem_append, or_iff_left apart]
    exact recorded.marked other (queue ▸ List.mem_cons_of_mem _ inside)
  · rw [resolved_append, taken, List.pairwise_append]
    refine ⟨recorded.ordered, List.pairwise_singleton _ _, ?_⟩
    intro number old other new
    rw [List.mem_singleton.mp new]
    exact recorded.behind number old _ first
  · intro number less
    rw [count] at less
    rw [resolved_append, taken, dropped_append, none, List.append_nil, List.mem_append]
    obtain done | held | gone := recorded.accounted number less
    · exact .inl (.inl done)
    · rw [queued] at held
      obtain rfl | back := List.mem_cons.mp held
      · exact .inl (.inr List.mem_cons_self)
      · exact .inr (.inl back)
    · exact .inr (.inr gone)

theorem receive_step :
    (world.client.connected = false ∧ (step world .receive).1.client = world.client ∧
      resolved (step world .receive).2 = []) ∨
    (∃ arrival rest, world.client.connected = true ∧ world.client.eventQueue = arrival :: rest ∧
      (step world .receive).1.client =
        { world.client with eventQueue := rest, eventsReceived := world.client.eventsReceived + 1 } ∧
      resolved (step world .receive).2 = [arrival.number]) ∨
    (world.client.connected = true ∧ world.client.eventQueue = [] ∧
      (step world .receive).1.client =
        { world.client with listeners := world.client.listeners ++ [⟨world.calls, false⟩] } ∧
      resolved (step world .receive).2 = []) := by
  cases connected : world.client.connected with
  | false =>
      refine .inl ⟨rfl, ?_, ?_⟩ <;> simp only [step, receive, connected] <;> rfl
  | true =>
      cases queue : world.client.eventQueue with
      | nil =>
          refine .inr (.inr ⟨rfl, rfl, ?_, ?_⟩) <;> simp only [step, receive, connected, queue] <;> rfl
      | cons arrival rest =>
          refine .inr (.inl ⟨arrival, rest, rfl, rfl, ?_, ?_⟩) <;> simp only [step, receive, connected, queue] <;> rfl

theorem receive_drops_nothing : droppedNumbers (step world .receive).2 = [] := by
  simp only [step, receive]
  split
  · rfl
  · split <;> rfl

theorem receive_recorded (recorded : Recorded world past) :
    Recorded (step world .receive).1 (past ++ (step world .receive).2) := by
  have none := receive_drops_nothing world
  obtain ⟨-, same, silent⟩ | ⟨arrival, rest, -, queue, client, taken⟩ | ⟨-, empty, client, silent⟩ := receive_step world
  · refine silent_recorded world _ past _ recorded rfl silent ?_ (.inl ⟨congrArg Client.eventQueue same, none⟩)
    rw [same]
    exact recorded.listening
  · refine taken_recorded world _ past _ recorded arrival rest queue rfl (congrArg Client.eventQueue client) taken none ?_
    rw [client]
    intro waiting
    have never := recorded.listening waiting
    rw [queue] at never
    cases never
  · have still := (congrArg Client.eventQueue client).trans empty
    exact silent_recorded world _ past _ recorded rfl silent (fun _ => still) (.inl ⟨still.trans empty.symm, none⟩)

variable (input : Input Event)

theorem step_recorded (recorded : Recorded world past) : Recorded (step world input).1 (past ++ (step world input).2) := by
  cases input with
  | injectEvent event => exact inject_recorded world past event recorded
  | receive => exact receive_recorded world past recorded
  | expire call =>
      refine silent_recorded world _ past _ recorded rfl (resolved_timeouts _) ?_ (.inl ⟨rfl, dropped_timeouts _⟩)
      intro some
      apply recorded.listening
      intro none
      exact some (congrArg (List.map _) none)
  | clear =>
      exact silent_recorded world _ past _ recorded rfl (resolved_drops _) (fun _ => rfl) (.inr ⟨rfl, dropped_drops _⟩)
  | connect => exact silent_recorded world _ past _ recorded rfl rfl recorded.listening (.inl ⟨rfl, rfl⟩)
  | disconnect =>
      cases connected : world.client.connected with
      | false =>
          have same : step world .disconnect = (world, []) := by
            simp only [step, disconnect, connected]
            rfl
          rw [same, List.append_nil]
          exact recorded
      | true =>
          have gone : step world .disconnect = ({ world with client := { world.client with connected := false
                                                                                           eventQueue := [] } },
              world.client.eventQueue.map .dropped) := by
            simp only [step, disconnect, connected]
            rfl
          rw [gone]
          exact silent_recorded world _ past _ recorded rfl (resolved_drops _) (fun _ => rfl)
            (.inr ⟨rfl, dropped_drops _⟩)

theorem left_for_next : LeftForNext world := by
  intro nobody event
  obtain ⟨excess, taken, -, queue, -, -⟩ := inject_step world event
  refine ⟨?_, ?_, ?_⟩
  · rw [taken, nobody]
    rfl
  · rw [World.queued, queue, List.map_append]
    exact List.getLast?_concat
  · intro empty connected
    rw [empty, List.drop_nil, List.nil_append] at queue
    have still : (step world (.injectEvent event)).1.client.connected = true := connected
    obtain ⟨off, -⟩ | ⟨arrival, rest, -, found, -, resolved⟩ | ⟨-, none, -⟩ :=
      receive_step (step world (.injectEvent event)).1
    · rw [still] at off
      cases off
    · rw [queue] at found
      cases found
      exact resolved
    · rw [queue] at none
      cases none

theorem kept_iff_once (recorded : Recorded world past) :
    QueueKept world past ↔ (resolved past).Nodup :=
  ⟨fun kept => kept.once, fun once => ⟨once, recorded.ordered, recorded.accounted, left_for_next world⟩⟩

theorem step_kept_iff (recorded : Recorded world past) (kept : QueueKept world past) :
    QueueKept (step world input).1 (past ++ (step world input).2) ↔ OneTaker world input := by
  rw [kept_iff_once _ _ (step_recorded world past input recorded), resolved_append]
  have silent (more : List (Happening (Arrival Event))) (none : resolved more = []) :
      (resolved past ++ resolved more).Nodup ↔ True := by
    rw [none, List.append_nil]
    exact iff_true_intro kept.once
  cases input with
  | injectEvent event =>
      obtain ⟨excess, taken, -⟩ := inject_step world event
      have fresh : ∀ number ∈ resolved past, number ≠ world.arrived := by
        intro number inside
        exact Nat.ne_of_lt (recorded.known number inside)
      rw [taken, List.nodup_append, List.nodup_replicate]
      constructor
      · exact fun once => once.2.1
      · intro few
        refine ⟨kept.once, few, ?_⟩
        intro number inside other new
        rw [List.eq_of_mem_replicate new]
        exact fresh number inside
  | receive =>
      obtain ⟨off, -, none⟩ | ⟨arrival, rest, on, queue, -, taken⟩ | ⟨on, empty, -, none⟩ := receive_step world
      · refine (silent _ none).trans (iff_of_true trivial ?_)
        intro on
        rw [off] at on
        cases on
      · have head : arrival ∈ world.client.eventQueue := by
          rw [queue]
          exact List.mem_cons_self
        have marked := recorded.marked arrival head
        rw [taken, List.nodup_append]
        constructor
        · intro once _ first here
          rw [queue, List.head?_cons, Option.mem_some_iff] at here
          subst here
          rw [← Bool.not_eq_true, ← marked]
          exact fun inside => once.2.2 _ inside _ List.mem_cons_self rfl
        · intro untaken
          refine ⟨kept.once, List.nodup_singleton _, ?_⟩
          intro number inside other here
          rw [List.mem_singleton.mp here]
          rintro rfl
          have free := untaken on arrival (by rw [queue]; rfl)
          rw [marked.mp inside] at free
          cases free
      · refine (silent _ none).trans (iff_of_true trivial ?_)
        intro _ first here
        rw [empty] at here
        cases here
  | expire call => exact silent _ (resolved_timeouts _)
  | clear => exact silent _ (resolved_drops _)
  | connect => exact silent _ rfl
  | disconnect =>
      apply silent
      simp only [step, disconnect]
      split
      · rfl
      · exact resolved_drops _

def newWorld (maxQueueSize : Nat) : World Event := ⟨⟨false, [], maxQueueSize, [], 0⟩, 0, 0⟩

theorem new_recorded (maxQueueSize : Nat) : Recorded (newWorld maxQueueSize : World Event) [] := by
  refine ⟨fun _ => rfl, ?_, List.Pairwise.nil, ?_, ?_, ?_, List.Pairwise.nil, ?_⟩
  · exact fun _ inside => absurd inside List.not_mem_nil
  · exact fun _ inside => absurd inside List.not_mem_nil
  · exact fun _ inside => absurd inside List.not_mem_nil
  · exact fun _ inside => absurd inside List.not_mem_nil
  · exact fun _ less => absurd less (Nat.not_lt_zero _)

theorem queue_kept_iff (maxQueueSize : Nat) (inputs : List (Input Event)) :
    Run.Throughout step QueueKept (newWorld maxQueueSize) [] inputs ↔
      Run.Meets step OneTaker (newWorld maxQueueSize) inputs :=
  Run.throughout_iff_meets step QueueKept OneTaker Recorded step_recorded
    (fun world past input recorded kept => step_kept_iff world past input recorded kept) _ _ inputs
    (new_recorded maxQueueSize) ((kept_iff_once _ _ (new_recorded maxQueueSize)).mpr List.nodup_nil)

-- An event that arrives while a receive waits is handed to it and stays in the queue for the next one; one that arrives
-- while two wait goes to both.
theorem event_received_twice :
    (Run.run step (newWorld 1000) [.connect, .receive, .injectEvent 'a', .receive]).2 =
        [.settled 0 (.success ⟨0, true, 'a'⟩), .settled 1 (.success ⟨0, true, 'a'⟩)] ∧
      ¬ Run.Throughout step QueueKept (newWorld 1000) [] [.connect, .receive, .injectEvent 'a', .receive] ∧
      (Run.run step (newWorld 1000) [.connect, .receive, .receive, .injectEvent 'a']).2 =
        [.settled 0 (.success ⟨0, true, 'a'⟩), .settled 1 (.success ⟨0, true, 'a'⟩)] := by
  refine ⟨by decide, ?_, by decide⟩
  intro through
  exact absurd through.2.2.2.1.once (by decide)

end Vscp.NodeClient
