import Vscp.Lib.Fifo
import Vscp.Lib.Run
import Vscp.TextReply

set_option autoImplicit false

namespace Vscp.ClientTcp

open RemoteTcp

-- m_receiveList holds addresses. The worker pushes the address of the event it reads into.
inductive Address
  | workerEvent
deriving DecidableEq

-- vscpClientTcp with two text connections. The receive connection is seen through
-- the answers of its doCmdBlockingReceive, `ev` is the local event of workerThread.
structure TextClient where
  run : Bool
  filterIn : VscpEventFilter
  callbackEvActive : Bool
  callbackExActive : Bool
  ev : VscpEvent
  receiveList : List Address
  semReceiveQueue : Nat
  tcp : TextSession

def TextClient.at (client : TextClient) : Address → VscpEvent
  | .workerEvent => client.ev

inductive Output
  | received (event : VscpEvent)
  | callbackEv (event : VscpEvent)
  | callbackEx (event : VscpEventEx)
  | delivered (event : VscpEvent)
  | refused (code : VscpError)
  | timedOut (waiting : Nat)
  | counted (count : UInt16)
deriving DecidableEq

def deleteEvent (event : VscpEvent) : VscpEvent := { event with pdata := none }

-- `ex` in the source is not initialised; what lies behind its data is left at zero here.
def callbacks (client : TextClient) (event : VscpEvent) : List Output :=
  (if client.callbackEvActive then [.callbackEv event] else []) ++
    (if client.callbackExActive then (convertEventToEventEx emptyEventEx event).toList.map .callbackEx else [])

def workerTurn (client : TextClient) (received : Except VscpError VscpEvent) (stillConnected : Bool) :
    TextClient × List Output :=
  if ¬ client.run then (client, [])
  else
    match received with
    | .error _ => ({ client with run := stillConnected }, [])
    | .ok event =>
        let passes := doLevel2Filter event client.filterIn
        let queues := passes ∧ (¬ client.callbackEvActive ∨ ¬ client.callbackExActive)
        ({ client with
            run := stillConnected
            ev := deleteEvent event
            receiveList := client.receiveList ++ if queues then [.workerEvent] else []
            semReceiveQueue := client.semReceiveQueue + if queues then 1 else 0 },
          if passes then .received event :: callbacks client event else [])

structure Exchange where
  written : Except VscpError Unit
  polls : List Poll

variable (other : OtherCommands) (getEventFromLine : Text → Option VscpEvent)

def receive (client : TextClient) (exchange : Exchange) (stream : Text) :
    Except VscpError VscpEvent × TextClient × Text :=
  let result := doCmdReceive other getEventFromLine client.tcp exchange.written stream exchange.polls
  (result.1, { client with tcp := result.2.1 }, result.2.2)

def waitReceiveQueue (client : TextClient) : Option TextClient :=
  if client.semReceiveQueue = 0 then none else some { client with semReceiveQueue := client.semReceiveQueue - 1 }

def getcount (client : TextClient) (exchange : Exchange) (stream : Text) : UInt16 × TextClient × Text :=
  let result := doCmdDataAvailable other client.tcp exchange.written stream exchange.polls
  (UInt16.ofNat (result.1 % 2 ^ 16).toNat, { client with tcp := result.2.1 }, result.2.2)

-- The client, what the server holds for its command connection, what it has sent there
-- and nobody has read, and the callers that are past the semaphore of receiveBlocking.
structure World where
  client : TextClient
  serverQueue : List Text
  stream : Text
  waiting : Nat

def okSuccess : Text := ['+', 'O', 'K', ' ', '-', ' ', 'S', 'u', 'c', 'c', 'e', 's', 's', '\r']

def noEvents : Text :=
  ['-', 'O', 'K', ' ', '-', ' ', 'N', 'o', ' ', 'e', 'v', 'e', 'n', 't', '(', 's', ')', ' ',
    'a', 'v', 'a', 'i', 'l', 'a', 'b', 'l', 'e', '\r']

def retrReply : List Text → List Text
  | [] => [noEvents]
  | line :: _ => [line, okSuccess]

def cdtaReply (queue : List Text) : List Text := [Nat.toDigits 10 queue.length ++ ['\r'], okSuccess]

def commandSent (client : TextClient) (exchange : Exchange) : Bool :=
  client.tcp.connected ∧ ¬ client.tcp.binaryMode ∧ ¬ client.tcp.modeReceiveLoop ∧ exchange.written.toBool

inductive Step
  | arrive (received : Except VscpError VscpEvent) (queued : Option Text) (stillConnected : Bool)
  | receive (exchange : Exchange)
  | waitReceiveQueue
  | receiveAfterWait (exchange : Exchange)
  | getcount (exchange : Exchange)

def readEvent (world : World) (exchange : Exchange) : World × List Output :=
  let sent := commandSent world.client exchange
  let reply := if sent then replyText (retrReply world.serverQueue) else []
  let result := receive other getEventFromLine world.client exchange (world.stream ++ reply)
  ({ world with
      client := result.2.1
      serverQueue := if sent then world.serverQueue.tail else world.serverQueue
      stream := result.2.2 },
    [match result.1 with
      | .ok event => .delivered event
      | .error code => .refused code])

def step (world : World) : Step → World × List Output
  | .arrive received queued stillConnected =>
      let turn := workerTurn world.client received stillConnected
      ({ world with client := turn.1, serverQueue := world.serverQueue ++ queued.toList }, turn.2)
  | .receive exchange => readEvent other getEventFromLine world exchange
  | .waitReceiveQueue =>
      match waitReceiveQueue world.client with
      | none => (world, [.timedOut world.waiting])
      | some client => ({ world with client, waiting := world.waiting + 1 }, [])
  | .receiveAfterWait exchange =>
      if world.waiting = 0 then (world, [])
      else readEvent other getEventFromLine { world with waiting := world.waiting - 1 } exchange
  | .getcount exchange =>
      let reply := if commandSent world.client exchange then replyText (cdtaReply world.serverQueue) else []
      let result := getcount other world.client exchange (world.stream ++ reply)
      ({ world with client := result.2.1, stream := result.2.2 }, [.counted result.1])

def passing (client : TextClient) : Except VscpError VscpEvent → Option VscpEvent
  | .error _ => none
  | .ok event => if client.run ∧ doLevel2Filter event client.filterIn then some event else none

structure EventLine (line : Text) : Prop where
  single : '\n' ∉ line
  visible : trim line ≠ []
  clean : hasErr (replyText [line, okSuccess]) = false

def Carries (line : Text) (event : VscpEvent) : Prop := EventLine line ∧ getEventFromLine (trim line) = some event

def Answered (exchange : Exchange) (lines : List Text) : Prop :=
  exchange.written = .ok () ∧ ∃ counts, exchange.polls = counts.map .arrived ∧
    (segments (replyText lines) counts).flatten = replyText lines ∧
    DecidesAtTheEnd [] (segments (replyText lines) counts)

-- The server queues for the command connection what the worker receives, when it does.
def Mirrored (world : World) : Step → Prop
  | .arrive received queued _ =>
      match passing world.client received, queued with
      | none, none => True
      | some event, some line => Carries getEventFromLine line event
      | _, _ => False
  | .receive exchange => Answered exchange (retrReply world.serverQueue)
  | .waitReceiveQueue => True
  | .receiveAfterWait exchange => Answered exchange (retrReply world.serverQueue)
  | .getcount exchange => Answered exchange (cdtaReply world.serverQueue) ∧ world.serverQueue.length < 2 ^ 16

def history (outputs : List Output) : List (Fifo.Entry VscpEvent) :=
  outputs.filterMap fun | .received event => some (.enter event) | .delivered event => some (.leave event) | _ => none

-- What a caller may be told, after the outputs before it.
def Fair (past : List Output) : Output → Prop
  | .delivered event => Fifo.left (history past) ++ [event] <+: Fifo.entered (history past)
  | .refused _ => Fifo.left (history past) = Fifo.entered (history past)
  | .timedOut waiting => (Fifo.entered (history past)).length ≤ (Fifo.left (history past)).length + waiting
  | .counted count => (Fifo.entered (history past)).length = (Fifo.left (history past)).length + count.toNat
  | _ => True

structure CommandReady (session : TextSession) : Prop where
  connected : session.connected = true
  text : session.binaryMode = false
  free : session.modeReceiveLoop = false

structure Served (world : World) (past : List Output) (queue : List VscpEvent) : Prop where
  ready : CommandReady world.client.tcp
  silent : world.client.callbackEvActive = false ∧ world.client.callbackExActive = false
  read : world.stream = []
  kept : Fifo.NothingDropped (history past)
  holds : Fifo.Holds (history past) queue
  carries : List.Forall₂ (Carries getEventFromLine) world.serverQueue queue

-- Every event a caller may still get has a permit, in the semaphore or with a caller.
def Mirror (world : World) (past : List Output) : Prop :=
  ∃ queue, Served getEventFromLine world past queue ∧ queue.length ≤ world.client.semReceiveQueue + world.waiting

theorem history_append (first second : List Output) : history (first ++ second) = history first ++ history second :=
  List.filterMap_append

variable (client : TextClient) (world : World) (past : List Output) (session : TextSession) (exchange : Exchange)

variable (cmd : Text)

theorem ready_command (ready : CommandReady session)
    (word : makeUpper (trim cmd) ≠ ['B', 'I', 'N', 'A', 'R', 'Y']) : TextCommand session cmd := by
  refine ⟨ready.connected, ?_, ?_, word⟩
  · rw [ready.text]; decide
  · rw [ready.free]; exact fun loops => absurd loops.1 (by decide)

theorem answered_command (exchange : Exchange) (lines : List Text)
    (ready : CommandReady session) (word : makeUpper (trim cmd) ≠ ['B', 'I', 'N', 'A', 'R', 'Y'])
    (single : ∀ line ∈ lines, '\n' ∉ line) (answered : Answered exchange lines) :
    doCommand other session cmd exchange.written (replyText lines) exchange.polls = wholeReply session lines := by
  obtain ⟨written, counts, polls, arrives, decides⟩ := answered
  rw [written, polls]
  exact command_reply_of_decides other session cmd lines counts (ready_command session cmd ready word) single arrives decides

variable (line : Text)

theorem has_ok_success : hasOk (replyText [line, okSuccess]) = true := by
  rw [hasOk, decide_eq_true_eq]
  have word : ['+', 'O', 'K'] <:+: okSuccess := by decide
  have second : okSuccess <:+: replyText [line, okSuccess] := ⟨line ++ ['\n'], ['\n'], by simp [replyText]⟩
  exact word.trans second

theorem receive_no_events (ready : CommandReady session)
    (answered : Answered exchange (retrReply [])) :
    doCmdReceive other getEventFromLine session exchange.written (replyText (retrReply [])) exchange.polls =
      (.error .error, { session with strResponse := [], inputStrArray := replyLines [noEvents] }, []) := by
  have command := answered_command other session retr exchange (retrReply []) ready (by decide) (by decide) answered
  have refused : wholeSuccess (replyText [noEvents]) = false := by decide
  simp only [doCmdReceive, ready.connected, ready.text, ready.free, command, wholeReply]
  simp [retrReply, refused]

theorem receive_event (rest : List Text) (event : VscpEvent)
    (ready : CommandReady session) (carries : Carries getEventFromLine line event)
    (answered : Answered exchange (retrReply (line :: rest))) :
    doCmdReceive other getEventFromLine session exchange.written (replyText (retrReply (line :: rest))) exchange.polls =
      (.ok event, { session with strResponse := [], inputStrArray := replyLines [line, okSuccess] }, []) := by
  have single : ∀ other ∈ [line, okSuccess], '\n' ∉ other := by
    intro other member
    cases List.mem_cons.mp member with
    | inl first => rw [first]; exact carries.1.single
    | inr second => rw [List.mem_singleton.mp second]; decide
  have command := answered_command other session retr exchange [line, okSuccess] ready (by decide) single answered
  have succeeded : wholeSuccess (replyText [line, okSuccess]) = true := by
    rw [whole_success_of_clean _ carries.1.clean]
    exact has_ok_success line
  have lines : replyLines [line, okSuccess] = [trim line, trim okSuccess] := by
    simp [replyLines, carries.1.visible]
    decide
  simp only [doCmdReceive, ready.connected, ready.text, ready.free, retrReply, command, wholeReply]
  simp [succeeded, lines, carries.2]

theorem digit_not_space (letter : Char) (digit : letter.isDigit = true) : isSpace letter = false := by
  simp only [Char.isDigit, Bool.and_eq_true, decide_eq_true_eq, ge_iff_le, UInt32.le_iff_toNat_le] at digit
  simp only [isSpace, decide_eq_false_iff_not, not_or, not_and, Char.le_def, UInt32.le_iff_toNat_le]
  refine ⟨fun space => ?_, fun _ => ?_⟩
  · subst space
    exact absurd digit.1 (by decide)
  · have low : ('0' : Char).val.toNat = 48 := rfl
    have high : ('\r' : Char).val.toNat = 13 := rfl
    have zero : (48 : UInt32).toNat = 48 := rfl
    omega

variable (count : Nat)

theorem trim_digits : trim (Nat.toDigits 10 count ++ ['\r']) = Nat.toDigits 10 count := by
  have plain : ∀ letter ∈ Nat.toDigits 10 count, isSpace letter = false :=
    fun letter member => digit_not_space letter (Nat.isDigit_of_mem_toDigits (by decide) (by decide) member)
  have ends : (Nat.toDigits 10 count).rdropWhile isSpace = Nat.toDigits 10 count := by
    refine List.rdropWhile_eq_self_iff.mpr (fun nonempty => ?_)
    rw [plain _ (List.getLast_mem nonempty)]
    decide
  obtain ⟨first, rest, split⟩ := List.exists_cons_of_ne_nil (Nat.toDigits_ne_nil (n := count) (b := 10))
  have starts : (Nat.toDigits 10 count ++ ['\r']).dropWhile isSpace = Nat.toDigits 10 count ++ ['\r'] := by
    rw [split, List.cons_append, List.dropWhile_cons_of_neg]
    rw [plain first (by rw [split]; exact List.mem_cons_self)]
    decide
  rw [trim, starts, List.rdropWhile_concat_pos _ _ _ (by decide), ends]

theorem atoi_digits : atoi (Nat.toDigits 10 count) = count := by
  have digits : ∀ letter ∈ Nat.toDigits 10 count, letter.isDigit = true :=
    fun letter member => Nat.isDigit_of_mem_toDigits (by decide) (by decide) member
  have number : leadingNumber (Nat.toDigits 10 count) = count := by
    rw [leadingNumber, List.takeWhile_eq_self_iff.mpr digits, Nat.ofDigitChars_ten_toDigits]
  obtain ⟨first, rest, split⟩ := List.exists_cons_of_ne_nil (Nat.toDigits_ne_nil (n := count) (b := 10))
  have head : first.isDigit = true := digits first (by rw [split]; exact List.mem_cons_self)
  have minus : first ≠ '-' := fun same => by rw [same] at head; exact absurd head (by decide)
  have plus : first ≠ '+' := fun same => by rw [same] at head; exact absurd head (by decide)
  rw [split] at number ⊢
  have starts : (first :: rest).dropWhile isSpace = first :: rest := by
    rw [List.dropWhile_cons_of_neg]
    rw [digit_not_space first head]
    decide
  simp only [atoi, starts]
  split
  · next same => exact absurd (List.cons.inj same).1 minus
  · next same => exact absurd (List.cons.inj same).1 plus
  · rw [number]

theorem available_count (queue : List Text) (ready : CommandReady session)
    (answered : Answered exchange (cdtaReply queue)) :
    doCmdDataAvailable other session exchange.written (replyText (cdtaReply queue)) exchange.polls =
      ((queue.length : Int), { session with strResponse := [], inputStrArray := replyLines (cdtaReply queue) }, []) := by
  have digits : ∀ letter ∈ Nat.toDigits 10 queue.length, letter.isDigit = true :=
    fun letter member => Nat.isDigit_of_mem_toDigits (by decide) (by decide) member
  have single : ∀ line ∈ cdtaReply queue, '\n' ∉ line := by
    intro line member
    cases List.mem_cons.mp member with
    | inl first =>
        rw [first]
        intro inside
        cases List.mem_append.mp inside with
        | inl digit => exact absurd (digits _ digit) (by decide)
        | inr last => exact absurd last (by decide)
    | inr second => rw [List.mem_singleton.mp second]; decide
  have command := answered_command other session cdta exchange (cdtaReply queue) ready (by decide) single answered
  have clean : hasErr (replyText (cdtaReply queue)) = false := by
    rw [hasErr, decide_eq_false_iff_not]
    intro found
    have inside : 'E' ∈ replyText (cdtaReply queue) := found.subset (by decide)
    have text : replyText (cdtaReply queue) = Nat.toDigits 10 queue.length ++ replyText [['\r'], okSuccess] := by
      simp [replyText, cdtaReply]
    rw [text] at inside
    cases List.mem_append.mp inside with
    | inl digit => exact absurd (digits _ digit) (by decide)
    | inr rest => exact absurd rest (by decide)
  have succeeded : wholeSuccess (replyText (cdtaReply queue)) = true := by
    rw [whole_success_of_clean _ clean]
    exact has_ok_success _
  have lines : replyLines (cdtaReply queue) = [Nat.toDigits 10 queue.length, trim okSuccess] := by
    have visible : Nat.toDigits 10 queue.length ≠ [] := Nat.toDigits_ne_nil
    simp [replyLines, cdtaReply, trim_digits, visible]
    decide
  simp only [doCmdDataAvailable, ready.connected, ready.free, command, wholeReply]
  simp [succeeded, lines, atoi_digits]

theorem answered_sent (lines : List Text) (ready : CommandReady client.tcp)
    (answered : Answered exchange lines) : commandSent client exchange = true := by
  simp [commandSent, ready.connected, ready.text, ready.free, answered.1, Except.toBool]

theorem kept_append (output : Output) (kept : Fifo.NothingDropped (history past)) :
    Fifo.NothingDropped (history (past ++ [output])) := by
  intro item member
  rw [history_append] at member
  cases List.mem_append.mp member with
  | inl before => exact kept item before
  | inr now => cases output <;> simp [history] at now

variable (queue : List VscpEvent)

theorem read_event_served (exchange : Exchange)
    (served : Served getEventFromLine world past queue) (answered : Answered exchange (retrReply world.serverQueue)) :
    Run.Sound Fair past (readEvent other getEventFromLine world exchange).2 ∧
      Served getEventFromLine (readEvent other getEventFromLine world exchange).1
        (past ++ (readEvent other getEventFromLine world exchange).2) queue.tail ∧
      (readEvent other getEventFromLine world exchange).1.client.semReceiveQueue = world.client.semReceiveQueue ∧
      (readEvent other getEventFromLine world exchange).1.waiting = world.waiting := by
  obtain ⟨ready, silent, read, kept, holds, carries⟩ := served
  have sent := answered_sent world.client exchange _ ready answered
  have whole := Fifo.entered_of_nothing_dropped _ _ holds kept
  cases lines : world.serverQueue with
  | nil =>
      rw [lines] at carries answered
      cases carries
      have result := receive_no_events other getEventFromLine world.client.tcp exchange ready answered
      rw [List.append_nil] at whole
      simp only [readEvent, receive, sent, if_true, read, List.nil_append, lines, result]
      refine ⟨⟨whole.symm, trivial⟩, ⟨⟨ready.connected, ready.text, ready.free⟩, silent, rfl, kept_append _ _ kept, ?_, .nil⟩, trivial, trivial⟩
      rw [history_append]
      simpa [history] using holds
  | cons line rest =>
      rw [lines] at carries answered
      cases carries with
      | cons first later =>
          rename_i event others
          have result := receive_event other getEventFromLine world.client.tcp exchange line rest event ready first answered
          simp only [readEvent, receive, sent, if_true, read, List.nil_append, lines, result]
          refine ⟨⟨?_, trivial⟩, ⟨⟨ready.connected, ready.text, ready.free⟩, silent, rfl, kept_append _ _ kept, ?_, later⟩, trivial, trivial⟩
          · rw [Fair, whole]
            exact ⟨others, by rw [List.append_assoc]; rfl⟩
          · rw [history_append]
            exact Fifo.holds_leave _ _ _ holds

variable (received : Except VscpError VscpEvent) (stillConnected : Bool)

theorem worker_turn_frame :
    (workerTurn client received stillConnected).1.tcp = client.tcp ∧
      (workerTurn client received stillConnected).1.callbackEvActive = client.callbackEvActive ∧
      (workerTurn client received stillConnected).1.callbackExActive = client.callbackExActive := by
  unfold workerTurn
  split
  · exact ⟨rfl, rfl, rfl⟩
  · cases received <;> exact ⟨rfl, rfl, rfl⟩

theorem worker_turn_received (silent : client.callbackEvActive = false ∧ client.callbackExActive = false) :
    (workerTurn client received stillConnected).2 = ((passing client received).map Output.received).toList ∧
      (workerTurn client received stillConnected).1.semReceiveQueue =
        client.semReceiveQueue + (passing client received).toList.length := by
  unfold workerTurn passing
  cases running : client.run with
  | false => cases received <;> exact ⟨rfl, rfl⟩
  | true =>
      cases received with
      | error code => exact ⟨rfl, rfl⟩
      | ok event =>
          cases passes : doLevel2Filter event client.filterIn <;> simp [passes, silent, callbacks]

theorem arrive_mirrored (queued : Option Text) (stillConnected : Bool)
    (served : Served getEventFromLine world past queue)
    (permits : queue.length ≤ world.client.semReceiveQueue + world.waiting)
    (mirrored : Mirrored getEventFromLine world (.arrive received queued stillConnected)) :
    Run.Sound Fair past (step other getEventFromLine world (.arrive received queued stillConnected)).2 ∧
      Mirror getEventFromLine (step other getEventFromLine world (.arrive received queued stillConnected)).1
        (past ++ (step other getEventFromLine world (.arrive received queued stillConnected)).2) := by
  obtain ⟨ready, silent, read, kept, holds, carries⟩ := served
  obtain ⟨outputs, permit⟩ := worker_turn_received world.client received stillConnected silent
  obtain ⟨tcp, callbackEv, callbackEx⟩ := worker_turn_frame world.client received stillConnected
  simp only [step, outputs]
  simp only [Mirrored] at mirrored
  have quiet : (workerTurn world.client received stillConnected).1.callbackEvActive = false ∧
      (workerTurn world.client received stillConnected).1.callbackExActive = false :=
    ⟨callbackEv.trans silent.1, callbackEx.trans silent.2⟩
  cases arrived : passing world.client received with
  | none =>
      cases queued with
      | some line => rw [arrived] at mirrored; exact mirrored.elim
      | none =>
          rw [arrived] at permit
          refine ⟨trivial, queue, ⟨tcp ▸ ready, quiet, read, ?_, ?_, ?_⟩, ?_⟩
          · simpa using kept
          · simpa using holds
          · simpa using carries
          · simpa [permit] using permits
  | some event =>
      cases queued with
      | none => rw [arrived] at mirrored; exact mirrored.elim
      | some line =>
          rw [arrived] at mirrored permit
          refine ⟨⟨trivial, trivial⟩, queue ++ [event], ⟨tcp ▸ ready, quiet, read, kept_append _ _ kept, ?_, ?_⟩, ?_⟩
          · rw [history_append]
            exact Fifo.holds_enter _ _ _ holds
          · exact List.rel_append carries (.cons mirrored .nil)
          · rw [List.length_append, permit]
            simp only [Option.toList_some, List.length_singleton]
            omega

theorem getcount_mirrored (exchange : Exchange)
    (served : Served getEventFromLine world past queue)
    (permits : queue.length ≤ world.client.semReceiveQueue + world.waiting)
    (answered : Answered exchange (cdtaReply world.serverQueue)) (few : world.serverQueue.length < 2 ^ 16) :
    Run.Sound Fair past (step other getEventFromLine world (.getcount exchange)).2 ∧
      Mirror getEventFromLine (step other getEventFromLine world (.getcount exchange)).1
        (past ++ (step other getEventFromLine world (.getcount exchange)).2) := by
  obtain ⟨ready, silent, read, kept, holds, carries⟩ := served
  have sent := answered_sent world.client exchange _ ready answered
  have result := available_count other world.client.tcp exchange world.serverQueue ready answered
  have whole := Fifo.entered_of_nothing_dropped _ _ holds kept
  have same := carries.length_eq
  simp only [step, getcount, sent, if_true, read, List.nil_append, result]
  refine ⟨⟨?_, trivial⟩, queue, ⟨⟨ready.connected, ready.text, ready.free⟩, silent, rfl, kept_append _ _ kept, ?_, carries⟩, permits⟩
  · rw [Fair, whole, List.length_append, UInt16.toNat_ofNat']
    omega
  · rw [history_append]
    simpa [history] using holds

theorem step_mirrored (next : Step) (mirror : Mirror getEventFromLine world past)
    (mirrored : Mirrored getEventFromLine world next) :
    Run.Sound Fair past (step other getEventFromLine world next).2 ∧
      Mirror getEventFromLine (step other getEventFromLine world next).1
        (past ++ (step other getEventFromLine world next).2) := by
  obtain ⟨queue, served, permits⟩ := mirror
  have shorter : queue.tail.length = queue.length - 1 := List.length_tail
  cases next with
  | arrive received queued stillConnected =>
      exact arrive_mirrored other getEventFromLine world past queue received queued stillConnected served permits mirrored
  | receive exchange =>
      obtain ⟨sound, after, sem, waiting⟩ := read_event_served other getEventFromLine world past queue exchange served mirrored
      refine ⟨sound, queue.tail, after, ?_⟩
      simp only [step]
      omega
  | waitReceiveQueue =>
      obtain ⟨ready, silent, read, kept, holds, carries⟩ := served
      have whole := Fifo.entered_of_nothing_dropped _ _ holds kept
      by_cases empty : world.client.semReceiveQueue = 0
      · simp only [step, waitReceiveQueue, if_pos empty]
        refine ⟨⟨?_, trivial⟩, queue, ⟨ready, silent, read, kept_append _ _ kept, ?_, carries⟩, permits⟩
        · rw [Fair, whole, List.length_append]
          omega
        · rw [history_append]
          simpa [history] using holds
      · simp only [step, waitReceiveQueue, if_neg empty, List.append_nil]
        refine ⟨trivial, queue, ⟨ready, silent, read, kept, holds, carries⟩, ?_⟩
        simp only
        omega
  | receiveAfterWait exchange =>
      by_cases nobody : world.waiting = 0
      · simp only [step, if_pos nobody, List.append_nil]
        exact ⟨trivial, queue, served, permits⟩
      · have same : Served getEventFromLine { world with waiting := world.waiting - 1 } past queue :=
          ⟨served.ready, served.silent, served.read, served.kept, served.holds, served.carries⟩
        obtain ⟨sound, after, sem, waiting⟩ :=
          read_event_served other getEventFromLine { world with waiting := world.waiting - 1 } past queue exchange same mirrored
        simp only [step, if_neg nobody]
        refine ⟨sound, queue.tail, after, ?_⟩
        rw [sem, waiting]
        simp only
        omega
  | getcount exchange =>
      exact getcount_mirrored other getEventFromLine world past queue exchange served permits mirrored.1 mirrored.2

def connected (filterIn : VscpEventFilter) (ev : VscpEvent) (tcp : TextSession) : World :=
  ⟨⟨true, filterIn, false, false, ev, [], 0, tcp⟩, [], [], 0⟩

theorem mirrored_run_delivers (filterIn : VscpEventFilter) (ev : VscpEvent) (tcp : TextSession) (steps : List Step)
    (ready : CommandReady tcp)
    (mirrored : Run.Meets (step other getEventFromLine) (Mirrored getEventFromLine) (connected filterIn ev tcp) steps) :
    Run.Sound Fair [] (Run.run (step other getEventFromLine) (connected filterIn ev tcp) steps).2 := by
  have start : Mirror getEventFromLine (connected filterIn ev tcp) [] := by
    refine ⟨[], ⟨ready, ⟨rfl, rfl⟩, rfl, ?_, Fifo.holds_nil, .nil⟩, Nat.zero_le _⟩
    intro item member
    exact absurd member List.not_mem_nil
  exact (Run.run_keeps _ _ _ _ (step_mirrored other getEventFromLine) _ _ _ start mirrored).1

def eventText : Text := ['0', ',', '2', '0', ',', '3', ',', '0', ',', ',', '5', ',', '-', ',', '7', '\r']

def textEvent : VscpEvent := ⟨0x0100, 0, 0xffff, 0xff, 5, 20, 3, Vector.replicate 16 0, 1, some [7], 0⟩

def eventOfText (line : Text) : Option VscpEvent := if line = trim eventText then some textEvent else none

def atOnce : Exchange := ⟨.ok (), [.arrived 80]⟩

def unusedEvent : VscpEvent := ⟨0, 0, 0, 0, 0, 0, 0, Vector.replicate 16 0, 0, none, 0⟩

theorem mirrored_run_delivers_example :
    Run.Sound Fair [] (Run.run (step noOthers eventOfText) (connected clearVSCPFilter unusedEvent freshSession)
      [.arrive (.ok textEvent) (some eventText) true, .getcount atOnce, .waitReceiveQueue, .receiveAfterWait atOnce]).2 := by
  have answered (lines : List Text) (arrives : (segments (replyText lines) [80]).flatten = replyText lines)
      (decides : DecidesAtTheEnd [] (segments (replyText lines) [80])) : Answered atOnce lines :=
    ⟨rfl, [80], rfl, arrives, decides⟩
  refine mirrored_run_delivers noOthers eventOfText clearVSCPFilter unusedEvent freshSession _ ⟨rfl, rfl, rfl⟩ ?_
  refine ⟨?_, ⟨answered _ (by decide) (by decide), by decide⟩, trivial, answered _ (by decide) (by decide), trivial⟩
  have line : EventLine eventText := ⟨by decide, by decide, by decide⟩
  exact ⟨line, rfl⟩

-- The worker receives an event that the server does not hold for the command connection
-- as well: nobody gets it, and what the receive list points to has lost its data.
theorem received_event_not_delivered :
    let result := Run.run (step noOthers eventOfText) (connected clearVSCPFilter unusedEvent freshSession)
      [.arrive (.ok textEvent) none true, .getcount atOnce, .receive atOnce]
    result.2 = [.received textEvent, .counted 0, .refused .error] ∧
      result.1.client.receiveList.map result.1.client.at = [{ textEvent with pdata := none }] := by
  decide

end Vscp.ClientTcp
