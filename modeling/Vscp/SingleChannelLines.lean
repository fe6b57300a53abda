import Vscp.SingleChannel

set_option autoImplicit false

namespace Vscp.SingleChannel

open RemoteTcp (Text TextSession isSpace trim split addInputStringArrayFromReply replyText reply_text_split)

def receivedPart : Output → Text
  | .received segment => segment
  | _ => []

def handledLine : Output → Option Text
  | .line line => some line
  | _ => none

def queuedLine : Output → Option Text
  | .queued event => some event
  | _ => none

def queueEntry : Output → Option (Fifo.Entry Text)
  | .queued event => some (.enter event)
  | .handed event => some (.leave event)
  | .cleared event => some (.drop event)
  | _ => none

def isStop : Output → Bool
  | .stopped _ => true
  | _ => false

def receivedText (past : List Output) : Text := past.flatMap receivedPart
def handledLines (past : List Output) : List Text := past.filterMap handledLine
def queuedLines (past : List Output) : List Text := past.filterMap queuedLine
def history (past : List Output) : List (Fifo.Entry Text) := past.filterMap queueEntry
def stopped (past : List Output) : Bool := past.any isStop

variable (clock : Clock)

def eventLine (line : Text) : Option Text :=
  if isBlank (trim line) ∨ isResponse (trim line) then none
  else if parsesAsEvent clock (trim line) then some (trim line)
  else none

def responseOf (line : Text) : Option Text :=
  if ¬ isBlank (trim line) ∧ isResponse (trim line) then some (trim line) else none

def firstResponse (past : List Output) (id : Nat) : Option Text :=
  ((handledLines (past.dropWhile (· ≠ .issued id))).filterMap responseOf).head?

def untilStop (past : List Output) : List Output := past.takeWhile fun output => ¬ isStop output

-- A command comes back without a response only if it failed to be written, or none was handled for it in time.
def Fair (start : Text) (past : List Output) : Output → Prop
  | .returned id result response =>
      (response = [] ∧ result ≠ none ∧ (firstResponse (untilStop past) id = none ∨ .stopped .writeFailed ∈ past)) ∨
        ∃ line, firstResponse past id = some line ∧ response = line ++ crlf ∧ result = verdict line
  | .stopped (.invalidLine line) =>
      isBlank (trim line) = false ∧ isResponse (trim line) = false ∧ parsesAsEvent clock (trim line) = false
  | .stopped .oversized =>
      stopped past = true ∨ ∃ part, part <:+ start ++ receivedText past ∧ '\n' ∉ part ∧ maxLine < part.length
  | _ => True

def heldText : Phase → Text
  | .holding line => line ++ ['\n']
  | _ => []

def leaves : Caller → Bool
  | .closing _ => true
  | .timedOut _ => true
  | _ => false

structure Running (world : World) : Prop where
  going : world.readerStop = false
  sound : world.readerError = none
  staying : world.caller.any leaves = false

structure Lines (start : Text) (first : List Text) (world : World) (past : List Output) : Prop where
  stream : start ++ receivedText past = replyText (handledLines past) ++ (heldText world.phase ++ world.inputBuffer)
  single : ∀ line ∈ handledLines past, '\n' ∉ line
  held : ∀ line, world.phase = .holding line → '\n' ∉ line
  queued : queuedLines past = (handledLines past).filterMap (eventLine clock)
  holds : Fifo.Holds (first.map .enter ++ history past) world.eventQueue
  running : stopped past = false → Running world
  rested : world.phase = .reading → '\n' ∉ world.inputBuffer
  swept : world.phase = .head ∨ world.phase = .sizing → world.readerStop = false → '\n' ∉ world.inputBuffer

@[simp] theorem received_append (first second : List Output) :
    receivedText (first ++ second) = receivedText first ++ receivedText second := List.flatMap_append

@[simp] theorem handled_append (first second : List Output) :
    handledLines (first ++ second) = handledLines first ++ handledLines second := List.filterMap_append

@[simp] theorem queued_append (first second : List Output) :
    queuedLines (first ++ second) = queuedLines first ++ queuedLines second := List.filterMap_append

@[simp] theorem history_append (first second : List Output) : history (first ++ second) = history first ++ history second :=
  List.filterMap_append

@[simp] theorem stopped_append (first second : List Output) : stopped (first ++ second) = (stopped first || stopped second) :=
  List.any_append

theorem reply_text_append (first second : List Text) : replyText (first ++ second) = replyText first ++ replyText second :=
  List.flatMap_append

def Quiet (outputs : List Output) : Prop :=
  receivedText outputs = [] ∧ handledLines outputs = [] ∧ queuedLines outputs = [] ∧ history outputs = []

variable (start : Text) (first : List Text) (world : World) (code : VscpError) (past : List Output) (phase : Phase)

variable {clock start first}

theorem lines_frame (world next : World) (past outputs : List Output)
    (lines : Lines clock start first world past) (quiet : Quiet outputs) (phase : next.phase = world.phase)
    (buffer : next.inputBuffer = world.inputBuffer) (queue : next.eventQueue = world.eventQueue)
    (stop : next.readerStop = false → world.readerStop = false)
    (running : stopped (past ++ outputs) = false → Running next) : Lines clock start first next (past ++ outputs) := by
  obtain ⟨noText, noLines, noEvents, noHistory⟩ := quiet
  constructor
  · rw [received_append, handled_append, noText, noLines, List.append_nil, List.append_nil, phase, buffer]
    exact lines.stream
  · rw [handled_append, noLines, List.append_nil]
    exact lines.single
  · rw [phase]
    exact lines.held
  · rw [queued_append, handled_append, noEvents, noLines, List.append_nil, List.append_nil]
    exact lines.queued
  · rw [history_append, noHistory, List.append_nil, queue]
    exact lines.holds
  · exact running
  · rw [phase, buffer]
    exact lines.rested
  · rw [phase, buffer]
    exact fun place going => lines.swept place (stop going)

@[simp] theorem complete_pending_phase :
    (completePending world code).phase = world.phase := by
  unfold completePending
  split <;> rfl

@[simp] theorem complete_pending_buffer :
    (completePending world code).inputBuffer = world.inputBuffer := by
  unfold completePending
  split <;> rfl

@[simp] theorem complete_pending_queue :
    (completePending world code).eventQueue = world.eventQueue := by
  unfold completePending
  split <;> rfl

@[simp] theorem complete_pending_stop :
    (completePending world code).readerStop = world.readerStop := by
  unfold completePending
  split <;> rfl

@[simp] theorem complete_pending_error :
    (completePending world code).readerError = world.readerError := by
  unfold completePending
  split <;> rfl

@[simp] theorem complete_pending_caller :
    (completePending world code).caller = world.caller := by
  unfold completePending
  split <;> rfl

@[simp] theorem complete_pending_issued :
    (completePending world code).issued = world.issued := by
  unfold completePending
  split <;> rfl

theorem take_response_keeps (world : World) (responseLine : Text) :
    let next := takeResponse world responseLine
    next.phase = world.phase ∧ next.inputBuffer = world.inputBuffer ∧ next.eventQueue = world.eventQueue ∧
      next.readerStop = world.readerStop ∧ next.readerError = world.readerError ∧ next.caller = world.caller ∧
      next.issued = world.issued := by
  unfold takeResponse
  split <;> exact ⟨rfl, rfl, rfl, rfl, rfl, rfl, rfl⟩

theorem lines_handled (world next : World) (past more : List Output) (line : Text)
    (lines : Lines clock start first world past) (holding : world.phase = .holding line) (phase : next.phase = .handled)
    (buffer : next.inputBuffer = world.inputBuffer)
    (rest : receivedText more = [] ∧ handledLines more = [] ∧ queuedLines more = (eventLine clock line).toList)
    (holds : Fifo.Holds (first.map .enter ++ history (past ++ .line line :: more)) next.eventQueue)
    (running : stopped (past ++ .line line :: more) = false → Running next) :
    Lines clock start first next (past ++ .line line :: more) := by
  obtain ⟨noText, noLines, events⟩ := rest
  have noNewText : receivedText (.line line :: more) = [] := noText
  have oneLine : handledLines (.line line :: more) = [line] := congrArg (line :: ·) noLines
  have newEvents : queuedLines (.line line :: more) = (eventLine clock line).toList := events
  constructor
  · have stream := lines.stream
    rw [holding, heldText, List.append_assoc] at stream
    rw [received_append, handled_append, noNewText, oneLine, List.append_nil, stream, reply_text_append, phase, buffer]
    simp [replyText, heldText]
  · intro other member
    rw [handled_append, oneLine] at member
    rcases List.mem_append.mp member with old | new
    · exact lines.single other old
    · rw [List.mem_singleton.mp new]
      exact lines.held line holding
  · intro other held
    rw [phase] at held
    cases held
  · rw [queued_append, handled_append, newEvents, oneLine, List.filterMap_append, lines.queued]
    cases found : eventLine clock line with
    | none => simp [found]
    | some event => simp [found]
  · exact holds
  · exact running
  · intro reading
    rw [phase] at reading
    cases reading
  · intro place
    rw [phase] at place
    rcases place with head | sizing
    · cases head
    · cases sizing

theorem process_lines (line : Text)
    (lines : Lines clock start first world past) (holding : world.phase = .holding line) :
    let result := processSingleChannelLine clock { world with phase := .handled } line
    Lines clock start first result.1 (past ++ result.2) := by
  have keepsRunning : stopped (past ++ [.line line]) = false → Running world := by
    intro calm
    rw [stopped_append, Bool.or_eq_false_iff] at calm
    exact lines.running calm.1
  have sameHistory : history (past ++ [.line line]) = history past := by
    rw [history_append]
    exact List.append_nil _
  simp only [processSingleChannelLine]
  by_cases blank : isBlank (trim line) = true
  · rw [if_pos blank]
    have none : eventLine clock line = none := by simp [eventLine, blank]
    apply lines_handled world { world with phase := .handled } past [] line lines holding rfl rfl
    · exact ⟨rfl, rfl, by rw [none]; rfl⟩
    · rw [sameHistory]
      exact lines.holds
    · intro calm
      obtain ⟨going, sound, staying⟩ := keepsRunning calm
      exact ⟨going, sound, staying⟩
  · rw [if_neg blank]
    by_cases response : isResponse (trim line) = true
    · rw [if_pos response]
      have none : eventLine clock line = none := by simp [eventLine, response]
      obtain ⟨phase, buffer, queue, stop, error, caller, _⟩ := take_response_keeps { world with phase := .handled } (trim line)
      apply lines_handled world _ past [] line lines holding phase buffer
      · exact ⟨rfl, rfl, by rw [none]; rfl⟩
      · rw [sameHistory, queue]
        exact lines.holds
      · intro calm
        obtain ⟨going, sound, staying⟩ := keepsRunning calm
        exact ⟨by rw [stop]; exact going, by rw [error]; exact sound, by rw [caller]; exact staying⟩
    · rw [if_neg response]
      by_cases parses : parsesAsEvent clock (trim line) = true
      · rw [if_pos parses]
        have found : eventLine clock line = some (trim line) := by simp [eventLine, blank, response, parses]
        apply lines_handled world
          { world with phase := .handled, eventQueue := world.eventQueue ++ [trim line] } past [.queued (trim line)] line
          lines holding rfl rfl
        · exact ⟨rfl, rfl, by rw [found]; rfl⟩
        · have entered : history (past ++ [.line line, .queued (trim line)]) = history past ++ [.enter (trim line)] := by
            rw [history_append]
            rfl
          rw [entered, ← List.append_assoc]
          exact Fifo.holds_enter _ _ _ lines.holds
        · intro calm
          have before : stopped past = false := by
            rw [stopped_append, Bool.or_eq_false_iff] at calm
            exact calm.1
          obtain ⟨going, sound, staying⟩ := lines.running before
          exact ⟨going, sound, staying⟩
      · rw [if_neg parses]
        have none : eventLine clock line = none := by simp [eventLine, parses]
        apply lines_handled world _ past [.stopped (.invalidLine line)] line lines holding
        · exact complete_pending_phase _ _
        · exact complete_pending_buffer _ _
        · exact ⟨rfl, rfl, by rw [none]; rfl⟩
        · have same : history (past ++ [.line line, .stopped (.invalidLine line)]) = history past := by
            rw [history_append]
            exact List.append_nil _
          rw [same, complete_pending_queue]
          exact lines.holds
        · intro calm
          rw [stopped_append, Bool.or_eq_false_iff] at calm
          exact absurd calm.2 (by simp [stopped, isStop])

theorem take_line (buffer : Text) (complete : '\n' ∈ buffer) :
    buffer.takeWhile (· ≠ '\n') ++ ['\n'] ++ (buffer.dropWhile (· ≠ '\n')).drop 1 = buffer := by
  have tail : buffer.dropWhile (· ≠ '\n') = '\n' :: (buffer.dropWhile (· ≠ '\n')).drop 1 := by
    cases found : buffer.dropWhile (· ≠ '\n') with
    | nil =>
        have none := List.dropWhile_eq_nil_iff.mp found '\n' complete
        exact absurd none (by decide)
    | cons letter rest =>
        have here : (buffer.dropWhile (· ≠ '\n')).head? = some letter := by rw [found, List.head?_cons]
        have ends := List.head?_dropWhile_not (· ≠ '\n') buffer
        rw [found] at ends
        have same : letter = '\n' := by simpa using ends
        rw [same, List.drop_one, List.tail_cons]
  rw [List.append_assoc, List.singleton_append, ← tail, List.takeWhile_append_dropWhile]

theorem holding_text (free : heldText phase = []) (line : Text) : phase ≠ .holding line := by
  rintro rfl
  exact absurd free (List.append_ne_nil_of_right_ne_nil line (List.cons_ne_nil _ _))

theorem lines_move (lines : Lines clock start first world past) (before : heldText world.phase = []) (held : heldText phase = [])
    (rested : phase = .reading → '\n' ∉ world.inputBuffer)
    (swept : phase = .head ∨ phase = .sizing → world.readerStop = false → '\n' ∉ world.inputBuffer) :
    Lines clock start first { world with phase := phase } (past ++ []) := by
  rw [List.append_nil]
  constructor
  · have stream := lines.stream
    rw [before, ← held] at stream
    exact stream
  · exact lines.single
  · exact fun other holding => absurd holding (holding_text phase held other)
  · exact lines.queued
  · exact lines.holds
  · intro calm
    obtain ⟨going, sound, staying⟩ := lines.running calm
    exact ⟨going, sound, staying⟩
  · exact rested
  · exact swept

theorem lines_pass (lines : Lines clock start first world past) (before : heldText world.phase = []) (held : heldText phase = [])
    (free : phase ≠ .reading ∧ phase ≠ .head ∧ phase ≠ .sizing) :
    Lines clock start first { world with phase := phase } (past ++ []) :=
  lines_move world past phase lines before held (fun same => absurd same free.1)
    (fun same => same.elim (fun head => absurd head free.2.1) (fun sizing => absurd sizing free.2.2))

theorem lines_sweep (lines : Lines clock start first world past) (before : heldText world.phase = []) (held : heldText phase = [])
    (free : phase ≠ .reading) (swept : world.readerStop = false → '\n' ∉ world.inputBuffer) :
    Lines clock start first { world with phase := phase } (past ++ []) :=
  lines_move world past phase lines before held (fun same => absurd same free) (fun _ => swept)

theorem lines_stop (world next : World) (past : List Output) (cause : Cause)
    (lines : Lines clock start first world past) (before : heldText world.phase = [])
    (held : heldText next.phase = []) (buffer : next.inputBuffer = world.inputBuffer)
    (queue : next.eventQueue = world.eventQueue) (rested : next.phase ≠ .reading)
    (swept : next.phase = .head ∨ next.phase = .sizing → next.readerStop ≠ false) :
    Lines clock start first next (past ++ [.stopped cause]) := by
  obtain ⟨noText, noLines, noEvents, noHistory⟩ : Quiet [.stopped cause] := ⟨rfl, rfl, rfl, rfl⟩
  constructor
  · rw [received_append, handled_append, noText, noLines, List.append_nil, List.append_nil, held, buffer, ← before]
    exact lines.stream
  · rw [handled_append, noLines, List.append_nil]
    exact lines.single
  · exact fun other holding => absurd holding (holding_text _ held other)
  · rw [queued_append, handled_append, noEvents, noLines, List.append_nil, List.append_nil]
    exact lines.queued
  · rw [history_append, noHistory, List.append_nil, queue]
    exact lines.holds
  · intro calm
    rw [stopped_append, Bool.or_eq_false_iff] at calm
    exact absurd calm.2 (by simp [stopped, isStop])
  · exact fun reading => absurd reading rested
  · exact fun place going => absurd going (swept place)

theorem taken_line (lines : Lines clock start first world past) (scanning : world.phase = .scanning) (complete : '\n' ∈ world.inputBuffer) :
    Lines clock start first
      { world with
        inputBuffer := (world.inputBuffer.dropWhile (· ≠ '\n')).drop 1
        phase := .holding (world.inputBuffer.takeWhile (· ≠ '\n')) } (past ++ []) := by
  rw [List.append_nil]
  constructor
  · have stream := lines.stream
    have nothing : heldText .scanning = [] := rfl
    rw [scanning, nothing, List.nil_append] at stream
    rw [stream]
    exact congrArg (replyText (handledLines past) ++ ·) (take_line world.inputBuffer complete).symm
  · exact lines.single
  · intro line same
    cases same
    intro inside
    exact absurd (List.mem_takeWhile_imp inside) (by decide)
  · exact lines.queued
  · exact lines.holds
  · intro calm
    obtain ⟨going, sound, staying⟩ := lines.running calm
    exact ⟨going, sound, staying⟩
  · intro reading
    cases reading
  · intro place
    rcases place with head | sizing
    · cases head
    · cases sizing

theorem received_lines (segment : Text)
    (lines : Lines clock start first world past) (reading : world.phase = .reading) :
    Lines clock start first
      { world with inputBuffer := world.inputBuffer ++ segment.take 8192, phase := .scanning }
      (past ++ [.received (segment.take 8192)]) := by
  have text : receivedText [.received (segment.take 8192)] = segment.take 8192 := List.append_nil _
  have noLines : handledLines [.received (segment.take 8192)] = [] := rfl
  have noEvents : queuedLines [.received (segment.take 8192)] = [] := rfl
  have noHistory : history [.received (segment.take 8192)] = [] := rfl
  constructor
  · have stream := lines.stream
    have nothing : heldText .reading = [] := rfl
    rw [reading, nothing, List.nil_append] at stream
    rw [received_append, handled_append, text, noLines, List.append_nil, ← List.append_assoc, stream, List.append_assoc]
    rfl
  · rw [handled_append, noLines, List.append_nil]
    exact lines.single
  · intro line same
    cases same
  · rw [queued_append, handled_append, noEvents, noLines, List.append_nil, List.append_nil]
    exact lines.queued
  · rw [history_append, noHistory, List.append_nil]
    exact lines.holds
  · intro calm
    rw [stopped_append, Bool.or_eq_false_iff] at calm
    obtain ⟨going, sound, staying⟩ := lines.running calm.1
    exact ⟨going, sound, staying⟩
  · intro same
    cases same
  · intro place
    rcases place with head | sizing
    · cases head
    · cases sizing

theorem reader_lines (received : Received)
    (lines : Lines clock start first world past) :
    let result := readerTurn clock world received
    Lines clock start first result.1 (past ++ result.2) := by
  simp only [readerTurn]
  cases place : world.phase with
  | head =>
      have held : heldText world.phase = [] := by rw [place]; rfl
      show Lines clock start first { world with phase := if world.readerStop then .ending else .reading } (past ++ [])
      by_cases stop : world.readerStop = true
      · rw [if_pos stop]
        exact lines_pass world past .ending lines held rfl (by simp)
      · rw [if_neg stop]
        exact lines_move world past .reading lines held rfl
          (fun _ => lines.swept (.inl place) (Bool.eq_false_iff.mpr stop))
          (fun same => by rcases same with same | same <;> cases same)
  | reading =>
      have held : heldText world.phase = [] := by rw [place]; rfl
      have back : Lines clock start first { world with phase := .head } (past ++ []) :=
        lines_sweep world past .head lines held rfl (by simp) (fun _ => lines.rested place)
      cases received with
      | timeout => exact back
      | failed code =>
          exact lines_stop world _ past .readFailed lines held (by rw [complete_pending_phase]; rfl)
            (complete_pending_buffer _ _) (complete_pending_queue _ _)
            (fun same => by rw [complete_pending_phase] at same; cases same)
            (fun same => by rw [complete_pending_phase] at same; rcases same with same | same <;> cases same)
      | arrived segment =>
          cases segment with
          | nil => exact back
          | cons letter rest => exact received_lines world past (letter :: rest) lines place
  | scanning =>
      by_cases complete : '\n' ∈ world.inputBuffer
      · simp only [if_pos complete]
        exact taken_line world past lines place complete
      · simp only [if_neg complete]
        have held : heldText world.phase = [] := by rw [place]; rfl
        exact lines_sweep world past .sizing lines held rfl (by simp) (fun _ => complete)
  | holding line => exact process_lines world past line lines place
  | handled =>
      have held : heldText world.phase = [] := by rw [place]; rfl
      show Lines clock start first { world with phase := if world.readerStop then .sizing else .scanning } (past ++ [])
      by_cases stop : world.readerStop = true
      · rw [if_pos stop]
        exact lines_sweep world past .sizing lines held rfl (by simp)
          (fun going => absurd (stop.symm.trans going) (by decide))
      · rw [if_neg stop]
        exact lines_pass world past .scanning lines held rfl (by simp)
  | sizing =>
      have held : heldText world.phase = [] := by rw [place]; rfl
      by_cases long : world.inputBuffer.length > maxLine
      · simp only [if_pos long]
        exact lines_stop world _ past .oversized lines held (by rw [complete_pending_phase]; rfl)
          (complete_pending_buffer _ _) (complete_pending_queue _ _)
          (fun same => by rw [complete_pending_phase] at same; cases same)
          (fun _ going => by rw [complete_pending_stop] at going; cases going)
      · simp only [if_neg long]
        exact lines_sweep world past .head lines held rfl (by simp) (lines.swept (.inr place))
  | ending =>
      have held : heldText world.phase = [] := by rw [place]; rfl
      have moved := lines_pass world past .finished lines held rfl (by simp)
      rw [List.append_nil] at moved
      apply lines_frame { world with phase := .finished } _ past [] moved ⟨rfl, rfl, rfl, rfl⟩
      · exact complete_pending_phase _ _
      · exact complete_pending_buffer _ _
      · exact complete_pending_queue _ _
      · exact fun going => by rw [complete_pending_stop] at going; exact going
      · intro calm
        rw [List.append_nil] at calm
        obtain ⟨going, sound, staying⟩ := moved.running calm
        exact ⟨by rw [complete_pending_stop]; exact going, by rw [complete_pending_error]; exact sound,
          by rw [complete_pending_caller]; exact staying⟩
  | finished =>
      rw [List.append_nil]
      exact lines

@[simp] theorem closed_phase : (transportClosed world).phase = world.phase :=
  complete_pending_phase _ _

@[simp] theorem closed_buffer : (transportClosed world).inputBuffer = world.inputBuffer :=
  complete_pending_buffer _ _

@[simp] theorem closed_queue : (transportClosed world).eventQueue = world.eventQueue :=
  complete_pending_queue _ _

@[simp] theorem closed_stop : (transportClosed world).readerStop = world.readerStop :=
  complete_pending_stop _ _

@[simp] theorem closed_caller : (transportClosed world).caller = world.caller :=
  complete_pending_caller _ _

@[simp] theorem closed_issued : (transportClosed world).issued = world.issued :=
  complete_pending_issued _ _

-- What a caller's turn can do.
inductive CallerTook (world : World) : World × List Output → Prop
  | waits : CallerTook world (world, [])
  | refused (code : VscpError) : CallerTook world ({ world with caller := none }, [.refused code])
  | admitted : CallerTook world ({ world with caller := some .admitted }, [])
  | issued : CallerTook world
      ({ world with
          commandResponse := []
          commandComplete := false
          commandPending := true
          caller := some (.writing world.issued)
          issued := world.issued + 1 }, [.issued world.issued])
  | written (id : Nat) (here : world.caller = some (.writing id)) :
      CallerTook world ({ world with caller := some (.waiting id) }, [])
  | unwritten (id : Nat) (here : world.caller = some (.writing id)) :
      CallerTook world ({ world with readerStop := true, caller := some (.closing id) }, [.stopped .writeFailed])
  | closed (id : Nat) (here : world.caller = some (.closing id)) : CallerTook world
      ({ transportClosed world with commandPending := false, commandComplete := false, caller := none },
        [.returned id (some .error) []])
  | answered (id : Nat) (here : world.caller = some (.waiting id)) (complete : world.commandComplete = true) :
      CallerTook world
        ({ world with
            commandComplete := false
            commandResponse := []
            session := storeResponse world.session world.commandResponse
            caller := none }, [.returned id world.commandResult world.commandResponse])
  | stopped (id : Nat) (here : world.caller = some (.waiting id)) (pending : ¬ world.commandComplete = true)
      (code : VscpError) : CallerTook world ({ world with caller := none }, [.returned id (some code) []])
  | expired (id : Nat) (here : world.caller = some (.waiting id)) (pending : ¬ world.commandComplete = true) :
      CallerTook world
        ({ world with
            commandPending := false
            commandComplete := false
            readerError := some .timeout
            readerStop := true
            caller := some (.timedOut id) }, [.stopped .timedOut])
  | timedOut (id : Nat) (here : world.caller = some (.timedOut id)) : CallerTook world
      ({ transportClosed world with
          session := { (transportClosed world).session with modeReceiveLoop := false }, caller := none },
        [.returned id (some .timeout) []])

theorem caller_took (written expired : Bool) : CallerTook world (callerTurn world written expired) := by
  unfold callerTurn
  split
  · exact .waits
  · split
    · exact .refused _
    · exact .admitted
  · split
    · exact .refused _
    · exact .issued
  · next id here =>
      split
      · exact .written id here
      · exact .unwritten id here
  · next id here =>
      split
      · exact .closed id here
      · exact .waits
  · next id here =>
      split
      · next complete => exact .answered id here complete
      · next pending =>
          split
          · exact .stopped id here pending _
          · split
            · exact .expired id here pending
            · exact .waits
  · next id here =>
      split
      · exact .timedOut id here
      · exact .waits

theorem call_took (cmd command : Text) :
    (∃ code, doSingleChannelCommand world cmd command = (world, [.refused code])) ∨
      doSingleChannelCommand world cmd command = (world, []) ∨
      doSingleChannelCommand world cmd command = ({ world with caller := some .entered }, []) := by
  unfold doSingleChannelCommand
  split
  · exact .inl ⟨_, rfl⟩
  · split
    · exact .inl ⟨_, rfl⟩
    · split
      · exact .inr (.inl rfl)
      · exact .inr (.inr rfl)

theorem caller_moves (world next : World) (past outputs : List Output)
    (lines : Lines clock start first world past) (quiet : Quiet outputs) (phase : next.phase = world.phase)
    (buffer : next.inputBuffer = world.inputBuffer) (queue : next.eventQueue = world.eventQueue)
    (stop : next.readerStop = world.readerStop) (error : next.readerError = world.readerError)
    (caller : next.caller.any leaves = false) :
    Lines clock start first next (past ++ outputs) := by
  apply lines_frame world next past outputs lines quiet phase buffer queue
  · intro going
    rw [← stop]
    exact going
  · intro calm
    rw [stopped_append, Bool.or_eq_false_iff] at calm
    obtain ⟨going, sound, _⟩ := lines.running calm.1
    exact ⟨by rw [stop]; exact going, by rw [error]; exact sound, caller⟩

theorem caller_stops (world next : World) (past outputs : List Output)
    (lines : Lines clock start first world past) (quiet : Quiet outputs) (phase : next.phase = world.phase)
    (buffer : next.inputBuffer = world.inputBuffer) (queue : next.eventQueue = world.eventQueue)
    (stop : next.readerStop = false → world.readerStop = false) (noted : stopped (past ++ outputs) = true) :
    Lines clock start first next (past ++ outputs) := by
  apply lines_frame world next past outputs lines quiet phase buffer queue stop
  intro calm
  rw [noted] at calm
  cases calm

theorem stopped_when_leaving (caller : Caller)
    (lines : Lines clock start first world past) (here : world.caller = some caller) (leaving : leaves caller = true) :
    stopped past = true := by
  by_cases noted : stopped past = true
  · exact noted
  · have staying := (lines.running (Bool.eq_false_iff.mpr noted)).staying
    rw [here, Option.any_some, leaving] at staying
    cases staying

theorem caller_lines (written expired : Bool)
    (lines : Lines clock start first world past) :
    let result := callerTurn world written expired
    Lines clock start first result.1 (past ++ result.2) := by
  have took := caller_took world written expired
  intro result
  change CallerTook world result at took
  generalize result = result at took
  have closes (next : World) (outputs : List Output) (caller : Caller) (here : world.caller = some caller)
      (leaving : leaves caller = true) (quiet : Quiet outputs) (phase : next.phase = (transportClosed world).phase)
      (buffer : next.inputBuffer = (transportClosed world).inputBuffer)
      (queue : next.eventQueue = (transportClosed world).eventQueue)
      (stop : next.readerStop = (transportClosed world).readerStop) :
      Lines clock start first next (past ++ outputs) := by
    have noted := stopped_when_leaving world past caller lines here leaving
    refine caller_stops world next past outputs lines quiet (phase.trans (closed_phase world))
      (buffer.trans (closed_buffer world)) (queue.trans (closed_queue world)) (fun going => ?_) ?_
    · rw [← closed_stop world, ← stop, going]
    · rw [stopped_append, noted]
      rfl
  cases took with
  | waits =>
      rw [List.append_nil]
      exact lines
  | refused | admitted | issued | written | answered | stopped =>
      exact caller_moves world _ past _ lines ⟨rfl, rfl, rfl, rfl⟩ rfl rfl rfl rfl rfl rfl
  | unwritten | expired =>
      exact caller_stops world _ past _ lines ⟨rfl, rfl, rfl, rfl⟩ rfl rfl rfl
        (fun going => by cases going) (by rw [stopped_append]; exact Bool.or_true _)
  | closed id here => exact closes _ _ _ here rfl ⟨rfl, rfl, rfl, rfl⟩ rfl rfl rfl rfl
  | timedOut id here => exact closes _ _ _ here rfl ⟨rfl, rfl, rfl, rfl⟩ rfl rfl rfl rfl

theorem lines_queue (past outputs : List Output) (queue : List Text)
    (lines : Lines clock start first world past) (quiet : receivedText outputs = [] ∧ handledLines outputs = [] ∧
      queuedLines outputs = [] ∧ stopped outputs = false)
    (holds : Fifo.Holds (first.map .enter ++ history past ++ history outputs) queue) :
    Lines clock start first { world with eventQueue := queue } (past ++ outputs) := by
  obtain ⟨noText, noLines, noEvents, noStop⟩ := quiet
  constructor
  · rw [received_append, handled_append, noText, noLines, List.append_nil, List.append_nil]
    exact lines.stream
  · rw [handled_append, noLines, List.append_nil]
    exact lines.single
  · exact lines.held
  · rw [queued_append, handled_append, noEvents, noLines, List.append_nil, List.append_nil]
    exact lines.queued
  · rw [history_append, ← List.append_assoc]
    exact holds
  · intro calm
    rw [stopped_append, noStop, Bool.or_false] at calm
    obtain ⟨going, sound, staying⟩ := lines.running calm
    exact ⟨going, sound, staying⟩
  · exact lines.rested
  · exact lines.swept

theorem cleared_quiet (queue : List Text) :
    receivedText (queue.map .cleared) = [] ∧ handledLines (queue.map .cleared) = [] ∧
      queuedLines (queue.map .cleared) = [] ∧ stopped (queue.map .cleared) = false ∧
      history (queue.map .cleared) = queue.map .drop := by
  induction queue with
  | nil => exact ⟨rfl, rfl, rfl, rfl, rfl⟩
  | cons event rest ih =>
      obtain ⟨text, lines, events, stop, drops⟩ := ih
      exact ⟨text, lines, events, stop, congrArg (Fifo.Entry.drop event :: ·) drops⟩

theorem step_lines (next : Step)
    (lines : Lines clock start first world past) :
    Lines clock start first (step clock world next).1 (past ++ (step clock world next).2) := by
  have same : Lines clock start first world (past ++ []) := by
    rw [List.append_nil]
    exact lines
  cases next with
  | reader received => exact reader_lines world past received lines
  | caller written expired => exact caller_lines world past written expired lines
  | call cmd command =>
      simp only [step]
      obtain ⟨code, refused⟩ | busy | entered := call_took world cmd command
      · rw [refused]
        exact lines_frame world world past _ lines ⟨rfl, rfl, rfl, rfl⟩ rfl rfl rfl id
          (fun calm => lines.running (by rw [stopped_append, Bool.or_eq_false_iff] at calm; exact calm.1))
      · rw [busy]
        exact same
      · rw [entered]
        exact caller_moves world _ past [] lines ⟨rfl, rfl, rfl, rfl⟩ rfl rfl rfl rfl rfl rfl
  | handEvent =>
      simp only [step]
      cases queue : world.eventQueue with
      | nil => exact same
      | cons event rest =>
          have holds := lines.holds
          rw [queue] at holds
          exact lines_queue world past [.handed event] rest lines ⟨rfl, rfl, rfl, rfl⟩
            (Fifo.holds_leave _ _ _ holds)
  | clear =>
      obtain ⟨text, none, events, stop, drops⟩ := cleared_quiet world.eventQueue
      have empty := Fifo.holds_clear _ _ lines.holds
      rw [← drops] at empty
      exact lines_queue world past _ [] lines ⟨text, none, events, stop⟩ empty
  | stopReader =>
      exact caller_stops world { world with readerStop := true } past [.stopped .closed] lines
        ⟨rfl, rfl, rfl, rfl⟩ rfl rfl rfl (fun going => by cases going) (by rw [stopped_append]; exact Bool.or_true _)
  | closeTransport =>
      simp only [step]
      by_cases ready : world.readerStop = true ∧ joined world = true
      · rw [if_pos ready]
        have noted : stopped past = true := by
          by_cases noted : stopped past = true
          · exact noted
          · have going := (lines.running (Bool.eq_false_iff.mpr noted)).going
            rw [ready.1] at going
            cases going
        exact caller_stops world _ past [] lines ⟨rfl, rfl, rfl, rfl⟩ (closed_phase world)
          (closed_buffer world) (closed_queue world) (fun going => by rw [← closed_stop world]; exact going)
          (by rw [stopped_append, noted]; rfl)
      · rw [if_neg ready]
        exact same

end Vscp.SingleChannel
