import Vscp.SingleChannelLines

set_option autoImplicit false

namespace Vscp.SingleChannel

open RemoteTcp (Text TextSession isSpace trim split addInputStringArrayFromReply replyText reply_text_split)

variable (clock : Clock)

def Unanswered (past : List Output) (id : Nat) : Prop :=
  stopped past = true ∧ firstResponse (untilStop past) id = none

structure Command (world : World) (past : List Output) (id : Nat) : Prop where
  noted : .issued id ∈ past
  due : world.commandPending = true ∨ world.commandComplete = true
  pending : world.commandPending = true → firstResponse past id = none ∧ world.commandResponse = []
  complete : world.commandComplete = true →
    (world.commandResponse = [] ∧ world.commandResult ≠ none ∧ Unanswered past id) ∨
      ∃ line, firstResponse past id = some line ∧ world.commandResponse = line ++ crlf ∧ world.commandResult = verdict line

def CallerRight (world : World) (past : List Output) : Caller → Prop
  | .entered => True
  | .admitted => True
  | .writing id => Command world past id
  | .waiting id => Command world past id
  | .closing _ => .stopped .writeFailed ∈ past
  | .timedOut id => Unanswered past id

structure Commands (world : World) (past : List Output) : Prop where
  numbered : ∀ id, .issued id ∈ past → id < world.issued
  right : ∀ caller, world.caller = some caller → CallerRight world past caller
  ending : world.phase = .ending → stopped past = true

def responses (outputs : List Output) : List Text := (handledLines outputs).filterMap responseOf

theorem first_response_append (past outputs : List Output) (id : Nat) (noted : .issued id ∈ past) :
    firstResponse (past ++ outputs) id = (firstResponse past id).or (responses outputs).head? := by
  have found : (past.dropWhile (· ≠ .issued id)).isEmpty = false := by
    cases empty : past.dropWhile (· ≠ .issued id) with
    | nil =>
        have none := List.dropWhile_eq_nil_iff.mp empty (.issued id) noted
        exact absurd none (by simp)
    | cons output rest => rfl
  rw [firstResponse, List.dropWhile_append, found, if_neg Bool.false_ne_true, handled_append, List.filterMap_append,
    List.head?_append]
  rfl

variable (start : Text) (world : World) (past : List Output) (id : Nat) (line : Text)

theorem first_response_fresh (fresh : .issued id ∉ past) :
    firstResponse (past ++ [.issued id]) id = none := by
  have skipped : (past.dropWhile (· ≠ .issued id)).isEmpty = true := by
    rw [List.isEmpty_iff, List.dropWhile_eq_nil_iff]
    intro output member
    have other : output ≠ .issued id := fun same => fresh (same ▸ member)
    exact decide_eq_true other
  have here : ([.issued id] : List Output).dropWhile (· ≠ .issued id) = [.issued id] := by simp
  rw [firstResponse, List.dropWhile_append, skipped, if_pos rfl, here]
  rfl

theorem first_response_unissued (unissued : .issued id ∉ past) : firstResponse past id = none := by
  have skipped : past.dropWhile (· ≠ .issued id) = [] := by
    rw [List.dropWhile_eq_nil_iff]
    intro output member
    have other : output ≠ .issued id := fun same => unissued (same ▸ member)
    exact decide_eq_true other
  rw [firstResponse, skipped]
  rfl

variable (short : List Output)

theorem first_response_later (front : short <+: past) (found : firstResponse short id = some line) :
    firstResponse past id = some line := by
  obtain ⟨outputs, rfl⟩ := front
  have noted : .issued id ∈ short := by
    by_contra unissued
    rw [first_response_unissued short id unissued] at found
    cases found
  rw [first_response_append short outputs id noted, found]
  rfl

theorem no_response_before (front : short <+: past) (none : firstResponse past id = none) :
    firstResponse short id = Option.none := by
  cases found : firstResponse short id with
  | none => rfl
  | some line =>
      rw [first_response_later past id line short front found] at none
      cases none

theorem until_stop_front : untilStop past <+: past := List.takeWhile_prefix _

theorem unanswered_stop (noted : stopped past = true) (none : firstResponse past id = none) : Unanswered past id :=
  ⟨noted, no_response_before past id (untilStop past) (until_stop_front past) none⟩

variable (outputs : List Output)

theorem unanswered_later (unanswered : Unanswered past id) :
    Unanswered (past ++ outputs) id := by
  obtain ⟨noted, none⟩ := unanswered
  have same : untilStop (past ++ outputs) = untilStop past := by
    have short : (untilStop past).length ≠ past.length := by
      intro whole
      obtain ⟨output, member, stops⟩ := List.any_eq_true.mp noted
      rw [← (until_stop_front past).eq_of_length whole] at member
      have goes := List.mem_takeWhile_imp member
      simp [stops] at goes
    exact List.takeWhile_append.trans (if_neg short)
  rw [Unanswered, stopped_append, noted, same]
  exact ⟨rfl, none⟩

theorem command_frame (world next : World) (past outputs : List Output) (id : Nat) (command : Command world past id)
    (quiet : responses outputs = []) (pending : next.commandPending = world.commandPending)
    (complete : next.commandComplete = world.commandComplete) (result : next.commandResult = world.commandResult)
    (response : next.commandResponse = world.commandResponse) : Command next (past ++ outputs) id := by
  have same : firstResponse (past ++ outputs) id = firstResponse past id := by
    rw [first_response_append past outputs id command.noted, quiet, List.head?_nil, Option.or_none]
  constructor
  · exact List.mem_append_left _ command.noted
  · rw [pending, complete]
    exact command.due
  · rw [pending, same, response]
    exact command.pending
  · rw [complete, same, response, result]
    intro done
    exact (command.complete done).imp_left fun failed =>
      ⟨failed.1, failed.2.1, unanswered_later past id outputs failed.2.2⟩

theorem command_completed (code : VscpError) (noted : stopped past = true)
    (command : Command world past id) : Command (completePending world code) past id := by
  unfold completePending
  by_cases pending : world.commandPending = true
  · obtain ⟨nothing, empty⟩ := command.pending pending
    rw [if_pos pending]
    constructor
    · exact command.noted
    · exact .inr rfl
    · exact fun still => by cases still
    · exact fun _ => .inl ⟨empty, by simp, unanswered_stop past id noted nothing⟩
  · rw [if_neg pending]
    exact command

theorem command_takes (command : Command world past id)
    (response : isResponse (trim line) = true) (visible : isBlank (trim line) = false) :
    Command (takeResponse world (trim line)) (past ++ [.line line]) id := by
  have one : responses [.line line] = [trim line] := by
    have found : responseOf line = some (trim line) := by simp [responseOf, response, visible]
    exact List.filterMap_cons_some found
  have next := first_response_append past [.line line] id command.noted
  rw [one, List.head?_cons] at next
  unfold takeResponse
  by_cases pending : world.commandPending = true
  · obtain ⟨nothing, empty⟩ := command.pending pending
    rw [nothing, Option.none_or] at next
    rw [if_pos pending]
    constructor
    · exact List.mem_append_left _ command.noted
    · exact .inr rfl
    · exact fun still => by cases still
    · exact fun _ => .inr ⟨trim line, next, by rw [empty, List.nil_append], rfl⟩
  · rw [if_neg pending]
    constructor
    · exact List.mem_append_left _ command.noted
    · exact command.due
    · exact fun still => absurd still pending
    · intro complete
      rcases command.complete complete with ⟨empty, result, unanswered⟩ | ⟨first, found, text, result⟩
      · exact .inl ⟨empty, result, unanswered_later past id _ unanswered⟩
      · rw [found, Option.some_or] at next
        exact .inr ⟨first, next, text, result⟩

theorem command_processes (line : Text) (command : Command world past id) :
    let result := processSingleChannelLine clock world line
    Command result.1 (past ++ result.2) id := by
  simp only [processSingleChannelLine]
  by_cases blank : isBlank (trim line) = true
  · rw [if_pos blank]
    have quiet : responses [.line line] = [] := List.filterMap_cons_none (by simp [responseOf, blank])
    exact command_frame world world past _ id command quiet rfl rfl rfl rfl
  · rw [if_neg blank]
    have visible := Bool.eq_false_iff.mpr blank
    by_cases response : isResponse (trim line) = true
    · rw [if_pos response]
      exact command_takes world past id line command response visible
    · rw [if_neg response]
      have none : responseOf line = none := by simp [responseOf, response]
      by_cases parses : parsesAsEvent clock (trim line) = true
      · rw [if_pos parses]
        exact command_frame world _ past _ id command (List.filterMap_cons_none none) rfl rfl rfl rfl
      · rw [if_neg parses]
        have stopped : Command { world with readerError := some .read, readerStop := true }
            (past ++ [.line line, .stopped (.invalidLine line)]) id :=
          command_frame world _ past _ id command (List.filterMap_cons_none none) rfl rfl rfl rfl
        exact command_completed _ _ id .read (by rw [stopped_append]; exact Bool.or_true _) stopped

theorem stopped_later (noted : stopped past = true) : stopped (past ++ outputs) = true := by
  rw [stopped_append, noted]
  rfl

theorem commands_moved (world next : World) (past outputs : List Output) (commands : Commands world past)
    (issued : next.issued = world.issued) (none : ∀ id, .issued id ∉ outputs)
    (right : ∀ caller, next.caller = some caller → CallerRight next (past ++ outputs) caller)
    (ending : next.phase = .ending → world.phase = .ending ∨ stopped (past ++ outputs) = true) :
    Commands next (past ++ outputs) := by
  constructor
  · intro id member
    rw [issued]
    rcases List.mem_append.mp member with old | new
    · exact commands.numbered id old
    · exact absurd new (none id)
  · exact right
  · intro place
    exact (ending place).elim (fun before => stopped_later past outputs (commands.ending before)) id

theorem commands_kept (world next : World) (past outputs : List Output) (commands : Commands world past)
    (issued : next.issued = world.issued) (none : ∀ id, .issued id ∉ outputs) (caller : next.caller = world.caller)
    (ending : next.phase = .ending → world.phase = .ending ∨ stopped (past ++ outputs) = true)
    (command : ∀ id, Command world past id → Command next (past ++ outputs) id) : Commands next (past ++ outputs) := by
  apply commands_moved world next past outputs commands issued none ?_ ending
  intro placed place
  have before := commands.right placed (caller ▸ place)
  cases placed with
  | entered => exact trivial
  | admitted => exact trivial
  | writing id => exact command id before
  | waiting id => exact command id before
  | closing id => exact List.mem_append_left _ before
  | timedOut id => exact unanswered_later past id outputs before

theorem process_caller :
    (processSingleChannelLine clock world line).1.caller = world.caller ∧
      (processSingleChannelLine clock world line).1.issued = world.issued ∧
      (processSingleChannelLine clock world line).1.phase = world.phase ∧
      ∀ id, .issued id ∉ (processSingleChannelLine clock world line).2 := by
  obtain ⟨phase, _, _, _, _, caller, issued⟩ := take_response_keeps world (trim line)
  simp only [processSingleChannelLine]
  by_cases blank : isBlank (trim line) = true
  · rw [if_pos blank]
    exact ⟨rfl, rfl, rfl, fun id => by simp⟩
  · rw [if_neg blank]
    by_cases response : isResponse (trim line) = true
    · rw [if_pos response]
      exact ⟨caller, issued, phase, fun id => by simp⟩
    · rw [if_neg response]
      by_cases parses : parsesAsEvent clock (trim line) = true
      · rw [if_pos parses]
        exact ⟨rfl, rfl, rfl, fun id => by simp⟩
      · rw [if_neg parses]
        exact ⟨complete_pending_caller _ _, complete_pending_issued _ _, complete_pending_phase _ _, fun id => by simp⟩

theorem stop_noted (running : stopped past = false → Running world) (stop : world.readerStop = true) :
    stopped past = true := by
  by_contra calm
  rw [(running (Bool.eq_false_iff.mpr calm)).going] at stop
  cases stop

theorem reader_commands (received : Received) (running : stopped past = false → Running world)
    (commands : Commands world past) :
    let result := readerTurn clock world received
    Commands result.1 (past ++ result.2) := by
  have moves : ∀ phase, (phase = .ending → world.phase = .ending ∨ stopped past = true) →
      Commands { world with phase := phase } (past ++ []) := by
    intro phase ending
    apply commands_kept world { world with phase := phase } past [] commands rfl (fun id => List.not_mem_nil) rfl
    · rw [List.append_nil]
      exact ending
    · exact fun id command => command_frame world _ past [] id command rfl rfl rfl rfl rfl
  have ends : ∀ (next : World) (code : VscpError) (outputs : List Output), responses outputs = [] →
      stopped (past ++ outputs) = true →
      (∀ id, .issued id ∉ outputs) → next.issued = world.issued → next.caller = world.caller →
      next.commandPending = world.commandPending → next.commandComplete = world.commandComplete →
      next.commandResult = world.commandResult → next.commandResponse = world.commandResponse →
      Commands (completePending next code) (past ++ outputs) := by
    intro next code outputs quiet noted none issued caller pending complete result response
    apply commands_kept world _ past outputs commands
    · rw [complete_pending_issued, issued]
    · exact none
    · rw [complete_pending_caller, caller]
    · exact fun _ => .inr noted
    · intro id command
      exact command_completed _ _ id code noted
        (command_frame world next past outputs id command quiet pending complete result response)
  have told (cause : Cause) : stopped (past ++ [.stopped cause]) = true := by
    rw [stopped_append]
    exact Bool.or_true _
  simp only [readerTurn]
  cases place : world.phase with
  | head =>
      refine moves _ fun ending => .inr (stop_noted world past running ?_)
      by_contra going
      rw [if_neg going] at ending
      cases ending
  | handled =>
      refine moves _ fun ending => ?_
      split at ending <;> cases ending
  | finished =>
      have same := moves world.phase .inl
      exact same
  | ending =>
      exact ends { world with phase := .finished } _ [] rfl (stopped_later past [] (commands.ending place))
        (fun id => List.not_mem_nil) rfl rfl rfl rfl rfl rfl
  | holding line =>
      obtain ⟨caller, issued, phase, none⟩ := process_caller clock { world with phase := .handled } line
      apply commands_kept world _ past _ commands issued none caller
      · intro ending
        rw [phase] at ending
        cases ending
      · intro id command
        have moved : Command { world with phase := .handled } (past ++ []) id :=
          command_frame world _ past [] id command rfl rfl rfl rfl rfl
        rw [List.append_nil] at moved
        exact command_processes clock _ past id line moved
  | sizing =>
      by_cases long : world.inputBuffer.length > maxLine
      · simp only [if_pos long]
        exact ends { world with readerError := some .invalidFrame, readerStop := true, phase := .head } .invalidFrame
          [.stopped .oversized] rfl (told _) (fun id => by simp) rfl rfl rfl rfl rfl rfl
      · simp only [if_neg long]
        exact moves _ fun ending => by cases ending
  | scanning =>
      by_cases complete : '\n' ∈ world.inputBuffer
      · simp only [if_pos complete]
        exact commands_kept world _ past [] commands rfl (fun id => List.not_mem_nil) rfl (fun ending => by cases ending)
          (fun id command => command_frame world _ past [] id command rfl rfl rfl rfl rfl)
      · simp only [if_neg complete]
        exact moves _ fun ending => by cases ending
  | reading =>
      cases received with
      | timeout => exact moves _ fun ending => by cases ending
      | failed code => exact ends _ _ [.stopped .readFailed] rfl (told _) (fun id => by simp) rfl rfl rfl rfl rfl rfl
      | arrived segment =>
          cases segment with
          | nil => exact moves _ fun ending => by cases ending
          | cons letter rest =>
              exact commands_kept world _ past _ commands rfl (fun id => by simp) rfl (fun ending => by cases ending)
                (fun id command => command_frame world _ past _ id command rfl rfl rfl rfl rfl)

theorem caller_gone (world next : World) (past outputs : List Output) (commands : Commands world past)
    (issued : next.issued = world.issued) (none : ∀ id, .issued id ∉ outputs) (phase : next.phase = world.phase)
    (right : ∀ caller, next.caller = some caller → CallerRight next (past ++ outputs) caller) :
    Commands next (past ++ outputs) :=
  commands_moved world next past outputs commands issued none right fun place => .inl (phase ▸ place)

theorem command_issued (commands : Commands world past) :
    Commands
      { world with
        commandResponse := []
        commandComplete := false
        commandPending := true
        caller := some (.writing world.issued)
        issued := world.issued + 1 } (past ++ [.issued world.issued]) := by
  have fresh : .issued world.issued ∉ past := fun member => Nat.lt_irrefl _ (commands.numbered world.issued member)
  constructor
  · intro id member
    rcases List.mem_append.mp member with old | new
    · exact Nat.lt_succ_of_lt (commands.numbered id old)
    · have same : Output.issued id = .issued world.issued := List.mem_singleton.mp new
      cases same
      exact Nat.lt_succ_self _
  · intro caller place
    cases place
    constructor
    · exact List.mem_append_right _ List.mem_cons_self
    · exact .inl rfl
    · exact fun _ => ⟨first_response_fresh past world.issued fresh, rfl⟩
    · exact fun complete => by cases complete
  · exact fun place => stopped_later past _ (commands.ending place)

theorem caller_commands (written expired : Bool) (commands : Commands world past) :
    let result := callerTurn world written expired
    Commands result.1 (past ++ result.2) := by
  have took := caller_took world written expired
  intro result
  change CallerTook world result at took
  generalize result = result at took
  cases took with
  | waits =>
      rw [List.append_nil]
      exact commands
  | refused | answered | stopped => exact caller_gone world _ past _ commands rfl (fun id => by simp) rfl nofun
  | admitted =>
      refine caller_gone world _ past [] commands rfl (fun id => List.not_mem_nil) rfl ?_
      rintro _ ⟨⟩
      exact trivial
  | issued => exact command_issued world past commands
  | written id here =>
      refine caller_gone world _ past [] commands rfl (fun id => List.not_mem_nil) rfl ?_
      rintro _ ⟨⟩
      exact command_frame world _ past [] id (commands.right _ here) rfl rfl rfl rfl rfl
  | unwritten =>
      refine caller_gone world _ past _ commands rfl (fun id => by simp) rfl ?_
      rintro _ ⟨⟩
      exact List.mem_append_right _ List.mem_cons_self
  | expired id here pending =>
      have right : Command world past id := commands.right _ here
      have nothing := (right.pending (right.due.resolve_right pending)).1
      refine caller_gone world _ past _ commands rfl (fun id => by simp) rfl ?_
      rintro _ ⟨⟩
      apply unanswered_stop
      · rw [stopped_append]
        exact Bool.or_true _
      · rw [first_response_append past _ id right.noted, nothing]
        rfl
  | closed | timedOut =>
      exact caller_gone world _ past _ commands (closed_issued world) (fun id => by simp) (closed_phase world) nofun

theorem closed_commands (noted : stopped past = true) (commands : Commands world past) :
    Commands (transportClosed world) (past ++ []) := by
  apply commands_kept world _ past [] commands (closed_issued world) (fun id => List.not_mem_nil) (closed_caller world)
  · rw [closed_phase]
    exact .inl
  · intro id command
    have marked : Command
        { world with joinable := false, readerError := some (world.readerError.getD .stopped) } (past ++ []) id :=
      command_frame world _ past [] id command rfl rfl rfl rfl rfl
    have completed := command_completed _ _ id (world.readerError.getD .stopped) (stopped_later past [] noted) marked
    exact ⟨completed.noted, completed.due, completed.pending, completed.complete⟩

theorem step_commands (next : Step) (running : stopped past = false → Running world) (commands : Commands world past) :
    Commands (step clock world next).1 (past ++ (step clock world next).2) := by
  have same : Commands world (past ++ []) := by
    rw [List.append_nil]
    exact commands
  have stays : ∀ (changed : World) (outputs : List Output), responses outputs = [] → (∀ id, .issued id ∉ outputs) →
      changed.issued = world.issued → changed.caller = world.caller → changed.phase = world.phase →
      changed.commandPending = world.commandPending →
      changed.commandComplete = world.commandComplete → changed.commandResult = world.commandResult →
      changed.commandResponse = world.commandResponse → Commands changed (past ++ outputs) := by
    intro changed outputs quiet none issued caller phase pending complete result response
    apply commands_kept world changed past outputs commands issued none caller
    · rw [phase]
      exact .inl
    · exact fun id command => command_frame world changed past outputs id command quiet pending complete result response
  cases next with
  | reader received => exact reader_commands clock world past received running commands
  | caller written expired => exact caller_commands world past written expired commands
  | call cmd command =>
      simp only [step]
      obtain ⟨code, refused⟩ | busy | entered := call_took world cmd command
      · rw [refused]
        exact stays world _ rfl (fun id => by simp) rfl rfl rfl rfl rfl rfl rfl
      · rw [busy]
        exact same
      · rw [entered]
        refine caller_gone world _ past [] commands rfl (fun id => List.not_mem_nil) rfl ?_
        rintro _ ⟨⟩
        exact trivial
  | handEvent =>
      simp only [step]
      cases queue : world.eventQueue with
      | nil => exact same
      | cons event rest => exact stays _ _ rfl (fun id => by simp) rfl rfl rfl rfl rfl rfl rfl
  | clear =>
      obtain ⟨_, none, _, _, _⟩ := cleared_quiet world.eventQueue
      have quiet : responses (world.eventQueue.map .cleared) = [] := by rw [responses, none, List.filterMap_nil]
      exact stays { world with eventQueue := [] } (world.eventQueue.map .cleared) quiet (fun id => by simp) rfl rfl rfl rfl rfl rfl rfl
  | stopReader => exact stays { world with readerStop := true } [.stopped .closed] rfl (fun id => by simp) rfl rfl rfl rfl rfl rfl rfl
  | closeTransport =>
      simp only [step]
      by_cases ready : world.readerStop = true ∧ joined world = true
      · rw [if_pos ready]
        exact closed_commands world past (stop_noted world past running ready.1) commands
      · rw [if_neg ready]
        exact same

theorem sound_one (output : Output) (fair : Fair clock start past output) :
    Run.Sound (Fair clock start) past [output] := ⟨fair, trivial⟩

theorem process_sound :
    Run.Sound (Fair clock start) past (processSingleChannelLine clock world line).2 := by
  simp only [processSingleChannelLine]
  by_cases blank : isBlank (trim line) = true
  · rw [if_pos blank]
    exact sound_one clock start past _ trivial
  · rw [if_neg blank]
    by_cases response : isResponse (trim line) = true
    · rw [if_pos response]
      exact sound_one clock start past _ trivial
    · rw [if_neg response]
      by_cases parses : parsesAsEvent clock (trim line) = true
      · rw [if_pos parses]
        exact ⟨trivial, trivial, trivial⟩
      · rw [if_neg parses]
        exact ⟨trivial, ⟨Bool.eq_false_iff.mpr blank, Bool.eq_false_iff.mpr response, Bool.eq_false_iff.mpr parses⟩, trivial⟩

variable (first : List Text)

theorem reader_sound (world : World) (past : List Output) (received : Received)
    (lines : Lines clock start first world past) :
    Run.Sound (Fair clock start) past (readerTurn clock world received).2 := by
  simp only [readerTurn]
  cases place : world.phase with
  | head => exact trivial
  | handled => exact trivial
  | finished => exact trivial
  | ending => exact trivial
  | holding line => exact process_sound clock start _ past line
  | scanning =>
      by_cases complete : '\n' ∈ world.inputBuffer
      · simp only [if_pos complete]
        exact trivial
      · simp only [if_neg complete]
        exact trivial
  | sizing =>
      by_cases long : world.inputBuffer.length > maxLine
      · simp only [if_pos long]
        apply sound_one
        by_cases noted : stopped past = true
        · exact .inl noted
        · have going := (lines.running (Bool.eq_false_iff.mpr noted)).going
          have nothing : heldText .sizing = [] := rfl
          have stream := lines.stream
          rw [place, nothing, List.nil_append] at stream
          exact .inr ⟨world.inputBuffer, ⟨_, stream.symm⟩, lines.swept (.inr place) going, long⟩
      · simp only [if_neg long]
        exact trivial
  | reading =>
      cases received with
      | timeout => exact trivial
      | failed code => exact sound_one clock start past _ trivial
      | arrived segment =>
          cases segment with
          | nil => exact trivial
          | cons letter rest => exact sound_one clock start past _ trivial

theorem caller_sound (written expired : Bool)
    (commands : Commands world past) : Run.Sound (Fair clock start) past (callerTurn world written expired).2 := by
  have failed : ∀ id code, firstResponse (untilStop past) id = none ∨ .stopped .writeFailed ∈ past →
      Fair clock start past (.returned id (some code) []) := fun id code excuse => .inl ⟨rfl, by simp, excuse⟩
  have took := caller_took world written expired
  generalize callerTurn world written expired = result at took
  cases took with
  | waits | admitted | written => exact trivial
  | refused | issued | unwritten | expired => exact sound_one clock start past _ trivial
  | closed id here => exact sound_one clock start past _ (failed id .error (.inr (commands.right _ here)))
  | answered id here complete =>
      have right : Command world past id := commands.right _ here
      exact sound_one clock start past _ ((right.complete complete).imp_left fun failed =>
        ⟨failed.1, failed.2.1, .inl failed.2.2.2⟩)
  | stopped id here pending code =>
      have right : Command world past id := commands.right _ here
      have nothing := (right.pending (right.due.resolve_right pending)).1
      exact sound_one clock start past _ (failed id _ (.inl
        (no_response_before past id (untilStop past) (until_stop_front past) nothing)))
  | timedOut id here =>
      have right : Unanswered past id := commands.right _ here
      exact sound_one clock start past _ (failed id .timeout (.inl right.2))

theorem sound_cleared (queue : List Text) :
    Run.Sound (Fair clock start) past (queue.map .cleared) := by
  induction queue generalizing past with
  | nil => exact trivial
  | cons event rest ih => exact ⟨trivial, ih _⟩

theorem step_sound (world : World) (past : List Output) (next : Step)
    (lines : Lines clock start first world past) (commands : Commands world past) :
    Run.Sound (Fair clock start) past (step clock world next).2 := by
  cases next with
  | reader received => exact reader_sound clock start first world past received lines
  | caller written expired => exact caller_sound clock start world past written expired commands
  | call cmd command =>
      simp only [step]
      obtain ⟨code, refused⟩ | busy | entered := call_took world cmd command
      · rw [refused]
        exact sound_one clock start past _ trivial
      · rw [busy]
        exact trivial
      · rw [entered]
        exact trivial
  | handEvent =>
      simp only [step]
      cases queue : world.eventQueue with
      | nil => exact trivial
      | cons event rest => exact sound_one clock start past _ trivial
  | clear => exact sound_cleared clock start past world.eventQueue
  | stopReader => exact sound_one clock start past _ trivial
  | closeTransport =>
      simp only [step]
      by_cases ready : world.readerStop = true ∧ joined world = true
      · rw [if_pos ready]
        exact trivial
      · rw [if_neg ready]
        exact trivial

def afterReply (session : TextSession) (reply : Text) : TextSession :=
  addInputStringArrayFromReply { session with strResponse := reply, inputStrArray := [] }

variable (session : TextSession)

theorem after_reply_rest (reply : Text) : '\n' ∉ (afterReply session reply).strResponse := by
  unfold afterReply addInputStringArrayFromReply
  by_cases empty : reply = []
  · rw [if_pos empty, empty]
    exact List.not_mem_nil
  · rw [if_neg empty]
    intro inside
    exact absurd (List.mem_rtakeWhile_imp inside) (by decide)

theorem buffered_line (fine : (processSingleChannelLine clock world line).1.readerError = none) :
    let next := (processSingleChannelLine clock world line).1
    world.readerError = none ∧ next.phase = world.phase ∧ next.inputBuffer = world.inputBuffer ∧
      next.readerStop = world.readerStop ∧ next.caller = world.caller ∧
      next.eventQueue = world.eventQueue ++ (eventLine clock line).toList := by
  obtain ⟨phase, buffer, queue, stop, error, caller, _⟩ := take_response_keeps world (trim line)
  simp only [processSingleChannelLine] at fine ⊢
  by_cases blank : isBlank (trim line) = true
  · rw [if_pos blank] at fine ⊢
    have none : eventLine clock line = none := by simp [eventLine, blank]
    exact ⟨fine, rfl, rfl, rfl, rfl, by rw [none]; exact (List.append_nil _).symm⟩
  · rw [if_neg blank] at fine ⊢
    by_cases response : isResponse (trim line) = true
    · rw [if_pos response] at fine ⊢
      have none : eventLine clock line = none := by simp [eventLine, response]
      exact ⟨error ▸ fine, phase, buffer, stop, caller, by rw [none, queue]; exact (List.append_nil _).symm⟩
    · rw [if_neg response] at fine ⊢
      by_cases parses : parsesAsEvent clock (trim line) = true
      · rw [if_pos parses] at fine ⊢
        have found : eventLine clock line = some (trim line) := by simp [eventLine, blank, response, parses]
        exact ⟨fine, rfl, rfl, rfl, rfl, by rw [found]; rfl⟩
      · rw [if_neg parses, complete_pending_error] at fine
        cases fine

variable (lines : List Text)

theorem buffered_lines (world : World)
    (fine : (lines.foldl (fun world line => (processSingleChannelLine clock world line).1) world).readerError = none) :
    let next := lines.foldl (fun world line => (processSingleChannelLine clock world line).1) world
    world.readerError = none ∧ next.phase = world.phase ∧ next.inputBuffer = world.inputBuffer ∧
      next.readerStop = world.readerStop ∧ next.caller = world.caller ∧
      next.eventQueue = world.eventQueue ++ lines.filterMap (eventLine clock) := by
  induction lines generalizing world with
  | nil => exact ⟨fine, rfl, rfl, rfl, rfl, (List.append_nil _).symm⟩
  | cons line rest ih =>
      rw [List.foldl_cons] at fine ⊢
      obtain ⟨error, phase, buffer, stop, caller, queue⟩ := ih (processSingleChannelLine clock world line).1 fine
      obtain ⟨errorFirst, phaseFirst, bufferFirst, stopFirst, callerFirst, queueFirst⟩ := buffered_line clock world line error
      refine ⟨errorFirst, phase.trans phaseFirst, buffer.trans bufferFirst, stop.trans stopFirst,
        caller.trans callerFirst, ?_⟩
      rw [queue, queueFirst, List.append_assoc]
      cases found : eventLine clock line with
      | none => rw [List.filterMap_cons_none found]; rfl
      | some event => rw [List.filterMap_cons_some found]; rfl

theorem started_reader (world : World) (started : startSingleChannelReader clock session = some world)
    (single : '\n' ∉ session.strResponse) :
    world.eventQueue = session.inputStrArray.filterMap (eventLine clock) ∧
      Lines clock session.strResponse world.eventQueue world [] ∧ Commands world [] := by
  simp only [startSingleChannelReader] at started
  split at started
  · cases started
  · rename_i fine
    obtain ⟨_, phase, buffer, stop, caller, queue⟩ :=
      buffered_lines clock session.inputStrArray (idleWorld session) (not_not.mp fine)
    rw [Option.some.inj started] at phase buffer stop caller queue
    have error : world.readerError = none := by
      rw [← Option.some.inj started]
      exact not_not.mp fine
    have head : world.phase = .head := phase
    have noCaller : world.caller = none := caller
    refine ⟨queue, ?_, ?_⟩
    · constructor
      · rw [buffer, head]
        exact List.append_nil _
      · exact fun line member => absurd member List.not_mem_nil
      · intro line held
        rw [head] at held
        cases held
      · rfl
      · have entered : ∀ events : List Text, Fifo.Holds (events.map .enter ++ history []) events := by
          intro events
          have all : Fifo.entered (events.map Fifo.Entry.enter) = events := by
            rw [Fifo.entered, List.filterMap_map]
            exact List.filterMap_some
          have none : Fifo.settled (events.map Fifo.Entry.enter) = [] := by
            rw [Fifo.settled, List.filterMap_map]
            exact List.filterMap_eq_nil_iff.mpr fun _ _ => rfl
          have nothing : history [] = [] := rfl
          rw [Fifo.Holds, nothing, List.append_nil, all, none]
          rfl
        exact entered world.eventQueue
      · exact fun _ => ⟨stop, error, by rw [noCaller]; rfl⟩
      · intro reading
        rw [head] at reading
        cases reading
      · intro _ _
        rw [buffer]
        exact single
    · constructor
      · exact fun id member => absurd member List.not_mem_nil
      · intro caller place
        rw [noCaller] at place
        cases place
      · intro ending
        rw [head] at ending
        cases ending

theorem split_stream (tail : Text) (single : ∀ line ∈ lines, '\n' ∉ line) (last : '\n' ∉ tail) :
    (replyText lines ++ tail).splitOn '\n' = lines ++ [tail] := by
  induction lines with
  | nil => exact List.splitOn_eq_singleton last
  | cons line rest ih =>
      have later := ih fun other member => single other (List.mem_cons_of_mem _ member)
      have joined : replyText (line :: rest) ++ tail = line ++ '\n' :: (replyText rest ++ tail) := by simp [replyText]
      rw [joined, List.splitOn_append_cons_self_of_not_mem (single line List.mem_cons_self), later]
      rfl

-- A command that has its response comes back with it at its next turn.
theorem answered_returns (commands : Commands world past) (waits : world.caller = some (.waiting id))
    (found : firstResponse (untilStop past) id = some line) (written expired : Bool) :
    (step clock world (.caller written expired)).2 = [.returned id (verdict line) (line ++ crlf)] := by
  have command := commands.right _ waits
  have first := first_response_later past id line (untilStop past) (until_stop_front past) found
  have complete : world.commandComplete = true := by
    refine command.due.resolve_left fun pending => ?_
    rw [(command.pending pending).1] at first
    cases first
  rcases command.complete complete with ⟨_, _, _, none⟩ | ⟨other, same, response, result⟩
  · rw [none] at found
    cases found
  · rw [first] at same
    cases same
    simp only [step, callerTurn, waits, if_pos complete, response, result]

theorem single_channel_order (session : TextSession) (reply : Text) (world : World)
    (started : startSingleChannelReader clock (afterReply session reply) = some world) (steps : List Step) :
    let rest := (afterReply session reply).strResponse
    let ended := Run.run (step clock) world steps
    world.eventQueue = (afterReply session reply).inputStrArray.filterMap (eventLine clock) ∧
      replyText (handledLines ended.2) <+: rest ++ receivedText ended.2 ∧
      (∀ line ∈ handledLines ended.2, '\n' ∉ line) ∧
      queuedLines ended.2 = (handledLines ended.2).filterMap (eventLine clock) ∧
      Fifo.Holds (world.eventQueue.map .enter ++ history ended.2) ended.1.eventQueue ∧
      Run.Sound (Fair clock rest) [] ended.2 ∧
      (∀ id line, ended.1.caller = some (.waiting id) → firstResponse (untilStop ended.2) id = some line →
        ∀ written expired, (step clock ended.1 (.caller written expired)).2 =
          [.returned id (verdict line) (line ++ crlf)]) ∧
      (ended.1.phase = .reading → handledLines ended.2 = ((rest ++ receivedText ended.2).splitOn '\n').dropLast) ∧
      (stopped ended.2 = false → ended.1.readerStop = false ∧ ended.1.readerError = none) := by
  intro rest ended
  obtain ⟨queue, lines, commands⟩ := started_reader clock _ world started (after_reply_rest session reply)
  have keeps : ∀ state past next,
      (Lines clock rest world.eventQueue state past ∧ Commands state past) → True →
      Run.Sound (Fair clock rest) past (step clock state next).2 ∧
        (Lines clock rest world.eventQueue (step clock state next).1 (past ++ (step clock state next).2) ∧
          Commands (step clock state next).1 (past ++ (step clock state next).2)) := by
    rintro state past next ⟨linesHere, commandsHere⟩ -
    exact ⟨step_sound clock rest world.eventQueue state past next linesHere commandsHere,
      step_lines state past next linesHere, step_commands clock state past next linesHere.running commandsHere⟩
  obtain ⟨sound, final, callers⟩ := Run.run_keeps (step clock) (fun _ _ => True) (Fair clock rest)
    (fun state past => Lines clock rest world.eventQueue state past ∧ Commands state past) keeps world [] steps
    ⟨lines, commands⟩ (Run.meets_always (step clock) world steps)
  rw [List.nil_append] at final callers
  refine ⟨queue, ⟨_, final.stream.symm⟩, final.single, final.queued, final.holds, sound,
    fun id line waits found => answered_returns clock _ _ id line callers waits found, ?_,
    fun calm => ⟨(final.running calm).going, (final.running calm).sound⟩⟩
  intro reading
  have stream := final.stream
  have nothing : heldText .reading = [] := rfl
  rw [reading, nothing, List.nil_append] at stream
  rw [stream, split_stream _ _ final.single (final.rested reading), List.dropLast_concat]

def firstEvent : Text := ['0', ',', '2', '0', ',', '3', ',', '0', ',', ',', '1', ',', '-']
def secondEvent : Text := ['0', ',', '2', '0', ',', '4', ',', '0', ',', ',', '2', ',', '-']

def expiredCommand : List Step :=
  [.call (noop ++ crlf) noop, .caller true false, .caller true false, .caller true false, .reader .timeout,
    .reader (.arrived (replyText [firstEvent, secondEvent])), .reader .timeout, .reader .timeout, .caller true true,
    .reader .timeout, .reader .timeout, .reader .timeout, .reader .timeout, .caller true false]

theorem expired_command_loses_event :
    let ended := Run.run (step exampleClock) (idleWorld RemoteTcp.freshSession) expiredCommand
    eventLine exampleClock secondEvent = some secondEvent ∧
      receivedText ended.2 = replyText [firstEvent, secondEvent] ∧
      queuedLines ended.2 = [firstEvent] ∧ ended.1.phase = .finished ∧ ended.1.caller = none := by
  decide

def okDone : Text := ok ++ [' ', '-', ' ', 'd', 'o', 'n', 'e']

def answeredCommand : List Step :=
  [.call (noop ++ crlf) noop, .caller true false, .caller true false, .caller true false, .reader .timeout,
    .reader (.arrived (replyText [firstEvent, okDone] ++ secondEvent.take 5)), .reader .timeout, .reader .timeout,
    .reader .timeout, .reader .timeout, .reader .timeout, .caller true false, .reader .timeout, .reader .timeout,
    .reader .timeout, .reader .timeout, .reader (.arrived (secondEvent.drop 5 ++ ['\n'])), .reader .timeout,
    .reader .timeout]

theorem single_channel_order_answered :
    let ended := Run.run (step exampleClock) (idleWorld RemoteTcp.freshSession) answeredCommand
    (idleWorld RemoteTcp.freshSession).eventQueue = [] ∧
      replyText (handledLines ended.2) <+: [] ++ receivedText ended.2 ∧
      (∀ line ∈ handledLines ended.2, '\n' ∉ line) ∧
      queuedLines ended.2 = (handledLines ended.2).filterMap (eventLine exampleClock) ∧
      Fifo.Holds (([] : List Text).map .enter ++ history ended.2) ended.1.eventQueue ∧
      Run.Sound (Fair exampleClock []) [] ended.2 ∧
      (∀ id line, ended.1.caller = some (.waiting id) → firstResponse (untilStop ended.2) id = some line →
        ∀ written expired, (step exampleClock ended.1 (.caller written expired)).2 =
          [.returned id (verdict line) (line ++ crlf)]) ∧
      (ended.1.phase = .reading → handledLines ended.2 = (([] ++ receivedText ended.2).splitOn '\n').dropLast) ∧
      (stopped ended.2 = false → ended.1.readerStop = false ∧ ended.1.readerError = none) :=
  single_channel_order exampleClock RemoteTcp.freshSession [] (idleWorld RemoteTcp.freshSession) rfl answeredCommand

example : queuedLines (Run.run (step exampleClock) (idleWorld RemoteTcp.freshSession) answeredCommand).2 =
      [firstEvent, secondEvent] ∧
    .returned 0 none (okDone ++ crlf) ∈
      (Run.run (step exampleClock) (idleWorld RemoteTcp.freshSession) answeredCommand).2 := by
  decide

end Vscp.SingleChannel
