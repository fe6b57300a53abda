import Vscp.BinaryStream

set_option autoImplicit false

namespace Vscp.RemoteTcp

abbrev Text := List Char

structure TextSession extends Session where
  modeReceiveLoop : Bool
  singleChannelReceiveLoop : Bool
  strResponse : Text
  inputStrArray : List Text
deriving DecidableEq

def isSpace (letter : Char) : Bool := letter = ' ' ∨ ('\t' ≤ letter ∧ letter ≤ '\r')

def trim (line : Text) : Text := (line.dropWhile isSpace).rdropWhile isSpace

def makeUpper (line : Text) : Text := line.map Char.toUpper

def split (text : Text) (delimiter : Char) : List Text := if text = [] then [] else text.splitOn delimiter

def clrInputQueue (session : TextSession) : TextSession := { session with strResponse := [], inputStrArray := [] }

-- Everything up to the last line end goes to the array, the rest stays in the buffer.
def addInputStringArrayFromReply (session : TextSession) : TextSession :=
  if session.strResponse = [] then session
  else
    let rest := session.strResponse.rtakeWhile (· ≠ '\n')
    let strToArray := session.strResponse.take (session.strResponse.length - rest.length)
    let lines := ((split strToArray '\n').map trim).filter (· ≠ [])
    { session with strResponse := rest, inputStrArray := session.inputStrArray ++ lines }

-- One turn of the reply loop: transportRead finds this many bytes, none when the inner
-- timeout ends first, or fails. The list of turns ends with the response timeout.
inductive Poll
  | arrived (available : Nat)
  | failed
deriving DecidableEq

def hasErr (response : Text) : Bool := ['+', 'E', 'R', 'R'] <:+: response

def hasOk (response : Text) : Bool := ['+', 'O', 'K'] <:+: response

-- strstr sees a C string: the bytes before the first NUL.
def seesLineEnd (buffer : Text) : Bool := '\n' ∈ buffer.takeWhile (· ≠ '\x00')

structure Reply where
  success : Bool
  session : TextSession
  stream : Text
deriving DecidableEq

def replyBufferSize : Nat := 0x2000

@[grind =] def replyLoop (session : TextSession) (stream : Text) (polls : List Poll) : Reply :=
  match polls with
  | [] => ⟨false, session, stream⟩
  | .failed :: _ => ⟨false, { session with connected := false }, stream⟩
  | .arrived available :: later =>
      let size := min (replyBufferSize - 1) available
      let buffer := stream.take size
      let strResponse := session.strResponse ++ buffer
      if hasErr strResponse then ⟨false, { session with strResponse }, stream.drop size⟩
      else if hasOk strResponse ∧ seesLineEnd buffer then ⟨true, { session with strResponse }, stream.drop size⟩
      else replyLoop { session with strResponse } (stream.drop size) later

def checkReturnValueForCommand (session : TextSession) (clear : Bool) (stream : Text) (polls : List Poll) : Reply :=
  if session.binaryMode then ⟨false, session, stream⟩
  else replyLoop (if clear then clrInputQueue session else session) stream polls

structure CommandResult where
  result : Except VscpError Unit
  session : TextSession
  stream : Text

structure OtherCommands where
  doCmdBinary : TextSession → Text → CommandResult
  doSingleChannelCommand : TextSession → Text → Text → Text → CommandResult
  receiveBinaryEvent : TextSession → Text → Except VscpError VscpEvent × TextSession × Text

def doCommand (other : OtherCommands) (session : TextSession) (cmd : Text) (written : Except VscpError Unit)
    (stream : Text) (polls : List Poll) : CommandResult :=
  if session.binaryMode then ⟨.error .parameter, session, stream⟩
  else
    let command := makeUpper (trim cmd)
    if command = ['B', 'I', 'N', 'A', 'R', 'Y'] then other.doCmdBinary session stream
    else if session.modeReceiveLoop ∧ session.singleChannelReceiveLoop then
      other.doSingleChannelCommand session cmd command stream
    else
      let cleared := clrInputQueue session
      if ¬ cleared.connected then ⟨.error .connection, cleared, stream⟩
      else
        match written with
        | .error _ => ⟨.error .error, { cleared with connected := false }, stream⟩
        | .ok _ =>
            let reply := checkReturnValueForCommand cleared true stream polls
            let session := addInputStringArrayFromReply reply.session
            ⟨if reply.success then .ok () else .error .error, session, reply.stream⟩

def leadingNumber (text : Text) : Nat := Nat.ofDigitChars 10 (text.takeWhile Char.isDigit) 0

def atoi (line : Text) : Int :=
  match line.dropWhile isSpace with
  | '-' :: digits => - (leadingNumber digits : Int)
  | '+' :: digits => leadingNumber digits
  | digits => leadingNumber digits

def cdta : Text := ['C', 'D', 'T', 'A', '\r', '\n']

def doCmdDataAvailable (other : OtherCommands) (session : TextSession) (written : Except VscpError Unit)
    (stream : Text) (polls : List Poll) : Int × TextSession × Text :=
  if ¬ session.connected then (VscpError.error.code, session, stream)
  else if session.modeReceiveLoop then (VscpError.error.code, session, stream)
  else
    let command := doCommand other session cdta written stream polls
    match command.result, command.session.inputStrArray with
    | .error _, _ => (VscpError.error.code, command.session, command.stream)
    | .ok _, [] => (0, command.session, command.stream)
    | .ok _, line :: _ => (atoi line, command.session, command.stream)

def retr : Text := ['R', 'E', 'T', 'R', ' ', '1', '\r', '\n']

def doCmdReceive (other : OtherCommands) (getEventFromLine : Text → Option VscpEvent) (session : TextSession)
    (written : Except VscpError Unit) (stream : Text) (polls : List Poll) :
    Except VscpError VscpEvent × TextSession × Text :=
  if ¬ session.connected then (.error .connection, session, stream)
  else if session.binaryMode then other.receiveBinaryEvent session stream
  else if session.modeReceiveLoop then (.error .parameter, session, stream)
  else
    let command := doCommand other session retr written stream polls
    match command.result, command.session.inputStrArray with
    | .error _, _ => (.error .error, command.session, command.stream)
    | .ok _, [] => (.error .error, command.session, command.stream)
    | .ok _, line :: _ =>
        match getEventFromLine line with
        | none => (.error .read, command.session, command.stream)
        | some event => (.ok event, command.session, command.stream)

@[grind =] def segments (stream : Text) : List Nat → List Text
  | [] => []
  | available :: later =>
      let size := min (replyBufferSize - 1) available
      stream.take size :: segments (stream.drop size) later

def stops (held buffer : Text) : Bool := hasErr held ∨ (hasOk held ∧ seesLineEnd buffer)

-- The reader stops at the segment that completes the reply and at no other,
-- and only when there is a status word to stop for.
@[grind =] def DecidesAtTheEnd (held : Text) : List Text → Prop
  | [] => True
  | segment :: later =>
      (segment ≠ [] → (stops (held ++ segment) segment ↔
        later.flatten = [] ∧ (hasErr (held ++ segment) ∨ hasOk (held ++ segment)))) ∧
      DecidesAtTheEnd (held ++ segment) later

instance decidableDecides (held : Text) (later : List Text) : Decidable (DecidesAtTheEnd held later) :=
  match later with
  | [] => .isTrue trivial
  | segment :: rest => @instDecidableAnd _ _ inferInstance (decidableDecides (held ++ segment) rest)

def wholeSuccess (text : Text) : Bool := hasOk text ∧ ¬ hasErr text

theorem whole_success_of_clean (text : Text) (clean : hasErr text = false) : wholeSuccess text = hasOk text := by
  simp [wholeSuccess, clean]

variable (held : Text)

theorem stops_of_idle (clean : hasErr held = false) : stops held [] = false := by
  simp [stops, clean, seesLineEnd]

variable (other : OtherCommands) (session : TextSession) (stream : Text) (available : Nat)

theorem reply_loop_arrived (later : List Poll) :
    replyLoop session stream (.arrived available :: later) =
      let size := min (replyBufferSize - 1) available
      let held := { session with strResponse := session.strResponse ++ stream.take size }
      if stops held.strResponse (stream.take size) then ⟨wholeSuccess held.strResponse, held, stream.drop size⟩
      else replyLoop held (stream.drop size) later := by
  simp only [replyLoop]
  generalize stream.take (min (replyBufferSize - 1) available) = buffer
  by_cases failed : hasErr (session.strResponse ++ buffer)
  · simp [failed, stops, wholeSuccess]
  · by_cases finished : hasOk (session.strResponse ++ buffer) ∧ seesLineEnd buffer
    · simp [failed, finished, stops, wholeSuccess]
    · have going : stops (session.strResponse ++ buffer) buffer = false := by
        simp only [stops, failed, finished]
        rfl
      rw [if_neg failed, if_neg finished, going]
      rfl

variable (cmd : Text) (lines : List Text) (counts : List Nat)

theorem reply_loop_conserves :
    ∃ read, read ++ (replyLoop session stream (counts.map .arrived)).stream = stream ∧
      (replyLoop session stream (counts.map .arrived)).session =
        { session with strResponse := session.strResponse ++ read } := by
  induction counts generalizing session stream with
  | nil => exact ⟨[], rfl, by simp [replyLoop]⟩
  | cons available later ih =>
      let size := min (replyBufferSize - 1) available
      have whole : stream.take size ++ stream.drop size = stream := List.take_append_drop size stream
      rw [List.map_cons, reply_loop_arrived]
      by_cases stopped : stops (session.strResponse ++ stream.take size) (stream.take size)
      · rw [if_pos stopped]
        exact ⟨stream.take size, whole, rfl⟩
      · rw [if_neg stopped]
        obtain ⟨read, rest, ended⟩ :=
          ih { session with strResponse := session.strResponse ++ stream.take size } (stream.drop size)
        refine ⟨stream.take size ++ read, ?_, ?_⟩
        · rw [List.append_assoc, rest, whole]
        · rw [ended, List.append_assoc]

theorem segments_drop (later : List Nat)
    (arrives : (segments stream (available :: later)).flatten = stream) :
    (segments (stream.drop (min (replyBufferSize - 1) available)) later).flatten =
      stream.drop (min (replyBufferSize - 1) available) := by
  rw [segments, List.flatten_cons] at arrives
  exact List.append_cancel_left (arrives.trans (List.take_append_drop _ stream).symm)

theorem decides_nothing_left : DecidesAtTheEnd held (segments [] counts) := by
  induction counts generalizing held with
  | nil => exact trivial
  | cons available later ih =>
      simp only [segments, List.take_nil, List.drop_nil, DecidesAtTheEnd]
      exact ⟨fun nonempty => absurd rfl nonempty, ih _⟩

theorem reply_loop_whole_iff (clean : hasErr session.strResponse = false) (arrives : (segments stream counts).flatten = stream) :
    ((replyLoop session stream (counts.map .arrived)).success = wholeSuccess (session.strResponse ++ stream) ∧
        (replyLoop session stream (counts.map .arrived)).stream = []) ↔
      (stream = [] → hasOk session.strResponse = false) ∧
        DecidesAtTheEnd session.strResponse (segments stream counts) := by
  induction counts generalizing session stream with
  | nil =>
      have nothing : stream = [] := arrives.symm
      subst nothing
      rw [List.append_nil, whole_success_of_clean _ clean]
      exact ⟨fun outcome => ⟨fun _ => outcome.1.symm, trivial⟩, fun quiet => ⟨(quiet.1 rfl).symm, rfl⟩⟩
  | cons available later ih =>
      have drops := segments_drop stream available later arrives
      rw [List.map_cons, reply_loop_arrived, segments]
      simp only [DecidesAtTheEnd]
      rw [drops]
      generalize size_eq : min (replyBufferSize - 1) available = size
      rw [size_eq] at drops
      have whole : stream.take size ++ stream.drop size = stream := List.take_append_drop size stream
      generalize buffer_eq : stream.take size = buffer
      generalize rest_eq : stream.drop size = rest
      rw [buffer_eq, rest_eq] at whole
      rw [rest_eq] at drops
      by_cases idle : buffer = []
      · subst idle
        have same : rest = stream := whole
        subst same
        simp only [List.append_nil]
        rw [if_neg (by rw [stops_of_idle _ clean]; decide), ih session rest clean drops]
        exact ⟨fun quiet => ⟨quiet.1, fun nonempty => absurd rfl nonempty, quiet.2⟩, fun quiet => ⟨quiet.1, quiet.2.2⟩⟩
      · have started : (stream = [] → hasOk session.strResponse = false) ↔ True := by
          refine iff_true_intro (fun empty => ?_)
          rw [empty] at whole
          exact absurd (List.append_eq_nil_iff.mp whole).1 idle
        rw [started, true_and, ← whole, ← List.append_assoc]
        by_cases stopped : stops (session.strResponse ++ buffer) buffer
        · rw [if_pos stopped]
          constructor
          · intro outcome
            have ended : rest = [] := outcome.2
            have word : hasErr (session.strResponse ++ buffer) ∨ hasOk (session.strResponse ++ buffer) := by
              simp only [stops, decide_eq_true_eq] at stopped
              exact stopped.imp_right And.left
            subst ended
            exact ⟨fun _ => ⟨fun _ => ⟨rfl, word⟩, fun _ => stopped⟩, decides_nothing_left _ _⟩
          · intro decides
            have ended : rest = [] := ((decides.1 idle).mp stopped).1
            subst ended
            exact ⟨by rw [List.append_nil], rfl⟩
        · have clear : hasErr (session.strResponse ++ buffer) = false := by
            simp only [stops, decide_eq_true_eq] at stopped
            exact Bool.eq_false_iff.mpr (fun failed => stopped (Or.inl failed))
          rw [if_neg stopped, ih { session with strResponse := session.strResponse ++ buffer } rest clear drops]
          refine and_congr_left (fun _ => ?_)
          constructor
          · intro quiet _
            refine ⟨fun stop => absurd stop stopped, fun finished => ?_⟩
            rw [clear, quiet finished.1] at finished
            exact absurd finished.2 (by decide)
          · intro decides ended
            refine Bool.eq_false_iff.mpr (fun word => ?_)
            exact stopped ((decides idle).mpr ⟨ended, Or.inr word⟩)

-- The bytes of complete lines; a carriage return before the line feed belongs to the line.
def replyText (lines : List Text) : Text := lines.flatMap (· ++ ['\n'])

def replyLines (lines : List Text) : List Text := (lines.map trim).filter (· ≠ [])

theorem reply_text_split (single : ∀ line ∈ lines, '\n' ∉ line) :
    (replyText lines).splitOn '\n' = lines ++ [[]] := by
  induction lines with
  | nil => rfl
  | cons line rest ih =>
      have later := ih (fun other member => single other (List.mem_cons_of_mem _ member))
      have joined : replyText (line :: rest) = line ++ '\n' :: replyText rest := by simp [replyText]
      rw [joined, List.splitOn_append_cons_self_of_not_mem (single line List.mem_cons_self), later]
      rfl

theorem reply_text_rest : (replyText lines).rtakeWhile (· ≠ '\n') = [] := by
  cases lines.eq_nil_or_concat with
  | inl empty => rw [empty]; rfl
  | inr last =>
      obtain ⟨front, line, split⟩ := last
      have joined : replyText lines = (replyText front ++ line) ++ ['\n'] := by
        rw [split]
        simp [replyText]
      rw [joined]
      exact List.rtakeWhile_concat_neg _ _ _ (by decide)

theorem add_reply_lines (single : ∀ line ∈ lines, '\n' ∉ line)
    (buffered : session.strResponse = replyText lines) :
    addInputStringArrayFromReply session =
      { session with strResponse := [], inputStrArray := session.inputStrArray ++ replyLines lines } := by
  by_cases empty : replyText lines = []
  · have none : lines = [] := by
      cases lines with
      | nil => rfl
      | cons line rest => simp [replyText] at empty
    subst none
    have same : { session with strResponse := [] } = session := by rw [← empty, ← buffered]
    rw [addInputStringArrayFromReply, buffered, if_pos empty, replyLines, List.map_nil, List.filter_nil, List.append_nil]
    exact same.symm
  · rw [addInputStringArrayFromReply, buffered, if_neg empty, reply_text_rest]
    simp only [List.length_nil, Nat.sub_zero, List.take_length, split, if_neg empty, reply_text_split lines single]
    rw [List.map_append, List.filter_append]
    simp [replyLines, trim]

def wholeReply (session : TextSession) (lines : List Text) : CommandResult :=
  ⟨if wholeSuccess (replyText lines) then .ok () else .error .error,
    { session with strResponse := [], inputStrArray := replyLines lines }, []⟩

def TextCommand (session : TextSession) (cmd : Text) : Prop :=
  session.connected ∧ ¬ session.binaryMode ∧ ¬ (session.modeReceiveLoop ∧ session.singleChannelReceiveLoop) ∧
    makeUpper (trim cmd) ≠ ['B', 'I', 'N', 'A', 'R', 'Y']

theorem do_command_reply (cmd stream : Text) (counts : List Nat)
    (ordinary : TextCommand session cmd) :
    doCommand other session cmd (.ok ()) stream (counts.map .arrived) =
      let reply := replyLoop (clrInputQueue session) stream (counts.map .arrived)
      ⟨if reply.success then .ok () else .error .error, addInputStringArrayFromReply reply.session, reply.stream⟩ := by
  obtain ⟨connected, text, single, word⟩ := ordinary
  have up : (clrInputQueue session).connected = true := connected
  have mode : (clrInputQueue session).binaryMode ≠ true := text
  rw [doCommand, if_neg text]
  simp only [if_neg word, if_neg single, up, not_true_eq_false, if_false, checkReturnValueForCommand, if_neg mode]
  rfl

theorem command_reply_of_decides (ordinary : TextCommand session cmd) (single : ∀ line ∈ lines, '\n' ∉ line)
    (arrives : (segments (replyText lines) counts).flatten = replyText lines)
    (decides : DecidesAtTheEnd [] (segments (replyText lines) counts)) :
    doCommand other session cmd (.ok ()) (replyText lines) (counts.map .arrived) = wholeReply session lines := by
  have decision := reply_loop_whole_iff (clrInputQueue session) (replyText lines) counts rfl arrives
  obtain ⟨read, split, ended⟩ := reply_loop_conserves (clrInputQueue session) (replyText lines) counts
  obtain ⟨success, empty⟩ := decision.mpr ⟨fun _ => rfl, decides⟩
  rw [do_command_reply other session cmd (replyText lines) counts ordinary]
  have all : read = replyText lines := by rw [empty, List.append_nil] at split; exact split
  have buffered := add_reply_lines { clrInputQueue session with strResponse := read } lines single all
  simp only [success, empty, ended, wholeReply]
  rw [show (clrInputQueue session).strResponse ++ read = read from rfl, buffered]
  rfl

theorem decides_of_command_reply (ordinary : TextCommand session cmd)
    (arrives : (segments (replyText lines) counts).flatten = replyText lines)
    (outcome : doCommand other session cmd (.ok ()) (replyText lines) (counts.map .arrived) = wholeReply session lines) :
    DecidesAtTheEnd [] (segments (replyText lines) counts) := by
  have decision := reply_loop_whole_iff (clrInputQueue session) (replyText lines) counts rfl arrives
  rw [do_command_reply other session cmd (replyText lines) counts ordinary] at outcome
  refine (decision.mp ⟨?_, congrArg CommandResult.stream outcome⟩).2
  have result := congrArg CommandResult.result outcome
  rw [show (clrInputQueue session).strResponse ++ replyText lines = replyText lines from rfl]
  simp only [wholeReply] at result
  cases succeeded : (replyLoop (clrInputQueue session) (replyText lines) (counts.map .arrived)).success <;>
    cases expected : wholeSuccess (replyText lines) <;> simp [succeeded, expected] at result ⊢

theorem command_reply_whole_iff (other : OtherCommands) (session : TextSession) (cmd : Text) (lines : List Text)
    (counts : List Nat) (ordinary : TextCommand session cmd) (single : ∀ line ∈ lines, '\n' ∉ line)
    (arrives : (segments (replyText lines) counts).flatten = replyText lines) :
    doCommand other session cmd (.ok ()) (replyText lines) (counts.map .arrived) = wholeReply session lines ↔
      DecidesAtTheEnd [] (segments (replyText lines) counts) :=
  ⟨decides_of_command_reply other session cmd lines counts ordinary arrives,
    command_reply_of_decides other session cmd lines counts ordinary single arrives⟩

def oneEvent : List Text :=
  [['1', '\r'], ['+', 'O', 'K', ' ', '-', ' ', 'S', 'u', 'c', 'c', 'e', 's', 's', '\r']]

def fiveEvents : List Text := ['5', '\r'] :: oneEvent.drop 1

def freshSession : TextSession := ⟨⟨true, false, []⟩, false, false, [], []⟩

def noOthers : OtherCommands where
  doCmdBinary session stream := ⟨.error .error, session, stream⟩
  doSingleChannelCommand session _ _ stream := ⟨.error .error, session, stream⟩
  receiveBinaryEvent session stream := (.error .error, session, stream)

theorem command_reply_whole_iff_example :
    doCommand noOthers freshSession cdta (.ok ()) (replyText oneEvent) ([3, 0, 4, 30].map .arrived) =
      wholeReply freshSession oneEvent :=
  (command_reply_whole_iff noOthers freshSession cdta oneEvent [3, 0, 4, 30] (by unfold TextCommand; decide) (by decide)
    (by decide)).mpr (by decide)

-- A segment that ends inside the status line still shows the line end of the data line
-- before it: the reader stops there, and the next command reads the rest as its reply.
theorem status_line_cut_spills :
    let whole := doCommand noOthers freshSession cdta (.ok ()) (replyText oneEvent) [.arrived 30]
    let cut := doCommand noOthers freshSession cdta (.ok ()) (replyText oneEvent) [.arrived 6, .arrived 30]
    let next := cut.stream ++ replyText fiveEvents
    whole.stream = [] ∧ whole.session.inputStrArray.length = 2 ∧
      cut.stream = [' ', '-', ' ', 'S', 'u', 'c', 'c', 'e', 's', 's', '\r', '\n'] ∧
      cut.session.inputStrArray = [['1']] ∧ cut.session.strResponse = ['+', 'O', 'K'] ∧
      (doCmdDataAvailable noOthers cut.session (.ok ()) next [.arrived 12, .arrived 30]).1 = 0 ∧
      (doCmdDataAvailable noOthers whole.session (.ok ()) (whole.stream ++ replyText fiveEvents) [.arrived 30]).1 = 5 := by
  decide


end Vscp.RemoteTcp
