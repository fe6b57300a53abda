import Vscp.EventText
import Vscp.Lib.Fifo
import Vscp.Lib.Run

set_option autoImplicit false

namespace Vscp.SingleChannel

open RemoteTcp (Text TextSession isSpace trim addInputStringArrayFromReply replyText)

-- Where the reader thread is. It has taken `holding line` out of the buffer and not looked at it yet.
inductive Phase
  | head
  | reading
  | scanning
  | holding (line : Text)
  | handled
  | sizing
  | ending
  | finished
deriving DecidableEq

inductive Caller
  | entered
  | admitted
  | writing (id : Nat)
  | closing (id : Nat)
  | waiting (id : Nat)
  | timedOut (id : Nat)
deriving DecidableEq

-- In the results none stands for VSCP_ERROR_SUCCESS. The commands are numbered as they become pending.
structure World where
  session : TextSession
  readerStop : Bool
  joinable : Bool
  readerError : Option VscpError
  commandPending : Bool
  commandComplete : Bool
  commandResult : Option VscpError
  commandResponse : Text
  inputBuffer : Text
  eventQueue : List Text
  phase : Phase
  caller : Option Caller
  issued : Nat

inductive Cause
  | invalidLine (line : Text)
  | oversized
  | readFailed
  | writeFailed
  | timedOut
  | closed
deriving DecidableEq

inductive Output
  | received (segment : Text)
  | line (line : Text)
  | queued (event : Text)
  | handed (event : Text)
  | cleared (event : Text)
  | issued (id : Nat)
  | refused (code : VscpError)
  | returned (id : Nat) (result : Option VscpError) (response : Text)
  | stopped (cause : Cause)
deriving DecidableEq

def ok : Text := ['+', 'O', 'K']
def crlf : Text := ['\r', '\n']
def noop : Text := ['N', 'O', 'O', 'P']
def clra : Text := ['C', 'L', 'R', 'A']
def quitloop : Text := ['Q', 'U', 'I', 'T', 'L', 'O', 'O', 'P']
def send : Text := ['S', 'E', 'N', 'D']
def maxLine : Nat := 65536

def isSingleChannelCommandAllowed (command : Text) : Bool :=
  if '\r' ∈ command ∨ '\n' ∈ command then false
  else if command = noop ∨ command = clra ∨ command = quitloop then true
  else command.length > 5 ∧ command.take 4 = send ∧ (command[4]?).any isSpace

def terminated (cmd : Text) : Bool :=
  let tail := cmd.dropWhile fun letter => letter ≠ '\r' ∧ letter ≠ '\n'
  tail ≠ [] ∧ tail.all fun letter => letter = '\r' ∨ letter = '\n' ∨ letter = ' ' ∨ letter = '\t'

def successResponse (line : Text) : Bool := line.take 4 = ok ++ [' ']
def errorResponse (line : Text) : Bool := line.take 3 = ['-', 'O', 'K'] ∨ line.take 4 = ['+', 'E', 'R', 'R']
def isResponse (line : Text) : Bool := successResponse line ∨ errorResponse line
def isBlank (line : Text) : Bool := line = [] ∨ line = ok

def verdict (line : Text) : Option VscpError := if successResponse line then none else some .error

def completePending (world : World) (code : VscpError) : World :=
  if world.commandPending then
    { world with commandPending := false, commandComplete := true, commandResult := some code }
  else world

-- Only a command that is pending gets the line, and only one line.
def takeResponse (world : World) (responseLine : Text) : World :=
  if world.commandPending then
    { world with
      commandResponse := world.commandResponse ++ responseLine ++ crlf
      commandPending := false
      commandComplete := true
      commandResult := verdict responseLine }
  else world

variable (clock : Clock)

def parsesAsEvent (line : Text) : Bool := (convertStringToEvent clock emptyEvent line).isSome

def processSingleChannelLine (world : World) (line : Text) : World × List Output :=
  let responseLine := trim line
  if isBlank responseLine then (world, [.line line])
  else if isResponse responseLine then
    (takeResponse world responseLine, [.line line])
  else if parsesAsEvent clock responseLine then
    ({ world with eventQueue := world.eventQueue ++ [responseLine] }, [.line line, .queued responseLine])
  else
    (completePending { world with readerError := some .read, readerStop := true } .read,
      [.line line, .stopped (.invalidLine line)])

-- What transportRead answers: at most 8192 bytes, or a failure other than a timeout.
inductive Received
  | timeout
  | arrived (segment : Text)
  | failed (code : VscpError)

-- The next thing the reader thread does that another thread can see.
def readerTurn (world : World) (received : Received) : World × List Output :=
  match world.phase with
  | .head => ({ world with phase := if world.readerStop then .ending else .reading }, [])
  | .reading =>
      match received with
      | .timeout => ({ world with phase := .head }, [])
      | .arrived [] => ({ world with phase := .head }, [])
      | .arrived segment =>
          ({ world with inputBuffer := world.inputBuffer ++ segment.take 8192, phase := .scanning },
            [.received (segment.take 8192)])
      | .failed code =>
          let failure := world.readerError.getD (if code = .stopped then .stopped else .error)
          (completePending { world with readerError := some failure, phase := .ending } failure, [.stopped .readFailed])
  | .scanning =>
      if '\n' ∈ world.inputBuffer then
        ({ world with
            inputBuffer := (world.inputBuffer.dropWhile (· ≠ '\n')).drop 1
            phase := .holding (world.inputBuffer.takeWhile (· ≠ '\n')) }, [])
      else ({ world with phase := .sizing }, [])
  | .holding line => processSingleChannelLine clock { world with phase := .handled } line
  | .handled => ({ world with phase := if world.readerStop then .sizing else .scanning }, [])
  | .sizing =>
      if world.inputBuffer.length > maxLine then
        (completePending { world with readerError := some .invalidFrame, readerStop := true, phase := .head } .invalidFrame,
          [.stopped .oversized])
      else ({ world with phase := .head }, [])
  | .ending => (completePending { world with phase := .finished } (world.readerError.getD .stopped), [])
  | .finished => (world, [])

def transportClosed (world : World) : World :=
  let code := world.readerError.getD .stopped
  let world := completePending { world with joinable := false, readerError := some code } code
  { world with session := { world.session with connected := false } }

def joined (world : World) : Bool := world.phase = .finished ∨ ¬ world.joinable

def doSingleChannelCommand (world : World) (cmd command : Text) : World × List Output :=
  if ¬ isSingleChannelCommandAllowed command then (world, [.refused .parameter])
  else if ¬ terminated cmd then (world, [.refused .parameter])
  else if world.caller ≠ none then (world, [])
  else ({ world with caller := some .entered }, [])

def storeResponse (session : TextSession) (response : Text) : TextSession :=
  if response = [] then session
  else addInputStringArrayFromReply { session with strResponse := response, inputStrArray := [] }

-- `written` is the answer of transportWrite, `expired` whether the deadline has passed.
def callerTurn (world : World) (written expired : Bool) : World × List Output :=
  match world.caller with
  | none => (world, [])
  | some .entered =>
      if ¬ world.session.connected then ({ world with caller := none }, [.refused .connection])
      else ({ world with caller := some .admitted }, [])
  | some .admitted =>
      if world.readerError ≠ none ∨ world.readerStop ∨ ¬ world.joinable then
        ({ world with caller := none }, [.refused (world.readerError.getD .stopped)])
      else
        ({ world with
            commandResponse := []
            commandComplete := false
            commandPending := true
            caller := some (.writing world.issued)
            issued := world.issued + 1 }, [.issued world.issued])
  | some (.writing id) =>
      if written then ({ world with caller := some (.waiting id) }, [])
      else ({ world with readerStop := true, caller := some (.closing id) }, [.stopped .writeFailed])
  | some (.closing id) =>
      if joined world then
        ({ transportClosed world with commandPending := false, commandComplete := false, caller := none },
          [.returned id (some .error) []])
      else (world, [])
  | some (.waiting id) =>
      if world.commandComplete then
        ({ world with
            commandComplete := false
            commandResponse := []
            session := storeResponse world.session world.commandResponse
            caller := none }, [.returned id world.commandResult world.commandResponse])
      else if world.readerError ≠ none ∨ world.readerStop then
        ({ world with caller := none }, [.returned id (some (world.readerError.getD .stopped)) []])
      else if expired then
        ({ world with
            commandPending := false
            commandComplete := false
            readerError := some .timeout
            readerStop := true
            caller := some (.timedOut id) }, [.stopped .timedOut])
      else (world, [])
  | some (.timedOut id) =>
      if joined world then
        let closed := transportClosed world
        ({ closed with session := { closed.session with modeReceiveLoop := false }, caller := none },
          [.returned id (some .timeout) []])
      else (world, [])

-- `handEvent` is doCmdBlockingReceive, `clear` doCmdClear; another thread may close the transport.
inductive Step
  | reader (received : Received)
  | call (cmd command : Text)
  | caller (written expired : Bool)
  | handEvent
  | clear
  | stopReader
  | closeTransport

def step (world : World) : Step → World × List Output
  | .reader received => readerTurn clock world received
  | .call cmd command => doSingleChannelCommand world cmd command
  | .caller written expired => callerTurn world written expired
  | .handEvent =>
      match world.eventQueue with
      | [] => (world, [])
      | event :: rest => ({ world with eventQueue := rest }, [.handed event])
  | .clear => ({ world with eventQueue := [] }, world.eventQueue.map .cleared)
  | .stopReader => ({ world with readerStop := true }, [.stopped .closed])
  | .closeTransport => if world.readerStop ∧ joined world then (transportClosed world, []) else (world, [])

def idleWorld (session : TextSession) : World where
  session := { session with strResponse := [], inputStrArray := [] }
  readerStop := false
  joinable := true
  readerError := none
  commandPending := false
  commandComplete := false
  commandResult := none
  commandResponse := []
  inputBuffer := session.strResponse
  eventQueue := []
  phase := .head
  caller := none
  issued := 0

-- The lines that have come with the reply to RCVLOOP are looked at before the thread starts.
def startSingleChannelReader (session : TextSession) : Option World :=
  let world := session.inputStrArray.foldl (fun world line => (processSingleChannelLine clock world line).1)
    (idleWorld session)
  if world.readerError ≠ none then none else some world

end Vscp.SingleChannel
