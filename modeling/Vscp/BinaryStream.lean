import Vscp.Lib.Reassembly
import Vscp.Event

set_option autoImplicit false

namespace Vscp.RemoteTcp

open Reassembly

structure Session where
  connected : Bool
  binaryMode : Bool
  binaryInput : Bytes
deriving DecidableEq

def packet (frame : Bytes) : Bytes := UInt8.ofNat (frame.length >>> 8) :: UInt8.ofNat frame.length :: frame

-- `written` is the answer of transportWrite; the packet is on the stream when it succeeds.
def sendBinaryFrame (session : Session) (written : Except VscpError Unit) (frame : Bytes) : Except VscpError Bytes :=
  if ¬ session.connected then .error .connection
  else if ¬ session.binaryMode ∨ frame = [] ∨ frame.length > 65535 then .error .parameter
  else
    match written with
    | .error code => .error code
    | .ok _ => .ok (packet frame)

inductive InputState
  | invalid
  | complete (frame : Bytes)
  | wants (count : Nat)
deriving DecidableEq

-- The head of the receive loop: a 16-bit length, then that many bytes.
def inputState (input : Bytes) : InputState :=
  if input.length < 2 then .wants (2 - input.length)
  else
    let length := (input.getD 0 0).toNat <<< 8 ||| (input.getD 1 0).toNat
    if length = 0 then .invalid
    else if input.length = 2 + length then .complete (input.drop 2)
    else .wants (2 + length - input.length)

-- One answer of transportRead: a prefix of the `available` bytes, none when nothing
-- has arrived, with the state of the deadline after the call; or an error.
inductive Turn
  | arrived (available : Nat) (expired : Bool)
  | failed
deriving DecidableEq

inductive Received
  | frame (bytes : Bytes)
  | error (code : VscpError)
  | waiting
deriving DecidableEq

def Received.frame? : Received → Option Bytes
  | .frame bytes => some bytes
  | _ => none

structure ReceiveResult where
  received : Received
  session : Session
  stream : Bytes
deriving DecidableEq

def readBufferSize : Nat := 8192

def receiveLoop (session : Session) (stream : Bytes) (turns : List Turn) : ReceiveResult :=
  match inputState session.binaryInput, turns with
  | .invalid, _ => ⟨.error .invalidFrame, { session with connected := false, binaryInput := [] }, stream⟩
  | .complete frame, _ => ⟨.frame frame, { session with binaryInput := [] }, stream⟩
  | .wants _, [] => ⟨.waiting, session, stream⟩
  | .wants _, .failed :: _ => ⟨.error .stopped, { session with connected := false, binaryInput := [] }, stream⟩
  | .wants count, .arrived available expired :: rest =>
      let asked := min (min readBufferSize count) available
      if stream.take asked ≠ [] then
        receiveLoop { session with binaryInput := session.binaryInput ++ stream.take asked } (stream.drop asked) rest
      else if expired then ⟨.error .timeout, session, stream⟩
      else receiveLoop session stream rest
termination_by structural turns

def receiveBinaryFrame (session : Session) (stream : Bytes) (turns : List Turn) : ReceiveResult :=
  if ¬ session.connected then ⟨.error .connection, session, stream⟩
  else if ¬ session.binaryMode then ⟨.error .parameter, session, stream⟩
  else receiveLoop session stream turns

def receiveCalls (session : Session) (stream : Bytes) : List (List Turn) → List Received × Session × Bytes
  | [] => ([], session, stream)
  | turns :: calls =>
      let result := receiveBinaryFrame session stream turns
      let later := receiveCalls result.session result.stream calls
      (result.received :: later.1, later.2)

def sendFrames (session : Session) (frames : List Bytes) : Except VscpError Bytes :=
  match frames with
  | [] => .ok []
  | frame :: rest => do
      let sent ← sendBinaryFrame session (.ok ()) frame
      let later ← sendFrames session rest
      .ok (sent ++ later)

def SendableFrame (frame : Bytes) : Prop := frame ≠ [] ∧ frame.length ≤ 65535

theorem header_length (length : Nat) (fits : length ≤ 65535) :
    (UInt8.ofNat (length >>> 8)).toNat <<< 8 ||| (UInt8.ofNat length).toNat = length := by
  have low : (UInt8.ofNat length).toNat < 2 ^ 8 := UInt8.toNat_lt _
  rw [← Nat.shiftLeft_add_eq_or_of_lt low, UInt8.toNat_ofNat', UInt8.toNat_ofNat', Nat.shiftRight_eq_div_pow,
    Nat.shiftLeft_eq]
  omega

theorem input_complete (frame : Bytes) (sendable : SendableFrame frame) : inputState (packet frame) = .complete frame := by
  have positive : 0 < frame.length := List.length_pos_iff.mpr sendable.1
  have header := header_length frame.length sendable.2
  have total : (packet frame).length = frame.length + 2 := rfl
  rw [inputState, total, if_neg (by omega)]
  simp only [packet, List.getD_cons_zero, List.getD_cons_succ, header]
  rw [if_neg (by omega), if_pos (by omega)]
  rfl

theorem input_wants (frame held back : Bytes) (sendable : SendableFrame frame) (front : packet frame = held ++ back)
    (more : back ≠ []) : ∃ count, inputState held = .wants count ∧ 0 < count ∧ count ≤ back.length := by
  have positive : 0 < back.length := List.length_pos_iff.mpr more
  have payload : 0 < frame.length := List.length_pos_iff.mpr sendable.1
  have header := header_length frame.length sendable.2
  have total : held.length + back.length = frame.length + 2 := by
    rw [← List.length_append, ← front]
    rfl
  by_cases short : held.length < 2
  · exact ⟨2 - held.length, by rw [inputState, if_pos short], by omega, by omega⟩
  · refine ⟨2 + frame.length - held.length, ?_, by omega, by omega⟩
    have byte (i : Nat) (inside : i < 2) : held.getD i 0 = (packet frame).getD i 0 := by
      rw [front, List.getD_eq_getElem?_getD, List.getD_eq_getElem?_getD, List.getElem?_append_left (by omega)]
    rw [inputState, if_neg short, byte 0 (by decide), byte 1 (by decide)]
    simp only [packet, List.getD_cons_zero, List.getD_cons_succ, header]
    rw [if_neg (by omega), if_neg (by omega)]

def binaryFormat : Format UInt8 Bytes where
  encode := packet
  missing input :=
    match inputState input with
    | .wants count => count
    | _ => 0

theorem binary_format_lawful : binaryFormat.Lawful SendableFrame where
  nonempty _ _ := List.cons_ne_nil _ _
  asks frame held back sendable front more := by
    obtain ⟨count, state, positive, room⟩ := input_wants frame held back sendable front more
    have missing : binaryFormat.missing held = count := by simp only [binaryFormat, state]
    rw [missing]
    exact ⟨positive, room⟩

def Delivers (pending : List Bytes) (result : ReceiveResult) : Prop :=
  (∃ frame rest, pending = frame :: rest ∧ result.received = .frame frame ∧
      Holds binaryFormat rest result.session.binaryInput result.stream) ∨
    ((result.received = .error .timeout ∨ result.received = .waiting) ∧
      Holds binaryFormat pending result.session.binaryInput result.stream)

variable (session : Session) (stream : Bytes)

variable (turns : List Turn) (frame : Bytes)

theorem receive_loop_complete (sendable : SendableFrame frame) (input : session.binaryInput = packet frame) :
    receiveLoop session stream turns = ⟨.frame frame, { session with binaryInput := [] }, stream⟩ := by
  have state := input_complete frame sendable
  rw [← input] at state
  unfold receiveLoop
  rw [state]

variable (pending : List Bytes)

theorem holding_wants (input stream : Bytes) (sendable : ∀ frame ∈ pending, SendableFrame frame)
    (holds : Holds binaryFormat pending input stream) :
    ∃ count, inputState input = .wants count ∧ 0 < count ∧ binaryFormat.missing input = count := by
  have found : ∃ count, inputState input = .wants count ∧ 0 < count := by
    cases pending with
    | nil => exact ⟨2, by rw [holds.1]; rfl, by decide⟩
    | cons frame rest =>
        obtain ⟨back, more, front, _⟩ := holds
        obtain ⟨count, state, positive, _⟩ := input_wants frame input back (sendable frame List.mem_cons_self) front more
        exact ⟨count, state, positive⟩
  obtain ⟨count, state, positive⟩ := found
  exact ⟨count, state, positive, by simp only [binaryFormat, state]⟩

theorem receive_loop_delivers (sendable : ∀ frame ∈ pending, SendableFrame frame) (working : Turn.failed ∉ turns)
    (holds : Holds binaryFormat pending session.binaryInput stream) :
    Delivers pending (receiveLoop session stream turns) ∧
      (receiveLoop session stream turns).session.connected = session.connected ∧
      (receiveLoop session stream turns).session.binaryMode = session.binaryMode := by
  induction turns generalizing session stream with
  | nil =>
      obtain ⟨count, state, _⟩ := holding_wants pending session.binaryInput stream sendable holds
      unfold receiveLoop
      rw [state]
      exact ⟨Or.inr ⟨Or.inr rfl, holds⟩, rfl, rfl⟩
  | cons turn rest ih =>
      have workingRest : Turn.failed ∉ rest := fun member => working (List.mem_cons_of_mem _ member)
      obtain ⟨count, state, positive, missing⟩ := holding_wants pending session.binaryInput stream sendable holds
      cases turn with
      | failed => exact absurd List.mem_cons_self working
      | arrived available expired =>
          unfold receiveLoop
          rw [state]
          dsimp only
          generalize asking : min (min readBufferSize count) available = asked
          have bounded : asked ≤ binaryFormat.missing session.binaryInput := by omega
          by_cases nothing : stream.take asked = []
          · rw [if_neg (not_not.mpr nothing)]
            by_cases deadline : expired
            · rw [if_pos deadline]
              exact ⟨Or.inr ⟨Or.inl rfl, holds⟩, rfl, rfl⟩
            · rw [if_neg deadline]
              exact ih session stream workingRest holds
          · rw [if_pos nothing]
            cases pending with
            | nil =>
                rw [holds.2] at nothing
                exact absurd List.take_nil nothing
            | cons frame later =>
                rcases holds_read binary_format_lawful frame later _ stream asked sendable holds bounded with
                  ⟨whole, between⟩ | inside
                · rw [receive_loop_complete _ _ _ frame (sendable frame List.mem_cons_self) whole]
                  exact ⟨Or.inl ⟨frame, later, rfl, rfl, between⟩, rfl, rfl⟩
                · exact ih _ _ workingRest inside

theorem receive_calls_deliver (calls : List (List Turn)) (pending : List Bytes)
    (connected : session.connected = true) (binary : session.binaryMode = true)
    (sendable : ∀ frame ∈ pending, SendableFrame frame) (working : ∀ turns ∈ calls, Turn.failed ∉ turns)
    (holds : Holds binaryFormat pending session.binaryInput stream) :
    let out := receiveCalls session stream calls
    ∃ rest, pending = out.1.filterMap Received.frame? ++ rest ∧
      Holds binaryFormat rest out.2.1.binaryInput out.2.2 ∧ out.2.1.connected = true ∧ out.2.1.binaryMode = true ∧
      ∀ received ∈ out.1, received = .error .timeout ∨ received = .waiting ∨ ∃ frame ∈ pending, received = .frame frame := by
  induction calls generalizing session stream pending with
  | nil => exact ⟨pending, rfl, holds, connected, binary, by simp [receiveCalls]⟩
  | cons turns calls ih =>
      have here : receiveBinaryFrame session stream turns = receiveLoop session stream turns := by
        rw [receiveBinaryFrame, if_neg (not_not.mpr connected), if_neg (not_not.mpr binary)]
      obtain ⟨delivers, stillConnected, stillBinary⟩ := receive_loop_delivers session stream turns pending sendable
        (working turns List.mem_cons_self) holds
      have workingRest : ∀ turns ∈ calls, Turn.failed ∉ turns := fun other member =>
        working other (List.mem_cons_of_mem _ member)
      rw [← here] at delivers stillConnected stillBinary
      rw [connected] at stillConnected
      rw [binary] at stillBinary
      dsimp only
      rw [receiveCalls]
      dsimp only
      rcases delivers with ⟨frame, later, rfl, received, between⟩ | ⟨quiet, inside⟩
      · obtain ⟨rest, split, held, up, mode, kinds⟩ := ih _ _ later stillConnected stillBinary
          (fun other member => sendable other (List.mem_cons_of_mem _ member)) workingRest between
        refine ⟨rest, ?_, held, up, mode, ?_⟩
        · have shown : Received.frame? (.frame frame) = some frame := rfl
          rw [received, List.filterMap_cons_some shown, List.cons_append, ← split]
        · intro outcome member
          rcases List.mem_cons.mp member with first | behind
          · exact Or.inr (Or.inr ⟨frame, List.mem_cons_self, first.trans received⟩)
          · rcases kinds outcome behind with timeout | waiting | ⟨other, inLater, same⟩
            · exact Or.inl timeout
            · exact Or.inr (Or.inl waiting)
            · exact Or.inr (Or.inr ⟨other, List.mem_cons_of_mem _ inLater, same⟩)
      · obtain ⟨rest, split, held, up, mode, kinds⟩ := ih _ _ pending stillConnected stillBinary sendable workingRest inside
        refine ⟨rest, ?_, held, up, mode, ?_⟩
        · have silent : (receiveBinaryFrame session stream turns).received.frame? = none := by
            rcases quiet with timeout | waiting
            · rw [timeout]
              rfl
            · rw [waiting]
              rfl
          rw [List.filterMap_cons_none silent]
          exact split
        · intro outcome member
          rcases List.mem_cons.mp member with first | behind
          · rcases quiet with timeout | waiting
            · exact Or.inl (first.trans timeout)
            · exact Or.inr (Or.inl (first.trans waiting))
          · exact kinds outcome behind

theorem receive_loop_progress (later : List Bytes)
    (sendable : ∀ other ∈ frame :: later, SendableFrame other)
    (holds : Holds binaryFormat (frame :: later) session.binaryInput stream)
    (steady : ∀ turn ∈ turns, ∃ more expired, turn = .arrived (more + 1) expired)
    (enough : (packet frame).length ≤ session.binaryInput.length + turns.length) :
    (receiveLoop session stream turns).received = .frame frame := by
  have inFront : session.binaryInput.length < (packet frame).length := by
    obtain ⟨back, more, front, _⟩ := holds
    have positive : 0 < back.length := List.length_pos_iff.mpr more
    rw [show packet frame = binaryFormat.encode frame from rfl, front, List.length_append]
    omega
  induction turns generalizing session stream with
  | nil =>
      rw [List.length_nil] at enough
      omega
  | cons turn rest ih =>
      obtain ⟨more, expired, rfl⟩ := steady turn List.mem_cons_self
      obtain ⟨count, state, positive, missing⟩ := holding_wants _ session.binaryInput stream sendable holds
      have bytes : stream ≠ [] := by
        obtain ⟨back, something, _, behind⟩ := holds
        rw [behind]
        exact List.append_ne_nil_of_left_ne_nil something _
      unfold receiveLoop
      rw [state]
      dsimp only
      generalize asking : min (min readBufferSize count) (more + 1) = asked
      have buffer : 0 < readBufferSize := by decide
      have read : stream.take asked ≠ [] := by
        rw [Ne, List.take_eq_nil_iff]
        rintro (zero | empty)
        · omega
        · exact bytes empty
      rw [if_pos read]
      have bounded : asked ≤ binaryFormat.missing session.binaryInput := by omega
      rcases holds_read binary_format_lawful frame later _ stream asked sendable holds bounded with ⟨whole, _⟩ | inside
      · rw [receive_loop_complete _ _ _ frame (sendable frame List.mem_cons_self) whole]
      · have grown : 0 < (stream.take asked).length := List.length_pos_iff.mpr read
        have front : session.binaryInput.length + (stream.take asked).length < (packet frame).length := by
          obtain ⟨back, something, split, _⟩ := inside
          have positive : 0 < back.length := List.length_pos_iff.mpr something
          rw [show packet frame = binaryFormat.encode frame from rfl, split, List.length_append, List.length_append]
          omega
        apply ih _ _ inside (fun other member => steady other (List.mem_cons_of_mem _ member))
        · rw [List.length_append]
          rw [List.length_cons] at enough
          omega
        · rw [List.length_append]
          exact front

theorem sent_frame (frame sent : Bytes) (success : sendBinaryFrame session (.ok ()) frame = .ok sent) :
    SendableFrame frame ∧ sent = packet frame := by
  unfold sendBinaryFrame at success
  split_ifs at success with up parameters
  exact ⟨⟨fun empty => parameters (Or.inr (Or.inl empty)), by omega⟩, (Except.ok.inj success).symm⟩

theorem sent_frames (frames : List Bytes) (stream : Bytes)
    (sent : sendFrames session frames = .ok stream) :
    (∀ frame ∈ frames, SendableFrame frame) ∧ stream = frames.flatMap packet := by
  induction frames generalizing stream with
  | nil => exact ⟨fun _ member => absurd member List.not_mem_nil, (Except.ok.inj sent).symm⟩
  | cons frame rest ih =>
      rw [sendFrames] at sent
      cases first : sendBinaryFrame session (.ok ()) frame with
      | error code =>
          rw [first] at sent
          cases sent
      | ok bytes =>
          cases behind : sendFrames session rest with
          | error code =>
              rw [first, behind] at sent
              cases sent
          | ok later =>
              rw [first, behind] at sent
              obtain ⟨sendable, same⟩ := sent_frame session frame bytes first
              obtain ⟨sendableRest, laterSame⟩ := ih later behind
              refine ⟨?_, ?_⟩
              · intro other member
                rcases List.mem_cons.mp member with here | inRest
                · exact here ▸ sendable
                · exact sendableRest other inRest
              · rw [List.flatMap_cons, ← same, ← laterSame]
                exact (Except.ok.inj sent).symm

theorem frames_received_in_order (sender receiver : Session) (frames : List Bytes) (stream : Bytes)
    (calls : List (List Turn)) (sent : sendFrames sender frames = .ok stream)
    (connected : receiver.connected = true) (binary : receiver.binaryMode = true) (fresh : receiver.binaryInput = [])
    (working : ∀ turns ∈ calls, Turn.failed ∉ turns) :
    let out := receiveCalls receiver stream calls
    let received := out.1.filterMap Received.frame?
    let reader := out.2.1
    (∀ outcome ∈ out.1, outcome = .error .timeout ∨ outcome = .waiting ∨ ∃ frame, outcome = .frame frame) ∧
    ∃ rest, frames = received ++ rest ∧
      stream = received.flatMap packet ++ (reader.binaryInput ++ out.2.2) ∧
      (rest = [] → reader.binaryInput = []) ∧
      (∀ next later, rest = next :: later → ∃ back, back ≠ [] ∧ packet next = reader.binaryInput ++ back) ∧
      (out.2.2 = [] → rest = []) ∧
      (∀ next later turns, rest = next :: later → (packet next).length ≤ turns.length →
        (∀ turn ∈ turns, ∃ more expired, turn = .arrived (more + 1) expired) →
        (receiveBinaryFrame reader out.2.2 turns).received = .frame next) := by
  intro out received reader
  obtain ⟨sendable, rfl⟩ := sent_frames sender frames stream sent
  have between := holds_between binary_format_lawful frames sendable
  rw [← fresh] at between
  obtain ⟨rest, split, held, up, mode, kinds⟩ := receive_calls_deliver receiver _ calls frames connected binary sendable
    working between
  refine ⟨?_, rest, split, ?_, ?_, ?_, ?_, ?_⟩
  · intro outcome member
    rcases kinds outcome member with timeout | waiting | ⟨frame, _, same⟩
    · exact Or.inl timeout
    · exact Or.inr (Or.inl waiting)
    · exact Or.inr (Or.inr ⟨frame, same⟩)
  · have behind := holds_bytes rest _ _ held
    conv => lhs; rw [split]
    rw [List.flatMap_append]
    exact congrArg _ behind.symm
  · rintro rfl
    exact held.1
  · rintro next later rfl
    obtain ⟨back, more, front, _⟩ := held
    exact ⟨back, more, front⟩
  · intro drained
    cases rest with
    | nil => rfl
    | cons next later =>
        obtain ⟨back, more, _, behind⟩ := held
        have none : back ++ later.flatMap binaryFormat.encode = [] := behind.symm.trans drained
        exact absurd (List.append_eq_nil_iff.mp none).1 more
  · rintro next later turns rfl enough steady
    have sendableRest : ∀ other ∈ next :: later, SendableFrame other := by
      intro other member
      apply sendable other
      rw [split]
      exact List.mem_append_right _ member
    have upHere : reader.connected = true := up
    have modeHere : reader.binaryMode = true := mode
    rw [receiveBinaryFrame, if_neg (not_not.mpr upHere), if_neg (not_not.mpr modeHere)]
    exact receive_loop_progress _ _ turns next later sendableRest held steady (Nat.le_trans enough (Nat.le_add_left _ _))

-- The length of the first frame is cut in two, a timeout falls into each frame.
theorem frames_received_in_order_example :
    let session : Session := ⟨true, true, []⟩
    let calls := [[Turn.arrived 1 false, .arrived 0 true], [.arrived 2 false, .arrived 9 false], [.arrived 3 true, .arrived 0 true],
      [.arrived 9 false]]
    let out := receiveCalls session [0, 2, 7, 8, 0, 2, 9, 10] calls
    let received := out.1.filterMap Received.frame?
    let reader := out.2.1
    (∀ outcome ∈ out.1, outcome = .error .timeout ∨ outcome = .waiting ∨ ∃ frame, outcome = .frame frame) ∧
    ∃ rest, [[7, 8], [9, 10]] = received ++ rest ∧
      [0, 2, 7, 8, 0, 2, 9, 10] = received.flatMap packet ++ (reader.binaryInput ++ out.2.2) ∧
      (rest = [] → reader.binaryInput = []) ∧
      (∀ next later, rest = next :: later → ∃ back, back ≠ [] ∧ packet next = reader.binaryInput ++ back) ∧
      (out.2.2 = [] → rest = []) ∧
      (∀ next later turns, rest = next :: later → (packet next).length ≤ turns.length →
        (∀ turn ∈ turns, ∃ more expired, turn = .arrived (more + 1) expired) →
        (receiveBinaryFrame reader out.2.2 turns).received = .frame next) :=
  frames_received_in_order ⟨true, true, []⟩ ⟨true, true, []⟩ [[7, 8], [9, 10]] [0, 2, 7, 8, 0, 2, 9, 10]
    [[.arrived 1 false, .arrived 0 true], [.arrived 2 false, .arrived 9 false], [.arrived 3 true, .arrived 0 true],
      [.arrived 9 false]] rfl rfl rfl rfl (by decide)

end Vscp.RemoteTcp
