import Vscp.CanalText
import Vscp.CanalFilter
import Vscp.Lib.Run

set_option autoImplicit false

namespace Vscp.CanalClient

def canalErrorFifoEmpty : Int := 8

structure CanalDeviceIf (Driver : Type) where
  loaded : Bool
  openHandle : Int64
  procReceive : Driver → CanalMsg → (Int × CanalMsg) × Driver

inductive Target where
  | event (ev : VscpEvent)
  | eventEx (ex : VscpEventEx)
  | message (msg : CanalMsg)
deriving DecidableEq

-- `stack` is the message of the two event versions before the driver fills it.
structure Call where
  target : Target
  stack : CanalMsg
  clock : Clock
  rawtime : UInt64

def zeroGuid : Guid := Vector.replicate 16 0

section

variable {Driver : Type} (device : CanalDeviceIf Driver) (driver : Driver)

def canalReceive (pmsg : CanalMsg) : (Int × CanalMsg) × Driver :=
  if ¬ device.loaded then ((canalErrorInitMissing, pmsg), driver)
  else if device.openHandle = 0 then ((canalErrorNotOpen, pmsg), driver)
  else device.procReceive driver pmsg

-- `rv ? VSCP_ERROR_SUCCESS : VSCP_ERROR_ERROR`: a converter's true is a success, but so is not the zero of the driver.
def statusOf (rv : Int) : Int := if rv ≠ 0 then vscpErrorSuccess else vscpErrorError

def receiveEvent (clock : Clock) (rawtime : UInt64) (stack : CanalMsg) (ev : VscpEvent) : (Int × VscpEvent) × Driver :=
  let taken := canalReceive device driver stack
  if taken.1.1 ≠ canalErrorSuccess then ((taken.1.1, ev), taken.2)
  else
    let converted := convertCanalToEvent clock rawtime ev taken.1.2 zeroGuid
    ((statusOf (if converted.1 then 1 else 0), converted.2), taken.2)

def receiveEventEx (clock : Clock) (rawtime : UInt64) (stack : CanalMsg) (ex : VscpEventEx) :
    (Int × VscpEventEx) × Driver :=
  let taken := canalReceive device driver stack
  if taken.1.1 ≠ canalErrorSuccess then ((taken.1.1, ex), taken.2)
  else
    match convertCanalToEventEx clock rawtime ex taken.1.2 zeroGuid with
    | some converted => ((statusOf 1, converted), taken.2)
    | none => ((statusOf 0, ex), taken.2)

def receiveMessage (msg : CanalMsg) : (Int × CanalMsg) × Driver :=
  let taken := canalReceive device driver msg
  if taken.1.1 ≠ canalErrorSuccess then taken else ((statusOf taken.1.1, taken.1.2), taken.2)

end

structure Outcome where
  call : Call
  answer : Int × CanalMsg
  code : Int
  after : Target

def Call.buffer (call : Call) : CanalMsg :=
  match call.target with
  | .event _ => call.stack
  | .eventEx _ => call.stack
  | .message msg => msg

section

variable {Driver : Type} (device : CanalDeviceIf Driver)

def receive (driver : Driver) (call : Call) : (Int × Target) × Driver :=
  match call.target with
  | .event ev =>
      let received := receiveEvent device driver call.clock call.rawtime call.stack ev
      ((received.1.1, .event received.1.2), received.2)
  | .eventEx ex =>
      let received := receiveEventEx device driver call.clock call.rawtime call.stack ex
      ((received.1.1, .eventEx received.1.2), received.2)
  | .message msg =>
      let received := receiveMessage device driver msg
      ((received.1.1, .message received.1.2), received.2)

def step (driver : Driver) (call : Call) : Driver × List Outcome :=
  let received := receive device driver call
  (received.2, [⟨call, (canalReceive device driver call.buffer).1, received.1.1, received.1.2⟩])

def Deliverable (driver : Driver) (call : Call) : Prop :=
  let answer := (canalReceive device driver call.buffer).1
  answer.1 = canalErrorSuccess → (∀ msg, call.target ≠ .message msg) ∧ answer.2.sizeData ≤ 8

end

def Holds (call : Call) (msg : CanalMsg) (after : Target) : Prop :=
  match call.target with
  | .event ev => ∃ pev, convertCanalToEvent call.clock call.rawtime ev msg zeroGuid = (true, pev) ∧ after = .event pev
  | .eventEx ex =>
      ∃ pev pex, convertCanalToEvent call.clock call.rawtime emptyEvent msg zeroGuid = (true, pev) ∧
        convertEventToEventEx ex pev = some pex ∧ after = .eventEx pex
  | .message _ => after = .message msg

structure Outcome.Right (outcome : Outcome) : Prop where
  code : outcome.code = vscpErrorSuccess ↔ outcome.answer.1 = canalErrorSuccess
  holds : outcome.answer.1 = canalErrorSuccess → Holds outcome.call outcome.answer.2 outcome.after

theorem status_success : statusOf 1 = vscpErrorSuccess := rfl

theorem status_error : statusOf 0 ≠ vscpErrorSuccess := by decide

variable (clock : Clock) (rawtime : UInt64) (ev : VscpEvent) (msg : CanalMsg)

theorem converted_iff :
    (convertCanalToEvent clock rawtime ev msg zeroGuid).1 = true ↔ msg.sizeData ≤ 8 := by
  unfold convertCanalToEvent
  by_cases large : msg.sizeData > 8
  · rw [if_pos large]
    exact iff_of_false Bool.false_ne_true (UInt8.not_le.mpr large)
  · rw [if_neg large]
    exact iff_of_true rfl (UInt8.not_lt.mp large)

theorem converted_data (clock : Clock) (rawtime : UInt64) (ev : VscpEvent) (msg : CanalMsg)
    (fits : msg.sizeData ≤ 8) :
    let pev := (convertCanalToEvent clock rawtime ev msg zeroGuid).2
    pev.sizeData = msg.sizeData.toUInt16 ∧ (pev.sizeData ≠ 0 → pev.pdata ≠ none) := by
  intro pev
  have small : ¬ msg.sizeData > 8 := UInt8.not_lt.mpr fits
  have written : ∃ event : VscpEvent, pev.sizeData = event.sizeData ∧ pev.pdata = event.pdata ∧
      event.sizeData = (if msg.sizeData > 0 then msg.sizeData.toUInt16 else 0) ∧
      event.pdata = (if msg.sizeData > 0 then some (msg.data.toList.take msg.sizeData.toNat) else none) := by
    simp only [pev, convertCanalToEvent, if_neg small]
    generalize filled : ({ (if msg.sizeData > 0 then _ else _ : VscpEvent) with
      head := _, vscpClass := _, vscpType := _ } : VscpEvent) = event
    obtain ⟨year, month, ns, dated⟩ := date_time_block_writes_time_only clock event
    obtain ⟨lastYear, lastMonth, lastNs, now⟩ :=
      event_to_now_writes_time_only clock rawtime
        (setTimestamp (setEventDateTimeBlockToNow clock event) msg.timestamp.toUInt32)
    refine ⟨event, ?_, ?_, ?_, ?_⟩
    · rw [now, dated]
      rfl
    · rw [now, dated]
      rfl
    · rw [← filled]
      split <;> rfl
    · rw [← filled]
      split <;> rfl
  obtain ⟨event, sizeKept, dataKept, size, data⟩ := written
  by_cases held : msg.sizeData > 0
  · rw [if_pos held] at size data
    refine ⟨sizeKept.trans size, fun _ missing => ?_⟩
    rw [dataKept, data] at missing
    cases missing
  · have empty := UInt8.le_zero_iff.mp (UInt8.not_lt.mp held)
    rw [if_neg held] at size
    refine ⟨?_, fun some => absurd (sizeKept.trans size) some⟩
    rw [sizeKept, size, empty]
    rfl

theorem converted_copies (ex : VscpEventEx)
    (fits : msg.sizeData ≤ 8) :
    ∃ pex, convertEventToEventEx ex (convertCanalToEvent clock rawtime ev msg zeroGuid).2 = some pex := by
  obtain ⟨size, data⟩ := converted_data clock rawtime ev msg fits
  have small : msg.sizeData.toNat ≤ 8 := UInt8.le_iff_toNat_le.mp fits
  refine ⟨_, if_neg ?_⟩
  intro refused
  cases refused with
  | inl long =>
      have bound : maxData = 512 := rfl
      rw [size, UInt8.toNat_toUInt16] at long
      omega
  | inr missing => exact data missing.1 missing.2

theorem converted_whole (fits : msg.sizeData ≤ 8) :
    convertCanalToEvent clock rawtime ev msg zeroGuid =
      (true, (convertCanalToEvent clock rawtime ev msg zeroGuid).2) :=
  Prod.ext ((converted_iff clock rawtime ev msg).mpr fits) rfl

section

variable {Driver : Type} (device : CanalDeviceIf Driver) (driver : Driver)

theorem nothing_taken (call : Call)
    (failed : (canalReceive device driver call.buffer).1.1 ≠ canalErrorSuccess) :
    (receive device driver call).1.1 = (canalReceive device driver call.buffer).1.1 := by
  rcases call with ⟨target, stack, clock, rawtime⟩
  cases target with
  | event ev =>
      change (canalReceive device driver stack).1.1 ≠ _ at failed
      simp only [receive, receiveEvent, if_pos failed, Call.buffer]
  | eventEx ex =>
      change (canalReceive device driver stack).1.1 ≠ _ at failed
      simp only [receive, receiveEventEx, if_pos failed, Call.buffer]
  | message msg =>
      change (canalReceive device driver msg).1.1 ≠ _ at failed
      simp only [receive, receiveMessage, if_pos failed, Call.buffer]

-- The canal message version: the zero of the driver is taken for a converter's false.
theorem message_taken (call : Call) (msg : CanalMsg) (plain : call.target = .message msg)
    (taken : (canalReceive device driver call.buffer).1.1 = canalErrorSuccess) :
    (receive device driver call).1.1 ≠ vscpErrorSuccess := by
  rcases call with ⟨target, stack, clock, rawtime⟩
  cases plain
  change (canalReceive device driver msg).1.1 = _ at taken
  have held : ¬ (canalReceive device driver msg).1.1 ≠ canalErrorSuccess := not_not.mpr taken
  simp only [receive, receiveMessage, if_neg held]
  rw [taken]
  exact status_error

theorem event_taken (call : Call) (other : ∀ msg, call.target ≠ .message msg)
    (taken : (canalReceive device driver call.buffer).1.1 = canalErrorSuccess) :
    ((receive device driver call).1.1 = vscpErrorSuccess ↔
        (canalReceive device driver call.buffer).1.2.sizeData ≤ 8) ∧
      ((canalReceive device driver call.buffer).1.2.sizeData ≤ 8 →
        Holds call (canalReceive device driver call.buffer).1.2 (receive device driver call).1.2) := by
  rcases call with ⟨target, stack, clock, rawtime⟩
  cases target with
  | event ev =>
      have held : ¬ (canalReceive device driver stack).1.1 ≠ canalErrorSuccess := not_not.mpr taken
      simp only [receive, receiveEvent, if_neg held, Call.buffer, Holds]
      generalize (canalReceive device driver stack).1.2 = msg
      by_cases fits : msg.sizeData ≤ 8
      · rw [converted_whole clock rawtime ev msg fits]
        exact ⟨iff_of_true status_success fits, fun _ => ⟨_, rfl, rfl⟩⟩
      · have refused := mt (converted_iff clock rawtime ev msg).mp fits
        rw [if_neg refused]
        exact ⟨iff_of_false status_error fits, fun small => absurd small fits⟩
  | eventEx ex =>
      have held : ¬ (canalReceive device driver stack).1.1 ≠ canalErrorSuccess := not_not.mpr taken
      simp only [receive, receiveEventEx, if_neg held, Call.buffer, Holds, convertCanalToEventEx]
      generalize (canalReceive device driver stack).1.2 = msg
      by_cases fits : msg.sizeData ≤ 8
      · obtain ⟨pex, copied⟩ := converted_copies clock rawtime emptyEvent msg ex fits
        rw [if_pos ((converted_iff clock rawtime emptyEvent msg).mpr fits), copied]
        exact ⟨iff_of_true status_success fits,
          fun _ => ⟨_, pex, converted_whole clock rawtime emptyEvent msg fits, copied, rfl⟩⟩
      · rw [if_neg (mt (converted_iff clock rawtime emptyEvent msg).mp fits)]
        exact ⟨iff_of_false status_error fits, fun small => absurd small fits⟩
  | message msg => exact absurd rfl (other msg)

theorem outcome_right_iff (call : Call) :
    (∀ outcome ∈ (step device driver call).2, outcome.Right) ↔ Deliverable device driver call := by
  simp only [step, List.forall_mem_singleton]
  by_cases taken : (canalReceive device driver call.buffer).1.1 = canalErrorSuccess
  · by_cases plain : ∃ msg, call.target = .message msg
    · obtain ⟨msg, plain⟩ := plain
      have lost := message_taken device driver call msg plain taken
      exact iff_of_false (fun right => lost (right.code.mpr taken)) fun allowed => (allowed taken).1 msg plain
    · have other : ∀ msg, call.target ≠ .message msg := fun msg same => plain ⟨msg, same⟩
      obtain ⟨success, holds⟩ := event_taken device driver call other taken
      constructor
      · intro right _
        exact ⟨other, success.mp (right.code.mpr taken)⟩
      · intro allowed
        have fits := (allowed taken).2
        exact ⟨iff_of_true (success.mpr fits) taken, fun _ => holds fits⟩
  · refine iff_of_true ⟨?_, fun given => absurd given taken⟩ fun given => absurd given taken
    change (receive device driver call).1.1 = vscpErrorSuccess ↔ _
    rw [nothing_taken device driver call taken]
    exact Iff.rfl

-- Over any calls on one driver, every message gets to its caller exactly where each one the driver hands over is
-- deliverable.
theorem receive_delivers_iff (calls : List Call) :
    (∀ outcome ∈ (Run.run (step device) driver calls).2, outcome.Right) ↔
      Run.Meets (step device) (Deliverable device) driver calls :=
  Run.outputs_iff_meets (step device) Outcome.Right (Deliverable device)
    (fun driver call => outcome_right_iff device driver call) driver calls

end

def queueProc (queue : List CanalMsg) (pmsg : CanalMsg) : (Int × CanalMsg) × List CanalMsg :=
  match queue with
  | [] => ((canalErrorFifoEmpty, pmsg), [])
  | msg :: rest => ((canalErrorSuccess, msg), rest)

def queueDevice : CanalDeviceIf (List CanalMsg) := ⟨true, 1, queueProc⟩

-- The one message there is leaves the queue with the answer VSCP_ERROR_ERROR.
theorem received_message_is_lost :
    let call : Call := ⟨.message blankMsg, blankMsg, sampleClock, 0⟩
    let took := Run.run (step queueDevice) [{ blankMsg with id := 0x123 }] [call]
    took.1 = [] ∧ took.2.map (·.code) = [vscpErrorError] ∧ took.2.map (·.answer.1) = [canalErrorSuccess] ∧
      ¬ ∀ outcome ∈ took.2, outcome.Right := by
  intro call took
  refine ⟨rfl, rfl, rfl, ?_⟩
  intro right
  have answered := (right _ List.mem_cons_self).code.mpr rfl
  exact absurd answered (by decide)

end Vscp.CanalClient
