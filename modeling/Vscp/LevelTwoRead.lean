import Vscp.LevelTwoRequest

set_option autoImplicit false

namespace Vscp.RemoteTcp

open Registers (dataAt class1Protocol class2Level1Protocol typeExtendedPageResponse)

structure Holding where
  e : VscpEventEx
  heard : Option VscpEvent

structure ReadWait where
  holding : Holding
  resendTime : UInt32
  value : UInt8
  outcome : Option Int

def readReply (call : RegisterCall) (dest : Guid) (e : VscpEventEx) : Option UInt8 :=
  if e.vscpClass = class1Protocol ∧ e.vscpType = typeExtendedPageResponse then
    if answersPage call 0 e ∧ e.guid = dest then some (dataAt e 4) else none
  else if call.ifGUID ≠ nullGuid ∧ ¬ call.bLevel2 ∧ e.vscpClass = class2Level1Protocol ∧
      e.vscpType = typeExtendedPageResponse then
    if e.guid = dest ∧ answersPage call 16 e then some (dataAt e 20) else none
  else if call.ifGUID = nullGuid ∧ call.bLevel2 ∧ e.vscpClass = class2Protocol ∧ e.vscpType = type2ReadWriteResponse then
    if e.guid = dest ∧ responseRegister e = call.reg then some (dataAt e 4) else none
  else none

def holdingAfter (holding : Holding) (turn : ClientTurn) : Holding :=
  match receiveEx holding.e turn with
  | some e => ⟨e, turn.received⟩
  | none => holding

def TimesOut (call : RegisterCall) (turn : ClientTurn) : Prop := call.errorTimeout < turn.clock - call.startTime

def FallsDue (call : RegisterCall) (resendTime : UInt32) (turn : ClientTurn) : Prop :=
  resendTime < turn.resendClock - call.startTime

instance (call : RegisterCall) (turn : ClientTurn) : Decidable (TimesOut call turn) :=
  inferInstanceAs (Decidable (_ < _))

instance (call : RegisterCall) (resendTime : UInt32) (turn : ClientTurn) : Decidable (FallsDue call resendTime turn) :=
  inferInstanceAs (Decidable (_ < _))

-- What is sent again is what the event structure holds.
def readTurn (call : RegisterCall) (dest : Guid) (wait : ReadWait) (turn : ClientTurn) :
    ReadWait × List VscpEventEx :=
  if wait.outcome.isSome then (wait, [])
  else
    let holding := holdingAfter wait.holding turn
    match (receiveEx wait.holding.e turn).bind (readReply call dest) with
    | some byte => (⟨holding, wait.resendTime, byte, some 0⟩, [])
    | none =>
        if TimesOut call turn then (⟨holding, wait.resendTime, wait.value, some VscpError.timeout.code⟩, [])
        else if FallsDue call wait.resendTime turn then
          let again := clearTimestamp holding.e
          (⟨⟨again, holding.heard⟩, wait.resendTime + call.resendTimeout, wait.value, none⟩, [again])
        else (⟨holding, wait.resendTime, wait.value, none⟩, [])

-- `sent` begins with the request; no outcome while the loop still waits after the turns it was given.
structure RegisterResult where
  sent : List VscpEventEx
  heard : Option VscpEvent
  pval : Option UInt8
  outcome : Option Int

def readStart (call : RegisterCall) (request : VscpEventEx) (value : UInt8) : ReadWait :=
  ⟨⟨request, none⟩, call.resendTimeout, value, none⟩

-- A null pointer makes the function return false.
def readLevel2Register (call : RegisterCall) (pval : Option UInt8) (pdestGUID : Option Guid) (e : VscpEventEx)
    (turns : List ClientTurn) : RegisterResult :=
  match pval, pdestGUID with
  | none, _ => ⟨[], none, pval, some 0⟩
  | some _, none => ⟨[], none, pval, some 0⟩
  | some value, some dest =>
      let request := readRequest call dest 1 e
      let done := Run.run (readTurn call dest) (readStart call request value) turns
      ⟨request :: done.2, done.1.holding.heard, some done.1.value, done.1.outcome⟩

def Repeats (request e : VscpEventEx) : Prop :=
  e.vscpClass = request.vscpClass ∧ e.vscpType = request.vscpType ∧ e.guid = request.guid ∧
    e.sizeData = request.sizeData ∧ ∀ index, index < request.sizeData.toNat → dataAt e index = dataAt request index

def CopyOf (request : VscpEventEx) (ev : VscpEvent) : Prop :=
  ev.vscpClass = request.vscpClass ∧ ev.vscpType = request.vscpType ∧ ev.guid = request.guid ∧
    ev.sizeData = request.sizeData ∧
    ∀ index, index < request.sizeData.toNat → ownByte ev index = some (dataAt request index)

def ReadRight (call : RegisterCall) (pdestGUID : Option Guid) (result : RegisterResult) : Prop :=
  (∀ request resent, result.sent = request :: resent → ∀ e ∈ resent, Repeats request e) ∧
    (result.outcome = some 0 → ∃ dest ev byte, pdestGUID = some dest ∧ result.heard = some ev ∧
      result.pval = some byte ∧ ResponseWith call dest ev byte)

-- A resend falls due only where nothing was handed out since the request but a copy of it, and an event that passes the
-- tests reaches to the value.
structure Orderly (call : RegisterCall) (dest : Guid) (request : VscpEventEx) (wait : ReadWait) (turn : ClientTurn) :
    Prop where
  resend : (receiveEx wait.holding.e turn).bind (readReply call dest) = none → ¬ TimesOut call turn →
    FallsDue call wait.resendTime turn → ∀ ev, (holdingAfter wait.holding turn).heard = some ev → CopyOf request ev
  whole : ∀ byte, (receiveEx wait.holding.e turn).bind (readReply call dest) = some byte →
    ∀ ev, turn.received = some ev → Whole ev

def OrderlyTurn (call : RegisterCall) (dest : Guid) (request : VscpEventEx) (wait : ReadWait) (turn : ClientTurn) :
    Prop :=
  wait.outcome = none → Orderly call dest request wait turn

def OrderlyRun (call : RegisterCall) (pval : Option UInt8) (pdestGUID : Option Guid) (e : VscpEventEx)
    (turns : List ClientTurn) : Prop :=
  ∃ value dest, pval = some value ∧ pdestGUID = some dest ∧
    Run.Meets (readTurn call dest) (OrderlyTurn call dest (readRequest call dest 1 e))
      (readStart call (readRequest call dest 1 e) value) turns

def HoldsOwn (request : VscpEventEx) (holding : Holding) : Prop :=
  (holding.heard = none → Repeats request holding.e) ∧ ∀ ev, holding.heard = some ev → Held ev holding.e

theorem repeats_held_iff (request e : VscpEventEx) (ev : VscpEvent) (held : Held ev e) :
    Repeats request e ↔ CopyOf request ev := by
  rw [Repeats, CopyOf, held.vscpClass, held.vscpType, held.guid, held.sizeData]
  refine and_congr_right fun _ => and_congr_right fun _ => and_congr_right fun _ => and_congr_right fun size => ?_
  refine forall_congr' fun index => forall_congr' fun inside => ?_
  rw [held.data index (by rw [size]; exact inside), Option.some_inj]

theorem holds_own_repeats_iff (request : VscpEventEx) (holding : Holding) (own : HoldsOwn request holding) :
    Repeats request holding.e ↔ ∀ ev, holding.heard = some ev → CopyOf request ev := by
  cases heard : holding.heard with
  | none =>
      refine iff_of_true (own.1 heard) ?_
      intro ev same
      cases same
  | some ev =>
      rw [repeats_held_iff request holding.e ev (own.2 ev heard)]
      constructor
      · intro copy other same
        cases same
        exact copy
      · exact fun copies => copies ev rfl

theorem holding_after_own (request : VscpEventEx) (holding : Holding) (turn : ClientTurn)
    (own : HoldsOwn request holding) : HoldsOwn request (holdingAfter holding turn) := by
  rw [holdingAfter]
  cases got : receiveEx holding.e turn with
  | none => exact own
  | some e =>
      obtain ⟨ev, received, held⟩ := receive_held holding.e e turn got
      constructor
      · intro unheard
        rw [received] at unheard
        cases unheard
      · intro other same
        rw [received] at same
        cases same
        exact held

theorem held_cleared (ev : VscpEvent) (e : VscpEventEx) (held : Held ev e) : Held ev (clearTimestamp e) :=
  ⟨held.vscpClass, held.vscpType, held.guid, held.sizeData, held.fits, held.data⟩

theorem cleared_own (request : VscpEventEx) (holding : Holding) (own : HoldsOwn request holding) :
    HoldsOwn request ⟨clearTimestamp holding.e, holding.heard⟩ :=
  ⟨own.1, fun ev heard => held_cleared ev holding.e (own.2 ev heard)⟩

theorem read_reply_response (call : RegisterCall) (dest : Guid) (ev : VscpEvent) (e : VscpEventEx) (held : Held ev e)
    (byte : UInt8) (reply : readReply call dest e = some byte) : ResponseWith call dest ev byte ↔ Whole ev := by
  have class1 : class1Protocol ≠ class2Level1Protocol := by decide
  have class2 : class2Protocol ≠ class2Level1Protocol := by decide
  have apart : class1Protocol ≠ class2Protocol := by decide
  rw [ResponseWith, Whole, ← held.vscpClass, ← held.vscpType, ← held.guid, page_response_iff call ev e held,
    page_response_iff call ev e held, register_response_iff call ev e held]
  rw [readReply] at reply
  split at reply
  case isTrue first =>
    split at reply
    case isTrue answers =>
      cases reply
      simp [first, answers, class1, apart]
    case isFalse => cases reply
  case isFalse other =>
    split at reply
    case isTrue second =>
      split at reply
      case isTrue answers =>
        cases reply
        simp [second, answers, class1.symm, class2.symm]
      case isFalse => cases reply
    case isFalse =>
      split at reply
      case isTrue third =>
        split at reply
        case isTrue answers =>
          cases reply
          simp [third, answers, class2, apart.symm]
        case isFalse => cases reply
      case isFalse => cases reply

section run

variable (call : RegisterCall) (dest : Guid)

def reply (wait : ReadWait) (turn : ClientTurn) : Option UInt8 :=
  (receiveEx wait.holding.e turn).bind (readReply call dest)

theorem read_turn_cases (wait : ReadWait) (turn : ClientTurn) :
    (wait.outcome ≠ none ∧ readTurn call dest wait turn = (wait, [])) ∨
      (wait.outcome = none ∧ ∃ byte, reply call dest wait turn = some byte ∧ readTurn call dest wait turn =
        (⟨holdingAfter wait.holding turn, wait.resendTime, byte, some 0⟩, [])) ∨
      (wait.outcome = none ∧ reply call dest wait turn = none ∧ ¬ TimesOut call turn ∧
        FallsDue call wait.resendTime turn ∧ readTurn call dest wait turn =
          (⟨⟨clearTimestamp (holdingAfter wait.holding turn).e, (holdingAfter wait.holding turn).heard⟩,
            wait.resendTime + call.resendTimeout, wait.value, none⟩,
            [clearTimestamp (holdingAfter wait.holding turn).e])) ∨
      (wait.outcome = none ∧ reply call dest wait turn = none ∧
        (¬ TimesOut call turn → ¬ FallsDue call wait.resendTime turn) ∧
        ∃ outcome, outcome ≠ some 0 ∧ readTurn call dest wait turn =
          (⟨holdingAfter wait.holding turn, wait.resendTime, wait.value, outcome⟩, [])) := by
  rw [readTurn]
  by_cases ended : wait.outcome.isSome
  · rw [if_pos ended]
    exact .inl ⟨Option.isSome_iff_ne_none.mp ended, rfl⟩
  have waiting : wait.outcome = none := Option.not_isSome_iff_eq_none.mp ended
  rw [if_neg ended]
  refine .inr ?_
  cases taken : reply call dest wait turn with
  | some byte =>
      rw [reply] at taken
      rw [taken]
      exact .inl ⟨waiting, byte, rfl, rfl⟩
  | none =>
      rw [reply] at taken
      rw [taken]
      refine .inr ?_
      by_cases late : TimesOut call turn
      · refine .inr ⟨waiting, rfl, fun early => absurd late early, some VscpError.timeout.code, by decide, ?_⟩
        exact if_pos late
      · by_cases due : FallsDue call wait.resendTime turn
        · refine .inl ⟨waiting, rfl, late, due, ?_⟩
          exact (if_neg late).trans (if_pos due)
        · refine .inr ⟨waiting, rfl, fun _ => due, none, Option.some_ne_none 0 |>.symm, ?_⟩
          exact (if_neg late).trans (if_neg due)

variable (request : VscpEventEx)

variable (wait : ReadWait) (resent : List VscpEventEx) (turn : ClientTurn)

theorem read_turn_own (own : HoldsOwn request wait.holding) :
    HoldsOwn request (readTurn call dest wait turn).1.holding := by
  have after := holding_after_own request wait.holding turn own
  obtain ⟨-, step⟩ | ⟨-, byte, -, step⟩ | ⟨-, -, -, -, step⟩ | ⟨-, -, -, outcome, -, step⟩ :=
    read_turn_cases call dest wait turn <;> rw [step]
  · exact own
  · exact after
  · exact cleared_own request _ after
  · exact after

def RightSoFar (wait : ReadWait) (resent : List VscpEventEx) : Prop :=
  (∀ e ∈ resent, Repeats request e) ∧
    (wait.outcome = some 0 → ∃ ev, wait.holding.heard = some ev ∧ ResponseWith call dest ev wait.value)

theorem reply_heard (byte : UInt8)
    (taken : reply call dest wait turn = some byte) :
    ∃ ev, turn.received = some ev ∧ (holdingAfter wait.holding turn).heard = some ev ∧
      (ResponseWith call dest ev byte ↔ Whole ev) := by
  obtain ⟨e, got, found⟩ := Option.bind_eq_some_iff.mp taken
  obtain ⟨ev, received, held⟩ := receive_held wait.holding.e e turn got
  refine ⟨ev, received, ?_, read_reply_response call dest ev e held byte found⟩
  rw [holdingAfter, got]
  exact received

theorem read_turn_right_iff (own : HoldsOwn request wait.holding) (right : RightSoFar call dest request wait resent) :
    RightSoFar call dest request (readTurn call dest wait turn).1 (resent ++ (readTurn call dest wait turn).2) ↔
      OrderlyTurn call dest request wait turn := by
  have after := holding_after_own request wait.holding turn own
  obtain ⟨ended, step⟩ | ⟨waiting, byte, taken, step⟩ | ⟨waiting, taken, early, due, step⟩ |
    ⟨waiting, taken, quiet, outcome, failed, step⟩ := read_turn_cases call dest wait turn <;> rw [step]
  · rw [List.append_nil]
    exact iff_of_true right fun waiting => absurd waiting ended
  · obtain ⟨ev, received, heard, response⟩ := reply_heard call dest wait turn byte taken
    rw [List.append_nil]
    constructor
    · rintro ⟨-, success⟩ -
      obtain ⟨other, same, carries⟩ := success rfl
      rw [heard] at same
      cases same
      refine ⟨fun untaken => absurd (untaken.symm.trans taken) (Option.some_ne_none byte).symm, ?_⟩
      intro other same given again
      rw [received] at again
      cases again
      exact response.mp carries
    · intro orderly
      refine ⟨right.1, fun _ => ⟨ev, heard, response.mpr ?_⟩⟩
      exact (orderly waiting).whole byte taken ev received
  · have cleared := cleared_own request _ after
    have copies := holds_own_repeats_iff request _ cleared
    constructor
    · rintro ⟨repeats, -⟩ -
      refine ⟨fun _ _ _ => copies.mp (repeats _ (List.mem_append_right resent (List.mem_singleton_self _))), ?_⟩
      intro byte found
      exact absurd (taken.symm.trans found) (Option.some_ne_none byte).symm
    · intro orderly
      refine ⟨?_, fun success => absurd success (Option.some_ne_none 0).symm⟩
      intro e member
      rcases List.mem_append.mp member with earlier | now
      · exact right.1 e earlier
      · rw [List.mem_singleton.mp now]
        exact copies.mpr ((orderly waiting).resend taken early due)
  · rw [List.append_nil]
    refine iff_of_true ⟨right.1, fun success => absurd success failed⟩ ?_
    refine fun _ => ⟨fun _ early due => absurd due (quiet early), ?_⟩
    intro byte found
    exact absurd (taken.symm.trans found) (Option.some_ne_none byte).symm

theorem read_turn_lost (right : RightSoFar call dest request (readTurn call dest wait turn).1
      (resent ++ (readTurn call dest wait turn).2)) : RightSoFar call dest request wait resent := by
  refine ⟨fun e member => right.1 e (List.mem_append_left _ member), fun success => ?_⟩
  obtain ⟨-, step⟩ | ⟨waiting, -⟩ | ⟨waiting, -⟩ | ⟨waiting, -⟩ := read_turn_cases call dest wait turn
  · rw [step] at right
    exact right.2 success
  all_goals exact absurd (waiting.symm.trans success) (Option.some_ne_none 0).symm

end run

theorem read_level2_register_right_iff (call : RegisterCall) (pval : Option UInt8) (pdestGUID : Option Guid)
    (e : VscpEventEx) (turns : List ClientTurn) :
    ReadRight call pdestGUID (readLevel2Register call pval pdestGUID e turns) ↔
      OrderlyRun call pval pdestGUID e turns := by
  cases pval with
  | none =>
      refine iff_of_false ?_ ?_
      · rintro ⟨-, success⟩
        obtain ⟨dest, ev, byte, -, heard, -⟩ := success rfl
        cases heard
      · rintro ⟨value, dest, given, -⟩
        cases given
  | some value =>
      cases pdestGUID with
      | none =>
          refine iff_of_false ?_ ?_
          · rintro ⟨-, success⟩
            obtain ⟨dest, ev, byte, given, -⟩ := success rfl
            cases given
          · rintro ⟨value, dest, -, given, -⟩
            cases given
      | some dest =>
          let request := readRequest call dest 1 e
          have start : HoldsOwn request (readStart call request value).holding :=
            ⟨fun _ => ⟨rfl, rfl, rfl, rfl, fun _ _ => rfl⟩, fun _ heard => absurd heard (Option.some_ne_none _).symm⟩
          have all := Run.run_right_iff_meets (readTurn call dest) (RightSoFar call dest request)
            (OrderlyTurn call dest request) (fun wait _ => HoldsOwn request wait.holding)
            (fun wait _ turn own => read_turn_own call dest request wait turn own)
            (fun wait resent turn own right => read_turn_right_iff call dest request wait resent turn own right)
            (fun wait resent turn _ right => read_turn_lost call dest request wait resent turn right)
            (readStart call request value) [] turns start
            ⟨fun _ member => absurd member List.not_mem_nil, fun success => absurd success (Option.some_ne_none 0).symm⟩
          rw [List.nil_append] at all
          constructor
          · rintro ⟨repeats, success⟩
            refine ⟨value, dest, rfl, rfl, all.mp ⟨repeats request _ rfl, fun ended => ?_⟩⟩
            obtain ⟨other, ev, byte, same, heard, carried, response⟩ := success ended
            cases same
            cases carried
            exact ⟨ev, heard, response⟩
          · rintro ⟨other, again, same, equal, orderly⟩
            cases same
            cases equal
            obtain ⟨repeats, success⟩ := all.mpr orderly
            constructor
            · intro first resent split
              cases split
              exact repeats
            · intro ended
              obtain ⟨ev, heard, response⟩ := success ended
              exact ⟨dest, ev, _, rfl, heard, rfl, response⟩

def firstCall : RegisterCall := ⟨1, 0, nullGuid, false, 1000, 200, 0⟩

def nodeGuid : Guid := Vector.replicate 16 1

def otherEvent : VscpEvent := ⟨0, 0, 0, 0, 0, 10, 6, nullGuid, 0, none, 0⟩

def busyTurns : List ClientTurn := [⟨1, some otherEvent, 100, 100⟩, ⟨0, none, 300, 300⟩]

-- The measurement comes first, and is what is sent when the resend falls due.
theorem resend_of_other_event :
    ¬ ReadRight firstCall (some nodeGuid) (readLevel2Register firstCall (some 0) (some nodeGuid) emptyEventEx busyTurns) := by
  rintro ⟨repeats, -⟩
  obtain ⟨request, again, sent, other⟩ : ∃ request again,
      (readLevel2Register firstCall (some 0) (some nodeGuid) emptyEventEx busyTurns).sent = [request, again] ∧
        again.vscpClass ≠ request.vscpClass :=
    ⟨_, _, rfl, show (10 : UInt16) ≠ 512 by decide⟩
  exact other (repeats request [again] sent again (List.mem_singleton_self again)).1

end Vscp.RemoteTcp
