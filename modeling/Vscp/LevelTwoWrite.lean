import Vscp.LevelTwoRead

set_option autoImplicit false

namespace Vscp.RemoteTcp

open Registers (dataAt class1Protocol class2Level1Protocol typeExtendedPageResponse)

def canalErrorRegister : Int := 20

structure WriteWait where
  e : VscpEventEx
  resendTime : UInt64
  heard : List VscpEvent
  outcome : Option Int

-- The tests for a response, and whether the byte that is compared is the value. In a response that is carried by a
-- Level II event the sender is looked for in its data, and the byte is one of the page.
def writeReply (call : RegisterCall) (dest : Guid) (value : UInt8) (e : VscpEventEx) : Option Bool :=
  if e.vscpClass = class1Protocol ∧ e.vscpType = typeExtendedPageResponse then
    if answersPage call 0 e ∧ e.guid = dest then some (value = dataAt e 4) else none
  else if call.ifGUID ≠ nullGuid ∧ ¬ call.bLevel2 ∧ e.vscpClass = class2Level1Protocol ∧
      e.vscpType = typeExtendedPageResponse then
    if dest.get Registers.nicknameIndex = dataAt e 15 ∧ answersPage call 16 e then some (value = dataAt e 17) else none
  else if call.bLevel2 ∧ e.vscpClass = class2Protocol ∧ e.vscpType = type2ReadWriteResponse then
    if e.guid = dest ∧ responseRegister e = call.reg then some (value = dataAt e 4) else none
  else none

def writeHolding (wait : WriteWait) (turn : ClientTurn) : WriteWait :=
  match receiveEx wait.e turn with
  | some e => { wait with e := e, heard := wait.heard ++ turn.received.toList }
  | none => wait

def writeTurn (call : RegisterCall) (dest : Guid) (value : UInt8) (wait : WriteWait) (turn : ClientTurn) :
    WriteWait × List VscpEventEx :=
  if wait.outcome.isSome then (wait, [])
  else
    let next := writeHolding wait turn
    match (receiveEx wait.e turn).bind (writeReply call dest value) with
    | some same => ({ next with outcome := some (if same then 0 else canalErrorRegister) }, [])
    | none =>
        if TimesOut call turn then ({ next with outcome := some VscpError.timeout.code }, [])
        else if next.resendTime < (turn.resendClock - call.startTime).toUInt64 then
          ({ next with resendTime := next.resendTime + call.resendTimeout.toUInt64 }, [next.e])
        else (next, [])

structure WriteResult where
  sent : List VscpEventEx
  heard : List VscpEvent
  outcome : Option Int

def writeStart (call : RegisterCall) (request : VscpEventEx) : WriteWait :=
  ⟨request, call.resendTimeout.toUInt64, [], none⟩

-- The pointer to the value is looked at, the one to the GUID of the device is not.
def writeLevel2Register (call : RegisterCall) (pval : Option UInt8) (dest : Guid) (e : VscpEventEx)
    (turns : List ClientTurn) : WriteResult :=
  match pval with
  | none => ⟨[], [], some VscpError.parameter.code⟩
  | some value =>
      let request := writeRequest call dest value e
      let done := Run.run (writeTurn call dest value) (writeStart call request) turns
      ⟨request :: done.2, done.1.heard, done.1.outcome⟩

def Awaited (call : RegisterCall) (ev : VscpEvent) : Prop :=
  (ev.vscpClass = class2Level1Protocol → call.ifGUID ≠ nullGuid ∧ ¬ call.bLevel2) ∧
    (ev.vscpClass = class2Protocol → call.bLevel2)

def Confirms (call : RegisterCall) (dest : Guid) (value : UInt8) (ev : VscpEvent) : Prop :=
  Awaited call ev ∧ ResponseWith call dest ev value

def WritesRight (call : RegisterCall) (pval : Option UInt8) (dest : Guid) (e : VscpEventEx) (turns : List ClientTurn) :
    Prop :=
  ∀ n, (writeLevel2Register call pval dest e (turns.take n)).outcome = some 0 ↔
    ∃ value, pval = some value ∧
      ∃ ev ∈ (writeLevel2Register call pval dest e (turns.take n)).heard, Confirms call dest value ev

-- An event that passes the tests of the plain layouts with the value reaches to it; a carried response for the register
-- is from the device with the value where its last GUID byte is in the data and the value is the first byte of the page.
structure EventFits (call : RegisterCall) (dest : Guid) (value : UInt8) (ev : VscpEvent) (e : VscpEventEx) : Prop where
  plain : ev.vscpClass ≠ class2Level1Protocol → writeReply call dest value e = some true → Whole ev
  carried : ev.vscpClass = class2Level1Protocol → ev.vscpType = typeExtendedPageResponse → call.ifGUID ≠ nullGuid →
    ¬ call.bLevel2 → answersPage call 16 e → ((Whole ev ∧ e.guid = dest ∧ dataAt e 20 = value) ↔
      (dataAt e 15 = dest.get Registers.nicknameIndex ∧ (call.page >>> 8).toUInt8 = value))

def TurnFits (call : RegisterCall) (dest : Guid) (value : UInt8) (wait : WriteWait) (turn : ClientTurn) : Prop :=
  wait.outcome = none → ∀ e ev, receiveEx wait.e turn = some e → turn.received = some ev → EventFits call dest value ev e

section reply

variable (call : RegisterCall) (dest : Guid) (value : UInt8) (ev : VscpEvent) (e : VscpEventEx)

theorem classes_apart : class1Protocol ≠ class2Level1Protocol ∧ class2Protocol ≠ class2Level1Protocol ∧
    class1Protocol ≠ class2Protocol := by decide

theorem write_reply_iff :
    writeReply call dest value e = some true ↔
      (e.vscpClass = class1Protocol ∧ e.vscpType = typeExtendedPageResponse ∧ answersPage call 0 e = true ∧
        e.guid = dest ∧ value = dataAt e 4) ∨
      (e.vscpClass = class2Level1Protocol ∧ e.vscpType = typeExtendedPageResponse ∧
        (call.ifGUID ≠ nullGuid ∧ ¬ call.bLevel2) ∧ dest.get Registers.nicknameIndex = dataAt e 15 ∧
        answersPage call 16 e = true ∧ value = dataAt e 17) ∨
      (e.vscpClass = class2Protocol ∧ e.vscpType = type2ReadWriteResponse ∧ call.bLevel2 ∧ e.guid = dest ∧
        responseRegister e = call.reg ∧ value = dataAt e 4) := by
  obtain ⟨first, second, third⟩ := classes_apart
  rw [writeReply]
  split
  case isTrue level1 =>
    rw [level1.1, level1.2]
    split
    case isTrue answers => simp [answers, first, third]
    case isFalse other => simp only [reduceCtorEq, false_iff]; grind
  case isFalse none =>
    split
    case isTrue carried =>
      split
      case isTrue answers => simp [carried, answers, first.symm, second.symm]
      case isFalse other => simp only [reduceCtorEq, false_iff]; grind
    case isFalse none' =>
      split
      case isTrue level2 =>
        split
        case isTrue answers => simp [level2, answers, second, third.symm]
        case isFalse other => simp only [reduceCtorEq, false_iff]; grind
      case isFalse => simp only [reduceCtorEq, false_iff]; grind

theorem plain_confirms_iff (held : Held ev e) (plain : ev.vscpClass ≠ class2Level1Protocol) :
    Confirms call dest value ev ↔ writeReply call dest value e = some true ∧ Whole ev := by
  obtain ⟨-, -, third⟩ := classes_apart
  rw [write_reply_iff, Confirms, Awaited, ResponseWith, page_response_iff call ev e held,
    page_response_iff call ev e held, register_response_iff call ev e held, Whole, if_neg plain, held.vscpClass,
    held.vscpType, held.guid]
  constructor
  · rintro ⟨⟨-, level2⟩, sender, ⟨class1, response, long, answers, byte⟩ | ⟨carried, -⟩ |
      ⟨class2, response, long, own, byte⟩⟩
    · exact ⟨.inl ⟨class1, response, answers, sender, byte⟩, long⟩
    · exact absurd carried plain
    · exact ⟨.inr (.inr ⟨class2, response, level2 class2, sender, own, byte⟩), long⟩
  · rintro ⟨⟨class1, response, answers, sender, byte⟩ | ⟨carried, -⟩ | ⟨class2, response, level2, sender, own, byte⟩,
      long⟩
    · refine ⟨⟨fun carried => absurd carried plain, fun class2 => ?_⟩, sender, .inl ⟨class1, response, long, answers, byte⟩⟩
      exact absurd (class1.symm.trans class2) third
    · exact absurd carried plain
    · exact ⟨⟨fun carried => absurd carried plain, fun _ => level2⟩, sender,
        .inr (.inr ⟨class2, response, long, own, byte⟩)⟩

theorem carried_confirms_iff (held : Held ev e) (carried : ev.vscpClass = class2Level1Protocol) :
    Confirms call dest value ev ↔ (call.ifGUID ≠ nullGuid ∧ ¬ call.bLevel2) ∧ ev.vscpType = typeExtendedPageResponse ∧
      answersPage call 16 e = true ∧ Whole ev ∧ e.guid = dest ∧ dataAt e 20 = value := by
  obtain ⟨first, second, -⟩ := classes_apart
  rw [Confirms, Awaited, ResponseWith, page_response_iff call ev e held, page_response_iff call ev e held, Whole,
    if_pos carried, carried, held.guid]
  constructor
  · rintro ⟨⟨interface, -⟩, sender, ⟨class1, -⟩ | ⟨-, response, long, answers, byte⟩ | ⟨class2, -⟩⟩
    · exact absurd class1.symm first
    · exact ⟨interface rfl, response, answers, long, sender, byte.symm⟩
    · exact absurd class2.symm second
  · rintro ⟨interface, response, answers, long, sender, byte⟩
    exact ⟨⟨fun _ => interface, fun class2 => absurd class2.symm second⟩, sender,
      .inr (.inl ⟨rfl, response, long, answers, byte.symm⟩)⟩

theorem carried_reply_iff (held : Held ev e) (carried : ev.vscpClass = class2Level1Protocol) :
    writeReply call dest value e = some true ↔ (call.ifGUID ≠ nullGuid ∧ ¬ call.bLevel2) ∧
      ev.vscpType = typeExtendedPageResponse ∧ answersPage call 16 e = true ∧
      dataAt e 15 = dest.get Registers.nicknameIndex ∧ (call.page >>> 8).toUInt8 = value := by
  obtain ⟨first, second, -⟩ := classes_apart
  have page (answers : answersPage call 16 e = true) : dataAt e 17 = (call.page >>> 8).toUInt8 :=
    (of_decide_eq_true answers).2.1
  rw [write_reply_iff, held.vscpClass, held.vscpType, carried]
  constructor
  · rintro (⟨class1, -⟩ | ⟨-, response, interface, place, answers, byte⟩ | ⟨class2, -⟩)
    · exact absurd class1.symm first
    · exact ⟨interface, response, answers, place.symm, by rw [byte, page answers]⟩
    · exact absurd class2.symm second
  · rintro ⟨interface, response, answers, place, byte⟩
    exact .inr (.inl ⟨rfl, response, interface, place.symm, answers, by rw [page answers, byte]⟩)

theorem reply_confirms_iff (held : Held ev e) :
    (writeReply call dest value e = some true ↔ Confirms call dest value ev) ↔ EventFits call dest value ev e := by
  by_cases carried : ev.vscpClass = class2Level1Protocol
  · rw [carried_confirms_iff call dest value ev e held carried, carried_reply_iff call dest value ev e held carried]
    constructor
    · intro same
      refine ⟨fun plain => absurd carried plain, fun _ response interface level answers => ?_⟩
      constructor
      · intro right
        exact (same.mpr ⟨⟨interface, level⟩, response, answers, right⟩).2.2.2
      · intro said
        exact (same.mp ⟨⟨interface, level⟩, response, answers, said⟩).2.2.2
    · intro fits
      refine and_congr_right fun interface => and_congr_right fun response => and_congr_right fun answers => ?_
      exact (fits.carried carried response interface.1 interface.2 answers).symm
  · rw [plain_confirms_iff call dest value ev e held carried]
    constructor
    · intro same
      exact ⟨fun _ success => (same.mp success).2, fun other => absurd other carried⟩
    · intro fits
      exact ⟨fun success => ⟨success, fits.plain carried success⟩, And.left⟩

end reply

section run

variable (call : RegisterCall) (dest : Guid) (value : UInt8)

def RightNow (wait : WriteWait) (_ : List VscpEventEx) : Prop :=
  wait.outcome = some 0 ↔ ∃ ev ∈ wait.heard, Confirms call dest value ev

theorem write_turn_outcome (wait : WriteWait) (turn : ClientTurn) (waiting : wait.outcome = none) :
    (writeTurn call dest value wait turn).1.heard = (writeHolding wait turn).heard ∧
      ((writeTurn call dest value wait turn).1.outcome = some 0 ↔
        (receiveEx wait.e turn).bind (writeReply call dest value) = some true) := by
  have further : ¬ wait.outcome.isSome := Option.not_isSome_iff_eq_none.mpr waiting
  have still : (writeHolding wait turn).outcome ≠ some 0 := by
    rw [writeHolding]
    cases receiveEx wait.e turn <;> simp [waiting]
  have late : VscpError.timeout.code ≠ 0 := by decide
  rw [writeTurn, if_neg further]
  cases (receiveEx wait.e turn).bind (writeReply call dest value) with
  | some same => cases same <;> simp [canalErrorRegister]
  | none =>
      simp only [reduceCtorEq, iff_false]
      split
      · exact ⟨rfl, fun success => late (Option.some_inj.mp success)⟩
      · split
        · exact ⟨rfl, still⟩
        · exact ⟨rfl, still⟩

theorem write_turn_right_iff (wait : WriteWait) (past : List VscpEventEx) (turn : ClientTurn)
    (right : RightNow call dest value wait past) :
    RightNow call dest value (writeTurn call dest value wait turn).1 (past ++ (writeTurn call dest value wait turn).2) ↔
      TurnFits call dest value wait turn := by
  by_cases waiting : wait.outcome = none
  · obtain ⟨heard, success⟩ := write_turn_outcome call dest value wait turn waiting
    have quiet : ¬ ∃ ev ∈ wait.heard, Confirms call dest value ev := by
      intro confirmed
      exact absurd (waiting.symm.trans (right.mpr confirmed)) (Option.some_ne_none 0).symm
    rw [RightNow, success, heard, writeHolding, TurnFits]
    cases got : receiveEx wait.e turn with
    | none =>
        refine iff_of_true (iff_of_false ?_ quiet) ?_
        · intro taken
          cases taken
        · intro _ e ev same
          cases same
    | some e =>
        obtain ⟨ev, received, held⟩ := receive_held wait.e e turn got
        have confirmed : (∃ ev ∈ wait.heard ++ turn.received.toList, Confirms call dest value ev) ↔
            Confirms call dest value ev := by
          rw [received, Option.toList_some]
          constructor
          · rintro ⟨other, member, confirms⟩
            rcases List.mem_append.mp member with earlier | now
            · exact absurd ⟨other, earlier, confirms⟩ quiet
            · rwa [List.mem_singleton.mp now] at confirms
          · exact fun confirms => ⟨ev, List.mem_append_right _ (List.mem_singleton_self ev), confirms⟩
        change (writeReply call dest value e = some true ↔ ∃ ev ∈ wait.heard ++ turn.received.toList, _) ↔ _
        rw [confirmed, reply_confirms_iff call dest value ev e held]
        constructor
        · intro fits _ other again same given
          cases same
          rw [received] at given
          cases given
          exact fits
        · exact fun fits => fits waiting e ev rfl received
  · have ended : writeTurn call dest value wait turn = (wait, []) := if_pos (Option.isSome_iff_ne_none.mpr waiting)
    rw [ended, List.append_nil]
    exact iff_of_true right fun none => absurd none waiting

end run

theorem write_level2_register_right_iff (call : RegisterCall) (pval : Option UInt8) (dest : Guid) (e : VscpEventEx)
    (turns : List ClientTurn) :
    WritesRight call pval dest e turns ↔
      ∀ value, pval = some value → Run.Meets (writeTurn call dest value) (TurnFits call dest value)
        (writeStart call (writeRequest call dest value e)) turns := by
  cases pval with
  | none =>
      refine iff_of_true (fun n => iff_of_false ?_ ?_) ?_
      · intro success
        have wrong : VscpError.parameter.code = 0 := Option.some_inj.mp success
        exact absurd wrong (by decide)
      · rintro ⟨value, given, -⟩
        cases given
      · intro value given
        cases given
  | some value =>
      have start : RightNow call dest value (writeStart call (writeRequest call dest value e)) [] := by
        refine iff_of_false (fun success => absurd success (Option.some_ne_none 0).symm) ?_
        rintro ⟨ev, member, -⟩
        cases member
      have all := (Run.throughout_iff_prefixes (writeTurn call dest value) (RightNow call dest value) _ [] turns start).symm
        |>.trans (Run.throughout_iff_meets (writeTurn call dest value) (RightNow call dest value)
          (TurnFits call dest value) (fun _ _ => True) (fun _ _ _ _ => trivial)
          (fun wait past turn _ right => write_turn_right_iff call dest value wait past turn right) _ [] turns trivial start)
      constructor
      · intro right other given
        cases given
        refine all.mp fun n => (right n).trans ?_
        constructor
        · rintro ⟨other, given, confirmed⟩
          cases given
          exact confirmed
        · exact fun confirmed => ⟨value, rfl, confirmed⟩
      · intro meets n
        refine (all.mpr (meets value rfl) n).trans ?_
        constructor
        · exact fun confirmed => ⟨value, rfl, confirmed⟩
        · rintro ⟨other, given, confirmed⟩
          cases given
          exact confirmed

def carriedCall : RegisterCall := ⟨1, 0, Vector.replicate 16 2, false, 1000, 200, 0⟩

def confirmation : VscpEvent :=
  ⟨0, 0, 0, 0, 0, class2Level1Protocol, typeExtendedPageResponse, nodeGuid, 21,
    some (nodeGuid.toList ++ [0, 0, 0, 1, 5]), 0⟩

def confirmedTurn : ClientTurn := ⟨1, some confirmation, 0, 0⟩

theorem confirmation_waits : 0 < confirmedTurn.available := Int.one_pos

theorem confirmation_converts (old : VscpEventEx) : ∃ e, convertEventToEventEx old confirmation = some e := ⟨_, rfl⟩

theorem confirmation_confirms (e : VscpEventEx) (held : Held confirmation e) :
    Confirms carriedCall nodeGuid 5 confirmation := by
  have byte (index : Nat) (inside : index < 21) := held.data index inside
  rw [carried_confirms_iff carriedCall nodeGuid 5 confirmation e held rfl]
  refine ⟨⟨by decide, by decide⟩, rfl, decide_eq_true ⟨?_, ?_, ?_, ?_⟩, le_refl 21, held.guid, ?_⟩
  · exact Option.some_inj.mp (byte 16 (by decide)).symm
  · exact Option.some_inj.mp (byte 17 (by decide)).symm
  · exact Option.some_inj.mp (byte 18 (by decide)).symm
  · have reg : dataAt e 19 = 1 := Option.some_inj.mp (byte 19 (by decide)).symm
    rw [reg]
    rfl
  · exact Option.some_inj.mp (byte 20 (by decide)).symm

theorem confirmation_misread (wait : WriteWait) (waiting : wait.outcome = none) :
    confirmation ∈ (writeTurn carriedCall nodeGuid 5 wait confirmedTurn).1.heard ∧
      Confirms carriedCall nodeGuid 5 confirmation ∧
      (writeTurn carriedCall nodeGuid 5 wait confirmedTurn).1.outcome ≠ some 0 := by
  obtain ⟨e, converted⟩ := confirmation_converts wait.e
  have held := held_of_convert wait.e e confirmation converted
  have got : receiveEx wait.e confirmedTurn = some e := by
    rw [receiveEx, if_pos confirmation_waits]
    exact converted
  obtain ⟨heard, outcome⟩ := write_turn_outcome carriedCall nodeGuid 5 wait confirmedTurn waiting
  refine ⟨?_, confirmation_confirms e held, fun success => ?_⟩
  · rw [heard, writeHolding, got]
    exact List.mem_append_right _ (List.mem_singleton_self confirmation)
  · have said := outcome.mp success
    rw [got, Option.bind_some, carried_reply_iff carriedCall nodeGuid 5 confirmation e held rfl] at said
    exact absurd said.2.2.2.2 (by decide)

theorem write_single (call : RegisterCall) (dest : Guid) (value : UInt8) (e : VscpEventEx) (turn : ClientTurn) :
    let wait := (writeTurn call dest value (writeStart call (writeRequest call dest value e)) turn).1
    WritesRight call (some value) dest e [turn] → RightNow call dest value wait [] := by
  intro wait right
  have first := right 1
  refine first.trans ⟨?_, fun confirmed => ⟨value, rfl, confirmed⟩⟩
  rintro ⟨other, given, confirmed⟩
  cases given
  exact confirmed

-- The confirmation is taken for a register error.
theorem confirmed_write_refused : ¬ WritesRight carriedCall (some 5) nodeGuid emptyEventEx [confirmedTurn] := by
  intro right
  obtain ⟨known, confirms, failed⟩ := confirmation_misread
    (writeStart carriedCall (writeRequest carriedCall nodeGuid 5 emptyEventEx)) rfl
  have now := write_single carriedCall nodeGuid 5 emptyEventEx confirmedTurn right
  rw [RightNow] at now
  exact failed (now.mpr ⟨confirmation, known, confirms⟩)

end Vscp.RemoteTcp
