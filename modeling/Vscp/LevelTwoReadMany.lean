import Vscp.LevelTwoRead

set_option autoImplicit false

namespace Vscp.RemoteTcp

open Registers (dataAt class1Protocol class2Level1Protocol typeExtendedPageResponse)

structure BurstTurn where
  available : Int
  received : List VscpEvent
  clock : UInt32
  resendClock : UInt32

-- `receiveFlags` is the low half of receive_flags, the only one that is compared. Beside what the function holds stand
-- the places that were written and the events that were handed out.
structure BlockWait where
  e : VscpEventEx
  data : Vector UInt8 256
  receiveFlags : Nat
  resendTime : UInt64
  pval : Bytes
  dataWrites : List Nat
  pvalWrites : List Nat
  heard : List VscpEvent
  outcome : Option Int

def nPages (count : UInt8) : Nat := count.toNat / 4 + if count.toNat % 4 ≠ 0 then 1 else 0

def lastpageCnt (count : UInt8) : Nat := count.toNat % 4

def allRcvValue (count : UInt8) : Nat := 2 ^ nPages count - 1

def resendStep (call : RegisterCall) (count : UInt8) : UInt64 :=
  call.resendTimeout.toUInt64 * UInt64.ofNat (1 + nPages count)

def putByte (data : Vector UInt8 256) (index : Nat) (byte : UInt8) : Vector UInt8 256 := data.setIfInBounds index byte

@[grind =] def copyBytes (data : Vector UInt8 256) (start : Nat) (source : Nat → UInt8) : Nat → Vector UInt8 256
  | 0 => data
  | n + 1 => putByte (copyBytes data start source n) (start + n) (source n)

def samePage (call : RegisterCall) (offset : Nat) (e : VscpEventEx) : Bool :=
  dataAt e (offset + 1) = (call.page >>> 8).toUInt8 ∧ dataAt e (offset + 2) = call.page.toUInt8

-- The frame that says to be number count - 1 is taken for the last one.
def frameBytes (count index : UInt8) : Nat :=
  if lastpageCnt count ≠ 0 ∧ (count.toNat : Int) - 1 = index.toNat then lastpageCnt count else 4

-- A shift of an int by more than 31 places is not defined; here as the processor does it.
def takeFrame (count : UInt8) (offset : Nat) (wait : BlockWait) : BlockWait :=
  let index := dataAt wait.e offset
  let n := frameBytes count index
  { wait with
    receiveFlags := wait.receiveFlags ||| 2 ^ (index.toNat % 32)
    data := copyBytes wait.data (index.toNat * 4) (fun i => dataAt wait.e (offset + 4 + i)) n
    dataWrites := wait.dataWrites ++ (List.range n).map (index.toNat * 4 + ·) }

inductive FrameKind
  | level1
  | level1Carried
  | level2
  | other
deriving DecidableEq

def frameKind (call : RegisterCall) (e : VscpEventEx) : FrameKind :=
  if e.vscpClass = class1Protocol ∧ e.vscpType = typeExtendedPageResponse then .level1
  else if call.ifGUID ≠ nullGuid ∧ ¬ call.bLevel2 ∧ e.vscpClass = class2Level1Protocol ∧
      e.vscpType = typeExtendedPageResponse then .level1Carried
  else if call.ifGUID = nullGuid ∧ call.bLevel2 ∧ e.vscpClass = class2Protocol ∧ e.vscpType = type2ReadWriteResponse then
    .level2
  else .other

def takePage (call : RegisterCall) (dest : Guid) (count : UInt8) (offset : Nat) (wait : BlockWait) : BlockWait :=
  if wait.e.guid = dest ∧ samePage call offset wait.e then takeFrame count offset wait else wait

def takeEvent (call : RegisterCall) (dest : Guid) (count : UInt8) (wait : BlockWait) : BlockWait × Bool :=
  match frameKind call wait.e with
  | .level1 => (takePage call dest count 0 wait, false)
  | .level1Carried => (takePage call dest count 16 wait, false)
  | .level2 =>
      if wait.e.guid = dest ∧ responseRegister wait.e = call.reg then
        ({ wait with pval := wait.pval.set 0 (dataAt wait.e 4), pvalWrites := wait.pvalWrites ++ [0] }, true)
      else (wait, false)
  | .other => (wait, false)

def BlockWait.hold (wait : BlockWait) (e : VscpEventEx) (ev : VscpEvent) : BlockWait :=
  { wait with e := e, heard := wait.heard ++ [ev] }

@[grind =] def receiveAll (call : RegisterCall) (dest : Guid) (count : UInt8) (wait : BlockWait) : List VscpEvent → BlockWait
  | [] => wait
  | ev :: later =>
      match convertEventToEventEx wait.e ev with
      | none => wait
      | some e =>
          let wait := wait.hold e ev
          if wait.receiveFlags = allRcvValue count then wait
          else
            let taken := takeEvent call dest count wait
            if taken.2 then taken.1 else receiveAll call dest count taken.1 later

def settle (count : UInt8) (wait : BlockWait) : BlockWait :=
  if wait.receiveFlags = allRcvValue count then
    { wait with
      pval := wait.data.toList.take count.toNat ++ wait.pval.drop count.toNat
      pvalWrites := wait.pvalWrites ++ List.range count.toNat
      outcome := some 0 }
  else wait

def burst (call : RegisterCall) (dest : Guid) (count : UInt8) (wait : BlockWait) (turn : BurstTurn) : BlockWait :=
  if 0 < turn.available then receiveAll call dest count wait turn.received else wait

def blockTurn (call : RegisterCall) (dest : Guid) (count : UInt8) (wait : BlockWait) (turn : BurstTurn) :
    BlockWait × List VscpEventEx :=
  if wait.outcome.isSome then (wait, [])
  else
    let wait := burst call dest count wait turn
    if call.errorTimeout < turn.clock - call.startTime then ({ wait with outcome := some VscpError.timeout.code }, [])
    else if wait.resendTime < (turn.resendClock - call.startTime).toUInt64 then
      (settle count { wait with resendTime := wait.resendTime + resendStep call count }, [wait.e])
    else (settle count wait, [])

def blockStart (call : RegisterCall) (count : UInt8) (pval : Bytes) (request : VscpEventEx)
    (data : Vector UInt8 256) : BlockWait :=
  settle count ⟨request, data, 0, resendStep call count, pval, [], [], [], none⟩

structure BlockResult where
  final : BlockWait
  sent : List VscpEventEx

def readLevel2Registers (call : RegisterCall) (count : UInt8) (pval : Option Bytes) (pdestGUID : Option Guid)
    (e : VscpEventEx) (data : Vector UInt8 256) (turns : List BurstTurn) : BlockResult :=
  let refused : BlockResult := ⟨⟨e, data, 0, 0, pval.getD [], [], [], [], some VscpError.parameter.code⟩, []⟩
  if 128 < count then refused
  else
    match pval with
    | none => refused
    | some pval =>
        match pdestGUID with
        | none => refused
        | some dest =>
            let request := readRequest call dest count e
            let done := Run.run (blockTurn call dest count) (blockStart call count pval request data) turns
            ⟨done.1, request :: done.2⟩

def FrameAt (ev : VscpEvent) (offset : Nat) : Prop :=
  ev.vscpType = typeExtendedPageResponse ∧
    ((ev.vscpClass = class1Protocol ∧ offset = 0) ∨ (ev.vscpClass = class2Level1Protocol ∧ offset = 16))

def ValueFrom (call : RegisterCall) (dest : Guid) (ev : VscpEvent) (k : Nat) (byte : UInt8) : Prop :=
  ev.guid = dest ∧ ∃ offset, FrameAt ev offset ∧ ownByte ev (offset + 1) = some (call.page >>> 8).toUInt8 ∧
    ownByte ev (offset + 2) = some call.page.toUInt8 ∧
    (∃ first, ownByte ev (offset + 3) = some first ∧ first.toNat + k % 4 = call.reg.toNat + k) ∧
    ownByte ev (offset + 4 + k % 4) = some byte

structure BlockRight (call : RegisterCall) (pdestGUID : Option Guid) (count : UInt8) (result : BlockResult) : Prop where
  dataWrites : ∀ index ∈ result.final.dataWrites, index < 256
  pvalWrites : ∀ index ∈ result.final.pvalWrites, index < count.toNat
  received : result.final.outcome = some 0 → ∃ dest, pdestGUID = some dest ∧ ∀ k, k < count.toNat →
    ∃ byte, result.final.pval[k]? = some byte ∧ ∃ ev ∈ result.final.heard, ValueFrom call dest ev k byte

-- A frame that passes the tests is one of this answer: its number is one of those that are due, its registers are those
-- of that number, and its data reaches to the last of them.
def FrameOrderly (call : RegisterCall) (dest : Guid) (count : UInt8) (offset : Nat) (ev : VscpEvent)
    (e : VscpEventEx) : Prop :=
  e.guid = dest → samePage call offset e → (dataAt e offset).toNat < nPages count ∧
    (dataAt e (offset + 3)).toNat = call.reg.toNat + 4 * (dataAt e offset).toNat ∧
    offset + 4 + min 4 (count.toNat - 4 * (dataAt e offset).toNat) ≤ ev.sizeData.toNat

def EventOrderly (call : RegisterCall) (dest : Guid) (count : UInt8) (ev : VscpEvent) (e : VscpEventEx) : Prop :=
  (frameKind call e = .level1 → FrameOrderly call dest count 0 ev e) ∧
    (frameKind call e = .level1Carried → FrameOrderly call dest count 16 ev e)

@[grind =] def BurstOrderly (call : RegisterCall) (dest : Guid) (count : UInt8) (wait : BlockWait) : List VscpEvent → Prop
  | [] => True
  | ev :: later => ∀ e, convertEventToEventEx wait.e ev = some e → wait.receiveFlags ≠ allRcvValue count →
      EventOrderly call dest count ev e ∧
        ((takeEvent call dest count (wait.hold e ev)).2 = false →
          BurstOrderly call dest count (takeEvent call dest count (wait.hold e ev)).1 later)

def TurnOrderly (call : RegisterCall) (dest : Guid) (count : UInt8) (wait : BlockWait) (turn : BurstTurn) : Prop :=
  wait.outcome = none → 0 < turn.available → BurstOrderly call dest count wait turn.received

section copies

variable (data : Vector UInt8 256) (start : Nat) (source : Nat → UInt8)

theorem copy_bytes_entry (n k : Nat) (room : k < 256) :
    (copyBytes data start source n)[k]? =
      if start ≤ k ∧ k < start + n then some (source (k - start)) else data[k]? := by
  induction n with
  | zero =>
      rw [copyBytes, if_neg]
      omega
  | succ n ih =>
      rw [copyBytes, putByte, Vector.getElem?_setIfInBounds]
      by_cases here : start + n = k
      · subst here
        rw [if_pos rfl, if_pos room, if_pos (by omega), Nat.add_sub_cancel_left]
      · rw [if_neg here, ih]
        refine if_congr ?_ rfl rfl
        omega

end copies

section frame

variable (count : UInt8) (offset : Nat) (wait : BlockWait)

theorem take_frame_data : (takeFrame count offset wait).data =
    copyBytes wait.data ((dataAt wait.e offset).toNat * 4) (fun i => dataAt wait.e (offset + 4 + i))
      (frameBytes count (dataAt wait.e offset)) := rfl

theorem take_frame_flags : (takeFrame count offset wait).receiveFlags =
    wait.receiveFlags ||| 2 ^ ((dataAt wait.e offset).toNat % 32) := rfl

theorem take_frame_heard : (takeFrame count offset wait).heard = wait.heard := rfl

theorem take_frame_outcome : (takeFrame count offset wait).outcome = wait.outcome := rfl

end frame

section invariant

variable (call : RegisterCall) (dest : Guid) (count : UInt8)

def Known (heard : List VscpEvent) (k : Nat) (byte : UInt8) : Prop := ∃ ev ∈ heard, ValueFrom call dest ev k byte

structure BlockInv (wait : BlockWait) : Prop where
  dataWrites : ∀ index ∈ wait.dataWrites, index < 256
  pvalWrites : ∀ index ∈ wait.pvalWrites, index < count.toNat
  running : wait.outcome = none → wait.receiveFlags ≠ allRcvValue count → 0 < count.toNat
  marked : ∀ k, k < count.toNat → wait.receiveFlags.testBit (k / 4) = true →
    ∃ byte, wait.data[k]? = some byte ∧ Known call dest wait.heard k byte
  done : wait.outcome = some 0 → ∀ k, k < count.toNat →
    ∃ byte, wait.pval[k]? = some byte ∧ Known call dest wait.heard k byte

theorem known_later (heard later : List VscpEvent) (k : Nat) (byte : UInt8) (known : Known call dest heard k byte) :
    Known call dest (heard ++ later) k byte := by
  obtain ⟨ev, member, value⟩ := known
  exact ⟨ev, List.mem_append_left later member, value⟩

theorem frame_bytes_cover (index : UInt8) (due : index.toNat < nPages count) (k : Nat) (inside : k < count.toNat)
    (own : k / 4 = index.toNat) : index.toNat * 4 ≤ k ∧ k < index.toNat * 4 + frameBytes count index := by
  have within := Nat.div_add_mod k 4
  rw [frameBytes, lastpageCnt]
  split
  case isTrue last =>
    obtain ⟨partly, said⟩ := last
    rw [nPages] at due
    split at due <;> omega
  case isFalse => omega

theorem frame_bytes_most (index : UInt8) : frameBytes count index ≤ 4 := by
  rw [frameBytes, lastpageCnt]
  split <;> omega

theorem pages_most (small : count.toNat ≤ 128) : nPages count ≤ 32 := by
  rw [nPages]
  split <;> omega

theorem take_page_inv (small : count.toNat ≤ 128) (offset : Nat) (wait : BlockWait) (ev : VscpEvent)
    (frame : FrameAt ev offset) (latest : ev ∈ wait.heard) (held : Held ev wait.e)
    (orderly : FrameOrderly call dest count offset ev wait.e) (inv : BlockInv call dest count wait)
    (waiting : wait.outcome = none) (unfinished : wait.receiveFlags ≠ allRcvValue count) :
    BlockInv call dest count (takePage call dest count offset wait) := by
  rw [takePage]
  split
  case isFalse => exact inv
  case isTrue passes =>
    obtain ⟨due, first, reaches⟩ := orderly passes.1 passes.2
    have most := frame_bytes_most count (dataAt wait.e offset)
    have pages := pages_most count small
    have page := of_decide_eq_true passes.2
    refine ⟨?_, inv.pvalWrites, fun _ _ => inv.running waiting unfinished, ?_, fun success => ?_⟩
    · intro place member
      rcases List.mem_append.mp member with earlier | now
      · exact inv.dataWrites place earlier
      · obtain ⟨i, inside, rfl⟩ := List.mem_map.mp now
        have bound := List.mem_range.mp inside
        omega
    · intro k inside flagged
      have entry := copy_bytes_entry wait.data ((dataAt wait.e offset).toNat * 4)
        (fun i => dataAt wait.e (offset + 4 + i)) (frameBytes count (dataAt wait.e offset)) k (by omega)
      rw [take_frame_data, take_frame_heard, entry]
      by_cases own : k / 4 = (dataAt wait.e offset).toNat
      · have place : k - (dataAt wait.e offset).toNat * 4 = k % 4 := by omega
        rw [if_pos (frame_bytes_cover count _ due k inside own), place]
        have part : k % 4 < min 4 (count.toNat - 4 * (dataAt wait.e offset).toNat) := by omega
        refine ⟨_, rfl, ev, latest, held.guid.symm.trans passes.1, offset, frame, ?_, ?_, ⟨_, held.data _ ?_, ?_⟩, ?_⟩
        · rw [← page.1]
          exact held.data _ (by omega)
        · rw [← page.2]
          exact held.data _ (by omega)
        · omega
        · omega
        · exact held.data _ (by omega)
      · have before : wait.receiveFlags.testBit (k / 4) = true := by
          have small : (dataAt wait.e offset).toNat % 32 = (dataAt wait.e offset).toNat := Nat.mod_eq_of_lt (by omega)
          rw [take_frame_flags, Nat.testBit_or, Nat.testBit_two_pow, small, decide_eq_false (Ne.symm own),
            Bool.or_false] at flagged
          exact flagged
        rw [if_neg (fun within => own (by have most := frame_bytes_most count (dataAt wait.e offset); omega))]
        exact inv.marked k inside before
    · rw [take_frame_outcome, waiting] at success
      cases success

theorem kind_frame (e : VscpEventEx) (ev : VscpEvent) (held : Held ev e) :
    (frameKind call e = .level1 → FrameAt ev 0) ∧ (frameKind call e = .level1Carried → FrameAt ev 16) := by
  rw [frameKind, FrameAt, FrameAt, ← held.vscpClass, ← held.vscpType]
  split
  case isTrue first =>
    refine ⟨fun _ => ⟨first.2, .inl ⟨first.1, rfl⟩⟩, fun same => ?_⟩
    cases same
  case isFalse =>
    split
    case isTrue second =>
      refine ⟨fun same => ?_, fun _ => ⟨second.2.2.2, .inr ⟨second.2.2.1, rfl⟩⟩⟩
      cases same
    case isFalse =>
      split <;> exact ⟨fun same => FrameKind.noConfusion same, fun same => FrameKind.noConfusion same⟩

theorem take_page_outcome (offset : Nat) (wait : BlockWait) :
    (takePage call dest count offset wait).outcome = wait.outcome := by
  rw [takePage]
  split
  · rfl
  · rfl

theorem take_event_outcome (wait : BlockWait) : (takeEvent call dest count wait).1.outcome = wait.outcome := by
  rw [takeEvent]
  cases frameKind call wait.e with
  | level1 => exact take_page_outcome call dest count 0 wait
  | level1Carried => exact take_page_outcome call dest count 16 wait
  | level2 =>
      change (ite _ _ _ : BlockWait × Bool).1.outcome = _
      split
      · rfl
      · rfl
  | other => rfl

theorem take_event_inv (small : count.toNat ≤ 128) (wait : BlockWait) (ev : VscpEvent) (latest : ev ∈ wait.heard)
    (held : Held ev wait.e) (orderly : EventOrderly call dest count ev wait.e) (inv : BlockInv call dest count wait)
    (waiting : wait.outcome = none) (unfinished : wait.receiveFlags ≠ allRcvValue count) :
    BlockInv call dest count (takeEvent call dest count wait).1 := by
  have frames := kind_frame call wait.e ev held
  rw [takeEvent]
  cases kind : frameKind call wait.e with
  | level1 =>
      exact take_page_inv call dest count small 0 wait ev (frames.1 kind) latest held (orderly.1 kind) inv waiting unfinished
  | level1Carried =>
      exact take_page_inv call dest count small 16 wait ev (frames.2 kind) latest held (orderly.2 kind) inv waiting
        unfinished
  | level2 =>
      change BlockInv call dest count (ite _ _ _ : BlockWait × Bool).1
      split
      case isTrue =>
        have some := inv.running waiting unfinished
        refine ⟨inv.dataWrites, ?_, fun _ _ => some, inv.marked, fun success => ?_⟩
        · intro index member
          rcases List.mem_append.mp member with earlier | now
          · exact inv.pvalWrites index earlier
          · rw [List.mem_singleton.mp now]
            exact some
        · exact absurd (waiting.symm.trans success) (Option.some_ne_none 0).symm
      case isFalse => exact inv
  | other => exact inv

theorem receive_all_cons (wait : BlockWait) (e : VscpEventEx) (ev : VscpEvent) (later : List VscpEvent)
    (converted : convertEventToEventEx wait.e ev = some e) :
    receiveAll call dest count wait (ev :: later) =
      if (wait.hold e ev).receiveFlags = allRcvValue count then wait.hold e ev
      else if (takeEvent call dest count (wait.hold e ev)).2 then (takeEvent call dest count (wait.hold e ev)).1
      else receiveAll call dest count (takeEvent call dest count (wait.hold e ev)).1 later := by
  rw [receiveAll, converted]

theorem receive_all_inv (small : count.toNat ≤ 128) (wait : BlockWait) (received : List VscpEvent)
    (inv : BlockInv call dest count wait) (waiting : wait.outcome = none)
    (orderly : BurstOrderly call dest count wait received) :
    BlockInv call dest count (receiveAll call dest count wait received) ∧
      (receiveAll call dest count wait received).outcome = none := by
  induction received generalizing wait with
  | nil => exact ⟨inv, waiting⟩
  | cons ev later ih =>
      cases converted : convertEventToEventEx wait.e ev with
      | none =>
          rw [receiveAll, converted]
          exact ⟨inv, waiting⟩
      | some e =>
          have held : Held ev (wait.hold e ev).e := held_of_convert wait.e e ev converted
          have inv' : BlockInv call dest count (wait.hold e ev) := by
            refine ⟨inv.dataWrites, inv.pvalWrites, inv.running, ?_, ?_⟩
            · intro k inside flagged
              obtain ⟨byte, entry, known⟩ := inv.marked k inside flagged
              exact ⟨byte, entry, known_later call dest _ _ k byte known⟩
            · intro success
              exact absurd (waiting.symm.trans success) (Option.some_ne_none 0).symm
          have latest : ev ∈ (wait.hold e ev).heard := List.mem_append_right wait.heard (List.mem_singleton_self ev)
          rw [receive_all_cons call dest count wait e ev later converted]
          by_cases finished : (wait.hold e ev).receiveFlags = allRcvValue count
          · rw [if_pos finished]
            exact ⟨inv', waiting⟩
          · obtain ⟨now, rest⟩ := orderly e converted finished
            have next := take_event_inv call dest count small _ ev latest held now inv' waiting finished
            have still : (takeEvent call dest count (wait.hold e ev)).1.outcome = none :=
              (take_event_outcome call dest count (wait.hold e ev)).trans waiting
            rw [if_neg finished]
            by_cases left : (takeEvent call dest count (wait.hold e ev)).2 = true
            · rw [if_pos left]
              exact ⟨next, still⟩
            · rw [if_neg left]
              exact ih _ next still (rest (Bool.eq_false_iff.mpr left))

theorem settle_inv (small : count.toNat ≤ 128) (wait : BlockWait) (inv : BlockInv call dest count wait) :
    BlockInv call dest count (settle count wait) := by
  rw [settle]
  split
  case isFalse => exact inv
  case isTrue finished =>
    have known (k : Nat) (inside : k < count.toNat) :
        ∃ byte, wait.data[k]? = some byte ∧ Known call dest wait.heard k byte := by
      refine inv.marked k inside ?_
      have page : k / 4 < nPages count := by
        rw [nPages]
        split <;> omega
      rw [finished, allRcvValue, Nat.testBit_two_pow_sub_one]
      exact decide_eq_true page
    refine ⟨inv.dataWrites, ?_, fun running => ?_, inv.marked, fun _ k inside => ?_⟩
    · intro index member
      rcases List.mem_append.mp member with earlier | now
      · exact inv.pvalWrites index earlier
      · exact List.mem_range.mp now
    · cases running
    · obtain ⟨byte, entry, from'⟩ := known k inside
      refine ⟨byte, ?_, from'⟩
      have room : k < (wait.data.toList.take count.toNat).length := by
        rw [List.length_take, Vector.length_toList]
        omega
      rw [List.getElem?_append_left room, List.getElem?_take_of_lt inside, Vector.getElem?_toList]
      exact entry

theorem block_turn_inv (small : count.toNat ≤ 128) (wait : BlockWait) (turn : BurstTurn)
    (inv : BlockInv call dest count wait) (orderly : TurnOrderly call dest count wait turn) :
    BlockInv call dest count (blockTurn call dest count wait turn).1 := by
  rw [blockTurn]
  by_cases ended : wait.outcome.isSome
  · rw [if_pos ended]
    exact inv
  have waiting : wait.outcome = none := Option.not_isSome_iff_eq_none.mp ended
  rw [if_neg ended]
  obtain ⟨kept, still⟩ : BlockInv call dest count (burst call dest count wait turn) ∧
      (burst call dest count wait turn).outcome = none := by
    rw [burst]
    by_cases some : 0 < turn.available
    · rw [if_pos some]
      exact receive_all_inv call dest count small wait turn.received inv waiting (orderly waiting some)
    · rw [if_neg some]
      exact ⟨inv, waiting⟩
  generalize burst call dest count wait turn = next at kept still
  by_cases late : call.errorTimeout < turn.clock - call.startTime
  · rw [if_pos late]
    refine ⟨kept.dataWrites, kept.pvalWrites, fun running => ?_, kept.marked, fun success => ?_⟩
    · cases running
    · have wrong : VscpError.timeout.code = 0 := Option.some_inj.mp success
      exact absurd wrong (by decide)
  rw [if_neg late]
  by_cases due : next.resendTime < (turn.resendClock - call.startTime).toUInt64
  · rw [if_pos due]
    exact settle_inv call dest count small _ ⟨kept.dataWrites, kept.pvalWrites, kept.running, kept.marked, kept.done⟩
  · rw [if_neg due]
    exact settle_inv call dest count small next kept

theorem block_start_inv (small : count.toNat ≤ 128) (pval : Bytes) (request : VscpEventEx) (data : Vector UInt8 256) :
    BlockInv call dest count (blockStart call count pval request data) := by
  refine settle_inv call dest count small _ ⟨?_, ?_, ?_, ?_, ?_⟩
  · exact fun _ member => absurd member List.not_mem_nil
  · exact fun _ member => absurd member List.not_mem_nil
  · intro _ unfinished
    by_contra none
    have zero : count.toNat = 0 := by omega
    exact unfinished (by rw [allRcvValue, nPages, zero]; rfl)
  · intro k _ flagged
    change Nat.testBit 0 (k / 4) = true at flagged
    rw [Nat.zero_testBit] at flagged
    cases flagged
  · intro success
    cases success

end invariant

theorem read_level2_registers_right (call : RegisterCall) (count : UInt8) (pval : Option Bytes)
    (pdestGUID : Option Guid) (e : VscpEventEx) (data : Vector UInt8 256) (turns : List BurstTurn)
    (orderly : ∀ block dest, pval = some block → pdestGUID = some dest → count ≤ 128 →
      Run.Meets (blockTurn call dest count) (TurnOrderly call dest count)
        (blockStart call count block (readRequest call dest count e) data) turns) :
    BlockRight call pdestGUID count (readLevel2Registers call count pval pdestGUID e data turns) := by
  have refused (block : Bytes) : BlockRight call pdestGUID count
      ⟨⟨e, data, 0, 0, block, [], [], [], some VscpError.parameter.code⟩, []⟩ := by
    refine ⟨fun _ member => absurd member List.not_mem_nil, fun _ member => absurd member List.not_mem_nil, ?_⟩
    intro success
    have wrong : VscpError.parameter.code = 0 := Option.some_inj.mp success
    exact absurd wrong (by decide)
  unfold readLevel2Registers
  by_cases many : 128 < count
  · rw [if_pos many]
    exact refused _
  rw [if_neg many]
  have few : count ≤ 128 := UInt8.not_lt.mp many
  cases pval with
  | none => exact refused _
  | some block =>
      cases pdestGUID with
      | none => exact refused _
      | some dest =>
          have small : count.toNat ≤ 128 := UInt8.le_iff_toNat_le.mp few
          have final := Run.run_meets_invariant (blockTurn call dest count) (TurnOrderly call dest count)
            (BlockInv call dest count) (fun wait turn => block_turn_inv call dest count small wait turn) _ turns
            (block_start_inv call dest count small block (readRequest call dest count e) data)
            (orderly block dest rfl rfl few)
          exact ⟨final.dataWrites, final.pvalWrites, fun success => ⟨dest, rfl, final.done success⟩⟩

def nearFrame : VscpEvent :=
  ⟨0, 0, 0, 0, 0, class1Protocol, typeExtendedPageResponse, nodeGuid, 8, some [0, 0, 0, 1, 5, 6, 7, 8], 0⟩

theorem near_frame_orderly (e : VscpEventEx) (held : Held nearFrame e) :
    EventOrderly firstCall nodeGuid 4 nearFrame e := by
  have byte (index : Nat) (inside : index < 8) := held.data index inside
  have number : dataAt e 0 = 0 := Option.some_inj.mp (byte 0 (by decide)).symm
  have first : dataAt e 3 = 1 := Option.some_inj.mp (byte 3 (by decide)).symm
  have kind : frameKind firstCall e = .level1 := by
    rw [frameKind, held.vscpClass, held.vscpType]
    rfl
  refine ⟨fun _ _ _ => ?_, fun other => ?_⟩
  · rw [number, first]
    decide
  · rw [kind] at other
    cases other

theorem block_read_example :
    BlockRight firstCall (some nodeGuid) 4 (readLevel2Registers firstCall 4 (some [0, 0, 0, 0]) (some nodeGuid)
      emptyEventEx (Vector.replicate 256 0) [⟨1, [nearFrame], 0, 0⟩]) := by
  refine read_level2_registers_right firstCall 4 _ _ _ _ _ ?_
  intro block dest _ given _
  cases given
  refine ⟨fun _ _ e converted _ => ⟨near_frame_orderly e (held_of_convert _ e nearFrame converted), ?_⟩, trivial⟩
  exact fun _ => trivial

def farFrame : VscpEvent :=
  ⟨0, 0, 0, 0, 0, class1Protocol, typeExtendedPageResponse, nodeGuid, 8, some [64, 0, 0, 1, 0, 0, 0, 0], 0⟩

def farTurn : BurstTurn := ⟨1, [farFrame], 0, 0⟩

theorem far_waits : 0 < farTurn.available := Int.one_pos

def farResult : BlockResult :=
  readLevel2Registers firstCall 4 (some [0, 0, 0, 0]) (some nodeGuid) emptyEventEx (Vector.replicate 256 0) [farTurn]

theorem settle_data_writes (count : UInt8) (wait : BlockWait) : (settle count wait).dataWrites = wait.dataWrites := by
  rw [settle]
  split
  · rfl
  · rfl

theorem block_turn_data_writes (call : RegisterCall) (dest : Guid) (count : UInt8) (wait : BlockWait) (turn : BurstTurn)
    (waiting : wait.outcome = none) :
    (blockTurn call dest count wait turn).1.dataWrites = (burst call dest count wait turn).dataWrites := by
  have further : ¬ wait.outcome.isSome := Option.not_isSome_iff_eq_none.mpr waiting
  rw [blockTurn, if_neg further]
  generalize burst call dest count wait turn = next
  by_cases late : call.errorTimeout < turn.clock - call.startTime
  · rw [if_pos late]
  rw [if_neg late]
  by_cases due : next.resendTime < (turn.resendClock - call.startTime).toUInt64
  · rw [if_pos due]
    exact settle_data_writes count _
  · rw [if_neg due]
    exact settle_data_writes count next

section single

variable (call : RegisterCall) (dest : Guid) (count : UInt8) (pval : Bytes) (e : VscpEventEx) (data : Vector UInt8 256)

theorem read_many_single (turn : BurstTurn) (few : ¬ 128 < count) :
    (readLevel2Registers call count (some pval) (some dest) e data [turn]).final =
      (blockTurn call dest count (blockStart call count pval (readRequest call dest count e) data) turn).1 := by
  unfold readLevel2Registers
  rw [if_neg few]
  rfl

theorem block_start_waits (some : 0 ≠ allRcvValue count) :
    (blockStart call count pval e data).outcome = none ∧ (blockStart call count pval e data).receiveFlags = 0 := by
  rw [blockStart, settle, if_neg some]
  exact ⟨rfl, rfl⟩

end single

theorem far_frame_taken (wait : BlockWait) (unfinished : wait.receiveFlags ≠ allRcvValue 4) :
    256 ∈ (receiveAll firstCall nodeGuid 4 wait [farFrame]).dataWrites := by
  obtain ⟨e, converted⟩ : ∃ e, convertEventToEventEx wait.e farFrame = some e := ⟨_, rfl⟩
  have held := held_of_convert wait.e e farFrame converted
  have byte (index : Nat) (inside : index < 8) := held.data index inside
  have number : dataAt e 0 = 64 := Option.some_inj.mp (byte 0 (by decide)).symm
  have kind : frameKind firstCall e = .level1 := by
    rw [frameKind, held.vscpClass, held.vscpType]
    rfl
  have passes : e.guid = nodeGuid ∧ samePage firstCall 0 e = true :=
    ⟨held.guid, decide_eq_true ⟨Option.some_inj.mp (byte 1 (by decide)).symm,
      Option.some_inj.mp (byte 2 (by decide)).symm⟩⟩
  have taken : takeEvent firstCall nodeGuid 4 (wait.hold e farFrame) = (takeFrame 4 0 (wait.hold e farFrame), false) := by
    rw [takeEvent]
    change (match frameKind firstCall e with | .level1 => _ | .level1Carried => _ | .level2 => _ | .other => _) = _
    rw [kind]
    exact congrArg (·, false) (if_pos passes)
  have further : (wait.hold e farFrame).receiveFlags ≠ allRcvValue 4 := unfinished
  rw [receive_all_cons firstCall nodeGuid 4 wait e farFrame [] converted, if_neg further, taken]
  refine List.mem_append_right _ (List.mem_map.mpr ⟨0, List.mem_range.mpr ?_, ?_⟩)
  · change 0 < frameBytes 4 (dataAt e 0)
    rw [number]
    decide
  · change (dataAt e 0).toNat * 4 + 0 = 256
    rw [number]
    rfl

-- The frame is written behind the array.
theorem far_frame_outside : ¬ BlockRight firstCall (some nodeGuid) 4 farResult := by
  intro right
  obtain ⟨waiting, unmarked⟩ := block_start_waits firstCall 4 [0, 0, 0, 0] (readRequest firstCall nodeGuid 4 emptyEventEx)
    (Vector.replicate 256 0) (by decide)
  have outside : 256 ∈ farResult.final.dataWrites := by
    rw [farResult, read_many_single _ _ _ _ _ _ _ (by decide), block_turn_data_writes _ _ _ _ _ waiting, burst,
      if_pos far_waits]
    refine far_frame_taken _ ?_
    rw [unmarked]
    decide
  have inside := right.dataWrites 256 outside
  omega

end Vscp.RemoteTcp
