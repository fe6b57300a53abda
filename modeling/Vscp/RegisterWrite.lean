import Vscp.RegisterRuns

set_option autoImplicit false

namespace Vscp.Registers

structure WriteCall where
  nickname : UInt8
  guidInterface : Guid
  page : UInt16
  statusCallback : Bool
  timeout : UInt32

structure WriteTurn where
  getcount : Int
  count : UInt16
  receive : Int
  event : Delivered
  clock : UInt32

structure Attempt where
  clear : Int
  send : Int
  startTime : UInt32
  turns : List WriteTurn

structure WriteState where
  regvalues : RegisterMap
  rv : Int
  ex : VscpEventEx
  sent : List VscpEventEx
  reports : List Nat

inductive WriteOutcome
  | failed (rv : Int)
  | returned (rv : Int)
deriving DecidableEq

structure WriteResult where
  sent : List VscpEventEx
  regvalues : RegisterMap
  reports : List Nat
  outcome : Option WriteOutcome

def erase (map : RegisterMap) (reg : UInt8) : RegisterMap := fun other => if other = reg then none else map other

-- operator[] puts a zero where there was nothing.
def fetch (map : RegisterMap) (reg : UInt8) : RegisterMap × UInt8 :=
  match map reg with
  | some value => (map, value)
  | none => (insert map (reg, 0), 0)

def fillData : RegisterMap → List UInt8 → RegisterMap × Bytes
  | map, [] => (map, [])
  | map, key :: keys =>
      let got := fetch map key
      let rest := fillData got.1 keys
      (rest.1, got.2 :: rest.2)

def confirmOne (map : RegisterMap) (pair : UInt8 × UInt8) : RegisterMap :=
  let got := fetch map pair.1
  if pair.2 = got.2 then erase got.1 pair.1 else got.1

def confirm (map : RegisterMap) (ex : VscpEventEx) : RegisterMap := (carried ex).foldl confirmOne map

def heard (nickname : UInt8) (ex : VscpEventEx) : VscpEventEx :=
  if ex.vscpClass = class1Protocol ∧ ex.vscpType = typeExtendedPageResponse then
    { ex with guid := ex.guid.set 15 nickname last_guid_byte }
  else ex

inductive Waited
  | failed (rv : Int) (regvalues : RegisterMap)
  | complete (regvalues : RegisterMap)
  | left (rv : Int) (regvalues : RegisterMap) (ex : VscpEventEx)

def waitTurns (call : WriteCall) (startTime : UInt32) (regvalues : RegisterMap) (ex : VscpEventEx) :
    List WriteTurn → Option Waited
  | [] => none
  | turn :: later =>
      if turn.count ≠ 0 ∧ turn.getcount = 0 then
        if turn.receive ≠ 0 then some (.failed turn.receive regvalues)
        else if answersPage call.nickname call.page turn.event.ex ∧ dataAt turn.event.ex 0 = 0 then
          let regvalues := confirm regvalues turn.event.ex
          if items regvalues = [] then some (.complete regvalues)
          else some (.left 0 regvalues (heard call.nickname turn.event.ex))
        else if call.timeout ≠ 0 ∧ call.timeout < turn.clock - startTime then
          some (.left VscpError.timeout.code regvalues (heard call.nickname turn.event.ex))
        else if call.timeout = 0 then some (.left 0 regvalues (heard call.nickname turn.event.ex))
        else waitTurns call startTime regvalues (heard call.nickname turn.event.ex) later
      else if call.timeout ≠ 0 ∧ call.timeout < turn.clock - startTime then
        some (.left VscpError.timeout.code regvalues ex)
      else if call.timeout = 0 then some (.left turn.getcount regvalues ex)
      else waitTurns call startTime regvalues ex later

def sendFrames (call : WriteCall) : List Frame → List Attempt → WriteState → WriteResult
  | [], _, state => ⟨state.sent, state.regvalues, state.reports, some (.returned state.rv)⟩
  | _ :: _, [], state => ⟨state.sent, state.regvalues, state.reports, none⟩
  | frame :: frames, attempt :: attempts, state =>
      let filled := fillData state.regvalues (frameKeys frame)
      let ex := extendedPage state.ex call.nickname call.guidInterface call.page typeExtendedPageWrite frame.first filled.2
      if attempt.clear ≠ 0 then ⟨state.sent, filled.1, state.reports, some (.failed attempt.clear)⟩
      else if attempt.send ≠ 0 then ⟨state.sent, filled.1, state.reports, some (.failed attempt.send)⟩
      else
        let sent := state.sent ++ [ex]
        match waitTurns call attempt.startTime filled.1 ex attempt.turns with
        | none => ⟨sent, filled.1, state.reports, none⟩
        | some (.failed rv regvalues) => ⟨sent, regvalues, state.reports, some (.failed rv)⟩
        | some (.complete regvalues) => ⟨sent, regvalues, state.reports, some (.returned 0)⟩
        | some (.left rv regvalues ex) =>
            let reports := if call.statusCallback then state.reports ++ [100 * frame.index / frame.nwrites] else state.reports
            sendFrames call frames attempts ⟨regvalues, rv, ex, sent, reports⟩

def writeLevel1RegisterBlock (call : WriteCall) (ex : VscpEventEx) (regvalues : RegisterMap) (attempts : List Attempt) :
    WriteResult :=
  sendFrames call (writeFrames regvalues) attempts ⟨regvalues, 0, ex, [], []⟩

def writtenBy (call : WriteCall) (ex : VscpEventEx) : List (UInt8 × UInt8) :=
  let ifoffset := (interfaceBytes call.guidInterface).length
  (List.range (ex.sizeData.toNat - (ifoffset + 4))).map fun j =>
    (dataAt ex (ifoffset + 3) + UInt8.ofNat j, dataAt ex (ifoffset + 4 + j))

structure WritesPage (call : WriteCall) (ex : VscpEventEx) : Prop where
  vscpType : ex.vscpType = typeExtendedPageWrite
  node : dataAt ex (interfaceBytes call.guidInterface).length = call.nickname
  high : dataAt ex ((interfaceBytes call.guidInterface).length + 1) = (call.page >>> 8).toUInt8
  low : dataAt ex ((interfaceBytes call.guidInterface).length + 2) = call.page.toUInt8

def acceptedNow (call : WriteCall) (turn : WriteTurn) : Prop :=
  turn.count ≠ 0 ∧ turn.getcount = 0 ∧ turn.receive = 0 ∧ answersPage call.nickname call.page turn.event.ex = true ∧
    dataAt turn.event.ex 0 = 0

def Confirmed (call : WriteCall) (ex : VscpEventEx) (attempt : Attempt) : Prop :=
  ∃ turn ∈ attempt.turns, acceptedNow call turn ∧ Matches call.nickname call.page turn.event.ex ∧
    ∀ pair ∈ writtenBy call ex, pair ∈ carried turn.event.ex

structure BlockWritten (call : WriteCall) (regvalues : RegisterMap) (attempts : List Attempt) (result : WriteResult) :
    Prop where
  pages : ∀ ex ∈ result.sent, WritesPage call ex
  -- Each register once, with its value, in the order of the map.
  started : result.sent.flatMap (writtenBy call) <+: items regvalues
  whole : ∀ rv, result.outcome = some (.returned rv) → result.sent.flatMap (writtenBy call) = items regvalues
  confirmed : result.outcome = some (.returned 0) →
    ∃ waited left, attempts = waited ++ left ∧ List.Forall₂ (Confirmed call) result.sent waited

def broken (turn : WriteTurn) : Prop := turn.count ≠ 0 ∧ turn.getcount = 0 ∧ turn.receive ≠ 0

-- An accepted response comes from the node, confirms the whole frame and nothing that is still to be written;
-- no frame is given up unconfirmed but the last one, and that not with success.
def TurnHeeded (call : WriteCall) (requested : RegisterMap) (frame : Frame) (frames : List Frame) (startTime : UInt32)
    (turn : WriteTurn) : Prop :=
  (acceptedNow call turn → turn.event.ex.guid.get nicknameIndex = call.nickname ∧
    (∀ pair ∈ framePairs requested frame, pair ∈ carried turn.event.ex) ∧
    ∀ pair ∈ frames.flatMap (framePairs requested), pair ∉ carried turn.event.ex) ∧
  (¬ acceptedNow call turn → ¬ broken turn →
    if frames = [] then call.timeout = 0 → turn.getcount ≠ 0
    else call.timeout ≠ 0 ∧ ¬ call.timeout < turn.clock - startTime)

def Heeded (call : WriteCall) (requested : RegisterMap) : List Frame → List Attempt → Prop
  | frame :: frames, attempt :: attempts =>
      (∀ turn ∈ attempt.turns, TurnHeeded call requested frame frames attempt.startTime turn) ∧
        Heeded call requested frames attempts
  | _, _ => True

variable (call : WriteCall) (ex : VscpEventEx) (map : RegisterMap)

variable (pairs : List (UInt8 × UInt8)) (reg value : UInt8)

theorem fetch_held (held : map reg = some value) :
    fetch map reg = (map, value) := by
  rw [fetch, held]

theorem fetch_other (reg other : UInt8) (apart : other ≠ reg) :
    (fetch map reg).1 other = map other := by
  unfold fetch
  cases map reg with
  | none => exact if_neg apart
  | some value => rfl

-- A register is only taken out by a pair with its own value.
theorem confirm_one_keeps (pair : UInt8 × UInt8) (reg value : UInt8) (held : map reg = some value)
    (other : pair ≠ (reg, value)) : confirmOne map pair reg = some value := by
  unfold confirmOne
  by_cases same : pair.1 = reg
  · have different : pair.2 ≠ value := fun equal => other (Prod.ext same equal)
    rw [same, fetch_held map reg value held, if_neg different]
    exact held
  · have kept := (fetch_other map pair.1 reg (Ne.symm same)).trans held
    by_cases equal : pair.2 = (fetch map pair.1).2
    · rw [if_pos equal]
      exact (if_neg (Ne.symm same)).trans kept
    · rw [if_neg equal]
      exact kept

theorem confirm_keeps (held : map reg = some value) (absent : (reg, value) ∉ pairs) : pairs.foldl confirmOne map reg = some value := by
  induction pairs generalizing map with
  | nil => exact held
  | cons pair pairs ih =>
      rw [List.mem_cons, not_or] at absent
      exact ih (confirmOne map pair) (confirm_one_keeps map pair reg value held (Ne.symm absent.1)) absent.2

def Holds (map : RegisterMap) (pairs : List (UInt8 × UInt8)) : Prop := ∀ pair ∈ pairs, map pair.1 = some pair.2

theorem fill_data_held (requested : RegisterMap) (keys : List UInt8)
    (held : Holds map (keys.map fun key => (key, (requested key).getD 0))) :
    fillData map keys = (map, keys.map fun key => (requested key).getD 0) := by
  induction keys with
  | nil => rfl
  | cons key keys ih =>
      rw [List.map_cons] at held
      have first := held (key, (requested key).getD 0) List.mem_cons_self
      have rest := ih fun pair member => held pair (List.mem_cons_of_mem _ member)
      rw [fillData, fetch_held map key _ first]
      simp only [rest, List.map_cons]

variable (nickname : UInt8) (guidInterface : Guid)

theorem interface_length : (interfaceBytes guidInterface).length ≤ 16 := by
  unfold interfaceBytes
  split
  · exact Nat.zero_le 16
  · rw [Vector.length_toList]

variable (page vscpType : UInt16)

theorem page_data (reg : UInt8)
    (tail : Bytes) (few : tail.length ≤ 4) (index : Nat) (inside : index < 4 + tail.length) :
    dataAt (extendedPage ex nickname guidInterface page vscpType reg tail)
        ((interfaceBytes guidInterface).length + index) =
      (nickname :: (page >>> 8).toUInt8 :: page.toUInt8 :: reg :: tail).getD index 0 := by
  have short := interface_length guidInterface
  have length : (interfaceBytes guidInterface ++
      (nickname :: (page >>> 8).toUInt8 :: page.toUInt8 :: reg :: tail)).length =
        (interfaceBytes guidInterface).length + (4 + tail.length) := by
    simp only [List.length_append, List.length_cons]
    omega
  have room : (interfaceBytes guidInterface ++
      (nickname :: (page >>> 8).toUInt8 :: page.toUInt8 :: reg :: tail)).length ≤ maxData := by
    rw [length]
    exact Nat.le_trans (m := 24) (by omega) (by decide)
  have read := data_at_overlay (extendedPage ex nickname guidInterface page vscpType reg tail)
    (interfaceBytes guidInterface ++ (nickname :: (page >>> 8).toUInt8 :: page.toUInt8 :: reg :: tail)) ex.data rfl room
    ((interfaceBytes guidInterface).length + index) (by rw [length]; omega)
  rw [read, List.getD_append_right _ _ _ _ (Nat.le_add_right _ _), Nat.add_sub_cancel_left]

theorem page_size (reg : UInt8)
    (tail : Bytes) (few : tail.length ≤ 4) :
    (extendedPage ex nickname guidInterface page vscpType reg tail).sizeData.toNat =
      (interfaceBytes guidInterface).length + 4 + tail.length := by
  have short := interface_length guidInterface
  rw [extendedPage]
  simp only [UInt16.toNat_ofNat', List.length_append, List.length_cons]
  omega

theorem page_written (reg : UInt8) (tail : Bytes) (few : tail.length ≤ 4) :
    WritesPage call (extendedPage ex call.nickname call.guidInterface call.page typeExtendedPageWrite reg tail) ∧
      writtenBy call (extendedPage ex call.nickname call.guidInterface call.page typeExtendedPageWrite reg tail) =
        (List.range tail.length).map fun j => (reg + UInt8.ofNat j, tail.getD j 0) := by
  have data := page_data ex call.nickname call.guidInterface call.page typeExtendedPageWrite reg tail few
  refine ⟨⟨rfl, data 0 (by omega), data 1 (by omega), data 2 (by omega)⟩, ?_⟩
  rw [writtenBy, page_size ex call.nickname call.guidInterface call.page typeExtendedPageWrite reg tail few,
    Nat.add_sub_cancel_left]
  apply List.map_congr_left
  intro j member
  have inside := List.mem_range.mp member
  have value := data (4 + j) (by omega)
  rw [← Nat.add_assoc] at value
  rw [data 3 (by omega), value]
  have behind : 4 + j = j + 1 + 1 + 1 + 1 := by omega
  rw [behind]
  rfl

theorem frame_written (map requested : RegisterMap) (frame : Frame)
    (few : frame.bytes2write ≤ 4) (held : Holds map (framePairs requested frame)) :
    (fillData map (frameKeys frame)).1 = map ∧
    WritesPage call (extendedPage ex call.nickname call.guidInterface call.page typeExtendedPageWrite frame.first
      (fillData map (frameKeys frame)).2) ∧
    writtenBy call (extendedPage ex call.nickname call.guidInterface call.page typeExtendedPageWrite frame.first
      (fillData map (frameKeys frame)).2) = framePairs requested frame := by
  have filled := fill_data_held map requested (frameKeys frame) held
  have length : ((frameKeys frame).map fun key => (requested key).getD 0).length = frame.bytes2write := by
    rw [List.length_map, frameKeys, List.length_map, List.length_range]
  obtain ⟨page, written⟩ := page_written call ex frame.first ((frameKeys frame).map fun key => (requested key).getD 0)
    (by rw [length]; exact few)
  rw [filled]
  refine ⟨rfl, page, written.trans ?_⟩
  have pairs : framePairs requested frame = (List.range frame.bytes2write).map fun j =>
      (frame.first + UInt8.ofNat j, (requested (frame.first + UInt8.ofNat j)).getD 0) := List.map_map
  rw [length, pairs, frameKeys]
  apply List.map_congr_left
  intro j member
  have inside := List.mem_range.mp member
  have bound : j < ((List.range frame.bytes2write).map fun j => frame.first + UInt8.ofNat j).length := by
    rwa [List.length_map, List.length_range]
  rw [List.getD_eq_getElem _ _ (by rwa [List.length_map]), List.getElem_map, List.getElem_map, List.getElem_range]

def late (call : WriteCall) (startTime : UInt32) (turn : WriteTurn) : Prop :=
  call.timeout ≠ 0 ∧ call.timeout < turn.clock - startTime

theorem wait_turn_cases (startTime : UInt32) (map : RegisterMap) (ex : VscpEventEx) (turn : WriteTurn)
    (later : List WriteTurn) :
    (broken turn ∧ waitTurns call startTime map ex (turn :: later) = some (.failed turn.receive map)) ∨
    (acceptedNow call turn ∧ waitTurns call startTime map ex (turn :: later) =
      if items (confirm map turn.event.ex) = [] then some (.complete (confirm map turn.event.ex))
      else some (.left 0 (confirm map turn.event.ex) (heard call.nickname turn.event.ex))) ∨
    (¬ acceptedNow call turn ∧ ¬ broken turn ∧ ∃ heardEx,
      (late call startTime turn ∧
        waitTurns call startTime map ex (turn :: later) = some (.left VscpError.timeout.code map heardEx)) ∨
      (call.timeout = 0 ∧ ∃ rv, (turn.getcount ≠ 0 → rv ≠ 0) ∧
        waitTurns call startTime map ex (turn :: later) = some (.left rv map heardEx)) ∨
      waitTurns call startTime map ex (turn :: later) = waitTurns call startTime map heardEx later) := by
  rw [waitTurns]
  by_cases there : turn.count ≠ 0 ∧ turn.getcount = 0
  · rw [if_pos there]
    by_cases failed : turn.receive ≠ 0
    · exact .inl ⟨⟨there.1, there.2, failed⟩, if_pos failed⟩
    rw [if_neg failed]
    refine .inr ?_
    by_cases answer : answersPage call.nickname call.page turn.event.ex = true ∧ dataAt turn.event.ex 0 = 0
    · rw [if_pos answer]
      exact .inl ⟨⟨there.1, there.2, not_not.mp failed, answer⟩, rfl⟩
    rw [if_neg answer]
    refine .inr ⟨fun all => answer all.2.2.2, fun all => failed all.2.2, heard call.nickname turn.event.ex, ?_⟩
    by_cases expired : call.timeout ≠ 0 ∧ call.timeout < turn.clock - startTime
    · exact .inl ⟨expired, if_pos expired⟩
    rw [if_neg expired]
    by_cases once : call.timeout = 0
    · exact .inr (.inl ⟨once, 0, fun other => absurd there.2 other, if_pos once⟩)
    · exact .inr (.inr (if_neg once))
  · rw [if_neg there]
    refine .inr (.inr ⟨fun all => there ⟨all.1, all.2.1⟩, fun all => there ⟨all.1, all.2.1⟩, ex, ?_⟩)
    by_cases expired : call.timeout ≠ 0 ∧ call.timeout < turn.clock - startTime
    · exact .inl ⟨expired, if_pos expired⟩
    rw [if_neg expired]
    by_cases once : call.timeout = 0
    · exact .inr (.inl ⟨once, turn.getcount, id, if_pos once⟩)
    · exact .inr (.inr (if_neg once))

theorem wait_heeded (requested map : RegisterMap) (frame : Frame) (frames : List Frame)
    (startTime : UInt32) (ex : VscpEventEx) (turns : List WriteTurn)
    (heeded : ∀ turn ∈ turns, TurnHeeded call requested frame frames startTime turn)
    (held : Holds map (frames.flatMap (framePairs requested))) (waited : Waited)
    (done : waitTurns call startTime map ex turns = some waited) :
    (∃ rv regs, waited = .failed rv regs) ∨
    (∃ turn ∈ turns, acceptedNow call turn ∧ Matches call.nickname call.page turn.event.ex ∧
      (∀ pair ∈ framePairs requested frame, pair ∈ carried turn.event.ex) ∧
      ∃ regs, Holds regs (frames.flatMap (framePairs requested)) ∧
        ((waited = .complete regs ∧ items regs = []) ∨ ∃ heardEx, waited = .left 0 regs heardEx)) ∨
    (frames = [] ∧ ∃ rv regs heardEx, waited = .left rv regs heardEx ∧ rv ≠ 0) := by
  induction turns generalizing ex with
  | nil => cases done
  | cons turn later ih =>
      obtain ⟨accepts, passes⟩ := heeded turn List.mem_cons_self
      rcases wait_turn_cases call startTime map ex turn later with ⟨_, failed⟩ | ⟨answer, ended⟩ | ⟨other, unbroken, held', ends⟩
      · rw [failed] at done
        exact .inl ⟨_, _, (Option.some.inj done).symm⟩
      · obtain ⟨own, brings, spares⟩ := accepts answer
        have kept : Holds (confirm map turn.event.ex) (frames.flatMap (framePairs requested)) := fun pair member =>
          confirm_keeps map (carried turn.event.ex) pair.1 pair.2 (held pair member) (spares pair member)
        refine .inr (.inl ⟨turn, List.mem_cons_self, answer, answers_match _ _ _ answer.2.2.2.1 own, brings,
          confirm map turn.event.ex, kept, ?_⟩)
        rw [ended] at done
        by_cases empty : items (confirm map turn.event.ex) = []
        · rw [if_pos empty] at done
          exact .inl ⟨(Option.some.inj done).symm, empty⟩
        · rw [if_neg empty] at done
          exact .inr ⟨_, (Option.some.inj done).symm⟩
      · have patient := passes other unbroken
        rcases ends with ⟨expired, left⟩ | ⟨once, rv, nonzero, left⟩ | on
        · rw [left] at done
          by_cases last : frames = []
          · exact .inr (.inr ⟨last, _, _, _, (Option.some.inj done).symm, by decide⟩)
          · rw [if_neg last] at patient
            exact absurd expired.2 patient.2
        · rw [left] at done
          by_cases last : frames = []
          · rw [if_pos last] at patient
            exact .inr (.inr ⟨last, _, _, _, (Option.some.inj done).symm, nonzero (patient once)⟩)
          · rw [if_neg last] at patient
            exact absurd once patient.1
        · rw [on] at done
          rcases ih held' (fun turn member => heeded turn (List.mem_cons_of_mem _ member)) done with
            failed | ⟨found, inside, rest⟩ | ended
          · exact .inl failed
          · exact .inr (.inl ⟨found, List.mem_cons_of_mem turn inside, rest⟩)
          · exact .inr (.inr ended)

theorem holds_nothing (held : Holds map pairs)
    (empty : items map = []) : pairs = [] := by
  apply List.eq_nil_iff_forall_not_mem.mpr
  intro pair member
  have own := (items_member map pair).mpr (held pair member)
  rw [empty] at own
  cases own

variable (regvalues : RegisterMap)

theorem send_frames_written (frames : List Frame)
    (all waited attempts : List Attempt) (state : WriteState) (together : all = waited ++ attempts)
    (parts : items regvalues = state.sent.flatMap (writtenBy call) ++ frames.flatMap (framePairs regvalues))
    (few : ∀ frame ∈ frames, frame.bytes2write ≤ 4)
    (held : Holds state.regvalues (frames.flatMap (framePairs regvalues)))
    (pages : ∀ ex ∈ state.sent, WritesPage call ex)
    (confirmed : frames ≠ [] ∨ state.rv = 0 → List.Forall₂ (Confirmed call) state.sent waited)
    (heeded : Heeded call regvalues frames attempts) :
    BlockWritten call regvalues all (sendFrames call frames attempts state) := by
  have started : state.sent.flatMap (writtenBy call) <+: items regvalues := by
    rw [parts]
    exact List.prefix_append _ _
  induction frames generalizing waited attempts state with
  | nil =>
      rw [sendFrames]
      rw [List.flatMap_nil, List.append_nil] at parts
      refine ⟨pages, started, fun rv _ => parts.symm, ?_⟩
      intro done
      have success := WriteOutcome.returned.inj (Option.some.inj done)
      exact ⟨waited, attempts, together, confirmed (.inr success)⟩
  | cons frame frames ih =>
      cases attempts with
      | nil => exact ⟨pages, started, by simp [sendFrames], by simp [sendFrames]⟩
      | cons attempt attempts =>
          rw [List.flatMap_cons] at held parts
          have own : Holds state.regvalues (framePairs regvalues frame) := fun pair member =>
            held pair (List.mem_append_left _ member)
          have rest : Holds state.regvalues (frames.flatMap (framePairs regvalues)) := fun pair member =>
            held pair (List.mem_append_right _ member)
          obtain ⟨same, page, written⟩ :=
            frame_written call state.ex state.regvalues regvalues frame (few frame List.mem_cons_self) own
          rw [sendFrames]
          simp only [same]
          generalize extendedPage state.ex call.nickname call.guidInterface call.page typeExtendedPageWrite frame.first
            (fillData state.regvalues (frameKeys frame)).2 = ex at page written ⊢
          by_cases cleared : attempt.clear ≠ 0
          · rw [if_pos cleared]
            exact ⟨pages, started, by simp, by simp⟩
          rw [if_neg cleared]
          by_cases refused : attempt.send ≠ 0
          · rw [if_pos refused]
            exact ⟨pages, started, by simp, by simp⟩
          rw [if_neg refused]
          have more : (state.sent ++ [ex]).flatMap (writtenBy call) =
              state.sent.flatMap (writtenBy call) ++ framePairs regvalues frame := by
            rw [List.flatMap_append, List.flatMap_singleton, written]
          have further : items regvalues =
              (state.sent ++ [ex]).flatMap (writtenBy call) ++ frames.flatMap (framePairs regvalues) := by
            rw [more, parts, List.append_assoc]
          have begun : (state.sent ++ [ex]).flatMap (writtenBy call) <+: items regvalues := by
            rw [further]
            exact List.prefix_append _ _
          have written' : ∀ sent ∈ state.sent ++ [ex], WritesPage call sent := by
            intro sent member
            rcases List.mem_append.mp member with before | now
            · exact pages sent before
            · rwa [List.mem_singleton.mp now]
          have others : all = (waited ++ [attempt]) ++ attempts := by
            rw [together, List.append_assoc]
            rfl
          cases ended : waitTurns call attempt.startTime state.regvalues ex attempt.turns with
          | none => exact ⟨written', begun, by simp, by simp⟩
          | some result =>
              rcases wait_heeded call regvalues state.regvalues frame frames attempt.startTime ex attempt.turns heeded.1
                rest result ended with ⟨rv, regs, rfl⟩ | ⟨turn, inside, answer, matching, brings, regs, kept, ends⟩ |
                ⟨last, rv, regs, heardEx, rfl, nonzero⟩
              · exact ⟨written', begun, by simp, by simp⟩
              · have confirmedNow : List.Forall₂ (Confirmed call) (state.sent ++ [ex]) (waited ++ [attempt]) := by
                  apply List.rel_append (confirmed (.inl (List.cons_ne_nil _ _)))
                  refine .cons ⟨turn, inside, answer, matching, ?_⟩ .nil
                  rw [written]
                  exact brings
                rcases ends with ⟨rfl, empty⟩ | ⟨heardEx, rfl⟩
                · have nothing := holds_nothing regs _ kept empty
                  rw [nothing, List.append_nil] at further
                  exact ⟨written', begun, fun _ _ => further.symm, fun _ => ⟨_, _, others, confirmedNow⟩⟩
                · exact ih (waited ++ [attempt]) attempts _ others further
                    (fun frame member => few frame (List.mem_cons_of_mem _ member)) kept written' (fun _ => confirmedNow)
                    heeded.2 begun
              · subst last
                apply ih (waited ++ [attempt]) attempts _ others further (List.forall_mem_nil _)
                  (fun pair member => by cases member) written' _ trivial begun
                rintro (some | success)
                · exact absurd rfl some
                · exact absurd success nonzero

theorem write_frames_small : ∀ frame ∈ writeFrames regvalues, frame.bytes2write ≤ 4 := by
  intro frame member
  obtain ⟨run, _, inside⟩ := List.mem_flatMap.mp member
  obtain ⟨i, _, rfl⟩ := List.mem_map.mp inside
  exact Nat.min_le_left 4 _

theorem heeded_block_written (call : WriteCall) (ex : VscpEventEx) (regvalues : RegisterMap) (attempts : List Attempt)
    (few : (items regvalues).length < 256) (heeded : Heeded call regvalues (writeFrames regvalues) attempts) :
    BlockWritten call regvalues attempts (writeLevel1RegisterBlock call ex regvalues attempts) := by
  have cover := frames_cover regvalues few
  apply send_frames_written call regvalues (writeFrames regvalues) attempts [] attempts _ rfl
  · rw [List.flatMap_nil, List.nil_append, cover]
  · exact write_frames_small regvalues
  · rw [cover]
    exact fun pair member => (items_member regvalues pair).mp member
  · exact List.forall_mem_nil _
  · exact fun _ => .nil
  · exact heeded

def oneWrite : WriteCall := ⟨1, Vector.replicate 16 0, 0, false, 1000⟩

def onlyFirst : RegisterMap := fun reg => if reg = 0 then some 42 else none

theorem only_first_items : items onlyFirst = [(0, 42)] := by decide

theorem only_first_frames : writeFrames onlyFirst = [⟨0, 1, 0, 1⟩] := by decide

def answeredWith (byte : UInt8) : Attempt :=
  ⟨0, 0, 0, [⟨0, 1, 0, shortResponse 1 byte, 0⟩]⟩

variable (byte : UInt8)

theorem byte_carried : carried (shortResponse 1 byte).ex = [(0, byte)] := by
  have size : (responseOf 1 [0, 0, 0, 0, byte]).sizeData.toNat - 4 = 1 := rfl
  have data := response_data 1 [0, 0, 0, 0, byte] (show 5 ≤ 512 by decide)
  rw [shortResponse, carried, size, List.range_one, List.map_singleton, data 3 (show 3 < 5 by decide), data 4 (show 4 < 5 by decide)]
  rfl

theorem byte_accepted : ∀ turn ∈ (answeredWith byte).turns, acceptedNow oneWrite turn := by
  have data := response_data 1 [0, 0, 0, 0, byte] (show 5 ≤ 512 by decide)
  intro turn member
  cases List.mem_singleton.mp member
  refine ⟨show (1 : UInt16) ≠ 0 by decide, rfl, rfl, decide_eq_true ?_, data 0 (show 0 < 5 by decide)⟩
  exact ⟨rfl, rfl, show (1 : UInt8) ≠ 0 by decide, show (5 : UInt16) ≤ 5 by decide,
    (data 1 (show 1 < 5 by decide)).trans rfl, (data 2 (show 2 < 5 by decide)).trans rfl⟩

theorem heeded_block_written_example :
    BlockWritten oneWrite onlyFirst [answeredWith 42]
      (writeLevel1RegisterBlock oneWrite emptyEventEx onlyFirst [answeredWith 42]) := by
  apply heeded_block_written oneWrite emptyEventEx onlyFirst [answeredWith 42]
  · rw [only_first_items]
    decide
  · rw [only_first_frames]
    refine ⟨?_, trivial⟩
    intro turn member
    refine ⟨?_, fun other => absurd (byte_accepted 42 turn member) other⟩
    intro _
    cases List.mem_singleton.mp member
    refine ⟨rfl, ?_, fun pair none => by cases none⟩
    have pairs : framePairs onlyFirst ⟨0, 1, 0, 1⟩ = [(0, 42)] := rfl
    rw [pairs, byte_carried]
    exact fun pair member => member

theorem frame_has_attempt (sent : List VscpEventEx) (waited : List Attempt)
    (all : List.Forall₂ (Confirmed call) sent waited) (ex : VscpEventEx) (member : ex ∈ sent) :
    ∃ attempt ∈ waited, Confirmed call ex attempt := by
  induction all with
  | nil => cases member
  | cons confirmed _ ih =>
      rcases List.mem_cons.mp member with rfl | later
      · exact ⟨_, List.mem_cons_self, confirmed⟩
      · obtain ⟨attempt, inside, found⟩ := ih later
        exact ⟨attempt, List.mem_cons_of_mem _ inside, found⟩

theorem answered_ends (map : RegisterMap) (ex : VscpEventEx) :
    (∃ regs, waitTurns oneWrite 0 map ex (answeredWith byte).turns = some (.complete regs)) ∨
      ∃ regs heardEx, waitTurns oneWrite 0 map ex (answeredWith byte).turns = some (.left 0 regs heardEx) := by
  have answer := byte_accepted byte _ List.mem_cons_self
  rcases wait_turn_cases oneWrite 0 map ex ⟨0, 1, 0, ⟨responseOf 1 [0, 0, 0, 0, byte], show 5 ≤ 512 by decide⟩, 0⟩ [] with
    ⟨fails, _⟩ | ⟨_, ended⟩ | ⟨other, _⟩
  · exact absurd rfl fails.2.2
  · by_cases empty : items (confirm map (responseOf 1 [0, 0, 0, 0, byte])) = []
    · exact .inl ⟨_, ended.trans (if_pos empty)⟩
    · exact .inr ⟨_, _, ended.trans (if_neg empty)⟩
  · exact absurd answer other

-- A response that carries another byte than the one written is as good as a confirmation.
theorem other_byte_confirms :
    ¬ ∀ (call : WriteCall) (ex : VscpEventEx) (regvalues : RegisterMap) (attempts : List Attempt),
      BlockWritten call regvalues attempts (writeLevel1RegisterBlock call ex regvalues attempts) := by
  intro every
  have written := every oneWrite emptyEventEx onlyFirst [answeredWith 9]
  have returned : (writeLevel1RegisterBlock oneWrite emptyEventEx onlyFirst [answeredWith 9]).outcome =
      some (.returned 0) := by
    rw [writeLevel1RegisterBlock, only_first_frames, sendFrames]
    simp only
    rw [if_neg (fun failed => failed rfl), if_neg (fun failed => failed rfl)]
    rcases answered_ends 9 (fillData onlyFirst (frameKeys ⟨0, 1, 0, 1⟩)).1 (extendedPage emptyEventEx oneWrite.nickname
      oneWrite.guidInterface oneWrite.page typeExtendedPageWrite 0 (fillData onlyFirst (frameKeys ⟨0, 1, 0, 1⟩)).2) with
      ⟨regs, ended⟩ | ⟨regs, heardEx, ended⟩
    · have start : (answeredWith 9).startTime = 0 := rfl
      rw [start, ended]
    · have start : (answeredWith 9).startTime = 0 := rfl
      rw [start, ended]
      rfl
  obtain ⟨waited, left, together, all⟩ := written.confirmed returned
  have whole := written.whole 0 returned
  rw [only_first_items] at whole
  have member : (0, 42) ∈ (writeLevel1RegisterBlock oneWrite emptyEventEx onlyFirst [answeredWith 9]).sent.flatMap
      (writtenBy oneWrite) := by
    rw [whole]
    exact List.mem_singleton_self _
  obtain ⟨ex, sent, pair⟩ := List.mem_flatMap.mp member
  obtain ⟨attempt, there, turn, inside, _, _, brings⟩ := frame_has_attempt oneWrite _ waited all ex sent
  have only : attempt ∈ [answeredWith 9] := by
    rw [together]
    exact List.mem_append_left _ there
  cases List.mem_singleton.mp only
  cases List.mem_singleton.mp inside
  have carries := brings (0, 42) pair
  rw [byte_carried] at carries
  cases List.mem_singleton.mp carries

end Vscp.Registers
