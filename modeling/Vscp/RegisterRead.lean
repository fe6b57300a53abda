import Vscp.RegisterBlock

set_option autoImplicit false

namespace Vscp.Registers

structure ReadCall where
  nickname : UInt8
  page : UInt16
  offset : UInt8
  -- Zero asks for all 256 registers.
  count : UInt8
  statusCallback : Bool
  timeout : UInt32
  startTime : UInt32

-- What one turn of the loop finds: what the client answers, and what the clock reads each time it is asked.
structure ReadTurn where
  getcount : Int
  cntRead : UInt16
  receive : Int
  event : Delivered
  clock : UInt32
  callbackClock : UInt32
  callbackTime : UInt32

structure ReadState where
  frameset : List Nat
  rcvcnt : UInt8
  values : RegisterMap
  callbackTime : UInt32
  -- What the callback was told.
  reports : List Nat

inductive ReadOutcome
  | returned (rv : Int) (values : RegisterMap)
  | dividedByZero

def framesetOf (count : UInt8) : List Nat :=
  List.range (count.toNat / 4) ++ if count.toNat % 4 ≠ 0 then [count.toNat / 4] else []

def takeFrame (state : ReadState) (ex : VscpEventEx) : ReadState :=
  { state with
    frameset := state.frameset.filter fun frame => frame ≠ (dataAt ex 0).toNat
    rcvcnt := state.rcvcnt + UInt8.ofNat (ex.sizeData.toNat - 4)
    values := store state.values (carried ex) }

def receiveTurn (call : ReadCall) (state : ReadState) (turn : ReadTurn) : Except ReadOutcome ReadState :=
  if turn.getcount = 0 ∧ turn.cntRead ≠ 0 then
    if turn.receive ≠ 0 then .error (.returned turn.receive state.values)
    else if answersPage call.nickname call.page turn.event.ex then
      let state := takeFrame state turn.event.ex
      if state.rcvcnt = call.count ∧ state.frameset = [] then .error (.returned 0 state.values) else .ok state
    else .ok state
  else .ok state

def watchTurn (call : ReadCall) (state : ReadState) (turn : ReadTurn) : Except ReadOutcome ReadState :=
  if call.timeout ≠ 0 ∧ call.timeout < turn.clock - call.startTime then
    .error (.returned VscpError.timeout.code state.values)
  else if call.statusCallback ∧ 500 < turn.callbackClock - state.callbackTime then
    if state.rcvcnt = 0 then .error .dividedByZero
    else .ok { state with
      callbackTime := turn.callbackTime
      reports := state.reports ++ [100 * call.count.toNat / state.rcvcnt.toNat] }
  else .ok state

def readTurn (call : ReadCall) (state : ReadState) (turn : ReadTurn) : Except ReadOutcome ReadState :=
  (receiveTurn call state turn).bind fun state => watchTurn call state turn

-- The request that is sent, and none while the loop still waits after the turns it was given.
structure ReadResult where
  sent : List VscpEventEx
  outcome : Option ReadOutcome

def readStart (call : ReadCall) (values : RegisterMap) : ReadState :=
  ⟨framesetOf call.count, 0, values, call.startTime, []⟩

def readLevel1RegisterBlock (call : ReadCall) (ex : VscpEventEx) (guidInterface : Guid) (values : RegisterMap)
    (clear send : Int) (turns : List ReadTurn) : ReadResult :=
  let request := extendedPage ex call.nickname guidInterface call.page typeExtendedPageRead call.offset [call.count]
  if clear ≠ 0 then ⟨[], some (.returned clear values)⟩
  else if send ≠ 0 then ⟨[request], some (.returned send values)⟩
  else
    match turns.foldlM (readTurn call) (readStart call values) with
    | .error outcome => ⟨[request], some outcome⟩
    | .ok _ => ⟨[request], none⟩

def blockSize (count : UInt8) : Nat := if count = 0 then 256 else count.toNat

-- The registers the caller asks for; the addresses go round behind the last one.
def Asked (call : ReadCall) (reg : UInt8) : Prop := (reg - call.offset).toNat < blockSize call.count

def acceptedIn (call : ReadCall) (turn : ReadTurn) : Option VscpEventEx :=
  if turn.getcount = 0 ∧ turn.cntRead ≠ 0 ∧ turn.receive = 0 ∧ answersPage call.nickname call.page turn.event.ex then
    some turn.event.ex
  else none

def accepted (call : ReadCall) (turns : List ReadTurn) : List VscpEventEx := turns.filterMap (acceptedIn call)

def Delivers (turn : ReadTurn) : Prop := turn.getcount = 0 ∧ turn.cntRead ≠ 0 ∧ turn.receive = 0

structure BlockRead (call : ReadCall) (turns : List ReadTurn) (values : RegisterMap) : Prop where
  exact : ∀ reg, (values reg).isSome ↔ Asked call reg
  answered : ∀ reg byte, values reg = some byte →
    ∃ turn ∈ turns, Delivers turn ∧ Matches call.nickname call.page turn.event.ex ∧ (reg, byte) ∈ carried turn.event.ex

-- What the events of a run have to be like: all that is accepted comes from the node and is asked for, and
-- no register comes twice unless every response brings the whole of the frame that it names.
structure Orderly (call : ReadCall) (values : RegisterMap) (turns : List ReadTurn) : Prop where
  before : ∀ reg, (values reg).isSome → Asked call reg
  own : ∀ ex ∈ accepted call turns, ex.guid.get nicknameIndex = call.nickname ∧ ∀ reg ∈ registersOf ex, Asked call reg
  once : ((accepted call turns).flatMap registersOf).Nodup ∨
    (call.count ≠ 0 ∧ ∀ ex ∈ accepted call turns, ∀ reg, Asked call reg →
      (reg - call.offset).toNat / 4 = (dataAt ex 0).toNat → reg ∈ registersOf ex)

def AlongTurns (call : ReadCall) (allowed : ReadState → ReadTurn → Prop) (state : ReadState) : List ReadTurn → Prop
  | [] => True
  | turn :: later => allowed state turn ∧
      ∀ next, readTurn call state turn = .ok next → AlongTurns call allowed next later

def countAfter (call : ReadCall) (state : ReadState) (turn : ReadTurn) : UInt8 :=
  state.rcvcnt + (acceptedIn call turn).elim 0 fun ex => UInt8.ofNat (ex.sizeData.toNat - 4)

def CallbackDue (call : ReadCall) (state : ReadState) (turn : ReadTurn) : Prop :=
  call.statusCallback = true ∧ 500 < turn.callbackClock - state.callbackTime ∧
    ¬ (call.timeout ≠ 0 ∧ call.timeout < turn.clock - call.startTime)

-- When the callback is due some registers have been received; 256 of them count as none, but are all there are.
def SomeReceived (call : ReadCall) (state : ReadState) (turn : ReadTurn) : Prop :=
  CallbackDue call state turn → countAfter call state turn ≠ 0 ∨ (call.count = 0 ∧ acceptedIn call turn ≠ none)

structure Gathered (call : ReadCall) (values : RegisterMap) (past : List VscpEventEx) (state : ReadState) : Prop where
  counted : state.rcvcnt = UInt8.ofNat (past.flatMap registersOf).length
  left : ∀ frame ∈ framesetOf call.count, frame ∉ state.frameset → ∃ ex ∈ past, (dataAt ex 0).toNat = frame
  known : ∀ reg, (state.values reg).isSome ↔ (values reg).isSome ∨ reg ∈ past.flatMap registersOf
  value : ∀ reg byte, state.values reg = some byte →
    (∃ ex ∈ past, (reg, byte) ∈ carried ex) ∨ (values reg = some byte ∧ reg ∉ past.flatMap registersOf)

theorem registers_of_length (ex : VscpEventEx) : (registersOf ex).length = ex.sizeData.toNat - 4 := by
  rw [registersOf, List.length_map, carried, List.length_map, List.length_range]

variable (node : UInt8) (call : ReadCall) (state : ReadState) (turn : ReadTurn) (values : RegisterMap)
    (turns : List ReadTurn)

theorem gathered_start :
    Gathered call values [] (readStart call values) := by
  refine ⟨rfl, ?_, ?_, ?_⟩
  · intro frame member absent
    exact absurd member absent
  · intro reg
    simp [readStart]
  · intro reg byte found
    exact .inr ⟨found, List.not_mem_nil⟩

variable (past : List VscpEventEx)

theorem gathered_frame (state : ReadState)
    (gathered : Gathered call values past state) (ex : VscpEventEx) :
    Gathered call values (past ++ [ex]) (takeFrame state ex) := by
  have more : (past ++ [ex]).flatMap registersOf = past.flatMap registersOf ++ registersOf ex := by
    rw [List.flatMap_append, List.flatMap_singleton]
  refine ⟨?_, ?_, ?_, ?_⟩
  · rw [more, List.length_append, registers_of_length, UInt8.ofNat_add, ← gathered.counted]
    rfl
  · intro frame member absent
    by_cases own : frame = (dataAt ex 0).toNat
    · exact ⟨ex, by simp, own.symm⟩
    · have before : frame ∉ state.frameset := by
        intro there
        exact absent (List.mem_filter.mpr ⟨there, decide_eq_true own⟩)
      obtain ⟨other, inside, same⟩ := gathered.left frame member before
      exact ⟨other, List.mem_append_left _ inside, same⟩
  · intro reg
    rw [takeFrame, store_known, gathered.known, more, List.mem_append, or_assoc]
    rfl
  · intro reg byte found
    rcases store_value state.values (carried ex) reg byte found with now | ⟨old, absent⟩
    · exact .inl ⟨ex, by simp, now⟩
    · rcases gathered.value reg byte old with ⟨other, inside, pair⟩ | ⟨first, missing⟩
      · exact .inl ⟨other, List.mem_append_left _ inside, pair⟩
      · refine .inr ⟨first, ?_⟩
        rw [more, List.mem_append]
        rintro (there | here)
        · exact missing there
        · exact absent here

theorem receive_turn_cases :
    (∃ rv, rv ≠ 0 ∧ receiveTurn call state turn = .error (.returned rv state.values)) ∨
    (acceptedIn call turn = none ∧ receiveTurn call state turn = .ok state) ∨
    (∃ ex, acceptedIn call turn = some ex ∧
      (((takeFrame state ex).rcvcnt = call.count ∧ (takeFrame state ex).frameset = [] ∧
          receiveTurn call state turn = .error (.returned 0 (takeFrame state ex).values)) ∨
        (¬ ((takeFrame state ex).rcvcnt = call.count ∧ (takeFrame state ex).frameset = []) ∧
          receiveTurn call state turn = .ok (takeFrame state ex)))) := by
  unfold receiveTurn
  by_cases there : turn.getcount = 0 ∧ turn.cntRead ≠ 0
  · rw [if_pos there]
    by_cases failed : turn.receive ≠ 0
    · rw [if_pos failed]
      exact .inl ⟨turn.receive, failed, rfl⟩
    rw [if_neg failed]
    by_cases answer : answersPage call.nickname call.page turn.event.ex = true
    · have taken : acceptedIn call turn = some turn.event.ex := if_pos ⟨there.1, there.2, not_not.mp failed, answer⟩
      rw [if_pos answer]
      refine .inr (.inr ⟨turn.event.ex, taken, ?_⟩)
      simp only
      split
      case isTrue ready => exact .inl ⟨ready.1, ready.2, rfl⟩
      case isFalse unready => exact .inr ⟨unready, rfl⟩
    · rw [if_neg answer]
      exact .inr (.inl ⟨if_neg fun all => answer all.2.2.2, rfl⟩)
  · rw [if_neg there]
    exact .inr (.inl ⟨if_neg fun all => there ⟨all.1, all.2.1⟩, rfl⟩)

theorem watch_turn_keeps (state next : ReadState) (turn : ReadTurn)
    (done : watchTurn call state turn = .ok next) :
    next.frameset = state.frameset ∧ next.rcvcnt = state.rcvcnt ∧ next.values = state.values := by
  unfold watchTurn at done
  split at done
  · cases done
  · split at done
    · split at done
      · cases done
      · cases done
        exact ⟨rfl, rfl, rfl⟩
    · cases done
      exact ⟨rfl, rfl, rfl⟩

variable (outcome : ReadOutcome)

theorem watch_turn_fails (failed : watchTurn call state turn = .error outcome) :
    outcome = .returned VscpError.timeout.code state.values ∨
      (outcome = .dividedByZero ∧ CallbackDue call state turn ∧ state.rcvcnt = 0) := by
  unfold watchTurn at failed
  split at failed
  case isTrue => exact .inl (Except.error.inj failed).symm
  case isFalse inTime =>
    split at failed
    case isTrue due =>
      split at failed
      case isTrue none => exact .inr ⟨(Except.error.inj failed).symm, ⟨due.1, due.2, inTime⟩, none⟩
      case isFalse => cases failed
    case isFalse => cases failed

theorem frameset_member (count : UInt8) (distance : Nat) (inside : distance < count.toNat) :
    distance / 4 ∈ framesetOf count := by
  rw [framesetOf, List.mem_append, List.mem_range]
  by_cases whole : distance / 4 < count.toNat / 4
  · exact .inl whole
  · rw [if_pos (by omega)]
    exact .inr (List.mem_singleton.mpr (by omega))

theorem ready_covers (state : ReadState)
    (gathered : Gathered call values past state) (some : past.flatMap registersOf ≠ [])
    (own : ∀ ex ∈ past, ∀ reg ∈ registersOf ex, Asked call reg)
    (once : (past.flatMap registersOf).Nodup ∨
      (call.count ≠ 0 ∧ ∀ ex ∈ past, ∀ reg, Asked call reg →
        (reg - call.offset).toNat / 4 = (dataAt ex 0).toNat → reg ∈ registersOf ex))
    (counted : state.rcvcnt = call.count) (empty : state.frameset = []) (reg : UInt8) (asked : Asked call reg) :
    reg ∈ past.flatMap registersOf := by
  rcases once with once | ⟨few, frames⟩
  · have inside : ∀ other ∈ past.flatMap registersOf, (other - call.offset).toNat < blockSize call.count := by
      intro other member
      obtain ⟨ex, there, register⟩ := List.mem_flatMap.mp member
      exact own ex there other register
    have bound := block_bound call.offset (blockSize call.count) _ once inside
    have positive := List.length_pos_iff.mpr some
    apply block_covered call.offset (blockSize call.count) _ once inside _ reg asked
    have number := congrArg UInt8.toNat (gathered.counted.symm.trans counted)
    rw [UInt8.toNat_ofNat'] at number
    unfold blockSize at bound ⊢
    by_cases all : call.count = 0
    · rw [if_pos all] at bound ⊢
      rw [all, UInt8.toNat_zero] at number
      omega
    · rw [if_neg all] at bound ⊢
      have small := call.count.toNat_lt
      omega
  · have inside : (reg - call.offset).toNat < call.count.toNat := by
      have known := asked
      rwa [Asked, blockSize, if_neg few] at known
    have frame := frameset_member call.count _ inside
    obtain ⟨ex, there, same⟩ := gathered.left _ frame (by rw [empty]; exact List.not_mem_nil)
    exact List.mem_flatMap.mpr ⟨ex, there, frames ex there reg asked same.symm⟩

def reachedIn (call : ReadCall) (state : ReadState) (turn : ReadTurn) : ReadState :=
  (acceptedIn call turn).elim state (takeFrame state)

theorem reached_count :
    (reachedIn call state turn).rcvcnt = countAfter call state turn := by
  unfold reachedIn countAfter
  cases acceptedIn call turn with
  | none => exact (UInt8.add_zero state.rcvcnt).symm
  | some ex => rfl

theorem read_turn_goes_on (state next : ReadState) (turn : ReadTurn)
    (done : readTurn call state turn = .ok next) :
    next.frameset = (reachedIn call state turn).frameset ∧ next.rcvcnt = (reachedIn call state turn).rcvcnt ∧
      next.values = (reachedIn call state turn).values := by
  unfold readTurn at done
  rcases receive_turn_cases call state turn with ⟨rv, _, failed⟩ | ⟨none, waits⟩ | ⟨ex, some, ready | ⟨_, waits⟩⟩
  · rw [failed] at done
    cases done
  · rw [waits] at done
    rw [reachedIn, none]
    exact watch_turn_keeps call state next turn done
  · rw [ready.2.2] at done
    cases done
  · rw [waits] at done
    rw [reachedIn, some]
    exact watch_turn_keeps call (takeFrame state ex) next turn done

theorem read_turn_failed (done : readTurn call state turn = .error outcome) :
    (∃ rv left, rv ≠ 0 ∧ outcome = .returned rv left) ∨
    (outcome = .dividedByZero ∧ CallbackDue call state turn ∧ countAfter call state turn = 0 ∧
      ¬ (call.count = 0 ∧ acceptedIn call turn ≠ none ∧ state.frameset = [])) ∨
    (∃ ex, acceptedIn call turn = some ex ∧ (takeFrame state ex).rcvcnt = call.count ∧
      (takeFrame state ex).frameset = [] ∧ outcome = .returned 0 (takeFrame state ex).values) := by
  unfold readTurn at done
  rcases receive_turn_cases call state turn with ⟨rv, nonzero, failed⟩ | ⟨none, waits⟩ | ⟨ex, some, ready | ⟨unready, waits⟩⟩
  · rw [failed] at done
    cases done
    exact .inl ⟨rv, state.values, nonzero, rfl⟩
  · rw [waits] at done
    rcases watch_turn_fails call state turn outcome done with timeout | ⟨divided, due, zero⟩
    · exact .inl ⟨_, _, by decide, timeout⟩
    · refine .inr (.inl ⟨divided, due, ?_, fun all => all.2.1 none⟩)
      rw [← reached_count, reachedIn, none]
      exact zero
  · rw [ready.2.2] at done
    cases done
    exact .inr (.inr ⟨ex, some, ready.1, ready.2.1, rfl⟩)
  · rw [waits] at done
    rcases watch_turn_fails call (takeFrame state ex) turn outcome done with timeout | ⟨divided, due, zero⟩
    · exact .inl ⟨_, _, by decide, timeout⟩
    · refine .inr (.inl ⟨divided, due, ?_, ?_⟩)
      · rw [← reached_count, reachedIn, some]
        exact zero
      · rintro ⟨all, _, empty⟩
        apply unready
        refine ⟨zero.trans all.symm, ?_⟩
        rw [takeFrame, empty]
        rfl

theorem gathered_turn (state next : ReadState)
    (turn : ReadTurn) (gathered : Gathered call values past state) (done : readTurn call state turn = .ok next) :
    Gathered call values (past ++ (acceptedIn call turn).toList) next := by
  obtain ⟨frames, count, kept⟩ := read_turn_goes_on call state next turn done
  have reached : Gathered call values (past ++ (acceptedIn call turn).toList) (reachedIn call state turn) := by
    unfold reachedIn
    cases acceptedIn call turn with
    | none =>
        rw [Option.toList_none, List.append_nil]
        exact gathered
    | some ex => exact gathered_frame call values past state gathered ex
  refine ⟨count.trans reached.counted, ?_, ?_, ?_⟩
  · rw [frames]
    exact reached.left
  · rw [kept]
    exact reached.known
  · rw [kept]
    exact reached.value

theorem accepted_cons :
    accepted call (turn :: turns) = (acceptedIn call turn).toList ++ accepted call turns := by
  unfold accepted
  cases taken : acceptedIn call turn with
  | none => rw [List.filterMap_cons_none taken, Option.toList_none, List.nil_append]
  | some ex => rw [List.filterMap_cons_some taken, Option.toList_some, List.singleton_append]

theorem read_run_ready (values final : RegisterMap) (turns : List ReadTurn) (past : List VscpEventEx)
    (state : ReadState) (gathered : Gathered call values past state)
    (done : turns.foldlM (readTurn call) state = .error (.returned 0 final)) :
    ∃ seen last later ready, accepted call turns = seen ++ last :: later ∧
      Gathered call values (past ++ (seen ++ [last])) ready ∧ ready.rcvcnt = call.count ∧ ready.frameset = [] ∧
      ready.values = final := by
  induction turns generalizing past state with
  | nil => cases done
  | cons turn turns ih =>
      rw [List.foldlM_cons] at done
      rw [accepted_cons]
      cases taken : readTurn call state turn with
      | error outcome =>
          rw [taken] at done
          cases done
          rcases read_turn_failed call state turn _ taken with ⟨rv, left, nonzero, same⟩ | ⟨divided, _⟩ | ready
          · cases same
            exact absurd rfl nonzero
          · cases divided
          · obtain ⟨ex, some, counted, empty, same⟩ := ready
            cases same
            rw [some]
            exact ⟨[], ex, accepted call turns, takeFrame state ex, rfl, gathered_frame call values past state gathered ex,
              counted, empty, rfl⟩
      | ok next =>
          rw [taken] at done
          have further := gathered_turn call values past state next turn gathered taken
          obtain ⟨seen, last, later, ready, parts, whole, counted, empty, same⟩ := ih _ next further done
          refine ⟨(acceptedIn call turn).toList ++ seen, last, later, ready, ?_, ?_, counted, empty, same⟩
          · rw [parts, List.append_assoc]
          · rw [List.append_assoc] at whole
            rw [List.append_assoc]
            exact whole

theorem read_run_divides (state : ReadState)
    (empty : call.count = 0 → state.frameset = []) (counted : AlongTurns call (SomeReceived call) state turns) :
    turns.foldlM (readTurn call) state ≠ .error .dividedByZero := by
  induction turns generalizing state with
  | nil =>
      intro done
      cases done
  | cons turn turns ih =>
      rw [List.foldlM_cons]
      cases taken : readTurn call state turn with
      | error outcome =>
          intro done
          cases done
          rcases read_turn_failed call state turn _ taken with ⟨rv, left, _, same⟩ | ⟨_, due, zero, unready⟩ | ready
          · cases same
          · rcases counted.1 due with some | ⟨all, accepted⟩
            · exact some zero
            · exact unready ⟨all, accepted, empty all⟩
          · obtain ⟨_, _, _, _, same⟩ := ready
            cases same
      | ok next =>
          obtain ⟨frames, _, _⟩ := read_turn_goes_on call state next turn taken
          apply ih next _ (counted.2 next taken)
          intro all
          rw [frames, reachedIn]
          cases acceptedIn call turn with
          | none => exact empty all
          | some ex =>
              rw [Option.elim_some, takeFrame, empty all]
              rfl

theorem accepted_matches (ex : VscpEventEx) (member : ex ∈ accepted call turns)
    (own : ex.guid.get nicknameIndex = call.nickname) :
    (∃ turn ∈ turns, Delivers turn ∧ turn.event.ex = ex) ∧ Matches call.nickname call.page ex ∧ registersOf ex ≠ [] := by
  obtain ⟨turn, inside, taken⟩ := List.mem_filterMap.mp member
  unfold acceptedIn at taken
  split at taken
  case isTrue all =>
    cases taken
    have matching := answers_match _ _ _ all.2.2.2 own
    refine ⟨⟨turn, inside, ⟨all.1, all.2.1, all.2.2.1⟩, rfl⟩, matching, ?_⟩
    rw [← List.length_pos_iff, registers_of_length]
    have size := UInt16.le_iff_toNat_le.mp matching.2.2.2.1
    have five : (5 : UInt16).toNat = 5 := rfl
    omega
  case isFalse => cases taken

theorem ready_block_read (orderly : Orderly call values turns) (seen later : List VscpEventEx) (last : VscpEventEx) (ready : ReadState)
    (parts : accepted call turns = seen ++ last :: later) (gathered : Gathered call values (seen ++ [last]) ready)
    (counted : ready.rcvcnt = call.count) (empty : ready.frameset = []) : BlockRead call turns ready.values := by
  have split : accepted call turns = (seen ++ [last]) ++ later := by
    rw [parts, List.append_assoc]
    rfl
  have inside : ∀ ex ∈ seen ++ [last], ex ∈ accepted call turns := by
    intro ex member
    rw [split]
    exact List.mem_append_left _ member
  have covers := ready_covers call values (seen ++ [last]) ready gathered (by
      intro none
      have lastIn : last ∈ seen ++ [last] := by simp
      obtain ⟨_, _, some⟩ := accepted_matches call turns last (inside last lastIn) (orderly.own last (inside last lastIn)).1
      exact some (List.flatMap_eq_nil_iff.mp none last lastIn))
    (fun ex member => (orderly.own ex (inside ex member)).2)
    (by
      rcases orderly.once with once | ⟨few, frames⟩
      · rw [split, List.flatMap_append] at once
        exact .inl once.of_append_left
      · exact .inr ⟨few, fun ex member => frames ex (inside ex member)⟩)
    counted empty
  have exactly : ∀ reg, (ready.values reg).isSome ↔ Asked call reg := by
    intro reg
    rw [gathered.known]
    constructor
    · rintro (before | came)
      · exact orderly.before reg before
      · obtain ⟨ex, member, register⟩ := List.mem_flatMap.mp came
        exact (orderly.own ex (inside ex member)).2 reg register
    · intro asked
      exact .inr (covers reg asked)
  refine ⟨exactly, ?_⟩
  intro reg byte found
  have asked := (exactly reg).mp (by rw [found]; rfl)
  rcases gathered.value reg byte found with ⟨ex, member, pair⟩ | ⟨_, absent⟩
  · obtain ⟨⟨turn, there, delivers, rfl⟩, matching, _⟩ :=
      accepted_matches call turns ex (inside ex member) (orderly.own ex (inside ex member)).1
    exact ⟨turn, there, delivers, matching, pair⟩
  · exact absurd (covers reg asked) absent

theorem orderly_block_read (call : ReadCall) (ex : VscpEventEx) (guidInterface : Guid) (values : RegisterMap)
    (clear send : Int) (turns : List ReadTurn) (orderly : Orderly call values turns)
    (counted : AlongTurns call (SomeReceived call) (readStart call values) turns) :
    (readLevel1RegisterBlock call ex guidInterface values clear send turns).outcome ≠ some .dividedByZero ∧
      ∀ final, (readLevel1RegisterBlock call ex guidInterface values clear send turns).outcome =
        some (.returned 0 final) → BlockRead call turns final := by
  have start := gathered_start call values
  have undivided := read_run_divides call turns (readStart call values) (by
    intro all
    rw [readStart, all]
    rfl) counted
  unfold readLevel1RegisterBlock
  by_cases cleared : clear ≠ 0
  · rw [if_pos cleared]
    refine ⟨by simp, ?_⟩
    intro final same
    cases same
    exact absurd rfl cleared
  rw [if_neg cleared]
  by_cases sent : send ≠ 0
  · rw [if_pos sent]
    refine ⟨by simp, ?_⟩
    intro final same
    cases same
    exact absurd rfl sent
  rw [if_neg sent]
  cases run : turns.foldlM (readTurn call) (readStart call values) with
  | ok state => exact ⟨by simp, by simp⟩
  | error outcome =>
      refine ⟨?_, ?_⟩
      · rintro same
        cases same
        exact undivided run
      · intro final same
        cases same
        obtain ⟨seen, last, later, ready, parts, gathered, count, empty, rfl⟩ :=
          read_run_ready call values final turns [] _ start run
        exact ready_block_read call values turns orderly seen later last ready parts gathered count empty

def oneRegister : ReadCall := ⟨1, 0, 0, 1, false, 1000, 0⟩

def answerOf (node : UInt8) : VscpEventEx := responseOf node [0, 0, 0, 0, 42]

def answerTurn (node : UInt8) : ReadTurn := ⟨0, 1, 0, shortResponse node 42, 0, 0, 0⟩

theorem answer_data (index : Nat) (inside : index < 5) :
    dataAt (answerOf node) index = [0, 0, 0, 0, 42].getD index 0 :=
  response_data node [0, 0, 0, 0, 42] (by decide) index inside

theorem answer_answers : answersPage 1 0 (answerOf node) = true := by
  apply decide_eq_true
  rw [answer_data node 1 (by decide), answer_data node 2 (by decide)]
  exact ⟨rfl, rfl, by decide, show (5 : UInt16) ≤ 5 by decide, rfl, rfl⟩

theorem answer_taken : acceptedIn oneRegister (answerTurn node) = some (answerOf node) :=
  if_pos ⟨rfl, show (1 : UInt16) ≠ 0 by decide, rfl, answer_answers node⟩

theorem answer_carries : carried (answerOf node) = [(0, 42)] := by
  have size : (answerOf node).sizeData.toNat - 4 = 1 := rfl
  rw [carried, size, List.range_one, List.map_singleton, answer_data node 3 (by decide), answer_data node 4 (by decide)]
  rfl

theorem orderly_block_read_example :
    (readLevel1RegisterBlock oneRegister emptyEventEx (Vector.replicate 16 0) (fun _ => none) 0 0
        [answerTurn 1]).outcome ≠ some .dividedByZero ∧
      ∀ final, (readLevel1RegisterBlock oneRegister emptyEventEx (Vector.replicate 16 0) (fun _ => none) 0 0
        [answerTurn 1]).outcome = some (.returned 0 final) → BlockRead oneRegister [answerTurn 1] final := by
  have all : accepted oneRegister [answerTurn 1] = [answerOf 1] := List.filterMap_cons_some (answer_taken 1)
  refine orderly_block_read oneRegister emptyEventEx (Vector.replicate 16 0) (fun _ => none) 0 0 [answerTurn 1] ?_ ?_
  · refine ⟨fun reg some => by simp at some, ?_, ?_⟩
    · rw [all]
      intro ex member
      cases List.mem_singleton.mp member
      refine ⟨rfl, ?_⟩
      rw [registersOf, answer_carries]
      intro reg only
      cases List.mem_singleton.mp only
      exact show ((0 : UInt8) - 0).toNat < 1 by decide
    · rw [all, List.flatMap_singleton, registersOf, answer_carries]
      exact .inl (by decide)
  · refine ⟨?_, fun _ _ => trivial⟩
    rintro ⟨callback, _⟩
    cases callback

-- The answer of another node is taken for an answer of the one that was asked.
theorem other_node_answers :
    ¬ ∀ (call : ReadCall) (ex : VscpEventEx) (guidInterface : Guid) (values : RegisterMap) (clear send : Int)
      (turns : List ReadTurn),
      (readLevel1RegisterBlock call ex guidInterface values clear send turns).outcome ≠ some .dividedByZero ∧
        ∀ final, (readLevel1RegisterBlock call ex guidInterface values clear send turns).outcome =
          some (.returned 0 final) → BlockRead call turns final := by
  intro every
  obtain ⟨_, read⟩ := every oneRegister emptyEventEx (Vector.replicate 16 0) (fun _ => none) 0 0 [answerTurn 2]
  have ready : readTurn oneRegister (readStart oneRegister fun _ => none) (answerTurn 2) =
      .error (.returned 0 (takeFrame (readStart oneRegister fun _ => none) (answerOf 2)).values) := by
    have last : (takeFrame (readStart oneRegister fun _ => none) (answerOf 2)).frameset = [] := by
      rw [takeFrame, answer_data 2 0 (by decide)]
      rfl
    have answers : answersPage oneRegister.nickname oneRegister.page (answerTurn 2).event.ex = true := answer_answers 2
    have done : receiveTurn oneRegister (readStart oneRegister fun _ => none) (answerTurn 2) =
        .error (.returned 0 (takeFrame (readStart oneRegister fun _ => none) (answerOf 2)).values) := by
      rw [receiveTurn, if_pos ⟨rfl, show (1 : UInt16) ≠ 0 by decide⟩, if_neg (fun failed => failed rfl), if_pos answers]
      exact if_pos ⟨rfl, last⟩
    rw [readTurn, done]
    rfl
  have block := read (takeFrame (readStart oneRegister fun _ => none) (answerOf 2)).values (by
    unfold readLevel1RegisterBlock
    rw [List.foldlM_cons, ready]
    rfl)
  have stored : (takeFrame (readStart oneRegister fun _ => none) (answerOf 2)).values 0 = some 42 := by
    rw [takeFrame, answer_carries]
    rfl
  obtain ⟨turn, member, _, matching, _⟩ := block.answered 0 42 stored
  cases List.mem_singleton.mp member
  exact absurd matching.2.2.1 (by decide)

end Vscp.Registers
