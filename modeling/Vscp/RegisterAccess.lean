import Vscp.RegisterWrite

set_option autoImplicit false

namespace Vscp.Registers

structure RegisterCall where
  nickname : UInt8
  guidInterface : Guid
  page : UInt16
  offset : UInt8
  timeout : UInt32

structure Ending where
  rv : Int
  answer : Option VscpEventEx

-- `value` is the caller's variable after the call; no outcome while the loop still waits after the turns it was given.
structure RegisterResult where
  sent : List VscpEventEx
  value : UInt8
  outcome : Option Int

def answersRead (call : RegisterCall) (ex : VscpEventEx) : Bool :=
  answersPage call.nickname call.page ex ∧ dataAt ex 0 = 0 ∧ dataAt ex 3 = call.offset

def answersWrite (call : RegisterCall) (value : UInt8) (ex : VscpEventEx) : Bool :=
  answersRead call ex ∧ dataAt ex 4 = value

-- The end of a turn without an answer; with no timeout there is but one turn.
def turnOver (timeout startTime : UInt32) (turn : WriteTurn) (rv : Int) : Option Ending :=
  if timeout ≠ 0 ∧ timeout < turn.clock - startTime then some ⟨VscpError.timeout.code, none⟩
  else if timeout = 0 then some ⟨rv, none⟩
  else none

def turnEnding (timeout startTime : UInt32) (answers : VscpEventEx → Bool) (turn : WriteTurn) : Option Ending :=
  if turn.count ≠ 0 ∧ turn.getcount = 0 then
    if turn.receive ≠ 0 then some ⟨turn.receive, none⟩
    else if answers turn.event.ex then some ⟨0, some turn.event.ex⟩
    else turnOver timeout startTime turn 0
  else turnOver timeout startTime turn turn.getcount

def exchange (call : RegisterCall) (request : VscpEventEx) (answers : VscpEventEx → Bool) (attempt : Attempt) :
    List VscpEventEx × Option Ending :=
  if attempt.clear ≠ 0 then ([], some ⟨attempt.clear, none⟩)
  else if attempt.send ≠ 0 then ([request], some ⟨attempt.send, none⟩)
  else ([request], attempt.turns.findSome? (turnEnding call.timeout attempt.startTime answers))

def readLevel1Register (call : RegisterCall) (ex : VscpEventEx) (value : UInt8) (attempt : Attempt) : RegisterResult :=
  let request := extendedPage ex call.nickname call.guidInterface call.page typeExtendedPageRead call.offset [1]
  let done := exchange call request (answersRead call) attempt
  ⟨done.1, (done.2.bind Ending.answer).elim value fun ex => dataAt ex 4, done.2.map Ending.rv⟩

def writeLevel1Register (call : RegisterCall) (ex : VscpEventEx) (value : UInt8) (attempt : Attempt) : RegisterResult :=
  let request := extendedPage ex call.nickname call.guidInterface call.page typeExtendedPageWrite call.offset [value]
  let done := exchange call request (answersWrite call value) attempt
  ⟨done.1, value, done.2.map Ending.rv⟩

def HandsOut (turn : WriteTurn) : Prop := turn.count ≠ 0 ∧ turn.getcount = 0 ∧ turn.receive = 0

def ResponseFor (call : RegisterCall) (ex : VscpEventEx) : Prop :=
  Matches call.nickname call.page ex ∧ dataAt ex 0 = 0 ∧ dataAt ex 3 = call.offset

section loop

variable (ending : WriteTurn → Option Ending) (turns : List WriteTurn)

def ComesTo (turn : WriteTurn) : Prop :=
  ∃ earlier later, turns = earlier ++ turn :: later ∧ ∀ other ∈ earlier, ending other = none

def EndsIn (turn : WriteTurn) : Prop := ComesTo ending turns turn ∧ ending turn ≠ none

theorem loop_ends_iff (result : Ending) :
    turns.findSome? ending = some result ↔ ∃ turn, ComesTo ending turns turn ∧ ending turn = some result := by
  rw [List.findSome?_eq_some_iff]
  constructor
  · rintro ⟨earlier, turn, later, split, ended, passed⟩
    exact ⟨turn, ⟨earlier, later, split, passed⟩, ended⟩
  · rintro ⟨turn, ⟨earlier, later, split, passed⟩, ended⟩
    exact ⟨earlier, turn, later, split, ended, passed⟩

theorem ends_in_one (first second : WriteTurn) (one : EndsIn ending turns first) (other : EndsIn ending turns second) :
    first = second := by
  have found (turn : WriteTurn) (ends : EndsIn ending turns turn) :
      turns.find? (fun turn => (ending turn).isSome) = some turn := by
    obtain ⟨⟨earlier, later, split, passed⟩, ended⟩ := ends
    rw [split, List.find?_append, List.find?_eq_none.mpr (fun other member => by simp [passed other member]),
      Option.none_or]
    exact List.find?_cons_of_pos (Option.isSome_iff_ne_none.mpr ended)
  exact Option.some_inj.mp ((found first one).symm.trans (found second other))

end loop

def SucceedsOnResponse (call : RegisterCall) (answers : VscpEventEx → Bool) (attempt : Attempt)
    (result : RegisterResult) : Prop :=
  result.outcome = some 0 →
    ∃ turn, EndsIn (turnEnding call.timeout attempt.startTime answers) attempt.turns turn ∧ HandsOut turn ∧
      ResponseFor call turn.event.ex ∧ dataAt turn.event.ex 4 = result.value

-- The event that passes the test is from the addressed node, and the one turn of a call without timeout finds a fault
-- or an answer; a response that is no answer is one of node 0, and then `value` has to be its value by chance.
structure SoundTurn (call : RegisterCall) (answers : VscpEventEx → Bool) (value : UInt8) (turn : WriteTurn) : Prop where
  sender : HandsOut turn → answers turn.event.ex → turn.event.ex.guid.get nicknameIndex = call.nickname
  single : call.timeout = 0 → turn.getcount = 0 → turn.count ≠ 0 ∧ (turn.receive = 0 → answers turn.event.ex ∨
    (ResponseFor call turn.event.ex ∧ dataAt turn.event.ex 4 = value))

def SoundRun (call : RegisterCall) (answers : VscpEventEx → Bool) (value : UInt8) (attempt : Attempt) : Prop :=
  attempt.clear ≠ 0 ∨ attempt.send ≠ 0 ∨
    ∀ turn, ComesTo (turnEnding call.timeout attempt.startTime answers) attempt.turns turn →
      SoundTurn call answers value turn

section shared

variable (call : RegisterCall) (answers : VscpEventEx → Bool) (value : UInt8) (startTime : UInt32) (turn : WriteTurn)

theorem turn_over_success (timeout : UInt32) (rv : Int) (result : Ending) :
    turnOver timeout startTime turn rv = some result ∧ result.rv = 0 ↔ timeout = 0 ∧ rv = 0 ∧ result = ⟨0, none⟩ := by
  rw [turnOver]
  by_cases single : timeout = 0
  · rw [if_neg (fun late => late.1 single), if_pos single, Option.some_inj]
    constructor
    · rintro ⟨rfl, success⟩
      exact ⟨single, success, congrArg (Ending.mk · none) success⟩
    · rintro ⟨-, rfl, rfl⟩
      exact ⟨rfl, rfl⟩
  · refine iff_of_false ?_ (fun ended => single ended.1)
    rintro ⟨ended, success⟩
    split at ended
    · rw [← Option.some_inj.mp ended] at success
      exact absurd success (by decide)
    · cases ended

theorem turn_success (timeout : UInt32) (result : Ending) :
    turnEnding timeout startTime answers turn = some result ∧ result.rv = 0 ↔
      (HandsOut turn ∧ answers turn.event.ex ∧ result = ⟨0, some turn.event.ex⟩) ∨
        (timeout = 0 ∧ turn.getcount = 0 ∧ (turn.count = 0 ∨ (turn.receive = 0 ∧ ¬ answers turn.event.ex)) ∧
          result = ⟨0, none⟩) := by
  rw [turnEnding]
  by_cases waiting : turn.count ≠ 0 ∧ turn.getcount = 0
  · rw [if_pos waiting]
    by_cases received : turn.receive = 0
    · rw [if_neg (not_not.mpr received)]
      by_cases answer : answers turn.event.ex
      · rw [if_pos answer, Option.some_inj]
        constructor
        · rintro ⟨rfl, -⟩
          exact .inl ⟨⟨waiting.1, waiting.2, received⟩, answer, rfl⟩
        · rintro (⟨-, -, rfl⟩ | ⟨-, -, none | unanswered, -⟩)
          · exact ⟨rfl, rfl⟩
          · exact absurd none waiting.1
          · exact absurd answer unanswered.2
      · rw [if_neg answer, turn_over_success]
        constructor
        · rintro ⟨single, -, rfl⟩
          exact .inr ⟨single, waiting.2, .inr ⟨received, answer⟩, rfl⟩
        · rintro (⟨-, taken, -⟩ | ⟨single, -, -, rfl⟩)
          · exact absurd taken answer
          · exact ⟨single, rfl, rfl⟩
    · rw [if_pos received, Option.some_inj]
      refine iff_of_false ?_ ?_
      · rintro ⟨rfl, success⟩
        exact received success
      · rintro (⟨handed, -⟩ | ⟨-, -, none | unanswered, -⟩)
        · exact received handed.2.2
        · exact waiting.1 none
        · exact received unanswered.1
  · rw [if_neg waiting, turn_over_success]
    constructor
    · rintro ⟨single, counted, rfl⟩
      exact .inr ⟨single, counted, .inl (not_not.mp fun some => waiting ⟨some, counted⟩), rfl⟩
    · rintro (⟨handed, -⟩ | ⟨single, counted, -, rfl⟩)
      · exact absurd ⟨handed.1, handed.2.1⟩ waiting
      · exact ⟨single, counted, rfl⟩

variable (got : Option VscpEventEx → UInt8)

theorem sound_turn_iff (own : ∀ ex, answers ex → (ResponseFor call ex ↔ ex.guid.get nicknameIndex = call.nickname))
    (taken : ∀ ex, answers ex → dataAt ex 4 = got (some ex)) (untaken : got none = value) :
    (∀ result, turnEnding call.timeout startTime answers turn = some result → result.rv = 0 →
      HandsOut turn ∧ ResponseFor call turn.event.ex ∧ dataAt turn.event.ex 4 = got result.answer) ↔
      SoundTurn call answers value turn := by
  constructor
  · intro right
    have ends (result : Ending) (success : _) :=
      right result ((turn_success answers startTime turn call.timeout result).mpr success).1
        ((turn_success answers startTime turn call.timeout result).mpr success).2
    refine ⟨fun handed answer => (own _ answer).mp (ends _ (.inl ⟨handed, answer, rfl⟩)).2.1, fun single counted => ?_⟩
    have some : turn.count ≠ 0 := fun none => (ends _ (.inr ⟨single, counted, .inl none, rfl⟩)).1.1 none
    refine ⟨some, fun received => ?_⟩
    by_cases answer : answers turn.event.ex
    · exact .inl answer
    · have held := ends _ (.inr ⟨single, counted, .inr ⟨received, answer⟩, rfl⟩)
      rw [untaken] at held
      exact .inr held.2
  · intro sound result ended success
    obtain ⟨handed, answer, rfl⟩ | ⟨single, counted, unanswered, rfl⟩ :=
      (turn_success answers startTime turn call.timeout result).mp ⟨ended, success⟩
    · exact ⟨handed, (own _ answer).mpr (sound.sender handed answer), taken _ answer⟩
    · obtain ⟨some, response⟩ := sound.single single counted
      obtain ⟨received, unanswered⟩ := unanswered.resolve_left some
      obtain ⟨held, byte⟩ := (response received).resolve_left unanswered
      exact ⟨⟨some, counted, received⟩, held, byte.trans untaken.symm⟩

theorem exchange_sound_iff (request : VscpEventEx) (attempt : Attempt) (result : RegisterResult)
    (outcome : result.outcome = (exchange call request answers attempt).2.map Ending.rv)
    (held : ∀ ending, (exchange call request answers attempt).2 = some ending → result.value = got ending.answer)
    (own : ∀ ex, answers ex → (ResponseFor call ex ↔ ex.guid.get nicknameIndex = call.nickname))
    (taken : ∀ ex, answers ex → dataAt ex 4 = got (some ex)) (untaken : got none = value) :
    SucceedsOnResponse call answers attempt result ↔ SoundRun call answers value attempt := by
  rw [SucceedsOnResponse, outcome, SoundRun]
  rw [exchange] at held ⊢
  by_cases clear : attempt.clear ≠ 0
  · rw [if_pos clear]
    exact iff_of_true (fun success => absurd (Option.some_inj.mp success) clear) (.inl clear)
  by_cases send : attempt.send ≠ 0
  · rw [if_neg clear, if_pos send]
    exact iff_of_true (fun success => absurd (Option.some_inj.mp success) send) (.inr (.inl send))
  rw [if_neg clear, if_neg send] at held ⊢
  rw [or_iff_right clear, or_iff_right send, Option.map_eq_some_iff]
  constructor
  · intro right turn reached
    refine (sound_turn_iff call answers value attempt.startTime turn got own taken untaken).mp
      fun ending ended success => ?_
    have all := (loop_ends_iff _ attempt.turns ending).mpr ⟨turn, reached, ended⟩
    obtain ⟨last, ends, handed, response, byte⟩ := right ⟨ending, all, success⟩
    have same := ends_in_one _ _ last turn ends ⟨reached, by rw [ended]; exact Option.some_ne_none _⟩
    rw [same, held ending all] at byte
    rw [same] at handed response
    exact ⟨handed, response, byte⟩
  · rintro sound ⟨ending, all, success⟩
    obtain ⟨turn, reached, ended⟩ := (loop_ends_iff _ attempt.turns ending).mp all
    obtain ⟨handed, response, byte⟩ :=
      (sound_turn_iff call answers value attempt.startTime turn got own taken untaken).mpr (sound turn reached) ending
        ended success
    exact ⟨turn, ⟨reached, by rw [ended]; exact Option.some_ne_none _⟩, handed, response, by rw [held ending all, byte]⟩

end shared

theorem answers_own (call : RegisterCall) (ex : VscpEventEx) (answer : answersRead call ex) :
    ResponseFor call ex ↔ ex.guid.get nicknameIndex = call.nickname := by
  obtain ⟨page, index, reg⟩ := of_decide_eq_true answer
  exact ⟨fun response => response.1.2.2.1, fun own => ⟨answers_match _ _ ex page own, index, reg⟩⟩

theorem register_access_sound_iff (call : RegisterCall) (ex : VscpEventEx) (value : UInt8) (attempt : Attempt) :
    (SucceedsOnResponse call (answersRead call) attempt (readLevel1Register call ex value attempt) ↔
      SoundRun call (answersRead call) value attempt) ∧
      (SucceedsOnResponse call (answersWrite call value) attempt (writeLevel1Register call ex value attempt) ↔
        SoundRun call (answersWrite call value) value attempt) := by
  constructor
  · refine exchange_sound_iff call (answersRead call) value (fun answer => answer.elim value fun ex => dataAt ex 4) _
      attempt _ rfl ?_ (answers_own call) (fun _ _ => rfl) rfl
    intro ending all
    simp only [readLevel1Register, all, Option.bind_some]
  · refine exchange_sound_iff call (answersWrite call value) value (fun _ => value) _ attempt _ rfl (fun _ _ => rfl)
      (fun ex answer => answers_own call ex (of_decide_eq_true answer).1)
      (fun ex answer => (of_decide_eq_true answer).2) rfl

def firstRegister : RegisterCall := ⟨1, Vector.replicate 16 0, 0, 0, 1000⟩

def foreignTurn : WriteTurn := ⟨0, 1, 0, shortResponse 2 77, 0⟩

theorem foreign_answers : answersRead firstRegister foreignTurn.event.ex = true := by
  have byte (index : Nat) (inside : index < 5) := response_data 2 [0, 0, 0, 0, 77] (by decide) index inside
  refine decide_eq_true ⟨decide_eq_true ⟨rfl, rfl, by decide, by decide, ?_, ?_⟩, ?_, ?_⟩
  · exact byte 1 (by decide)
  · exact byte 2 (by decide)
  · exact byte 0 (by decide)
  · exact byte 3 (by decide)

def emptyTurn : WriteTurn := ⟨0, 0, 0, shortResponse 2 77, 0⟩

theorem only_turn (ending : WriteTurn → Option Ending) (single turn : WriteTurn) (ends : EndsIn ending [single] turn) :
    turn = single := by
  obtain ⟨⟨earlier, later, split, -⟩, -⟩ := ends
  have member : turn ∈ earlier ++ turn :: later := List.mem_append_right earlier List.mem_cons_self
  rw [← split] at member
  exact List.mem_singleton.mp member

-- The foreign response succeeds, and so does a write without a timeout that finds an empty queue.
theorem success_without_response :
    ¬ SucceedsOnResponse firstRegister (answersRead firstRegister) ⟨0, 0, 0, [foreignTurn]⟩
        (readLevel1Register firstRegister emptyEventEx 0 ⟨0, 0, 0, [foreignTurn]⟩) ∧
      ¬ SucceedsOnResponse { firstRegister with timeout := 0 } (answersWrite { firstRegister with timeout := 0 } 5)
        ⟨0, 0, 0, [emptyTurn]⟩ (writeLevel1Register { firstRegister with timeout := 0 } emptyEventEx 5
          ⟨0, 0, 0, [emptyTurn]⟩) := by
  constructor
  · intro right
    have ended : turnEnding firstRegister.timeout 0 (answersRead firstRegister) foreignTurn =
        some ⟨0, some foreignTurn.event.ex⟩ := by
      rw [turnEnding, if_pos ⟨by decide, rfl⟩, if_neg (fun failed => failed rfl), if_pos foreign_answers]
    have done (request : VscpEventEx) : exchange firstRegister request (answersRead firstRegister)
        ⟨0, 0, 0, [foreignTurn]⟩ = ([request], some ⟨0, some foreignTurn.event.ex⟩) := by
      rw [exchange, if_neg (fun failed => failed rfl), if_neg (fun failed => failed rfl), List.findSome?_singleton,
        ended]
    obtain ⟨turn, ends, -, response, -⟩ := right (by rw [readLevel1Register, done]; rfl)
    rw [only_turn _ _ turn ends] at response
    exact absurd response.1.2.2.1 (by decide)
  · intro right
    obtain ⟨turn, ends, handed, -⟩ := right rfl
    rw [only_turn _ _ turn ends] at handed
    exact handed.1 rfl

end Vscp.Registers
