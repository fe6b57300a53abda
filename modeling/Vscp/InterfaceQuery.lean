import Vscp.ReplyQueries

set_option autoImplicit false

namespace Vscp.RemoteTcp

structure Statistics where
  cntReceiveFrames : UInt64
  cntTransmitFrames : UInt64
  cntReceiveData : UInt64
  cntTransmitData : UInt64
  cntOverruns : UInt64
  x : UInt64
  y : UInt64
  z : UInt64

structure CanalStatistics where
  cntReceiveFrames : UInt64
  cntTransmitFrames : UInt64
  cntReceiveData : UInt64
  cntTransmitData : UInt64
  cntOverruns : UInt64
  cntBusWarnings : UInt64
  cntBusOff : UInt64

def stat : Text := ['S', 'T', 'A', 'T', '\r', '\n']

def interfaceList : Text := "INTERFACE LIST\r\n".toList

def fieldValue (tokens : List Text) (index : Nat) : UInt64 :=
  (tokens[index]?).elim 0 fun token => UInt64.ofInt (readStringValue token)

-- No token is taken from the list, so that every member is filled from its front.
def statisticsOfTokens (tokens : List Text) : Statistics :=
  let front := fieldValue tokens 0
  { x := front
    y := front
    z := 0
    cntOverruns := front
    cntReceiveData := front
    cntReceiveFrames := front
    cntTransmitData := front
    cntTransmitFrames := front }

def doCmdStatistics (session : TextSession) (server : Server) (pStatistics : Statistics) : Query Statistics :=
  match reach true session stat server with
  | .refused rv => .ok ⟨rv, pStatistics⟩
  | .lines lines => (frontOf lines).bind fun line => .ok ⟨0, statisticsOfTokens (split line ',')⟩

-- The version for a canal_statistics_t hands a local canal_statistics_t to the version for that type, which is itself;
-- none while it has not returned after so many steps, and its answer is what it returns and what it stores.
def doCmdStatisticsCanal : Nat → Option CanalStatistics → Option (Int × Option CanalStatistics)
  | 0, _ => none
  | _ + 1, none => some (VscpError.parameter.code, none)
  | steps + 1, some pStatistics =>
      (doCmdStatisticsCanal steps (some ⟨0, 0, 0, 0, 0, 0, 0⟩)).map fun done =>
        match done with
        | (0, some canalstat) => (0, some { canalstat with cntBusOff := 0, cntBusWarnings := 0, cntOverruns := 0 })
        | (rv, _) => (rv, some pStatistics)

def listed (reached : Reached) : Option (List Text) :=
  match reached with
  | .refused _ => none
  | .lines lines => if lines.length < 2 then none else some (lines.filter fun line => ¬ hasOk line)

def lowered (text : Text) : Text := (text.takeWhile (· ≠ '\x00')).map Char.toLower

def entryName (entry : Text) : Text :=
  let strDescription := (split entry ',').getD 3 []
  if '|' ∈ strDescription then trim (strDescription.takeWhile (· ≠ '|')) else []

def hasName (ifName entry : Text) : Bool := lowered (entryName entry) = lowered ifName

def entryGuid (entry : Text) : Guid := guidFromString ((split entry ',').getD 2 [])

-- `answers` is what each try of doCmdInterfaceList adds to the list, none where it fails; none while the loop has not
-- returned after so many tries.
def fetchLoop (ifName : Text) (answers : Nat → Option (List Text)) :
    Nat → Nat → List Text → UInt8 → Option (Int × Option Guid)
  | 0, _, _, _ => none
  | tries + 1, number, ifarray, cnt =>
      match answers number with
      | none =>
          if 3 < cnt then some (VscpError.operationFailed.code, none)
          else fetchLoop ifName answers tries (number + 1) ifarray cnt
      | some lines =>
          let ifarray := ifarray ++ lines
          let cnt := if ifarray ≠ [] then cnt + 1 else cnt
          match ifarray.find? (hasName ifName) with
          | some entry => some (0, some (entryGuid entry))
          | none =>
              if 3 < cnt then some (VscpError.operationFailed.code, none)
              else fetchLoop ifName answers tries (number + 1) ifarray cnt

def errorNotOpen : Int := 33

def answersOf (tries : Nat → TextSession × Server) (number : Nat) : Option (List Text) :=
  listed (reach false (tries number).1 interfaceList (tries number).2)

def fetchIterfaceGUID (session : TextSession) (ifName : Text) (tries : Nat → TextSession × Server) (steps : Nat) :
    Option (Int × Option Guid) :=
  if ¬ session.connected then some (errorNotOpen, none)
  else fetchLoop ifName (answersOf tries) steps 0 [] 0

def Statistics.members (statistics : Statistics) : List UInt64 :=
  [statistics.x, statistics.y, statistics.cntOverruns, statistics.cntReceiveData, statistics.cntReceiveFrames,
    statistics.cntTransmitData, statistics.cntTransmitFrames]

def StatisticsRight (session : TextSession) (server : Server) (pStatistics : Statistics) : Prop :=
  ∃ answer, doCmdStatistics session server pStatistics = .ok answer ∧
    ∀ line later, reach true session stat server = .lines (line :: later) →
      answer.result.members = (List.range 7).map (fieldValue (split line ','))

structure InterfaceQueriesRight (session : TextSession) (server : Server) (pStatistics : Statistics)
    (canal : Option CanalStatistics) (ifName : Text) (tries : Nat → TextSession × Server) : Prop where
  statistics : StatisticsRight session server pStatistics
  canal : ∃ steps, doCmdStatisticsCanal steps canal ≠ none
  interface : ∃ steps, fetchIterfaceGUID session ifName tries steps ≠ none

-- All fields of a reply to STAT are the same; the canal version gets a null pointer; and a list has the interface, or
-- four tries are answered from the first one on that has an entry.
structure InterfaceServer (session : TextSession) (server : Server) (canal : Option CanalStatistics) (ifName : Text)
    (tries : Nat → TextSession × Server) : Prop where
  statistics : ∀ lines, reach true session stat server = .lines lines → ∃ line later, lines = line :: later ∧
    ∀ index, index < 7 → fieldValue (split line ',') index = fieldValue (split line ',') 0
  canal : canal = none
  interface : session.connected = true →
    (∃ number lines, answersOf tries number = some lines ∧ ∃ entry ∈ lines, hasName ifName entry = true) ∨
      ∃ first lines last, answersOf tries first = some lines ∧ lines ≠ [] ∧
        4 ≤ (List.range last).countP fun number => first ≤ number ∧ (answersOf tries number).isSome

theorem statistics_right_iff (session : TextSession) (server : Server) (pStatistics : Statistics) :
    StatisticsRight session server pStatistics ↔
      ∀ lines, reach true session stat server = .lines lines → ∃ line later, lines = line :: later ∧
        ∀ index, index < 7 → fieldValue (split line ',') index = fieldValue (split line ',') 0 := by
  rw [StatisticsRight, doCmdStatistics]
  cases reach true session stat server with
  | refused rv =>
      refine iff_of_true ⟨_, rfl, ?_⟩ ?_
      · intro line later same
        cases same
      · intro lines same
        cases same
  | lines lines =>
      cases lines with
      | nil =>
          refine iff_of_false ?_ ?_
          · rintro ⟨answer, same, -⟩
            cases same
          · intro all
            obtain ⟨line, later, same, -⟩ := all [] rfl
            cases same
      | cons line later =>
          constructor
          · rintro ⟨answer, same, filled⟩ lines again
            cases same
            cases again
            refine ⟨line, later, rfl, fun index inside => ?_⟩
            have entry := congrArg (·[index]?) (filled line later rfl)
            rw [List.getElem?_map, List.getElem?_range inside, Option.map_some] at entry
            have front : (Statistics.members (statisticsOfTokens (split line ',')))[index]? =
                some (fieldValue (split line ',') 0) := by
              change (List.replicate 7 (fieldValue (split line ',') 0))[index]? = _
              rw [List.getElem?_replicate, if_pos inside]
            exact Option.some_inj.mp (entry.symm.trans front)
          · intro all
            refine ⟨_, rfl, fun first rest same => ?_⟩
            cases same
            obtain ⟨other, others, same, fields⟩ := all (line :: later) rfl
            cases same
            change List.replicate 7 (fieldValue (split line ',') 0) = _
            symm
            refine List.eq_replicate_iff.mpr ⟨by rw [List.length_map, List.length_range], ?_⟩
            intro value member
            obtain ⟨index, inside, rfl⟩ := List.mem_map.mp member
            exact fields index (List.mem_range.mp inside)

theorem canal_never_returns (steps : Nat) (pStatistics : CanalStatistics) :
    doCmdStatisticsCanal steps (some pStatistics) = none := by
  induction steps generalizing pStatistics with
  | zero => rfl
  | succ steps ih =>
      rw [doCmdStatisticsCanal, ih]
      rfl

theorem canal_returns_iff (canal : Option CanalStatistics) :
    (∃ steps, doCmdStatisticsCanal steps canal ≠ none) ↔ canal = none := by
  cases canal with
  | none => exact iff_of_true ⟨1, Option.some_ne_none _⟩ rfl
  | some pStatistics =>
      refine iff_of_false ?_ (Option.some_ne_none pStatistics)
      rintro ⟨steps, returned⟩
      exact returned (canal_never_returns steps pStatistics)

section fetch

variable (ifName : Text) (answers : Nat → Option (List Text))

def gathered (number : Nat) : List Text := (List.range number).flatMap fun index => (answers index).getD []

def Counts (index : Nat) : Prop := (answers index).isSome ∧ gathered answers (index + 1) ≠ []

instance (index : Nat) : Decidable (Counts answers index) := inferInstanceAs (Decidable (_ ∧ _))

def counted (number : Nat) : Nat := (List.range number).countP fun index => Counts answers index

def FoundAt (index : Nat) : Prop :=
  (answers index).isSome ∧ ∃ entry ∈ gathered answers (index + 1), hasName ifName entry = true

variable (number : Nat)

theorem gathered_next :
    gathered answers (number + 1) = gathered answers number ++ (answers number).getD [] := by
  rw [gathered, List.range_succ, List.flatMap_append, List.flatMap_singleton]
  rfl

theorem counted_next :
    counted answers (number + 1) = counted answers number + if Counts answers number then 1 else 0 := by
  rw [counted, List.range_succ, List.countP_append, List.countP_singleton]
  simp only [decide_eq_true_eq]
  rfl

theorem later_try (number steps : Nat) (right : Nat → Prop) (none : ¬ right number) :
    (∃ index, number + 1 ≤ index ∧ index < number + 1 + steps ∧ right index) ↔
      ∃ index, number ≤ index ∧ index < number + (steps + 1) ∧ right index := by
  constructor
  · rintro ⟨index, low, high, found⟩
    exact ⟨index, by omega, by omega, found⟩
  · rintro ⟨index, low, high, found⟩
    have other : index ≠ number := by
      rintro rfl
      exact none found
    exact ⟨index, by omega, by omega, found⟩

theorem small_count (count : Nat) (few : count ≤ 4) : 3 < UInt8.ofNat count ↔ 3 < count := by
  rw [UInt8.lt_iff_toNat_lt, UInt8.toNat_ofNat']
  have small : count % 2 ^ 8 = count := Nat.mod_eq_of_lt (by omega)
  rw [small]
  rfl

theorem unanswered_try (answer : answers number = none) :
    gathered answers (number + 1) = gathered answers number ∧
      counted answers (number + 1) = counted answers number ∧ ¬ FoundAt ifName answers number := by
  have silent : ¬ (answers number).isSome = true := by
    rw [answer]
    exact Bool.false_ne_true
  refine ⟨?_, ?_, fun found => silent found.1⟩
  · rw [gathered_next, answer, Option.getD_none, List.append_nil]
  · rw [counted_next, if_neg (fun counts => silent counts.1), Nat.add_zero]

theorem answered_count (answered : (answers number).isSome = true) :
    (if gathered answers (number + 1) ≠ [] then UInt8.ofNat (counted answers number) + 1
      else UInt8.ofNat (counted answers number)) = UInt8.ofNat (counted answers (number + 1)) := by
  rw [counted_next]
  by_cases some : gathered answers (number + 1) ≠ []
  · rw [if_pos some, if_pos ⟨answered, some⟩, UInt8.ofNat_add]
    rfl
  · rw [if_neg some, if_neg (fun counts => some counts.2), Nat.add_zero]

theorem found_at_iff (answered : (answers number).isSome = true) :
    FoundAt ifName answers number ↔ ((gathered answers (number + 1)).find? (hasName ifName)).isSome = true := by
  rw [FoundAt, and_iff_right answered, List.find?_isSome]

theorem fetch_loop_returns_iff (steps number : Nat) (few : counted answers number ≤ 3) :
    fetchLoop ifName answers steps number (gathered answers number) (UInt8.ofNat (counted answers number)) ≠ none ↔
      ∃ index, number ≤ index ∧ index < number + steps ∧
        (FoundAt ifName answers index ∨ 3 < counted answers (index + 1)) := by
  induction steps generalizing number with
  | zero =>
      refine iff_of_false (fun returned => returned rfl) ?_
      rintro ⟨index, low, high, -⟩
      omega
  | succ steps ih =>
      have further (same : counted answers (number + 1) ≤ 3) (absent : ¬ FoundAt ifName answers number) :=
        (ih (number + 1) same).trans (later_try number steps _ (by
          rintro (found | many)
          · exact absent found
          · omega))
      rw [fetchLoop]
      cases answer : answers number with
      | none =>
          obtain ⟨listed, count, absent⟩ := unanswered_try ifName answers number answer
          dsimp only
          rw [if_neg (fun many => by have := (small_count _ (by omega)).mp many; omega), ← listed, ← count]
          exact further (by omega) absent
      | some lines =>
          have listed : gathered answers number ++ lines = gathered answers (number + 1) := by
            rw [gathered_next, answer, Option.getD_some]
          have answered : (answers number).isSome = true := by
            rw [answer]
            rfl
          have most : counted answers (number + 1) ≤ 4 := by
            rw [counted_next]
            split <;> omega
          have here := found_at_iff ifName answers number answered
          dsimp only
          rw [listed, answered_count answers number answered]
          cases found : (gathered answers (number + 1)).find? (hasName ifName) with
          | some entry =>
              rw [found] at here
              exact iff_of_true (Option.some_ne_none _) ⟨number, le_refl _, by omega, .inl (here.mpr rfl)⟩
          | none =>
              rw [found] at here
              dsimp only
              by_cases many : 3 < counted answers (number + 1)
              · rw [if_pos ((small_count _ most).mpr many)]
                exact iff_of_true (Option.some_ne_none _) ⟨number, le_refl _, by omega, .inr many⟩
              · rw [if_neg (fun full => many ((small_count _ most).mp full))]
                exact further (by omega) fun hits => Bool.noConfusion (here.mp hits)

theorem gathered_member (entry : Text) :
    entry ∈ gathered answers number ↔ ∃ index lines, index < number ∧ answers index = some lines ∧ entry ∈ lines := by
  rw [gathered, List.mem_flatMap]
  constructor
  · rintro ⟨index, inside, member⟩
    cases answer : answers index with
    | none =>
        rw [answer] at member
        cases member
    | some lines =>
        rw [answer] at member
        exact ⟨index, lines, List.mem_range.mp inside, answer, member⟩
  · rintro ⟨index, lines, inside, answer, member⟩
    refine ⟨index, List.mem_range.mpr inside, ?_⟩
    rw [answer]
    exact member

theorem found_iff :
    (∃ index, FoundAt ifName answers index) ↔
      ∃ number lines, answers number = some lines ∧ ∃ entry ∈ lines, hasName ifName entry = true := by
  constructor
  · rintro ⟨index, -, entry, member, named⟩
    obtain ⟨number, lines, -, answer, inside⟩ := (gathered_member answers (index + 1) entry).mp member
    exact ⟨number, lines, answer, entry, inside, named⟩
  · rintro ⟨number, lines, answer, entry, inside, named⟩
    refine ⟨number, by rw [answer]; rfl, entry, ?_, named⟩
    exact (gathered_member answers (number + 1) entry).mpr ⟨number, lines, Nat.lt_succ_self number, answer, inside⟩

theorem counts_from (first index : Nat) (lines : List Text) (answer : answers first = some lines) (some : lines ≠ [])
    (later : first ≤ index) (answered : (answers index).isSome) : Counts answers index := by
  obtain ⟨entry, inside⟩ := List.exists_mem_of_ne_nil lines some
  have member := (gathered_member answers (index + 1) entry).mpr ⟨first, lines, by omega, answer, inside⟩
  exact ⟨answered, List.ne_nil_of_mem member⟩

theorem counted_iff :
    (∃ index, 3 < counted answers (index + 1)) ↔
      ∃ first lines last, answers first = some lines ∧ lines ≠ [] ∧
        4 ≤ (List.range last).countP fun number => first ≤ number ∧ (answers number).isSome := by
  constructor
  · rintro ⟨index, many⟩
    have one : 0 < counted answers (index + 1) := by omega
    have filled : ∃ first, ∃ lines, answers first = some lines ∧ lines ≠ [] := by
      obtain ⟨number, -, counts⟩ := List.countP_pos_iff.mp one
      obtain ⟨entry, member⟩ := List.exists_mem_of_ne_nil _ (of_decide_eq_true counts).2
      obtain ⟨first, lines, -, answer, inside⟩ := (gathered_member answers (number + 1) entry).mp member
      exact ⟨first, lines, answer, List.ne_nil_of_mem inside⟩
    classical
    obtain ⟨lines, answer, some⟩ := Nat.find_spec filled
    refine ⟨Nat.find filled, lines, index + 1, answer, some, le_trans many ?_⟩
    refine List.countP_mono_left fun number _ counts => ?_
    obtain ⟨answered, nonempty⟩ := of_decide_eq_true counts
    obtain ⟨entry, member⟩ := List.exists_mem_of_ne_nil _ nonempty
    obtain ⟨first, others, before, other, inside⟩ := (gathered_member answers (number + 1) entry).mp member
    have least := Nat.find_min' filled ⟨others, other, List.ne_nil_of_mem inside⟩
    exact decide_eq_true ⟨by omega, answered⟩
  · rintro ⟨first, lines, last, answer, some, many⟩
    cases last with
    | zero => exact absurd many (Nat.not_succ_le_zero 3)
    | succ index =>
        refine ⟨index, lt_of_lt_of_le many ?_⟩
        refine List.countP_mono_left fun number _ counts => ?_
        obtain ⟨later, answered⟩ := of_decide_eq_true counts
        exact decide_eq_true (counts_from answers first number lines answer some later answered)

end fetch

theorem fetch_returns_iff (session : TextSession) (ifName : Text) (tries : Nat → TextSession × Server) :
    (∃ steps, fetchIterfaceGUID session ifName tries steps ≠ none) ↔
      (session.connected = true →
        (∃ number lines, answersOf tries number = some lines ∧ ∃ entry ∈ lines, hasName ifName entry = true) ∨
          ∃ first lines last, answersOf tries first = some lines ∧ lines ≠ [] ∧
            4 ≤ (List.range last).countP fun number => first ≤ number ∧ (answersOf tries number).isSome) := by
  cases connected : session.connected with
  | false =>
      refine iff_of_true ⟨0, ?_⟩ (fun absent => by cases absent)
      rw [fetchIterfaceGUID, connected, if_pos (by decide)]
      exact Option.some_ne_none _
  | true =>
      rw [← found_iff ifName (answersOf tries), ← counted_iff (answersOf tries), ← exists_or, forall_prop_of_true rfl]
      have loop (steps : Nat) : fetchIterfaceGUID session ifName tries steps ≠ none ↔ ∃ index, 0 ≤ index ∧
          index < 0 + steps ∧ (FoundAt ifName (answersOf tries) index ∨ 3 < counted (answersOf tries) (index + 1)) := by
        rw [fetchIterfaceGUID, connected, if_neg (by decide)]
        exact fetch_loop_returns_iff ifName (answersOf tries) steps 0 (Nat.zero_le 3)
      constructor
      · rintro ⟨steps, returned⟩
        obtain ⟨index, -, -, found⟩ := (loop steps).mp returned
        exact ⟨index, found⟩
      · rintro ⟨index, found⟩
        exact ⟨index + 1, (loop (index + 1)).mpr ⟨index, Nat.zero_le index, by omega, found⟩⟩

theorem interface_queries_right_iff (session : TextSession) (server : Server) (pStatistics : Statistics)
    (canal : Option CanalStatistics) (ifName : Text) (tries : Nat → TextSession × Server) :
    InterfaceQueriesRight session server pStatistics canal ifName tries ↔
      InterfaceServer session server canal ifName tries := by
  constructor
  · intro right
    exact ⟨(statistics_right_iff session server pStatistics).mp right.statistics,
      (canal_returns_iff canal).mp right.canal, (fetch_returns_iff session ifName tries).mp right.interface⟩
  · intro condition
    exact ⟨(statistics_right_iff session server pStatistics).mpr condition.statistics,
      (canal_returns_iff canal).mpr condition.canal, (fetch_returns_iff session ifName tries).mpr condition.interface⟩

-- A pointer to a structure sends the canal version into itself.
theorem canal_statistics_hang :
    ¬ InterfaceQueriesRight freshSession wordServer ⟨0, 0, 0, 0, 0, 0, 0, 0⟩ (some ⟨0, 0, 0, 0, 0, 0, 0⟩) []
      (fun _ => (freshSession, wordServer)) := by
  intro right
  obtain ⟨steps, returned⟩ := right.canal
  exact returned (canal_never_returns steps _)

end Vscp.RemoteTcp
