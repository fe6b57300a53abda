import Vscp.RegisterRead
import Vscp.Lib.WaitLoop

set_option autoImplicit false

namespace Vscp.Registers

open WaitLoop

def typeReadRegister : UInt16 := 9
def typeRwResponse : UInt16 := 10
def typeWhoIsThere : UInt16 := 31
def typeWhoIsThereResponse : UInt16 := 32

structure ScanCall where
  guidIf : Guid
  statusCallback : Bool
  timeout : UInt32
  startTime : UInt32

theorem high_guid_byte : 14 < 16 := by decide

def nodeId (ex : VscpEventEx) : UInt16 :=
  (ex.guid.get nicknameIndex).toUInt16 + ((ex.guid.get ⟨14, high_guid_byte⟩).toUInt16 <<< 8)

structure ScanState where
  found : Finset UInt16
  callbackTime : UInt32
  -- What the callback was told.
  reports : List Nat

structure FastState extends ScanState where
  rv : Int
  ex : VscpEventEx

inductive ScanFault
  | dividedByZero

inductive ScanOutcome
  | refused (rv : Int)
  | waiting
  | ended (found : Finset UInt16) (made : List ReadTurn)
  | dividedByZero

structure ScanResult where
  sent : List VscpEventEx
  outcome : ScanOutcome

def answersWhoIsThere (ex : VscpEventEx) : Bool :=
  ex.vscpClass = class1Protocol ∧ ex.vscpType = typeWhoIsThereResponse

def answersRegisterRead (ex : VscpEventEx) : Bool :=
  (ex.vscpClass = class1Protocol ∨ ex.vscpClass = class2Level1Protocol) ∧ ex.vscpType = typeRwResponse

def callbackDue (call : ScanCall) (state : ScanState) (turn : ReadTurn) : Bool :=
  call.statusCallback ∧ 500 < turn.callbackClock - state.callbackTime

def isLate (call : ScanCall) (turn : ReadTurn) : Bool := call.timeout < turn.clock - call.startTime

def tell (state : ScanState) (turn : ReadTurn) (report : Nat) : ScanState :=
  { state with callbackTime := turn.callbackTime, reports := state.reports ++ [report] }

-- An event is looked at in each turn again until the next one comes.
def fastReceive (state : FastState) (turn : ReadTurn) : FastState :=
  let state :=
    if turn.cntRead ≠ 0 then
      { state with rv := turn.receive, ex := if turn.receive = 0 then turn.event.ex else state.ex }
    else state
  if state.rv = 0 ∧ answersWhoIsThere state.ex then { state with found := state.found ∪ {nodeId state.ex} }
  else state

def fastTurn (call : ScanCall) (state : FastState) (turn : ReadTurn) : Turned FastState ScanFault :=
  let state := fastReceive state turn
  if isLate call turn then .ends state
  else if callbackDue call state.toScanState turn then
    .goes { state with toScanState := tell state.toScanState turn state.found.card }
  else .goes state

def slowReceive (state : ScanState) (turn : ReadTurn) : ScanState :=
  if turn.cntRead ≠ 0 ∧ turn.receive = 0 ∧ answersRegisterRead turn.event.ex then
    { state with found := state.found ∪ {nodeId turn.event.ex} }
  else state

def slowTurn (call : ScanCall) (searchNodes : Finset UInt16) (state : ScanState) (turn : ReadTurn) :
    Turned ScanState ScanFault :=
  let state := slowReceive state turn
  if searchNodes.card ≤ state.found.card then .ends state
  else if isLate call turn then .ends state
  else if callbackDue call state turn then
    if searchNodes.card = 0 then .fails .dividedByZero
    else .goes (tell state turn (100 * state.found.card / searchNodes.card))
  else .goes state

def requestClass (call : ScanCall) : UInt16 :=
  if call.guidIf = Vector.replicate 16 0 then class1Protocol else class2Level1Protocol

-- Behind an interface its GUID is put where the rest of the data should be.
def fastRequest (call : ScanCall) : VscpEventEx :=
  let data := if call.guidIf = Vector.replicate 16 0 then [0xff] else List.replicate 16 0 ++ call.guidIf.toList
  { emptyEventEx with
    vscpClass := requestClass call
    vscpType := typeWhoIsThere
    sizeData := if call.guidIf = Vector.replicate 16 0 then 1 else 17
    data := overlay data data.length emptyEventEx.data }

def slowRequest (call : ScanCall) (idx : UInt16) : VscpEventEx :=
  let data := interfaceBytes call.guidIf ++ [idx.toUInt8, 0xd0]
  { emptyEventEx with
    vscpClass := requestClass call
    vscpType := typeReadRegister
    sizeData := UInt16.ofNat data.length
    data := overlay data data.length emptyEventEx.data }

def scanForDevices (call : ScanCall) (found : Finset UInt16) (clear send : Int) (turns : List ReadTurn) : ScanResult :=
  if clear ≠ 0 then ⟨[], .refused clear⟩
  else if send ≠ 0 then ⟨[fastRequest call], .refused send⟩
  else
    match loop (fastTurn call) ⟨⟨found, call.startTime, []⟩, 0, fastRequest call⟩ [] turns with
    | .waiting => ⟨[fastRequest call], .waiting⟩
    | .ended last made => ⟨[fastRequest call], .ended last.found made⟩
    | .failed _ => ⟨[fastRequest call], .dividedByZero⟩

def scanSlowForDevices (call : ScanCall) (searchNodes foundNodes : Finset UInt16) (clear : Int) (send : Nat → Int)
    (turns : List ReadTurn) : ScanResult :=
  let requests := (searchNodes.sort (· ≤ ·)).map (slowRequest call)
  if clear ≠ 0 then ⟨[], .refused clear⟩
  else
    match (List.range requests.length).find? fun i => send i ≠ 0 with
    | some i => ⟨requests.take (i + 1), .refused (send i)⟩
    | none =>
        match loop (slowTurn call searchNodes) ⟨foundNodes, call.startTime, []⟩ [] turns with
        | .waiting => ⟨requests, .waiting⟩
        | .ended last made => ⟨requests, .ended last.found made⟩
        | .failed .dividedByZero => ⟨requests, .dividedByZero⟩

def arrivesIn (turn : ReadTurn) : Option VscpEventEx :=
  if turn.cntRead ≠ 0 ∧ turn.receive = 0 then some turn.event.ex else none

def arrived (made : List ReadTurn) : List VscpEventEx := made.filterMap arrivesIn

def nodesOf (answer : VscpEventEx → Bool) (made : List ReadTurn) : Finset UInt16 :=
  (((arrived made).filter answer).map nodeId).toFinset

def isWhoIsThereAnswer (ex : VscpEventEx) : Bool :=
  (ex.vscpClass = class1Protocol ∨ ex.vscpClass = class2Level1Protocol) ∧ ex.vscpType = typeWhoIsThereResponse

def EndsLate (call : ScanCall) (made : List ReadTurn) : Prop := ∃ turn, made.getLast? = some turn ∧ isLate call turn

section nodes

variable (answer : VscpEventEx → Bool) (made : List ReadTurn) (turn : ReadTurn)

theorem mem_nodes (node : UInt16) :
    node ∈ nodesOf answer made ↔ ∃ ex ∈ arrived made, answer ex ∧ nodeId ex = node := by
  simp only [nodesOf, List.mem_toFinset, List.mem_map, List.mem_filter, and_assoc]

theorem nodes_none : nodesOf answer [] = ∅ := rfl

theorem nodes_more_heard (ex : VscpEventEx) (hears : arrivesIn turn = some ex) (answers : answer ex) :
    nodesOf answer (made ++ [turn]) = nodesOf answer made ∪ {nodeId ex} := by
  rw [nodesOf, arrived, List.filterMap_append, List.filterMap_cons_some hears, List.filterMap_nil, List.filter_append,
    List.filter_cons_of_pos answers, List.filter_nil, List.map_append, List.toFinset_append]
  rfl

theorem nodes_more_other (other : ∀ ex, arrivesIn turn = some ex → ¬ answer ex) :
    nodesOf answer (made ++ [turn]) = nodesOf answer made := by
  rw [nodesOf, arrived, List.filterMap_append]
  cases hears : arrivesIn turn with
  | none => rw [List.filterMap_cons_none hears, List.filterMap_nil, List.append_nil]; rfl
  | some ex =>
      rw [List.filterMap_cons_some hears, List.filterMap_nil, List.filter_append,
        List.filter_cons_of_neg (other ex hears), List.filter_nil, List.append_nil]
      rfl

theorem nodes_single_card : (nodesOf answer [turn]).card ≤ 1 := by
  have few : (arrived [turn]).length ≤ 1 := List.length_filterMap_le _ _
  calc (nodesOf answer [turn]).card
    _ ≤ (((arrived [turn]).filter answer).map nodeId).length := List.toFinset_card_le _
    _ = ((arrived [turn]).filter answer).length := List.length_map _
    _ ≤ (arrived [turn]).length := List.length_filter_le _ _
    _ ≤ 1 := few

theorem nodes_mono (stricter : VscpEventEx → Bool) (implies : ∀ ex, stricter ex → answer ex) :
    nodesOf stricter made ⊆ nodesOf answer made := by
  intro node member
  obtain ⟨ex, hears, answers, same⟩ := (mem_nodes stricter made node).mp member
  exact (mem_nodes answer made node).mpr ⟨ex, hears, implies ex answers, same⟩

end nodes

section fast

variable (call : ScanCall) (given : Finset UInt16)

structure FastKept (state : FastState) (made : List ReadTurn) : Prop where
  found : state.found = given ∪ nodesOf answersWhoIsThere made
  again : state.rv = 0 → answersWhoIsThere state.ex → nodeId state.ex ∈ state.found

theorem nothing_heard (turn : ReadTurn) (none : ¬ (turn.cntRead ≠ 0 ∧ turn.receive = 0)) (answer : VscpEventEx → Bool)
    (made : List ReadTurn) : nodesOf answer (made ++ [turn]) = nodesOf answer made := by
  refine nodes_more_other answer made turn fun ex hears => ?_
  rw [arrivesIn, if_neg none] at hears
  cases hears

theorem fast_receive_kept (state : FastState) (made : List ReadTurn) (turn : ReadTurn)
    (kept : FastKept given state made) : FastKept given (fastReceive state turn) (made ++ [turn]) := by
  unfold fastReceive
  by_cases waiting : turn.cntRead ≠ 0
  · rw [if_pos waiting]
    by_cases received : turn.receive = 0
    · have hears : arrivesIn turn = some turn.event.ex := if_pos ⟨waiting, received⟩
      simp only [if_pos received]
      by_cases answers : answersWhoIsThere turn.event.ex
      · rw [if_pos ⟨received, answers⟩]
        refine ⟨?_, fun _ _ => Finset.mem_union_right _ (Finset.mem_singleton_self _)⟩
        rw [nodes_more_heard _ made turn _ hears answers, ← Finset.union_assoc, ← kept.found]
      · rw [if_neg (fun both => answers both.2)]
        refine ⟨?_, fun _ answered => absurd answered answers⟩
        rw [nodes_more_other _ made turn fun ex same => Option.some_inj.mp (hears.symm.trans same) ▸ answers]
        exact kept.found
    · simp only [if_neg received]
      rw [if_neg (fun both => received both.1)]
      refine ⟨?_, fun right => absurd right received⟩
      rw [nothing_heard turn (fun both => received both.2)]
      exact kept.found
  · rw [if_neg waiting]
    have same := nothing_heard turn (fun both => waiting both.1) answersWhoIsThere made
    by_cases again : state.rv = 0 ∧ answersWhoIsThere state.ex
    · have there : state.found ∪ {nodeId state.ex} = state.found :=
        Finset.union_eq_left.mpr (Finset.singleton_subset_iff.mpr (kept.again again.1 again.2))
      rw [if_pos again]
      simp only [there]
      exact ⟨by rw [same]; exact kept.found, kept.again⟩
    · rw [if_neg again]
      exact ⟨by rw [same]; exact kept.found, kept.again⟩

theorem fast_turn_cases (state : FastState) (turn : ReadTurn) :
    (fastTurn call state turn = .ends (fastReceive state turn) ∧ isLate call turn) ∨
      ∃ told, fastTurn call state turn = .goes { fastReceive state turn with toScanState := told } ∧
        told.found = (fastReceive state turn).found := by
  rw [fastTurn]
  split
  · rename_i late
    exact .inl ⟨rfl, late⟩
  · split
    · exact .inr ⟨_, rfl, rfl⟩
    · exact .inr ⟨_, rfl, rfl⟩

theorem fast_scan_found (last : FastState) (made turns : List ReadTurn)
    (ended : loop (fastTurn call) ⟨⟨given, call.startTime, []⟩, 0, fastRequest call⟩ [] turns = .ended last made) :
    last.found = given ∪ nodesOf answersWhoIsThere made ∧ EndsLate call made := by
  refine loop_ends (fastTurn call) (FastKept given)
    (fun last made => last.found = given ∪ nodesOf answersWhoIsThere made ∧ EndsLate call made) ?_ ?_ _ last [] made
    turns ?_ ended
  · intro state made turn next kept taken
    have held := fast_receive_kept given state made turn kept
    obtain ⟨ends, -⟩ | ⟨told, goes, same⟩ := fast_turn_cases call state turn
    · cases ends.symm.trans taken
    · cases goes.symm.trans taken
      exact ⟨same.trans held.found, fun right answered => same ▸ held.again right answered⟩
  · intro state made turn last kept taken
    have held := fast_receive_kept given state made turn kept
    obtain ⟨ends, late⟩ | ⟨told, goes, -⟩ := fast_turn_cases call state turn
    · cases ends.symm.trans taken
      exact ⟨held.found, turn, List.getLast?_concat, late⟩
    · cases goes.symm.trans taken
  · refine ⟨by rw [nodes_none, Finset.union_empty], fun _ asks => ?_⟩
    have other : answersWhoIsThere (fastRequest call) = false :=
      decide_eq_false fun both => absurd both.2 (show typeWhoIsThere ≠ typeWhoIsThereResponse by decide)
    rw [other] at asks
    cases asks

end fast

section slow

variable (call : ScanCall) (searchNodes given : Finset UInt16)

theorem slow_receive_found (state : ScanState) (made : List ReadTurn) (turn : ReadTurn)
    (found : state.found = given ∪ nodesOf answersRegisterRead made) :
    (slowReceive state turn).found = given ∪ nodesOf answersRegisterRead (made ++ [turn]) ∧
      (slowReceive state turn).found.card ≤ state.found.card + 1 := by
  rw [slowReceive]
  by_cases taken : turn.cntRead ≠ 0 ∧ turn.receive = 0 ∧ answersRegisterRead turn.event.ex
  · rw [if_pos taken, nodes_more_heard _ made turn _ (if_pos ⟨taken.1, taken.2.1⟩) taken.2.2, ← Finset.union_assoc,
      ← found]
    exact ⟨rfl, Finset.card_union_le _ _⟩
  · rw [if_neg taken, nodes_more_other _ made turn ?_]
    · exact ⟨found, Nat.le_succ _⟩
    · intro ex hears answers
      rw [arrivesIn] at hears
      split at hears
      · rename_i handed
        cases hears
        exact taken ⟨handed.1, handed.2, answers⟩
      · cases hears

def SlowKept (state : ScanState) (made : List ReadTurn) : Prop :=
  state.found = given ∪ nodesOf answersRegisterRead made ∧ (made = [] ∨ state.found.card < searchNodes.card)

structure SlowEnded (found : Finset UInt16) (made : List ReadTurn) : Prop where
  nodes : found = given ∪ nodesOf answersRegisterRead made
  enough : EndsLate call made ∨ searchNodes.card ≤ found.card
  few : found.card ≤ searchNodes.card ∨ made.length = 1

theorem slow_turn_cases (state : ScanState) (turn : ReadTurn) :
    (slowTurn call searchNodes state turn = .ends (slowReceive state turn) ∧
        (isLate call turn ∨ searchNodes.card ≤ (slowReceive state turn).found.card)) ∨
      ∃ told, slowTurn call searchNodes state turn = .goes told ∧ told.found = (slowReceive state turn).found ∧
        told.found.card < searchNodes.card := by
  rw [slowTurn]
  split
  · rename_i enough
    exact .inl ⟨rfl, .inr enough⟩
  · rename_i more
    split
    · rename_i late
      exact .inl ⟨rfl, .inl late⟩
    · split
      · rw [if_neg (by omega)]
        exact .inr ⟨_, rfl, rfl, Nat.lt_of_not_le more⟩
      · exact .inr ⟨_, rfl, rfl, Nat.lt_of_not_le more⟩

theorem slow_scan_found (last : ScanState) (made turns : List ReadTurn)
    (ended : loop (slowTurn call searchNodes) ⟨given, call.startTime, []⟩ [] turns = .ended last made) :
    SlowEnded call searchNodes given last.found made := by
  refine loop_ends (slowTurn call searchNodes) (SlowKept searchNodes given)
    (fun last made => SlowEnded call searchNodes given last.found made) ?_ ?_ _ last [] made turns ?_ ended
  · intro state made turn next kept taken
    obtain ⟨held, -⟩ := slow_receive_found given state made turn kept.1
    obtain ⟨ends, -⟩ | ⟨told, goes, same, fewer⟩ := slow_turn_cases call searchNodes state turn
    · cases ends.symm.trans taken
    · cases goes.symm.trans taken
      exact ⟨same.trans held, .inr fewer⟩
  · intro state made turn last kept taken
    obtain ⟨held, most⟩ := slow_receive_found given state made turn kept.1
    obtain ⟨ends, enough⟩ | ⟨told, goes, -⟩ := slow_turn_cases call searchNodes state turn
    · cases ends.symm.trans taken
      refine ⟨held, enough.imp_left fun late => ⟨turn, List.getLast?_concat, late⟩, ?_⟩
      refine kept.2.symm.imp (fun fewer => by omega) fun first => ?_
      rw [first]
      rfl
    · cases goes.symm.trans taken
  · exact ⟨by rw [nodes_none, Finset.union_empty], .inl rfl⟩

theorem slow_turn_divides (state : ScanState) (turn : ReadTurn) (fault : ScanFault) :
    slowTurn call searchNodes state turn ≠ .fails fault := by
  intro failed
  obtain ⟨ends, -⟩ | ⟨told, goes, -⟩ := slow_turn_cases call searchNodes state turn
  · cases ends.symm.trans failed
  · cases goes.symm.trans failed

end slow

section scans

variable (call : ScanCall) (searchNodes given : Finset UInt16) (clear : Int) (turns : List ReadTurn)

theorem fast_outcome (send : Int) (found : Finset UInt16) (made : List ReadTurn)
    (ended : (scanForDevices call given clear send turns).outcome = .ended found made) :
    found = given ∪ nodesOf answersWhoIsThere made ∧ EndsLate call made := by
  rw [scanForDevices] at ended
  split at ended
  · cases ended
  split at ended
  · cases ended
  split at ended
  · cases ended
  · rename_i last all done
    cases ended
    exact fast_scan_found call given last _ turns done
  · cases ended

variable (send : Nat → Int) (found : Finset UInt16)

theorem slow_outcome (made : List ReadTurn)
    (ended : (scanSlowForDevices call searchNodes given clear send turns).outcome = .ended found made) :
    SlowEnded call searchNodes given found made := by
  rw [scanSlowForDevices] at ended
  split at ended
  · cases ended
  split at ended
  · cases ended
  split at ended
  · cases ended
  · rename_i last all done
    cases ended
    exact slow_scan_found call searchNodes given last _ turns done
  · cases ended

theorem slow_divides :
    (scanSlowForDevices call searchNodes given clear send turns).outcome ≠ .dividedByZero := by
  intro divided
  rw [scanSlowForDevices] at divided
  split at divided
  · cases divided
  split at divided
  · cases divided
  split at divided
  · cases divided
  · cases divided
  · rename_i failed
    exact loop_never_fails _ (slow_turn_divides call searchNodes) _ _ _ _ failed

def FastRight (send : Int) : Prop :=
  ∀ found made, (scanForDevices call given clear send turns).outcome = .ended found made →
    found = nodesOf isWhoIsThereAnswer made ∧ EndsLate call made

def SlowRight (send : Nat → Int) : Prop :=
  ∀ found made, (scanSlowForDevices call searchNodes given clear send turns).outcome = .ended found made →
    found = nodesOf answersRegisterRead made ∧ (EndsLate call made ∨ searchNodes ⊆ found)

def FastCondition (send : Int) : Prop :=
  ∀ found made, (scanForDevices call given clear send turns).outcome = .ended found made →
    given ⊆ nodesOf isWhoIsThereAnswer made ∧
      nodesOf isWhoIsThereAnswer made ⊆ given ∪ nodesOf answersWhoIsThere made

def SlowCondition (send : Nat → Int) : Prop :=
  ∀ found made, (scanSlowForDevices call searchNodes given clear send turns).outcome = .ended found made →
    given ⊆ nodesOf answersRegisterRead made ∧
      (EndsLate call made ∨ searchNodes = ∅ ∨ nodesOf answersRegisterRead made ⊆ searchNodes)

theorem fast_right_iff (send : Int) :
    FastRight call given clear turns send ↔ FastCondition call given clear turns send := by
  refine forall_congr' fun found => forall_congr' fun made => imp_congr_right fun ended => ?_
  obtain ⟨nodes, late⟩ := fast_outcome call given clear turns send found made ended
  have plain : nodesOf answersWhoIsThere made ⊆ nodesOf isWhoIsThereAnswer made := by
    refine nodes_mono _ made _ fun ex answers => ?_
    obtain ⟨levelOne, response⟩ := of_decide_eq_true answers
    exact decide_eq_true ⟨.inl levelOne, response⟩
  rw [nodes, and_iff_left late]
  constructor
  · intro same
    exact ⟨same ▸ Finset.subset_union_left, Finset.subset_of_eq same.symm⟩
  · rintro ⟨before, missed⟩
    exact Finset.Subset.antisymm (Finset.union_subset before plain) missed

theorem all_found_iff (same : found.card = searchNodes.card) :
    searchNodes ⊆ found ↔ found ⊆ searchNodes :=
  ⟨fun inside => Finset.subset_of_eq (Finset.eq_of_subset_of_card_le inside (Nat.le_of_eq same)).symm,
    fun inside => Finset.subset_of_eq (Finset.eq_of_subset_of_card_le inside (Nat.le_of_eq same.symm)).symm⟩

theorem slow_right_iff :
    SlowRight call searchNodes given clear turns send ↔ SlowCondition call searchNodes given clear turns send := by
  refine forall_congr' fun found => forall_congr' fun made => imp_congr_right fun ended => ?_
  obtain ⟨nodes, enough, few⟩ := slow_outcome call searchNodes given clear turns send found made ended
  have reported : found = nodesOf answersRegisterRead made ↔ given ⊆ nodesOf answersRegisterRead made := by
    rw [nodes]
    exact Finset.union_eq_right
  rw [← reported]
  refine and_congr_right fun exact' => or_congr_right' fun early => ?_
  rw [← exact']
  by_cases none : searchNodes = ∅
  · exact iff_of_true (none ▸ Finset.empty_subset found) (.inl none)
  · have some := Finset.card_pos.mpr (Finset.nonempty_iff_ne_empty.mpr none)
    have atMost : found.card ≤ searchNodes.card := by
      refine few.elim id fun single => ?_
      obtain ⟨turn, only⟩ := List.length_eq_one_iff.mp single
      have one := nodes_single_card answersRegisterRead turn
      rw [← only, ← exact'] at one
      omega
    rw [or_iff_right none]
    exact all_found_iff searchNodes found (Nat.le_antisymm atMost (enough.resolve_left early))

theorem device_scans_iff (send : Int) (sends : Nat → Int) :
    (FastRight call given clear turns send ↔ FastCondition call given clear turns send) ∧
      (SlowRight call searchNodes given clear turns sends ↔ SlowCondition call searchNodes given clear turns sends) ∧
      (scanSlowForDevices call searchNodes given clear sends turns).outcome ≠ .dividedByZero :=
  ⟨fast_right_iff call given clear turns send, slow_right_iff call searchNodes given clear turns sends,
    slow_divides call searchNodes given clear turns sends⟩

end scans

-- The first byte of the GUID of a node, and an answer that comes over an interface.
def registerAnswer (node : UInt8) : VscpEventEx := { responseOf node [0xd0, 0] with vscpType := typeRwResponse }

def interfaceAnswer (node : UInt8) : VscpEventEx :=
  { responseOf node (List.replicate 24 0) with vscpClass := class2Level1Protocol, vscpType := typeWhoIsThereResponse }

theorem register_answer_fits (node : UInt8) : (registerAnswer node).sizeData.toNat ≤ maxData := show 2 ≤ 512 by decide

theorem interface_answer_fits (node : UInt8) : (interfaceAnswer node).sizeData.toNat ≤ maxData :=
  show 24 ≤ 512 by decide

def registerTurn : ReadTurn := ⟨0, 1, 0, ⟨registerAnswer 2, register_answer_fits 2⟩, 0, 0, 0⟩

def interfaceTurn : ReadTurn := ⟨0, 1, 0, ⟨interfaceAnswer 2, interface_answer_fits 2⟩, 1001, 0, 0⟩

def plainScan : ScanCall := ⟨Vector.replicate 16 0, false, 1000, 0⟩

-- Node 2 ends the scan for node 1 at once; over an interface it is not found at all.
theorem scan_misses_nodes :
    ¬ SlowRight plainScan {1} ∅ 0 [registerTurn] (fun _ => 0) ∧ ¬ FastRight plainScan ∅ 0 [interfaceTurn] 0 := by
  constructor
  · intro right
    obtain ⟨-, late | all⟩ := right {2} [registerTurn] (by
      rw [scanSlowForDevices, if_neg (fun failed => failed rfl), List.find?_eq_none.mpr (fun i _ => by decide)]
      rfl)
    · obtain ⟨turn, last, late⟩ := late
      cases last
      exact absurd late (by decide)
    · exact absurd all (by decide)
  · intro right
    obtain ⟨nodes, -⟩ := right ∅ [interfaceTurn] rfl
    have arrived : (2 : UInt16) ∈ nodesOf isWhoIsThereAnswer [interfaceTurn] :=
      (mem_nodes _ _ _).mpr ⟨interfaceAnswer 2, List.mem_singleton_self _, by decide, by decide⟩
    rw [← nodes] at arrived
    exact Finset.notMem_empty _ arrived

end Vscp.Registers
