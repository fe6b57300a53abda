import Vscp.LinkedListShape

set_option autoImplicit false

namespace Vscp.Dll

open Chain

def emptyList (nSort : UInt8) : NodeList := ⟨nSort, [], 0⟩

def Placed (list : NodeList) : Step → Prop
  | .addNodeBefore pNode _ | .addNodeAfter pNode _ | .insertNode pNode _ | .removeNode pNode => pNode ∈ list.addresses
  | .addNodeHead _ | .addNodeTail _ | .addNode _ | .removeAllNodes => True

-- No node goes between two others: before the head, behind the tail, or by its keys at an end of the list.
def Straight (list : NodeList) : Step → Prop
  | .addNodeHead _ | .addNodeTail _ | .removeAllNodes => True
  | .addNodeBefore pNode _ => list.addresses.head? = some pNode
  | .addNodeAfter pNode _ => list.addresses.getLast? = some pNode
  | .insertNode _ _ => False
  | .addNode node => list.order = sortNone ∨ refused list.order node.keys ∨
      ∃ place, findPlace list.order node.keys list.nodes = some place ∧ Outer list place
  | .removeNode pNode => pNode ∈ list.addresses

def Along (allowed : NodeList → Step → Prop) : NodeList → List Step → Prop
  | _, [] => True
  | list, call :: later => allowed list call ∧ Along allowed (listStep list call) later

-- Both ways round visit the same nodes, the ends are where the list says, and the nodes are counted.
structure WellFormed (world : World) (nodes : List Addr) : Prop where
  forward : forward world = some nodes
  backward : backward world = some nodes.reverse
  pHead : world.pdll.pHead = nodes.head?
  pTail : world.pdll.pTail = nodes.getLast?
  nCount : world.pdll.nCount = nodes.length

theorem represents_well_formed (world : World) (list : NodeList) (represents : Represents world list) :
    WellFormed world list.addresses :=
  ⟨represents_forward world list represents, represents_backward world list represents, represents.head,
    represents.tail, represents.count.trans (List.length_map _).symm⟩

theorem fresh_represents (nSort : UInt8) : Represents (freshWorld nSort) (emptyList nSort) := by
  refine ⟨trivial, List.nodup_nil, ?_, rfl, rfl, rfl, rfl, rfl⟩
  intro entry member
  cases member

theorem given_absent (world : World) (list : NodeList) (represents : Represents world list) :
    list.given ∉ list.addresses := by
  intro member
  have inside := node_inside world.heap list.given (represents_readable world list represents list.given member)
  rw [represents.given] at inside
  exact Nat.lt_irrefl _ inside

theorem allocated_represents (world : World) (list : NodeList) (represents : Represents world list) (node : DllNode) :
    Represents (allocated world node) { list with given := list.given + 1 } := by
  have apart : ∀ address ∈ list.addresses, address ≠ world.heap.length := by
    intro address member same
    rw [same, represents.given] at member
    exact given_absent world list represents member
  constructor
  · apply segment_frame (linksOf world.heap) _ none none _ _ represents.linked
    intro address member
    rw [linksOf, node_at_allocated, if_neg (apart address member)]
    rfl
  · exact represents.distinct
  · intro entry member
    rw [node_at_allocated, if_neg (apart entry.1 (List.mem_map_of_mem member))]
    exact represents.keys entry member
  · exact represents.head
  · exact represents.tail
  · exact represents.count
  · exact represents.order
  · rw [allocated, List.length_append, List.length_singleton, represents.given]

theorem allocated_named (world : World) (node : DllNode) :
    (nodeAt (allocated world node).heap world.heap.length).map DllNode.keys = some node.keys := by
  rw [node_at_allocated, if_pos rfl, Option.map_some]

theorem step_represents (world : World) (list : NodeList) (represents : Represents world list) (call : Step)
    (straight : Straight list call) : ∃ next, step world call = some next ∧ Represents next (listStep list call) := by
  have given := represents.given
  have fresh := allocated_represents world list represents
  have absent : (list.given, Keys.mk none none).1 ∉ list.addresses := given_absent world list represents
  have named := allocated_named world
  rw [given] at named
  cases call with
  | addNodeHead node =>
      rw [step, given]
      exact add_head_represents _ _ (fresh node) (list.given, node.keys) absent (named node)
  | addNodeTail node =>
      rw [step, given]
      exact add_tail_represents _ _ (fresh node) (list.given, node.keys) absent (named node)
  | addNodeBefore pNode node =>
      rw [step, given]
      exact add_before_represents _ _ (fresh node) pNode straight (list.given, node.keys) absent (named node)
  | addNodeAfter pNode node =>
      rw [step, given]
      exact add_after_represents _ _ (fresh node) pNode straight (list.given, node.keys) absent (named node)
  | insertNode pNode node => cases straight
  | addNode node =>
      rw [step, given]
      exact add_node_represents _ _ (fresh node) (list.given, node.keys) absent (named node) straight
  | removeNode pNode => exact remove_node_represents world list represents pNode straight
  | removeAllNodes => exact remove_all_represents world list represents

theorem run_represents (calls : List Step) (world : World) (list : NodeList) (represents : Represents world list)
    (straight : Along Straight list calls) :
    ∃ last, calls.foldlM step world = some last ∧ Represents last (calls.foldl listStep list) := by
  induction calls generalizing world list with
  | nil => exact ⟨world, rfl, represents⟩
  | cons call later ih =>
      obtain ⟨next, done, kept⟩ := step_represents world list represents call straight.1
      obtain ⟨last, finished, final⟩ := ih next _ kept straight.2
      exact ⟨last, by rw [List.foldlM_cons, done]; exact finished, final⟩

theorem write_node_here (heap changed : Heap) (address : Addr) (change : DllNode → DllNode)
    (written : writeNode heap address change = some changed) :
    ∃ node, nodeAt heap address = some node ∧ nodeAt changed address = some (change node) := by
  obtain ⟨node, read, rfl⟩ := Option.map_eq_some_iff.mp written
  have inside := node_inside heap address (by rw [read]; rfl)
  refine ⟨node, read, ?_⟩
  rw [node_at_set heap address address _ inside, if_pos rfl]

variable (world next : World) (list : NodeList)

theorem node_count_heap (done : dllGetNodeCount world = some next) : next.heap = world.heap := by
  unfold dllGetNodeCount at done
  split at done
  · cases done
    rfl
  · obtain ⟨nodes, _, rfl⟩ := Option.map_eq_some_iff.mp done
    rfl

theorem inserted_node_loops (pNode pInsertNode : Addr)
    (done : dllInsertNode world pNode pInsertNode = some next) :
    ∃ pNext, linksOf next.heap pInsertNode = some ⟨pNext, some pInsertNode⟩ := by
  simp only [dllInsertNode, Option.bind_eq_bind] at done
  obtain ⟨first, _, done⟩ := Option.bind_eq_some_iff.mp done
  obtain ⟨node, _, done⟩ := Option.bind_eq_some_iff.mp done
  obtain ⟨second, _, done⟩ := Option.bind_eq_some_iff.mp done
  obtain ⟨third, linked, done⟩ := Option.bind_eq_some_iff.mp done
  obtain ⟨_, _, relinked⟩ := write_node_here second third pNode _ linked
  rw [relinked, Option.bind_some, Option.bind_some] at done
  obtain ⟨fourth, told, counted⟩ := Option.bind_eq_some_iff.mp done
  obtain ⟨held, _, self⟩ := write_node_here third fourth pInsertNode _ told
  refine ⟨held.pNext, ?_⟩
  rw [node_count_heap _ next counted, linksOf, self, Option.map_some]

theorem looping_not_well_formed (world : World) (address : Addr) (pNext : Option Addr)
    (loop : linksOf world.heap address = some ⟨pNext, some address⟩) (nodes : List Addr) (member : address ∈ nodes) :
    ¬ WellFormed world nodes := by
  intro formed
  have absent := walk_meets_no_loop Links.prev (linksOf world.heap) address _ loop rfl world.heap.length
    world.pdll.pTail nodes.reverse formed.backward
  exact absent (List.mem_reverse.mpr member)

theorem node_links (world : World) (list : NodeList) (represents : Represents world list) (pNode : Addr)
    (member : pNode ∈ list.addresses) :
    ∃ front back node, list.addresses = front ++ pNode :: back ∧ nodeAt world.heap pNode = some node ∧
      node.pNext = back.head? ∧ node.pPrev = front.getLast? := by
  obtain ⟨front, back, parts⟩ := List.append_of_mem member
  have linked := represents.linked
  rw [parts] at linked
  obtain ⟨node, read, links⟩ := Option.map_eq_some_iff.mp ((segment_append _ _ _ _ _).mp linked).2.1
  obtain ⟨pNext, pPrev⟩ := Links.mk.inj links
  rw [Option.or_none] at pNext pPrev
  exact ⟨front, back, node, parts, read, pNext, pPrev⟩

theorem before_other_loops (represents : Represents world list)
    (pNode pInsertNode : Addr) (member : pNode ∈ list.addresses) (inner : list.addresses.head? ≠ some pNode)
    (done : dllAddNodeBefore world pNode pInsertNode = some next) :
    ∃ pNext, linksOf next.heap pInsertNode = some ⟨pNext, some pInsertNode⟩ := by
  obtain ⟨front, back, node, parts, read, _, pPrev⟩ := node_links world list represents pNode member
  have follows : node.pPrev ≠ none := by
    rw [pPrev, Ne, List.getLast?_eq_none_iff]
    rintro rfl
    exact inner (by rw [parts]; rfl)
  rw [dllAddNodeBefore, read, Option.bind_eq_bind, Option.bind_some, if_neg follows] at done
  obtain ⟨middle, inserted, counted⟩ := Option.bind_eq_some_iff.mp done
  rw [node_count_heap middle next counted]
  exact inserted_node_loops world middle pNode pInsertNode inserted

theorem after_other_loops (represents : Represents world list)
    (pNode pInsertNode : Addr) (member : pNode ∈ list.addresses) (inner : list.addresses.getLast? ≠ some pNode)
    (done : dllAddNodeAfter world pNode pInsertNode = some next) :
    ∃ pNext, linksOf next.heap pInsertNode = some ⟨pNext, some pInsertNode⟩ := by
  obtain ⟨front, back, node, parts, read, pNext, _⟩ := node_links world list represents pNode member
  have precedes : node.pNext ≠ none := by
    rw [pNext, Ne, List.head?_eq_none_iff]
    rintro rfl
    exact inner (by rw [parts, List.getLast?_concat])
  rw [dllAddNodeAfter, read, Option.bind_eq_bind, Option.bind_some, if_neg precedes] at done
  obtain ⟨middle, inserted, counted⟩ := Option.bind_eq_some_iff.mp done
  rw [node_count_heap middle next counted]
  exact inserted_node_loops world middle pNode pInsertNode inserted

theorem find_place_member (order : UInt8) (fresh : Keys) (nodes : List Entry) (pNode : Addr)
    (found : findPlace order fresh nodes = some (.before pNode) ∨ findPlace order fresh nodes = some (.after pNode)) :
    pNode ∈ nodes.map Prod.fst := by
  induction nodes with
  | nil => rcases found with found | found <;> cases found
  | cons entry nodes ih =>
      rw [List.map_cons, List.mem_cons]
      unfold findPlace at found
      cases compared : searchResult order fresh entry.2 with
      | none =>
          rw [compared] at found
          rcases found with found | found <;> cases found
      | some result =>
          rw [compared, Option.bind_some] at found
          by_cases equal : result = 0
          · rw [if_pos equal] at found
            rcases found with found | found <;> cases found
            exact .inl rfl
          rw [if_neg equal] at found
          by_cases greater : 0 < result
          · rw [if_pos greater] at found
            rcases found with found | found <;> cases found
            exact .inl rfl
          rw [if_neg greater] at found
          exact .inr (ih found)

theorem add_before_member (pNode : Addr) (entry : Entry) :
    entry.1 ∈ (list.addBefore pNode entry).addresses := by
  rw [NodeList.addBefore, NodeList.addresses]
  simp

theorem add_after_member (pNode : Addr) (entry : Entry) :
    entry.1 ∈ (list.addAfter pNode entry).addresses := by
  rw [NodeList.addAfter, NodeList.addresses]
  simp

theorem add_node_straight (represents : Represents world list) (entry : Entry)
    (named : (nodeAt world.heap entry.1).map DllNode.keys = some entry.2)
    (done : dllAddNode world entry.1 = some next) (formed : WellFormed next (addSorted list entry).addresses) :
    list.order = sortNone ∨ refused list.order entry.2 ∨
      ∃ place, findPlace list.order entry.2 list.nodes = some place ∧ Outer list place := by
  by_cases unsorted : list.order = sortNone
  · exact .inl unsorted
  by_cases refusal : refused list.order entry.2 = true
  · exact .inr (.inl refusal)
  refine .inr (.inr ?_)
  obtain ⟨node, read, same⟩ := Option.map_eq_some_iff.mp named
  have length : list.addresses.length = list.nodes.length := List.length_map _
  have fits := addresses_fit world.heap list.addresses represents.linked represents.distinct
  have search := search_loop_places world list.order entry.2 list.nodes world.heap.length none represents.linked
    represents.keys (by rw [← length]; exact fits)
  have head : world.pdll.pHead = (list.nodes.map Prod.fst).head? := represents.head
  by_cases empty : world.pdll.pHead = none
  · have bare : list.nodes = [] := by
      rw [head, List.head?_eq_none_iff] at empty
      exact List.map_eq_nil_iff.mp empty
    exact ⟨.atTail, by rw [bare]; rfl, trivial⟩
  rw [dllAddNode, represents.order, if_neg unsorted, read, Option.bind_eq_bind, Option.bind_some, same,
    if_neg refusal, if_neg empty, head, search] at done
  obtain ⟨place, found, done⟩ := Option.bind_eq_some_iff.mp done
  refine ⟨place, found, ?_⟩
  rw [addSorted, if_neg unsorted, if_neg refusal, found] at formed
  by_contra inner
  cases place with
  | before pNode =>
      obtain ⟨pNext, loop⟩ := before_other_loops world next list represents pNode entry.1
        (find_place_member _ _ _ pNode (.inl found)) inner done
      exact looping_not_well_formed next entry.1 pNext loop _ (add_before_member list pNode entry) formed
  | after pNode =>
      obtain ⟨pNext, loop⟩ := after_other_loops world next list represents pNode entry.1
        (find_place_member _ _ _ pNode (.inr found)) inner done
      exact looping_not_well_formed next entry.1 pNext loop _ (add_after_member list pNode entry) formed
  | atTail => exact inner trivial

theorem step_straight (represents : Represents world list) (call : Step)
    (placed : Placed list call) (done : step world call = some next)
    (formed : WellFormed next (listStep list call).addresses) : Straight list call := by
  have given := represents.given
  have fresh := allocated_represents world list represents
  have named := allocated_named world
  rw [given] at named
  cases call with
  | addNodeHead node => exact trivial
  | addNodeTail node => exact trivial
  | addNodeBefore pNode node =>
      by_contra inner
      rw [step, given] at done
      obtain ⟨pNext, loop⟩ := before_other_loops _ next _ (fresh node) pNode list.given placed inner done
      exact looping_not_well_formed next list.given pNext loop _
        (add_before_member _ pNode (list.given, node.keys)) formed
  | addNodeAfter pNode node =>
      by_contra inner
      rw [step, given] at done
      obtain ⟨pNext, loop⟩ := after_other_loops _ next _ (fresh node) pNode list.given placed inner done
      exact looping_not_well_formed next list.given pNext loop _
        (add_after_member _ pNode (list.given, node.keys)) formed
  | insertNode pNode node =>
      rw [step, given] at done
      obtain ⟨pNext, loop⟩ := inserted_node_loops _ next pNode list.given done
      exact looping_not_well_formed next list.given pNext loop _
        (add_after_member _ pNode (list.given, node.keys)) formed
  | addNode node =>
      rw [step, given] at done
      exact add_node_straight _ next _ (fresh node) (list.given, node.keys) (named node) done formed
  | removeNode pNode => exact placed
  | removeAllNodes => exact trivial

def WholeThroughout (world : World) (list : NodeList) (calls : List Step) : Prop :=
  ∀ reached, reached <+: calls →
    ∃ next, reached.foldlM step world = some next ∧ WellFormed next (reached.foldl listStep list).addresses

theorem straight_along (calls reached : List Step) (initial : reached <+: calls) (list : NodeList)
    (straight : Along Straight list calls) : Along Straight list reached := by
  induction calls generalizing list reached with
  | nil =>
      rw [List.prefix_nil.mp initial]
      exact trivial
  | cons call later ih =>
      cases reached with
      | nil => exact trivial
      | cons first reached =>
          obtain ⟨rfl, rest⟩ := List.cons_prefix_cons.mp initial
          exact ⟨straight.1, ih reached rest _ straight.2⟩

theorem whole_straight (calls : List Step) (world : World) (list : NodeList) (represents : Represents world list)
    (placed : Along Placed list calls) (whole : WholeThroughout world list calls) : Along Straight list calls := by
  induction calls generalizing world list with
  | nil => exact trivial
  | cons call later ih =>
      obtain ⟨next, done, formed⟩ := whole [call] (List.cons_prefix_cons.mpr ⟨rfl, List.nil_prefix⟩)
      rw [List.foldlM_cons, Option.bind_eq_bind] at done
      obtain ⟨middle, taken, same⟩ := Option.bind_eq_some_iff.mp done
      cases same
      have straight := step_straight world next list represents call placed.1 taken formed
      obtain ⟨other, again, kept⟩ := step_represents world list represents call straight
      cases again.symm.trans taken
      refine ⟨straight, ih next _ kept placed.2 ?_⟩
      intro reached initial
      obtain ⟨last, finished, final⟩ := whole (call :: reached) (List.cons_prefix_cons.mpr ⟨rfl, initial⟩)
      rw [List.foldlM_cons, taken] at finished
      exact ⟨last, finished, final⟩

theorem runs_whole_iff_straight (nSort : UInt8) (calls : List Step) (placed : Along Placed (emptyList nSort) calls) :
    WholeThroughout (freshWorld nSort) (emptyList nSort) calls ↔ Along Straight (emptyList nSort) calls := by
  constructor
  · exact whole_straight calls (freshWorld nSort) (emptyList nSort) (fresh_represents nSort) placed
  · intro straight reached initial
    obtain ⟨next, done, represents⟩ := run_represents reached (freshWorld nSort) (emptyList nSort)
      (fresh_represents nSort) (straight_along calls reached initial _ straight)
    exact ⟨next, done, represents_well_formed next _ represents⟩

def blankNode : DllNode := ⟨⟨none, none⟩, none, none⟩

theorem runs_whole_iff_straight_example :
    WholeThroughout (freshWorld 0) (emptyList 0)
      [.addNodeTail blankNode, .addNodeBefore 0 blankNode, .removeNode 0] := by
  refine (runs_whole_iff_straight 0 [.addNodeTail blankNode, .addNodeBefore 0 blankNode, .removeNode 0] ?_).mpr ?_
  · exact ⟨trivial, List.mem_cons_self, List.mem_cons_of_mem _ List.mem_cons_self, trivial⟩
  · exact ⟨trivial, rfl, List.mem_cons_of_mem _ List.mem_cons_self, trivial⟩

-- A third node added behind the first of two is met on the way forward only.
theorem middle_node_not_linked_back :
    ¬ ∀ (nSort : UInt8) (calls : List Step), Along Placed (emptyList nSort) calls →
      WholeThroughout (freshWorld nSort) (emptyList nSort) calls := by
  intro every
  obtain ⟨world, done, formed⟩ := every 0 [.addNodeTail blankNode, .addNodeTail blankNode, .addNodeAfter 0 blankNode]
    ⟨trivial, trivial, List.mem_cons_self, trivial⟩ _ List.prefix_rfl
  have way : ([Step.addNodeTail blankNode, .addNodeTail blankNode, .addNodeAfter 0 blankNode].foldlM step
      (freshWorld 0)).bind backward = some [1, 0] := by decide
  rw [done, Option.bind_some, formed.backward] at way
  revert way
  decide

end Vscp.Dll
