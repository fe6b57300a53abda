import Vscp.LinkedList

set_option autoImplicit false

namespace Vscp.Dll

open Chain

abbrev Entry := Addr × Keys

structure NodeList where
  order : UInt8
  nodes : List Entry
  given : Nat

namespace NodeList

def addresses (list : NodeList) : List Addr := list.nodes.map Prod.fst

def upTo (list : NodeList) (pNode : Addr) : List Entry := list.nodes.takeWhile fun entry => entry.1 ≠ pNode
def fromThere (list : NodeList) (pNode : Addr) : List Entry := list.nodes.dropWhile fun entry => entry.1 ≠ pNode

def addHead (list : NodeList) (entry : Entry) : NodeList := { list with nodes := entry :: list.nodes }
def addTail (list : NodeList) (entry : Entry) : NodeList := { list with nodes := list.nodes ++ [entry] }

def addBefore (list : NodeList) (pNode : Addr) (entry : Entry) : NodeList :=
  { list with nodes := list.upTo pNode ++ entry :: list.fromThere pNode }

def addAfter (list : NodeList) (pNode : Addr) (entry : Entry) : NodeList :=
  { list with nodes := list.upTo pNode ++ (list.fromThere pNode).take 1 ++ entry :: (list.fromThere pNode).drop 1 }

def remove (list : NodeList) (pNode : Addr) : NodeList :=
  { list with nodes := list.nodes.filter fun entry => entry.1 ≠ pNode }

end NodeList

def findPlace (order : UInt8) (fresh : Keys) : List Entry → Option Place
  | [] => some .atTail
  | entry :: rest =>
      (searchResult order fresh entry.2).bind fun result =>
        if result = 0 then some (.after entry.1)
        else if 0 < result then some (.before entry.1)
        else findPlace order fresh rest

def addSorted (list : NodeList) (entry : Entry) : NodeList :=
  if list.order = sortNone then list.addTail entry
  else if refused list.order entry.2 then list
  else
    match findPlace list.order entry.2 list.nodes with
    | some (.before pNode) => list.addBefore pNode entry
    | some (.after pNode) => list.addAfter pNode entry
    | some .atTail => list.addTail entry
    | none => list

def listStep (list : NodeList) : Step → NodeList
  | .addNodeHead node => { list with given := list.given + 1 }.addHead (list.given, node.keys)
  | .addNodeTail node => { list with given := list.given + 1 }.addTail (list.given, node.keys)
  | .addNodeBefore pNode node => { list with given := list.given + 1 }.addBefore pNode (list.given, node.keys)
  | .addNodeAfter pNode node => { list with given := list.given + 1 }.addAfter pNode (list.given, node.keys)
  | .insertNode pNode node => { list with given := list.given + 1 }.addAfter pNode (list.given, node.keys)
  | .addNode node => addSorted { list with given := list.given + 1 } (list.given, node.keys)
  | .removeNode pNode => list.remove pNode
  | .removeAllNodes => { list with order := 0, nodes := [] }

structure Represents (world : World) (list : NodeList) : Prop where
  linked : Segment (linksOf world.heap) none list.addresses none
  distinct : list.addresses.Nodup
  keys : ∀ entry ∈ list.nodes, (nodeAt world.heap entry.1).map DllNode.keys = some entry.2
  head : world.pdll.pHead = list.addresses.head?
  tail : world.pdll.pTail = list.addresses.getLast?
  count : world.pdll.nCount = list.nodes.length
  order : world.pdll.nSortOrder = list.order
  given : world.heap.length = list.given

structure Rewired (heap changed : Heap) (memory : Memory) : Prop where
  links : linksOf changed = memory
  length : changed.length = heap.length
  keys : ∀ address, (nodeAt changed address).map DllNode.keys = (nodeAt heap address).map DllNode.keys

variable (heap : Heap) (address : Addr) (world : World) (list : NodeList)

theorem node_inside (readable : (nodeAt heap address).isSome) :
    address < heap.length := by
  obtain ⟨node, read⟩ := Option.isSome_iff_exists.mp readable
  obtain ⟨inside, _⟩ := List.getElem?_eq_some_iff.mp (Option.join_eq_some_iff.mp read)
  exact inside

theorem links_readable (readable : (linksOf heap address).isSome) :
    (nodeAt heap address).isSome := by
  rwa [linksOf, Option.isSome_map] at readable

theorem node_at_set (address other : Addr) (cell : Option DllNode) (inside : address < heap.length) :
    nodeAt (heap.set address cell) other = if address = other then cell else nodeAt heap other := by
  unfold nodeAt
  by_cases same : address = other
  · rw [← same, if_pos rfl, List.getElem?_set_self inside]
    rfl
  · rw [if_neg same, List.getElem?_set_ne same]

theorem node_at_allocated (node : DllNode) (address : Addr) :
    nodeAt (allocated world node).heap address =
      if address = world.heap.length then some node else nodeAt world.heap address := by
  unfold nodeAt allocated
  by_cases fresh : address = world.heap.length
  · rw [fresh, if_pos rfl, List.getElem?_concat_length]
    rfl
  · rw [if_neg fresh]
    by_cases inside : address < world.heap.length
    · rw [List.getElem?_append_left inside]
    · have behind : world.heap.length < address := Nat.lt_of_le_of_ne (Nat.le_of_not_gt inside) (Ne.symm fresh)
      have beyond : (world.heap ++ [some node]).length ≤ address := by
        rw [List.length_append, List.length_singleton]
        exact behind
      rw [List.getElem?_eq_none beyond, List.getElem?_eq_none (Nat.le_of_not_gt inside)]

theorem write_node_rewires (change : DllNode → DllNode)
    (readable : (nodeAt heap address).isSome) (keeps : ∀ node, (change node).keys = node.keys) :
    ∃ changed, writeNode heap address change = some changed ∧
      Rewired heap changed (fun other =>
        if address = other then
          (nodeAt heap other).map fun node => ⟨(change node).pNext, (change node).pPrev⟩
        else linksOf heap other) := by
  obtain ⟨node, read⟩ := Option.isSome_iff_exists.mp readable
  have inside := node_inside heap address readable
  refine ⟨heap.set address (some (change node)), ?_, ?_, List.length_set, ?_⟩
  · rw [writeNode, read, Option.map_some]
  · funext other
    rw [linksOf, node_at_set heap address other _ inside]
    by_cases same : address = other
    · rw [if_pos same, if_pos same, ← same, read]
      rfl
    · rw [if_neg same, if_neg same]
      rfl
  · intro other
    rw [node_at_set heap address other _ inside]
    by_cases same : address = other
    · rw [if_pos same, ← same, read, Option.map_some, Option.map_some, keeps]
    · rw [if_neg same]

theorem write_next_rewires (pNext : Option Addr)
    (readable : (nodeAt heap address).isSome) :
    ∃ changed, writeNext heap address pNext = some changed ∧
      Rewired heap changed (setNext (linksOf heap) (some address) pNext) := by
  obtain ⟨changed, written, links, length, keys⟩ := write_node_rewires heap address
    (fun node => { node with pNext := pNext }) readable (fun _ => rfl)
  refine ⟨changed, written, links.trans ?_, length, keys⟩
  funext other
  by_cases same : address = other
  · rw [if_pos same, setNext, if_pos (congrArg some same), linksOf, Option.map_map]
    rfl
  · simp [setNext, same]

theorem write_prev_rewires (pPrev : Option Addr)
    (readable : (nodeAt heap address).isSome) :
    ∃ changed, writePrev heap address pPrev = some changed ∧
      Rewired heap changed (setPrev (linksOf heap) (some address) pPrev) := by
  obtain ⟨changed, written, links, length, keys⟩ := write_node_rewires heap address
    (fun node => { node with pPrev := pPrev }) readable (fun _ => rfl)
  refine ⟨changed, written, links.trans ?_, length, keys⟩
  funext other
  by_cases same : address = other
  · rw [if_pos same, setPrev, if_pos (congrArg some same), linksOf, Option.map_map]
    rfl
  · simp [setPrev, same]

variable (memory : Memory)

theorem set_next_null (next : Option Addr) : setNext memory none next = memory := by
  funext address
  exact set_next_other memory none next address (Option.some_ne_none address).symm

theorem set_prev_null (prev : Option Addr) : setPrev memory none prev = memory := by
  funext address
  exact set_prev_other memory none prev address (Option.some_ne_none address).symm

theorem rewired_refl : Rewired heap heap (linksOf heap) := ⟨rfl, rfl, fun _ => rfl⟩

theorem rewired_trans (heap middle changed : Heap) (first second : Memory) (left : Rewired heap middle first)
    (right : Rewired middle changed second) : Rewired heap changed second :=
  ⟨right.links, right.length.trans left.length, fun address => (right.keys address).trans (left.keys address)⟩

theorem rewired_readable (heap changed : Heap) (memory : Memory) (rewired : Rewired heap changed memory) (address : Addr)
    (readable : (nodeAt heap address).isSome) : (nodeAt changed address).isSome := by
  have same := congrArg Option.isSome (rewired.keys address)
  rw [Option.isSome_map, Option.isSome_map] at same
  rw [same]
  exact readable

theorem unless_null_next (pointer pNext : Option Addr)
    (readable : ∀ address, pointer = some address → (nodeAt heap address).isSome) :
    ∃ changed, unlessNull heap pointer (fun address => writeNext heap address pNext) = some changed ∧
      Rewired heap changed (setNext (linksOf heap) pointer pNext) := by
  cases pointer with
  | none =>
      rw [set_next_null]
      exact ⟨heap, rfl, rewired_refl heap⟩
  | some address => exact write_next_rewires heap address pNext (readable address rfl)

theorem unless_null_prev (pointer pPrev : Option Addr)
    (readable : ∀ address, pointer = some address → (nodeAt heap address).isSome) :
    ∃ changed, unlessNull heap pointer (fun address => writePrev heap address pPrev) = some changed ∧
      Rewired heap changed (setPrev (linksOf heap) pointer pPrev) := by
  cases pointer with
  | none =>
      rw [set_prev_null]
      exact ⟨heap, rfl, rewired_refl heap⟩
  | some address => exact write_prev_rewires heap address pPrev (readable address rfl)

theorem addresses_fit (addresses : List Addr) (linked : Segment (linksOf heap) none addresses none)
    (distinct : addresses.Nodup) : addresses.length ≤ heap.length := by
  have inside : addresses ⊆ List.range heap.length := by
    intro address member
    have readable := segment_readable (linksOf heap) none none addresses linked address member
    exact List.mem_range.mpr (node_inside heap address (links_readable heap address readable))
  have fewer := (List.subperm_of_subset distinct inside).length_le
  rwa [List.length_range] at fewer

theorem represents_forward (represents : Represents world list) :
    forward world = some list.addresses := by
  rw [forward, represents.head]
  exact walk_forward _ none _ _ represents.linked
    (addresses_fit world.heap list.addresses represents.linked represents.distinct)

theorem represents_backward (represents : Represents world list) :
    backward world = some list.addresses.reverse := by
  rw [backward, represents.tail]
  exact walk_backward _ none _ _ represents.linked
    (addresses_fit world.heap list.addresses represents.linked represents.distinct)

theorem counted (nCount : Nat) (empty : list.nodes = [] → nCount = 0)
    (represents : Represents { world with pdll := { world.pdll with nCount := list.nodes.length } } list) :
    ∃ next, dllGetNodeCount { world with pdll := { world.pdll with nCount := nCount } } = some next ∧
      Represents next list := by
  have visited : forward { world with pdll := { world.pdll with nCount := nCount } } = some list.addresses :=
    represents_forward { world with pdll := { world.pdll with nCount := list.nodes.length } } list represents
  have length : list.addresses.length = list.nodes.length := List.length_map _
  unfold dllGetNodeCount
  by_cases none : world.pdll.pHead = .none
  · have nothing : list.addresses = [] := by
      rw [← List.head?_eq_none_iff, ← represents.head]
      exact none
    have bare : list.nodes = [] := List.map_eq_nil_iff.mp nothing
    refine ⟨_, if_pos none, ?_⟩
    have zero : nCount = list.nodes.length := by rw [empty bare, bare, List.length_nil]
    rw [zero]
    exact represents
  · rw [if_neg none, visited, Option.map_some, length]
    exact ⟨_, rfl, represents⟩

theorem counted_again (represents : Represents world list) :
    ∃ next, dllGetNodeCount world = some next ∧ Represents next list := by
  have same : { world with pdll := { world.pdll with nCount := list.nodes.length } } = world := by
    rw [← represents.count]
  obtain ⟨next, done, kept⟩ := counted world list list.nodes.length
    (fun none => by rw [none, List.length_nil]) (by rw [same]; exact represents)
  rw [same] at done
  exact ⟨next, done, kept⟩

theorem inserted (represents : Represents world list) (front back : List Entry)
    (entry : Entry) (parts : list.nodes = front ++ back) (absent : entry.1 ∉ list.addresses)
    (named : (nodeAt world.heap entry.1).map DllNode.keys = some entry.2) (memory : Memory)
    (own : memory entry.1 = some ⟨(back.map Prod.fst).head?, (front.map Prod.fst).getLast?⟩)
    (others : ∀ address, address ≠ entry.1 → memory address = linksOf world.heap address) (heap : Heap)
    (rewired : Rewired world.heap heap
      (setPrev (setNext memory (front.map Prod.fst).getLast? (some entry.1)) (back.map Prod.fst).head? (some entry.1)))
    (pHead pTail : Option Addr) (head : pHead = ((front ++ entry :: back).map Prod.fst).head?)
    (tail : pTail = ((front ++ entry :: back).map Prod.fst).getLast?) :
    ∃ next, dllGetNodeCount ⟨heap, { world.pdll with pHead := pHead, pTail := pTail }⟩ = some next ∧
      Represents next { list with nodes := front ++ entry :: back } := by
  have addresses : list.addresses = front.map Prod.fst ++ back.map Prod.fst := by
    rw [NodeList.addresses, parts, List.map_append]
  have longer : (front ++ entry :: back).map Prod.fst = front.map Prod.fst ++ entry.1 :: back.map Prod.fst := by
    rw [List.map_append, List.map_cons]
  have distinct : (front.map Prod.fst ++ entry.1 :: back.map Prod.fst).Nodup := by
    have old := represents.distinct
    rw [addresses] at old absent
    exact List.nodup_middle.mpr (List.nodup_cons.mpr ⟨absent, old⟩)
  have linked : Segment memory none (front.map Prod.fst ++ back.map Prod.fst) none := by
    apply segment_frame (linksOf world.heap)
    · intro address member
      apply others
      rintro rfl
      exact absent (by rwa [addresses])
    · rw [← addresses]
      exact represents.linked
  apply counted ⟨heap, { world.pdll with pHead := pHead, pTail := pTail }⟩ _ world.pdll.nCount
  · intro none
    exact absurd none (by simp)
  · constructor
    · rw [NodeList.addresses, longer, rewired.links]
      exact splice memory _ _ _ distinct linked own
    · rw [NodeList.addresses, longer]
      exact distinct
    · intro other member
      refine (rewired.keys other.1).trans ?_
      rcases List.mem_append.mp member with inFront | inRest
      · exact represents.keys other (by rw [parts]; exact List.mem_append_left _ inFront)
      · rcases List.mem_cons.mp inRest with rfl | inBack
        · exact named
        · exact represents.keys other (by rw [parts]; exact List.mem_append_right _ inBack)
    · exact head
    · exact tail
    · rfl
    · exact represents.order
    · exact rewired.length.trans represents.given

theorem represents_readable (represents : Represents world list) (address : Addr)
    (member : address ∈ list.addresses) : (nodeAt world.heap address).isSome :=
  links_readable world.heap address
    (segment_readable (linksOf world.heap) none none list.addresses represents.linked address member)

theorem named_readable (keys : Keys)
    (named : (nodeAt heap address).map DllNode.keys = some keys) : (nodeAt heap address).isSome := by
  rw [← Option.isSome_map (f := DllNode.keys), named]
  rfl

theorem add_head_represents (represents : Represents world list) (entry : Entry)
    (absent : entry.1 ∉ list.addresses) (named : (nodeAt world.heap entry.1).map DllNode.keys = some entry.2) :
    ∃ next, dllAddNodeHead world entry.1 = some next ∧ Represents next (list.addHead entry) := by
  have readable := named_readable world.heap entry.1 entry.2 named
  obtain ⟨first, wroteNext, rewired1⟩ := write_next_rewires world.heap entry.1 world.pdll.pHead readable
  obtain ⟨second, wrotePrev, rewired2⟩ := write_prev_rewires first entry.1 none
    (rewired_readable _ _ _ rewired1 entry.1 readable)
  have rewired := rewired_trans _ _ _ _ _ rewired1 rewired2
  obtain ⟨third, wroteHead, rewired3⟩ := unless_null_prev second world.pdll.pHead (some entry.1) (by
    intro address head
    apply rewired_readable _ _ _ rewired address
    apply represents_readable world list represents
    exact List.mem_of_head? (represents.head.symm.trans head))
  have whole := rewired_trans _ _ _ _ _ rewired rewired3
  rw [rewired2.links, rewired1.links] at whole
  have head : (list.nodes.map Prod.fst).head? = world.pdll.pHead := represents.head.symm
  obtain ⟨old, read⟩ := Option.isSome_iff_exists.mp readable
  simp only [dllAddNodeHead, wroteNext, wrotePrev, wroteHead, Option.bind_eq_bind, Option.bind_some]
  apply inserted world list represents [] list.nodes entry rfl absent named
    (setPrev (setNext (linksOf world.heap) (some entry.1) world.pdll.pHead) (some entry.1) none)
  · simp [setPrev, setNext, linksOf, read, head]
  · intro address other
    rw [set_prev_other _ _ _ _ (fun same => other (Option.some.inj same).symm),
      set_next_other _ _ _ _ (fun same => other (Option.some.inj same).symm)]
  · rw [List.map_nil, List.getLast?_nil, set_next_null, head]
    exact whole
  · rfl
  · rw [represents.tail, NodeList.addresses]
    cases list.nodes with
    | nil => rfl
    | cons second rest => simp [List.getLast?_cons]

theorem add_tail_represents (represents : Represents world list) (entry : Entry)
    (absent : entry.1 ∉ list.addresses) (named : (nodeAt world.heap entry.1).map DllNode.keys = some entry.2) :
    ∃ next, dllAddNodeTail world entry.1 = some next ∧ Represents next (list.addTail entry) := by
  have readable := named_readable world.heap entry.1 entry.2 named
  obtain ⟨first, wroteNext, rewired1⟩ := write_next_rewires world.heap entry.1 none readable
  obtain ⟨second, wrotePrev, rewired2⟩ := write_prev_rewires first entry.1 world.pdll.pTail
    (rewired_readable _ _ _ rewired1 entry.1 readable)
  have rewired := rewired_trans _ _ _ _ _ rewired1 rewired2
  obtain ⟨third, wroteTail, rewired3⟩ := unless_null_next second world.pdll.pTail (some entry.1) (by
    intro address tail
    apply rewired_readable _ _ _ rewired address
    apply represents_readable world list represents
    exact List.mem_of_getLast? (represents.tail.symm.trans tail))
  have whole := rewired_trans _ _ _ _ _ rewired rewired3
  rw [rewired2.links, rewired1.links] at whole
  have tail : (list.nodes.map Prod.fst).getLast? = world.pdll.pTail := represents.tail.symm
  obtain ⟨old, read⟩ := Option.isSome_iff_exists.mp readable
  simp only [dllAddNodeTail, wroteNext, wrotePrev, wroteTail, Option.bind_eq_bind, Option.bind_some]
  apply inserted world list represents list.nodes [] entry (List.append_nil _).symm absent named
    (setPrev (setNext (linksOf world.heap) (some entry.1) none) (some entry.1) world.pdll.pTail)
  · simp [setPrev, setNext, linksOf, read, tail]
  · intro address other
    rw [set_prev_other _ _ _ _ (fun same => other (Option.some.inj same).symm),
      set_next_other _ _ _ _ (fun same => other (Option.some.inj same).symm)]
  · rw [List.map_nil, List.head?_nil, set_prev_null, tail]
    exact whole
  · rw [represents.head, NodeList.addresses]
    cases list.nodes with
    | nil => rfl
    | cons second rest => rfl
  · simp

variable (front back : List Entry) (entry : Entry)

theorem parts_at (parts : list.nodes = front ++ entry :: back)
    (distinct : list.addresses.Nodup) : list.upTo entry.1 = front ∧ list.fromThere entry.1 = entry :: back := by
  have apart : ∀ other ∈ front, decide (other.1 ≠ entry.1) = true := by
    intro other member
    rw [NodeList.addresses, parts, List.map_append, List.map_cons] at distinct
    have separate := (List.nodup_append.mp distinct).2.2
    exact decide_eq_true (separate other.1 (List.mem_map_of_mem member) entry.1 List.mem_cons_self)
  constructor
  · rw [NodeList.upTo, parts, List.takeWhile_append_of_pos apart]
    simp
  · rw [NodeList.fromThere, parts, List.dropWhile_append_of_pos apart]
    simp

theorem add_before_represents (represents : Represents world list) (pNode : Addr)
    (first : list.addresses.head? = some pNode) (entry : Entry) (absent : entry.1 ∉ list.addresses)
    (named : (nodeAt world.heap entry.1).map DllNode.keys = some entry.2) :
    ∃ next, dllAddNodeBefore world pNode entry.1 = some next ∧ Represents next (list.addBefore pNode entry) := by
  obtain ⟨head, back, parts, rfl⟩ : ∃ head back, list.nodes = head :: back ∧ head.1 = pNode := by
    cases nodes : list.nodes with
    | nil => simp [NodeList.addresses, nodes] at first
    | cons head back =>
        refine ⟨head, back, rfl, ?_⟩
        simpa [NodeList.addresses, nodes] using first
  obtain ⟨left, right⟩ := parts_at list [] back _ parts represents.distinct
  have same : list.addBefore head.1 entry = list.addHead entry := by
    rw [NodeList.addBefore, left, right, NodeList.addHead, parts]
    rfl
  have linked := represents.linked
  rw [NodeList.addresses, parts, List.map_cons] at linked
  obtain ⟨node, read, links⟩ := Option.map_eq_some_iff.mp linked.1
  have atHead : node.pPrev = none := (Links.mk.inj links).2
  obtain ⟨middle, added, kept⟩ := add_head_represents world list represents entry absent named
  obtain ⟨next, count, final⟩ := counted_again middle _ kept
  refine ⟨next, ?_, by rw [same]; exact final⟩
  simp only [dllAddNodeBefore, read, Option.bind_eq_bind, Option.bind_some, if_pos atHead, added, count]

theorem add_after_represents (represents : Represents world list) (pNode : Addr)
    (last : list.addresses.getLast? = some pNode) (entry : Entry) (absent : entry.1 ∉ list.addresses)
    (named : (nodeAt world.heap entry.1).map DllNode.keys = some entry.2) :
    ∃ next, dllAddNodeAfter world pNode entry.1 = some next ∧ Represents next (list.addAfter pNode entry) := by
  obtain ⟨front, tail, parts, rfl⟩ : ∃ front tail, list.nodes = front ++ [tail] ∧ tail.1 = pNode := by
    rw [NodeList.addresses, List.getLast?_map] at last
    obtain ⟨tail, final, own⟩ := Option.map_eq_some_iff.mp last
    exact ⟨list.nodes.dropLast, tail, (List.dropLast_append_getLast? tail final).symm, own⟩
  obtain ⟨left, right⟩ := parts_at list front [] tail parts represents.distinct
  have same : list.addAfter tail.1 entry = list.addTail entry := by
    rw [NodeList.addAfter, left, right, NodeList.addTail, parts]
    rfl
  have linked := represents.linked
  rw [NodeList.addresses, parts, List.map_append, List.map_singleton] at linked
  obtain ⟨node, read, links⟩ := Option.map_eq_some_iff.mp ((segment_append _ _ _ _ _).mp linked).2.1
  have atTail : node.pNext = none := (Links.mk.inj links).1
  obtain ⟨middle, added, kept⟩ := add_tail_represents world list represents entry absent named
  obtain ⟨next, count, final⟩ := counted_again middle _ kept
  refine ⟨next, ?_, by rw [same]; exact final⟩
  simp only [dllAddNodeAfter, read, Option.bind_eq_bind, Option.bind_some, if_pos atTail, added, count]

theorem search_loop_places (order : UInt8) (fresh : Keys) (nodes : List Entry) (bound : Nat)
    (before : Option Addr) (linked : Segment (linksOf world.heap) before (nodes.map Prod.fst) none)
    (keys : ∀ entry ∈ nodes, (nodeAt world.heap entry.1).map DllNode.keys = some entry.2)
    (enough : nodes.length ≤ bound) :
    searchLoop world.heap order fresh bound (nodes.map Prod.fst).head? = findPlace order fresh nodes := by
  induction nodes generalizing before bound with
  | nil => cases bound <;> rfl
  | cons entry nodes ih =>
      cases bound with
      | zero => simp at enough
      | succ bound =>
          obtain ⟨node, read, named⟩ := Option.map_eq_some_iff.mp (keys entry List.mem_cons_self)
          have next : node.pNext = (nodes.map Prod.fst).head? := by
            have own := linked.1
            rw [linksOf, read, Option.or_none] at own
            exact (Links.mk.inj (Option.some.inj own)).1
          have rest := ih bound (some entry.1) linked.2
            (fun other member => keys other (List.mem_cons_of_mem entry member)) (Nat.le_of_succ_le_succ enough)
          simp only [List.map_cons, List.head?_cons, searchLoop, read, Option.bind_eq_bind, Option.bind_some, named, next,
            rest, findPlace]

def Outer (list : NodeList) : Place → Prop
  | .before pNode => list.addresses.head? = some pNode
  | .after pNode => list.addresses.getLast? = some pNode
  | .atTail => True

theorem add_node_represents (represents : Represents world list) (entry : Entry)
    (absent : entry.1 ∉ list.addresses) (named : (nodeAt world.heap entry.1).map DllNode.keys = some entry.2)
    (straight : list.order = sortNone ∨ refused list.order entry.2 ∨
      ∃ place, findPlace list.order entry.2 list.nodes = some place ∧ Outer list place) :
    ∃ next, dllAddNode world entry.1 = some next ∧ Represents next (addSorted list entry) := by
  have order := represents.order
  unfold dllAddNode addSorted
  rw [order]
  by_cases unsorted : list.order = sortNone
  · rw [if_pos unsorted, if_pos unsorted]
    exact add_tail_represents world list represents entry absent named
  rw [if_neg unsorted, if_neg unsorted]
  obtain ⟨node, read, same⟩ := Option.map_eq_some_iff.mp named
  rw [read, Option.bind_eq_bind, Option.bind_some, same]
  by_cases refusal : refused list.order entry.2 = true
  · rw [if_pos refusal, if_pos refusal]
    exact ⟨world, rfl, represents⟩
  rw [if_neg refusal, if_neg refusal]
  obtain ⟨place, found, outer⟩ := (straight.resolve_left unsorted).resolve_left refusal
  have length : list.addresses.length = list.nodes.length := List.length_map _
  have fits := addresses_fit world.heap list.addresses represents.linked represents.distinct
  have search := search_loop_places world list.order entry.2 list.nodes world.heap.length none represents.linked
    represents.keys (by rw [← length]; exact fits)
  have head : world.pdll.pHead = (list.nodes.map Prod.fst).head? := represents.head
  rw [found]
  by_cases empty : world.pdll.pHead = none
  · have bare : list.nodes = [] := by
      rw [head, List.head?_eq_none_iff] at empty
      exact List.map_eq_nil_iff.mp empty
    rw [bare] at found
    cases found
    rw [if_pos empty]
    exact add_tail_represents world list represents entry absent named
  rw [if_neg empty, head, search, found, Option.bind_eq_bind, Option.bind_some]
  cases place with
  | before pNode => exact add_before_represents world list represents pNode outer entry absent named
  | after pNode => exact add_after_represents world list represents pNode outer entry absent named
  | atTail => exact add_tail_represents world list represents entry absent named

theorem links_freed (address other : Addr) (inside : address < heap.length) (apart : address ≠ other) :
    linksOf (heap.set address none) other = linksOf heap other := by
  rw [linksOf, node_at_set heap address other none inside, if_neg apart]
  rfl

theorem remove_parts (parts : list.nodes = front ++ entry :: back) (distinct : list.addresses.Nodup) :
    (list.remove entry.1).nodes = front ++ back := by
  rw [NodeList.addresses, parts, List.map_append, List.map_cons] at distinct
  have absent := (List.nodup_cons.mp (List.nodup_middle.mp distinct)).1
  rw [← List.map_append] at absent
  have kept : (front ++ back).filter (fun other => other.1 ≠ entry.1) = front ++ back := by
    rw [List.filter_eq_self]
    intro other member
    apply decide_eq_true
    rintro same
    exact absent (List.mem_map.mpr ⟨other, member, same⟩)
  rw [← kept, NodeList.remove, parts]
  simp

theorem remove_node_represents (represents : Represents world list) (pNode : Addr)
    (member : pNode ∈ list.addresses) :
    ∃ next, dllRemoveNode world pNode = some next ∧ Represents next (list.remove pNode) := by
  obtain ⟨entry, inside, rfl⟩ := List.mem_map.mp member
  obtain ⟨front, back, parts⟩ := List.append_of_mem inside
  have addresses : list.addresses = front.map Prod.fst ++ entry.1 :: back.map Prod.fst := by
    rw [NodeList.addresses, parts, List.map_append, List.map_cons]
  have remaining := remove_parts list front back entry parts represents.distinct
  have shorter : (list.remove entry.1).addresses = front.map Prod.fst ++ back.map Prod.fst := by
    rw [NodeList.addresses, remaining, List.map_append]
  have linked := represents.linked
  have distinct := represents.distinct
  rw [addresses] at linked distinct
  obtain ⟨apart, distinctRest⟩ := List.nodup_cons.mp (List.nodup_middle.mp distinct)
  obtain ⟨node, read, links⟩ := Option.map_eq_some_iff.mp ((segment_append _ _ _ _ _).mp linked).2.1
  obtain ⟨pNext, pPrev⟩ := Links.mk.inj links
  rw [Option.or_none] at pNext pPrev
  have reads : ∀ address, address ∈ front.map Prod.fst ++ back.map Prod.fst → (nodeAt world.heap address).isSome := by
    intro address member
    apply represents_readable world list represents
    rw [addresses]
    rcases List.mem_append.mp member with left | right
    · exact List.mem_append_left _ left
    · exact List.mem_append_right _ (List.mem_cons_of_mem _ right)
  obtain ⟨first, wroteNext, rewired1⟩ := unless_null_next world.heap node.pPrev node.pNext (by
    rw [pPrev]
    intro address last
    exact reads address (List.mem_append_left _ (List.mem_of_getLast? last)))
  obtain ⟨second, wrotePrev, rewired2⟩ := unless_null_prev first node.pNext node.pPrev (by
    rw [pNext]
    intro address head
    apply rewired_readable _ _ _ rewired1
    exact reads address (List.mem_append_right _ (List.mem_of_head? head)))
  have rewired := rewired_trans _ _ _ _ _ rewired1 rewired2
  rw [rewired1.links, pNext, pPrev] at rewired
  have room : entry.1 < second.length := by
    rw [rewired.length]
    exact node_inside world.heap entry.1 (represents_readable world list represents entry.1 member)
  simp only [dllRemoveNode, read, wroteNext, wrotePrev, Option.bind_eq_bind, Option.bind_some]
  apply counted ⟨second.set entry.1 none, { world.pdll with
    pHead := if node.pPrev = none then node.pNext else world.pdll.pHead
    pTail := if node.pNext = none then node.pPrev else world.pdll.pTail }⟩
  · intro nothing
    rw [remaining] at nothing
    obtain ⟨rfl, rfl⟩ := List.append_eq_nil_iff.mp nothing
    rw [represents.count, parts]
    rfl
  · constructor
    · rw [shorter]
      apply segment_frame (linksOf second)
      · intro address inList
        apply links_freed second entry.1 address room
        rintro rfl
        exact apart inList
      · rw [rewired.links]
        exact unsplice (linksOf world.heap) _ _ entry.1 distinct linked
    · rw [shorter]
      exact distinctRest
    · intro other inList
      rw [remaining] at inList
      have away : entry.1 ≠ other.1 := by
        intro same
        apply apart
        rw [same, ← List.map_append]
        exact List.mem_map_of_mem inList
      rw [node_at_set second entry.1 other.1 none room, if_neg away, rewired.keys]
      apply represents.keys
      rw [parts]
      rcases List.mem_append.mp inList with left | right
      · exact List.mem_append_left _ left
      · exact List.mem_append_right _ (List.mem_cons_of_mem _ right)
    · rw [shorter]
      show (if node.pPrev = none then node.pNext else world.pdll.pHead) = _
      rw [pPrev, pNext, represents.head, addresses]
      cases front with
      | nil => rfl
      | cons first front => simp
    · rw [shorter]
      show (if node.pNext = none then node.pPrev else world.pdll.pTail) = _
      rw [pPrev, pNext, represents.tail, addresses]
      cases back with
      | nil => simp
      | cons first back => simp [List.getLast?_cons]
    · rfl
    · exact represents.order
    · exact (List.length_set).trans (rewired.length.trans represents.given)

theorem remove_loop_represents (bound : Nat) (world : World) (list : NodeList) (represents : Represents world list)
    (enough : list.nodes.length ≤ bound) :
    ∃ next, removeLoop bound world = some next ∧ Represents next { list with nodes := [] } := by
  induction bound generalizing world list with
  | zero =>
      have bare : list.nodes = [] := List.length_eq_zero_iff.mp (Nat.le_zero.mp enough)
      have head : world.pdll.pHead = none := by rw [represents.head, NodeList.addresses, bare]; rfl
      refine ⟨world, if_pos head, ?_⟩
      rw [← bare]
      exact represents
  | succ bound ih =>
      unfold removeLoop
      by_cases empty : world.pdll.pHead = none
      · have bare : list.nodes = [] := by
          rw [represents.head, List.head?_eq_none_iff] at empty
          exact List.map_eq_nil_iff.mp empty
        refine ⟨world, if_pos empty, ?_⟩
        rw [← bare]
        exact represents
      · rw [if_neg empty]
        have some : list.addresses ≠ [] := by
          intro none
          rw [represents.head, none] at empty
          exact empty rfl
        have tail : world.pdll.pTail = .some (list.addresses.getLast some) := by
          rw [represents.tail, List.getLast?_eq_some_getLast some]
        have member : list.addresses.getLast some ∈ list.addresses := List.getLast_mem some
        obtain ⟨middle, removed, kept⟩ := remove_node_represents world list represents _ member
        have fewer : (list.remove (list.addresses.getLast some)).nodes.length ≤ bound := by
          obtain ⟨entry, inside, same⟩ := List.mem_map.mp member
          have less : (list.remove (list.addresses.getLast some)).nodes.length < list.nodes.length := by
            apply List.length_filter_lt_length_iff_exists.mpr
            exact ⟨entry, inside, by simp [same]⟩
          omega
        obtain ⟨next, done, final⟩ := ih middle _ kept fewer
        exact ⟨next, by rw [tail, Option.bind_some, removed, Option.bind_some, done], final⟩

theorem remove_all_represents (represents : Represents world list) :
    ∃ next, dllRemoveAllNodes world = some next ∧ Represents next { list with order := 0, nodes := [] } := by
  have length : list.addresses.length = list.nodes.length := List.length_map _
  have fits := addresses_fit world.heap list.addresses represents.linked represents.distinct
  obtain ⟨last, removed, kept⟩ := remove_loop_represents world.heap.length world list represents
    (by rw [← length]; exact fits)
  refine ⟨{ last with pdll := dllInit 0 }, by rw [dllRemoveAllNodes, removed, Option.map_some], ?_⟩
  constructor
  · exact trivial
  · exact List.nodup_nil
  · exact kept.keys
  · rfl
  · rfl
  · rfl
  · rfl
  · exact kept.given

end Vscp.Dll
