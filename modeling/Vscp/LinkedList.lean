import Vscp.TextReply
import Vscp.Lib.Chain

set_option autoImplicit false

namespace Vscp.Dll

open Chain
open RemoteTcp (Text)

structure Keys where
  pstrKey : Option Text
  pKey : Option UInt64
deriving DecidableEq

structure DllNode where
  keys : Keys
  pNext : Option Addr
  pPrev : Option Addr
deriving DecidableEq

-- A cell that is freed is none; its address is not given out again.
abbrev Heap := List (Option DllNode)

def nodeAt (heap : Heap) (address : Addr) : Option DllNode := (heap[address]?).join

structure DoubleLinkedList where
  nSortOrder : UInt8
  pHead : Option Addr
  pTail : Option Addr
  nCount : Nat
deriving DecidableEq

structure World where
  heap : Heap
  pdll : DoubleLinkedList
deriving DecidableEq

def sortNone : UInt8 := 0
def sortString : UInt8 := 1
def sortNumeric : UInt8 := 2

def dllInit (nSort : UInt8) : DoubleLinkedList := ⟨nSort, none, none, 0⟩

-- Writes through a pointer; a write to memory that is no node is none, and a null pointer is not written to.
def writeNode (heap : Heap) (address : Addr) (change : DllNode → DllNode) : Option Heap :=
  (nodeAt heap address).map fun node => heap.set address (some (change node))

def writeNext (heap : Heap) (address : Addr) (pNext : Option Addr) : Option Heap :=
  writeNode heap address fun node => { node with pNext := pNext }

def writePrev (heap : Heap) (address : Addr) (pPrev : Option Addr) : Option Heap :=
  writeNode heap address fun node => { node with pPrev := pPrev }

def unlessNull (heap : Heap) (pointer : Option Addr) (write : Addr → Option Heap) : Option Heap :=
  pointer.elim (some heap) write

def linksOf (heap : Heap) : Memory := fun address =>
  (nodeAt heap address).map fun node => ⟨node.pNext, node.pPrev⟩

-- Every node of a list is another cell of the heap, so a longer way goes round for ever.
def forward (world : World) : Option (List Addr) :=
  walk Links.next (linksOf world.heap) world.heap.length world.pdll.pHead

def backward (world : World) : Option (List Addr) :=
  walk Links.prev (linksOf world.heap) world.heap.length world.pdll.pTail

-- A list without a head keeps the count it has.
def dllGetNodeCount (world : World) : Option World :=
  if world.pdll.pHead = none then some world
  else (forward world).map fun nodes => { world with pdll := { world.pdll with nCount := nodes.length } }

def dllAddNodeHead (world : World) (pInsertNode : Addr) : Option World := do
  let pdll := world.pdll
  let heap ← writeNext world.heap pInsertNode pdll.pHead
  let heap ← writePrev heap pInsertNode none
  let heap ← unlessNull heap pdll.pHead fun pHead => writePrev heap pHead (some pInsertNode)
  let pTail := if pdll.pTail = none then some pInsertNode else pdll.pTail
  dllGetNodeCount ⟨heap, { pdll with pHead := some pInsertNode, pTail := pTail }⟩

def dllAddNodeTail (world : World) (pInsertNode : Addr) : Option World := do
  let pdll := world.pdll
  let heap ← writeNext world.heap pInsertNode none
  let heap ← writePrev heap pInsertNode pdll.pTail
  let heap ← unlessNull heap pdll.pTail fun pTail => writeNext heap pTail (some pInsertNode)
  let pHead := if pdll.pHead = none then some pInsertNode else pdll.pHead
  dllGetNodeCount ⟨heap, { pdll with pHead := pHead, pTail := some pInsertNode }⟩

def dllInsertNode (world : World) (pNode pInsertNode : Addr) : Option World := do
  let heap ← writePrev world.heap pInsertNode (some pNode)
  let node ← nodeAt heap pNode
  let heap ← writeNext heap pInsertNode node.pNext
  let heap ← writeNext heap pNode (some pInsertNode)
  -- The node after is looked up where it has just been replaced.
  let node ← nodeAt heap pNode
  let after ← node.pNext
  let heap ← writePrev heap after (some pInsertNode)
  dllGetNodeCount ⟨heap, world.pdll⟩

def dllAddNodeBefore (world : World) (pNode pInsertNode : Addr) : Option World := do
  let node ← nodeAt world.heap pNode
  let world ← if node.pPrev = none then dllAddNodeHead world pInsertNode else dllInsertNode world pNode pInsertNode
  dllGetNodeCount world

def dllAddNodeAfter (world : World) (pNode pInsertNode : Addr) : Option World := do
  let node ← nodeAt world.heap pNode
  let world ← if node.pNext = none then dllAddNodeTail world pInsertNode else dllInsertNode world pNode pInsertNode
  dllGetNodeCount world

def strcmp : Text → Text → Int
  | [], [] => 0
  | [], letter :: _ => -letter.toNat
  | letter :: _, [] => letter.toNat
  | first :: left, second :: right => if first = second then strcmp left right else first.toNat - second.toNat

-- nsearchResult, which stays 0 for a sort order that is not known; a missing key that is read is none.
def searchResult (nSortOrder : UInt8) (fresh keys : Keys) : Option Int :=
  if nSortOrder = sortString then
    fresh.pstrKey.bind fun left => keys.pstrKey.map fun right => strcmp left right
  else if nSortOrder = sortNumeric then
    fresh.pKey.bind fun left => keys.pKey.map fun right => if left = right then 0 else if right < left then 2 else -1
  else some 0

inductive Place
  | before (pNode : Addr)
  | after (pNode : Addr)
  | atTail
deriving DecidableEq

def searchLoop (heap : Heap) (nSortOrder : UInt8) (fresh : Keys) : Nat → Option Addr → Option Place
  | _, none => some .atTail
  | 0, some _ => none
  | bound + 1, some pNode => do
      let node ← nodeAt heap pNode
      let nsearchResult ← searchResult nSortOrder fresh node.keys
      if nsearchResult = 0 then some (.after pNode)
      else if 0 < nsearchResult then some (.before pNode)
      else searchLoop heap nSortOrder fresh bound node.pNext

def refused (nSortOrder : UInt8) (fresh : Keys) : Bool :=
  (nSortOrder = sortString ∧ fresh.pstrKey = none) ∨ (nSortOrder = sortNumeric ∧ fresh.pKey = none)

def dllAddNode (world : World) (pInsertNode : Addr) : Option World :=
  if world.pdll.nSortOrder = sortNone then dllAddNodeTail world pInsertNode
  else do
    let node ← nodeAt world.heap pInsertNode
    if refused world.pdll.nSortOrder node.keys then some world
    else if world.pdll.pHead = none then dllAddNodeTail world pInsertNode
    else
      let place ← searchLoop world.heap world.pdll.nSortOrder node.keys world.heap.length world.pdll.pHead
      match place with
      | .after pNode => dllAddNodeAfter world pNode pInsertNode
      | .before pNode => dllAddNodeBefore world pNode pInsertNode
      | .atTail => dllAddNodeTail world pInsertNode

def dllRemoveNode (world : World) (pNode : Addr) : Option World := do
  let pdll := world.pdll
  let node ← nodeAt world.heap pNode
  let heap ← unlessNull world.heap node.pPrev fun pPrev => writeNext world.heap pPrev node.pNext
  let pHead := if node.pPrev = none then node.pNext else pdll.pHead
  let heap ← unlessNull heap node.pNext fun pNext => writePrev heap pNext node.pPrev
  let pTail := if node.pNext = none then node.pPrev else pdll.pTail
  dllGetNodeCount ⟨heap.set pNode none, { pdll with pHead := pHead, pTail := pTail, nCount := pdll.nCount - 1 }⟩

-- With a head and no tail nothing is ever removed.
def removeLoop : Nat → World → Option World
  | 0, world => if world.pdll.pHead = none then some world else none
  | bound + 1, world =>
      if world.pdll.pHead = none then some world
      else world.pdll.pTail.bind fun pTail => (dllRemoveNode world pTail).bind (removeLoop bound)

def dllRemoveAllNodes (world : World) : Option World :=
  (removeLoop world.heap.length world).map fun world => { world with pdll := dllInit 0 }

inductive Step
  | addNodeHead (node : DllNode)
  | addNodeTail (node : DllNode)
  | addNodeBefore (pNode : Addr) (node : DllNode)
  | addNodeAfter (pNode : Addr) (node : DllNode)
  | insertNode (pNode : Addr) (node : DllNode)
  | addNode (node : DllNode)
  | removeNode (pNode : Addr)
  | removeAllNodes

def allocated (world : World) (node : DllNode) : World := { world with heap := world.heap ++ [some node] }

def step (world : World) : Step → Option World
  | .addNodeHead node => dllAddNodeHead (allocated world node) world.heap.length
  | .addNodeTail node => dllAddNodeTail (allocated world node) world.heap.length
  | .addNodeBefore pNode node => dllAddNodeBefore (allocated world node) pNode world.heap.length
  | .addNodeAfter pNode node => dllAddNodeAfter (allocated world node) pNode world.heap.length
  | .insertNode pNode node => dllInsertNode (allocated world node) pNode world.heap.length
  | .addNode node => dllAddNode (allocated world node) world.heap.length
  | .removeNode pNode => dllRemoveNode world pNode
  | .removeAllNodes => dllRemoveAllNodes world

def freshWorld (nSort : UInt8) : World := ⟨[], dllInit nSort⟩

end Vscp.Dll
