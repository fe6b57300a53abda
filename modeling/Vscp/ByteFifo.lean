import Vscp.Event
import Vscp.Lib.Ring
import Vscp.Lib.Run

set_option autoImplicit false

namespace Vscp.ByteFifo

-- No function changes the size once fifo_init has set it, so it is a parameter here.
structure FifoT (size : UInt16) where
  buf : Vector UInt8 size.toNat
  head : UInt16
  tail : UInt16

variable {size : UInt16}

def fifoInit (buf : Vector UInt8 size.toNat) : FifoT size := ⟨buf, 0, 0⟩

def slot (f : FifoT size) (position : Nat) : UInt8 := (f.buf[position]?).getD 0

def readLoop (nbytes : UInt16) : Nat → UInt16 → FifoT size → UInt16 × Bytes × FifoT size
  | 0, _, f => (nbytes, [], f)
  | left + 1, i, f =>
      if f.tail ≠ f.head then
        let byte := slot f f.tail.toNat
        let tail := f.tail + 1
        let later := readLoop nbytes left (i + 1) { f with tail := if tail = size then 0 else tail }
        (later.1, byte :: later.2.1, later.2.2)
      else (i, [], f)

def fifoRead (f : FifoT size) (nbytes : UInt16) : UInt16 × Bytes × FifoT size := readLoop nbytes nbytes.toNat 0 f

-- The indices are compared after promotion to int, so the sums do not wrap.
def full (f : FifoT size) : Bool :=
  f.head.toNat + 1 = f.tail.toNat ∨ (f.head.toNat + 1 = size.toNat ∧ f.tail = 0)

def writeLoop (nbytes : UInt32) : Bytes → UInt32 → FifoT size → UInt16 × FifoT size
  | [], _, f => (nbytes.toUInt16, f)
  | byte :: p, i, f =>
      if full f then (i.toUInt16, f)
      else
        let head := f.head + 1
        writeLoop nbytes p (i + 1)
          { f with buf := f.buf.setIfInBounds f.head.toNat byte, head := if head = size then 0 else head }

def fifoWrite (f : FifoT size) (nbytes : UInt32) (buf : Vector UInt8 nbytes.toNat) : UInt16 × FifoT size :=
  writeLoop nbytes buf.toList 0 f

inductive Call
  | write (nbytes : UInt32) (buf : Vector UInt8 nbytes.toNat)
  | read (nbytes : UInt16)

-- What a call gives back: the count it returns and the bytes it has put in the buffer of the caller.
inductive Answer
  | written (count : Nat)
  | read (count : Nat) (bytes : Bytes)
deriving DecidableEq

def step (f : FifoT size) : Call → FifoT size × List Answer
  | .write nbytes buf =>
      let result := fifoWrite f nbytes buf
      (result.2, [.written result.1.toNat])
  | .read nbytes =>
      let result := fifoRead f nbytes
      (result.2.2, [.read result.1.toNat result.2.1])

def queueStep (capacity : Nat) (queue : Bytes) : Call → Bytes × List Answer
  | .write _ buf =>
      let taken := buf.toList.take (capacity - queue.length)
      (queue ++ taken, [.written taken.length])
  | .read nbytes =>
      let given := queue.take nbytes.toNat
      (queue.drop nbytes.toNat, [.read given.length given])

structure Inside (f : FifoT size) : Prop where
  head : f.head.toNat < size.toNat
  tail : f.tail.toNat < size.toNat

def count (f : FifoT size) : Nat := Ring.distance size.toNat f.tail.toNat f.head.toNat

def contents (f : FifoT size) : Bytes := Ring.contents (slot f) size.toNat f.tail.toNat (count f)

variable (f : FifoT size)

theorem contents_count : (contents f).length = count f := Ring.contents_length _ _ _ _

theorem count_below (inside : Inside f) : count f < size.toNat :=
  Ring.distance_below _ _ _ inside.tail inside.head

theorem wrapped_index (index : UInt16) (inside : index.toNat < size.toNat) :
    (if index + 1 = size then 0 else index + 1).toNat = Ring.next size.toNat index.toNat := by
  have bound := size.toNat_lt
  have sum : (index + 1).toNat = index.toNat + 1 := by
    rw [UInt16.toNat_add]
    exact Nat.mod_eq_of_lt (show index.toNat + 1 < 2 ^ 16 by omega)
  have same : index + 1 = size ↔ index.toNat + 1 = size.toNat := by
    rw [← UInt16.toNat_inj, sum]
  unfold Ring.next
  by_cases last : index + 1 = size
  · rw [if_pos last, if_pos (same.mp last)]
    rfl
  · rw [if_neg last, if_neg (mt same.mpr last), sum]

theorem full_iff (inside : Inside f) : full f = true ↔ count f + 1 = size.toNat := by
  have head := inside.head
  have tail := inside.tail
  have zero : f.tail = 0 ↔ f.tail.toNat = 0 := UInt16.toNat_inj.symm
  rw [full, decide_eq_true_iff, zero, count, Ring.distance]
  split <;> omega

theorem empty_iff (inside : Inside f) : f.tail = f.head ↔ count f = 0 := by
  have head := inside.head
  have tail := inside.tail
  rw [← UInt16.toNat_inj, count, Ring.distance]
  split <;> omega

def pushed (f : FifoT size) (byte : UInt8) : FifoT size :=
  let head := f.head + 1
  { f with buf := f.buf.setIfInBounds f.head.toNat byte, head := if head = size then 0 else head }

def popped (f : FifoT size) : FifoT size :=
  let tail := f.tail + 1
  { f with tail := if tail = size then 0 else tail }

variable (byte : UInt8)

theorem pushed_inside (inside : Inside f) : Inside (pushed f byte) := by
  have head : (pushed f byte).head.toNat = Ring.next size.toNat f.head.toNat := wrapped_index f.head inside.head
  constructor
  · rw [head]
    exact Ring.next_below _ _ inside.head
  · exact inside.tail

theorem pushed_contents (inside : Inside f) (room : count f + 1 < size.toNat) :
    count (pushed f byte) = count f + 1 ∧ contents (pushed f byte) = contents f ++ [byte] := by
  have head : (pushed f byte).head.toNat = Ring.next size.toNat f.head.toNat := wrapped_index f.head inside.head
  have grown : count (pushed f byte) = count f + 1 := by
    rw [count, head]
    exact Ring.distance_stop_next size.toNat f.tail.toNat f.head.toNat inside.tail room
  have place : Ring.slotAt size.toNat (pushed f byte).tail.toNat (count f) = f.head.toNat :=
    Ring.slot_at_distance size.toNat f.tail.toNat f.head.toNat inside.tail inside.head
  refine ⟨grown, ?_⟩
  rw [contents, grown]
  apply Ring.contents_append _ _ _ _ _ _ (count_below f inside)
  · rw [place]
    simp [slot, pushed, inside.head]
  · intro position other
    rw [place] at other
    simp [slot, pushed, other.symm]

theorem popped_inside (inside : Inside f) : Inside (popped f) := by
  have tail : (popped f).tail.toNat = Ring.next size.toNat f.tail.toNat := wrapped_index f.tail inside.tail
  constructor
  · exact inside.head
  · rw [tail]
    exact Ring.next_below _ _ inside.tail

theorem popped_contents (inside : Inside f) (some : f.tail ≠ f.head) :
    contents f = slot f f.tail.toNat :: contents (popped f) := by
  have tail : (popped f).tail.toNat = Ring.next size.toNat f.tail.toNat := wrapped_index f.tail inside.tail
  have shrunk : count f = count (popped f) + 1 := by
    rw [count, count, tail]
    exact Ring.distance_start_next _ _ _ inside.tail inside.head (fun same => some (UInt16.toNat_inj.mp same))
  have below := count_below f inside
  rw [contents, shrunk, Ring.contents_cons _ _ _ _ inside.tail (by omega), contents, tail]
  rfl

theorem write_loop_queue (nbytes : UInt32) (p : Bytes) (i : UInt32) (f : FifoT size) (inside : Inside f)
    (turns : i.toNat + p.length = nbytes.toNat) (small : i.toNat + (size.toNat - 1 - count f) < 2 ^ 16) :
    (writeLoop nbytes p i f).1.toNat = i.toNat + (p.take (size.toNat - 1 - count f)).length ∧
      contents (writeLoop nbytes p i f).2 = contents f ++ p.take (size.toNat - 1 - count f) ∧
      Inside (writeLoop nbytes p i f).2 := by
  induction p generalizing i f with
  | nil =>
      rw [List.length_nil, Nat.add_zero] at turns
      have low : nbytes.toUInt16.toNat = i.toNat := by
        rw [UInt32.toNat_toUInt16, ← turns]
        exact Nat.mod_eq_of_lt (by omega)
      simp only [writeLoop, low, List.take_nil, List.length_nil, List.append_nil]
      exact ⟨rfl, trivial, inside⟩
  | cons byte p ih =>
      have below := count_below f inside
      have wide := nbytes.toNat_lt
      rw [List.length_cons] at turns
      rw [writeLoop]
      by_cases stop : full f = true
      · have last := (full_iff f inside).mp stop
        have none : size.toNat - 1 - count f = 0 := by omega
        have low : i.toUInt16.toNat = i.toNat := by
          rw [UInt32.toNat_toUInt16]
          exact Nat.mod_eq_of_lt (by omega)
        rw [if_pos stop, none]
        simp only [low, List.take_zero, List.length_nil, List.append_nil]
        exact ⟨rfl, trivial, inside⟩
      · have room : count f + 1 < size.toNat := by
          have other := mt (full_iff f inside).mpr stop
          omega
        obtain ⟨grown, behind⟩ := pushed_contents f byte inside room
        have up : (i + 1).toNat = i.toNat + 1 := by
          rw [UInt32.toNat_add]
          exact Nat.mod_eq_of_lt (show i.toNat + 1 < 2 ^ 32 by omega)
        obtain ⟨number, queue, indices⟩ := ih (i + 1) (pushed f byte) (pushed_inside f byte inside) (by omega) (by omega)
        have places : size.toNat - 1 - count f = size.toNat - 1 - count (pushed f byte) + 1 := by omega
        rw [if_neg stop, places, List.take_succ_cons, List.length_cons]
        refine ⟨?_, ?_, indices⟩
        · refine Eq.trans number ?_
          omega
        · refine Eq.trans queue ?_
          rw [behind, List.append_assoc, List.singleton_append]

theorem read_loop_queue (nbytes : UInt16) (left : Nat) (i : UInt16) (f : FifoT size) (inside : Inside f)
    (turns : i.toNat + left = nbytes.toNat) :
    (readLoop nbytes left i f).1.toNat = i.toNat + ((contents f).take left).length ∧
      (readLoop nbytes left i f).2.1 = (contents f).take left ∧
      contents (readLoop nbytes left i f).2.2 = (contents f).drop left ∧
      Inside (readLoop nbytes left i f).2.2 := by
  induction left generalizing i f with
  | zero =>
      simp only [readLoop, List.take_zero, List.length_nil, List.drop_zero]
      exact ⟨by omega, trivial, trivial, inside⟩
  | succ left ih =>
      have wide := nbytes.toNat_lt
      rw [readLoop]
      by_cases some : f.tail ≠ f.head
      · have front := popped_contents f inside some
        have up : (i + 1).toNat = i.toNat + 1 := by
          rw [UInt16.toNat_add]
          exact Nat.mod_eq_of_lt (show i.toNat + 1 < 2 ^ 16 by omega)
        obtain ⟨number, given, kept, indices⟩ := ih (i + 1) (popped f) (popped_inside f inside) (by omega)
        rw [if_pos some, front, List.take_succ_cons, List.drop_succ_cons, List.length_cons]
        refine ⟨?_, ?_, kept, indices⟩
        · refine Eq.trans number ?_
          omega
        · exact congrArg (slot f f.tail.toNat :: ·) given
      · have none : count f = 0 := (empty_iff f inside).mp (not_not.mp some)
        have empty : contents f = [] := by
          rw [← List.length_eq_zero_iff, contents_count, none]
        rw [if_neg some, empty]
        simp only [List.take_nil, List.drop_nil, List.length_nil, Nat.add_zero]
        exact ⟨trivial, trivial, trivial, inside⟩

-- The queue that the FIFO stands for, with the indices in range.
def Represents (f : FifoT size) (queue : Bytes) : Prop := Inside f ∧ contents f = queue

theorem step_represents (queue : Bytes) (call : Call) (represents : Represents f queue) :
    (step f call).2 = (queueStep (size.toNat - 1) queue call).2 ∧
      Represents (step f call).1 (queueStep (size.toNat - 1) queue call).1 := by
  obtain ⟨inside, rfl⟩ := represents
  have wide := size.toNat_lt
  cases call with
  | write nbytes buf =>
      have turns : (0 : UInt32).toNat + buf.toList.length = nbytes.toNat := by simp
      have zero : (0 : UInt32).toNat = 0 := rfl
      obtain ⟨number, behind, indices⟩ := write_loop_queue nbytes buf.toList 0 f inside turns (by omega)
      rw [zero, Nat.zero_add] at number
      simp only [step, queueStep, fifoWrite, contents_count, number]
      exact ⟨trivial, indices, behind⟩
  | read nbytes =>
      have turns : (0 : UInt16).toNat + nbytes.toNat = nbytes.toNat := Nat.zero_add _
      have zero : (0 : UInt16).toNat = 0 := rfl
      obtain ⟨number, given, kept, indices⟩ := read_loop_queue nbytes nbytes.toNat 0 f inside turns
      rw [zero, Nat.zero_add] at number
      simp only [step, queueStep, fifoRead, number, given]
      exact ⟨trivial, indices, kept⟩

theorem init_represents (positive : 0 < size) (buf : Vector UInt8 size.toNat) : Represents (fifoInit buf) [] := by
  have some : 0 < size.toNat := UInt16.lt_iff_toNat_lt.mp positive
  exact ⟨⟨some, some⟩, rfl⟩

-- From fifo_init on, whatever the calls, the FIFO is a queue with room for one byte less than its size.
theorem fifo_is_queue (size : UInt16) (positive : 0 < size) (buf : Vector UInt8 size.toNat) (calls : List Call) :
    let run := Run.run step (fifoInit buf) calls
    let queue := Run.run (queueStep (size.toNat - 1)) [] calls
    run.2 = queue.2 ∧ contents run.1 = queue.1 ∧ run.1.head < size ∧ run.1.tail < size := by
  intro run queue
  obtain ⟨answers, inside, held⟩ := Run.run_simulates step (queueStep (size.toNat - 1)) Represents step_represents
    (fifoInit buf) [] calls (init_represents positive buf)
  exact ⟨answers, held, UInt16.lt_iff_toNat_lt.mpr inside.head, UInt16.lt_iff_toNat_lt.mpr inside.tail⟩

def wrappingCalls : List Call := [.write 3 #v[1, 2, 3], .read 1, .write 2 #v[4, 5], .read 5]

theorem fifo_is_queue_example :
    (Run.run step (@fifoInit 4 #v[0, 0, 0, 0]) wrappingCalls).2 =
      [.written 3, .read 1 [1], .written 1, .read 3 [2, 3, 4]] := by
  exact (fifo_is_queue 4 (by decide) #v[0, 0, 0, 0] wrappingCalls).1.trans (by decide)

end Vscp.ByteFifo
