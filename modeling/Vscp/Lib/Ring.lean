import Mathlib

set_option autoImplicit false

-- A queue laid out in a ring of slots: it begins at one position and ends before another.
namespace Ring

variable {Item : Type}

def next (size position : Nat) : Nat := if position + 1 = size then 0 else position + 1

def slotAt (size start offset : Nat) : Nat := if start + offset < size then start + offset else start + offset - size

def distance (size start stop : Nat) : Nat := if start ≤ stop then stop - start else stop + size - start

def contents (slots : Nat → Item) (size start count : Nat) : List Item :=
  (List.range count).map fun offset => slots (slotAt size start offset)

variable (slots : Nat → Item)

@[simp] theorem contents_length (size start count : Nat) :
    (contents slots size start count).length = count := by
  simp [contents]

theorem next_below (size position : Nat) (inside : position < size) : next size position < size := by
  unfold next
  split <;> omega

variable (size start stop : Nat)

theorem slot_at_distance (first : start < size) (last : stop < size) :
    slotAt size start (distance size start stop) = stop := by
  unfold slotAt distance
  split <;> split <;> omega

theorem slot_at_distinct (size start offset other : Nat) (before : offset < other) (inside : other < size) :
    slotAt size start offset ≠ slotAt size start other := by
  unfold slotAt
  split <;> split <;> omega

theorem slot_at_next (size start offset : Nat) (inside : offset + 1 < size) :
    slotAt size (next size start) offset = slotAt size start (offset + 1) := by
  unfold slotAt next
  split <;> split <;> split <;> omega

theorem distance_stop_next (first : start < size)
    (room : distance size start stop + 1 < size) :
    distance size start (next size stop) = distance size start stop + 1 := by
  revert room
  unfold distance next
  split <;> split <;> split <;> omega

theorem distance_start_next (first : start < size) (last : stop < size) (some : start ≠ stop) :
    distance size start stop = distance size (next size start) stop + 1 := by
  unfold distance next
  split <;> split <;> split <;> omega

theorem distance_below (first : start < size) (last : stop < size) :
    distance size start stop < size := by
  unfold distance
  split <;> omega

theorem contents_append (slots changed : Nat → Item) (size start count : Nat) (item : Item) (room : count < size)
    (written : changed (slotAt size start count) = item)
    (kept : ∀ position, position ≠ slotAt size start count → changed position = slots position) :
    contents changed size start (count + 1) = contents slots size start count ++ [item] := by
  rw [contents, List.range_succ, List.map_append, List.map_singleton, written, contents]
  congr 1
  apply List.map_congr_left
  intro offset member
  exact kept _ (slot_at_distinct size start offset count (List.mem_range.mp member) room)

theorem contents_cons (size start count : Nat) (first : start < size) (fits : count < size) :
    contents slots size start (count + 1) = slots start :: contents slots size (next size start) count := by
  have head : slotAt size start 0 = start := if_pos first
  rw [contents, List.range_succ_eq_map, List.map_cons, head, List.map_map, contents]
  congr 1
  apply List.map_congr_left
  intro offset member
  have below := List.mem_range.mp member
  exact congrArg slots (slot_at_next size start offset (by omega)).symm

end Ring
