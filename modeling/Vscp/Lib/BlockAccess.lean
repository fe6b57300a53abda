import Vscp.Lib.TracedRead

set_option autoImplicit false

-- What a program does with a block of memory that it is given and with buffers of its own.
namespace BlockAccess

open TracedRead

-- A place of the block, a place of a buffer with so much room, and a size that was computed for a type of this range.
inductive Access
  | data (place : Nat)
  | buffer (place room : Nat)
  | size (amount : Int) (limit : Nat)
deriving DecidableEq

def Allowed (count : Nat) : Access → Prop
  | .data place => place < count
  | .buffer place room => place < room
  | .size amount limit => 0 ≤ amount ∧ amount < limit

instance (count : Nat) : DecidablePred (Allowed count)
  | .data place => inferInstanceAs (Decidable (place < count))
  | .buffer place room => inferInstanceAs (Decidable (place < room))
  | .size amount limit => inferInstanceAs (Decidable (0 ≤ amount ∧ amount < limit))

variable {Cell : Type}

-- The memory behind the block's places; the other accesses give no value.
def blockMemory [Zero Cell] (data : Nat → Cell) : Access → Cell
  | .data place => data place
  | .buffer _ _ => 0
  | .size _ _ => 0

def useSize (amount : Int) (limit : Nat) : Traced Access Cell Nat := do
  touchAll [.size amount limit]
  return (amount % limit).toNat

def useBuffer (first count room : Nat) : Traced Access Cell Unit :=
  touchAll ((List.range count).map fun i => .buffer (first + i) room)

def readRange (first count : Nat) : Traced Access Cell (List Cell) :=
  readAll ((List.range count).map fun i => .data (first + i))

def memcpy (room destination source : Nat) (amount : Int) : Traced Access Cell (List Cell) := do
  let size ← useSize amount (2 ^ 64)
  useBuffer destination size room
  readRange source size

def zeroEnded [Zero Cell] [DecidableEq Cell] (room : Nat) (copied : List Cell) : Traced Access Cell (List Cell) := do
  let text := (copied ++ List.replicate (room - copied.length) 0).takeWhile (· ≠ 0)
  useBuffer 0 (text.length + 1) room
  return text

def copiedText [Zero Cell] [DecidableEq Cell] (room source : Nat) (amount : Int) : Traced Access Cell (List Cell) := do
  useBuffer 0 room room
  let copied ← memcpy room 0 source amount
  zeroEnded room copied

def blockCells (memory : Access → Cell) (first count : Nat) : List Cell :=
  (List.range count).map fun i => memory (.data (first + i))

def Ends [Zero Cell] (room : Nat) (copied : List Cell) : Prop :=
  copied.length < room ∨ (copied.length = room ∧ 0 ∈ copied)

instance [Zero Cell] [DecidableEq Cell] (room : Nat) (copied : List Cell) : Decidable (Ends room copied) :=
  inferInstanceAs (Decidable (_ ∨ _))

theorem ends_fits [Zero Cell] (room : Nat) (copied : List Cell) (ends : Ends room copied) : copied.length ≤ room :=
  ends.elim Nat.le_of_lt fun full => Nat.le_of_eq full.1

section access

variable (count : Nat) (memory : Access → Cell)

variable (amount : Int) (limit : Nat)

theorem within_size :
    Within (Allowed count) (useSize amount limit) memory ↔ 0 ≤ amount ∧ amount < limit := by
  rw [useSize, within_bind, within_touch_all, List.forall_mem_singleton]
  exact and_iff_left (within_pure _ _ _)

theorem value_size (fits : 0 ≤ amount ∧ amount < limit) :
    value (useSize amount limit) memory = amount.toNat := by
  change (amount % limit).toNat = _
  rw [Int.emod_eq_of_lt fits.1 fits.2]

theorem each_below_iff (first cells bound : Nat) :
    (∀ i ∈ List.range cells, first + i < bound) ↔ cells = 0 ∨ first + cells ≤ bound := by
  constructor
  · intro each
    cases cells with
    | zero => exact .inl rfl
    | succ cells =>
        have last := each cells (List.mem_range.mpr (Nat.lt_succ_self cells))
        omega
  · intro room i member
    have lower := List.mem_range.mp member
    omega

theorem within_buffer (first cells room : Nat) :
    Within (Allowed count) (useBuffer first cells room) memory ↔ cells = 0 ∨ first + cells ≤ room := by
  rw [useBuffer, within_touch_all, List.forall_mem_map]
  exact each_below_iff first cells room

variable (first cells : Nat)

theorem within_range :
    Within (Allowed count) (readRange first cells) memory ↔ cells = 0 ∨ first + cells ≤ count := by
  rw [readRange, within_read_all, List.forall_mem_map]
  exact each_below_iff first cells count

@[simp] theorem length_cells : (blockCells memory first cells).length = cells := by
  rw [blockCells, List.length_map, List.length_range]

theorem cells_succ :
    blockCells memory first (cells + 1) = memory (.data first) :: blockCells memory (first + 1) cells := by
  rw [blockCells, List.range_succ_eq_map, List.map_cons, List.map_map]
  congr 1
  refine List.map_congr_left fun i _ => ?_
  rw [Function.comp_apply, Nat.add_assoc, Nat.add_comm 1 i]

@[simp] theorem value_range :
    value (readRange first cells) memory = blockCells memory first cells := by
  rw [readRange, value_read_all, List.map_map, blockCells]
  rfl

theorem within_memcpy (room destination source : Nat) (amount : Int) :
    Within (Allowed count) (memcpy room destination source amount) memory ↔
      (0 ≤ amount ∧ amount < 2 ^ 64) ∧
        (amount.toNat = 0 ∨ destination + amount.toNat ≤ room ∧ source + amount.toNat ≤ count) := by
  rw [memcpy, within_bind, within_size, Nat.cast_pow, Nat.cast_ofNat]
  refine and_congr_right fun fits => ?_
  rw [value_size memory amount (2 ^ 64) (by rwa [Nat.cast_pow, Nat.cast_ofNat]), within_bind, within_buffer,
    within_range]
  omega

theorem value_memcpy (room destination source : Nat) (amount : Int) (fits : 0 ≤ amount ∧ amount < 2 ^ 64) :
    value (memcpy room destination source amount) memory = blockCells memory source amount.toNat := by
  rw [memcpy, value_bind, value_bind, value_range,
    value_size memory amount (2 ^ 64) (by rwa [Nat.cast_pow, Nat.cast_ofNat])]

end access

section ended

variable [Zero Cell] [DecidableEq Cell] (count : Nat) (memory : Access → Cell) (room : Nat) (copied : List Cell)

@[simp] theorem value_zero_ended :
    value (zeroEnded room copied) memory = copied.takeWhile (· ≠ 0) := by
  change (copied ++ List.replicate (room - copied.length) 0).takeWhile (· ≠ 0) = _
  rw [List.takeWhile_append]
  split
  · rename_i whole
    have stops : (List.replicate (room - copied.length) (0 : Cell)).takeWhile (· ≠ 0) = [] := by
      cases room - copied.length <;> simp [List.replicate_succ]
    rw [stops, List.append_nil]
    exact ((List.takeWhile_prefix _).eq_of_length whole).symm
  · rfl

theorem front_shorter_iff (cells : List Cell) : (cells.takeWhile (· ≠ 0)).length < cells.length ↔ 0 ∈ cells := by
  induction cells with
  | nil => simp
  | cons cell cells step =>
      by_cases zero : cell = 0
      · simp [zero]
      · rw [List.takeWhile_cons_of_pos (by simpa using zero), List.length_cons, List.length_cons,
          Nat.add_lt_add_iff_right, step, List.mem_cons, or_iff_right (Ne.symm zero)]

theorem within_zero_ended (fits : copied.length ≤ room) :
    Within (Allowed count) (zeroEnded room copied) memory ↔ Ends room copied := by
  have length := (List.takeWhile_prefix (l := copied) (· ≠ 0)).length_le
  rw [zeroEnded, within_bind, within_buffer]
  have text := value_zero_ended memory room copied
  change (copied ++ List.replicate (room - copied.length) 0).takeWhile (· ≠ 0) = _ at text
  rw [text]
  rw [and_iff_left (within_pure _ _ _), Nat.zero_add, or_iff_right (Nat.succ_ne_zero _), Nat.succ_le_iff, Ends,
    ← front_shorter_iff]
  omega

theorem within_copied_text (source : Nat) (amount : Int) :
    Within (Allowed count) (copiedText room source amount) memory ↔
      (0 ≤ amount ∧ amount < 2 ^ 64) ∧ (amount.toNat = 0 ∨ source + amount.toNat ≤ count) ∧
        Ends room (blockCells memory source amount.toNat) := by
  rw [copiedText, within_bind, within_buffer, within_bind, within_memcpy,
    and_iff_right (.inr (Nat.le_of_eq (Nat.zero_add room))), and_assoc]
  refine and_congr_right fun fits => ?_
  rw [value_memcpy memory room 0 source amount fits]
  constructor
  · rintro ⟨inside, ended⟩
    have room' : (blockCells memory source amount.toNat).length ≤ room := by
      rw [length_cells]
      omega
    exact ⟨by omega, (within_zero_ended count memory room _ room').mp ended⟩
  · rintro ⟨inside, ended⟩
    have room' := ends_fits room _ ended
    refine ⟨?_, (within_zero_ended count memory room _ room').mpr ended⟩
    rw [length_cells] at room'
    omega

theorem value_copied_text (source : Nat) (amount : Int) (fits : 0 ≤ amount ∧ amount < 2 ^ 64) :
    value (copiedText room source amount) memory = (blockCells memory source amount.toNat).takeWhile (· ≠ 0) := by
  rw [copiedText, value_bind, value_bind, value_zero_ended, value_memcpy memory room 0 source amount fits]

end ended

end BlockAccess
