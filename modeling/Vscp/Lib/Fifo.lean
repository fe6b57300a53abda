import Mathlib

set_option autoImplicit false

namespace Fifo

variable {Item : Type}

inductive Entry (Item : Type)
  | enter (item : Item)
  | leave (item : Item)
  | drop (item : Item)
deriving DecidableEq

def entered (history : List (Entry Item)) : List Item :=
  history.filterMap fun | .enter item => some item | _ => none

def left (history : List (Entry Item)) : List Item :=
  history.filterMap fun | .leave item => some item | _ => none

def settled (history : List (Entry Item)) : List (Bool × Item) :=
  history.filterMap fun | .enter _ => none | .leave item => some (true, item) | .drop item => some (false, item)

-- First in, first out: what came in is what is out, in that order, and then what is held.
def Holds (history : List (Entry Item)) (queue : List Item) : Prop :=
  entered history = (settled history).map Prod.snd ++ queue

@[simp] theorem entered_append (first second : List (Entry Item)) :
    entered (first ++ second) = entered first ++ entered second := List.filterMap_append

@[simp] theorem settled_append (first second : List (Entry Item)) :
    settled (first ++ second) = settled first ++ settled second := List.filterMap_append

theorem holds_nil : Holds ([] : List (Entry Item)) [] := rfl

variable (history : List (Entry Item)) (queue : List Item)

theorem holds_enter (item : Item) (holds : Holds history queue) :
    Holds (history ++ [.enter item]) (queue ++ [item]) := by
  rw [Holds, entered_append, settled_append, holds]
  simp [entered, settled]

theorem holds_leave (item : Item)
    (holds : Holds history (item :: queue)) : Holds (history ++ [.leave item]) queue := by
  rw [Holds, entered_append, settled_append, holds]
  simp [entered, settled]

theorem entered_drops : entered (queue.map Entry.drop) = [] := by
  rw [entered, List.filterMap_map]
  exact List.filterMap_eq_nil_iff.mpr (fun _ _ => rfl)

theorem settled_drops : (settled (queue.map Entry.drop)).map Prod.snd = queue := by
  induction queue with
  | nil => rfl
  | cons item rest ih => exact congrArg (item :: ·) ih

theorem holds_clear (holds : Holds history queue) :
    Holds (history ++ queue.map .drop) [] := by
  rw [Holds, entered_append, settled_append, holds, entered_drops, List.map_append, settled_drops]

def NothingDropped (history : List (Entry Item)) : Prop := ∀ item, Entry.drop item ∉ history

theorem left_of_nothing_dropped (kept : NothingDropped history) :
    (settled history).map Prod.snd = left history := by
  induction history with
  | nil => rfl
  | cons entry rest ih =>
      have later := ih (fun item member => kept item (List.mem_cons_of_mem _ member))
      cases entry with
      | enter item => exact later
      | leave item => exact congrArg (item :: ·) later
      | drop item => exact absurd List.mem_cons_self (kept item)

theorem entered_of_nothing_dropped (holds : Holds history queue)
    (kept : NothingDropped history) : entered history = left history ++ queue := by
  rw [holds, left_of_nothing_dropped history kept]

end Fifo
