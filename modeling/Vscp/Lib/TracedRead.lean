import Mathlib

set_option autoImplicit false

-- Programs that read a memory and keep a list of the places they read.
namespace TracedRead

def Traced (Index Cell Result : Type) : Type := (Index → Cell) → Result × List Index

variable {Index Cell Result Later : Type}

def value (program : Traced Index Cell Result) (memory : Index → Cell) : Result := (program memory).1
def touched (program : Traced Index Cell Result) (memory : Index → Cell) : List Index := (program memory).2

def readAt (place : Index) : Traced Index Cell Cell := fun memory => (memory place, [place])
def readAll (places : List Index) : Traced Index Cell (List Cell) := fun memory => (places.map memory, places)
def touchAll (places : List Index) : Traced Index Cell Unit := fun _ => ((), places)

instance : Monad (Traced Index Cell) where
  pure result := fun _ => (result, [])
  bind program next := fun memory =>
    let first := program memory
    let second := next first.1 memory
    (second.1, first.2 ++ second.2)

@[simp] theorem value_pure (result : Result) (memory : Index → Cell) :
    value (pure result : Traced Index Cell Result) memory = result := rfl

@[simp] theorem value_bind (program : Traced Index Cell Result) (next : Result → Traced Index Cell Later)
    (memory : Index → Cell) : value (program >>= next) memory = value (next (value program memory)) memory := rfl

@[simp] theorem value_read (place : Index) (memory : Index → Cell) : value (readAt place) memory = memory place := rfl

@[simp] theorem value_read_all (places : List Index) (memory : Index → Cell) :
    value (readAll places) memory = places.map memory := rfl

@[simp] theorem value_ite (test : Prop) [Decidable test] (first second : Traced Index Cell Result)
    (memory : Index → Cell) :
    value (if test then first else second) memory = if test then value first memory else value second memory := by
  split <;> rfl

def Within (inside : Index → Prop) (program : Traced Index Cell Result) (memory : Index → Cell) : Prop :=
  ∀ place ∈ touched program memory, inside place

section within

variable (inside : Index → Prop) (memory : Index → Cell)

@[simp] theorem within_pure (result : Result) : Within inside (pure result : Traced Index Cell Result) memory :=
  fun _ member => absurd member List.not_mem_nil

@[simp] theorem within_bind (program : Traced Index Cell Result) (next : Result → Traced Index Cell Later) :
    Within inside (program >>= next) memory ↔
      Within inside program memory ∧ Within inside (next (value program memory)) memory :=
  List.forall_mem_append

@[simp] theorem within_read (place : Index) : Within inside (readAt place) memory ↔ inside place :=
  List.forall_mem_singleton

@[simp] theorem within_read_all (places : List Index) :
    Within inside (readAll places) memory ↔ ∀ place ∈ places, inside place := Iff.rfl

@[simp] theorem within_touch_all (places : List Index) :
    Within inside (touchAll places) memory ↔ ∀ place ∈ places, inside place := Iff.rfl

@[simp] theorem within_ite (test : Prop) [Decidable test] (first second : Traced Index Cell Result) :
    Within inside (if test then first else second) memory ↔
      (test → Within inside first memory) ∧ (¬ test → Within inside second memory) := by
  split <;> simp [*]

end within

end TracedRead
