import Mathlib

set_option autoImplicit false

namespace Reassembly

variable {Symbol Record : Type}

-- How records are laid out on a stream, and how many symbols a reader that
-- holds the front of a record may still ask for.
structure Format (Symbol Record : Type) where
  encode : Record → List Symbol
  missing : List Symbol → Nat

-- Inside a record the reader asks for something, never for more than the record has left.
structure Format.Lawful (format : Format Symbol Record) (Valid : Record → Prop) : Prop where
  nonempty : ∀ record, Valid record → format.encode record ≠ []
  asks : ∀ record held back, Valid record → format.encode record = held ++ back → back ≠ [] →
    0 < format.missing held ∧ format.missing held ≤ back.length

variable (format : Format Symbol Record)

-- The reader holds a front of the first pending record, and not all of it; the
-- stream brings the rest and the records behind it.
def Holds : List Record → List Symbol → List Symbol → Prop
  | [], held, stream => held = [] ∧ stream = []
  | record :: rest, held, stream =>
      ∃ back, back ≠ [] ∧ format.encode record = held ++ back ∧ stream = back ++ rest.flatMap format.encode

variable {format} {Valid : Record → Prop} (lawful : format.Lawful Valid)

include lawful

theorem holds_between (pending : List Record) (valid : ∀ record ∈ pending, Valid record) :
    Holds format pending [] (pending.flatMap format.encode) := by
  cases pending with
  | nil => exact ⟨rfl, rfl⟩
  | cons record rest =>
      exact ⟨format.encode record, lawful.nonempty record (valid record List.mem_cons_self), rfl, List.flatMap_cons⟩

omit lawful in
theorem holds_bytes (pending : List Record) (held stream : List Symbol) (holds : Holds format pending held stream) :
    held ++ stream = pending.flatMap format.encode := by
  cases pending with
  | nil => rw [holds.1, holds.2, List.append_nil, List.flatMap_nil]
  | cons record rest =>
      obtain ⟨back, _, front, behind⟩ := holds
      rw [behind, ← List.append_assoc, ← front, List.flatMap_cons]

theorem holds_read (record : Record) (rest : List Record) (held stream : List Symbol) (count : Nat)
    (valid : ∀ other ∈ record :: rest, Valid other) (holds : Holds format (record :: rest) held stream)
    (asked : count ≤ format.missing held) :
    (held ++ stream.take count = format.encode record ∧ Holds format rest [] (stream.drop count)) ∨
      Holds format (record :: rest) (held ++ stream.take count) (stream.drop count) := by
  obtain ⟨back, something, front, behind⟩ := holds
  have room := (lawful.asks record held back (valid record List.mem_cons_self) front something).2
  have taken : stream.take count = back.take count := by
    rw [behind, List.take_append_of_le_length (Nat.le_trans asked room)]
  have dropped : stream.drop count = back.drop count ++ rest.flatMap format.encode := by
    rw [behind, List.drop_append_of_le_length (Nat.le_trans asked room)]
  have whole := List.take_append_drop count back
  rw [taken, dropped]
  by_cases finished : back.drop count = []
  · rw [finished, List.append_nil] at whole
    left
    rw [whole, finished, List.nil_append]
    exact ⟨front.symm, holds_between lawful rest fun other member => valid other (List.mem_cons_of_mem _ member)⟩
  · right
    exact ⟨back.drop count, finished, by rw [List.append_assoc, whole, front], rfl⟩

end Reassembly
