import Mathlib

set_option autoImplicit false

structure Tickets (out : List Nat) (next : Nat) (used : List Nat) : Prop where
  distinct : out.Nodup
  fresh : ∀ id ∈ out, id < next
  unused : ∀ id ∈ out, id ∉ used
  usedFresh : ∀ id ∈ used, id < next

namespace Tickets

variable (out : List Nat) (next : Nat) (used : List Nat)

theorem none_out (usedFresh : ∀ id ∈ used, id < next) : Tickets [] next used :=
  ⟨List.nodup_nil, by simp, by simp, usedFresh⟩

theorem issue (more : List Nat) (valid : Tickets out next used) (perm : more.Perm (next :: out)) :
    Tickets more (next + 1) used := by
  obtain ⟨distinct, fresh, unused, usedFresh⟩ := valid
  have new : next ∉ out := fun member => Nat.lt_irrefl next (fresh next member)
  refine ⟨perm.nodup_iff.mpr (List.nodup_cons.mpr ⟨new, distinct⟩), ?_, ?_, ?_⟩
  · intro id member
    cases List.mem_cons.mp (perm.mem_iff.mp member) with
    | inl same => omega
    | inr old => exact Nat.lt_succ_of_lt (fresh id old)
  · intro id member
    cases List.mem_cons.mp (perm.mem_iff.mp member) with
    | inl same =>
        rw [same]
        exact fun taken => Nat.lt_irrefl next (usedFresh next taken)
    | inr old => exact unused id old
  · exact fun id taken => Nat.lt_succ_of_lt (usedFresh id taken)

theorem lose (fewer : List Nat) (valid : Tickets out next used) (lost : fewer.Subperm out) : Tickets fewer next used := by
  obtain ⟨distinct, fresh, unused, usedFresh⟩ := valid
  obtain ⟨kept, perm, sublist⟩ := lost
  refine ⟨perm.nodup_iff.mp (distinct.sublist sublist), ?_, ?_, usedFresh⟩
  · exact fun id member => fresh id (sublist.subset (perm.mem_iff.mpr member))
  · exact fun id member => unused id (sublist.subset (perm.mem_iff.mpr member))

theorem later (more : Nat) (valid : Tickets out next used) (passed : next ≤ more) : Tickets out more used :=
  ⟨valid.distinct, fun id member => Nat.lt_of_lt_of_le (valid.fresh id member) passed, valid.unused,
    fun id taken => Nat.lt_of_lt_of_le (valid.usedFresh id taken) passed⟩

theorem use (id : Nat) (valid : Tickets (id :: out) next used) : Tickets out next (used ++ [id]) := by
  obtain ⟨distinct, fresh, unused, usedFresh⟩ := valid
  obtain ⟨only, others⟩ := List.nodup_cons.mp distinct
  refine ⟨others, fun other member => fresh other (List.mem_cons_of_mem id member), ?_, ?_⟩
  · intro other member taken
    cases List.mem_append.mp taken with
    | inl before => exact unused other (List.mem_cons_of_mem id member) before
    | inr now =>
        rw [List.mem_singleton.mp now] at member
        exact only member
  · intro other taken
    cases List.mem_append.mp taken with
    | inl before => exact usedFresh other before
    | inr now =>
        rw [List.mem_singleton.mp now]
        exact fresh id List.mem_cons_self

end Tickets
