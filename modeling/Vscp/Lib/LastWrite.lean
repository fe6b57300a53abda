import Mathlib

set_option autoImplicit false

-- A table that is filled entry by entry: what is written last under a name is what is found there.
namespace LastWrite

variable {Name Value : Type}

def OneValue (entries : List (Name × Value)) : Prop :=
  ∀ name first second, (name, first) ∈ entries → (name, second) ∈ entries → first = second

theorem one_value_of_nodup (entries : List (Name × Value)) (different : (entries.map Prod.fst).Nodup) :
    OneValue entries := by
  intro name first second left right
  have injective := List.inj_on_of_nodup_map different
  exact congrArg Prod.snd (injective left right rfl)

theorem one_value_append (first second : List (Name × Value)) (left : OneValue first) (right : OneValue second)
    (apart : ∀ one ∈ first, ∀ other ∈ second, one.1 ≠ other.1) : OneValue (first ++ second) := by
  intro name one other oneInside otherInside
  rcases List.mem_append.mp oneInside with oneLeft | oneRight
  · rcases List.mem_append.mp otherInside with otherLeft | otherRight
    · exact left name one other oneLeft otherLeft
    · exact (apart (name, one) oneLeft (name, other) otherRight rfl).elim
  · rcases List.mem_append.mp otherInside with otherLeft | otherRight
    · exact (apart (name, other) otherLeft (name, one) oneRight rfl).elim
    · exact right name one other oneRight otherRight

variable [DecidableEq Name]

def write (table : Name → Option Value) (entry : Name × Value) : Name → Option Value :=
  fun name => if name = entry.1 then some entry.2 else table name

def writeAll (table : Name → Option Value) (entries : List (Name × Value)) : Name → Option Value :=
  entries.foldl write table

variable (table : Name → Option Value)

theorem write_all_append (first second : List (Name × Value)) :
    writeAll table (first ++ second) = writeAll (writeAll table first) second := List.foldl_append

theorem write_all_last (front : List (Name × Value)) (entry : Name × Value) :
    writeAll table (front ++ [entry]) = write (writeAll table front) entry := write_all_append table front [entry]

variable (entries : List (Name × Value)) (name : Name)

theorem write_all_outside (outside : ∀ value, (name, value) ∉ entries) : writeAll table entries name = table name := by
  induction entries using List.reverseRecOn with
  | nil => rfl
  | append_singleton front entry ih =>
      have other : name ≠ entry.1 := by
        rintro rfl
        exact outside entry.2 (List.mem_append_right front List.mem_cons_self)
      rw [write_all_last, write, if_neg other]
      exact ih fun value inside => outside value (List.mem_append_left [entry] inside)

theorem write_all_inside (value : Value)
    (inside : (name, value) ∈ entries) :
    ∃ written, (name, written) ∈ entries ∧ writeAll table entries name = some written := by
  induction entries using List.reverseRecOn with
  | nil => cases inside
  | append_singleton front entry ih =>
      rw [write_all_last, write]
      by_cases same : name = entry.1
      · refine ⟨entry.2, List.mem_append_right front ?_, if_pos same⟩
        rw [same]
        exact List.mem_cons_self
      · rw [if_neg same]
        rcases List.mem_append.mp inside with earlier | last
        · obtain ⟨written, own, found⟩ := ih earlier
          exact ⟨written, List.mem_append_left [entry] own, found⟩
        · exact absurd (congrArg Prod.fst (List.mem_singleton.mp last)) same

theorem write_all_same (entries others : List (Name × Value)) (single : OneValue entries)
    (same : ∀ entry, entry ∈ entries ↔ entry ∈ others) : writeAll table entries = writeAll table others := by
  funext name
  by_cases named : ∃ value, (name, value) ∈ entries
  · obtain ⟨value, inside⟩ := named
    obtain ⟨first, own, found⟩ := write_all_inside table entries name value inside
    obtain ⟨second, also, foundAlso⟩ := write_all_inside table others name value ((same _).mp inside)
    rw [found, foundAlso, single name first second own ((same _).mpr also)]
  · have outside := not_exists.mp named
    rw [write_all_outside table entries name outside,
      write_all_outside table others name fun value inside => outside value ((same _).mpr inside)]

theorem write_all_congr (one other : Name → Option Value) (entries : List (Name × Value)) (name : Name)
    (agree : one name = other name) : writeAll one entries name = writeAll other entries name := by
  induction entries using List.reverseRecOn with
  | nil => exact agree
  | append_singleton front entry ih =>
      rw [write_all_last, write_all_last, write, write, ih]

end LastWrite
