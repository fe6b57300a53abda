import Vscp.EventFilter

set_option autoImplicit false

namespace Vscp.Python

open BitField

-- The fields that `_check_filter` reads. Python's numbers have no width.
structure VSCPEvent where
  head : Nat
  vscpClass : Nat
  vscpType : Nat
  guid : Vector Nat 16

structure VSCPEventFilter where
  filterPriority : Nat
  maskPriority : Nat
  filterClass : Nat
  maskClass : Nat
  filterType : Nat
  maskType : Nat
  filterGuid : Vector Nat 16
  maskGuid : Vector Nat 16

def headerPriorityMask : Nat := 0xE0

-- One test of `_check_filter`: a mask of zero is not looked at.
def refuses (mask wanted found : Nat) : Bool := mask != 0 && found &&& mask != wanted &&& mask

def checkFilter (filter : Option VSCPEventFilter) (event : VSCPEvent) : Bool :=
  match filter with
  | none => true
  | some filter =>
      if refuses filter.maskClass filter.filterClass event.vscpClass then false
      else if refuses filter.maskType filter.filterType event.vscpType then false
      else if refuses filter.maskPriority filter.filterPriority (event.head &&& headerPriorityMask) then false
      else (List.finRange 16).all fun i => !refuses (filter.maskGuid.get i) (filter.filterGuid.get i) (event.guid.get i)

def sameEvent (pev : VscpEvent) : VSCPEvent :=
  ⟨pev.head.toNat, pev.vscpClass.toNat, pev.vscpType.toNat, pev.guid.map UInt8.toNat⟩

def sameFilter (filter : VscpEventFilter) : VSCPEventFilter :=
  ⟨filter.filterPriority.toNat, filter.maskPriority.toNat, filter.filterClass.toNat, filter.maskClass.toNat,
    filter.filterType.toNat, filter.maskType.toNat, filter.filterGuid.map UInt8.toNat, filter.maskGuid.map UInt8.toNat⟩

structure RestPasses (pev : VscpEvent) (filter : VscpEventFilter) : Prop where
  vscpClass : MaskedBitsAgree filter.filterClass.toNat pev.vscpClass.toNat filter.maskClass.toNat
  vscpType : MaskedBitsAgree filter.filterType.toNat pev.vscpType.toNat filter.maskType.toNat
  guid : ∀ i : Fin 16,
    MaskedBitsAgree (filter.filterGuid.get i).toNat (pev.guid.get i).toNat (filter.maskGuid.get i).toNat

def PlaceIsHarmless (priority wanted mask : Nat) : Prop :=
  (priority &&& mask = 0 ∧ priority * 2 ^ 5 &&& mask = 0) ∨
  (wanted &&& mask ≠ priority &&& mask ∧ wanted &&& mask ≠ priority * 2 ^ 5 &&& mask)

theorem masked_bits_agree_iff (wanted found mask : Nat) :
    MaskedBitsAgree wanted found mask ↔ wanted &&& mask = found &&& mask := by
  constructor
  · intro agree
    apply Nat.eq_of_testBit_eq
    intro bit
    rw [Nat.testBit_and, Nat.testBit_and]
    cases counts : mask.testBit bit with
    | false => rw [Bool.and_false, Bool.and_false]
    | true => rw [agree bit counts]
  · intro same bit counts
    have one := congrArg (fun number : Nat => number.testBit bit) same
    simpa only [Nat.testBit_and, counts, Bool.and_true] using one

theorem accepts_iff (mask wanted found : Nat) :
    refuses mask wanted found = false ↔ MaskedBitsAgree wanted found mask := by
  rw [masked_bits_agree_iff, refuses, @eq_comm _ (wanted &&& mask)]
  by_cases open' : mask = 0
  · subst open'
    simp
  · simp [open']

theorem check_passes_iff (pev : VscpEvent) (filter : VscpEventFilter) :
    checkFilter (some (sameFilter filter)) (sameEvent pev) = true ↔
      RestPasses pev filter ∧
      MaskedBitsAgree filter.filterPriority.toNat (field 5 3 pev.head.toNat * 2 ^ 5) filter.maskPriority.toNat := by
  have place : pev.head.toNat &&& headerPriorityMask = field 5 3 pev.head.toNat * 2 ^ 5 := masked_field 5 3 _
  simp only [checkFilter, sameFilter, sameEvent, place]
  constructor
  · intro passed
    split at passed
    · cases passed
    · rename_i vscpClass
      split at passed
      · cases passed
      · rename_i vscpType
        split at passed
        · cases passed
        · rename_i priority
          rw [List.all_eq_true] at passed
          refine ⟨⟨(accepts_iff _ _ _).mp (Bool.eq_false_iff.mpr vscpClass),
            (accepts_iff _ _ _).mp (Bool.eq_false_iff.mpr vscpType), fun i => ?_⟩,
            (accepts_iff _ _ _).mp (Bool.eq_false_iff.mpr priority)⟩
          have byte := passed i (List.mem_finRange i)
          rw [Bool.not_eq_true', accepts_iff] at byte
          simpa using byte
  · rintro ⟨rest, priority⟩
    rw [(accepts_iff _ _ _).mpr rest.vscpClass, (accepts_iff _ _ _).mpr rest.vscpType,
      (accepts_iff _ _ _).mpr priority]
    simp only [Bool.false_eq_true, if_false, List.all_eq_true]
    intro i _
    rw [Bool.not_eq_true', accepts_iff]
    simpa using rest.guid i

theorem helper_passes_iff (pev : VscpEvent) (filter : VscpEventFilter) :
    doLevel2Filter pev filter = true ↔
      RestPasses pev filter ∧
      MaskedBitsAgree filter.filterPriority.toNat (field 5 3 pev.head.toNat) filter.maskPriority.toNat := by
  rw [filter_passes_iff]
  constructor
  · intro passes
    exact ⟨⟨passes.vscpClass, passes.vscpType, passes.guid⟩, passes.priority⟩
  · rintro ⟨rest, priority⟩
    exact ⟨priority, rest.vscpClass, rest.vscpType, rest.guid⟩

theorem places_disjoint (priority : Nat) (three : priority < 2 ^ 3) : priority &&& priority * 2 ^ 5 = 0 := by
  apply Nat.eq_of_testBit_eq
  intro bit
  rw [Nat.testBit_and, Nat.testBit_mul_two_pow, Nat.zero_testBit]
  by_cases low : bit < 5
  · have outside : ¬ 5 ≤ bit := by omega
    simp [outside]
  · have above : priority.testBit bit = false :=
      Nat.testBit_lt_two_pow (Nat.lt_of_lt_of_le three (Nat.pow_le_pow_right (by decide) (by omega)))
    rw [above, Bool.false_and]

theorem both_places_iff (priority wanted mask : Nat) (three : priority < 2 ^ 3) :
    (wanted &&& mask = priority * 2 ^ 5 &&& mask ↔ wanted &&& mask = priority &&& mask) ↔
      PlaceIsHarmless priority wanted mask := by
  constructor
  · intro alike
    by_cases low : wanted &&& mask = priority &&& mask
    · have high := alike.mpr low
      have nothing : priority &&& mask = 0 := by
        calc priority &&& mask = (priority &&& mask) &&& (priority &&& mask) := (Nat.and_self _).symm
          _ = (priority &&& mask) &&& (priority * 2 ^ 5 &&& mask) := by rw [← high, low]
          _ = (priority &&& priority * 2 ^ 5) &&& (mask &&& mask) := by ac_rfl
          _ = 0 := by rw [places_disjoint priority three, Nat.zero_and]
      exact Or.inl ⟨nothing, by rw [← high, low, nothing]⟩
    · exact Or.inr ⟨low, fun high => low (alike.mp high)⟩
  · intro harmless
    cases harmless with
    | inl nothing => rw [nothing.1, nothing.2]
    | inr neither => exact ⟨fun high => absurd high neither.2, fun low => absurd low neither.1⟩

-- A missing filter is a wildcard on both sides.
theorem check_filter_agrees_iff (pev : VscpEvent) (filter : Option VscpEventFilter) :
    (checkFilter (filter.map sameFilter) (sameEvent pev) = filter.all (doLevel2Filter pev)) ↔
      ∀ given ∈ filter, RestPasses pev given →
        PlaceIsHarmless (field 5 3 pev.head.toNat) given.filterPriority.toNat given.maskPriority.toNat := by
  cases filter with
  | none => simp [checkFilter]
  | some given =>
      have three := field_lt 5 3 pev.head.toNat
      rw [Option.map_some, Option.all_some, Bool.eq_iff_iff, check_passes_iff, helper_passes_iff,
        masked_bits_agree_iff, masked_bits_agree_iff]
      constructor
      · intro alike asked same rest
        cases same
        refine (both_places_iff _ _ _ three).mp ?_
        constructor
        · exact fun high => (alike.mp ⟨rest, high⟩).2
        · exact fun low => (alike.mpr ⟨rest, low⟩).2
      · intro harmless
        have alike (rest : RestPasses pev given) := (both_places_iff _ _ _ three).mpr (harmless given rfl rest)
        constructor
        · exact fun passes => ⟨passes.1, (alike passes.1).mp passes.2⟩
        · exact fun passes => ⟨passes.1, (alike passes.1).mpr passes.2⟩

-- Priority 3 stands in the head as 0x60. The helper lets the event pass a filter for priority 3, the client does not.
theorem priority_three_refused :
    checkFilter (some (sameFilter { temperatureFilter with filterType := 6 })) (sameEvent temperatureEvent) = false ∧
      doLevel2Filter temperatureEvent { temperatureFilter with filterType := 6 } = true := by
  decide

end Vscp.Python
