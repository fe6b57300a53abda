import Vscp.Canal

set_option autoImplicit false

namespace Vscp

-- A negative count would be handed to memmove as a huge one.
def MoveDefined (pev : VscpEvent) : Prop := mirrorsLevel1 pev = true → 0 ≤ (canalSize pev).toInt

-- memcpy is told msg.sizeData, and data has room for eight bytes.
def Repeatable (pcanalMsg : CanalMsg) (pev : VscpEvent) : Prop :=
  ∀ msg after, convertEventToCanal pcanalMsg pev = some (msg, after) →
    MoveDefined pev ∧ msg.sizeData ≤ 8 ∧ after = pev ∧ convertEventToCanal pcanalMsg after = some (msg, after)

-- A size from 32768 on is negative as a short, and its low byte is what is copied.
def CopyFits (pev : VscpEvent) : Prop := pev.sizeData.toNat < 2 ^ 15 ∨ pev.sizeData.toNat % 256 ≤ 8

structure Shifted (pev : VscpEvent) : Prop where
  size : pev.sizeData.toNat < 2 ^ 15 + 16
  same : ∀ i < pev.sizeData.toNat - 16, (pev.pdata.getD []).getD i 0 = (pev.pdata.getD []).getD (i + 16) 0

theorem moved_down_same_iff (data : Bytes) (count : Nat) (fits : count ≤ data.length) :
    moveDown data count = data ↔ ∀ i < count, data.getD i 0 = data.getD (i + 16) 0 := by
  have length : (moveDown data count).length = data.length := by
    rw [moveDown, List.length_append, List.length_map, List.length_range, List.length_drop]
    omega
  constructor
  · intro same i inside
    rw [← moved_down_byte data count i inside, same]
  · intro same
    apply List.ext_getElem length
    intro i left right
    by_cases inside : i < count
    · have moved := moved_down_byte data count i inside
      rw [← same i inside, List.getD_eq_getElem _ _ left, List.getD_eq_getElem _ _ right] at moved
      exact moved
    · have behind : ((List.range count).map fun i => data.getD (i + 16) 0).length ≤ i := by
        rw [List.length_map, List.length_range]
        omega
      simp only [moveDown]
      rw [List.getElem_append_right behind, List.getElem_drop]
      congr 1
      rw [List.length_map, List.length_range]
      omega

variable (pev : VscpEvent)

theorem mirrored_count (mirror : mirrorsLevel1 pev = true)
    (size : pev.sizeData.toNat < 2 ^ 15 + 16) : (canalSize pev).toInt = ((pev.sizeData.toNat - 16 : Nat) : Int) := by
  have long := mirrored_long pev mirror
  have less : (pev.sizeData - 16).toNat = pev.sizeData.toNat - 16 :=
    UInt16.toNat_sub_of_le _ _ (UInt16.le_iff_toNat_le.mpr long)
  rw [canalSize, if_pos mirror, short_value _ (by omega), less]

theorem mirrored_count_negative (mirror : mirrorsLevel1 pev = true)
    (size : 2 ^ 15 + 16 ≤ pev.sizeData.toNat) : (canalSize pev).toInt < 0 := by
  have long := mirrored_long pev mirror
  have less : (pev.sizeData - 16).toNat = pev.sizeData.toNat - 16 :=
    UInt16.toNat_sub_of_le _ _ (UInt16.le_iff_toNat_le.mpr long)
  have bound := pev.sizeData.toNat_lt
  have value : (pev.sizeData - 16).toInt16.toInt = ((pev.sizeData - 16).toNat : Int).bmod (2 ^ 16) :=
    BitVec.toInt_eq_toNat_bmod _
  rw [canalSize, if_pos mirror, value, less, Int.bmod_def]
  omega

theorem mirrored_data_same_iff (holds : (pev.pdata.getD []).length = pev.sizeData.toNat)
    (mirror : mirrorsLevel1 pev = true) (size : pev.sizeData.toNat < 2 ^ 15 + 16) :
    canalData pev = pev.pdata ↔ Shifted pev := by
  have long := mirrored_long pev mirror
  have value := mirrored_count pev mirror size
  obtain ⟨data, held⟩ : ∃ data, pev.pdata = some data := by
    cases held : pev.pdata with
    | none =>
        rw [held] at holds
        have empty : 0 = pev.sizeData.toNat := holds
        omega
    | some data => exact ⟨data, rfl⟩
  have length : data.length = pev.sizeData.toNat := by rw [← holds, held, Option.getD_some]
  have count : (canalSize pev).toNatClampNeg = pev.sizeData.toNat - 16 := by
    rw [Int16.toNatClampNeg, value, Int.toNat_natCast]
  have shifted : Shifted pev ↔ ∀ i < pev.sizeData.toNat - 16, data.getD i 0 = data.getD (i + 16) 0 := by
    constructor
    · intro same
      simpa only [held, Option.getD_some] using same.same
    · intro same
      exact ⟨size, by simpa only [held, Option.getD_some] using same⟩
  rw [shifted]
  by_cases moves : canalSize pev = 0
  · have none : pev.sizeData.toNat - 16 = 0 := by
      rw [moves] at value
      have zero : ((pev.sizeData.toNat - 16 : Nat) : Int) = 0 := value.symm
      omega
    rw [canalData, if_neg fun both => both.2 moves, none]
    exact iff_of_true rfl fun i inside => absurd inside (Nat.not_lt_zero i)
  · rw [canalData, if_pos ⟨mirror, moves⟩, held, Option.map_some, Option.some.injEq, count]
    exact moved_down_same_iff data _ (by omega)

theorem message_size_cut (counted : 0 ≤ (canalSize pev).toInt) :
    (if canalSize pev ≤ 8 then (canalSize pev).toUInt16.toUInt8 else 8) ≤ 8 := by
  split
  · rename_i small
    have bound : (canalSize pev).toInt ≤ 8 := Int16.le_iff_toInt_le.mp small
    have value : (canalSize pev).toUInt16.toNat = (canalSize pev).toInt.toNat := by
      rw [Int16.toNat_toUInt16_of_le (Int16.le_iff_toInt_le.mpr counted), Int16.toNat_toInt]
    apply UInt8.le_iff_toNat_le.mpr
    rw [UInt16.toNat_toUInt8, value]
    have eight : (8 : UInt8).toNat = 8 := rfl
    omega
  · exact UInt8.le_refl 8

theorem plain_size_fits_iff (plain : mirrorsLevel1 pev = false) :
    (if canalSize pev ≤ 8 then (canalSize pev).toUInt16.toUInt8 else 8) ≤ 8 ↔ CopyFits pev := by
  have size : canalSize pev = pev.sizeData.toInt16 := by
    rw [canalSize, if_neg]
    rw [plain]
    exact Bool.false_ne_true
  by_cases short : pev.sizeData.toNat < 2 ^ 15
  · refine iff_of_true (message_size_cut pev ?_) (.inl short)
    rw [size, short_value pev.sizeData short]
    exact Int.natCast_nonneg _
  · have negative : canalSize pev ≤ 8 := by
      have bound := pev.sizeData.toNat_lt
      have value : pev.sizeData.toInt16.toInt = (pev.sizeData.toNat : Int).bmod (2 ^ 16) :=
        BitVec.toInt_eq_toNat_bmod _
      have eight : (8 : Int16).toInt = 8 := rfl
      apply Int16.le_iff_toInt_le.mpr
      rw [size, value, eight, Int.bmod_def]
      omega
    have low : (canalSize pev).toUInt16.toUInt8.toNat = pev.sizeData.toNat % 256 := by
      rw [size, UInt16.toUInt16_toInt16, UInt16.toNat_toUInt8]
    rw [if_pos negative, UInt8.le_iff_toNat_le, low]
    exact (or_iff_right short).symm

theorem conversion_repeatable_iff (pcanalMsg : CanalMsg) (pev : VscpEvent)
    (holds : (pev.pdata.getD []).length = pev.sizeData.toNat) :
    Repeatable pcanalMsg pev ↔
      (mirrorsLevel1 pev = false ∧ CopyFits pev) ∨ (mirrorsLevel1 pev = true ∧ Shifted pev) := by
  have present : ¬ (pev.sizeData ≠ 0 ∧ pev.pdata = none) := by
    rintro ⟨size, none⟩
    rw [none] at holds
    exact size (UInt16.toNat_inj.mp holds.symm)
  obtain ⟨msg, converted, size⟩ : ∃ msg,
      convertEventToCanal pcanalMsg pev = some (msg, { pev with pdata := canalData pev }) ∧
      msg.sizeData = if canalSize pev ≤ 8 then (canalSize pev).toUInt16.toUInt8 else 8 := by
    rw [convertEventToCanal, if_neg present]
    exact ⟨_, rfl, rfl⟩
  -- A conversion that leaves the data alone gives the same message again.
  have again (same : canalData pev = pev.pdata) (moves : MoveDefined pev) (fits : msg.sizeData ≤ 8) :
      Repeatable pcanalMsg pev := by
    intro out after result
    rw [same] at converted
    rw [converted] at result
    cases result
    exact ⟨moves, fits, rfl, converted⟩
  cases mirror : mirrorsLevel1 pev with
  | false =>
      have same : canalData pev = pev.pdata := by
        rw [canalData, if_neg fun both => by rw [mirror] at both; cases both.1]
      have fits := plain_size_fits_iff pev mirror
      rw [← size] at fits
      constructor
      · intro repeatable
        exact .inl ⟨rfl, fits.mp (repeatable _ _ converted).2.1⟩
      · rintro (plain | mirrored)
        · exact again same (fun mirrors => by rw [mirror] at mirrors; cases mirrors) (fits.mpr plain.2)
        · cases mirrored.1
  | true =>
      by_cases short : pev.sizeData.toNat < 2 ^ 15 + 16
      · have dataSame := mirrored_data_same_iff pev holds mirror short
        have counted : 0 ≤ (canalSize pev).toInt := by
          rw [mirrored_count pev mirror short]
          exact Int.natCast_nonneg _
        constructor
        · intro repeatable
          obtain ⟨-, -, same, -⟩ := repeatable _ _ converted
          exact .inr ⟨rfl, dataSame.mp (congrArg VscpEvent.pdata same)⟩
        · rintro (plain | mirrored)
          · cases plain.1
          · refine again (dataSame.mpr mirrored.2) (fun _ => counted) ?_
            rw [size]
            exact message_size_cut pev counted
      · refine iff_of_false (fun repeatable => ?_) ?_
        · have negative := mirrored_count_negative pev mirror (by omega)
          have nonneg := (repeatable _ _ converted).1 mirror
          omega
        · rintro (plain | mirrored)
          · cases plain.1
          · exact short mirrored.2.size

def longEvent : VscpEvent :=
  { mirroredEvent with
    sizeData := 40
    pdata := some (List.replicate 16 0 ++ [1, 2, 3, 4, 5, 6, 7, 8] ++ List.replicate 8 9 ++
      [17, 18, 19, 20, 21, 22, 23, 24]) }

theorem conversion_repeatable_iff_long :
    Repeatable blankMsg longEvent ↔
      (mirrorsLevel1 longEvent = false ∧ CopyFits longEvent) ∨
        (mirrorsLevel1 longEvent = true ∧ Shifted longEvent) :=
  conversion_repeatable_iff blankMsg longEvent (by decide)

-- The data has moved, and the second message carries bytes the first one did not.
theorem long_event_sent_differently :
    ∃ first after second later, convertEventToCanal blankMsg longEvent = some (first, after) ∧
      convertEventToCanal blankMsg after = some (second, later) ∧ after ≠ longEvent ∧
      first.data = #v[1, 2, 3, 4, 5, 6, 7, 8] ∧ second.data = #v[17, 18, 19, 20, 21, 22, 23, 24] := by
  refine ⟨_, _, _, _, rfl, rfl, fun same => ?_, by decide, by decide⟩
  have data : (canalData longEvent).getD [] = longEvent.pdata.getD [] :=
    congrArg (fun event : VscpEvent => event.pdata.getD []) same
  exact absurd data (by decide)

end Vscp
