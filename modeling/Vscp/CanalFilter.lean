import Vscp.Canal
import Vscp.EventFilter

set_option autoImplicit false

namespace Vscp

open BitField

def canalErrorSuccess : Int := 0
def canalErrorInitMissing : Int := 15
def canalErrorNotOpen : Int := 33

inductive DriverCall
  | setFilter (word : UInt32)
  | setMask (word : UInt32)
deriving DecidableEq

-- m_canalif, with what the two procedures of the driver answer.
structure CanalDevice where
  loaded : Bool
  openHandle : Int64
  procSetFilter : UInt32 → Int
  procSetMask : UInt32 → Int

-- CanalSetFilter and CanalSetMask differ in the procedure; a call the driver takes is recorded.
def callDriver (device : CanalDevice) (proc : UInt32 → Int) (call : UInt32 → DriverCall) (word : UInt32) :
    Int × List DriverCall :=
  if ¬ device.loaded then (canalErrorInitMissing, [])
  else if device.openHandle = 0 then (canalErrorNotOpen, [])
  else if proc word ≠ canalErrorSuccess then (proc word, [])
  else (canalErrorSuccess, [call word])

def canalSetFilter (device : CanalDevice) : UInt32 → Int × List DriverCall :=
  callDriver device device.procSetFilter .setFilter

def canalSetMask (device : CanalDevice) : UInt32 → Int × List DriverCall :=
  callDriver device device.procSetMask .setMask

def packedWord (priority : UInt8) (vscpClass vscpType : UInt16) (guid : Guid) : UInt32 :=
  (priority.toUInt64 <<< 26 ||| vscpClass.toUInt64 <<< 16 ||| vscpType.toUInt64 <<< 8 |||
    (getMSB guid).toUInt64).toUInt32

def filterWord (filter : VscpEventFilter) : UInt32 :=
  packedWord filter.filterPriority filter.filterClass filter.filterType filter.filterGuid

def maskWord (filter : VscpEventFilter) : UInt32 :=
  packedWord filter.maskPriority filter.maskClass filter.maskType filter.maskGuid

-- The test is the wrong way round: the mask is tried after a filter that was refused.
def setfilter (device : CanalDevice) (filter : VscpEventFilter) : Int × List DriverCall :=
  let (rv, calls) := canalSetFilter device (filterWord filter)
  if rv = canalErrorSuccess then (rv, calls)
  else
    let (rv, more) := canalSetMask device (maskWord filter)
    (rv, calls ++ more)

def driverPasses (filter mask : UInt32) (id : UInt32) : Bool := (id ^^^ filter) &&& mask == 0

-- No message whose event passes on priority, class and type is stopped by the driver.
def NothingLost (filter : VscpEventFilter) (word mask : UInt32) : Prop :=
  ∀ clock rawtime pev pcanalMsg pguid, pcanalMsg.id.toNat < 2 ^ 29 → pcanalMsg.sizeData ≤ 8 →
    doLevel2Filter (convertCanalToEvent clock rawtime pev pcanalMsg pguid).2
      { filter with maskGuid := Vector.replicate 16 0 } = true →
    driverPasses word mask pcanalMsg.id.toUInt32 = true

def SetsDriver (device : CanalDevice) (filter : VscpEventFilter) : Prop :=
  (setfilter device filter).1 = canalErrorSuccess →
    .setFilter (filterWord filter) ∈ (setfilter device filter).2 ∧
    .setMask (maskWord filter) ∈ (setfilter device filter).2 ∧
    NothingLost filter (filterWord filter) (maskWord filter)

-- A call to a device that is not there, not open, or whose driver refuses the word.
def Refuses (device : CanalDevice) (proc : UInt32 → Int) (word : UInt32) : Prop :=
  device.loaded = false ∨ device.openHandle = 0 ∨ proc word ≠ canalErrorSuccess

variable (device : CanalDevice) (proc : UInt32 → Int) (call : UInt32 → DriverCall) (word : UInt32)

theorem call_driver_refused (refused : Refuses device proc word) :
    ∃ rv, rv ≠ canalErrorSuccess ∧ callDriver device proc call word = (rv, []) := by
  unfold callDriver
  by_cases missing : device.loaded = false
  · exact ⟨canalErrorInitMissing, by decide, if_pos (by simpa using missing)⟩
  by_cases closed : device.openHandle = 0
  · exact ⟨canalErrorNotOpen, by decide, by rw [if_neg (by simpa using missing), if_pos closed]⟩
  have answered : proc word ≠ canalErrorSuccess := by
    rcases refused with unloaded | unopened | error
    · exact absurd unloaded missing
    · exact absurd unopened closed
    · exact error
  exact ⟨proc word, answered, by rw [if_neg (by simpa using missing), if_neg closed, if_pos answered]⟩

theorem call_driver_taken (taken : ¬ Refuses device proc word) : callDriver device proc call word = (canalErrorSuccess, [call word]) := by
  rw [Refuses, not_or, not_or, not_not] at taken
  obtain ⟨loaded, opened, answered⟩ := taken
  rw [callDriver, if_neg (by simpa using loaded), if_neg opened, if_neg (by simpa using answered)]

variable (filter : VscpEventFilter)

-- Success always means one call: the filter alone, or the mask alone after a filter that was refused.
theorem sets_driver_iff_refused :
    SetsDriver device filter ↔
      Refuses device device.procSetFilter (filterWord filter) ∧ Refuses device device.procSetMask (maskWord filter) := by
  by_cases first : Refuses device device.procSetFilter (filterWord filter)
  · obtain ⟨error, failed, refused⟩ := call_driver_refused device _ .setFilter _ first
    by_cases second : Refuses device device.procSetMask (maskWord filter)
    · obtain ⟨last, failedAgain, refusedAgain⟩ := call_driver_refused device _ .setMask _ second
      refine iff_of_true (fun success => absurd success ?_) ⟨first, second⟩
      simpa only [setfilter, canalSetFilter, canalSetMask, refused, refusedAgain, if_neg failed] using failedAgain
    · have taken := call_driver_taken device _ .setMask _ second
      have result : setfilter device filter = (canalErrorSuccess, [.setMask (maskWord filter)]) := by
        simp only [setfilter, canalSetFilter, canalSetMask, refused, taken, if_neg failed, List.nil_append]
      refine iff_of_false (fun sets => ?_) (fun both => second both.2)
      rw [SetsDriver, result] at sets
      simpa using (sets rfl).1
  · have taken := call_driver_taken device _ .setFilter _ first
    have result : setfilter device filter = (canalErrorSuccess, [.setFilter (filterWord filter)]) := by
      simp only [setfilter, canalSetFilter, taken, if_true]
    refine iff_of_false (fun sets => ?_) (fun both => first both.1)
    rw [SetsDriver, result] at sets
    simpa using (sets rfl).2.1

def idPart (priority : UInt8) (vscpClass vscpType : UInt16) (bit : Nat) : Bool :=
  if 26 ≤ bit ∧ bit < 29 then priority.toNat.testBit (bit - 26)
  else if 16 ≤ bit ∧ bit < 25 then vscpClass.toNat.testBit (bit - 16)
  else if 8 ≤ bit ∧ bit < 16 then vscpType.toNat.testBit (bit - 8)
  else false

def wantedBit (filter : VscpEventFilter) : Nat → Bool :=
  idPart filter.filterPriority filter.filterClass filter.filterType

def wantedMask (filter : VscpEventFilter) : Nat → Bool := idPart filter.maskPriority filter.maskClass filter.maskType

-- The filter asks nothing of bits that no field of an id has.
structure Satisfiable (filter : VscpEventFilter) : Prop where
  priority : ∀ bit, 3 ≤ bit → filter.maskPriority.toNat.testBit bit = true →
    filter.filterPriority.toNat.testBit bit = false
  vscpClass : ∀ bit, 9 ≤ bit → filter.maskClass.toNat.testBit bit = true →
    filter.filterClass.toNat.testBit bit = false
  vscpType : ∀ bit, 8 ≤ bit → filter.maskType.toNat.testBit bit = true →
    filter.filterType.toNat.testBit bit = false

structure WordsFit (filter : VscpEventFilter) : Prop where
  mask : ∀ bit < 29, (maskWord filter).toNat.testBit bit = true → wantedMask filter bit = true
  filter : ∀ bit, (maskWord filter).toNat.testBit bit = true →
    (filterWord filter).toNat.testBit bit = wantedBit filter bit

theorem driver_passes_iff (filter mask id : UInt32) :
    driverPasses filter mask id = true ↔ MaskedBitsAgree filter.toNat id.toNat mask.toNat := by
  rw [driverPasses, beq_iff_eq, ← UInt32.toNat_inj, UInt32.toNat_and, UInt32.toNat_xor]
  constructor
  · intro clear bit counts
    have zero := congrArg (fun word => Nat.testBit word bit) clear
    simp only [Nat.testBit_and, Nat.testBit_xor, counts, Bool.and_true, UInt32.toNat_zero, Nat.zero_testBit,
      bne_eq_false_iff_eq] at zero
    exact zero.symm
  · intro agree
    apply Nat.eq_of_testBit_eq
    intro bit
    rw [Nat.testBit_and, Nat.testBit_xor, UInt32.toNat_zero, Nat.zero_testBit]
    cases counts : mask.toNat.testBit bit with
    | false => rw [Bool.and_false]
    | true => simp [agree bit counts]

theorem masked_field_iff (offset width wanted word mask : Nat) :
    MaskedBitsAgree wanted (field offset width word) mask ↔
      (∀ bit, width ≤ bit → mask.testBit bit = true → wanted.testBit bit = false) ∧
      ∀ bit, offset ≤ bit → bit < offset + width → mask.testBit (bit - offset) = true →
        wanted.testBit (bit - offset) = word.testBit bit := by
  constructor
  · intro agree
    constructor
    · intro bit above counts
      rw [agree bit counts, field_bit, decide_eq_false (by omega), Bool.false_and]
    · intro bit low high counts
      rw [agree _ counts, field_bit, decide_eq_true (by omega), Bool.true_and, Nat.add_sub_cancel' low]
  · rintro ⟨above, inside⟩ bit counts
    rw [field_bit]
    by_cases small : bit < width
    · have here := inside (offset + bit) (by omega) (by omega)
      rw [Nat.add_sub_cancel_left] at here
      rw [here counts, decide_eq_true small, Bool.true_and]
    · rw [above bit (by omega) counts, decide_eq_false small, Bool.false_and]

def messageOf (id : Nat) : CanalMsg := ⟨canalIdFlagExtended, 0, UInt64.ofNat id, 0, Vector.replicate 8 0, 0⟩

theorem message_id (id : Nat) (small : id < 2 ^ 29) : (messageOf id).id.toNat = id := by
  rw [messageOf, UInt64.toNat_ofNat', Nat.mod_eq_of_lt (by omega)]

theorem wanted_message_iff (clock : Clock) (rawtime : UInt64) (pev : VscpEvent) (pcanalMsg : CanalMsg) (pguid : Guid)
    (filter : VscpEventFilter) (small : pcanalMsg.id.toNat < 2 ^ 29) (size : pcanalMsg.sizeData ≤ 8) :
    doLevel2Filter (convertCanalToEvent clock rawtime pev pcanalMsg pguid).2
      { filter with maskGuid := Vector.replicate 16 0 } = true ↔
    Satisfiable filter ∧
      ∀ bit, wantedMask filter bit = true → wantedBit filter bit = pcanalMsg.id.toNat.testBit bit := by
  obtain ⟨ev, converted, carries⟩ := canal_to_event_reads clock rawtime pev pcanalMsg pguid (by omega) size
  have priorityBelow := field_lt 26 3 pcanalMsg.id.toNat
  have hardBelow := field_lt 25 1 pcanalMsg.id.toNat
  have priority : field 5 3 ev.head.toNat = field 26 3 pcanalMsg.id.toNat := by
    rw [field, carries.head]
    omega
  have anyGuid (i : Fin 16) : MaskedBitsAgree (filter.filterGuid.get i).toNat (ev.guid.get i).toNat
      ((Vector.replicate 16 (0 : UInt8)).get i).toNat := by
    intro bit counts
    simp [Vector.get] at counts
  rw [converted, filter_passes_iff]
  constructor
  · rintro ⟨priorityPasses, classPasses, typePasses, _⟩
    rw [priority, masked_field_iff] at priorityPasses
    rw [carries.vscpClass, masked_field_iff] at classPasses
    rw [carries.vscpType, masked_field_iff] at typePasses
    refine ⟨⟨priorityPasses.1, classPasses.1, typePasses.1⟩, ?_⟩
    intro bit counts
    unfold wantedMask idPart at counts
    unfold wantedBit idPart
    split_ifs at counts ⊢ with high middle low
    · exact priorityPasses.2 bit high.1 (by omega) counts
    · exact classPasses.2 bit middle.1 (by omega) counts
    · exact typePasses.2 bit low.1 (by omega) counts
  · rintro ⟨satisfiable, inside⟩
    refine ⟨?_, ?_, ?_, anyGuid⟩
    · rw [priority, masked_field_iff]
      refine ⟨satisfiable.priority, fun bit low high counts => ?_⟩
      have place : 26 ≤ bit ∧ bit < 29 := by omega
      have here := inside bit
      simp only [wantedMask, wantedBit, idPart, if_pos place] at here
      exact here counts
    · rw [carries.vscpClass, masked_field_iff]
      refine ⟨satisfiable.vscpClass, fun bit low high counts => ?_⟩
      have notHigh : ¬ (26 ≤ bit ∧ bit < 29) := by omega
      have place : 16 ≤ bit ∧ bit < 25 := by omega
      have here := inside bit
      simp only [wantedMask, wantedBit, idPart, if_neg notHigh, if_pos place] at here
      exact here counts
    · rw [carries.vscpType, masked_field_iff]
      refine ⟨satisfiable.vscpType, fun bit low high counts => ?_⟩
      have notHigh : ¬ (26 ≤ bit ∧ bit < 29) := by omega
      have notMiddle : ¬ (16 ≤ bit ∧ bit < 25) := by omega
      have place : 8 ≤ bit ∧ bit < 16 := by omega
      have here := inside bit
      simp only [wantedMask, wantedBit, idPart, if_neg notHigh, if_neg notMiddle, if_pos place] at here
      exact here counts

def wantedId (filter : VscpEventFilter) : Nat :=
  (filter.filterPriority.toNat % 2 ^ 3) <<< 26 ||| (filter.filterClass.toNat % 2 ^ 9) <<< 16 |||
    (filter.filterType.toNat % 2 ^ 8) <<< 8

variable (bit : Nat)

theorem wanted_id_bit : (wantedId filter).testBit bit = wantedBit filter bit := by
  simp only [wantedId, wantedBit, idPart, Nat.testBit_or, Nat.testBit_shiftLeft, Nat.testBit_mod_two_pow, ge_iff_le]
  split_ifs with high middle low
  · simp [show 16 ≤ bit by omega, show 8 ≤ bit by omega, show 26 ≤ bit by omega, show bit - 26 < 3 by omega,
      show ¬ bit - 16 < 9 by omega, show ¬ bit - 8 < 8 by omega]
  · simp [show 16 ≤ bit by omega, show 8 ≤ bit by omega, show ¬ 26 ≤ bit by omega, show bit - 16 < 9 by omega,
      show ¬ bit - 8 < 8 by omega]
  · simp [show ¬ 16 ≤ bit by omega, show 8 ≤ bit by omega, show ¬ 26 ≤ bit by omega, show bit - 8 < 8 by omega]
  · by_cases top : 26 ≤ bit
    · simp [show ¬ bit - 26 < 3 by omega, show ¬ bit - 16 < 9 by omega, show ¬ bit - 8 < 8 by omega]
    · simp [top]
      omega

theorem wanted_bits_below (above : 29 ≤ bit) : wantedBit filter bit = false := by
  rw [wantedBit, idPart, if_neg (by omega), if_neg (by omega), if_neg (by omega)]

theorem nothing_lost_iff :
    NothingLost filter (filterWord filter) (maskWord filter) ↔ (Satisfiable filter → WordsFit filter) := by
  have reads (id : UInt64) (small : id.toNat < 2 ^ 29) : id.toUInt32.toNat = id.toNat := by
    rw [UInt64.toNat_toUInt32, Nat.mod_eq_of_lt (by omega)]
  constructor
  · intro lost satisfiable
    have meets (id : Nat) (small : id < 2 ^ 29)
        (wanted : ∀ bit, wantedMask filter bit = true → wantedBit filter bit = id.testBit bit) :
        MaskedBitsAgree (filterWord filter).toNat id (maskWord filter).toNat := by
      have message := message_id id small
      have none : (messageOf id).sizeData ≤ 8 := show (0 : UInt8) ≤ 8 by decide
      have passes := lost exampleClock 0 temperatureEvent (messageOf id) (Vector.replicate 16 0) (by rwa [message])
        none ((wanted_message_iff _ _ _ _ _ filter (by rwa [message]) none).mpr ⟨satisfiable, by rwa [message]⟩)
      rwa [driver_passes_iff, reads _ (by rwa [message]), message] at passes
    have small : wantedId filter < 2 ^ 29 := Nat.lt_pow_two_of_testBit _ fun bit above => by
      rw [wanted_id_bit, wanted_bits_below filter bit above]
    have first := meets (wantedId filter) small fun bit _ => (wanted_id_bit filter bit).symm
    constructor
    · intro bit inside counts
      cases asked : wantedMask filter bit with
      | true => rfl
      | false =>
          -- The filter leaves the bit open, so the other value of it must pass too.
          have flipped : wantedId filter ^^^ 2 ^ bit < 2 ^ 29 :=
            Nat.xor_lt_two_pow small (Nat.pow_lt_pow_right (by decide) inside)
          have other := meets (wantedId filter ^^^ 2 ^ bit) flipped (by
            intro place placeAsked
            have differs : bit ≠ place := by
              rintro rfl
              rw [asked] at placeAsked
              cases placeAsked
            rw [Nat.testBit_xor, wanted_id_bit, Nat.testBit_two_pow_of_ne differs, Bool.xor_false])
          have one := first bit counts
          have two := other bit counts
          rw [Nat.testBit_xor, Nat.testBit_two_pow_self, ← one] at two
          simp at two
    · intro bit counts
      rw [first bit counts, wanted_id_bit]
  · intro fit clock rawtime pev pcanalMsg pguid small size passes
    obtain ⟨satisfiable, wanted⟩ := (wanted_message_iff clock rawtime pev pcanalMsg pguid filter small size).mp passes
    obtain ⟨mask, filterBits⟩ := fit satisfiable
    rw [driver_passes_iff, reads _ small]
    intro bit counts
    rw [filterBits bit counts]
    by_cases inside : bit < 29
    · exact wanted bit (mask bit inside counts)
    · have clear : pcanalMsg.id.toNat.testBit bit = false := Nat.testBit_lt_two_pow
        (Nat.lt_of_lt_of_le small (Nat.pow_le_pow_right (by decide) (by omega)))
      rw [wanted_bits_below filter bit (by omega), clear]

-- The call keeps its word on a device that refuses both words only; the two words
-- would do for a filter whose parts fit their fields and that asks nothing of GUID byte 0.
theorem setfilter_sound_iff (device : CanalDevice) (filter : VscpEventFilter) :
    (SetsDriver device filter ↔
      Refuses device device.procSetFilter (filterWord filter) ∧
        Refuses device device.procSetMask (maskWord filter)) ∧
    (NothingLost filter (filterWord filter) (maskWord filter) ↔ (Satisfiable filter → WordsFit filter)) :=
  ⟨sets_driver_iff_refused device filter, nothing_lost_iff filter⟩

def obligingDevice : CanalDevice := ⟨true, 1, fun _ => canalErrorSuccess, fun _ => canalErrorSuccess⟩

-- The driver takes the filter, and the mask is never given to it.
theorem mask_never_set :
    setfilter obligingDevice temperatureFilter = (canalErrorSuccess, [.setFilter (filterWord temperatureFilter)]) ∧
    ¬ SetsDriver obligingDevice temperatureFilter := by
  have result : setfilter obligingDevice temperatureFilter =
      (canalErrorSuccess, [.setFilter (filterWord temperatureFilter)]) := rfl
  refine ⟨result, fun sets => ?_⟩
  rw [SetsDriver, result] at sets
  simpa using (sets rfl).2.1

end Vscp
