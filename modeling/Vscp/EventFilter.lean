import Vscp.Event
import Vscp.Lib.BitField

set_option autoImplicit false

namespace Vscp

open BitField

def getEventExPriority (pev : VscpEventEx) : UInt8 := ((pev.head >>> 5) &&& 0x07).toUInt8

def doLevel2FilterEx (pex : VscpEventEx) (filter : VscpEventFilter) : Bool :=
  ~~~(filter.filterClass ^^^ pex.vscpClass) ||| ~~~filter.maskClass == 0xffff &&
  ~~~(filter.filterType ^^^ pex.vscpType) ||| ~~~filter.maskType == 0xffff &&
  ((List.finRange 16).all fun i =>
    ~~~(filter.filterGuid.get i ^^^ pex.guid.get i) ||| ~~~(filter.maskGuid.get i) == 0xff) &&
  ~~~(filter.filterPriority ^^^ getEventExPriority pex) ||| ~~~filter.maskPriority == 0xff

def MaskedBitsAgree (wanted found mask : Nat) : Prop :=
  ∀ bit, mask.testBit bit = true → wanted.testBit bit = found.testBit bit

-- What a filter asks of an event, field by field; the priority is three bits of the head.
structure Passes (pev : VscpEvent) (filter : VscpEventFilter) : Prop where
  priority : MaskedBitsAgree filter.filterPriority.toNat (field 5 3 pev.head.toNat) filter.maskPriority.toNat
  vscpClass : MaskedBitsAgree filter.filterClass.toNat pev.vscpClass.toNat filter.maskClass.toNat
  vscpType : MaskedBitsAgree filter.filterType.toNat pev.vscpType.toNat filter.maskType.toNat
  guid : ∀ i : Fin 16,
    MaskedBitsAgree (filter.filterGuid.get i).toNat (pev.guid.get i).toNat (filter.maskGuid.get i).toNat

theorem masked_word_iff (wanted found mask : UInt16) :
    ~~~(wanted ^^^ found) ||| ~~~mask = 0xffff ↔ MaskedBitsAgree wanted.toNat found.toNat mask.toNat := by
  rw [← UInt16.toBitVec_inj]
  exact masked_equal_iff wanted.toBitVec found.toBitVec mask.toBitVec

theorem masked_byte_iff (wanted found mask : UInt8) :
    ~~~(wanted ^^^ found) ||| ~~~mask = 0xff ↔ MaskedBitsAgree wanted.toNat found.toNat mask.toNat := by
  rw [← UInt8.toBitVec_inj]
  exact masked_equal_iff wanted.toBitVec found.toBitVec mask.toBitVec

theorem event_priority_field (pev : VscpEvent) : (getEventPriority pev).toNat = field 5 3 pev.head.toNat := by
  have below := field_lt 5 3 pev.head.toNat
  have value : ((pev.head >>> (5 : UInt16)) &&& 0x07).toNat = field 5 3 pev.head.toNat :=
    shift_mask_field 5 3 pev.head.toNat
  rw [getEventPriority, UInt16.toNat_toUInt8, value]
  exact Nat.mod_eq_of_lt (by omega)

theorem filter_passes_iff (pev : VscpEvent) (filter : VscpEventFilter) :
    doLevel2Filter pev filter = true ↔ Passes pev filter := by
  simp only [doLevel2Filter, Bool.and_eq_true, List.all_eq_true, beq_iff_eq, masked_word_iff, masked_byte_iff,
    event_priority_field]
  constructor
  · rintro ⟨⟨⟨vscpClass, vscpType⟩, guid⟩, priority⟩
    exact ⟨priority, vscpClass, vscpType, fun i => guid i (List.mem_finRange i)⟩
  · intro passes
    exact ⟨⟨⟨passes.vscpClass, passes.vscpType⟩, fun i _ => passes.guid i⟩, passes.priority⟩

theorem image_filtered_alike (pex image : VscpEventEx) (pev : VscpEvent) (filter : VscpEventFilter)
    (converted : convertEventToEventEx pex pev = some image) :
    doLevel2FilterEx image filter = doLevel2Filter pev filter := by
  unfold convertEventToEventEx at converted
  split at converted
  · cases converted
  · cases converted
    rfl

theorem filters_agree (pev : VscpEvent) (filter : VscpEventFilter) :
    (doLevel2Filter pev filter = true ↔ Passes pev filter) ∧
    (∀ pex image, convertEventToEventEx pex pev = some image →
      doLevel2FilterEx image filter = doLevel2Filter pev filter) :=
  ⟨filter_passes_iff pev filter, fun pex image converted => image_filtered_alike pex image pev filter converted⟩

def temperatureEvent : VscpEvent :=
  ⟨0x0160, 0, 0xffff, 0xff, 1, 10, 6, Vector.replicate 16 0xfe, 2, some [0x89, 0x17], 0⟩

def temperatureFilter : VscpEventFilter :=
  ⟨3, 7, 10, 0xffff, 0, 0, Vector.replicate 16 0xff, Vector.replicate 16 0xf0⟩

theorem filters_agree_example :
    (doLevel2Filter temperatureEvent temperatureFilter = true ↔ Passes temperatureEvent temperatureFilter) ∧
    ∃ image, convertEventToEventEx emptyEventEx temperatureEvent = some image ∧
      doLevel2FilterEx image temperatureFilter = doLevel2Filter temperatureEvent temperatureFilter := by
  obtain ⟨matched, alike⟩ := filters_agree temperatureEvent temperatureFilter
  exact ⟨matched, _, rfl, alike emptyEventEx _ rfl⟩

example : doLevel2Filter temperatureEvent temperatureFilter = true := by decide

end Vscp
