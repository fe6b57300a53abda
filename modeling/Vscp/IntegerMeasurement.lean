import Vscp.Measurement

set_option autoImplicit false

namespace Vscp

open ByteNumber

def datacodingInteger : UInt8 := 0x60

def datacodingUnit (byte : UInt8) : UInt8 := (0x18 &&& byte) >>> 3
def datacodingIndex (byte : UInt8) : UInt8 := 0x07 &&& byte

def measurementCoding (unit sensoridx : UInt8) : UInt8 := datacodingInteger + (unit <<< 3) + sensoridx

def integerSize (value : Int64) : Option UInt16 :=
  let unsigned := value.toUInt64
  if unsigned ≤ 0xff then some 2
  else if unsigned ≤ 0xffff then some 3
  else if unsigned ≤ 0xffffff then some 4
  else if unsigned ≤ 0xffffffff then some 5
  else if unsigned ≤ 0xffffffffff then some 6
  else if unsigned ≤ 0xffffffffffff then some 7
  else if unsigned ≤ 0xffffffffffffff then some 8
  else none

def integerBytes (value : Int64) (size : UInt16) : Bytes := numberBytes (size.toNat - 1) value.toUInt64.toNat

def clearData (pev : VscpEvent) : VscpEvent :=
  if pev.pdata ≠ none then { pev with pdata := none, sizeData := 0 } else pev

-- `memory` is what `new` leaves in front of the data of a class with a GUID.
def makeIntegerMeasurementEvent (memory : Guid) (pev : VscpEvent) (value : Int64) (unit sensoridx : UInt8) :
    Bool × VscpEvent :=
  let pev := clearData pev
  match integerSize value with
  | none => (false, pev)
  | some size =>
      let pev := { pev with sizeData := size }
      let data := measurementCoding unit sensoridx :: integerBytes value size
      if pev.vscpClass = class1Measurement then (true, { pev with pdata := some data })
      else if pev.vscpClass = class2Level1Measurement then (true, { pev with pdata := some (memory.toList ++ data) })
      else (false, pev)

def storeBytes (data : Vector UInt8 512) (start : Nat) (bytes : Bytes) : Vector UInt8 512 :=
  Vector.ofFn fun i =>
    if start ≤ i.val ∧ i.val < start + bytes.length then bytes.getD (i.val - start) 0 else data.get i

-- The coding byte and a single byte of value are stored without the offset.
def makeIntegerMeasurementEventEx (pex : VscpEventEx) (value : Int64) (unit sensoridx : UInt8) : Bool × VscpEventEx :=
  if pex.vscpClass ≠ class1Measurement ∧ pex.vscpClass ≠ class2Level1Measurement then (false, pex)
  else
    let offset := if pex.vscpClass = class1Measurement then 0 else 16
    let data := storeBytes pex.data 0 [measurementCoding unit sensoridx]
    match integerSize value with
    | none => (false, { pex with data := data })
    | some size =>
        let start := if size = 2 then 1 else 1 + offset
        (true, { pex with data := storeBytes data start (integerBytes value size), sizeData := size })

def codingOffset (vscpClass : UInt16) : Nat := if vscpClass = class2Level1Measurement then 16 else 0

structure Carries (data : Bytes) (value : Int64) (unit sensoridx : UInt8) : Prop where
  coding : ∃ byte rest, data = byte :: rest ∧ datacodingUnit byte = unit ∧ datacodingIndex byte = sensoridx
  decoded : getDataCodingInteger data data.length.toUInt8 = value

def Delivers (answer : Bool × VscpEvent) (value : Int64) (unit sensoridx : UInt8) : Prop :=
  answer.1 = true ∧ Carries (answer.2.dataBytes.drop (codingOffset answer.2.vscpClass)) value unit sensoridx

def DeliversEx (answer : Bool × VscpEventEx) (value : Int64) (unit sensoridx : UInt8) : Prop :=
  answer.1 = true ∧ Carries ((answer.2.data.toList.take answer.2.sizeData.toNat).drop (codingOffset answer.2.vscpClass))
    value unit sensoridx

def SameBothWays (value : Int64) : Prop :=
  ∃ size, integerSize value = some size ∧ (integerBytes value size).reverse = integerBytes value size ∧
    (integerBytes value size).getD 0 0 &&& 0x80 = 0

section decoding

theorem shift_eight (value : Int64) : value <<< 8 = value * 256 := by
  apply Int64.toBitVec_inj.mp
  exact BitVec.shiftLeft_eq_mul_twoPow _ _

variable (start : Int)

theorem shift_in_value (byte : UInt8) :
    shiftIn (Int64.ofInt start) byte = Int64.ofInt (start * 256 + byte.toNat) := by
  have number : byte.toUInt64.toInt64 = Int64.ofInt byte.toNat := by
    have bound := byte.toNat_lt
    have wide : byte.toUInt64.toBitVec.toNat = byte.toNat := UInt8.toNat_toUInt64 byte
    apply Int64.toInt_inj.mp
    rw [Int64.toInt_ofInt_of_le (by omega) (by omega)]
    change byte.toUInt64.toBitVec.toInt = _
    rw [BitVec.toInt_eq_toNat_bmod, wide]
    exact Int.bmod_eq_of_le (by omega) (by omega)
  have scale : (256 : Int64) = Int64.ofInt 256 := rfl
  rw [shiftIn, shift_eight, number, scale, ← Int64.ofInt_mul, ← Int64.ofInt_add]

variable (coding : UInt8) (bytes : Bytes)

theorem decoded_fold :
    bytes.foldl shiftIn (Int64.ofInt start) = Int64.ofInt (start * 256 ^ bytes.length + bigNumber bytes) := by
  induction bytes generalizing start with
  | nil => rw [List.length_nil, pow_zero, mul_one]; exact congrArg Int64.ofInt (add_zero start).symm
  | cons byte rest ih =>
      rw [List.foldl_cons, shift_in_value, ih, big_number_cons, List.length_cons]
      congr 1
      push_cast
      ring

theorem decoded_loop (start : Int64) :
    (List.range' 1 bytes.length).foldl (fun value64 i => shiftIn value64 ((coding :: bytes).getD i 0)) start =
      bytes.foldl shiftIn start := by
  have places : (List.range' 1 bytes.length).map (fun i => (coding :: bytes).getD i 0) = bytes := by
    apply List.ext_getElem
    · rw [List.length_map, List.length_range']
    · intro i left right
      rw [List.getElem_map, List.getElem_range', Nat.one_mul, Nat.add_comm, List.getD_cons_succ,
        List.getD_eq_getElem _ _ right]
  conv_rhs => rw [← places]
  rw [List.foldl_map]

theorem decoded_integer (some : bytes ≠ []) (few : bytes.length ≤ 7) :
    (getDataCodingInteger (coding :: bytes) (coding :: bytes).length.toUInt8).toInt =
      bigNumber bytes - if bytes.getD 0 0 &&& 0x80 ≠ 0 then 256 ^ bytes.length else 0 := by
  have positive := List.length_pos_of_ne_nil some
  have length : ((coding :: bytes).length.toUInt8).toNat = bytes.length + 1 := by
    rw [List.length_cons]
    exact Nat.mod_eq_of_lt (by omega)
  have enough : ¬ (coding :: bytes).length.toUInt8 < 2 := by
    rw [UInt8.lt_iff_toNat_lt, length]
    change ¬ bytes.length + 1 < 2
    omega
  have bound := big_number_bound bytes
  have most : 256 ^ bytes.length ≤ 256 ^ 7 := Nat.pow_le_pow_right (by decide) few
  have low : -2 ^ 63 ≤ (-1 : Int) * 256 ^ bytes.length + bigNumber bytes := by
    zify at most
    omega
  have high : (bigNumber bytes : Int) < 2 ^ 63 := by
    zify at most bound
    omega
  rw [getDataCodingInteger, if_neg enough, length, Nat.add_sub_cancel, List.getD_cons_succ]
  simp only
  rw [decoded_loop]
  split
  · have start : (-1 : Int64) = Int64.ofInt (-1) := rfl
    rw [start, decoded_fold, Int64.toInt_ofInt_of_le]
    · omega
    · exact low
    · zify at bound
      omega
  · have start : (0 : Int64) = Int64.ofInt 0 := rfl
    rw [start, decoded_fold, Int64.toInt_ofInt_of_le]
    · omega
    · omega
    · omega

end decoding

theorem integer_size_bounds (value : Int64) (size : UInt16) (fits : integerSize value = some size) :
    2 ≤ size.toNat ∧ size.toNat ≤ 8 ∧ value.toUInt64.toNat < 256 ^ (size.toNat - 1) := by
  unfold integerSize at fits
  simp only [UInt64.le_iff_toNat_le] at fits
  iterate 7
    split at fits
    · rename_i small
      cases fits
      exact ⟨by decide, by decide, Nat.lt_of_le_of_lt small (by decide)⟩
  cases fits

theorem unsigned_value (value : Int64) :
    0 ≤ value.toInt ∧ value.toInt < 2 ^ 56 ↔ value.toUInt64.toNat < 2 ^ 56 := by
  have number : value.toInt = (value.toUInt64.toNat : Int).bmod (2 ^ 64) := BitVec.toInt_eq_toNat_bmod _
  have bound := value.toUInt64.toNat_lt
  rw [Int.bmod_def] at number
  split at number <;> omega

theorem integer_size_none (value : Int64) :
    integerSize value = none ↔ ¬ (0 ≤ value.toInt ∧ value.toInt < 2 ^ 56) := by
  rw [unsigned_value]
  unfold integerSize
  simp only [UInt64.le_iff_toNat_le]
  constructor
  · intro large small
    iterate 6
      split at large
      · cases large
    have last : value.toUInt64.toNat ≤ (0xffffffffffffff : UInt64).toNat := Nat.le_of_lt_succ small
    rw [if_pos last] at large
    cases large
  · intro large
    have beyond : 2 ^ 56 ≤ value.toUInt64.toNat := Nat.le_of_not_lt large
    have above (bound : UInt64) (less : bound.toNat < 2 ^ 56) : ¬ value.toUInt64.toNat ≤ bound.toNat := by omega
    rw [if_neg (above _ (by decide)), if_neg (above _ (by decide)), if_neg (above _ (by decide)),
      if_neg (above _ (by decide)), if_neg (above _ (by decide)), if_neg (above _ (by decide)),
      if_neg (above _ (by decide))]

theorem value_of_bytes (value : Int64) (size : UInt16) (fits : integerSize value = some size) :
    value.toInt = littleNumber (integerBytes value size) := by
  obtain ⟨-, high, bound⟩ := integer_size_bounds value size fits
  have number : value.toInt = (value.toUInt64.toNat : Int).bmod (2 ^ 64) := BitVec.toInt_eq_toNat_bmod _
  have most : 256 ^ (size.toNat - 1) ≤ 256 ^ 7 := Nat.pow_le_pow_right (by decide) (by omega)
  rw [integerBytes, number_of_bytes, Nat.mod_eq_of_lt bound, number]
  exact Int.bmod_eq_of_le (by omega) (by omega)

theorem decoded_same_iff (value : Int64) (size : UInt16) (fits : integerSize value = some size) (coding : UInt8) :
    getDataCodingInteger (coding :: integerBytes value size) (coding :: integerBytes value size).length.toUInt8 = value ↔
      SameBothWays value := by
  obtain ⟨low, high, -⟩ := integer_size_bounds value size fits
  have length : (integerBytes value size).length = size.toNat - 1 := number_bytes_length _ _
  have own := value_of_bytes value size fits
  have some : integerBytes value size ≠ [] := by
    intro empty
    rw [empty, List.length_nil] at length
    omega
  have decoded := decoded_integer coding (integerBytes value size) some (by omega)
  have bound := big_number_bound (integerBytes value size)
  zify at bound
  have ways : SameBothWays value ↔ (integerBytes value size).reverse = integerBytes value size ∧
      (integerBytes value size).getD 0 0 &&& 0x80 = 0 := by
    constructor
    · rintro ⟨other, same, both⟩
      rw [fits] at same
      cases same
      exact both
    · exact fun both => ⟨size, fits, both⟩
  rw [ways, ← Int64.toInt_inj, decoded, own, ← both_ways_iff]
  by_cases negative : (integerBytes value size).getD 0 0 &&& 0x80 = 0
  · rw [if_neg (not_not.mpr negative)]
    constructor
    · intro same
      exact ⟨by omega, negative⟩
    · rintro ⟨same, -⟩
      rw [same]
      exact sub_zero _
  · rw [if_pos negative]
    refine iff_of_false (fun same => ?_) (fun both => negative both.2)
    omega

-- Unit and sensor index are in their bits of the coding byte.
theorem coding_carries (unit sensoridx : UInt8) (units : unit < 4) (sensors : sensoridx < 8) :
    datacodingUnit (measurementCoding unit sensoridx) = unit ∧
      datacodingIndex (measurementCoding unit sensoridx) = sensoridx := by
  have known : ∀ u < 4, ∀ s < 8, datacodingUnit (measurementCoding (UInt8.ofNat u) (UInt8.ofNat s)) = UInt8.ofNat u ∧
      datacodingIndex (measurementCoding (UInt8.ofNat u) (UInt8.ofNat s)) = UInt8.ofNat s := by decide
  have own := known unit.toNat (UInt8.lt_iff_toNat_lt.mp units) sensoridx.toNat (UInt8.lt_iff_toNat_lt.mp sensors)
  rw [UInt8.ofNat_toNat, UInt8.ofNat_toNat] at own
  exact own

theorem carries_iff (value : Int64) (size : UInt16) (fits : integerSize value = some size) (unit sensoridx : UInt8)
    (units : unit < 4) (sensors : sensoridx < 8) :
    Carries (measurementCoding unit sensoridx :: integerBytes value size) value unit sensoridx ↔ SameBothWays value := by
  obtain ⟨unitKept, indexKept⟩ := coding_carries unit sensoridx units sensors
  rw [← decoded_same_iff value size fits (measurementCoding unit sensoridx)]
  constructor
  · exact fun carries => carries.decoded
  · exact fun decoded => ⟨⟨_, _, rfl, unitKept, indexKept⟩, decoded⟩

theorem nothing_carried (value : Int64) (unit sensoridx : UInt8) : ¬ Carries [] value unit sensoridx := by
  intro carries
  obtain ⟨byte, rest, empty, -⟩ := carries.coding
  cases empty

theorem data_bytes_whole (pev : VscpEvent) (data : Bytes) (length : data.length = pev.sizeData.toNat) :
    { pev with pdata := some data }.dataBytes = data := by
  apply List.ext_getElem
  · rw [data_bytes_length, length]
  · intro i left right
    simp only [VscpEvent.dataBytes, List.getElem_map, List.getElem_range, Option.getD_some]
    exact List.getD_eq_getElem _ _ right

theorem clear_class (pev : VscpEvent) : (clearData pev).vscpClass = pev.vscpClass := by
  unfold clearData
  split <;> rfl

theorem clear_kept_iff (pev : VscpEvent) : clearData pev = pev ↔ pev.pdata = none := by
  unfold clearData
  by_cases empty : pev.pdata = none
  · rw [if_neg (not_not.mpr empty)]
    exact iff_of_true rfl empty
  · rw [if_pos empty]
    refine iff_of_false (fun same => ?_) empty
    exact empty (congrArg VscpEvent.pdata same).symm

-- What the function answers, by the size of the value and the class of the event.
section answers

variable (memory : Guid) (pev : VscpEvent) (value : Int64) (unit sensoridx : UInt8)

theorem no_size_answer (large : integerSize value = none) :
    makeIntegerMeasurementEvent memory pev value unit sensoridx = (false, clearData pev) := by
  unfold makeIntegerMeasurementEvent
  rw [large]

variable (size : UInt16) (fits : integerSize value = some size)

include fits

theorem level_one_answer (own : pev.vscpClass = class1Measurement) :
    makeIntegerMeasurementEvent memory pev value unit sensoridx = (true, { clearData pev with
      sizeData := size
      pdata := some (measurementCoding unit sensoridx :: integerBytes value size) }) := by
  unfold makeIntegerMeasurementEvent
  rw [fits]
  exact if_pos ((clear_class pev).trans own)

theorem level_two_answer (own : pev.vscpClass = class2Level1Measurement) :
    makeIntegerMeasurementEvent memory pev value unit sensoridx = (true, { clearData pev with
      sizeData := size
      pdata := some (memory.toList ++ measurementCoding unit sensoridx :: integerBytes value size) }) := by
  have other : (clearData pev).vscpClass ≠ class1Measurement := by
    rw [clear_class, own]
    decide
  unfold makeIntegerMeasurementEvent
  rw [fits]
  exact (if_neg other).trans (if_pos ((clear_class pev).trans own))

theorem unknown_class_answer (notOne : pev.vscpClass ≠ class1Measurement)
    (notTwo : pev.vscpClass ≠ class2Level1Measurement) :
    makeIntegerMeasurementEvent memory pev value unit sensoridx = (false, { clearData pev with sizeData := size }) := by
  rw [← clear_class pev] at notOne notTwo
  unfold makeIntegerMeasurementEvent
  rw [fits]
  exact (if_neg notOne).trans (if_neg notTwo)

end answers

theorem integer_event_delivers_iff (memory : Guid) (pev : VscpEvent) (value : Int64) (unit sensoridx : UInt8)
    (units : unit < 4) (sensors : sensoridx < 8) :
    Delivers (makeIntegerMeasurementEvent memory pev value unit sensoridx) value unit sensoridx ↔
      pev.vscpClass = class1Measurement ∧ SameBothWays value := by
  cases fits : integerSize value with
  | none =>
      rw [no_size_answer memory pev value unit sensoridx fits]
      refine iff_of_false (fun delivered => Bool.noConfusion delivered.1) (fun wanted => ?_)
      obtain ⟨size, other, -⟩ := wanted.2
      rw [fits] at other
      cases other
  | some size =>
      obtain ⟨low, high, -⟩ := integer_size_bounds value size fits
      have length : (measurementCoding unit sensoridx :: integerBytes value size).length = size.toNat := by
        rw [List.length_cons, integerBytes, number_bytes_length]
        omega
      by_cases own : pev.vscpClass = class1Measurement
      · have offset : codingOffset (clearData pev).vscpClass = 0 := by
          rw [clear_class, own]
          rfl
        have data := data_bytes_whole { clearData pev with sizeData := size } _ length
        rw [level_one_answer memory pev value unit sensoridx size fits own, Delivers]
        simp only [true_and, offset, List.drop_zero, own, data]
        exact carries_iff value size fits unit sensoridx units sensors
      · refine iff_of_false (fun delivered => ?_) (fun wanted => own wanted.1)
        by_cases mirrored : pev.vscpClass = class2Level1Measurement
        · have offset : codingOffset (clearData pev).vscpClass = 16 := by
            rw [clear_class, mirrored]
            rfl
          -- The size counts no GUID, so the data end before the coding byte.
          rw [level_two_answer memory pev value unit sensoridx size fits mirrored, Delivers] at delivered
          simp only [offset] at delivered
          rw [List.drop_eq_nil_of_le (by rw [data_bytes_length]; change size.toNat ≤ 16; omega)] at delivered
          exact nothing_carried value unit sensoridx delivered.2
        · rw [unknown_class_answer memory pev value unit sensoridx size fits own mirrored] at delivered
          exact Bool.noConfusion delivered.1

def KnownClass (vscpClass : UInt16) : Prop := vscpClass = class1Measurement ∨ vscpClass = class2Level1Measurement

theorem integer_event_kept_iff (memory : Guid) (pev : VscpEvent) (value : Int64) (unit sensoridx : UInt8) :
    ((makeIntegerMeasurementEvent memory pev value unit sensoridx).1 = false →
        (makeIntegerMeasurementEvent memory pev value unit sensoridx).2 = pev) ↔
      (if 0 ≤ value.toInt ∧ value.toInt < 2 ^ 56 then
        KnownClass pev.vscpClass ∨ pev.pdata = none ∧ integerSize value = some pev.sizeData
      else pev.pdata = none) := by
  cases fits : integerSize value with
  | none =>
      rw [no_size_answer memory pev value unit sensoridx fits, if_neg ((integer_size_none value).mp fits),
        ← clear_kept_iff]
      exact ⟨fun kept => kept rfl, fun same _ => same⟩
  | some size =>
      have inside : 0 ≤ value.toInt ∧ value.toInt < 2 ^ 56 := by
        by_contra outside
        rw [(integer_size_none value).mpr outside] at fits
        cases fits
      rw [if_pos inside]
      by_cases own : pev.vscpClass = class1Measurement
      · rw [level_one_answer memory pev value unit sensoridx size fits own]
        exact iff_of_true (fun failed => Bool.noConfusion failed) (.inl (.inl own))
      · by_cases mirrored : pev.vscpClass = class2Level1Measurement
        · rw [level_two_answer memory pev value unit sensoridx size fits mirrored]
          exact iff_of_true (fun failed => Bool.noConfusion failed) (.inl (.inr mirrored))
        · have unknown : ¬ KnownClass pev.vscpClass := not_or.mpr ⟨own, mirrored⟩
          rw [unknown_class_answer memory pev value unit sensoridx size fits own mirrored]
          simp only [forall_const, unknown, false_or, Option.some_inj]
          constructor
          · intro same
            have noData := congrArg VscpEvent.pdata same
            change (clearData pev).pdata = pev.pdata at noData
            refine ⟨?_, congrArg VscpEvent.sizeData same⟩
            by_contra present
            rw [clearData, if_pos present] at noData
            exact present noData.symm
          · rintro ⟨empty, rfl⟩
            rw [(clear_kept_iff pev).mpr empty]

theorem stored_byte (data : Vector UInt8 512) (start : Nat) (bytes : Bytes) (i : Fin 512) :
    (storeBytes data start bytes).get i =
      if start ≤ i.val ∧ i.val < start + bytes.length then bytes.getD (i.val - start) 0 else data.get i := by
  rw [Vector.get_eq_getElem]
  exact Vector.getElem_ofFn i.isLt

theorem stored_front (data : Vector UInt8 512) (coding : UInt8) (bytes : Bytes) (fits : bytes.length < 512) :
    (storeBytes (storeBytes data 0 [coding]) 1 bytes).toList.take (bytes.length + 1) = coding :: bytes := by
  apply List.ext_getElem
  · rw [List.length_take, Vector.length_toList, List.length_cons]
    omega
  · intro i left right
    rw [List.length_cons] at right
    have place : i < 512 := by omega
    have byte := stored_byte (storeBytes data 0 [coding]) 1 bytes ⟨i, place⟩
    rw [Vector.get_eq_getElem] at byte
    rw [List.getElem_take, Vector.getElem_toList, byte]
    cases i with
    | zero => exact stored_byte data 0 [coding] ⟨0, place⟩
    | succ i =>
        have inside : 1 ≤ i + 1 ∧ i + 1 < 1 + bytes.length := by omega
        rw [if_pos inside, List.getElem_cons_succ]
        exact List.getD_eq_getElem bytes 0 (by omega : i < bytes.length)

theorem stored_coding_iff (data : Vector UInt8 512) (coding : UInt8) :
    storeBytes data 0 [coding] = data ↔ data.get 0 = coding := by
  constructor
  · intro same
    rw [← same, stored_byte]
    rfl
  · intro own
    apply Vector.ext
    intro i place
    have byte := stored_byte data 0 [coding] ⟨i, place⟩
    rw [Vector.get_eq_getElem] at byte
    rw [byte]
    split
    · rename_i first
      have zero : i = 0 := by
        have bound := first.2
        simp only [List.length_singleton] at bound
        omega
      subst zero
      exact own.symm
    · rfl

section answersEx

variable (pex : VscpEventEx) (value : Int64) (unit sensoridx : UInt8)

theorem unknown_class_answer_ex (unknown : ¬ KnownClass pex.vscpClass) :
    makeIntegerMeasurementEventEx pex value unit sensoridx = (false, pex) := by
  unfold makeIntegerMeasurementEventEx
  exact if_pos (not_or.mp unknown)

variable (known : KnownClass pex.vscpClass)

include known

theorem no_size_answer_ex (large : integerSize value = none) :
    makeIntegerMeasurementEventEx pex value unit sensoridx =
      (false, { pex with data := storeBytes pex.data 0 [measurementCoding unit sensoridx] }) := by
  unfold makeIntegerMeasurementEventEx
  rw [if_neg (fun unknown => not_or.mpr unknown known), large]

theorem sized_answer_ex (size : UInt16) (fits : integerSize value = some size) :
    makeIntegerMeasurementEventEx pex value unit sensoridx = (true, { pex with
      data := storeBytes (storeBytes pex.data 0 [measurementCoding unit sensoridx])
        (if size = 2 then 1 else 1 + if pex.vscpClass = class1Measurement then 0 else 16) (integerBytes value size)
      sizeData := size }) := by
  unfold makeIntegerMeasurementEventEx
  rw [if_neg (fun unknown => not_or.mpr unknown known), fits]

end answersEx

theorem integer_event_ex_delivers_iff (pex : VscpEventEx) (value : Int64) (unit sensoridx : UInt8)
    (units : unit < 4) (sensors : sensoridx < 8) :
    DeliversEx (makeIntegerMeasurementEventEx pex value unit sensoridx) value unit sensoridx ↔
      pex.vscpClass = class1Measurement ∧ SameBothWays value := by
  by_cases known : KnownClass pex.vscpClass
  · cases fits : integerSize value with
    | none =>
        rw [no_size_answer_ex pex value unit sensoridx known fits]
        refine iff_of_false (fun delivered => Bool.noConfusion delivered.1) (fun wanted => ?_)
        obtain ⟨size, other, -⟩ := wanted.2
        rw [fits] at other
        cases other
    | some size =>
        obtain ⟨low, high, -⟩ := integer_size_bounds value size fits
        have length : (integerBytes value size).length + 1 = size.toNat := by
          rw [integerBytes, number_bytes_length]
          omega
        rw [sized_answer_ex pex value unit sensoridx known size fits, DeliversEx]
        by_cases own : pex.vscpClass = class1Measurement
        · have start : (if size = 2 then 1 else 1 + 0) = 1 := by split <;> rfl
          have offset : codingOffset class1Measurement = 0 := rfl
          have data := stored_front pex.data (measurementCoding unit sensoridx) (integerBytes value size) (by omega)
          rw [length] at data
          simp only [own, if_true, start, true_and, offset, List.drop_zero, data]
          exact carries_iff value size fits unit sensoridx units sensors
        · have mirrored : pex.vscpClass = class2Level1Measurement := known.resolve_left own
          have offset : codingOffset class2Level1Measurement = 16 := rfl
          refine iff_of_false (fun delivered => ?_) (fun wanted => own wanted.1)
          have carried := delivered.2
          simp only [mirrored, offset] at carried
          rw [List.drop_eq_nil_of_le (by rw [List.length_take]; omega)] at carried
          exact nothing_carried value unit sensoridx carried
  · rw [unknown_class_answer_ex pex value unit sensoridx known]
    exact iff_of_false (fun delivered => Bool.noConfusion delivered.1) (fun wanted => known (.inl wanted.1))

theorem integer_event_ex_kept_iff (pex : VscpEventEx) (value : Int64) (unit sensoridx : UInt8) :
    ((makeIntegerMeasurementEventEx pex value unit sensoridx).1 = false →
        (makeIntegerMeasurementEventEx pex value unit sensoridx).2 = pex) ↔
      ¬ KnownClass pex.vscpClass ∨ (0 ≤ value.toInt ∧ value.toInt < 2 ^ 56) ∨
        pex.data.get 0 = measurementCoding unit sensoridx := by
  by_cases known : KnownClass pex.vscpClass
  · cases fits : integerSize value with
    | none =>
        have outside := (integer_size_none value).mp fits
        rw [no_size_answer_ex pex value unit sensoridx known fits, ← stored_coding_iff]
        simp only [forall_const, known, not_true_eq_false, outside, false_or]
        constructor
        · intro same
          have data := congrArg VscpEventEx.data same
          exact data
        · intro same
          rw [same]
    | some size =>
        have inside : 0 ≤ value.toInt ∧ value.toInt < 2 ^ 56 := by
          by_contra outside
          rw [(integer_size_none value).mpr outside] at fits
          cases fits
        rw [sized_answer_ex pex value unit sensoridx known size fits]
        exact iff_of_true (fun failed => Bool.noConfusion failed) (.inr (.inl inside))
  · rw [unknown_class_answer_ex pex value unit sensoridx known]
    exact iff_of_true (fun _ => rfl) (.inl known)

theorem integer_measurement_iff (memory : Guid) (pev : VscpEvent) (pex : VscpEventEx) (value : Int64)
    (unit sensoridx : UInt8) (units : unit < 4) (sensors : sensoridx < 8) :
    (Delivers (makeIntegerMeasurementEvent memory pev value unit sensoridx) value unit sensoridx ↔
      pev.vscpClass = class1Measurement ∧ SameBothWays value) ∧
    (((makeIntegerMeasurementEvent memory pev value unit sensoridx).1 = false →
        (makeIntegerMeasurementEvent memory pev value unit sensoridx).2 = pev) ↔
      if 0 ≤ value.toInt ∧ value.toInt < 2 ^ 56 then
        KnownClass pev.vscpClass ∨ pev.pdata = none ∧ integerSize value = some pev.sizeData
      else pev.pdata = none) ∧
    (DeliversEx (makeIntegerMeasurementEventEx pex value unit sensoridx) value unit sensoridx ↔
      pex.vscpClass = class1Measurement ∧ SameBothWays value) ∧
    (((makeIntegerMeasurementEventEx pex value unit sensoridx).1 = false →
        (makeIntegerMeasurementEventEx pex value unit sensoridx).2 = pex) ↔
      ¬ KnownClass pex.vscpClass ∨ (0 ≤ value.toInt ∧ value.toInt < 2 ^ 56) ∨
        pex.data.get 0 = measurementCoding unit sensoridx) :=
  ⟨integer_event_delivers_iff memory pev value unit sensoridx units sensors,
    integer_event_kept_iff memory pev value unit sensoridx,
    integer_event_ex_delivers_iff pex value unit sensoridx units sensors,
    integer_event_ex_kept_iff pex value unit sensoridx⟩

def measurementEvent : VscpEvent := { exampleEvent with vscpClass := 10, vscpType := 6, sizeData := 0, pdata := none }

theorem integer_measurement_iff_five :
    Delivers (makeIntegerMeasurementEvent (Vector.replicate 16 0) measurementEvent 5 1 2) 5 1 2 ↔
      measurementEvent.vscpClass = class1Measurement ∧ SameBothWays 5 :=
  (integer_measurement_iff (Vector.replicate 16 0) measurementEvent
    ⟨0, 0, 0, 0, 0, 0, 10, 6, Vector.replicate 16 0, 0, Vector.replicate 512 0⟩ 5 1 2 (by decide) (by decide)).1

-- 300 is stored with its low byte first and read as 11265; -1 is refused.
theorem three_hundred_read_wrong :
    makeIntegerMeasurementEvent (Vector.replicate 16 0) measurementEvent 300 0 0 =
        (true, { measurementEvent with sizeData := 3, pdata := some [0x60, 0x2c, 0x01] }) ∧
      getDataCodingInteger [0x60, 0x2c, 0x01] 3 = 11265 ∧
      (makeIntegerMeasurementEvent (Vector.replicate 16 0) measurementEvent (-1) 0 0).1 = false := by
  decide

end Vscp
