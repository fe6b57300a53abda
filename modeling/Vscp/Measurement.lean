import Vscp.EventFrame
import Vscp.TextReply
import Vscp.Lib.ByteNumber
import Vscp.Lib.NumberText

set_option autoImplicit false

namespace Vscp

open ByteNumber
open NumberText
open RemoteTcp (Text)

def class1Measurement : UInt16 := 10
def class1Data : UInt16 := 15
def class1Measurement64 : UInt16 := 60
def class1MeasureZone : UInt16 := 65
def class1Measurement32 : UInt16 := 70
def class1SetValueZone : UInt16 := 85
def class2Level1Protocol : UInt16 := 512
def class2Level1Measurement : UInt16 := 522
def class2Level1Measurement64 : UInt16 := 572
def class2Level1MeasureZone : UInt16 := 577
def class2Level1Measurement32 : UInt16 := 582
def class2Level1SetValueZone : UInt16 := 597
def class2MeasurementStr : UInt16 := 1040
def class2MeasurementFloat : UInt16 := 1060

-- The conversions of printf, and the floating point numbers behind them, given by their bits or by the integer they
-- are made from.
structure Printers where
  fixedDouble : UInt64 → Text
  fixedFloat : UInt32 → Text
  roundedInteger : Int64 → Text
  scaledInteger : Int → UInt8 → Text
  shortFloat : UInt32 → Text

def textOfBytes (bytes : Bytes) : Text := (bytes.takeWhile (· ≠ 0)).map fun byte => Char.ofNat byte.toNat

def shiftIn (value64 : Int64) (byte : UInt8) : Int64 := (value64 <<< 8) + byte.toUInt64.toInt64

def getDataCodingInteger (pCode : Bytes) (length : UInt8) : Int64 :=
  if length < 2 then 0
  else
    let value64 : Int64 := if pCode.getD 1 0 &&& 0x80 ≠ 0 then -1 else 0
    (List.range' 1 (length.toNat - 1)).foldl (fun value64 i => shiftIn value64 (pCode.getD i 0)) value64

-- The integer and the decimal byte; one to six bytes are a number with a sign, as each case of the switch has it.
def getDataCodingNormalizedInteger (pCode : Bytes) (length : UInt8) : Int × UInt8 :=
  if length > 8 ∨ length < 2 then (0, 0)
  else
    let number := (pCode.drop 2).take (length.toNat - 2)
    let bNegative := number.getD 0 0 &&& 0x80 ≠ 0
    ((bigNumber number : Int) - if bNegative then 256 ^ number.length else 0, pCode.getD 1 0)

def getMeasurementAsFloat (pNorm : Bytes) (length : UInt8) : UInt32 :=
  if length ≥ 5 then UInt32.ofNat (bigNumber ((pNorm.drop 1).take 4)) else 0

def bitLetters (byte : UInt8) : Text :=
  [7, 6, 5, 4, 3, 2, 1, 0].map fun j : UInt8 => if byte &&& (1 <<< j) ≠ 0 then '1' else '0'

def codedText (print : Printers) (data : Bytes) (type : UInt8) : Text :=
  if type = 0 then (data.drop 1).flatMap fun byte => bitLetters byte ++ [' ']
  else if type = 1 then List.intercalate [','] ((data.drop 1).map fun byte => decimal byte.toNat)
  else if type = 2 then textOfBytes (data.drop 1)
  else if type = 3 then print.roundedInteger (getDataCodingInteger data data.length.toUInt8)
  else if type = 4 then
    let value := getDataCodingNormalizedInteger data data.length.toUInt8
    print.scaledInteger value.1 value.2
  else []

def isZoneClass (vscpClass : UInt16) : Bool :=
  vscpClass = class1MeasureZone ∨ vscpClass = class1SetValueZone ∨ vscpClass = class2Level1MeasureZone ∨
    vscpClass = class2Level1SetValueZone

def isCodedClass (vscpClass : UInt16) : Bool :=
  isZoneClass vscpClass ∨ vscpClass = class1Measurement ∨ vscpClass = class1Data ∨
    vscpClass = class2Level1Measurement

def codingType (byte : UInt8) : UInt8 := (byte >>> 5) &&& 0x07

def getCodedMeasurement (print : Printers) (pev : VscpEvent) : Option Text :=
  let offset := if pev.vscpClass ≥ class2Level1Protocol then 16 else 0
  if pev.sizeData.toNat < offset + 2 then none
  else
    -- Past index, zone and subzone.
    let offset := if isZoneClass pev.vscpClass then offset + 3 else offset
    let data := pev.dataBytes.drop offset
    let type := codingType (data.getD 0 0)
    -- The float is read without the offset.
    if type = 5 then some (print.shortFloat (getMeasurementAsFloat pev.dataBytes pev.sizeData.toUInt8))
    else some (codedText print data type)

-- The number of a class with four or eight data bytes behind `offset`, as they lie in memory on a little endian host.
def getFloatMeasurement (pev : VscpEvent) (offset bytes : Nat) : Option Nat :=
  if pev.sizeData.toNat ≠ offset + bytes then none
  else some (littleNumber ((pev.dataBytes.drop offset).take bytes))

-- The loop that is meant to turn the eight bytes around works in place.
def mirroredInPlace (buf : Bytes) : Bytes :=
  (List.range 7).foldl (fun buf step => buf.set (7 - step) (buf.getD step 0)) buf

def getMeasurementAsString (print : Printers) (pev : VscpEvent) : Option Text :=
  if pev.pdata = none then none
  else if pev.vscpClass = class2MeasurementStr then some (textOfBytes (pev.dataBytes.drop 4))
  else if pev.vscpClass = class2MeasurementFloat then
    if pev.sizeData ≠ 12 then none
    else some (print.fixedDouble (UInt64.ofNat (littleNumber (mirroredInPlace (pev.dataBytes.drop 4)))))
  else if pev.vscpClass = class1Measurement32 then
    (getFloatMeasurement pev 0 4).map fun number => print.fixedFloat (UInt32.ofNat number)
  else if pev.vscpClass = class2Level1Measurement32 then
    (getFloatMeasurement pev 16 4).map fun number => print.fixedFloat (UInt32.ofNat number)
  else if pev.vscpClass = class1Measurement64 then
    (getFloatMeasurement pev 0 8).map fun number => print.fixedDouble (UInt64.ofNat number)
  else if pev.vscpClass = class2Level1Measurement64 then
    (getFloatMeasurement pev 16 8).map fun number => print.fixedDouble (UInt64.ofNat number)
  else if isCodedClass pev.vscpClass then getCodedMeasurement print pev
  else none

def mirrored (guid : Guid) (pev : VscpEvent) : VscpEvent :=
  { pev with
    vscpClass := pev.vscpClass + 512
    sizeData := pev.sizeData + 16
    pdata := some (guid.toList ++ pev.dataBytes) }

def measurementClasses : List UInt16 :=
  [class1Measurement, class1MeasureZone, class1SetValueZone, class1Measurement64, class1Measurement32]

structure LevelOneMeasurement (pev : VscpEvent) : Prop where
  known : pev.vscpClass ∈ measurementClasses
  size : pev.sizeData.toNat ≤ 8
  present : pev.sizeData ≠ 0 → pev.pdata ≠ none
  coded : isZoneClass pev.vscpClass → 4 ≤ pev.sizeData.toNat

variable (guid : Guid) (pev : VscpEvent)

theorem mirrored_size (size : pev.sizeData.toNat ≤ 8) :
    (mirrored guid pev).sizeData.toNat = pev.sizeData.toNat + 16 := by
  have sixteen : (16 : UInt16).toNat = 16 := rfl
  change (pev.sizeData + 16).toNat = _
  rw [UInt16.toNat_add, sixteen]
  omega

theorem mirrored_data (size : pev.sizeData.toNat ≤ 8) :
    (mirrored guid pev).dataBytes = guid.toList ++ pev.dataBytes := by
  have length : (guid.toList ++ pev.dataBytes).length = (mirrored guid pev).sizeData.toNat := by
    rw [mirrored_size guid pev size, List.length_append, Vector.length_toList, data_bytes_length]
    omega
  apply List.ext_getElem
  · rw [data_bytes_length, length]
  · intro i left right
    simp only [VscpEvent.dataBytes, List.getElem_map, List.getElem_range]
    exact List.getD_eq_getElem _ _ right

theorem mirrored_dropped (size : pev.sizeData.toNat ≤ 8) (more : Nat) :
    (mirrored guid pev).dataBytes.drop (16 + more) = pev.dataBytes.drop more := by
  rw [mirrored_data guid pev size, ← List.drop_drop, List.drop_left' (Vector.length_toList)]

theorem float_measurement_mirrored (size : pev.sizeData.toNat ≤ 8) (bytes : Nat) :
    getFloatMeasurement (mirrored guid pev) 16 bytes = getFloatMeasurement pev 0 bytes := by
  unfold getFloatMeasurement
  rw [mirrored_size guid pev size, mirrored_dropped guid pev size 0]
  by_cases fits : pev.sizeData.toNat = 0 + bytes
  · rw [if_neg (by omega), if_neg (by omega)]
  · rw [if_pos (by omega), if_pos (by omega)]

def codingByte (pev : VscpEvent) : UInt8 := pev.dataBytes.getD (if isZoneClass pev.vscpClass then 3 else 0) 0

def guidFloat (guid : Guid) : UInt32 := UInt32.ofNat (bigNumber ((guid.toList.drop 1).take 4))

def FramingKept (print : Printers) (guid : Guid) (pev : VscpEvent) : Prop :=
  isCodedClass pev.vscpClass = false ∨ pev.sizeData.toNat < 2 ∨ codingType (codingByte pev) ≠ 5 ∨
    print.shortFloat (guidFloat guid) = print.shortFloat (getMeasurementAsFloat pev.dataBytes pev.sizeData.toUInt8)

theorem guid_float_read (size : pev.sizeData.toNat ≤ 8) :
    getMeasurementAsFloat (mirrored guid pev).dataBytes (mirrored guid pev).sizeData.toUInt8 = guidFloat guid := by
  have whole := mirrored_size guid pev size
  have enough : (mirrored guid pev).sizeData.toUInt8 ≥ 5 := by
    apply UInt8.le_iff_toNat_le.mpr
    rw [UInt16.toNat_toUInt8, whole]
    change 5 ≤ _
    omega
  have front : (((mirrored guid pev).dataBytes).drop 1).take 4 = (guid.toList.drop 1).take 4 := by
    rw [mirrored_data guid pev size, List.drop_append_of_le_length (by rw [Vector.length_toList]; decide),
      List.take_append_of_le_length (by rw [List.length_drop, Vector.length_toList]; decide)]
  rw [getMeasurementAsFloat, if_pos enough, front]
  rfl

theorem coded_measurement_mirrored (print : Printers) (guid : Guid) (pev : VscpEvent) (size : pev.sizeData.toNat ≤ 8)
    (levelOne : pev.vscpClass < class2Level1Protocol)
    (levelTwo : (mirrored guid pev).vscpClass ≥ class2Level1Protocol)
    (zone : isZoneClass (mirrored guid pev).vscpClass = isZoneClass pev.vscpClass) :
    getCodedMeasurement print (mirrored guid pev) = getCodedMeasurement print pev ↔
      pev.sizeData.toNat < 2 ∨ codingType (codingByte pev) ≠ 5 ∨
        print.shortFloat (guidFloat guid) =
          print.shortFloat (getMeasurementAsFloat pev.dataBytes pev.sizeData.toUInt8) := by
  have low : ¬ pev.vscpClass ≥ class2Level1Protocol := UInt16.not_le.mpr levelOne
  unfold getCodedMeasurement
  simp only [if_pos levelTwo, if_neg low, mirrored_size guid pev size, zone]
  by_cases short : pev.sizeData.toNat < 2
  · have alsoShort : pev.sizeData.toNat + 16 < 16 + 2 := by omega
    have thisShort : pev.sizeData.toNat < 0 + 2 := by omega
    rw [if_pos alsoShort, if_pos thisShort]
    exact iff_of_true rfl (.inl short)
  · have alsoLong : ¬ pev.sizeData.toNat + 16 < 16 + 2 := by omega
    have thisLong : ¬ pev.sizeData.toNat < 0 + 2 := by omega
    rw [if_neg alsoLong, if_neg thisLong, guid_float_read guid pev size]
    have data : (mirrored guid pev).dataBytes.drop (if isZoneClass pev.vscpClass then 16 + 3 else 16) =
        pev.dataBytes.drop (if isZoneClass pev.vscpClass then 0 + 3 else 0) := by
      cases isZoneClass pev.vscpClass with
      | true => exact mirrored_dropped guid pev size 3
      | false => exact mirrored_dropped guid pev size 0
    have coding : (pev.dataBytes.drop (if isZoneClass pev.vscpClass then 0 + 3 else 0)).getD 0 0 = codingByte pev := by
      rw [codingByte, List.getD_eq_getElem?_getD, List.getElem?_drop, List.getD_eq_getElem?_getD]
      cases isZoneClass pev.vscpClass <;> rfl
    rw [data, coding]
    by_cases float : codingType (codingByte pev) = 5
    · rw [if_pos float, if_pos float, Option.some_inj]
      exact ⟨fun same => .inr (.inr same), fun kept => (kept.resolve_left short).resolve_left (not_not.mpr float)⟩
    · rw [if_neg float, if_neg float]
      exact iff_of_true rfl (.inr (.inl float))

def codedClasses : List UInt16 :=
  [class1Measurement, class1MeasureZone, class1SetValueZone, class2Level1Measurement, class2Level1MeasureZone,
    class2Level1SetValueZone]

theorem empty_of_missing (present : pev.sizeData ≠ 0 → pev.pdata ≠ none) (missing : pev.pdata = none) :
    pev.sizeData.toNat = 0 := by
  have empty : pev.sizeData = 0 := Decidable.byContradiction fun size => present size missing
  rw [empty]
  rfl

theorem coded_class_text (print : Printers) (pev : VscpEvent) (present : pev.sizeData ≠ 0 → pev.pdata ≠ none)
    (own : pev.vscpClass ∈ codedClasses) : getMeasurementAsString print pev = getCodedMeasurement print pev := by
  unfold getMeasurementAsString
  by_cases missing : pev.pdata = none
  · have empty := empty_of_missing pev present missing
    unfold getCodedMeasurement
    simp only [if_pos missing, empty]
    rw [if_pos (by omega)]
  · have others : ∀ vscpClass ∈ codedClasses, vscpClass ≠ class2MeasurementStr ∧ vscpClass ≠ class2MeasurementFloat ∧
        vscpClass ≠ class1Measurement32 ∧ vscpClass ≠ class2Level1Measurement32 ∧ vscpClass ≠ class1Measurement64 ∧
        vscpClass ≠ class2Level1Measurement64 ∧ isCodedClass vscpClass = true := by
      intro vscpClass own
      simp only [codedClasses, List.mem_cons, List.not_mem_nil, or_false] at own
      obtain rfl | rfl | rfl | rfl | rfl | rfl := own <;> decide
    obtain ⟨notStr, notFloat, not32, notLong32, not64, notLong64, coded⟩ := others _ own
    rw [if_neg missing, if_neg notStr, if_neg notFloat, if_neg not32, if_neg notLong32, if_neg not64, if_neg notLong64,
      if_pos coded]

theorem float_missing (present : pev.sizeData ≠ 0 → pev.pdata ≠ none) (missing : pev.pdata = none)
    (offset bytes : Nat) (some : bytes ≠ 0) : getFloatMeasurement pev offset bytes = none := by
  have empty := empty_of_missing pev present missing
  rw [getFloatMeasurement, if_pos (by omega)]

theorem float_class_text (print : Printers) (pev : VscpEvent) (present : pev.sizeData ≠ 0 → pev.pdata ≠ none) :
    (pev.vscpClass = class1Measurement32 → getMeasurementAsString print pev =
      (getFloatMeasurement pev 0 4).map fun number => print.fixedFloat (UInt32.ofNat number)) ∧
    (pev.vscpClass = class2Level1Measurement32 → getMeasurementAsString print pev =
      (getFloatMeasurement pev 16 4).map fun number => print.fixedFloat (UInt32.ofNat number)) ∧
    (pev.vscpClass = class1Measurement64 → getMeasurementAsString print pev =
      (getFloatMeasurement pev 0 8).map fun number => print.fixedDouble (UInt64.ofNat number)) ∧
    (pev.vscpClass = class2Level1Measurement64 → getMeasurementAsString print pev =
      (getFloatMeasurement pev 16 8).map fun number => print.fixedDouble (UInt64.ofNat number)) := by
  unfold getMeasurementAsString
  by_cases missing : pev.pdata = none
  · have none4 (offset : Nat) := float_missing pev present missing offset 4 (by decide)
    have none8 (offset : Nat) := float_missing pev present missing offset 8 (by decide)
    simp only [if_pos missing, none4, none8]
    exact ⟨fun _ => rfl, fun _ => rfl, fun _ => rfl, fun _ => rfl⟩
  · rw [if_neg missing]
    refine ⟨?_, ?_, ?_, ?_⟩ <;>
    · intro own
      rw [own]
      rfl

theorem measurement_framing_iff (print : Printers) (guid : Guid) (pev : VscpEvent) (valid : LevelOneMeasurement pev) :
    getMeasurementAsString print (mirrored guid pev) = getMeasurementAsString print pev ↔
      FramingKept print guid pev := by
  obtain ⟨known, size, present, -⟩ := valid
  have filled : (mirrored guid pev).sizeData ≠ 0 → (mirrored guid pev).pdata ≠ none := fun _ => Option.some_ne_none _
  have above : (mirrored guid pev).vscpClass = pev.vscpClass + 512 := rfl
  obtain ⟨single, -, double, -⟩ := float_class_text print pev present
  obtain ⟨-, longSingle, -, longDouble⟩ := float_class_text print (mirrored guid pev) filled
  by_cases coded : isCodedClass pev.vscpClass = true
  · have classes : ∀ vscpClass ∈ measurementClasses, isCodedClass vscpClass = true →
        vscpClass ∈ codedClasses ∧ vscpClass + 512 ∈ codedClasses ∧ vscpClass < class2Level1Protocol ∧
          vscpClass + 512 ≥ class2Level1Protocol ∧ isZoneClass (vscpClass + 512) = isZoneClass vscpClass := by
      intro vscpClass known
      simp only [measurementClasses, List.mem_cons, List.not_mem_nil, or_false] at known
      obtain rfl | rfl | rfl | rfl | rfl := known <;> decide
    obtain ⟨own, next, low, high, zone⟩ := classes _ known coded
    rw [coded_class_text print pev present own, coded_class_text print (mirrored guid pev) filled next,
      coded_measurement_mirrored print guid pev size low high zone, FramingKept, coded]
    simp only [Bool.true_eq_false, false_or]
  · have classes : ∀ vscpClass ∈ measurementClasses, isCodedClass vscpClass = false →
        vscpClass = class1Measurement64 ∨ vscpClass = class1Measurement32 := by
      intro vscpClass known
      simp only [measurementClasses, List.mem_cons, List.not_mem_nil, or_false] at known
      obtain rfl | rfl | rfl | rfl | rfl := known <;> decide
    have plain := Bool.eq_false_of_not_eq_true coded
    refine iff_of_true ?_ (.inl plain)
    obtain own | own := classes _ known plain
    · rw [double own, longDouble (by rw [above, own]; rfl), float_measurement_mirrored guid pev size]
    · rw [single own, longSingle (by rw [above, own]; rfl), float_measurement_mirrored guid pev size]

def examplePrinters : Printers :=
  { fixedDouble := fun _ => []
    fixedFloat := fun _ => []
    roundedInteger := fun value => if value < 0 then '-' :: decimal value.toInt.natAbs else decimal value.toInt.toNat
    scaledInteger := fun _ _ => []
    shortFloat := fun bits => if bits = 0x3f800000 then ['1'] else ['0'] }

def floatMeasurement : VscpEvent :=
  { exampleEvent with vscpClass := 10, vscpType := 6, sizeData := 5, pdata := some [0xa0, 0x3f, 0x80, 0, 0] }

theorem measurement_framing_iff_float :
    getMeasurementAsString examplePrinters (mirrored (Vector.replicate 16 0) floatMeasurement) =
        getMeasurementAsString examplePrinters floatMeasurement ↔
      FramingKept examplePrinters (Vector.replicate 16 0) floatMeasurement :=
  measurement_framing_iff examplePrinters (Vector.replicate 16 0) floatMeasurement
    ⟨by decide, by decide, fun _ => Option.some_ne_none _, by decide⟩

-- The float of the mirrored event is made of GUID bytes.
theorem float_framing_differs :
    getMeasurementAsString examplePrinters floatMeasurement = some ['1'] ∧
      getMeasurementAsString examplePrinters (mirrored (Vector.replicate 16 0) floatMeasurement) = some ['0'] :=
  ⟨rfl, rfl⟩

end Vscp
