import Vscp.NormalizedInteger
import Vscp.MeasurementAccess
import Vscp.Lib.BlockAccess

set_option autoImplicit false

namespace Vscp.Decoding

open ByteNumber
open RemoteTcp (Text)
open TracedRead
open BlockAccess

abbrev Reads (Result : Type) : Type := Traced Access UInt8 Result

def getMeasurementDataCoding (pev : VscpEvent) : Reads UInt8 :=
  if pev.pdata = none ∨ pev.sizeData < 1 then return 0xff
  else if pev.vscpClass = class1Measurement then readAt (.data 0)
  else if pev.vscpClass = class2Level1Measurement then
    if pev.sizeData ≥ 16 then readAt (.data 16) else return 0xff
  else if pev.vscpClass = class2MeasurementStr then return 0x40
  else if pev.vscpClass = class2MeasurementFloat then return 0xc0
  else return 0xff

-- The pointer of the decoders is null or the place where the coding byte is.
def getDataCodingBitArray (pCode : Option Nat) (length : UInt8) : Reads UInt64 :=
  match pCode with
  | none => return 0
  | some start =>
      if length > 7 ∨ length ≤ 1 then return 0
      else do
        let bytes ← readRange (start + 1) (length.toNat - 1)
        return bytes.foldl (fun bitArray byte => (bitArray <<< 8) ||| byte.toUInt64) 0

def getDataCodingInteger (pCode : Option Nat) (length : UInt8) : Reads Int64 :=
  match pCode with
  | none => return 0
  | some start =>
      if length < 2 then return 0
      else do
        let sign ← readAt (.data (start + 1))
        let bytes ← readRange (start + 1) (length.toNat - 1)
        return bytes.foldl shiftIn (if sign &&& 0x80 ≠ 0 then -1 else 0)

def numberPlace (count : Nat) : Nat :=
  match count with
  | 3 => 1
  | 5 => 3
  | 6 => 2
  | _ => 0

def signPlaces (sign : UInt8) (count : Nat) : Nat := if sign &&& 0x80 ≠ 0 then numberPlace count else 0

def loadSize (count : Nat) : Nat :=
  match count with
  | 1 => 1
  | 2 => 2
  | 3 | 4 => 4
  | _ => 8

def getDataCodingNormalizedInteger (pCode : Option Nat) (length : UInt8) : Reads (Int × UInt8) :=
  match pCode with
  | none => return (0, 0)
  | some start =>
      if length > 8 ∨ length < 2 then return (0, 0)
      else do
        let count := length.toNat - 2
        let normbyte ← readAt (.data start)
        let decibyte ← readAt (.data (start + 1))
        let sign ← readAt (.data (start + 2))
        -- The switch has no case for two bytes.
        if count = 0 then return (0, decibyte)
        else do
          let number ← memcpy 8 (numberPlace count) (start + 2) (length.toNat - 2)
          useBuffer 0 (signPlaces sign count) 8
          useBuffer 0 (loadSize count) 8
          return Vscp.getDataCodingNormalizedInteger (normbyte :: decibyte :: number) length

def copiedString (start : Nat) (length : UInt8) : Reads Text := do
  let buf ← copiedText 20 (start + 1) ((length.toNat : Int) - 1)
  return textOfBytes buf

def getDataCodingString (pCode : Option Nat) (length : UInt8) : Reads Text :=
  match pCode with
  | none => return []
  | some start => copiedString start length

def getDataCodingStringInto (pCode : Option Nat) (dataSize : UInt8) : Reads (Option Text) :=
  match pCode with
  | none => return none
  | some start => do
      let strResult ← copiedString start dataSize
      return some strResult

def getMeasurementAsFloat (pNorm : Option Nat) (length : UInt8) : Reads UInt32 :=
  match pNorm with
  | none => return 0
  | some start =>
      if length ≥ 5 then do
        let bytes ← readRange (start + 1) 4
        return UInt32.ofNat (bigNumber bytes)
      else return 0

-- A difference that is an int where it is compared, and one that goes into a uint8_t.
def intDifference (amount : Int) : Reads Int := do
  touchAll [.size amount (2 ^ 31)]
  return amount

def byteSize (amount : Int) : Reads UInt8 := do
  let size ← useSize amount (2 ^ 8)
  return UInt8.ofNat size

def copiedFloat (source bytes : Nat) : Reads Bytes := do
  useBuffer 0 bytes bytes
  let buf ← memcpy bytes 0 source bytes
  useBuffer 0 bytes bytes
  return buf

def bytesBehind (sizeData : UInt16) (offset : Nat) : Reads Bytes := do
  let count ← intDifference ((sizeData.toNat : Int) - offset)
  readRange (offset + 1) (count.toNat - 1)

def stringOfNine (sizeData : UInt16) (offset : Nat) : Reads Bytes := do
  useBuffer 0 9 9
  let bytes ← bytesBehind sizeData offset
  useBuffer 0 bytes.length 9
  zeroEnded 9 bytes

def codedMeasurement (print : Printers) (sizeData : UInt16) (offset : Nat) : Reads Text := do
  let coding ← readAt (.data (0 + offset))
  let type := codingType coding
  if type = 0 then do
    let bytes ← bytesBehind sizeData offset
    return bytes.flatMap fun byte => bitLetters byte ++ [' ']
  else if type = 1 then do
    let bytes ← bytesBehind sizeData offset
    return List.intercalate [','] (bytes.map fun byte => NumberText.decimal byte.toNat)
  else if type = 2 then do
    let strData ← stringOfNine sizeData offset
    return textOfBytes strData
  else if type = 3 then do
    let length ← byteSize ((sizeData.toNat : Int) - offset)
    let number ← getDataCodingInteger (some offset) length
    return print.roundedInteger number
  else if type = 4 then do
    let length ← byteSize ((sizeData.toNat : Int) - offset)
    let number ← getDataCodingNormalizedInteger (some offset) length
    return print.scaledInteger number.1 number.2
  else if type = 5 then do
    let length ← byteSize sizeData.toNat
    let val ← getMeasurementAsFloat (some 0) length
    return print.shortFloat val
  else return []

def levelOffset (vscpClass : UInt16) : Nat := if vscpClass ≥ class2Level1Protocol then 16 else 0

def codingPlace (vscpClass : UInt16) : Nat :=
  if isZoneClass vscpClass then levelOffset vscpClass + 3 else levelOffset vscpClass

def codedAsString (print : Printers) (pev : VscpEvent) : Reads (Option Text) := do
  let offset := levelOffset pev.vscpClass
  let rest ← intDifference ((pev.sizeData.toNat : Int) - offset)
  if rest < 2 then return none
  else do
    let strValue ← codedMeasurement print pev.sizeData (codingPlace pev.vscpClass)
    return some strValue

def floatAsString (pev : VscpEvent) (offset bytes : Nat) : Reads (Option Bytes) :=
  if pev.sizeData.toNat ≠ offset + bytes then return none
  else do
    let buf ← copiedFloat offset bytes
    return some buf

def getMeasurementAsString (print : Printers) (pev : VscpEvent) : Reads (Option Text) :=
  if pev.pdata = none then return none
  else if pev.vscpClass = class2MeasurementStr then do
    let buf ← copiedText 512 4 ((pev.sizeData.toNat : Int) - 4)
    return some (textOfBytes buf)
  else if pev.vscpClass = class2MeasurementFloat then do
    let buf ← floatAsString pev 4 8
    return buf.map fun buf => print.fixedDouble (UInt64.ofNat (littleNumber (mirroredInPlace buf)))
  else if pev.vscpClass = class1Measurement32 then do
    let buf ← floatAsString pev 0 4
    return buf.map fun buf => print.fixedFloat (UInt32.ofNat (littleNumber buf))
  else if pev.vscpClass = class2Level1Measurement32 then do
    let buf ← floatAsString pev 16 4
    return buf.map fun buf => print.fixedFloat (UInt32.ofNat (littleNumber buf))
  else if pev.vscpClass = class1Measurement64 then do
    let buf ← floatAsString pev 0 8
    return buf.map fun buf => print.fixedDouble (UInt64.ofNat (littleNumber buf))
  else if pev.vscpClass = class2Level1Measurement64 then do
    let buf ← floatAsString pev 16 8
    return buf.map fun buf => print.fixedDouble (UInt64.ofNat (littleNumber buf))
  else if isCodedClass pev.vscpClass then codedAsString print pev
  else return none

def eventBlock (pev : VscpEvent) : Access → UInt8 := blockMemory (eventMemory pev)

section decoders

variable (count : Nat) (memory : Access → UInt8) (start : Nat) (length : UInt8)

theorem within_bit_array (pCode : Option Nat) (block : pCode.getD 0 + length.toNat ≤ count) :
    Within (Allowed count) (getDataCodingBitArray pCode length) memory := by
  match pCode with
  | none => exact within_pure _ _ _
  | some start =>
      change start + _ ≤ _ at block
      rw [getDataCodingBitArray, within_ite]
      refine ⟨fun _ => within_pure _ _ _, fun long => ?_⟩
      rw [within_bind, within_range]
      exact ⟨by omega, within_pure _ _ _⟩

theorem within_integer (pCode : Option Nat) (block : pCode.getD 0 + length.toNat ≤ count) :
    Within (Allowed count) (getDataCodingInteger pCode length) memory := by
  match pCode with
  | none => exact within_pure _ _ _
  | some start =>
      change start + _ ≤ _ at block
      rw [getDataCodingInteger, within_ite]
      refine ⟨fun _ => within_pure _ _ _, fun long => ?_⟩
      have two : 2 ≤ length.toNat := Nat.le_of_not_lt fun short => long (UInt8.lt_iff_toNat_lt.mpr short)
      rw [within_bind, within_read, within_bind, within_range]
      change start + 1 < count ∧ _
      exact ⟨by omega, by omega, within_pure _ _ _⟩

theorem sign_places_le (sign : UInt8) (bytes : Nat) : signPlaces sign bytes ≤ numberPlace bytes := by
  rw [signPlaces]
  split
  · exact Nat.le_refl _
  · exact Nat.zero_le _

theorem within_normalized (block : start + length.toNat ≤ count) :
    Within (Allowed count) (getDataCodingNormalizedInteger (some start) length) memory ↔
      (length.toNat = 2 → start + 2 < count) := by
  rw [getDataCodingNormalizedInteger, within_ite]
  have two : (2 : UInt8).toNat = 2 := rfl
  have eight : (8 : UInt8).toNat = 8 := rfl
  by_cases refused : length > 8 ∨ length < 2
  · rw [gt_iff_lt, UInt8.lt_iff_toNat_lt, UInt8.lt_iff_toNat_lt] at refused
    refine iff_of_true ⟨fun _ => within_pure _ _ _, fun taken => ?_⟩ (by omega)
    rw [gt_iff_lt, UInt8.lt_iff_toNat_lt, UInt8.lt_iff_toNat_lt] at taken
    exact absurd refused taken
  · rw [and_iff_right (fun taken => absurd taken refused), imp_iff_right refused]
    rw [gt_iff_lt, UInt8.lt_iff_toNat_lt, UInt8.lt_iff_toNat_lt] at refused
    simp only [within_bind, within_read, within_ite, within_memcpy, within_buffer, within_pure, and_true, value_read]
    change (start < count ∧ start + 1 < count ∧ start + 2 < count ∧ _) ↔ _
    constructor
    · exact fun inside _ => inside.2.2.1
    · intro sign
      have places : numberPlace (length.toNat - 2) + (length.toNat - 2) ≤ 8 ∧ loadSize (length.toNat - 2) ≤ 8 := by
        have few : length.toNat - 2 ≤ 6 := by omega
        interval_cases length.toNat - 2 <;> decide
      refine ⟨by omega, by omega, by omega, fun _ => trivial, fun number => ⟨by omega, ?_, by omega⟩⟩
      have signs := sign_places_le (memory (.data (start + 2))) (length.toNat - 2)
      omega

theorem within_copied_string (block : start + length.toNat ≤ count) :
    Within (Allowed count) (copiedString start length) memory ↔
      1 ≤ length.toNat ∧ Ends 20 (blockCells memory (start + 1) (length.toNat - 1)) := by
  rw [copiedString, within_bind, within_copied_text, and_iff_left (within_pure _ _ _)]
  have small := length.toNat_lt
  by_cases none : length.toNat = 0
  · exact iff_of_false (fun inside => by omega) (fun inside => by omega)
  · have size : ((length.toNat : Int) - 1).toNat = length.toNat - 1 := by omega
    rw [size]
    exact and_congr (iff_of_true (by omega) (by omega)) (and_iff_right (by omega))

theorem within_float (pNorm : Option Nat) (block : pNorm.getD 0 + length.toNat ≤ count) :
    Within (Allowed count) (getMeasurementAsFloat pNorm length) memory := by
  match pNorm with
  | none => exact within_pure _ _ _
  | some start =>
      change start + _ ≤ _ at block
      rw [getMeasurementAsFloat, within_ite]
      refine ⟨fun long => ?_, fun _ => within_pure _ _ _⟩
      have five : 5 ≤ length.toNat := UInt8.le_iff_toNat_le.mp long
      rw [within_bind, within_range]
      exact ⟨by omega, within_pure _ _ _⟩

end decoders

def DataCodingFits (pev : VscpEvent) : Prop :=
  pev.pdata = none ∨ pev.vscpClass ≠ class2Level1Measurement ∨ pev.sizeData ≠ 16

-- A string that ends in its buffer of nine bytes, an integer whose length is a uint8_t and that has a mantissa, and a
-- float of an event whose whole size is a uint8_t.
structure CodedFits (pev : VscpEvent) (place : Nat) : Prop where
  present : place < pev.sizeData.toNat
  string : codingType (eventMemory pev place) = 2 →
    Ends 9 (blockCells (eventBlock pev) (place + 1) (pev.sizeData.toNat - place - 1))
  integer : codingType (eventMemory pev place) = 3 → pev.sizeData.toNat - place < 256
  normalized : codingType (eventMemory pev place) = 4 →
    pev.sizeData.toNat - place < 256 ∧ pev.sizeData.toNat - place ≠ 2
  float : codingType (eventMemory pev place) = 5 → pev.sizeData.toNat < 256

structure TextFits (pev : VscpEvent) : Prop where
  string : pev.vscpClass = class2MeasurementStr →
    4 ≤ pev.sizeData.toNat ∧ Ends 512 (blockCells (eventBlock pev) 4 (pev.sizeData.toNat - 4))
  coded : isCodedClass pev.vscpClass → levelOffset pev.vscpClass ≤ pev.sizeData.toNat ∧
    (pev.sizeData.toNat < levelOffset pev.vscpClass + 2 ∨ CodedFits pev (codingPlace pev.vscpClass))

section event

variable (pev : VscpEvent)

theorem within_data_coding (memory : Access → UInt8) :
    Within (Allowed pev.sizeData.toNat) (getMeasurementDataCoding pev) memory ↔ DataCodingFits pev := by
  have levels : class1Measurement ≠ class2Level1Measurement := by decide
  have one : (1 : UInt16).toNat = 1 := rfl
  unfold getMeasurementDataCoding DataCodingFits
  by_cases refused : pev.pdata = none ∨ pev.sizeData < 1
  · rw [if_pos refused]
    refine iff_of_true (within_pure _ _ _) (refused.imp_right fun short => .inr ?_)
    rintro sixteen
    rw [sixteen] at short
    exact absurd short (by decide)
  · obtain ⟨block, some⟩ := not_or.mp refused
    rw [UInt16.lt_iff_toNat_lt, one] at some
    rw [if_neg refused, or_iff_right block]
    by_cases levelOne : pev.vscpClass = class1Measurement
    · rw [if_pos levelOne, within_read, levelOne]
      exact iff_of_true (Nat.lt_of_not_le (by omega)) (.inl levels)
    · rw [if_neg levelOne]
      by_cases levelTwo : pev.vscpClass = class2Level1Measurement
      · rw [if_pos levelTwo, or_iff_right (not_not.mpr levelTwo), within_ite, within_read,
          and_iff_left (fun _ => within_pure _ _ _), ge_iff_le, UInt16.le_iff_toNat_le, ne_eq, ← UInt16.toNat_inj]
        change (16 ≤ _ → 16 < _) ↔ ¬ _ = 16
        omega
      · rw [if_neg levelTwo]
        refine iff_of_true ?_ (.inl levelTwo)
        split
        · exact within_pure _ _ _
        · split <;> exact within_pure _ _ _

theorem within_difference (count : Nat) (amount : Int) (memory : Access → UInt8) :
    Within (Allowed count) (intDifference amount) memory ↔ 0 ≤ amount ∧ amount < 2 ^ 31 := by
  rw [intDifference, within_bind, within_touch_all, List.forall_mem_singleton]
  exact and_iff_left (within_pure _ _ _)

@[simp] theorem value_difference (amount : Int) (memory : Access → UInt8) :
    value (intDifference amount) memory = amount := rfl

theorem within_byte_size (count : Nat) (amount : Int) (memory : Access → UInt8) :
    Within (Allowed count) (byteSize amount) memory ↔ 0 ≤ amount ∧ amount < 2 ^ 8 := by
  rw [byteSize, within_bind, within_size]
  exact and_iff_left (within_pure _ _ _)

theorem value_byte_size (amount : Nat) (fits : amount < 256) (memory : Access → UInt8) :
    value (byteSize amount) memory = UInt8.ofNat amount := by
  have size := value_size memory amount (2 ^ 8) ⟨by omega, by omega⟩
  rw [byteSize, value_bind, size]
  rfl

variable (sizeData : UInt16) (place : Nat)

theorem within_bytes_behind (present : place < sizeData.toNat)
    (memory : Access → UInt8) : Within (Allowed sizeData.toNat) (bytesBehind sizeData place) memory := by
  have size := sizeData.toNat_lt
  rw [bytesBehind, within_bind, within_difference, within_range, value_difference]
  omega

theorem value_bytes_behind (memory : Access → UInt8) :
    value (bytesBehind sizeData place) memory = blockCells memory (place + 1) (sizeData.toNat - place - 1) := by
  rw [bytesBehind, value_bind, value_range, value_difference]
  congr 1
  omega

theorem within_sized_integer (start : Nat) (present : start < pev.sizeData.toNat) (memory : Access → UInt8) :
    (Within (Allowed pev.sizeData.toNat) (byteSize ((pev.sizeData.toNat : Int) - start)) memory ∧
      Within (Allowed pev.sizeData.toNat)
        (getDataCodingInteger (some start) (value (byteSize ((pev.sizeData.toNat : Int) - start)) memory)) memory) ↔
      pev.sizeData.toNat - start < 256 := by
  have difference : (pev.sizeData.toNat : Int) - start = ((pev.sizeData.toNat - start : Nat) : Int) := by omega
  rw [within_byte_size, difference]
  constructor
  · exact fun inside => by omega
  · intro fits
    rw [value_byte_size _ fits]
    refine ⟨⟨by omega, by omega⟩, within_integer _ _ _ _ ?_⟩
    rw [Option.getD_some, UInt8.toNat_ofNat_of_lt' fits]
    omega

theorem within_sized_normalized (start : Nat) (present : start < pev.sizeData.toNat) (memory : Access → UInt8) :
    (Within (Allowed pev.sizeData.toNat) (byteSize ((pev.sizeData.toNat : Int) - start)) memory ∧
      Within (Allowed pev.sizeData.toNat) (getDataCodingNormalizedInteger (some start)
        (value (byteSize ((pev.sizeData.toNat : Int) - start)) memory)) memory) ↔
      pev.sizeData.toNat - start < 256 ∧ pev.sizeData.toNat - start ≠ 2 := by
  have difference : (pev.sizeData.toNat : Int) - start = ((pev.sizeData.toNat - start : Nat) : Int) := by omega
  rw [within_byte_size, difference]
  by_cases fits : pev.sizeData.toNat - start < 256
  · have length := UInt8.toNat_ofNat_of_lt' fits
    rw [value_byte_size _ fits, within_normalized _ _ _ _ (by rw [length]; omega), length]
    omega
  · exact iff_of_false (fun inside => by omega) (fun inside => fits inside.1)

theorem within_sized_float (memory : Access → UInt8) :
    (Within (Allowed pev.sizeData.toNat) (byteSize pev.sizeData.toNat) memory ∧
      Within (Allowed pev.sizeData.toNat)
        (getMeasurementAsFloat (some 0) (value (byteSize pev.sizeData.toNat) memory)) memory) ↔
      pev.sizeData.toNat < 256 := by
  rw [within_byte_size]
  constructor
  · exact fun inside => by omega
  · intro fits
    rw [value_byte_size _ fits]
    refine ⟨⟨by omega, by omega⟩, within_float _ _ _ _ ?_⟩
    rw [Option.getD_some, UInt8.toNat_ofNat_of_lt' fits]
    omega

theorem coded_fits_iff (present : place < pev.sizeData.toNat) :
    CodedFits pev place ↔
      (codingType (eventMemory pev place) = 2 →
        Ends 9 (blockCells (eventBlock pev) (place + 1) (pev.sizeData.toNat - place - 1))) ∧
      (codingType (eventMemory pev place) = 3 → pev.sizeData.toNat - place < 256) ∧
      (codingType (eventMemory pev place) = 4 →
        pev.sizeData.toNat - place < 256 ∧ pev.sizeData.toNat - place ≠ 2) ∧
      (codingType (eventMemory pev place) = 5 → pev.sizeData.toNat < 256) :=
  ⟨fun fits => ⟨fits.string, fits.integer, fits.normalized, fits.float⟩,
    fun ⟨string, integer, normalized, float⟩ => ⟨present, string, integer, normalized, float⟩⟩

theorem within_nine_bytes (present : place < pev.sizeData.toNat) :
    Within (Allowed pev.sizeData.toNat) (stringOfNine pev.sizeData place) (eventBlock pev) ↔
      Ends 9 (blockCells (eventBlock pev) (place + 1) (pev.sizeData.toNat - place - 1)) := by
  rw [stringOfNine, within_bind, within_buffer, and_iff_right (.inr (by decide)), within_bind,
    and_iff_right (within_bytes_behind pev.sizeData place present _), within_bind, within_buffer, value_bytes_behind,
    length_cells, Nat.zero_add]
  constructor
  · rintro ⟨room, ends⟩
    exact (within_zero_ended _ _ 9 _ (by rw [length_cells]; omega)).mp ends
  · intro ends
    have room := ends_fits 9 _ ends
    rw [length_cells] at room
    exact ⟨.inr room, (within_zero_ended _ _ 9 _ (by rwa [length_cells])).mpr ends⟩

theorem within_coded (print : Printers) (place : Nat) :
    Within (Allowed pev.sizeData.toNat) (codedMeasurement print pev.sizeData place) (eventBlock pev) ↔
      CodedFits pev place := by
  rw [codedMeasurement, within_bind, within_read, value_read, Nat.zero_add]
  by_cases present : place < pev.sizeData.toNat
  · have behind := within_bytes_behind pev.sizeData place present (eventBlock pev)
    rw [and_iff_right (show Allowed pev.sizeData.toNat (.data place) from present)]
    rw [coded_fits_iff pev place present, show eventBlock pev (.data place) = eventMemory pev place from rfl]
    generalize codingType (eventMemory pev place) = type
    by_cases bits : type = 0
    · subst bits
      rw [if_pos rfl, within_bind]
      exact iff_of_true ⟨behind, within_pure _ _ _⟩ (by simp)
    by_cases numbers : type = 1
    · subst numbers
      rw [if_neg bits, if_pos rfl, within_bind]
      exact iff_of_true ⟨behind, within_pure _ _ _⟩ (by simp)
    by_cases string : type = 2
    · subst string
      rw [if_neg bits, if_neg numbers, if_pos rfl, within_bind, within_nine_bytes pev place present,
        and_iff_left (within_pure _ _ _)]
      simp
    by_cases integer : type = 3
    · subst integer
      rw [if_neg bits, if_neg numbers, if_neg string, if_pos rfl, within_bind, within_bind,
        and_iff_left (within_pure _ _ _), within_sized_integer pev place present]
      simp
    by_cases normalized : type = 4
    · subst normalized
      rw [if_neg bits, if_neg numbers, if_neg string, if_neg integer, if_pos rfl, within_bind, within_bind,
        and_iff_left (within_pure _ _ _), within_sized_normalized pev place present]
      simp
    by_cases float : type = 5
    · subst float
      rw [if_neg bits, if_neg numbers, if_neg string, if_neg integer, if_neg normalized, if_pos rfl, within_bind,
        within_bind, and_iff_left (within_pure _ _ _), within_sized_float pev]
      simp
    · rw [if_neg bits, if_neg numbers, if_neg string, if_neg integer, if_neg normalized, if_neg float]
      exact iff_of_true (within_pure _ _ _) ⟨fun same => absurd same string, fun same => absurd same integer,
        fun same => absurd same normalized, fun same => absurd same float⟩
  · exact iff_of_false (fun inside => present inside.1) (fun fits => present fits.present)

theorem within_float_string (offset bytes : Nat) (some : 0 < bytes) (few : bytes < 2 ^ 64)
    (memory : Access → UInt8) :
    Within (Allowed pev.sizeData.toNat) (floatAsString pev offset bytes) memory := by
  rw [floatAsString, within_ite]
  refine ⟨fun _ => within_pure _ _ _, fun exact => ?_⟩
  rw [within_bind, and_iff_left (within_pure _ _ _), copiedFloat, within_bind, within_bind, within_buffer,
    within_memcpy, within_bind, within_buffer, and_iff_left (within_pure _ _ _)]
  omega

theorem within_coded_string (print : Printers) :
    Within (Allowed pev.sizeData.toNat) (codedAsString print pev) (eventBlock pev) ↔
      levelOffset pev.vscpClass ≤ pev.sizeData.toNat ∧
        (pev.sizeData.toNat < levelOffset pev.vscpClass + 2 ∨ CodedFits pev (codingPlace pev.vscpClass)) := by
  have size := pev.sizeData.toNat_lt
  rw [codedAsString, within_bind, within_difference, within_ite, value_difference, within_bind,
    within_coded pev print, and_iff_left (within_pure _ _ _), and_iff_right (fun _ => within_pure _ _ _),
    show (¬ (pev.sizeData.toNat : Int) - levelOffset pev.vscpClass < 2 → CodedFits pev (codingPlace pev.vscpClass)) ↔
      (pev.sizeData.toNat : Int) - levelOffset pev.vscpClass < 2 ∨ CodedFits pev (codingPlace pev.vscpClass)
      from or_iff_not_imp_left.symm]
  refine and_congr ?_ (or_congr_left ?_) <;> omega

theorem within_text (print : Printers) :
    Within (Allowed pev.sizeData.toNat) (getMeasurementAsString print pev) (eventBlock pev) ↔
      pev.pdata = none ∨ TextFits pev := by
  unfold getMeasurementAsString
  by_cases block : pev.pdata = none
  · rw [if_pos block]
    exact iff_of_true (within_pure _ _ _) (.inl block)
  rw [if_neg block, or_iff_right block]
  by_cases string : pev.vscpClass = class2MeasurementStr
  · have plain : ¬ isCodedClass pev.vscpClass := by
      rw [string]
      decide
    have size : ((pev.sizeData.toNat : Int) - 4).toNat = pev.sizeData.toNat - 4 := by omega
    have fits : TextFits pev ↔
        4 ≤ pev.sizeData.toNat ∧ Ends 512 (blockCells (eventBlock pev) 4 (pev.sizeData.toNat - 4)) :=
      ⟨fun fits => fits.string string, fun fits => ⟨fun _ => fits, fun coded => absurd coded plain⟩⟩
    have top := pev.sizeData.toNat_lt
    rw [if_pos string, within_bind, within_copied_text, and_iff_left (within_pure _ _ _), size, fits]
    exact and_congr (by omega) (and_iff_right (by omega))
  rw [if_neg string]
  by_cases coded : isCodedClass pev.vscpClass
  · have other (vscpClass : UInt16) (plain : isCodedClass vscpClass = false) : pev.vscpClass ≠ vscpClass := by
      rintro rfl
      exact absurd coded (Bool.eq_false_iff.mp plain)
    have fits : TextFits pev ↔ levelOffset pev.vscpClass ≤ pev.sizeData.toNat ∧
        (pev.sizeData.toNat < levelOffset pev.vscpClass + 2 ∨ CodedFits pev (codingPlace pev.vscpClass)) :=
      ⟨fun fits => fits.coded coded, fun fits => ⟨fun own => absurd own string, fun _ => fits⟩⟩
    rw [if_neg (other _ (by decide)), if_neg (other _ (by decide)), if_neg (other _ (by decide)),
      if_neg (other _ (by decide)), if_neg (other _ (by decide)), if_pos coded, within_coded_string, fits]
  · refine iff_of_true ?_ ⟨fun own => absurd own string, fun own => absurd own coded⟩
    have float (offset bytes : Nat) (some : 0 < bytes) (few : bytes < 2 ^ 64) (text : Option Bytes → Option Text) :
        Within (Allowed pev.sizeData.toNat) (floatAsString pev offset bytes >>= fun buf => pure (text buf))
          (eventBlock pev) := by
      rw [within_bind]
      exact ⟨within_float_string pev offset bytes some few _, within_pure _ _ _⟩
    split
    · exact float 4 8 (by decide) (by decide) _
    split
    · exact float 0 4 (by decide) (by decide) _
    split
    · exact float 16 4 (by decide) (by decide) _
    split
    · exact float 0 8 (by decide) (by decide) _
    split
    · exact float 16 8 (by decide) (by decide) _
    · exact within_pure _ _ _

end event

section values

variable (memory : Access → UInt8) (start : Nat) (length : UInt8)

theorem value_integer :
    value (getDataCodingInteger (some start) length) memory =
      Vscp.getDataCodingInteger (blockCells memory start length.toNat) length := by
  rw [getDataCodingInteger, value_ite, Vscp.getDataCodingInteger]
  by_cases short : length < 2
  · rw [if_pos short, if_pos short, value_pure]
  · obtain ⟨count, size⟩ : ∃ count, length.toNat = count + 2 :=
      ⟨length.toNat - 2, by have := UInt8.lt_iff_toNat_lt.not.mp short; change ¬ _ < 2 at this; omega⟩
    have loop := decoded_loop (memory (.data start)) (blockCells memory (start + 1) (count + 1))
    rw [length_cells] at loop
    have front : (memory (.data start) :: blockCells memory (start + 1) (count + 1)).getD 1 0 =
        memory (.data (start + 1)) := by
      rw [cells_succ, List.getD_cons_succ, List.getD_cons_zero]
    rw [if_neg short, if_neg short, value_bind, value_bind, value_read, value_range, value_pure, size, cells_succ,
      front, show count + 2 - 1 = count + 1 from rfl, loop]

theorem value_normalized :
    value (getDataCodingNormalizedInteger (some start) length) memory =
      Vscp.getDataCodingNormalizedInteger (blockCells memory start length.toNat) length := by
  by_cases refused : length > 8 ∨ length < 2
  · rw [getDataCodingNormalizedInteger, if_pos refused, Vscp.getDataCodingNormalizedInteger, if_pos refused, value_pure]
  · obtain ⟨count, size⟩ : ∃ count, length.toNat = count + 2 := by
      have long := UInt8.lt_iff_toNat_lt.not.mp (not_or.mp refused).2
      change ¬ _ < 2 at long
      exact ⟨length.toNat - 2, by omega⟩
    have top := length.toNat_lt
    have copied := value_memcpy memory 8 (numberPlace count) (start + 1 + 1) (count + 2 - 2 : Int) (by omega)
    rw [getDataCodingNormalizedInteger, if_neg refused, size, Nat.add_sub_cancel]
    simp only [value_bind, value_read, value_ite, value_pure]
    split
    · rename_i none
      subst none
      rw [Vscp.getDataCodingNormalizedInteger, if_neg refused, size, cells_succ, cells_succ]
      simp [blockCells, bigNumber]
    · push_cast
      rw [show start + 2 = start + 1 + 1 from rfl, copied, cells_succ, cells_succ,
        show (count + 2 - 2 : Int).toNat = count by omega]

theorem value_float :
    value (getMeasurementAsFloat (some start) length) memory =
      Vscp.getMeasurementAsFloat (blockCells memory start length.toNat) length := by
  rw [getMeasurementAsFloat, value_ite, Vscp.getMeasurementAsFloat]
  refine if_ctx_congr Iff.rfl (fun long => ?_) (fun _ => rfl)
  obtain ⟨count, size⟩ : ∃ count, length.toNat = count + 5 := by
    have five : 5 ≤ length.toNat := UInt8.le_iff_toNat_le.mp long
    exact ⟨length.toNat - 5, by omega⟩
  rw [value_bind, value_range, value_pure, size]
  simp only [cells_succ]
  rfl

end values

theorem data_behind (pev : VscpEvent) (place : Nat) :
    pev.dataBytes.drop place = blockCells (eventBlock pev) place (pev.sizeData.toNat - place) := by
  apply List.ext_getElem
  · rw [List.length_drop, data_bytes_length, length_cells]
  · intro i left right
    simp only [VscpEvent.dataBytes, List.getElem_drop, List.getElem_map, List.getElem_range, blockCells]
    rfl

section strings

variable (print : Printers) (pev : VscpEvent)

theorem value_sized (amount : Nat) (fits : amount < 256) :
    value (byteSize amount) (eventBlock pev) = UInt8.ofNat amount ∧ (UInt8.ofNat amount).toNat = amount :=
  ⟨value_byte_size amount fits _, UInt8.toNat_ofNat_of_lt' fits⟩

theorem text_of_front (bytes : Bytes) : textOfBytes (bytes.takeWhile (· ≠ 0)) = textOfBytes bytes := by
  rw [textOfBytes, List.takeWhile_takeWhile, textOfBytes]
  simp

theorem value_nine_bytes (place : Nat) (memory : Access → UInt8) :
    value (stringOfNine pev.sizeData place) memory =
      (blockCells memory (place + 1) (pev.sizeData.toNat - place - 1)).takeWhile (· ≠ 0) := by
  rw [stringOfNine, value_bind, value_bind, value_bind, value_zero_ended, value_bytes_behind]

theorem value_coded (place : Nat) (fits : CodedFits pev place) :
    value (codedMeasurement print pev.sizeData place) (eventBlock pev) =
      if codingType (eventMemory pev place) = 5 then
        print.shortFloat (Vscp.getMeasurementAsFloat pev.dataBytes pev.sizeData.toUInt8)
      else codedText print (pev.dataBytes.drop place) (codingType (eventMemory pev place)) := by
  obtain ⟨present, -, integer, normalized, float⟩ := fits
  obtain ⟨count, size⟩ : ∃ count, pev.sizeData.toNat - place = count + 1 := ⟨pev.sizeData.toNat - place - 1, by omega⟩
  have data : (pev.dataBytes.drop place).drop 1 =
      blockCells (eventBlock pev) (place + 1) (pev.sizeData.toNat - place - 1) := by
    rw [data_behind, size, cells_succ, List.drop_succ_cons, List.drop_zero, Nat.add_sub_cancel]
  have difference : (pev.sizeData.toNat : Int) - place = ((pev.sizeData.toNat - place : Nat) : Int) := by omega
  have length : (pev.dataBytes.drop place).length = pev.sizeData.toNat - place := by
    rw [List.length_drop, data_bytes_length]
  rw [codedMeasurement, value_bind, value_read, Nat.zero_add,
    show eventBlock pev (.data place) = eventMemory pev place from rfl, codedText, data, length, difference]
  generalize codingType (eventMemory pev place) = type at *
  by_cases bits : type = 0
  · subst bits
    rw [if_pos rfl, if_neg (by decide), if_pos rfl, value_bind, value_bytes_behind, value_pure]
  by_cases numbers : type = 1
  · subst numbers
    rw [if_neg bits, if_pos rfl, if_neg (by decide), if_neg bits, if_pos rfl, value_bind, value_bytes_behind,
      value_pure]
  by_cases string : type = 2
  · subst string
    rw [if_neg bits, if_neg numbers, if_pos rfl, if_neg (by decide), if_neg bits, if_neg numbers, if_pos rfl,
      value_bind, value_nine_bytes, value_pure, text_of_front]
  by_cases whole : type = 3
  · obtain ⟨sized, back⟩ := value_sized pev _ (integer whole)
    subst whole
    rw [if_neg bits, if_neg numbers, if_neg string, if_pos rfl, if_neg (by decide), if_neg bits, if_neg numbers,
      if_neg string, if_pos rfl, value_bind, value_bind, value_pure, sized, value_integer, back, data_behind]
  by_cases scaled : type = 4
  · obtain ⟨sized, back⟩ := value_sized pev _ (normalized scaled).1
    subst scaled
    rw [if_neg bits, if_neg numbers, if_neg string, if_neg whole, if_pos rfl, if_neg (by decide), if_neg bits,
      if_neg numbers, if_neg string, if_neg whole, if_pos rfl, value_bind, value_bind, value_pure, sized,
      value_normalized, back, data_behind]
  by_cases short : type = 5
  · obtain ⟨sized, back⟩ := value_sized pev _ (float short)
    subst short
    have all := data_behind pev 0
    rw [List.drop_zero, Nat.sub_zero] at all
    rw [if_neg bits, if_neg numbers, if_neg string, if_neg whole, if_neg scaled, if_pos rfl, if_pos rfl, value_bind,
      value_bind, value_pure, sized, value_float, back, all]
    rfl
  · rw [if_neg bits, if_neg numbers, if_neg string, if_neg whole, if_neg scaled, if_neg short, if_neg short,
      if_neg bits, if_neg numbers, if_neg string, if_neg whole, if_neg scaled, value_pure]

theorem value_float_string (offset bytes : Nat) (few : bytes < 2 ^ 64) :
    value (floatAsString pev offset bytes) (eventBlock pev) =
      if pev.sizeData.toNat ≠ offset + bytes then none else some (pev.dataBytes.drop offset) := by
  rw [floatAsString, value_ite]
  refine if_ctx_congr Iff.rfl (fun _ => rfl) (fun block => ?_)
  rw [value_bind, copiedFloat, value_bind, value_bind, value_bind, value_pure, value_pure,
    value_memcpy _ _ _ _ _ (by omega), data_behind, not_not.mp block, Int.toNat_natCast, Nat.add_sub_cancel_left]

theorem float_measurement_read (offset bytes : Nat) (few : bytes < 2 ^ 64) :
    getFloatMeasurement pev offset bytes =
      (value (floatAsString pev offset bytes) (eventBlock pev)).map littleNumber := by
  rw [value_float_string pev offset bytes few, getFloatMeasurement]
  by_cases block : pev.sizeData.toNat = offset + bytes
  · have length : (pev.dataBytes.drop offset).length = bytes := by
      rw [List.length_drop, data_bytes_length, block, Nat.add_sub_cancel_left]
    rw [if_neg (not_not.mpr block), if_neg (not_not.mpr block), List.take_of_length_le (Nat.le_of_eq length),
      Option.map_some]
  · rw [if_pos block, if_pos block, Option.map_none]

theorem value_coded_string (inside : levelOffset pev.vscpClass ≤ pev.sizeData.toNat ∧
      (pev.sizeData.toNat < levelOffset pev.vscpClass + 2 ∨ CodedFits pev (codingPlace pev.vscpClass))) :
    value (codedAsString print pev) (eventBlock pev) = getCodedMeasurement print pev := by
  rw [codedAsString, value_bind, value_difference, value_ite, getCodedMeasurement,
    show (if pev.vscpClass ≥ class2Level1Protocol then 16 else 0) = levelOffset pev.vscpClass from rfl]
  refine if_ctx_congr (by omega) (fun _ => value_pure _ _) (fun long => ?_)
  have fits := inside.2.resolve_left long
  have first : (pev.dataBytes.drop (codingPlace pev.vscpClass)).getD 0 0 =
      eventMemory pev (codingPlace pev.vscpClass) := by
    have present := fits.present
    obtain ⟨count, size⟩ : ∃ count, pev.sizeData.toNat - codingPlace pev.vscpClass = count + 1 :=
      ⟨pev.sizeData.toNat - codingPlace pev.vscpClass - 1, by omega⟩
    rw [data_behind, size, cells_succ, List.getD_cons_zero]
    rfl
  rw [value_bind, value_pure, value_coded print pev _ fits]
  change _ = if codingType ((pev.dataBytes.drop (codingPlace pev.vscpClass)).getD 0 0) = 5 then _ else
    some (codedText print (pev.dataBytes.drop (codingPlace pev.vscpClass))
      (codingType ((pev.dataBytes.drop (codingPlace pev.vscpClass)).getD 0 0)))
  rw [first]
  exact apply_ite some _ _ _

theorem value_measurement_text (inside : pev.pdata = none ∨ TextFits pev) :
    value (getMeasurementAsString print pev) (eventBlock pev) = Vscp.getMeasurementAsString print pev := by
  unfold getMeasurementAsString Vscp.getMeasurementAsString
  by_cases block : pev.pdata = none
  · rw [if_pos block, if_pos block, value_pure]
  have fits := inside.resolve_left block
  rw [if_neg block, if_neg block]
  by_cases string : pev.vscpClass = class2MeasurementStr
  · obtain ⟨four, -⟩ := fits.string string
    have top := pev.sizeData.toNat_lt
    have size : ((pev.sizeData.toNat : Int) - 4).toNat = pev.sizeData.toNat - 4 := by omega
    rw [if_pos string, if_pos string, value_bind, value_copied_text _ _ _ _ (by omega), value_pure, text_of_front, size,
      data_behind]
  rw [if_neg string, if_neg string]
  simp only [float_measurement_read pev _ 4 (by decide), float_measurement_read pev _ 8 (by decide), Option.map_map]
  split
  · have size : pev.sizeData.toNat ≠ 4 + 8 ↔ pev.sizeData ≠ 12 := not_congr (UInt16.toNat_inj (b := 12))
    rw [value_bind, value_pure, value_float_string pev 4 8 (by decide), apply_ite (Option.map _)]
    exact if_ctx_congr size (fun _ => rfl) (fun _ => rfl)
  split
  · rfl
  split
  · rfl
  split
  · rfl
  split
  · rfl
  split
  · rename_i coded
    exact value_coded_string print pev (fits.coded coded)
  · rfl

-- Where no read leaves the data of the event, the text depends on nothing else.
theorem measurement_text_inside
    (safe : Within (Allowed pev.sizeData.toNat) (getMeasurementAsString print pev) (eventBlock pev)) :
    value (getMeasurementAsString print pev) (eventBlock pev) = Vscp.getMeasurementAsString print pev :=
  value_measurement_text print pev ((within_text pev print).mp safe)

theorem measurement_text_inside_example :
    value (getMeasurementAsString examplePrinters exampleEvent) (eventBlock exampleEvent) =
      Vscp.getMeasurementAsString examplePrinters exampleEvent :=
  measurement_text_inside examplePrinters exampleEvent ((within_text exampleEvent examplePrinters).mpr
    (.inr ⟨fun string => absurd string (by decide), fun _ => ⟨by decide, .inr ⟨by decide,
      fun string => absurd string (by decide), fun _ => by decide, fun _ => by decide, fun _ => by decide⟩⟩⟩))

end strings

def StringFits (memory : Access → UInt8) (start : Nat) (length : UInt8) : Prop :=
  1 ≤ length.toNat ∧ Ends 20 (blockCells memory (start + 1) (length.toNat - 1))

theorem measurement_decoders_inside_iff (print : Printers) (pev : VscpEvent) (memory : Access → UInt8)
    (pCode : Option Nat) (length : UInt8) :
    (Within (Allowed pev.sizeData.toNat) (getMeasurementDataCoding pev) (eventBlock pev) ↔ DataCodingFits pev) ∧
      (Within (Allowed pev.sizeData.toNat) (getMeasurementAsString print pev) (eventBlock pev) ↔
        pev.pdata = none ∨ TextFits pev) ∧
      Within (Allowed (pCode.getD 0 + length.toNat)) (getDataCodingBitArray pCode length) memory ∧
      Within (Allowed (pCode.getD 0 + length.toNat)) (getDataCodingInteger pCode length) memory ∧
      (Within (Allowed (pCode.getD 0 + length.toNat)) (getDataCodingNormalizedInteger pCode length) memory ↔
        pCode = none ∨ length.toNat ≠ 2) ∧
      (Within (Allowed (pCode.getD 0 + length.toNat)) (getDataCodingString pCode length) memory ↔
        ∀ start, pCode = some start → StringFits memory start length) ∧
      (Within (Allowed (pCode.getD 0 + length.toNat)) (getDataCodingStringInto pCode length) memory ↔
        ∀ start, pCode = some start → StringFits memory start length) := by
  refine ⟨within_data_coding pev _, within_text pev print, within_bit_array _ _ _ _ (Nat.le_refl _),
    within_integer _ _ _ _ (Nat.le_refl _), ?_, ?_, ?_⟩
  · match pCode with
    | none => exact iff_of_true (within_pure _ _ _) (.inl rfl)
    | some start =>
        rw [Option.getD_some, within_normalized _ _ _ _ (Nat.le_refl _), or_iff_right (Option.some_ne_none start)]
        omega
  · match pCode with
    | none => exact iff_of_true (within_pure _ _ _) (fun start none => absurd none.symm (Option.some_ne_none start))
    | some start =>
        rw [Option.getD_some, getDataCodingString, within_copied_string _ _ _ _ (Nat.le_refl _)]
        exact ⟨fun fits place same => Option.some_inj.mp same ▸ fits, fun all => all start rfl⟩
  · match pCode with
    | none => exact iff_of_true (within_pure _ _ _) (fun start none => absurd none.symm (Option.some_ne_none start))
    | some start =>
        rw [Option.getD_some, getDataCodingStringInto, within_bind, and_iff_left (within_pure _ _ _),
          within_copied_string _ _ _ _ (Nat.le_refl _)]
        exact ⟨fun fits place same => Option.some_inj.mp same ▸ fits, fun all => all start rfl⟩

def guidOnly : VscpEvent :=
  { exampleEvent with vscpClass := 522, vscpType := 6, sizeData := 16, pdata := some (List.replicate 16 0) }

def tenLetters : VscpEvent :=
  { exampleEvent with vscpClass := 10, vscpType := 6, sizeData := 11, pdata := some (0x40 :: List.replicate 10 65) }

theorem decoders_leave_the_block :
    ¬ Within (Allowed guidOnly.sizeData.toNat) (getMeasurementDataCoding guidOnly) (eventBlock guidOnly) ∧
      ¬ Within (Allowed tenLetters.sizeData.toNat) (getMeasurementAsString examplePrinters tenLetters)
        (eventBlock tenLetters) :=
  ⟨fun inside => absurd (inside (.data 16) (by decide)) (by decide),
    fun inside => absurd (inside (.buffer 9 9) (by decide)) (by decide)⟩

end Vscp.Decoding
