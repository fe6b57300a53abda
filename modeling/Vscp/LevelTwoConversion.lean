import Vscp.MeasurementAccess

set_option autoImplicit false

namespace Vscp

open ByteNumber
open RemoteTcp (Text)

def inFamily (base vscpClass : UInt16) : Bool :=
  vscpClass = base ∨ vscpClass = base + 1 ∨ vscpClass = base + 2 ∨ vscpClass = base + 3 ∨ vscpClass = base + 4

def isMeasurement (pev : VscpEvent) : Bool :=
  inFamily class1Measurement pev.vscpClass || pev.vscpClass == class1Data ||
    inFamily class2Level1Measurement pev.vscpClass || inFamily class1MeasureZone pev.vscpClass ||
    inFamily class2Level1MeasureZone pev.vscpClass || inFamily class1SetValueZone pev.vscpClass ||
    inFamily class2Level1SetValueZone pev.vscpClass || inFamily class1Measurement32 pev.vscpClass ||
    inFamily class2Level1Measurement32 pev.vscpClass || inFamily class1Measurement64 pev.vscpClass ||
    inFamily class2Level1Measurement64 pev.vscpClass || pev.vscpClass == class2MeasurementStr ||
    pev.vscpClass == class2MeasurementFloat

-- std::stod, which throws where there is no number, and the double a byte swap of its integer part makes.
structure Doubles where
  stod : Text → Option UInt64
  swapped : UInt64 → UInt64

def getMeasurementFloat64AsString (print : Printers) (pev : VscpEvent) : Option Text :=
  let offset := if pev.vscpClass ≥ class2Level1Protocol then 16 else 0
  (getFloatMeasurement pev offset 8).map fun number => print.fixedDouble (UInt64.ofNat number)

-- `stale` is what the buffer for a text holds before; the text is put in without a zero behind it.
def getMeasurementAsDouble (print : Printers) (doubles : Doubles) (stale : Bytes) (pev : VscpEvent) : Option UInt64 :=
  if pev.vscpClass = class1Measurement ∨ pev.vscpClass = class1Data ∨ pev.vscpClass = class2Level1Measurement ∨
      pev.vscpClass = class1MeasureZone ∨ pev.vscpClass = class1SetValueZone then
    (getMeasurementAsString print pev).bind doubles.stod
  else if pev.vscpClass = class1Measurement64 then (getMeasurementFloat64AsString print pev).bind doubles.stod
  else if pev.vscpClass = class2MeasurementStr then
    if pev.sizeData = 0 ∨ pev.pdata = none then none
    else doubles.stod (textOfBytes (pev.dataBytes.drop 4 ++ stale))
  else if pev.vscpClass = class2MeasurementFloat then
    some (UInt64.ofNat (littleNumber ((pev.dataBytes.drop 4).take 8)))
  else none

structure LevelTwoFields where
  index : UInt8
  zone : UInt8
  subzone : UInt8
  unit : UInt8
deriving DecidableEq

def LevelTwoFields.bytes (fields : LevelTwoFields) : Bytes := [fields.index, fields.zone, fields.subzone, fields.unit]

def noFields : LevelTwoFields := ⟨0, 0, 0, 0⟩

def codedFields (pev : VscpEvent) : LevelTwoFields :=
  ⟨datacodingIndex (eventMemory pev 0), 0, 0, datacodingUnit (eventMemory pev 0)⟩

def leadingFields (pev : VscpEvent) : LevelTwoFields := ⟨eventMemory pev 0, eventMemory pev 1, eventMemory pev 2, 0⟩

def toLevelTwoFloat (pev : VscpEvent) (fields : LevelTwoFields) (val64 : UInt64) : VscpEvent :=
  { pev with
    vscpClass := class2MeasurementFloat
    sizeData := 4 + 8
    pdata := some (fields.bytes ++ numberBytes 8 val64.toNat) }

def toLevelTwoStr (pev : VscpEvent) (fields : LevelTwoFields) (strval : Text) : VscpEvent :=
  { pev with
    vscpClass := class2MeasurementStr
    sizeData := 4 + UInt16.ofNat strval.length
    pdata := some (fields.bytes ++ (strval.map fun letter => UInt8.ofNat letter.toNat) ++ [0]) }

def convertLevel1MeasurementToLevel2Double (print : Printers) (doubles : Doubles) (stale : Bytes) (pev : VscpEvent) :
    Bool × VscpEvent :=
  if pev.pdata = none then (false, pev)
  else if !isMeasurement pev then (false, pev)
  else
    match getMeasurementAsDouble print doubles stale pev with
    | none => (false, pev)
    | some val64 =>
        let val64 := doubles.swapped val64
        if inFamily class1Measurement pev.vscpClass then (true, toLevelTwoFloat pev (codedFields pev) val64)
        else if inFamily class1MeasureZone pev.vscpClass then (true, toLevelTwoFloat pev noFields val64)
        else if inFamily class1Measurement32 pev.vscpClass then (true, toLevelTwoFloat pev noFields val64)
        -- The classes of this branch are taken by the second one.
        else if inFamily class1MeasureZone pev.vscpClass then (true, toLevelTwoFloat pev (leadingFields pev) val64)
        else if inFamily class1SetValueZone pev.vscpClass then (true, toLevelTwoFloat pev (leadingFields pev) val64)
        else (false, pev)

def convertLevel1MeasurementToLevel2String (print : Printers) (pev : VscpEvent) : Bool × VscpEvent :=
  if pev.pdata = none then (false, pev)
  else if !isMeasurement pev then (false, pev)
  else
    match getMeasurementAsString print pev with
    | none => (false, pev)
    | some strval =>
        if 4 + strval.length + 1 > maxData then (false, pev)
        else if inFamily class1Measurement pev.vscpClass then (true, toLevelTwoStr pev (codedFields pev) strval)
        else if inFamily class1Measurement64 pev.vscpClass then (true, toLevelTwoStr pev noFields strval)
        else if inFamily class1Measurement32 pev.vscpClass then (true, toLevelTwoStr pev noFields strval)
        else if inFamily class1MeasureZone pev.vscpClass then (true, toLevelTwoStr pev (leadingFields pev) strval)
        else if inFamily class1SetValueZone pev.vscpClass then (true, toLevelTwoStr pev (leadingFields pev) strval)
        else (false, pev)

-- What a Level I event has in its coding byte and, in a zone class, in the three bytes in front of it; none where
-- the event is no Level I measurement or ends before the coding byte.
def levelOneFields (pev : VscpEvent) : Option LevelTwoFields :=
  if inFamily class1Measurement pev.vscpClass ∨ pev.vscpClass = class1Data then
    if pev.sizeData.toNat < 1 then none else some (codedFields pev)
  else if inFamily class1MeasureZone pev.vscpClass ∨ inFamily class1SetValueZone pev.vscpClass then
    if pev.sizeData.toNat < 4 then none
    else some { leadingFields pev with unit := datacodingUnit (eventMemory pev 3) }
  else if inFamily class1Measurement64 pev.vscpClass ∨ inFamily class1Measurement32 pev.vscpClass then some noFields
  else none

def levelTwoFields (pev : VscpEvent) : LevelTwoFields :=
  ⟨eventMemory pev 0, eventMemory pev 1, eventMemory pev 2, eventMemory pev 3⟩

structure SameIdentity (pev converted : VscpEvent) (fields : LevelTwoFields) : Prop where
  fields : levelTwoFields converted = fields
  vscpType : converted.vscpType = pev.vscpType
  guid : converted.guid = pev.guid

def Unchanged (pev : VscpEvent) (answer : Bool × VscpEvent) : Prop := answer.1 = false → answer.2 = pev

structure IdentityKept (pev : VscpEvent) (fields : LevelTwoFields) (first second : Bool × VscpEvent) : Prop where
  both : first.1 = true → second.1 = true → SameIdentity pev first.2 fields ∧ SameIdentity pev second.2 fields
  first : Unchanged pev first
  second : Unchanged pev second

def Readable (print : Printers) (doubles : Doubles) (stale : Bytes) (pev : VscpEvent) : Prop :=
  pev.pdata ≠ none ∧ (getMeasurementAsDouble print doubles stale pev).isSome ∧
    ∃ strval, getMeasurementAsString print pev = some strval ∧ 4 + strval.length + 1 ≤ maxData

def IdentityEncoded (pev : VscpEvent) (fields : LevelTwoFields) : Prop :=
  (pev.vscpClass = class1MeasureZone → fields = noFields) ∧
    (pev.vscpClass = class1SetValueZone → fields.unit = 0)

section refused

variable (pev : VscpEvent)

theorem unchanged_refused : Unchanged pev (false, pev) := fun _ => rfl

theorem unchanged_taken (converted : VscpEvent) : Unchanged pev (true, converted) := fun refused => by cases refused

theorem unchanged_ite (test : Prop) [Decidable test] (first second : Bool × VscpEvent) (left : Unchanged pev first)
    (right : Unchanged pev second) : Unchanged pev (if test then first else second) := by
  split
  · exact left
  · exact right

theorem double_unchanged (print : Printers) (doubles : Doubles) (stale : Bytes) :
    Unchanged pev (convertLevel1MeasurementToLevel2Double print doubles stale pev) := by
  unfold convertLevel1MeasurementToLevel2Double
  refine unchanged_ite pev _ _ _ (unchanged_refused pev) (unchanged_ite pev _ _ _ (unchanged_refused pev) ?_)
  cases getMeasurementAsDouble print doubles stale pev with
  | none => exact unchanged_refused pev
  | some val64 =>
      exact unchanged_ite pev _ _ _ (unchanged_taken pev _) (unchanged_ite pev _ _ _ (unchanged_taken pev _)
        (unchanged_ite pev _ _ _ (unchanged_taken pev _) (unchanged_ite pev _ _ _ (unchanged_taken pev _)
          (unchanged_ite pev _ _ _ (unchanged_taken pev _) (unchanged_refused pev)))))

theorem string_unchanged (print : Printers) : Unchanged pev (convertLevel1MeasurementToLevel2String print pev) := by
  unfold convertLevel1MeasurementToLevel2String
  refine unchanged_ite pev _ _ _ (unchanged_refused pev) (unchanged_ite pev _ _ _ (unchanged_refused pev) ?_)
  cases getMeasurementAsString print pev with
  | none => exact unchanged_refused pev
  | some strval =>
      exact unchanged_ite pev _ _ _ (unchanged_refused pev) (unchanged_ite pev _ _ _ (unchanged_taken pev _)
        (unchanged_ite pev _ _ _ (unchanged_taken pev _) (unchanged_ite pev _ _ _ (unchanged_taken pev _)
          (unchanged_ite pev _ _ _ (unchanged_taken pev _) (unchanged_ite pev _ _ _ (unchanged_taken pev _)
            (unchanged_refused pev))))))

end refused

section taken

variable (print : Printers) (doubles : Doubles) (stale : Bytes) (pev : VscpEvent)

theorem converted_readable (double : (convertLevel1MeasurementToLevel2Double print doubles stale pev).1 = true)
    (string : (convertLevel1MeasurementToLevel2String print pev).1 = true) : Readable print doubles stale pev := by
  unfold convertLevel1MeasurementToLevel2Double at double
  unfold convertLevel1MeasurementToLevel2String at string
  by_cases missing : pev.pdata = none
  · rw [if_pos missing] at double
    cases double
  · rw [if_neg missing] at double string
    by_cases measurement : (!isMeasurement pev) = true
    · rw [if_pos measurement] at double
      cases double
    · rw [if_neg measurement] at double string
      cases read : getMeasurementAsDouble print doubles stale pev with
      | none =>
          rw [read] at double
          cases double
      | some val64 =>
          cases shown : getMeasurementAsString print pev with
          | none =>
              rw [shown] at string
              cases string
          | some strval =>
              rw [shown] at string
              refine ⟨missing, by rw [read]; rfl, strval, shown, ?_⟩
              by_contra long
              simp only [if_pos (Nat.not_le.mp long)] at string
              cases string

def Converts (answer : Bool × VscpEvent) (fields : LevelTwoFields) : Prop :=
  answer.1 = true ∧ SameIdentity pev answer.2 fields

variable (fields : LevelTwoFields)

theorem level_two_float (val64 : UInt64) :
    Converts pev (true, toLevelTwoFloat pev fields val64) fields := ⟨rfl, rfl, rfl, rfl⟩

theorem level_two_str (strval : Text) :
    Converts pev (true, toLevelTwoStr pev fields strval) fields := ⟨rfl, rfl, rfl, rfl⟩

theorem taken_measurement (own : pev.vscpClass = class1Measurement ∨ pev.vscpClass = class1MeasureZone ∨
    pev.vscpClass = class1SetValueZone) : isMeasurement pev = true := by
  rw [isMeasurement]
  obtain own | own | own := own <;>
  · rw [own]
    decide

theorem converted_fields (readable : Readable print doubles stale pev) :
    (pev.vscpClass = class1Measurement →
      Converts pev (convertLevel1MeasurementToLevel2Double print doubles stale pev) (codedFields pev) ∧
        Converts pev (convertLevel1MeasurementToLevel2String print pev) (codedFields pev)) ∧
    (pev.vscpClass = class1MeasureZone →
      Converts pev (convertLevel1MeasurementToLevel2Double print doubles stale pev) noFields ∧
        Converts pev (convertLevel1MeasurementToLevel2String print pev) (leadingFields pev)) ∧
    (pev.vscpClass = class1SetValueZone →
      Converts pev (convertLevel1MeasurementToLevel2Double print doubles stale pev) (leadingFields pev) ∧
        Converts pev (convertLevel1MeasurementToLevel2String print pev) (leadingFields pev)) := by
  obtain ⟨present, read, strval, shown, fits⟩ := readable
  obtain ⟨val64, read⟩ := Option.isSome_iff_exists.mp read
  unfold convertLevel1MeasurementToLevel2Double convertLevel1MeasurementToLevel2String
  simp only [if_neg present, read, shown, if_neg (Nat.not_lt.mpr fits)]
  refine ⟨fun own => ?_, fun own => ?_, fun own => ?_⟩
  · have measurement := taken_measurement pev (.inl own)
    have family : inFamily class1Measurement pev.vscpClass = true := by
      rw [own]
      decide
    simp only [measurement, Bool.not_true, Bool.false_eq_true, if_false, family, if_true]
    exact ⟨level_two_float pev _ _, level_two_str pev _ _⟩
  · have measurement := taken_measurement pev (.inr (.inl own))
    have family : inFamily class1Measurement pev.vscpClass = false ∧
        inFamily class1Measurement64 pev.vscpClass = false ∧ inFamily class1Measurement32 pev.vscpClass = false ∧
        inFamily class1MeasureZone pev.vscpClass = true := by
      rw [own]
      decide
    obtain ⟨notPlain, not64, not32, zone⟩ := family
    simp only [measurement, Bool.not_true, Bool.false_eq_true, if_false, notPlain, not64, not32, zone, if_true]
    exact ⟨level_two_float pev _ _, level_two_str pev _ _⟩
  · have measurement := taken_measurement pev (.inr (.inr own))
    have family : inFamily class1Measurement pev.vscpClass = false ∧
        inFamily class1Measurement64 pev.vscpClass = false ∧ inFamily class1Measurement32 pev.vscpClass = false ∧
        inFamily class1MeasureZone pev.vscpClass = false ∧
        inFamily class1SetValueZone pev.vscpClass = true := by
      rw [own]
      decide
    obtain ⟨notPlain, not64, not32, notZone, setValue⟩ := family
    simp only [measurement, Bool.not_true, Bool.false_eq_true, if_false, notPlain, not64, not32, notZone, setValue,
      if_true]
    exact ⟨level_two_float pev _ _, level_two_str pev _ _⟩

theorem read_class (encoded : levelOneFields pev = some fields)
    (read : (getMeasurementAsDouble print doubles stale pev).isSome) :
    pev.vscpClass = class1Measurement ∨ pev.vscpClass = class1Data ∨ pev.vscpClass = class1MeasureZone ∨
      pev.vscpClass = class1SetValueZone ∨ pev.vscpClass = class1Measurement64 := by
  have unread (vscpClass : UInt16) (above : class2Level1Protocol ≤ vscpClass)
      (families : ¬ (inFamily class1Measurement vscpClass ∨ vscpClass = class1Data) ∧
        ¬ (inFamily class1MeasureZone vscpClass ∨ inFamily class1SetValueZone vscpClass) ∧
        ¬ (inFamily class1Measurement64 vscpClass ∨ inFamily class1Measurement32 vscpClass)) :
      pev.vscpClass ≠ vscpClass := by
    intro own
    rw [levelOneFields, own, if_neg families.1, if_neg families.2.1, if_neg families.2.2] at encoded
    cases encoded
  have not522 := unread class2Level1Measurement (by decide) (by decide)
  have notStr := unread class2MeasurementStr (by decide) (by decide)
  have notFloat := unread class2MeasurementFloat (by decide) (by decide)
  by_contra others
  simp only [not_or] at others
  obtain ⟨not10, not15, not65, not85, not60⟩ := others
  rw [getMeasurementAsDouble, if_neg (by simp only [not_or]; exact ⟨not10, not15, not522, not65, not85⟩),
    if_neg not60, if_neg notStr, if_neg notFloat] at read
  cases read

theorem double_refuses (own : pev.vscpClass = class1Data ∨ pev.vscpClass = class1Measurement64) :
    (convertLevel1MeasurementToLevel2Double print doubles stale pev).1 = false := by
  have families : inFamily class1Measurement pev.vscpClass = false ∧ inFamily class1MeasureZone pev.vscpClass = false ∧
      inFamily class1Measurement32 pev.vscpClass = false ∧ inFamily class1SetValueZone pev.vscpClass = false := by
    obtain own | own := own <;>
    · rw [own]
      decide
  obtain ⟨notPlain, notZone, not32, notSetValue⟩ := families
  unfold convertLevel1MeasurementToLevel2Double
  simp only [notPlain, notZone, not32, notSetValue, Bool.false_eq_true, if_false]
  cases getMeasurementAsDouble print doubles stale pev <;> simp only [ite_self]

theorem plain_fields (encoded : levelOneFields pev = some fields)
    (own : pev.vscpClass = class1Measurement) : fields = codedFields pev := by
  have family : inFamily class1Measurement pev.vscpClass ∨ pev.vscpClass = class1Data := by
    rw [own]
    decide
  rw [levelOneFields, if_pos family] at encoded
  split at encoded
  · cases encoded
  · exact (Option.some.inj encoded).symm

theorem zone_fields (encoded : levelOneFields pev = some fields)
    (own : pev.vscpClass = class1MeasureZone ∨ pev.vscpClass = class1SetValueZone) :
    fields = ⟨eventMemory pev 0, eventMemory pev 1, eventMemory pev 2, datacodingUnit (eventMemory pev 3)⟩ := by
  have families : ¬ (inFamily class1Measurement pev.vscpClass ∨ pev.vscpClass = class1Data) ∧
      (inFamily class1MeasureZone pev.vscpClass ∨ inFamily class1SetValueZone pev.vscpClass) := by
    obtain own | own := own <;>
    · rw [own]
      decide
  rw [levelOneFields, if_neg families.1, if_pos families.2] at encoded
  split at encoded
  · cases encoded
  · exact (Option.some.inj encoded).symm

theorem kept_iff (first second : LevelTwoFields)
    (double : Converts pev (convertLevel1MeasurementToLevel2Double print doubles stale pev) first)
    (string : Converts pev (convertLevel1MeasurementToLevel2String print pev) second) :
    IdentityKept pev fields (convertLevel1MeasurementToLevel2Double print doubles stale pev)
        (convertLevel1MeasurementToLevel2String print pev) ↔ first = fields ∧ second = fields := by
  constructor
  · intro kept
    obtain ⟨left, right⟩ := kept.both double.1 string.1
    exact ⟨double.2.fields.symm.trans left.fields, string.2.fields.symm.trans right.fields⟩
  · rintro ⟨left, right⟩
    rw [left] at double
    rw [right] at string
    exact ⟨fun _ _ => ⟨double.2, string.2⟩, double_unchanged pev print doubles stale, string_unchanged pev print⟩

theorem encoded_kept_iff (encoded : levelOneFields pev = some fields) :
    IdentityKept pev fields (convertLevel1MeasurementToLevel2Double print doubles stale pev)
        (convertLevel1MeasurementToLevel2String print pev) ↔
      (Readable print doubles stale pev → IdentityEncoded pev fields) := by
  have unchanged := And.intro (double_unchanged pev print doubles stale) (string_unchanged pev print)
  by_cases readable : Readable print doubles stale pev
  · obtain ⟨plain, zone, setValue⟩ := converted_fields print doubles stale pev readable
    have other (not65 : pev.vscpClass ≠ class1MeasureZone) (not85 : pev.vscpClass ≠ class1SetValueZone) :
        Readable print doubles stale pev → IdentityEncoded pev fields :=
      fun _ => ⟨fun own => absurd own not65, fun own => absurd own not85⟩
    have refuses (own : pev.vscpClass = class1Data ∨ pev.vscpClass = class1Measurement64) :
        IdentityKept pev fields (convertLevel1MeasurementToLevel2Double print doubles stale pev)
            (convertLevel1MeasurementToLevel2String print pev) ↔
          (Readable print doubles stale pev → IdentityEncoded pev fields) := by
      have refused := double_refuses print doubles stale pev own
      have zones : pev.vscpClass ≠ class1MeasureZone ∧ pev.vscpClass ≠ class1SetValueZone := by
        obtain own | own := own <;>
        · rw [own]
          decide
      refine iff_of_true ⟨fun taken => ?_, unchanged.1, unchanged.2⟩ (other zones.1 zones.2)
      cases refused.symm.trans taken
    obtain own | own | own | own | own := read_class print doubles stale pev fields encoded readable.2.1
    · have coded := (plain_fields pev fields encoded own).symm
      obtain ⟨double, string⟩ := plain own
      rw [kept_iff print doubles stale pev fields _ _ double string]
      exact iff_of_true ⟨coded, coded⟩ (other (by rw [own]; decide) (by rw [own]; decide))
    · exact refuses (.inl own)
    · have leading := zone_fields pev fields encoded (.inl own)
      obtain ⟨double, string⟩ := zone own
      rw [kept_iff print doubles stale pev fields _ _ double string]
      constructor
      · intro same _
        exact ⟨fun _ => same.1.symm, fun setValue => absurd (own.symm.trans setValue) (by decide)⟩
      · intro condition
        have none := (condition readable).1 own
        refine ⟨none.symm, ?_⟩
        rw [none] at leading ⊢
        have parts := LevelTwoFields.mk.inj leading
        rw [leadingFields, ← parts.1, ← parts.2.1, ← parts.2.2.1]
        rfl
    · have leading := zone_fields pev fields encoded (.inr own)
      obtain ⟨double, string⟩ := setValue own
      rw [kept_iff print doubles stale pev fields _ _ double string, and_self]
      constructor
      · intro same _
        exact ⟨fun zone => absurd (own.symm.trans zone) (by decide), fun _ => (congrArg LevelTwoFields.unit same).symm⟩
      · intro condition
        have unit := (condition readable).2 own
        rw [leading] at unit ⊢
        rw [leadingFields, LevelTwoFields.mk.injEq]
        exact ⟨rfl, rfl, rfl, unit.symm⟩
    · exact refuses (.inr own)
  · refine iff_of_true ⟨fun double string => ?_, unchanged.1, unchanged.2⟩ (fun read => absurd read readable)
    exact absurd (converted_readable print doubles stale pev double string) readable

end taken

theorem conversions_keep_identity_iff (print : Printers) (doubles : Doubles) (stale : Bytes) (pev : VscpEvent) :
    (∀ fields, levelOneFields pev = some fields →
      (IdentityKept pev fields (convertLevel1MeasurementToLevel2Double print doubles stale pev)
          (convertLevel1MeasurementToLevel2String print pev) ↔
        (Readable print doubles stale pev → IdentityEncoded pev fields))) ∧
      Unchanged pev (convertLevel1MeasurementToLevel2Double print doubles stale pev) ∧
        Unchanged pev (convertLevel1MeasurementToLevel2String print pev) :=
  ⟨encoded_kept_iff print doubles stale pev, double_unchanged pev print doubles stale, string_unchanged pev print⟩

def exampleDoubles : Doubles :=
  { stod := fun str => if str = ['5'] then some 0x4014000000000000 else none
    swapped := fun bits => if bits = 0x4014000000000000 then 0x4394000000000000 else bits }

def zoneMeasurement : VscpEvent :=
  { exampleEvent with vscpClass := 65, vscpType := 6, sizeData := 5, pdata := some [2, 3, 4, 0x78, 5] }

theorem conversions_keep_identity_iff_zone :
    IdentityKept zoneMeasurement ⟨2, 3, 4, 3⟩
        (convertLevel1MeasurementToLevel2Double examplePrinters exampleDoubles [] zoneMeasurement)
        (convertLevel1MeasurementToLevel2String examplePrinters zoneMeasurement) ↔
      (Readable examplePrinters exampleDoubles [] zoneMeasurement → IdentityEncoded zoneMeasurement ⟨2, 3, 4, 3⟩) :=
  (conversions_keep_identity_iff examplePrinters exampleDoubles [] zoneMeasurement).1 ⟨2, 3, 4, 3⟩ rfl

theorem zone_event_converted_differently :
    (convertLevel1MeasurementToLevel2Double examplePrinters exampleDoubles [] zoneMeasurement).1 = true ∧
      levelTwoFields (convertLevel1MeasurementToLevel2Double examplePrinters exampleDoubles [] zoneMeasurement).2 =
        ⟨0, 0, 0, 0⟩ ∧
      (convertLevel1MeasurementToLevel2String examplePrinters zoneMeasurement).1 = true ∧
      levelTwoFields (convertLevel1MeasurementToLevel2String examplePrinters zoneMeasurement).2 = ⟨2, 3, 4, 0⟩ ∧
      levelOneFields zoneMeasurement = some ⟨2, 3, 4, 3⟩ := by
  decide

end Vscp
