import Vscp.IntegerMeasurement
import Vscp.Lib.TracedRead

set_option autoImplicit false

namespace Vscp

open ByteNumber
open RemoteTcp (Text)
open TracedRead

def class2Protocol : UInt16 := 1024

-- The branches of the four functions, which no class falls into two of.
inductive MeasurementKind
  | plain
  | zoned
  | short32
  | long64
  | text
  | float
  | other
deriving DecidableEq

def kindOf (vscpClass : UInt16) : MeasurementKind :=
  if vscpClass = class1Measurement ∨ vscpClass = class1Data ∨ vscpClass = class2Level1Measurement then .plain
  else if isZoneClass vscpClass then .zoned
  else if vscpClass = class1Measurement32 ∨ vscpClass = class2Level1Measurement32 then .short32
  else if vscpClass = class1Measurement64 ∨ vscpClass = class2Level1Measurement64 then .long64
  else if vscpClass = class2MeasurementStr then .text
  else if vscpClass = class2MeasurementFloat then .float
  else .other

def guidOffset (vscpClass : UInt16) : Nat :=
  if class2Level1Protocol ≤ vscpClass ∧ vscpClass < class2Protocol then 16 else 0

def negativeError : Int := VscpError.error.code

def readByte (place : Nat) : Traced Nat UInt8 Int := do
  let byte ← readAt place
  return byte.toNat

def readTextField (pev : VscpEvent) (place : Nat) : Traced Nat UInt8 Int :=
  if pev.pdata = none ∨ pev.sizeData < 4 then return negativeError else readByte place

def readFloatField (pev : VscpEvent) (place : Nat) : Traced Nat UInt8 Int :=
  if pev.pdata = none ∨ pev.sizeData ≠ 12 then return negativeError else readByte place

def getMeasurementUnit (pev : VscpEvent) : Traced Nat UInt8 Int :=
  let offset := guidOffset pev.vscpClass
  match kindOf pev.vscpClass with
  | .plain | .zoned =>
      if pev.pdata = none ∨ pev.sizeData.toNat < offset + 1 then return negativeError
      else do
        let byte ← readAt (offset + 0)
        return (datacodingUnit byte).toNat
  | .short32 => return 0
  | .long64 => return 0
  | .text => readTextField pev 3
  | .float => readFloatField pev 3
  | .other => return negativeError

def getMeasurementSensorIndex (pev : VscpEvent) : Traced Nat UInt8 Int :=
  let offset := guidOffset pev.vscpClass
  if pev.pdata = none ∨ pev.sizeData = 0 then return -1
  else
    match kindOf pev.vscpClass with
    | .plain => do
        let byte ← readAt (offset + 0)
        return (datacodingIndex byte).toNat
    | .zoned =>
        if pev.pdata = none ∨ pev.sizeData.toNat ≥ offset + 3 then return -1 else readByte (offset + 0)
    | .short32 => return 0
    | .long64 => return 0
    | .text => readTextField pev 0
    | .float => readFloatField pev 0
    | .other => return negativeError

def getMeasurementZone (pev : VscpEvent) : Traced Nat UInt8 Int :=
  let offset := guidOffset pev.vscpClass
  if pev.pdata = none ∨ pev.sizeData = 0 then return -1
  else
    match kindOf pev.vscpClass with
    | .plain => return 0
    | .zoned =>
        if pev.pdata = none ∨ pev.sizeData.toNat ≥ offset + 3 then return 0 else readByte (offset + 1)
    | .short32 => return 0
    | .long64 => return 0
    | .text => readTextField pev 2
    | .float => readFloatField pev 2
    | .other => return negativeError

def getMeasurementSubZone (pev : VscpEvent) : Traced Nat UInt8 Int :=
  let offset := guidOffset pev.vscpClass
  if pev.pdata = none ∨ pev.sizeData = 0 then return -1
  else
    match kindOf pev.vscpClass with
    | .plain | .zoned => if pev.pdata = none ∨ pev.sizeData.toNat ≥ offset + 1 then return 0 else return 0
    | .short32 => return 0
    | .long64 => return 0
    -- The offset is that of no GUID here.
    | .text => readTextField pev (offset + 2)
    | .float => readFloatField pev 2
    | .other => return negativeError

-- timestamp = 0 clears its half of the union.
def withoutTimestamp (pev : VscpEvent) : VscpEvent := { pev with timestampNs := pev.timestampNs &&& 0xffffffff }

def makeLevel2FloatMeasurementEvent (pev : VscpEvent) (vscpType : UInt16) (value : UInt64)
    (unit sensoridx zone subzone : UInt8) : Bool × VscpEvent :=
  (true,
    { withoutTimestamp pev with
      vscpClass := class2MeasurementFloat
      vscpType := vscpType
      obid := 0
      sizeData := 12
      pdata := some ([sensoridx, zone, subzone, unit] ++ numberBytes 8 value.toNat) })

-- The text and its zero are what memcpy puts into the block; it goes on four bytes behind the end of it.
def makeLevel2StringMeasurementEvent (print : Printers) (pev : VscpEvent) (vscpType : UInt16) (value : UInt64)
    (unit sensoridx zone subzone : UInt8) : Bool × VscpEvent :=
  let strData := (print.fixedDouble value).map fun letter => UInt8.ofNat letter.toNat
  (true,
    { withoutTimestamp pev with
      vscpClass := class2MeasurementStr
      vscpType := vscpType
      obid := 0
      guid := Vector.replicate 16 0
      sizeData := 4 + UInt16.ofNat strData.length + 1
      pdata := some ([sensoridx, zone, subzone, unit] ++ strData ++ [0]) })

inductive MeasurementField
  | unit
  | sensorIndex
  | zone
  | subZone
deriving DecidableEq

def accessor : MeasurementField → VscpEvent → Traced Nat UInt8 Int
  | .unit => getMeasurementUnit
  | .sensorIndex => getMeasurementSensorIndex
  | .zone => getMeasurementZone
  | .subZone => getMeasurementSubZone

-- The value of an error, as the declarations of the functions have it.
def documentedDefault : MeasurementField → Int
  | .unit => -1
  | .sensorIndex => -1
  | .zone => 0
  | .subZone => -1

def eventMemory (pev : VscpEvent) (place : Nat) : UInt8 := (pev.pdata.getD []).getD place 0

-- The bytes that the size tests ask for: the ones in front of a measurement, and all of a double.
def headerSize (vscpClass : UInt16) : Nat :=
  match kindOf vscpClass with
  | .plain => guidOffset vscpClass + 1
  | .zoned => guidOffset vscpClass + 3
  | .text => 4
  | .float => 12
  | .short32 | .long64 | .other => 0

def NoData (pev : VscpEvent) : Prop := pev.pdata = none ∨ pev.sizeData = 0

def TooLittleData (pev : VscpEvent) : Prop :=
  (pev.pdata = none ∧ 0 < headerSize pev.vscpClass) ∨ pev.sizeData.toNat < headerSize pev.vscpClass

def GivesDefault (field : MeasurementField) (pev : VscpEvent) : Prop :=
  value (accessor field pev) (eventMemory pev) = documentedDefault field ∧
    Within (· < pev.sizeData.toNat) (accessor field pev) (eventMemory pev)

def DefaultReached (field : MeasurementField) (pev : VscpEvent) : Prop :=
  match field with
  | .unit => kindOf pev.vscpClass ≠ .zoned ∨ pev.pdata = none ∨ pev.sizeData.toNat < guidOffset pev.vscpClass + 1
  | .sensorIndex => NoData pev ∨ kindOf pev.vscpClass = .text ∨ kindOf pev.vscpClass = .float
  | .zone => ¬ NoData pev ∧ (kindOf pev.vscpClass = .plain ∨ (kindOf pev.vscpClass = .zoned ∧
      pev.sizeData.toNat = guidOffset pev.vscpClass + 2 ∧ eventMemory pev (guidOffset pev.vscpClass + 1) = 0))
  | .subZone => NoData pev ∨ kindOf pev.vscpClass = .text ∨ kindOf pev.vscpClass = .float

section short

variable (pev : VscpEvent) (memory : Nat → UInt8)

@[simp] theorem value_byte (place : Nat) : value (readByte place) memory = (memory place).toNat := rfl

@[simp] theorem within_byte (inside : Nat → Prop) (place : Nat) :
    Within inside (readByte place) memory ↔ inside place := by
  rw [readByte, within_bind, within_read]
  exact and_iff_left (within_pure _ _ _)

theorem byte_not_negative (byte : UInt8) : (byte.toNat : Int) ≠ -1 := by omega

theorem byte_zero_iff (byte : UInt8) : (byte.toNat : Int) = 0 ↔ byte = 0 := by
  rw [Int.natCast_eq_zero]
  exact UInt8.toNat_inj (b := 0)

theorem text_default (place : Nat) (short : pev.pdata = none ∨ pev.sizeData.toNat < 4) :
    readTextField pev place = pure (-1) := by
  have refused : pev.pdata = none ∨ pev.sizeData < 4 := short.imp_right UInt16.lt_iff_toNat_lt.mpr
  rw [readTextField, if_pos refused]
  rfl

theorem float_default (place : Nat) (short : pev.pdata = none ∨ pev.sizeData.toNat < 12) :
    readFloatField pev place = pure (-1) := by
  have refused : pev.pdata = none ∨ pev.sizeData ≠ 12 := by
    refine short.imp_right fun less twelve => ?_
    rw [twelve] at less
    exact Nat.lt_irrefl _ less
  rw [readFloatField, if_pos refused]
  rfl

theorem gives_iff (field : MeasurementField) (answer : Int) (given : accessor field pev = pure answer) :
    GivesDefault field pev ↔ answer = documentedDefault field := by
  rw [GivesDefault, given, value_pure]
  exact and_iff_left (within_pure _ _ _)

theorem missing_or_short (short : TooLittleData pev) :
    pev.pdata = none ∨ pev.sizeData.toNat < headerSize pev.vscpClass := short.imp_left And.left

def LevelTwo : Prop := kindOf pev.vscpClass = .text ∨ kindOf pev.vscpClass = .float

theorem kind_with_header (short : TooLittleData pev) :
    kindOf pev.vscpClass = .plain ∨ kindOf pev.vscpClass = .zoned ∨ LevelTwo pev := by
  unfold TooLittleData headerSize at short
  cases kind : kindOf pev.vscpClass with
  | plain => exact .inl rfl
  | zoned => exact .inr (.inl rfl)
  | text => exact .inr (.inr (.inl kind))
  | float => exact .inr (.inr (.inr kind))
  | short32 | long64 | other =>
      simp only [kind] at short
      omega

theorem not_level_two (levelTwo : LevelTwo pev) : kindOf pev.vscpClass ≠ .plain ∧ kindOf pev.vscpClass ≠ .zoned := by
  obtain text | float := levelTwo
  · rw [text]
    decide
  · rw [float]
    decide

theorem level_two_default (field : MeasurementField) (short : TooLittleData pev) (levelTwo : LevelTwo pev) :
    accessor field pev = pure (-1) := by
  have less := missing_or_short pev short
  obtain kind | kind := levelTwo
  · simp only [headerSize, kind] at less
    have refused (place : Nat) := text_default pev place less
    cases field with
    | unit => simp only [accessor, getMeasurementUnit, kind, refused]
    | sensorIndex => simp only [accessor, getMeasurementSensorIndex, kind, refused, ite_self]
    | zone => simp only [accessor, getMeasurementZone, kind, refused, ite_self]
    | subZone => simp only [accessor, getMeasurementSubZone, kind, refused, ite_self]
  · simp only [headerSize, kind] at less
    have refused (place : Nat) := float_default pev place less
    cases field with
    | unit => simp only [accessor, getMeasurementUnit, kind, refused]
    | sensorIndex => simp only [accessor, getMeasurementSensorIndex, kind, refused, ite_self]
    | zone => simp only [accessor, getMeasurementZone, kind, refused, ite_self]
    | subZone => simp only [accessor, getMeasurementSubZone, kind, refused, ite_self]

theorem no_data_answer (field : MeasurementField) (checked : field ≠ .unit) (empty : NoData pev) :
    accessor field pev = pure (-1) := by
  cases field with
  | unit => exact absurd rfl checked
  | sensorIndex => exact if_pos empty
  | zone => exact if_pos empty
  | subZone => exact if_pos empty

theorem unit_default_iff (short : TooLittleData pev) : GivesDefault .unit pev ↔ DefaultReached .unit pev := by
  obtain plain | zoned | levelTwo := kind_with_header pev short
  · have less := missing_or_short pev short
    simp only [headerSize, plain] at less
    have given : accessor .unit pev = pure (-1) := by
      simp only [accessor, getMeasurementUnit, plain]
      exact if_pos less
    rw [gives_iff pev .unit _ given]
    exact iff_of_true rfl (.inl (by rw [plain]; decide))
  · by_cases refused : pev.pdata = none ∨ pev.sizeData.toNat < guidOffset pev.vscpClass + 1
    · have given : accessor .unit pev = pure (-1) := by
        simp only [accessor, getMeasurementUnit, zoned]
        exact if_pos refused
      rw [gives_iff pev .unit _ given]
      exact iff_of_true rfl (.inr refused)
    · refine iff_of_false (fun gives => ?_) (fun reached => ?_)
      · have answer := gives.1
        simp only [accessor, getMeasurementUnit, zoned] at answer
        rw [if_neg refused] at answer
        exact byte_not_negative _ answer
      · exact refused (reached.resolve_left (not_not.mpr zoned))
  · rw [gives_iff pev .unit _ (level_two_default pev .unit short levelTwo)]
    exact iff_of_true rfl (.inl (not_level_two pev levelTwo).2)

theorem index_default_iff (short : TooLittleData pev) :
    GivesDefault .sensorIndex pev ↔ DefaultReached .sensorIndex pev := by
  by_cases empty : NoData pev
  · rw [gives_iff pev .sensorIndex _ (no_data_answer pev .sensorIndex (by decide) empty)]
    exact iff_of_true rfl (.inl empty)
  · have less := missing_or_short pev short
    have present : pev.pdata ≠ none := fun missing => empty (.inl missing)
    have checked : ¬ (pev.pdata = none ∨ pev.sizeData = 0) := empty
    obtain plain | zoned | levelTwo := kind_with_header pev short
    · refine iff_of_false (fun gives => ?_)
        (not_or.mpr ⟨empty, fun levelTwo => (not_level_two pev levelTwo).1 plain⟩)
      -- The byte is read without a look at the size.
      have inside := gives.2
      simp only [accessor, getMeasurementSensorIndex, plain] at inside
      rw [if_neg checked, within_bind, within_read] at inside
      simp only [headerSize, plain] at less
      have beyond := less.resolve_left present
      omega
    · refine iff_of_false (fun gives => ?_)
        (not_or.mpr ⟨empty, fun levelTwo => (not_level_two pev levelTwo).2 zoned⟩)
      have answer := gives.1
      simp only [headerSize, zoned] at less
      have tested : ¬ (pev.pdata = none ∨ pev.sizeData.toNat ≥ guidOffset pev.vscpClass + 3) :=
        not_or.mpr ⟨present, Nat.not_le.mpr (less.resolve_left present)⟩
      simp only [accessor, getMeasurementSensorIndex, zoned] at answer
      rw [if_neg checked, if_neg tested] at answer
      exact byte_not_negative _ answer
    · rw [gives_iff pev .sensorIndex _ (level_two_default pev .sensorIndex short levelTwo)]
      exact iff_of_true rfl (.inr levelTwo)

theorem zone_default_iff (short : TooLittleData pev) : GivesDefault .zone pev ↔ DefaultReached .zone pev := by
  by_cases empty : NoData pev
  · rw [gives_iff pev .zone _ (no_data_answer pev .zone (by decide) empty)]
    exact iff_of_false (by decide) (fun reached => reached.1 empty)
  · have less := missing_or_short pev short
    have present : pev.pdata ≠ none := fun missing => empty (.inl missing)
    have checked : ¬ (pev.pdata = none ∨ pev.sizeData = 0) := empty
    obtain plain | zoned | levelTwo := kind_with_header pev short
    · have given : accessor .zone pev = pure 0 := by
        simp only [accessor, getMeasurementZone, plain]
        exact if_neg checked
      rw [gives_iff pev .zone _ given]
      exact iff_of_true rfl ⟨empty, .inl plain⟩
    · simp only [headerSize, zoned] at less
      have beyond := less.resolve_left present
      have tested : ¬ (pev.pdata = none ∨ pev.sizeData.toNat ≥ guidOffset pev.vscpClass + 3) :=
        not_or.mpr ⟨present, Nat.not_le.mpr beyond⟩
      have given : accessor .zone pev = readByte (guidOffset pev.vscpClass + 1) := by
        simp only [accessor, getMeasurementZone, zoned]
        rw [if_neg checked, if_neg tested]
      have zero : documentedDefault .zone = 0 := rfl
      rw [GivesDefault, given, value_byte, within_byte, zero, byte_zero_iff]
      constructor
      · rintro ⟨clear, inside⟩
        exact ⟨empty, .inr ⟨zoned, by omega, clear⟩⟩
      · rintro ⟨-, plain | ⟨-, size, clear⟩⟩
        · cases zoned.symm.trans plain
        · exact ⟨clear, by omega⟩
    · rw [gives_iff pev .zone _ (level_two_default pev .zone short levelTwo)]
      refine iff_of_false (by decide) ?_
      rintro ⟨-, plain | ⟨zoned, -⟩⟩
      · exact (not_level_two pev levelTwo).1 plain
      · exact (not_level_two pev levelTwo).2 zoned

theorem subzone_default_iff (short : TooLittleData pev) :
    GivesDefault .subZone pev ↔ DefaultReached .subZone pev := by
  by_cases empty : NoData pev
  · rw [gives_iff pev .subZone _ (no_data_answer pev .subZone (by decide) empty)]
    exact iff_of_true rfl (.inl empty)
  · have checked : ¬ (pev.pdata = none ∨ pev.sizeData = 0) := empty
    have zero (given : accessor .subZone pev = pure 0) (levelOne : ¬ LevelTwo pev) :
        GivesDefault .subZone pev ↔ DefaultReached .subZone pev := by
      rw [gives_iff pev .subZone _ given]
      exact iff_of_false (by decide) (not_or.mpr ⟨empty, levelOne⟩)
    obtain plain | zoned | levelTwo := kind_with_header pev short
    · refine zero ?_ fun levelTwo => (not_level_two pev levelTwo).1 plain
      simp only [accessor, getMeasurementSubZone, plain, ite_self]
      exact if_neg checked
    · refine zero ?_ fun levelTwo => (not_level_two pev levelTwo).2 zoned
      simp only [accessor, getMeasurementSubZone, zoned, ite_self]
      exact if_neg checked
    · rw [gives_iff pev .subZone _ (level_two_default pev .subZone short levelTwo)]
      exact iff_of_true rfl (.inr levelTwo)

end short

section constructed

variable (field : MeasurementField) (unit sensoridx zone subzone : UInt8)

def given : UInt8 :=
  match field with
  | .unit => unit
  | .sensorIndex => sensoridx
  | .zone => zone
  | .subZone => subzone

-- The accessor gives the value, from the data of the event alone.
def Recovers (field : MeasurementField) (answer : Bool × VscpEvent) (byte : UInt8) : Prop :=
  answer.1 = true ∧ value (accessor field answer.2) (eventMemory answer.2) = byte.toNat ∧
    Within (· < answer.2.sizeData.toNat) (accessor field answer.2) (eventMemory answer.2)

def fieldPlace : MeasurementField → Nat
  | .unit => 3
  | .sensorIndex => 0
  | .zone => 2
  | .subZone => 2

theorem header_byte (more : Bytes) :
    ([sensoridx, zone, subzone, unit] ++ more).getD (fieldPlace field) 0 =
      if field = .zone then subzone else given field unit sensoridx zone subzone := by
  cases field <;> rfl

theorem float_program (pev : VscpEvent) (own : pev.vscpClass = class2MeasurementFloat) (present : pev.pdata ≠ none)
    (size : pev.sizeData = 12) : accessor field pev = readByte (fieldPlace field) := by
  have kind : kindOf pev.vscpClass = .float := by
    rw [own]
    decide
  have read (place : Nat) : readFloatField pev place = readByte place :=
    if_neg (not_or.mpr ⟨present, not_not.mpr size⟩)
  have checked : ¬ (pev.pdata = none ∨ pev.sizeData = 0) := by
    rw [size]
    exact not_or.mpr ⟨present, by decide⟩
  cases field with
  | unit => simp only [accessor, getMeasurementUnit, kind, read, fieldPlace]
  | sensorIndex => simp only [accessor, getMeasurementSensorIndex, kind, read, if_neg checked, fieldPlace]
  | zone => simp only [accessor, getMeasurementZone, kind, read, if_neg checked, fieldPlace]
  | subZone => simp only [accessor, getMeasurementSubZone, kind, read, if_neg checked, fieldPlace]

theorem text_program (pev : VscpEvent) (own : pev.vscpClass = class2MeasurementStr) (present : pev.pdata ≠ none)
    (size : 4 ≤ pev.sizeData.toNat) : accessor field pev = readByte (fieldPlace field) := by
  have kind : kindOf pev.vscpClass = .text := by
    rw [own]
    decide
  have offset : guidOffset pev.vscpClass = 0 := by
    rw [own]
    decide
  have enough : ¬ pev.sizeData < 4 := fun less => Nat.not_le.mpr (UInt16.lt_iff_toNat_lt.mp less) size
  have read (place : Nat) : readTextField pev place = readByte place := if_neg (not_or.mpr ⟨present, enough⟩)
  have checked : ¬ (pev.pdata = none ∨ pev.sizeData = 0) := by
    refine not_or.mpr ⟨present, fun empty => ?_⟩
    rw [empty] at size
    exact Nat.not_succ_le_zero 3 size
  cases field with
  | unit => simp only [accessor, getMeasurementUnit, kind, read, fieldPlace]
  | sensorIndex => simp only [accessor, getMeasurementSensorIndex, kind, read, if_neg checked, fieldPlace]
  | zone => simp only [accessor, getMeasurementZone, kind, read, if_neg checked, fieldPlace]
  | subZone => simp only [accessor, getMeasurementSubZone, kind, read, if_neg checked, fieldPlace, offset, Nat.zero_add]

theorem recovers_iff (answer : Bool × VscpEvent) (more : Bytes) (accepted : answer.1 = true)
    (program : accessor field answer.2 = readByte (fieldPlace field))
    (data : answer.2.pdata = some ([sensoridx, zone, subzone, unit] ++ more)) (size : 4 ≤ answer.2.sizeData.toNat) :
    Recovers field answer (given field unit sensoridx zone subzone) ↔ (field = .zone → zone = subzone) := by
  have inside : fieldPlace field < answer.2.sizeData.toNat := by
    have bound : fieldPlace field < 4 := by cases field <;> decide
    omega
  have byte : eventMemory answer.2 (fieldPlace field) =
      if field = .zone then subzone else given field unit sensoridx zone subzone := by
    rw [eventMemory, data]
    exact header_byte field unit sensoridx zone subzone more
  rw [Recovers, program, value_byte, within_byte, byte]
  by_cases own : field = .zone
  · subst own
    rw [if_pos rfl]
    constructor
    · rintro ⟨-, same, -⟩ -
      exact UInt8.toNat_inj.mp (Int.ofNat.inj same).symm
    · intro same
      exact ⟨accepted, congrArg (fun byte : UInt8 => (byte.toNat : Int)) (same rfl).symm, inside⟩
  · rw [if_neg own]
    exact iff_of_true ⟨accepted, rfl, inside⟩ (fun zone => absurd zone own)

theorem all_fields_iff (holds : MeasurementField → Prop) (same : Prop)
    (each : ∀ field, holds field ↔ (field = .zone → same)) : (∀ field, holds field) ↔ same := by
  constructor
  · intro all
    exact (each .zone).mp (all .zone) rfl
  · intro right field
    exact (each field).mpr fun _ => right

end constructed

-- What printf writes for a double with %f is a sign, 309 digits, the point and six digits at most.
theorem measurement_accessors_iff (print : Printers) (pev : VscpEvent) (vscpType : UInt16) (bits : UInt64)
    (unit sensoridx zone subzone : UInt8) (written : ∀ bits, (print.fixedDouble bits).length ≤ 317) :
    ((∀ field, Recovers field (makeLevel2FloatMeasurementEvent pev vscpType bits unit sensoridx zone subzone)
      (given field unit sensoridx zone subzone)) ↔ zone = subzone) ∧
    ((∀ field, Recovers field (makeLevel2StringMeasurementEvent print pev vscpType bits unit sensoridx zone subzone)
      (given field unit sensoridx zone subzone)) ↔ zone = subzone) ∧
    ∀ (field : MeasurementField) (event : VscpEvent), TooLittleData event →
      (GivesDefault field event ↔ DefaultReached field event) := by
  refine ⟨all_fields_iff _ _ fun field => ?_, all_fields_iff _ _ fun field => ?_, fun field event short => ?_⟩
  · have size : 4 ≤ (12 : UInt16).toNat := by decide
    exact recovers_iff field unit sensoridx zone subzone _ _ rfl
      (float_program field _ rfl (Option.some_ne_none _) rfl) rfl size
  · have length := written bits
    have size : 4 ≤ (makeLevel2StringMeasurementEvent print pev vscpType bits unit sensoridx zone
        subzone).2.sizeData.toNat := by
      change 4 ≤ (4 + UInt16.ofNat ((print.fixedDouble bits).map fun letter => UInt8.ofNat letter.toNat).length +
        1).toNat
      have four : (4 : UInt16).toNat = 4 := rfl
      have one : (1 : UInt16).toNat = 1 := rfl
      rw [List.length_map, UInt16.toNat_add, UInt16.toNat_add, UInt16.toNat_ofNat', four, one]
      omega
    refine recovers_iff field unit sensoridx zone subzone _
      (((print.fixedDouble bits).map fun letter => UInt8.ofNat letter.toNat) ++ [0]) rfl
      (text_program field _ rfl (Option.some_ne_none _) size) ?_ size
    exact congrArg some (List.append_assoc _ _ _)
  · cases field with
    | unit => exact unit_default_iff event short
    | sensorIndex => exact index_default_iff event short
    | zone => exact zone_default_iff event short
    | subZone => exact subzone_default_iff event short

theorem measurement_accessors_iff_example :
    (∀ field, Recovers field (makeLevel2FloatMeasurementEvent exampleEvent 6 0 1 2 3 4) (given field 1 2 3 4)) ↔
      (3 : UInt8) = 4 :=
  (measurement_accessors_iff examplePrinters exampleEvent 6 0 1 2 3 4 (fun _ => Nat.zero_le _)).1

-- Zone 3 and subzone 4 are read back as zone 4; a zone event of one byte is asked for its index, and gives the byte.
theorem zone_not_recovered :
    value (getMeasurementZone (makeLevel2FloatMeasurementEvent exampleEvent 6 0 1 2 3 4).2)
        (eventMemory (makeLevel2FloatMeasurementEvent exampleEvent 6 0 1 2 3 4).2) = 4 ∧
      value (getMeasurementSensorIndex { exampleEvent with vscpClass := 65, sizeData := 1, pdata := some [7] })
        (eventMemory { exampleEvent with vscpClass := 65, sizeData := 1, pdata := some [7] }) = 7 :=
  ⟨rfl, rfl⟩

end Vscp
