import Vscp.RemoteSurvival
import Vscp.Lib.BlockAccess
import Vscp.Lib.ByteNumber

set_option autoImplicit false

namespace Vscp.Registers

open NumberText
open RemoteTcp (Text)
open TracedRead
open BlockAccess
open ByteNumber

inductive DescribedType
  | plain (type : VariableType)
  | float
  | double
deriving DecidableEq

structure VariableDescription where
  type : DescribedType
  page : UInt16
  offset : UInt32
  bitpos : UInt8
  size : UInt16

structure FloatPrinters where
  fixedFloat : UInt32 → Text
  shortDouble : UInt64 → Text

def VariableDescription.plainVariable (desc : VariableDescription) (type : VariableType) : RemoteVariable :=
  ⟨type, desc.page, desc.offset, desc.bitpos, desc.size⟩

def VariableDescription.getTypeByteCount (desc : VariableDescription) : UInt16 :=
  match desc.type with
  | .plain type => (desc.plainVariable type).getTypeByteCount
  | .float => 4
  | .double => 8

abbrev Uses (Result : Type) : Type := Traced Access UInt8 Result

def useFilled (room filled : Nat) (read : List Nat) : Uses Unit := do
  useBuffer 0 filled room
  touchAll (read.map fun place => .buffer place room)

-- The buffer has one byte more than the string; what is put in it is put at the register's own offset.
def readString (desc : VariableDescription) (page : RegisterPage) : Uses (Text × RegisterPage) := do
  let byteCount := desc.getTypeByteCount.toNat
  let last := desc.offset + UInt32.ofNat byteCount
  let buf := page.readBytes desc.offset (last.toNat - desc.offset.toNat)
  let cleared : Bytes := List.replicate (byteCount + 1) 0
  useBuffer 0 (byteCount + 1) (byteCount + 1)
  useBuffer desc.offset.toNat buf.1.length (byteCount + 1)
  let pstr := (fill cleared desc.offset.toNat buf.1).getD cleared
  useBuffer 0 ((pstr.takeWhile (· ≠ 0)).length + 1) (byteCount + 1)
  return (cString pstr, buf.2)

def readDescribed (longBits : Nat) (print : FloatPrinters) (desc : VariableDescription) (format : UInt8)
    (page : RegisterPage) : Uses (Option (Text × RegisterPage)) :=
  let byteCount := desc.getTypeByteCount.toNat
  match desc.type with
  | .plain .string => do
      let strValue ← readString desc page
      return some strValue
  | .plain .boolean => return readVariable longBits (desc.plainVariable .boolean) format page
  | .plain .int8 => return readVariable longBits (desc.plainVariable .int8) format page
  | .plain .uint8 => return readVariable longBits (desc.plainVariable .uint8) format page
  | .plain .int16 => do
      useFilled 2 2 [0, 1]
      return readVariable longBits (desc.plainVariable .int16) format page
  | .plain .uint16 => do
      useFilled 2 2 [0, 1]
      return readVariable longBits (desc.plainVariable .uint16) format page
  | .plain .int32 => do
      useFilled byteCount byteCount [0, 1, 2, 3]
      return readVariable longBits (desc.plainVariable .int32) format page
  | .plain .uint32 => do
      useFilled byteCount byteCount [0, 1, 2, 3]
      return readVariable longBits (desc.plainVariable .uint32) format page
  | .plain .int64 => do
      useFilled byteCount byteCount [0, 1, 2, 3, 4, 5, 6, 7]
      return readVariable longBits (desc.plainVariable .int64) format page
  | .plain .uint64 => do
      useFilled byteCount byteCount [0, 1, 2, 3, 4, 5, 6, 7]
      return readVariable longBits (desc.plainVariable .uint64) format page
  | .float => do
      let buf := page.readBytes desc.offset byteCount
      useFilled byteCount byteCount [0, 1, 2, 3]
      return some (print.fixedFloat (UInt32.ofNat (littleNumber buf.1)), buf.2)
  | .double => do
      let buf := page.readBytes desc.offset byteCount
      useFilled byteCount byteCount [0, 1, 2, 3, 4, 5, 6, 7]
      return some (print.shortDouble (UInt64.ofNat (littleNumber buf.1)), buf.2)
  | .plain .date => do
      useFilled byteCount byteCount [0, 2, 4]
      return readVariable longBits (desc.plainVariable .date) format page
  | .plain .time => do
      useFilled byteCount byteCount [0, 2, 4]
      return readVariable longBits (desc.plainVariable .time) format page
  | .plain .unknown => return readVariable longBits (desc.plainVariable .unknown) format page

def variableToString (longBits : Nat) (print : FloatPrinters) (user : UserRegisters) (remoteVar : VariableDescription)
    (strValue : Text) (format : UInt8) : Uses (Option (Int × Text × UserRegisters)) :=
  match user.getRegisterPage remoteVar.page with
  | (none, user) => return some (VscpError.error.code, strValue, user)
  | (some ppage, user) => do
      let read ← readDescribed longBits print remoteVar format ppage
      return read.map fun read => (0, read.1, user.withPage remoteVar.page read.2)

-- The bytes of a string are put behind its buffer from offset 2 on, unless there are none.
def StringFits (offset : UInt32) (size : UInt16) : Prop :=
  size = 0 ∨ 2 ^ 32 ≤ offset.toNat + size.toNat ∨ offset.toNat ≤ 1

def VariableFits (desc : VariableDescription) : Prop :=
  (desc.type = .plain .string → StringFits desc.offset desc.size) ∧ desc.type ≠ .plain .date ∧ desc.type ≠ .plain .time

section uses

variable (count : Nat) (memory : Access → UInt8)

theorem within_filled (room filled : Nat) (read : List Nat) :
    Within (Allowed count) (useFilled room filled read) memory ↔ filled ≤ room ∧ ∀ place ∈ read, place < room := by
  rw [useFilled, within_bind, within_buffer, within_touch_all, List.forall_mem_map, Nat.zero_add]
  refine and_congr_left fun _ => ⟨fun either => ?_, .inr⟩
  omega

theorem string_bytes_read (offset : UInt32) (size : UInt16) (page : RegisterPage) :
    (page.readBytes offset ((offset + UInt32.ofNat size.toNat).toNat - offset.toNat)).1.length =
      if offset.toNat + size.toNat < 2 ^ 32 then size.toNat else 0 := by
  have small := size.toNat_lt
  have start := offset.toNat_lt
  have whole : (UInt32.ofNat size.toNat).toNat = size.toNat :=
    UInt32.toNat_ofNat_of_lt' (Nat.lt_trans small (by decide))
  rw [read_bytes_length, UInt32.toNat_add, whole]
  split <;> omega

theorem filled_ends (size offset : Nat) (bytes pstr : Bytes) (length : bytes = [] ∨ bytes.length = size)
    (filled : fill (List.replicate (size + 1) 0) offset bytes = some pstr) : pstr.length = size + 1 ∧ 0 ∈ pstr := by
  rw [fill_whole, List.length_replicate] at filled
  split at filled
  · rename_i fits
    have contents := Option.some_inj.mp filled
    by_cases empty : bytes = []
    · rw [empty, List.append_nil, List.length_nil, Nat.add_zero offset, List.take_append_drop] at contents
      rw [← contents]
      exact ⟨List.length_replicate, List.mem_replicate.mpr ⟨Nat.succ_ne_zero size, rfl⟩⟩
    · have count := length.resolve_left empty
      have room := fits.resolve_left empty
      rw [count] at room
      rw [← contents, count]
      constructor
      · simp only [List.length_append, List.length_take, List.length_drop, List.length_replicate, count]
        omega
      · by_cases first : offset = 0
        · refine List.mem_append_right _ ?_
          rw [List.drop_replicate]
          exact List.mem_replicate.mpr ⟨by omega, rfl⟩
        · refine List.mem_append_left _ (List.mem_append_left _ ?_)
          rw [List.take_replicate]
          exact List.mem_replicate.mpr ⟨by omega, rfl⟩
  · cases filled

def stringRegisters (desc : VariableDescription) (page : RegisterPage) : Bytes × RegisterPage :=
  page.readBytes desc.offset ((desc.offset + UInt32.ofNat desc.size.toNat).toNat - desc.offset.toNat)

variable (desc : VariableDescription)

theorem string_fill (page : RegisterPage) :
    fill (List.replicate (desc.size.toNat + 1) 0) desc.offset.toNat (stringRegisters desc page).1 = none ↔
      ¬ StringFits desc.offset desc.size := by
  have length := string_bytes_read desc.offset desc.size page
  change (stringRegisters desc page).1.length = _ at length
  have start := desc.offset.toNat_lt
  rw [fill_whole, List.length_replicate, ite_eq_right_iff, StringFits, ← UInt16.toNat_inj]
  simp only [reduceCtorEq, imp_false]
  rw [← List.length_eq_zero_iff, length]
  change _ ↔ ¬ (desc.size.toNat = 0 ∨ _)
  split <;> omega

theorem within_string (type : desc.type = .plain .string) (page : RegisterPage) :
    Within (Allowed count) (readString desc page) memory ↔ StringFits desc.offset desc.size := by
  have bytes : desc.getTypeByteCount = desc.size := by
    rw [VariableDescription.getTypeByteCount, type]
    rfl
  have length := string_bytes_read desc.offset desc.size page
  simp only [readString, bytes, within_bind, within_buffer, within_pure, and_true, Nat.zero_add]
  rw [← not_iff_not, ← string_fill desc page]
  change ¬ (_ ∧ ((stringRegisters desc page).1.length = 0 ∨ _ + (stringRegisters desc page).1.length ≤ _) ∧ _) ↔ _
  change (stringRegisters desc page).1.length = _ at length
  constructor
  · intro outside
    by_contra filled
    obtain ⟨pstr, filled⟩ := Option.ne_none_iff_exists'.mp filled
    have ends := filled_ends desc.size.toNat desc.offset.toNat _ pstr (by
      rw [← List.length_eq_zero_iff, length]
      split
      · exact .inr rfl
      · exact .inl rfl) filled
    have scanned := (front_shorter_iff pstr).mpr ends.2
    rw [ends.1] at scanned
    have room : (stringRegisters desc page).1 = [] ∨
        desc.offset.toNat + (stringRegisters desc page).1.length ≤ desc.size.toNat + 1 := by
      by_contra none
      rw [fill_whole, List.length_replicate, if_neg none] at filled
      cases filled
    rw [← List.length_eq_zero_iff] at room
    refine outside ⟨by omega, room, ?_⟩
    change _ ∨ (((fill _ _ (stringRegisters desc page).1).getD _).takeWhile _).length + 1 ≤ _
    rw [filled, Option.getD_some]
    omega
  · rintro none ⟨-, room, -⟩
    rw [fill_whole, List.length_replicate, if_pos (room.imp_left List.length_eq_zero_iff.mp)] at none
    cases none

theorem within_whole (bytes : Nat) (read : List Nat) (inside : ∀ place ∈ read, place < bytes)
    (shown : Option (Text × RegisterPage)) :
    Within (Allowed count) (useFilled bytes bytes read >>= fun _ => pure shown) memory := by
  rw [within_bind, within_filled]
  exact ⟨⟨Nat.le_refl bytes, inside⟩, within_pure _ _ _⟩

-- The third part of a date or a time is looked for behind its three bytes.
theorem not_within_parts (shown : Option (Text × RegisterPage)) :
    ¬ Within (Allowed count) (useFilled 3 3 [0, 2, 4] >>= fun _ => pure shown) memory := by
  rw [within_bind, within_filled]
  exact fun inside => absurd (inside.1.2 4 (by decide)) (by decide)

variable (type : DescribedType)

theorem other_fits (own : desc.type = type)
    (other : type ≠ .plain .string ∧ type ≠ .plain .date ∧ type ≠ .plain .time) : VariableFits desc := by
  rw [VariableFits, own]
  exact ⟨fun string => absurd string other.1, other.2⟩

theorem byte_count (own : desc.type = type) :
    desc.getTypeByteCount = VariableDescription.getTypeByteCount { desc with type := type } := by
  subst own
  rfl

theorem within_described (longBits : Nat) (print : FloatPrinters) (desc : VariableDescription) (format : UInt8)
    (page : RegisterPage) :
    Within (Allowed count) (readDescribed longBits print desc format page) memory ↔ VariableFits desc := by
  rw [readDescribed]
  match type : desc.type with
  | .plain .string =>
      rw [within_bind, within_string count memory desc type, and_iff_left (within_pure _ _ _), VariableFits, type]
      exact ⟨fun fits => ⟨fun _ => fits, by decide, by decide⟩, fun fits => fits.1 rfl⟩
  | .plain .boolean => exact iff_of_true (within_pure _ _ _) (other_fits desc _ type (by decide))
  | .plain .int8 => exact iff_of_true (within_pure _ _ _) (other_fits desc _ type (by decide))
  | .plain .uint8 => exact iff_of_true (within_pure _ _ _) (other_fits desc _ type (by decide))
  | .plain .int16 =>
      exact iff_of_true (within_whole count memory 2 [0, 1] (by decide) _) (other_fits desc _ type (by decide))
  | .plain .uint16 =>
      exact iff_of_true (within_whole count memory 2 [0, 1] (by decide) _) (other_fits desc _ type (by decide))
  | .plain .int32 =>
      rw [byte_count desc _ type]
      exact iff_of_true (within_whole count memory 4 [0, 1, 2, 3] (by decide) _) (other_fits desc _ type (by decide))
  | .plain .uint32 =>
      rw [byte_count desc _ type]
      exact iff_of_true (within_whole count memory 4 [0, 1, 2, 3] (by decide) _) (other_fits desc _ type (by decide))
  | .plain .int64 =>
      rw [byte_count desc _ type]
      exact iff_of_true (within_whole count memory 8 [0, 1, 2, 3, 4, 5, 6, 7] (by decide) _)
        (other_fits desc _ type (by decide))
  | .plain .uint64 =>
      rw [byte_count desc _ type]
      exact iff_of_true (within_whole count memory 8 [0, 1, 2, 3, 4, 5, 6, 7] (by decide) _)
        (other_fits desc _ type (by decide))
  | .float =>
      rw [byte_count desc _ type]
      exact iff_of_true (within_whole count memory 4 [0, 1, 2, 3] (by decide) _) (other_fits desc _ type (by decide))
  | .double =>
      rw [byte_count desc _ type]
      exact iff_of_true (within_whole count memory 8 [0, 1, 2, 3, 4, 5, 6, 7] (by decide) _)
        (other_fits desc _ type (by decide))
  | .plain .date =>
      rw [byte_count desc _ type]
      exact iff_of_false (not_within_parts count memory _) (fun fits => fits.2.1 type)
  | .plain .time =>
      rw [byte_count desc _ type]
      exact iff_of_false (not_within_parts count memory _) (fun fits => fits.2.2 type)
  | .plain .unknown => exact iff_of_true (within_pure _ _ _) (other_fits desc _ type (by decide))

end uses

theorem variable_buffers_iff (longBits : Nat) (print : FloatPrinters) (user : UserRegisters)
    (remoteVar : VariableDescription) (strValue : Text) (format : UInt8) (count : Nat) (memory : Access → UInt8) :
    Within (Allowed count) (variableToString longBits print user remoteVar strValue format) memory ↔
      (user.getRegisterPage remoteVar.page).1 = none ∨ VariableFits remoteVar := by
  rw [variableToString]
  obtain ⟨_ | ppage, user⟩ := user.getRegisterPage remoteVar.page
  · exact iff_of_true (within_pure _ _ _) (.inl rfl)
  · change Within (Allowed count) (_ >>= fun _ => pure _) memory ↔ _
    rw [within_bind, within_described, and_iff_left (within_pure _ _ _), or_iff_right (Option.some_ne_none ppage)]

theorem described_value (longBits : Nat) (print : FloatPrinters) (desc : VariableDescription) (format : UInt8)
    (page : RegisterPage) (type : VariableType) (own : desc.type = .plain type) (memory : Access → UInt8) :
    (VariableFits desc → value (readDescribed longBits print desc format page) memory =
      readVariable longBits (desc.plainVariable type) format page) ∧
      (¬ VariableFits desc → readVariable longBits (desc.plainVariable type) format page = none) := by
  cases type with
  | string =>
      have bytes : desc.getTypeByteCount = desc.size := byte_count desc _ own
      have fits : VariableFits desc ↔ StringFits desc.offset desc.size := by
        rw [VariableFits, own]
        exact ⟨fun fits => fits.1 rfl, fun fits => ⟨fun _ => fits, by decide, by decide⟩⟩
      have text : readVariable longBits (desc.plainVariable .string) format page =
          (fill (List.replicate (desc.size.toNat + 1) 0) desc.offset.toNat (stringRegisters desc page).1).map
            fun pstr => (cString pstr, (stringRegisters desc page).2) := rfl
      rw [fits, text]
      constructor
      · intro inside
        have filled := (string_fill desc page).not.mpr (not_not.mpr inside)
        obtain ⟨pstr, filled⟩ := Option.ne_none_iff_exists'.mp filled
        simp only [readDescribed, own, readString, bytes, value_bind, value_pure]
        change some (cString ((fill _ _ (stringRegisters desc page).1).getD _), (stringRegisters desc page).2) = _
        rw [filled, Option.getD_some, Option.map_some]
      · intro outside
        rw [(string_fill desc page).mpr outside, Option.map_none]
  | date => exact ⟨fun fits => absurd own fits.2.1, fun _ => date_undefined longBits _ format page (.inl rfl)⟩
  | time => exact ⟨fun fits => absurd own fits.2.2, fun _ => date_undefined longBits _ format page (.inr rfl)⟩
  | _ => exact ⟨fun _ => by simp only [readDescribed, own]; rfl,
      fun outside => absurd (other_fits desc _ own (by decide)) outside⟩

def farString : VariableDescription := ⟨.plain .string, 0, 10, 0, 5⟩
def dateVariable : VariableDescription := ⟨.plain .date, 0, 0, 0, 3⟩

def noFloats : FloatPrinters := ⟨fun _ => [], fun _ => []⟩

theorem used_fits (desc : VariableDescription) (first : desc.page = 0)
    (inside : Within (Allowed 0) (variableToString 64 noFloats onePage desc [] formatDecimal) fun _ => 0) :
    VariableFits desc := by
  rw [variableToString, first] at inside
  have found : (onePage.getRegisterPage 0).1 = some (RegisterPage.new level1 0) := by
    rw [UserRegisters.getRegisterPage, Std.TreeMap.getD_eq_getD_getElem?, one_page_found, Option.getD_some]
  generalize onePage.getRegisterPage 0 = looked at found inside
  obtain ⟨_ | ppage, other⟩ := looked
  · cases found
  · change Within (Allowed 0) (_ >>= fun _ => pure _) _ at inside
    rw [within_bind, within_described] at inside
    exact inside.1

theorem buffers_overrun :
    (¬ Within (Allowed 0) (variableToString 64 noFloats onePage farString [] formatDecimal) fun _ => 0) ∧
      ¬ Within (Allowed 0) (variableToString 64 noFloats onePage dateVariable [] formatDecimal) fun _ => 0 := by
  constructor
  · intro inside
    have fits := (used_fits farString rfl inside).1 rfl
    exact absurd fits (show ¬ ((5 : UInt16) = 0 ∨ 2 ^ 32 ≤ 10 + 5 ∨ 10 ≤ 1) by decide)
  · exact fun inside => (used_fits dateVariable rfl inside).2.1 rfl

end Vscp.Registers
