import Vscp.MdfXml

set_option autoImplicit false

namespace Vscp.ModuleDescription

open RemoteTcp (Text isSpace trim)
open SaxHandler (Node Settled)

def Agreeing {Member : Type} (names : List (Text × Member)) (clean : Text → Text) (attributes : Attributes) : Prop :=
  ∀ first ∈ attributes, ∀ second ∈ attributes, (memberOf names first.1).isSome = true →
    memberOf names first.1 = memberOf names second.1 → clean first.2 = clean second.2

def byteOf (text : Text) : UInt8 := UInt8.ofInt (readStringValue (lowerTrim text))
def wordOf (text : Text) : UInt16 := UInt16.ofInt (readStringValue (lowerTrim text))

-- A bound that every mask on the way to the final one leaves as it is: the mask of the first bit
-- at pos, and that of width bits at the default pos.
def FitsField (attributes : Attributes) (bound : UInt8) : Prop :=
  ∀ field ∈ attributes,
    (memberOf bitNames field.1 = some .pos → bound &&& fieldMask (byteOf field.2 &&& 7) 1 = bound) ∧
    (memberOf bitNames field.1 = some .width → bound &&& fieldMask 0 (fieldWidth (byteOf field.2)) = bound)

def BoundsFit (attributes : Attributes) : Prop :=
  ∀ bound ∈ attributes, memberOf bitNames bound.1 = some .min ∨ memberOf bitNames bound.1 = some .max →
    FitsField attributes (byteOf bound.2)

-- Both an access and a size go to the size.
def SizeAgrees (attributes : Attributes) : Prop :=
  ∀ access ∈ attributes, memberOf remoteNames access.1 = some .access →
    ∀ size ∈ attributes, memberOf remoteNames size.1 = some .size → wordOf access.2 = wordOf size.2

def RecordOrderFree (attributes : Attributes) : Opened → Prop
  | .nothing => True
  | .picture => Agreeing pictureNames trim attributes
  | .firmware => Agreeing firmwareNames trim attributes
  | .manual => Agreeing manualNames trim attributes
  | .video => Agreeing pictureNames trim attributes
  | .driver => Agreeing driverNames trim attributes
  | .setup => Agreeing pictureNames trim attributes
  | .item => True
  | .register => Agreeing registerNames lowerTrim attributes
  | .remotevar => Agreeing remoteNames lowerTrim attributes ∧ SizeAgrees attributes
  | .bit _ => Agreeing bitNames lowerTrim attributes ∧ BoundsFit attributes
  | .matrixStart => Agreeing startNames lowerTrim attributes
  | .action => Agreeing actionNames lowerTrim attributes
  | .event => Agreeing eventNames lowerTrim attributes
  | .actionParam _ => Agreeing parameterNames lowerTrim attributes
  | .eventData => Agreeing dataNames lowerTrim attributes
  | .value _ => Agreeing valueNames lowerTrim attributes

def LanguageOrderFree (token : Text) (attributes : Attributes) : Prop :=
  token ∈ spokenNames → Agreeing languageNames lowerTrim attributes

def OrderFree (parser : Parser) (name : Text) (attributes : Attributes) : Prop :=
  let next := entered parser name attributes
  LanguageOrderFree (lowerTrim name) attributes ∧
    (invalidStructure next.toGlobals = false → RecordOrderFree attributes (opened next.toGlobals))

-- Only descriptions and URLs take their text piece by piece, each piece without its outer blanks.
def CutFree (parser : Parser) (pieces : List Text) : Prop :=
  match textPlace parser.toGlobals with
  | .nowhere | .nullPointer => True
  | .description _ | .infoURL _ => (pieces.map trim).flatten = trim pieces.flatten
  | _ => (pieces.filter fun piece => trim piece ≠ []).length ≤ 1

instance {Member : Type} [DecidableEq Member] (names : List (Text × Member)) (clean : Text → Text)
    (attributes : Attributes) : Decidable (Agreeing names clean attributes) :=
  inferInstanceAs (Decidable (∀ first ∈ attributes, ∀ second ∈ attributes, _ → _ → _))

instance (attributes : Attributes) (bound : UInt8) : Decidable (FitsField attributes bound) :=
  inferInstanceAs (Decidable (∀ field ∈ attributes, _ ∧ _))

instance (attributes : Attributes) : Decidable (BoundsFit attributes) :=
  inferInstanceAs (Decidable (∀ bound ∈ attributes, _ → _))

instance (attributes : Attributes) : Decidable (SizeAgrees attributes) :=
  inferInstanceAs (Decidable (∀ access ∈ attributes, _ → ∀ size ∈ attributes, _ → _))

instance (attributes : Attributes) : ∀ kind, Decidable (RecordOrderFree attributes kind)
  | .nothing => isTrue trivial
  | .picture => inferInstanceAs (Decidable (Agreeing pictureNames trim attributes))
  | .firmware => inferInstanceAs (Decidable (Agreeing firmwareNames trim attributes))
  | .manual => inferInstanceAs (Decidable (Agreeing manualNames trim attributes))
  | .video => inferInstanceAs (Decidable (Agreeing pictureNames trim attributes))
  | .driver => inferInstanceAs (Decidable (Agreeing driverNames trim attributes))
  | .setup => inferInstanceAs (Decidable (Agreeing pictureNames trim attributes))
  | .item => isTrue trivial
  | .register => inferInstanceAs (Decidable (Agreeing registerNames lowerTrim attributes))
  | .remotevar => inferInstanceAs (Decidable (Agreeing remoteNames lowerTrim attributes ∧ SizeAgrees attributes))
  | .bit _ => inferInstanceAs (Decidable (Agreeing bitNames lowerTrim attributes ∧ BoundsFit attributes))
  | .matrixStart => inferInstanceAs (Decidable (Agreeing startNames lowerTrim attributes))
  | .action => inferInstanceAs (Decidable (Agreeing actionNames lowerTrim attributes))
  | .event => inferInstanceAs (Decidable (Agreeing eventNames lowerTrim attributes))
  | .actionParam _ => inferInstanceAs (Decidable (Agreeing parameterNames lowerTrim attributes))
  | .eventData => inferInstanceAs (Decidable (Agreeing dataNames lowerTrim attributes))
  | .value _ => inferInstanceAs (Decidable (Agreeing valueNames lowerTrim attributes))

instance (parser : Parser) (name : Text) (attributes : Attributes) : Decidable (OrderFree parser name attributes) :=
  inferInstanceAs (Decidable ((_ → Agreeing languageNames lowerTrim attributes) ∧ (_ → RecordOrderFree _ _)))

instance (parser : Parser) (pieces : List Text) : Decidable (CutFree parser pieces) := by
  unfold CutFree
  cases textPlace parser.toGlobals <;> infer_instance

section attributes

variable {Member Record : Type} (names : List (Text × Member)) (set : Member → Text → Record → Record)
  (clean : Text → Text)

theorem attributes_reordered (Kept : Record → Prop) {attributes others : Attributes} (reordered : attributes.Perm others)
    (agreeing : Agreeing names clean attributes)
    (keep : ∀ entry ∈ attributes, ∀ member, memberOf names entry.1 = some member → ∀ record, Kept record →
      Kept (set member (clean entry.2) record))
    (swap : ∀ first ∈ attributes, ∀ second ∈ attributes, ∀ m n, memberOf names first.1 = some m →
      memberOf names second.1 = some n → m ≠ n → ∀ record, Kept record →
      set n (clean second.2) (set m (clean first.2) record) = set m (clean first.2) (set n (clean second.2) record))
    (record : Record) (kept : Kept record) :
    setAttributes names set clean attributes record = setAttributes names set clean others record := by
  apply SaxHandler.foldl_perm (setAttribute names set clean) Kept reordered
  · intro entry member state held
    unfold setAttribute
    cases found : memberOf names entry.1 with
    | none => exact held
    | some name => exact keep entry member name found state held
  · intro first member second present state held
    unfold setAttribute
    cases one : memberOf names first.1 with
    | none => rfl
    | some m =>
        cases two : memberOf names second.1 with
        | none => rfl
        | some n =>
            by_cases alike : m = n
            · have same := agreeing first member second present (by rw [one]; rfl) (by rw [one, two, alike])
              simp only [alike, same]
            · exact swap first member second present m n one two alike state held
  · exact kept

theorem separate_attributes_reordered {attributes others : Attributes} (reordered : attributes.Perm others)
    (agreeing : Agreeing names clean attributes)
    (swap : ∀ m n a b record, m ≠ n → set n b (set m a record) = set m a (set n b record)) (record : Record) :
    setAttributes names set clean attributes record = setAttributes names set clean others record :=
  attributes_reordered names set clean (fun _ => True) reordered agreeing (fun _ _ _ _ _ _ => trivial)
    (fun _ _ _ _ m n _ _ different _ _ => swap m n _ _ _ different) record trivial

end attributes

variable (m n : PictureMember) (a b : Text)

theorem set_picture_swap (record : Picture) (different : m ≠ n) :
    setPicture n b (setPicture m a record) = setPicture m a (setPicture n b record) := by
  cases m <;> cases n <;> first | rfl | exact absurd rfl different

theorem set_video_swap (record : Video) (different : m ≠ n) :
    setVideo n b (setVideo m a record) = setVideo m a (setVideo n b record) := by
  cases m <;> cases n <;> first | rfl | exact absurd rfl different

theorem set_setup_swap (record : Setup) (different : m ≠ n) :
    setSetup n b (setSetup m a record) = setSetup m a (setSetup n b record) := by
  cases m <;> cases n <;> first | rfl | exact absurd rfl different

theorem set_firmware_swap (m n : FirmwareMember) (a b : Text) (record : Firmware) (different : m ≠ n) :
    setFirmware n b (setFirmware m a record) = setFirmware m a (setFirmware n b record) := by
  cases m <;> cases n <;> first | rfl | exact absurd rfl different

theorem set_driver_swap (m n : DriverMember) (a b : Text) (record : Driver) (different : m ≠ n) :
    setDriver n b (setDriver m a record) = setDriver m a (setDriver n b record) := by
  cases m <;> cases n <;> first | rfl | exact absurd rfl different

theorem set_manual_swap (m n : ManualMember) (a b : Text) (record : Manual) (different : m ≠ n) :
    setManual n b (setManual m a record) = setManual m a (setManual n b record) := by
  cases m <;> cases n <;> first | rfl | exact absurd rfl different

theorem set_register_swap (m n : RegisterMember) (a b : Text) (record : Register) (different : m ≠ n) :
    setRegister n b (setRegister m a record) = setRegister m a (setRegister n b record) := by
  cases m <;> cases n <;> first | rfl | exact absurd rfl different

theorem set_value_swap (m n : ValueMember) (a b : Text) (record : Value) (different : m ≠ n) :
    setValue n b (setValue m a record) = setValue m a (setValue n b record) := by
  cases m <;> cases n <;> first | rfl | exact absurd rfl different

theorem set_start_swap (m n : StartMember) (a b : Text) (record : DecisionMatrix) (different : m ≠ n) :
    setStart n b (setStart m a record) = setStart m a (setStart n b record) := by
  cases m <;> cases n <;> first | rfl | exact absurd rfl different

theorem set_action_swap (m n : ActionMember) (a b : Text) (record : Action) (different : m ≠ n) :
    setAction n b (setAction m a record) = setAction m a (setAction n b record) := by
  cases m <;> cases n <;> first | rfl | exact absurd rfl different

theorem set_parameter_swap (m n : ParameterMember) (a b : Text) (record : ActionParameter) (different : m ≠ n) :
    setParameter n b (setParameter m a record) = setParameter m a (setParameter n b record) := by
  cases m <;> cases n <;> first | rfl | exact absurd rfl different

theorem set_event_swap (m n : EventMember) (a b : Text) (record : Event) (different : m ≠ n) :
    setEvent n b (setEvent m a record) = setEvent m a (setEvent n b record) := by
  cases m <;> cases n <;> first | rfl | exact absurd rfl different

theorem set_data_swap (m n : DataMember) (a b : Text) (record : EventData) (different : m ≠ n) :
    setEventData n b (setEventData m a record) = setEventData m a (setEventData n b record) := by
  cases m <;> cases n <;> first | rfl | exact absurd rfl different

theorem set_remote_swap (m n : RemoteMember) (a b : Text) (record : RemoteVariable) (different : m ≠ n)
    (accessFirst : m = .access → n = .size → UInt16.ofInt (readStringValue a) = UInt16.ofInt (readStringValue b))
    (sizeFirst : m = .size → n = .access → UInt16.ofInt (readStringValue a) = UInt16.ofInt (readStringValue b)) :
    setRemote n b (setRemote m a record) = setRemote m a (setRemote n b record) := by
  cases m <;> cases n <;>
    first
    | rfl
    | exact absurd rfl different
    | simp only [setRemote, accessFirst rfl rfl]
    | simp only [setRemote, sizeFirst rfl rfl]

theorem remote_reordered {attributes others : Attributes} (reordered : attributes.Perm others)
    (agreeing : Agreeing remoteNames lowerTrim attributes) (sizes : SizeAgrees attributes) (record : RemoteVariable) :
    setAttributes remoteNames setRemote lowerTrim attributes record =
      setAttributes remoteNames setRemote lowerTrim others record := by
  apply attributes_reordered remoteNames setRemote lowerTrim (fun _ => True) reordered agreeing
  · exact fun _ _ _ _ _ _ => trivial
  · intro first member second present m n one two different state _
    apply set_remote_swap m n _ _ state different
    · intro access size
      exact sizes first member (by rw [one, access]) second present (by rw [two, size])
    · intro size access
      exact (sizes second present (by rw [two, access]) first member (by rw [one, size])).symm
  · trivial

-- Below 8 there are few enough positions and widths to look at each.
theorem small_byte (byte : UInt8) (limit : Nat) (bound : byte.toNat < limit) :
    ∃ number : Fin limit, byte = UInt8.ofNat number.val := ⟨⟨byte.toNat, bound⟩, by simp⟩

theorem field_width_range (width : UInt8) : 0 < (fieldWidth width).toNat ∧ (fieldWidth width).toNat < 9 := by
  unfold fieldWidth
  split
  · decide
  · next present =>
      split
      · decide
      · next low =>
          have positive : width.toNat ≠ 0 := fun zero => present (UInt8.toNat_inj.mp zero)
          have small : ¬ 7 < width.toNat := low
          omega

theorem field_width_fixed (width : UInt8) (range : 0 < width.toNat ∧ width.toNat < 9) : fieldWidth width = width := by
  obtain ⟨number, rfl⟩ := small_byte width 9 range.2
  revert range
  revert number
  decide

theorem low_position (number : UInt8) : (number &&& 7).toNat < 8 := by
  rw [UInt8.toNat_and]
  exact Nat.and_lt_two_pow _ (by decide : (7 : UInt8).toNat < 2 ^ 3)

variable (pos width : UInt8)

theorem first_bit_inside (low : pos.toNat < 8) (range : 0 < width.toNat ∧ width.toNat < 9) :
    fieldMask pos 1 &&& fieldMask pos width = fieldMask pos 1 := by
  obtain ⟨p, rfl⟩ := small_byte pos 8 low
  obtain ⟨w, rfl⟩ := small_byte width 9 range.2
  revert range
  revert p w
  decide

theorem lowest_bit_masked (low : pos.toNat < 8) (range : 0 < width.toNat ∧ width.toNat < 9) :
    1 &&& fieldMask pos width = if pos = 0 then 1 else 0 := by
  obtain ⟨p, rfl⟩ := small_byte pos 8 low
  obtain ⟨w, rfl⟩ := small_byte width 9 range.2
  revert range
  revert p w
  decide

structure KeptBit (attributes : Attributes) (bit : Bit) : Prop where
  pos : bit.pos = 0 ∨ ∃ field ∈ attributes, memberOf bitNames field.1 = some .pos ∧ bit.pos = byteOf field.2 &&& 7
  width : bit.width = 1 ∨
    ∃ field ∈ attributes, memberOf bitNames field.1 = some .width ∧ bit.width = fieldWidth (byteOf field.2)
  min : FitsField attributes bit.min
  max : bit.max = 1 ∨ FitsField attributes bit.max

theorem zero_fits (attributes : Attributes) : FitsField attributes 0 := by
  intro field _
  exact ⟨fun _ => UInt8.zero_and, fun _ => UInt8.zero_and⟩

theorem new_bit_kept (attributes : Attributes) : KeptBit attributes {} :=
  ⟨Or.inl rfl, Or.inl rfl, zero_fits attributes, Or.inl rfl⟩

namespace KeptBit

variable {attributes : Attributes} {bit : Bit} (kept : KeptBit attributes bit)
include kept

theorem pos_low : bit.pos.toNat < 8 := by
  rcases kept.pos with zero | ⟨field, _, _, value⟩
  · rw [zero]
    decide
  · rw [value]
    exact low_position _

theorem width_range : 0 < bit.width.toNat ∧ bit.width.toNat < 9 := by
  rcases kept.width with one | ⟨field, _, _, value⟩
  · rw [one]
    decide
  · rw [value]
    exact field_width_range _

theorem at_pos {field : Text × Text} (member : field ∈ attributes) (pos : memberOf bitNames field.1 = some .pos)
    {bound : UInt8} (fits : FitsField attributes bound) :
    bound &&& fieldMask (byteOf field.2 &&& 7) bit.width = bound := by
  have first := (fits field member).1 pos
  rw [← first, UInt8.and_assoc, first_bit_inside _ _ (low_position _) kept.width_range]

theorem at_width {field : Text × Text} (member : field ∈ attributes) (width : memberOf bitNames field.1 = some .width)
    {bound : UInt8} (fits : FitsField attributes bound) :
    bound &&& fieldMask bit.pos (fieldWidth (byteOf field.2)) = bound := by
  rcases kept.pos with zero | ⟨other, present, pos, value⟩
  · rw [zero]
    exact (fits field member).2 width
  · have first := (fits other present).1 pos
    rw [value, ← first, UInt8.and_assoc, first_bit_inside _ _ (low_position _) (field_width_range _)]

theorem set_pos {field : Text × Text} (member : field ∈ attributes) (pos : memberOf bitNames field.1 = some .pos) :
    KeptBit attributes (bit.setPos (byteOf field.2)) := by
  have fixed := field_width_fixed bit.width kept.width_range
  refine ⟨Or.inr ⟨field, member, pos, rfl⟩, ?_, ?_, ?_⟩
  · show fieldWidth bit.width = 1 ∨ ∃ other ∈ attributes, memberOf bitNames other.1 = some .width ∧
      fieldWidth bit.width = fieldWidth (byteOf other.2)
    rw [fixed]
    exact kept.width
  · show FitsField attributes (bit.min &&& fieldMask (byteOf field.2 &&& 7) (fieldWidth bit.width))
    rw [fixed, kept.at_pos member pos kept.min]
    exact kept.min
  · show bit.max &&& fieldMask (byteOf field.2 &&& 7) (fieldWidth bit.width) = 1 ∨
      FitsField attributes (bit.max &&& fieldMask (byteOf field.2 &&& 7) (fieldWidth bit.width))
    rw [fixed]
    rcases kept.max with one | fits
    · rw [one, lowest_bit_masked _ _ (low_position _) kept.width_range]
      split
      · exact Or.inl rfl
      · exact Or.inr (zero_fits attributes)
    · rw [kept.at_pos member pos fits]
      exact Or.inr fits

theorem set_width {field : Text × Text} (member : field ∈ attributes)
    (width : memberOf bitNames field.1 = some .width) : KeptBit attributes (bit.setWidth (byteOf field.2)) := by
  refine ⟨kept.pos, Or.inr ⟨field, member, width, rfl⟩, ?_, ?_⟩
  · show FitsField attributes (bit.min &&& fieldMask bit.pos (fieldWidth (byteOf field.2)))
    rw [kept.at_width member width kept.min]
    exact kept.min
  · show bit.max &&& fieldMask bit.pos (fieldWidth (byteOf field.2)) = 1 ∨
      FitsField attributes (bit.max &&& fieldMask bit.pos (fieldWidth (byteOf field.2)))
    rcases kept.max with one | fits
    · rw [one, lowest_bit_masked _ _ kept.pos_low (field_width_range _)]
      split
      · exact Or.inl rfl
      · exact Or.inr (zero_fits attributes)
    · rw [kept.at_width member width fits]
      exact Or.inr fits

theorem between {field other : Text × Text} (member : field ∈ attributes) (present : other ∈ attributes)
    (pos : memberOf bitNames field.1 = some .pos) (width : memberOf bitNames other.1 = some .width)
    (samePos : bit.pos = 0 ∨ bit.pos = byteOf field.2 &&& 7) {bound : UInt8}
    (fits : bound = 1 ∨ FitsField attributes bound) :
    bound &&& fieldMask (byteOf field.2 &&& 7) bit.width &&&
        fieldMask (byteOf field.2 &&& 7) (fieldWidth (byteOf other.2)) =
      bound &&& fieldMask bit.pos (fieldWidth (byteOf other.2)) &&&
        fieldMask (byteOf field.2 &&& 7) (fieldWidth (byteOf other.2)) := by
  have range := field_width_range (byteOf other.2)
  rcases fits with rfl | fits
  · rw [lowest_bit_masked _ _ (low_position _) kept.width_range, lowest_bit_masked _ _ kept.pos_low range]
    rcases samePos with zero | same
    · rw [zero, if_pos rfl, lowest_bit_masked _ _ (low_position _) range]
      split
      · next atZero => rw [lowest_bit_masked _ _ (low_position _) range, if_pos atZero]
      · exact UInt8.zero_and
    · rw [same]
  · rw [kept.at_pos member pos fits, kept.at_width present width fits]

theorem pos_width_swap {field other : Text × Text} (member : field ∈ attributes) (present : other ∈ attributes)
    (pos : memberOf bitNames field.1 = some .pos) (width : memberOf bitNames other.1 = some .width)
    (agreeing : Agreeing bitNames lowerTrim attributes) :
    (bit.setPos (byteOf field.2)).setWidth (byteOf other.2) =
      (bit.setWidth (byteOf other.2)).setPos (byteOf field.2) := by
  have samePos : bit.pos = 0 ∨ bit.pos = byteOf field.2 &&& 7 := by
    rcases kept.pos with zero | ⟨own, inside, named, value⟩
    · exact Or.inl zero
    · have alike := agreeing own inside field member (by rw [named]; rfl) (by rw [named, pos])
      rw [value, byteOf, alike]
      exact Or.inr rfl
  have fixed := field_width_fixed bit.width kept.width_range
  have again := field_width_fixed _ (field_width_range (byteOf other.2))
  have minimum := kept.between member present pos width samePos (Or.inr kept.min)
  have maximum := kept.between member present pos width samePos kept.max
  simp only [Bit.setPos, Bit.setWidth, fixed, again, minimum, maximum]

theorem pos_min_swap {field bound : Text × Text} (member : field ∈ attributes)
    (pos : memberOf bitNames field.1 = some .pos) (fits : FitsField attributes (byteOf bound.2)) :
    { bit.setPos (byteOf field.2) with min := byteOf bound.2 } =
      Bit.setPos { bit with min := byteOf bound.2 } (byteOf field.2) := by
  have fixed := field_width_fixed bit.width kept.width_range
  simp only [Bit.setPos, Bit.setWidth, fixed, kept.at_pos member pos fits]

theorem pos_max_swap {field bound : Text × Text} (member : field ∈ attributes)
    (pos : memberOf bitNames field.1 = some .pos) (fits : FitsField attributes (byteOf bound.2)) :
    { bit.setPos (byteOf field.2) with max := byteOf bound.2 } =
      Bit.setPos { bit with max := byteOf bound.2 } (byteOf field.2) := by
  have fixed := field_width_fixed bit.width kept.width_range
  simp only [Bit.setPos, Bit.setWidth, fixed, kept.at_pos member pos fits]

theorem width_min_swap {field bound : Text × Text} (member : field ∈ attributes)
    (width : memberOf bitNames field.1 = some .width) (fits : FitsField attributes (byteOf bound.2)) :
    { bit.setWidth (byteOf field.2) with min := byteOf bound.2 } =
      Bit.setWidth { bit with min := byteOf bound.2 } (byteOf field.2) := by
  simp only [Bit.setWidth, kept.at_width member width fits]

theorem width_max_swap {field bound : Text × Text} (member : field ∈ attributes)
    (width : memberOf bitNames field.1 = some .width) (fits : FitsField attributes (byteOf bound.2)) :
    { bit.setWidth (byteOf field.2) with max := byteOf bound.2 } =
      Bit.setWidth { bit with max := byteOf bound.2 } (byteOf field.2) := by
  simp only [Bit.setWidth, kept.at_width member width fits]

theorem set_bit {entry : Text × Text} (member : entry ∈ attributes) (bounds : BoundsFit attributes) (m : BitMember)
    (named : memberOf bitNames entry.1 = some m) : KeptBit attributes (setBit m (lowerTrim entry.2) bit) := by
  cases m with
  | name => exact ⟨kept.pos, kept.width, kept.min, kept.max⟩
  | pos => exact kept.set_pos member named
  | width => exact kept.set_width member named
  | default => exact ⟨kept.pos, kept.width, kept.min, kept.max⟩
  | min => exact ⟨kept.pos, kept.width, bounds entry member (Or.inl named), kept.max⟩
  | max => exact ⟨kept.pos, kept.width, kept.min, Or.inr (bounds entry member (Or.inr named))⟩
  | access => exact ⟨kept.pos, kept.width, kept.min, kept.max⟩

theorem set_bit_swap {first second : Text × Text} (member : first ∈ attributes) (present : second ∈ attributes)
    (agreeing : Agreeing bitNames lowerTrim attributes) (bounds : BoundsFit attributes) (m n : BitMember)
    (one : memberOf bitNames first.1 = some m) (two : memberOf bitNames second.1 = some n) (different : m ≠ n) :
    setBit n (lowerTrim second.2) (setBit m (lowerTrim first.2) bit) =
      setBit m (lowerTrim first.2) (setBit n (lowerTrim second.2) bit) := by
  cases m <;> cases n
  case pos.width => exact kept.pos_width_swap member present one two agreeing
  case width.pos => exact (kept.pos_width_swap present member two one agreeing).symm
  case pos.min => exact kept.pos_min_swap member one (bounds second present (Or.inl two))
  case min.pos => exact (kept.pos_min_swap present two (bounds first member (Or.inl one))).symm
  case pos.max => exact kept.pos_max_swap member one (bounds second present (Or.inr two))
  case max.pos => exact (kept.pos_max_swap present two (bounds first member (Or.inr one))).symm
  case width.min => exact kept.width_min_swap member one (bounds second present (Or.inl two))
  case min.width => exact (kept.width_min_swap present two (bounds first member (Or.inl one))).symm
  case width.max => exact kept.width_max_swap member one (bounds second present (Or.inr two))
  case max.width => exact (kept.width_max_swap present two (bounds first member (Or.inr one))).symm
  all_goals first | exact absurd rfl different | rfl

end KeptBit

theorem bit_reordered {attributes others : Attributes} (reordered : attributes.Perm others)
    (agreeing : Agreeing bitNames lowerTrim attributes) (bounds : BoundsFit attributes) :
    setAttributes bitNames setBit lowerTrim attributes {} = setAttributes bitNames setBit lowerTrim others {} :=
  attributes_reordered bitNames setBit lowerTrim (KeptBit attributes) reordered agreeing
    (fun _ member m named _ kept => kept.set_bit member bounds m named)
    (fun _ member _ present m n one two different _ kept =>
      kept.set_bit_swap member present agreeing bounds m n one two different)
    {} (new_bit_kept attributes)

theorem language_reordered (token : Text) {attributes others : Attributes} (reordered : attributes.Perm others)
    (free : LanguageOrderFree token attributes) : elementLanguage token attributes = elementLanguage token others := by
  unfold elementLanguage
  by_cases spoken : token ∈ spokenNames
  · rw [if_pos spoken, if_pos spoken]
    exact separate_attributes_reordered _ _ _ reordered (free spoken)
      (fun m n _ _ _ different => absurd (Subsingleton.elim m n) different) _
  · rw [if_neg spoken, if_neg spoken]

variable (pieces : List Text) (parser : Parser)

theorem record_reordered {attributes others : Attributes} (reordered : attributes.Perm others)
    (kind : Opened) (free : RecordOrderFree attributes kind) :
    startRecord parser attributes kind = startRecord parser others kind := by
  cases kind with
  | nothing => rfl
  | picture =>
      simp only [startRecord, separate_attributes_reordered _ setPicture trim reordered free set_picture_swap]
  | firmware =>
      simp only [startRecord, separate_attributes_reordered _ setFirmware trim reordered free set_firmware_swap]
  | manual => simp only [startRecord, separate_attributes_reordered _ setManual trim reordered free set_manual_swap]
  | video => simp only [startRecord, separate_attributes_reordered _ setVideo trim reordered free set_video_swap]
  | driver => simp only [startRecord, separate_attributes_reordered _ setDriver trim reordered free set_driver_swap]
  | setup => simp only [startRecord, separate_attributes_reordered _ setSetup trim reordered free set_setup_swap]
  | item => rfl
  | register =>
      simp only [startRecord, separate_attributes_reordered _ setRegister lowerTrim reordered free set_register_swap]
  | remotevar => simp only [startRecord, remote_reordered reordered free.1 free.2]
  | bit bits => simp only [startRecord, getBitAttributes, bit_reordered reordered free.1 free.2]
  | matrixStart =>
      simp only [startRecord, separate_attributes_reordered _ setStart lowerTrim reordered free set_start_swap]
  | action =>
      simp only [startRecord, separate_attributes_reordered _ setAction lowerTrim reordered free set_action_swap]
  | event => simp only [startRecord, separate_attributes_reordered _ setEvent lowerTrim reordered free set_event_swap]
  | actionParam action =>
      simp only [startRecord, separate_attributes_reordered _ setParameter lowerTrim reordered free set_parameter_swap]
  | eventData =>
      simp only [startRecord, separate_attributes_reordered _ setEventData lowerTrim reordered free set_data_swap]
  | value values =>
      simp only [startRecord, getValueAttributes,
        separate_attributes_reordered _ setValue lowerTrim reordered free set_value_swap]

theorem start_reordered (name : Text) (attributes others : Attributes)
    (reordered : attributes.Perm others) (free : OrderFree parser name attributes) :
    startSetupMDFParser parser name attributes = startSetupMDFParser parser name others := by
  have sameEntry : entered parser name attributes = entered parser name others := by
    simp only [entered, language_reordered _ reordered free.1]
  simp only [startSetupMDFParser, ← sameEntry]
  split
  · rfl
  · next valid =>
      rw [record_reordered _ reordered _ (free.2 (Bool.eq_false_iff.mpr valid))]

theorem texts_append_append (lang first second : Text) (texts : Texts) :
    (texts.append lang first).append lang second = texts.append lang (first ++ second) := by
  unfold Texts.append
  induction texts with
  | nil => simp only [Texts.update, if_true, List.nil_append]
  | cons entry rest ih =>
      by_cases same : lang = entry.1
      · simp only [Texts.update, if_pos same, List.append_assoc]
      · by_cases before : lang < entry.1
        · simp only [Texts.update, if_neg same, if_pos before, if_true, List.nil_append]
        · simp only [Texts.update, if_neg same, if_neg before, ih]

theorem modify_owner_twice (first second : Described → Described) (owner : Owner) :
    (parser.modifyOwner first owner).modifyOwner second owner =
      parser.modifyOwner (fun record => second (first record)) owner := by
  cases owner with
  | item =>
      simp only [Parser.modifyOwner, Option.map_map]
      rfl
  | bit place =>
      cases place with
      | mk bits index =>
          cases bits <;> simp only [Parser.modifyOwner, Mdf.modifyBit, Mdf.modifyBits, Mdf.modifyActionParam,
            Mdf.modifyEventData, List.modify_modify_eq, Function.comp_def]
  | value place =>
      cases place with
      | mk values index =>
          cases values with
          | bit inner =>
              cases inner with
              | mk bits within =>
                  cases bits <;> simp only [Parser.modifyOwner, Mdf.modifyValue, Mdf.modifyValues, Mdf.modifyBit,
                    Mdf.modifyBits, Mdf.modifyActionParam, Mdf.modifyEventData, List.modify_modify_eq,
                    Function.comp_def]
          | _ => simp only [Parser.modifyOwner, Mdf.modifyValue, Mdf.modifyValues, Mdf.modifyActionParam,
              Mdf.modifyEventData, List.modify_modify_eq, Function.comp_def]
  | _ => simp only [Parser.modifyOwner, Mdf.modifyActionParam, Mdf.modifyEventData, List.modify_modify_eq,
      Function.comp_def]

theorem place_item (globals : Globals) (item : Option Item) (alike : item.isSome = globals.item.isSome) :
    textPlace { globals with item := item } = textPlace globals := by
  have record : placeInRecord { globals with item := item } = placeInRecord globals := by
    cases globals with
    | mk lastLanguage tokenList depth old =>
        cases item <;> cases old <;> first | rfl | exact Bool.noConfusion alike
  simp only [textPlace, record]
  rfl

variable (change : Described → Described) (owner : Owner)

theorem modify_owner_globals :
    ∃ item, item.isSome = parser.item.isSome ∧
      (parser.modifyOwner change owner).toGlobals = { parser.toGlobals with item := item } := by
  cases owner with
  | item => exact ⟨_, Option.isSome_map, rfl⟩
  | _ => exact ⟨parser.item, rfl, rfl⟩

theorem modify_owner_place :
    textPlace (parser.modifyOwner change owner).toGlobals = textPlace parser.toGlobals := by
  obtain ⟨item, alike, globals⟩ := modify_owner_globals parser change owner
  rw [globals, place_item parser.toGlobals item alike]

theorem modify_owner_language :
    (parser.modifyOwner change owner).lastLanguage = parser.lastLanguage := by
  obtain ⟨item, _, globals⟩ := modify_owner_globals parser change owner
  rw [globals]

theorem pieces_appended (store : Text → Text → Described → Described) (place : TextPlace) (owner : Owner)
    (stores : ∀ (parser : Parser) text, storeText parser text place =
      some (parser.modifyOwner (store parser.lastLanguage text) owner))
    (joins : ∀ lang first second record, store lang second (store lang first record) = store lang (first ++ second) record)
    (pieces : List Text) (parser : Parser) (here : textPlace parser.toGlobals = place) :
    pieces.foldlM handleMDFParserData parser =
      if (pieces.map trim).flatten = [] then some parser else storeText parser (pieces.map trim).flatten place := by
  induction pieces generalizing parser with
  | nil => rfl
  | cons piece rest ih =>
      by_cases blank : trim piece = []
      · have skipped : handleMDFParserData parser piece = some parser := if_pos blank
        simp only [List.foldlM_cons, skipped, Option.bind_eq_bind, Option.bind_some, List.map_cons, List.flatten_cons,
          blank, List.nil_append]
        exact ih parser here
      · have stored : handleMDFParserData parser piece =
            some (parser.modifyOwner (store parser.lastLanguage (trim piece)) owner) := by
          show (if trim piece = [] then _ else storeText parser (trim piece) (textPlace parser.toGlobals)) = _
          rw [if_neg blank, here, stores]
        have later := ih (parser.modifyOwner (store parser.lastLanguage (trim piece)) owner)
          (by rw [modify_owner_place, here])
        have filled : ((piece :: rest).map trim).flatten ≠ [] := by
          simp only [List.map_cons, List.flatten_cons, ne_eq, List.append_eq_nil_iff, blank, false_and,
            not_false_eq_true]
        rw [if_neg filled, stores]
        simp only [List.foldlM_cons, stored, Option.bind_eq_bind, Option.bind_some, later, List.map_cons,
          List.flatten_cons]
        split
        · next empty => rw [empty, List.append_nil]
        · rw [stores, modify_owner_language, modify_owner_twice]
          simp only [joins]

theorem blank_iff (text : Text) : trim text = [] ↔ ∀ letter ∈ text, isSpace letter = true := by
  unfold trim
  rw [List.rdropWhile_eq_nil_iff]
  constructor
  · intro kept letter member
    by_contra visible
    have remains : text.dropWhile isSpace ≠ [] := by
      intro empty
      exact visible (List.dropWhile_eq_nil_iff.mp empty letter member)
    have first := List.head_dropWhile_not isSpace remains
    rw [kept _ (List.head_mem remains)] at first
    exact Bool.noConfusion first
  · intro spaces letter member
    exact spaces letter (List.dropWhile_suffix isSpace |>.subset member)

theorem trim_after_blank (blank text : Text) (spaces : trim blank = []) : trim (blank ++ text) = trim text := by
  unfold trim
  rw [List.dropWhile_append_of_pos ((blank_iff blank).mp spaces)]

theorem trim_before_blank (text blank : Text) (spaces : trim blank = []) : trim (text ++ blank) = trim text := by
  by_cases empty : trim text = []
  · rw [trim_after_blank text blank empty, spaces, empty]
  · have visible : text.dropWhile isSpace ≠ [] := by
      intro gone
      exact empty (by rw [trim, gone]; rfl)
    have dropped : (text ++ blank).dropWhile isSpace = text.dropWhile isSpace ++ blank := by
      rw [List.dropWhile_append, if_neg (by simpa using visible)]
    unfold trim
    rw [dropped]
    have spaceAll := (blank_iff blank).mp spaces
    unfold List.rdropWhile
    rw [List.reverse_append, List.dropWhile_append_of_pos (fun letter member => spaceAll letter (List.mem_reverse.mp member))]

theorem trim_blank_pieces (blank : ∀ piece ∈ pieces, trim piece = []) :
    trim pieces.flatten = [] := by
  induction pieces with
  | nil => rfl
  | cons piece rest ih =>
      rw [List.flatten_cons, trim_after_blank _ _ (blank piece List.mem_cons_self)]
      exact ih fun other member => blank other (List.mem_cons_of_mem _ member)

theorem blank_pieces_ignored (blank : ∀ piece ∈ pieces, trim piece = []) (parser : Parser) :
    pieces.foldlM handleMDFParserData parser = some parser := by
  induction pieces with
  | nil => rfl
  | cons piece rest ih =>
      have skipped : handleMDFParserData parser piece = some parser := if_pos (blank piece List.mem_cons_self)
      simp only [List.foldlM_cons, skipped, Option.bind_eq_bind, Option.bind_some]
      exact ih fun other member => blank other (List.mem_cons_of_mem _ member)

theorem single_piece (few : (pieces.filter fun piece => trim piece ≠ []).length ≤ 1)
    (parser : Parser) : pieces.foldlM handleMDFParserData parser = handleMDFParserData parser pieces.flatten := by
  induction pieces with
  | nil => rfl
  | cons piece rest ih =>
      by_cases blank : trim piece = []
      · have skipped : handleMDFParserData parser piece = some parser := if_pos blank
        have fewer : (rest.filter fun piece => trim piece ≠ []).length ≤ 1 := by
          simpa only [List.filter_cons, blank, ne_eq, not_true_eq_false, decide_false, Bool.false_eq_true,
            if_false] using few
        simp only [List.foldlM_cons, skipped, Option.bind_eq_bind, Option.bind_some, List.flatten_cons]
        rw [ih fewer]
        simp only [handleMDFParserData, trim_after_blank _ _ blank]
      · have none : (rest.filter fun piece => trim piece ≠ []).length = 0 := by
          simp only [List.filter_cons, blank, ne_eq, not_false_eq_true, decide_true, if_true, List.length_cons] at few
          simpa only [ne_eq] using Nat.le_zero.mp (Nat.succ_le_succ_iff.mp few)
        have blanks : ∀ other ∈ rest, trim other = [] := by
          intro other member
          by_contra visible
          have inside : other ∈ rest.filter fun piece => trim piece ≠ [] :=
            List.mem_filter.mpr ⟨member, decide_eq_true visible⟩
          rw [List.length_eq_zero_iff.mp none] at inside
          cases inside
        have whole : trim (piece :: rest).flatten = trim piece := by
          rw [List.flatten_cons, trim_before_blank _ _ (trim_blank_pieces rest blanks)]
        have same : handleMDFParserData parser (piece :: rest).flatten = handleMDFParserData parser piece := by
          simp only [handleMDFParserData, whole]
        rw [same]
        simp only [List.foldlM_cons]
        cases handleMDFParserData parser piece with
        | none => rfl
        | some next => exact blank_pieces_ignored rest blanks next

theorem pieces_nowhere (here : textPlace parser.toGlobals = .nowhere) :
    pieces.foldlM handleMDFParserData parser = handleMDFParserData parser pieces.flatten := by
  have ignored : ∀ content, handleMDFParserData parser content = some parser := by
    intro content
    unfold handleMDFParserData
    rw [here]
    exact ite_self _
  rw [ignored]
  induction pieces with
  | nil => rfl
  | cons piece rest ih => simpa only [List.foldlM_cons, ignored, Option.bind_eq_bind, Option.bind_some] using ih

theorem pieces_null (here : textPlace parser.toGlobals = .nullPointer) :
    pieces.foldlM handleMDFParserData parser = handleMDFParserData parser pieces.flatten := by
  induction pieces with
  | nil => rfl
  | cons piece rest ih =>
      by_cases blank : trim piece = []
      · have skipped : handleMDFParserData parser piece = some parser := if_pos blank
        simp only [List.foldlM_cons, skipped, Option.bind_eq_bind, Option.bind_some, List.flatten_cons]
        rw [ih]
        simp only [handleMDFParserData, trim_after_blank _ _ blank]
      · have crashed : ∀ content, trim content ≠ [] → handleMDFParserData parser content = none := by
          intro content visible
          unfold handleMDFParserData
          rw [here]
          exact if_neg visible
        have visible : trim (piece :: rest).flatten ≠ [] := by
          intro spaces
          apply blank
          rw [blank_iff] at spaces ⊢
          exact fun letter member => spaces letter (by simp [member])
        rw [crashed _ visible, List.foldlM_cons, crashed piece blank]
        rfl

theorem pieces_joined (free : CutFree parser pieces) :
    pieces.foldlM handleMDFParserData parser = handleMDFParserData parser pieces.flatten := by
  unfold CutFree at free
  cases here : textPlace parser.toGlobals with
  | nowhere => exact pieces_nowhere pieces parser here
  | nullPointer => exact pieces_null pieces parser here
  | description owner =>
      rw [here] at free
      rw [pieces_appended Described.describe _ owner (fun _ _ => rfl) _ pieces parser here, free]
      · simp only [handleMDFParserData, here]
      · intro lang first second record
        simp only [Described.describe, texts_append_append]
  | infoURL owner =>
      rw [here] at free
      rw [pieces_appended Described.inform _ owner (fun _ _ => rfl) _ pieces parser here, free]
      · simp only [handleMDFParserData, here]
      · intro lang first second record
        simp only [Described.inform, texts_append_append]
  | _ =>
      rw [here] at free
      exact single_piece pieces free parser

-- The order of attributes and the cuts in the text make no difference to documents where no
-- two attributes of an element meet in one member and no text that replaces an older one is cut.
theorem presentation_ignored (globals : Globals) (mdf : Mdf) (nodes others : List Node)
    (same : List.Forall₂ Node.Same nodes others)
    (settled : Settled startSetupMDFParser handleMDFParserData endSetupMDFParser OrderFree CutFree
      { toGlobals := resetGlobals globals, mdf := mdf.clearStorage } nodes)
    (otherSettled : Settled startSetupMDFParser handleMDFParserData endSetupMDFParser OrderFree CutFree
      { toGlobals := resetGlobals globals, mdf := mdf.clearStorage } others) :
    parseNodes globals mdf nodes = parseNodes globals mdf others := by
  apply SaxHandler.handle_same _ _ _ nodes others same settled otherSettled
  · intro parser name attributes other reordered free
    exact start_reordered parser name attributes other reordered free
  · intro parser pieces other joined free otherFree
    rw [pieces_joined pieces parser free, pieces_joined other parser otherFree, joined]

def openModule (tag : Text) : List Node :=
  [.start "vscp".toList [], .start "module".toList [], .start tag []]

def closeModule (tag : Text) : List Node := [.stop tag, .stop "module".toList, .stop "vscp".toList]

def registerDocument (bit : Attributes) (description : List Text) : List Node :=
  openModule "registers".toList ++
    [.start "reg".toList [("offset".toList, "2".toList)], .start "bit".toList bit,
      .start "description".toList [], .text description, .stop "description".toList,
      .stop "bit".toList, .stop "reg".toList] ++
    closeModule "registers".toList

theorem register_documents_same {bit other : Attributes} (reordered : bit.Perm other) {description pieces : List Text}
    (joined : description.flatten = pieces.flatten) :
    List.Forall₂ Node.Same (registerDocument bit description) (registerDocument other pieces) :=
  List.rel_append (List.rel_append (SaxHandler.same_refl _)
    (.cons (Node.Same.refl _) (.cons (.start _ reordered) (.cons (Node.Same.refl _) (.cons (.text joined)
      (SaxHandler.same_refl _)))))) (SaxHandler.same_refl _)

def fieldAttributes : Attributes :=
  [("pos".toList, "4".toList), ("width".toList, "3".toList), ("min".toList, "0".toList), ("name".toList, "mode".toList)]

theorem presentation_ignored_example :
    parseNodes freshGlobals {} (registerDocument fieldAttributes ["on & off".toList]) =
      parseNodes freshGlobals {} (registerDocument fieldAttributes.reverse ["on & o".toList, "ff".toList]) :=
  presentation_ignored freshGlobals {} _ _ (register_documents_same (List.reverse_perm _).symm (by decide)) (by decide)
    (by decide)

def boundedAttributes : Attributes := [("pos".toList, "2".toList), ("max".toList, "7".toList)]

def namedDocument (pieces : List Text) : List Node :=
  openModule "name".toList ++ [.text pieces] ++ closeModule "name".toList

-- With the position first the maximum is 7, with the maximum first it is cut to 4; and of the
-- three pieces of a name with an ampersand only the last one remains.
theorem presentation_matters :
    (List.Forall₂ Node.Same (registerDocument boundedAttributes []) (registerDocument boundedAttributes.reverse []) ∧
      (parseNodes freshGlobals {} (registerDocument boundedAttributes [])).map Parser.mdf ≠
        (parseNodes freshGlobals {} (registerDocument boundedAttributes.reverse [])).map Parser.mdf) ∧
    (List.Forall₂ Node.Same (namedDocument ["a & b".toList])
        (namedDocument ["a ".toList, "&".toList, " b".toList]) ∧
      (parseNodes freshGlobals {} (namedDocument ["a & b".toList])).map Parser.mdf ≠
        (parseNodes freshGlobals {} (namedDocument ["a ".toList, "&".toList, " b".toList])).map Parser.mdf) :=
  ⟨⟨register_documents_same (List.reverse_perm _).symm rfl, by decide⟩,
    List.rel_append (List.rel_append (SaxHandler.same_refl _) (.cons (.text (by decide)) .nil))
      (SaxHandler.same_refl _), by decide⟩

end Vscp.ModuleDescription
