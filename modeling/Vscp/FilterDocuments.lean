import Vscp.EventJson
import Vscp.FilterText
import Vscp.Lib.FieldRecord
import Vscp.Lib.JsonGrammar
import Vscp.XmlHistory

set_option autoImplicit false

namespace Vscp

open FieldRecord JsonText NumberText
open RemoteTcp (Text)

inductive FilterField where
  | maskPriority
  | maskClass
  | maskType
  | maskGuid
  | filterPriority
  | filterClass
  | filterType
  | filterGuid
deriving DecidableEq

namespace FilterField

def all : List FilterField :=
  [.maskPriority, .maskClass, .maskType, .maskGuid, .filterPriority, .filterClass, .filterType, .filterGuid]

def name : FilterField → Text
  | .maskPriority => ['m', 'a', 's', 'k', '_', 'p', 'r', 'i', 'o', 'r', 'i', 't', 'y']
  | .maskClass => ['m', 'a', 's', 'k', '_', 'c', 'l', 'a', 's', 's']
  | .maskType => ['m', 'a', 's', 'k', '_', 't', 'y', 'p', 'e']
  | .maskGuid => ['m', 'a', 's', 'k', '_', 'g', 'u', 'i', 'd']
  | .filterPriority => ['f', 'i', 'l', 't', 'e', 'r', '_', 'p', 'r', 'i', 'o', 'r', 'i', 't', 'y']
  | .filterClass => ['f', 'i', 'l', 't', 'e', 'r', '_', 'c', 'l', 'a', 's', 's']
  | .filterType => ['f', 'i', 'l', 't', 'e', 'r', '_', 't', 'y', 'p', 'e']
  | .filterGuid => ['f', 'i', 'l', 't', 'e', 'r', '_', 'g', 'u', 'i', 'd']

abbrev Content : FilterField → Type
  | .maskPriority => UInt8
  | .maskClass => UInt16
  | .maskType => UInt16
  | .maskGuid => Guid
  | .filterPriority => UInt8
  | .filterClass => UInt16
  | .filterType => UInt16
  | .filterGuid => Guid

def content : (field : FilterField) → VscpEventFilter → field.Content
  | .maskPriority, pFilter => pFilter.maskPriority
  | .maskClass, pFilter => pFilter.maskClass
  | .maskType, pFilter => pFilter.maskType
  | .maskGuid, pFilter => pFilter.maskGuid
  | .filterPriority, pFilter => pFilter.filterPriority
  | .filterClass, pFilter => pFilter.filterClass
  | .filterType, pFilter => pFilter.filterType
  | .filterGuid, pFilter => pFilter.filterGuid

def store : (field : FilterField) → field.Content → VscpEventFilter → VscpEventFilter
  | .maskPriority, value, pFilter => { pFilter with maskPriority := value }
  | .maskClass, value, pFilter => { pFilter with maskClass := value }
  | .maskType, value, pFilter => { pFilter with maskType := value }
  | .maskGuid, value, pFilter => { pFilter with maskGuid := value }
  | .filterPriority, value, pFilter => { pFilter with filterPriority := value }
  | .filterClass, value, pFilter => { pFilter with filterClass := value }
  | .filterType, value, pFilter => { pFilter with filterType := value }
  | .filterGuid, value, pFilter => { pFilter with filterGuid := value }

def written : (field : FilterField) → VscpEventFilter → Text
  | .maskPriority, pFilter => decimal pFilter.maskPriority.toNat
  | .maskClass, pFilter => decimal pFilter.maskClass.toNat
  | .maskType, pFilter => decimal pFilter.maskType.toNat
  | .maskGuid, pFilter => GuidWriters.writeGuidArrayToString pFilter.maskGuid false .normal
  | .filterPriority, pFilter => decimal pFilter.filterPriority.toNat
  | .filterClass, pFilter => decimal pFilter.filterClass.toNat
  | .filterType, pFilter => decimal pFilter.filterType.toNat
  | .filterGuid, pFilter => GuidWriters.writeGuidArrayToString pFilter.filterGuid false .normal

def isGuid : FilterField → Bool
  | .maskGuid => true
  | .filterGuid => true
  | _ => false

theorem lawful : FieldRecord.Lawful content store where
  stored field value record := by cases field <;> rfl
  others field different value record apart := by
    cases field <;> cases different <;> first | rfl | exact absurd rfl apart
  same field record := by cases field <;> rfl

end FilterField

def filterXmlFields (pFilter : VscpEventFilter) : List (Text × Text) :=
  FilterField.all.map fun field => (field.name, field.written pFilter)

-- A line for each attribute, and a blank behind it.
def writeFilterMaskToXml (pFilter : VscpEventFilter) : Text :=
  XmlText.spacedElementText ['\n'] filterName (filterXmlFields pFilter)

-- A line for each member, and a comma behind it, also behind the last one.
def writeFilterMaskToJson (pFilter : VscpEventFilter) : Text :=
  ['{', '\n'] ++
    (FilterField.all.flatMap fun field =>
      memberText (field.name, if field.isGuid then quoted (field.written pFilter) else field.written pFilter) ++
        [',', '\n']) ++ ['}']

section

-- json::parse, and the casts of floating point numbers.
variable (parse : Text → Except JsonFailure Value) (castToByte : Text → UInt8) (castToUint16 : Text → UInt16)

def jsonUint16 (value : Value) : Option UInt16 :=
  match value with
  | .numberUnsigned number => some number.toUInt16
  | .numberInteger number => some (UInt16.ofInt number)
  | .numberFloat digits => some (castToUint16 digits)
  | .boolean truth => some (if truth then 1 else 0)
  | _ => none

def FilterField.get : (field : FilterField) → Value → Option field.Content
  | .maskPriority, value => jsonByte castToByte value
  | .maskClass, value => jsonUint16 castToUint16 value
  | .maskType, value => jsonUint16 castToUint16 value
  | .maskGuid, value => (stringOf (some value)).map guidFromString
  | .filterPriority, value => jsonByte castToByte value
  | .filterClass, value => jsonUint16 castToUint16 value
  | .filterType, value => jsonUint16 castToUint16 value
  | .filterGuid, value => (stringOf (some value)).map guidFromString

def FilterField.reading (j : Value) (field : FilterField) : Reading field.Content :=
  match j.member field.name with
  | none => .absent
  | some value =>
      match field.get castToByte castToUint16 value with
      | none => .refused
      | some content => .given content

-- An exception leaves what was assigned before it.
def readFilterMaskFromJson (pFilter : VscpEventFilter) (strFilter : Text) : Bool × VscpEventFilter :=
  match parse strFilter with
  | .error _ => (false, pFilter)
  | .ok j => FieldRecord.assign FilterField.store (FilterField.reading castToByte castToUint16 j) FilterField.all pFilter

end

def FilterField.parse : (field : FilterField) → Text → field.Content
  | .maskPriority, text => UInt8.ofInt (readStringValue text)
  | .maskClass, text => UInt16.ofInt (readStringValue text)
  | .maskType, text => UInt16.ofInt (readStringValue text)
  | .maskGuid, text => guidFromString text
  | .filterPriority, text => UInt8.ofInt (readStringValue text)
  | .filterClass, text => UInt16.ofInt (readStringValue text)
  | .filterType, text => UInt16.ofInt (readStringValue text)
  | .filterGuid, text => guidFromString text

variable (field : FilterField) (pFilter : VscpEventFilter)

theorem filter_field_named (text : Text) :
    filterField pFilter (field.name, text) = field.store (field.parse text) pFilter := by
  cases field <;> simp [filterField, FilterField.name, FilterField.parse, FilterField.store]

theorem written_parses :
    field.parse (field.written pFilter) = field.content pFilter := by
  cases field with
  | maskPriority => exact read_word8 pFilter.maskPriority
  | maskClass => exact read_word16 pFilter.maskClass
  | maskType => exact read_word16 pFilter.maskType
  | maskGuid => exact guid_from_written pFilter.maskGuid
  | filterPriority => exact read_word8 pFilter.filterPriority
  | filterClass => exact read_word16 pFilter.filterClass
  | filterType => exact read_word16 pFilter.filterType
  | filterGuid => exact guid_from_written pFilter.filterGuid

theorem xml_fields_read (pFilter other : VscpEventFilter) :
    (filterXmlFields pFilter).foldl filterField other = pFilter := by
  have stored : ∀ fields : List FilterField, ∀ record,
      (fields.map fun field => (field.name, field.written pFilter)).foldl filterField record =
        fields.foldl (fun record field => field.store (field.content pFilter) record) record := by
    intro fields
    induction fields with
    | nil => exact fun _ => rfl
    | cons field fields ih =>
        intro record
        rw [List.map_cons, List.foldl_cons, filter_field_named, written_parses, ih]
        rfl
  rw [filterXmlFields, stored]
  rfl

theorem written_letters :
    ∀ letter ∈ field.written pFilter, (digitValue letter).isSome ∨ letter = ':' := by
  have number : ∀ value, ∀ letter ∈ decimal value, (digitValue letter).isSome ∨ letter = ':' := by
    intro value letter inside
    obtain ⟨digit, read, _⟩ := digit_of_base 10 letter (decimal_digits value letter inside)
    exact .inl (by rw [read]; rfl)
  have guid : ∀ guid : Guid, ∀ letter ∈ writeGuidToString guid, (digitValue letter).isSome ∨ letter = ':' := by
    intro guid letter inside
    rcases hex_groups_letters guid.toList letter inside with hex | colon
    · obtain ⟨digit, read, _⟩ := digit_of_base 16 letter hex
      exact .inl (by rw [read]; rfl)
    · exact .inr colon
  cases field with
  | maskPriority => exact number _
  | maskClass => exact number _
  | maskType => exact number _
  | maskGuid => exact guid pFilter.maskGuid
  | filterPriority => exact number _
  | filterClass => exact number _
  | filterType => exact number _
  | filterGuid => exact guid pFilter.filterGuid

theorem written_length : (field.written pFilter).length ≤ 48 := by
  have byte : ∀ value : UInt8, (decimal value.toNat).length ≤ 48 :=
    fun value => decimal_length _ 48 (by decide) (Nat.lt_trans value.toNat_lt (by decide))
  have word : ∀ value : UInt16, (decimal value.toNat).length ≤ 48 :=
    fun value => decimal_length _ 48 (by decide) (Nat.lt_trans value.toNat_lt (by decide))
  cases field with
  | maskPriority => exact byte _
  | maskClass => exact word _
  | maskType => exact word _
  | maskGuid => exact guid_text_length pFilter.maskGuid
  | filterPriority => exact byte _
  | filterClass => exact word _
  | filterType => exact word _
  | filterGuid => exact guid_text_length pFilter.filterGuid

theorem filter_xml_reads :
    XmlText.read (writeFilterMaskToXml pFilter) = some [.start filterName (filterXmlFields pFilter), .stop filterName] := by
  have blank : ∀ letter ∈ ['\n'], XmlText.isBlank letter = true := by
    intro letter inside
    obtain rfl := List.mem_singleton.mp inside
    rfl
  apply XmlText.spaced_element_reads ['\n'] filterName blank (filterXmlFields pFilter) rfl
  · intro entry member
    obtain ⟨field, _, rfl⟩ := List.mem_map.mp member
    cases field <;> rfl
  · intro entry member letter inside
    obtain ⟨field, _, rfl⟩ := List.mem_map.mp member
    rcases written_letters field pFilter letter inside with digit | rfl
    · exact XmlText.digit_is_plain letter digit
    · rfl
  · change (FilterField.all.map FilterField.name).Nodup
    decide

theorem filter_xml_length : (writeFilterMaskToXml pFilter).length ≤ xmlBuffSize := by
  have length := fun field => written_length field pFilter
  have first := length .maskPriority
  have second := length .maskClass
  have third := length .maskType
  have fourth := length .maskGuid
  have fifth := length .filterPriority
  have sixth := length .filterClass
  have seventh := length .filterType
  have eighth := length .filterGuid
  simp only [writeFilterMaskToXml, XmlText.spacedElementText, filterXmlFields, FilterField.all, FilterField.name,
    filterName, XmlText.attributeText, xmlBuffSize, List.map_cons, List.map_nil, List.intercalate_cons_cons,
    List.intercalate_singleton, List.length_append, List.length_cons, List.length_nil]
  omega

theorem filter_xml_kept (sax : Text → List XmlText.SaxEvent × Bool)
    (faithful : ∀ text events, XmlText.read text = some events → sax text = (events, true))
    (pFilter other : VscpEventFilter) :
    readFilterMaskFromXml sax 0 other (writeFilterMaskToXml pFilter) = some (0, true, pFilter) := by
  apply element_decodes sax faithful startFilterMaskXmlParser 0 other pFilter _ _ _ (filter_xml_reads pFilter)
    (List.cons_ne_nil _ _) (filter_xml_length pFilter)
  rw [startFilterMaskXmlParser, if_pos ⟨rfl, rfl⟩, xml_fields_read]

theorem json_template_ends :
    ∃ front, writeFilterMaskToJson pFilter = front ++ [',', '\n', '}'] := by
  have lines : ∀ fields : List FilterField, ∀ text : FilterField → Text, fields ≠ [] →
      ∃ front, (fields.flatMap fun field => text field ++ [',', '\n']) = front ++ [',', '\n'] := by
    intro fields text some
    obtain ⟨before, last, rfl⟩ := (List.eq_nil_or_concat fields).resolve_left some
    exact ⟨(before.flatMap fun field => text field ++ [',', '\n']) ++ text last, by simp⟩
  obtain ⟨front, same⟩ := lines FilterField.all _ (List.cons_ne_nil _ _)
  refine ⟨['{', '\n'] ++ front, ?_⟩
  rw [writeFilterMaskToJson, same]
  simp

section

variable (parse : Text → Except JsonFailure Value) (castToByte : Text → UInt8) (castToUint16 : Text → UInt16)

theorem filter_json_refused (strict : ∀ text value, parse text = .ok value → Document text)
    (pFilter other : VscpEventFilter) :
    readFilterMaskFromJson parse castToByte castToUint16 other (writeFilterMaskToJson pFilter) = (false, other) := by
  obtain ⟨front, written⟩ := json_template_ends pFilter
  have ends : solid (writeFilterMaskToJson pFilter) = solid front ++ [',', '}'] := by
    rw [written, solid_append]
    rfl
  cases parsed : parse (writeFilterMaskToJson pFilter) with
  | error failure => rw [readFilterMaskFromJson, parsed]
  | ok j => exact absurd (strict _ j parsed) (no_comma_before_brace _ _ ends)

def FailsClean (pFilter : VscpEventFilter) (strFilter : Text) : Prop :=
  ∀ j, parse strFilter = .ok j →
    ∀ before, FirstRefused (FilterField.reading castToByte castToUint16 j) FilterField.all before →
      Stands FilterField.content (FilterField.reading castToByte castToUint16 j) before pFilter

theorem rejected_json_kept_iff (pFilter : VscpEventFilter) (strFilter : Text) :
    ((readFilterMaskFromJson parse castToByte castToUint16 pFilter strFilter).1 = false →
      (readFilterMaskFromJson parse castToByte castToUint16 pFilter strFilter).2 = pFilter) ↔
      FailsClean parse castToByte castToUint16 pFilter strFilter := by
  cases parsed : parse strFilter with
  | error failure =>
      refine iff_of_true ?_ ?_
      · intro _
        rw [readFilterMaskFromJson, parsed]
      · intro j same
        rw [parsed] at same
        cases same
  | ok j =>
      have result : readFilterMaskFromJson parse castToByte castToUint16 pFilter strFilter =
          FieldRecord.assign FilterField.store (FilterField.reading castToByte castToUint16 j) FilterField.all pFilter := by
        rw [readFilterMaskFromJson, parsed]
      have clean : FailsClean parse castToByte castToUint16 pFilter strFilter ↔
          ∀ before, FirstRefused (FilterField.reading castToByte castToUint16 j) FilterField.all before →
            Stands FilterField.content (FilterField.reading castToByte castToUint16 j) before pFilter := by
        constructor
        · exact fun clean => clean j parsed
        · intro clean other same
          rw [parsed] at same
          cases same
          exact clean
      rw [result, clean]
      exact failure_keeps_iff _ FilterField.lawful FilterField.all (by decide) pFilter

-- An XML text comes back as it was, a JSON text never; a rejected JSON text may have changed the filter.
theorem filter_documents_iff (sax : Text → List XmlText.SaxEvent × Bool)
    (strict : ∀ text value, parse text = .ok value → Document text)
    (faithful : ∀ text events, XmlText.read text = some events → sax text = (events, true)) :
    (∀ pFilter other,
      readFilterMaskFromXml sax 0 other (writeFilterMaskToXml pFilter) = some (0, true, pFilter)) ∧
    (∀ pFilter other,
      readFilterMaskFromJson parse castToByte castToUint16 other (writeFilterMaskToJson pFilter) = (false, other)) ∧
    (∀ pFilter strFilter,
      ((readFilterMaskFromJson parse castToByte castToUint16 pFilter strFilter).1 = false →
        (readFilterMaskFromJson parse castToByte castToUint16 pFilter strFilter).2 = pFilter) ↔
        FailsClean parse castToByte castToUint16 pFilter strFilter) :=
  ⟨filter_xml_kept sax faithful, filter_json_refused parse castToByte castToUint16 strict,
    rejected_json_kept_iff parse castToByte castToUint16⟩

end

theorem plain_parse_strict (text : Text) (value : Value) (parsed : plainParse text = .ok value) : Document text := by
  unfold plainParse at parsed
  cases found : JsonText.read text with
  | none =>
      rw [found] at parsed
      cases parsed
  | some read => exact read_document text read found

def quietFilter : VscpEventFilter := ⟨0, 0, 0, 0, 0, 0, leading [], leading []⟩
def busyFilter : VscpEventFilter := ⟨3, 7, 10, 0xffff, 6, 0xffff, leading [1, 2], leading [0xff]⟩

def halfFilterText : Text :=
  ['{', '"', 'm', 'a', 's', 'k', '_', 'p', 'r', 'i', 'o', 'r', 'i', 't', 'y', '"', ':', '5', ',',
    '"', 'm', 'a', 's', 'k', '_', 'c', 'l', 'a', 's', 's', '"', ':', '"', 'x', '"', '}']

theorem filter_documents_example :
    readFilterMaskFromXml plainSax 0 quietFilter (writeFilterMaskToXml busyFilter) = some (0, true, busyFilter) ∧
    readFilterMaskFromJson plainParse (fun _ => 0) (fun _ => 0) quietFilter (writeFilterMaskToJson busyFilter) =
      (false, quietFilter) ∧
    (((readFilterMaskFromJson plainParse (fun _ => 0) (fun _ => 0) busyFilter halfFilterText).1 = false →
      (readFilterMaskFromJson plainParse (fun _ => 0) (fun _ => 0) busyFilter halfFilterText).2 = busyFilter) ↔
      FailsClean plainParse (fun _ => 0) (fun _ => 0) busyFilter halfFilterText) := by
  obtain ⟨xml, json, rejected⟩ :=
    filter_documents_iff plainParse (fun _ => 0) (fun _ => 0) plainSax plain_parse_strict plain_sax_reads
  exact ⟨xml busyFilter quietFilter, json busyFilter quietFilter, rejected busyFilter halfFilterText⟩

-- The template is refused, and a text that is refused behind its first member has changed the filter.
theorem written_filter_refused :
    readFilterMaskFromJson plainParse (fun _ => 0) (fun _ => 0) quietFilter (writeFilterMaskToJson busyFilter) =
      (false, quietFilter) ∧
    quietFilter ≠ busyFilter ∧
    readFilterMaskFromJson plainParse (fun _ => 0) (fun _ => 0) quietFilter halfFilterText =
      (false, { quietFilter with maskPriority := 5 }) ∧
    quietFilter ≠ { quietFilter with maskPriority := 5 } :=
  ⟨by decide +kernel, by decide, by decide +kernel, by decide⟩

end Vscp
