import Vscp.DateText
import Vscp.GuidText
import Vscp.Lib.JsonText

set_option autoImplicit false

namespace Vscp

open NumberText JsonText
open RemoteTcp (Text)

def quoted (letters : Text) : Text := '"' :: letters ++ ['"']

def eventMembers (pev : VscpEvent) : List (Text × Text) :=
  [(['h', 'e', 'a', 'd'], decimal (writtenHead pev.head).toNat),
    (['o', 'b', 'i', 'd'], decimal pev.obid.toNat),
    (['d', 'a', 't', 'e', 't', 'i', 'm', 'e'], quoted (getDateStringFromEvent pev)),
    (['t', 'i', 'm', 'e', 's', 't', 'a', 'm', 'p', '_', 'n', 's'],
      quoted (['0', 'x'] ++ lowerHex 16 (eventTimestampNs pev).toNat)),
    (['c', 'l', 'a', 's', 's'], decimal pev.vscpClass.toNat),
    (['t', 'y', 'p', 'e'], decimal pev.vscpType.toNat),
    (['g', 'u', 'i', 'd'], quoted (writeGuidToString pev.guid)),
    (['d', 'a', 't', 'a'], '[' :: dataText pev true ++ [']']),
    (['n', 'o', 't', 'e'], quoted [])]

def convertEventToJson (pev : VscpEvent) : Text := objectText (eventMembers pev)

-- The same template, filled in from an eventEx.
def convertEventExToJson (pex : VscpEventEx) : Text := convertEventToJson pex.fields

inductive JsonFailure where
  | parseError
  | other

def firstOf (j : Value) (primary legacy : Text) : Option Value :=
  match j.member primary with
  | some value => some value
  | none => j.member legacy

def unsignedOf (value : Option Value) : Option UInt64 :=
  match value with
  | some (.numberUnsigned number) => some number
  | _ => none

def stringOf (value : Option Value) : Option Text :=
  match value with
  | some (.string letters) => some letters
  | _ => none

def arrayOf (value : Option Value) : Option (List Value) :=
  match value with
  | some (.array items) => some items
  | _ => none

def jsonHead (j : Value) : UInt16 :=
  let head := (unsignedOf (firstOf j ['h', 'e', 'a', 'd'] ['v', 's', 'c', 'p', 'H', 'e', 'a', 'd'])).getD 0
  writtenHead head.toUInt16

def jsonDate (j : Value) : UInt64 :=
  let timestamp := unsignedOf (firstOf j ['t', 'i', 'm', 'e', 's', 't', 'a', 'm', 'p']
    ['v', 's', 'c', 'p', 'T', 'i', 'm', 'e', 'S', 't', 'a', 'm', 'p'])
  let datetime := stringOf (firstOf j ['d', 'a', 't', 'e', 't', 'i', 'm', 'e']
    ['v', 's', 'c', 'p', 'D', 'a', 't', 'e', 'T', 'i', 'm', 'e'])
  match datetime, timestamp with
  | some dt, ts =>
      if parsesIsoCombined dt then
        UInt64.ofInt (parseIsoCombined dt).seconds * 1000000000 + (ts.getD 0).toUInt32.toUInt64 * 1000
      else 0
  | none, some ts => if ts > 1000000000000 then ts else ts * 1000
  | none, none => 0

def jsonTimestampNs (clock : Clock) (j : Value) : UInt64 :=
  let ns :=
    match j.member ['t', 'i', 'm', 'e', 's', 't', 'a', 'm', 'p', '_', 'n', 's'] with
    | some (.string tsStr) => UInt64.ofInt (readStringValue tsStr)
    | some (.numberUnsigned number) => number
    | some _ => 0
    | none => jsonDate j
  if ns = 0 then clock.makeTimeStampNs else ns

def jsonGuid (j : Value) : Guid :=
  match stringOf (firstOf j ['g', 'u', 'i', 'd'] ['v', 's', 'c', 'p', 'G', 'u', 'i', 'd']) with
  | some guidStr => guidFromString guidStr
  | none => Vector.replicate 16 0

section

-- json::parse, and the cast of a floating point number to a byte.
variable (parse : Text → Except JsonFailure Value) (castToByte : Text → UInt8)

def jsonByte (value : Value) : Option UInt8 :=
  match value with
  | .numberUnsigned number => some number.toUInt8
  | .numberInteger number => some (UInt8.ofInt number)
  | .numberFloat digits => some (castToByte digits)
  | .boolean truth => some (if truth then 1 else 0)
  | _ => none

def jsonData (j : Value) : Option Bytes :=
  match arrayOf (firstOf j ['d', 'a', 't', 'a'] ['v', 's', 'c', 'p', 'D', 'a', 't', 'a']) with
  | some items => (items.mapM (jsonByte castToByte)).filter fun bytes => bytes.length ≤ maxData
  | none => some []

def jsonEvent (clock : Clock) (j : Value) : VscpEvent :=
  { emptyEvent with
    head := jsonHead j
    obid := ((unsignedOf (j.member ['o', 'b', 'i', 'd'])).getD 0).toUInt32
    timestampNs := jsonTimestampNs clock j
    year := 0xffff
    month := 0xff
    vscpClass := ((unsignedOf (firstOf j ['c', 'l', 'a', 's', 's'] ['v', 's', 'c', 'p', 'C', 'l', 'a', 's', 's'])).getD
      0).toUInt16
    vscpType := ((unsignedOf (firstOf j ['t', 'y', 'p', 'e'] ['v', 's', 'c', 'p', 'T', 'y', 'p', 'e'])).getD 0).toUInt16
    guid := jsonGuid j }

def jsonEventEx (clock : Clock) (j : Value) : VscpEventEx :=
  { emptyEventEx with
    head := jsonHead j
    obid := ((unsignedOf (j.member ['o', 'b', 'i', 'd'])).getD 0).toUInt32
    timestampNs := jsonTimestampNs clock j
    year := 0xffff
    month := 0xff
    vscpClass := ((unsignedOf (firstOf j ['c', 'l', 'a', 's', 's'] ['v', 's', 'c', 'p', 'C', 'l', 'a', 's', 's'])).getD
      0).toUInt16
    vscpType := ((unsignedOf (firstOf j ['t', 'y', 'p', 'e'] ['v', 's', 'c', 'p', 'T', 'y', 'p', 'e'])).getD 0).toUInt16
    guid := jsonGuid j }

-- The handler of a parse_error only writes to the log here.
def convertJsonToEvent (clock : Clock) (strJson : Text) : Bool × VscpEvent :=
  match parse strJson with
  | .error .parseError => (true, emptyEvent)
  | .error .other => (false, emptyEvent)
  | .ok j =>
      match jsonData castToByte j with
      | none => (false, jsonEvent clock j)
      | some data =>
          (true, { jsonEvent clock j with
            sizeData := UInt16.ofNat data.length
            pdata := if UInt16.ofNat data.length = 0 then none else some data })

def convertJsonToEventEx (clock : Clock) (strJson : Text) : Bool × VscpEventEx :=
  match parse strJson with
  | .error .parseError => (false, emptyEventEx)
  | .error .other => (false, emptyEventEx)
  | .ok j =>
      match jsonData castToByte j with
      | none => (false, jsonEventEx clock j)
      | some data =>
          (true, { jsonEventEx clock j with
            sizeData := UInt16.ofNat data.length
            data := overlay data data.length emptyEventEx.data })

structure JsonDecodersAgree (clock : Clock) (strJson : Text) : Prop where
  result : (convertJsonToEvent parse castToByte clock strJson).1 = (convertJsonToEventEx parse castToByte clock strJson).1
  content : (convertJsonToEvent parse castToByte clock strJson).1 = true →
    SameContent (convertJsonToEvent parse castToByte clock strJson).2
      (convertJsonToEventEx parse castToByte clock strJson).2
  year : (convertJsonToEvent parse castToByte clock strJson).2.year =
    (convertJsonToEventEx parse castToByte clock strJson).2.year
  month : (convertJsonToEvent parse castToByte clock strJson).2.month =
    (convertJsonToEventEx parse castToByte clock strJson).2.month
  valid : ∀ failure, parse strJson = .error failure →
    (convertJsonToEvent parse castToByte clock strJson).1 = false ∧
      (convertJsonToEventEx parse castToByte clock strJson).1 = false

variable (clock : Clock) (strJson : Text) (j : Value) (data : Bytes)

theorem json_data_bound (found : jsonData castToByte j = some data) :
    data.length ≤ maxData := by
  unfold jsonData at found
  split at found
  · exact of_decide_eq_true (Option.filter_eq_some_iff.mp found).2
  · cases found
    exact Nat.zero_le maxData

theorem json_size (bound : data.length ≤ maxData) : (UInt16.ofNat data.length).toNat = data.length := by
  have small : data.length < 2 ^ 16 := Nat.lt_of_le_of_lt bound (by decide)
  exact UInt16.toNat_ofNat_of_lt' small

theorem event_parsed (parsed : parse strJson = .ok j)
    (found : jsonData castToByte j = some data) :
    convertJsonToEvent parse castToByte clock strJson =
      (true, { jsonEvent clock j with
        sizeData := UInt16.ofNat data.length
        pdata := if UInt16.ofNat data.length = 0 then none else some data }) := by
  rw [convertJsonToEvent, parsed]
  simp only [found]

theorem event_ex_parsed (parsed : parse strJson = .ok j)
    (found : jsonData castToByte j = some data) :
    convertJsonToEventEx parse castToByte clock strJson =
      (true, { jsonEventEx clock j with
        sizeData := UInt16.ofNat data.length
        data := overlay data data.length emptyEventEx.data }) := by
  rw [convertJsonToEventEx, parsed]
  simp only [found]

theorem json_event_content (bound : data.length ≤ maxData) :
    SameContent
      { jsonEvent clock j with
        sizeData := UInt16.ofNat data.length
        pdata := if UInt16.ofNat data.length = 0 then none else some data }
      { jsonEventEx clock j with
        sizeData := UInt16.ofNat data.length
        data := overlay data data.length emptyEventEx.data } := by
  have size := json_size data bound
  refine ⟨rfl, rfl, rfl, rfl, rfl, rfl, rfl, ?_⟩
  show (overlay data data.length emptyEventEx.data).toList.take (UInt16.ofNat data.length).toNat = _
  rw [size, overlay_front data bound]
  by_cases empty : UInt16.ofNat data.length = 0
  · have none : data = [] := by
      rw [empty] at size
      exact List.length_eq_zero_iff.mp size.symm
    rw [if_pos empty, none]
    rfl
  · rw [if_neg empty]
    rfl

-- The decoders agree on what json::parse takes and on what it gives up without a parse_error.
theorem json_decoders_agree_iff (clock : Clock) (strJson : Text) :
    JsonDecodersAgree parse castToByte clock strJson ↔ parse strJson ≠ .error .parseError := by
  cases parsed : parse strJson with
  | error failure =>
      cases failure with
      | parseError =>
          have event : convertJsonToEvent parse castToByte clock strJson = (true, emptyEvent) := by
            rw [convertJsonToEvent, parsed]
          have eventEx : convertJsonToEventEx parse castToByte clock strJson = (false, emptyEventEx) := by
            rw [convertJsonToEventEx, parsed]
          constructor
          · intro agree
            have same := agree.result
            rw [event, eventEx] at same
            exact Bool.noConfusion same
          · intro other
            exact absurd rfl other
      | other =>
          have event : convertJsonToEvent parse castToByte clock strJson = (false, emptyEvent) := by
            rw [convertJsonToEvent, parsed]
          have eventEx : convertJsonToEventEx parse castToByte clock strJson = (false, emptyEventEx) := by
            rw [convertJsonToEventEx, parsed]
          constructor
          · intro _ same
            cases same
          · intro _
            constructor
            · rw [event, eventEx]
            · rw [event]
              exact fun success => Bool.noConfusion success
            · rw [event, eventEx]
              rfl
            · rw [event, eventEx]
              rfl
            · rw [event, eventEx]
              exact fun _ _ => ⟨rfl, rfl⟩
  | ok j =>
      constructor
      · intro _ same
        cases same
      · intro _
        cases found : jsonData castToByte j with
        | none =>
            have event : convertJsonToEvent parse castToByte clock strJson = (false, jsonEvent clock j) := by
              rw [convertJsonToEvent, parsed]
              simp only [found]
            have eventEx : convertJsonToEventEx parse castToByte clock strJson = (false, jsonEventEx clock j) := by
              rw [convertJsonToEventEx, parsed]
              simp only [found]
            constructor
            · rw [event, eventEx]
            · rw [event]
              exact fun success => Bool.noConfusion success
            · rw [event, eventEx]
              rfl
            · rw [event, eventEx]
              rfl
            · rw [parsed]
              intro failure same
              cases same
        | some data =>
            have bound := json_data_bound castToByte j data found
            have event := event_parsed parse castToByte clock strJson j data parsed found
            have eventEx := event_ex_parsed parse castToByte clock strJson j data parsed found
            constructor
            · rw [event, eventEx]
            · rw [event, eventEx]
              exact fun _ => json_event_content clock j data bound
            · rw [event, eventEx]
              rfl
            · rw [event, eventEx]
              rfl
            · rw [parsed]
              intro failure same
              cases same

end

def plainParse (strJson : Text) : Except JsonFailure Value :=
  match JsonText.read strJson with
  | some value => .ok value
  | none => .error .parseError

theorem unclosed_object_decoded :
    (convertJsonToEvent plainParse (fun _ => 0) exampleClock ['{']).1 = true ∧
      (convertJsonToEventEx plainParse (fun _ => 0) exampleClock ['{']).1 = false ∧
      ¬ JsonDecodersAgree plainParse (fun _ => 0) exampleClock ['{'] := by
  have event : (convertJsonToEvent plainParse (fun _ => 0) exampleClock ['{']).1 = true := rfl
  have eventEx : (convertJsonToEventEx plainParse (fun _ => 0) exampleClock ['{']).1 = false := rfl
  refine ⟨event, eventEx, ?_⟩
  intro agree
  have same := agree.result
  rw [event, eventEx] at same
  exact Bool.noConfusion same

def eventValues (pev : VscpEvent) : List (Text × Value) :=
  [(['h', 'e', 'a', 'd'], .numberUnsigned (UInt64.ofNat (writtenHead pev.head).toNat)),
    (['o', 'b', 'i', 'd'], .numberUnsigned (UInt64.ofNat pev.obid.toNat)),
    (['d', 'a', 't', 'e', 't', 'i', 'm', 'e'], .string (getDateStringFromEvent pev)),
    (['t', 'i', 'm', 'e', 's', 't', 'a', 'm', 'p', '_', 'n', 's'],
      .string (['0', 'x'] ++ lowerHex 16 (eventTimestampNs pev).toNat)),
    (['c', 'l', 'a', 's', 's'], .numberUnsigned (UInt64.ofNat pev.vscpClass.toNat)),
    (['t', 'y', 'p', 'e'], .numberUnsigned (UInt64.ofNat pev.vscpType.toNat)),
    (['g', 'u', 'i', 'd'], .string (writeGuidToString pev.guid)),
    (['d', 'a', 't', 'a'], .array (pev.dataBytes.map fun byte => .numberUnsigned (UInt64.ofNat byte.toNat))),
    (['n', 'o', 't', 'e'], .string [])]

theorem guid_letters_plain (guid : Guid) : ∀ letter ∈ writeGuidToString guid, isPlain letter = true := by
  intro letter inside
  rcases hex_groups_letters guid.toList letter inside with digit | rfl
  · obtain ⟨value, read, _⟩ := digit_of_base 16 letter digit
    exact digit_is_plain letter (by rw [read]; rfl)
  · rfl

theorem date_letters_plain (pev : VscpEvent) : ∀ letter ∈ getDateStringFromEvent pev, isPlain letter = true := by
  apply date_letters (isPlain · = true)
  · intro letter digit
    obtain ⟨value, read, _⟩ := digit_of_base 10 letter digit
    exact digit_is_plain letter (by rw [read]; rfl)
  · exact List.all_eq_true.mp rfl

theorem hex_letters_plain (value : Nat) : ∀ letter ∈ ['0', 'x'] ++ lowerHex 16 value, isPlain letter = true := by
  intro letter inside
  rcases List.mem_append.mp inside with lead | digit
  · simp only [List.mem_cons, List.not_mem_nil, or_false] at lead
    rcases lead with rfl | rfl
    · rfl
    · rfl
  · obtain ⟨number, read, _⟩ := digit_of_base 16 letter (lower_hex_digits 16 value letter digit)
    exact digit_is_plain letter (by rw [read]; rfl)

theorem data_written (data : Bytes) :
    List.Forall₂ Written (data.map (dataLetters true))
      (data.map fun byte => Value.numberUnsigned (UInt64.ofNat byte.toNat)) := by
  induction data with
  | nil => exact .nil
  | cons byte data ih =>
      have small : byte.toNat < 2 ^ 64 := Nat.lt_trans byte.toNat_lt (by decide)
      exact .cons (number_written byte.toNat small) ih

theorem event_json_reads (pev : VscpEvent) (present : pev.sizeData ≠ 0 → pev.pdata ≠ none) :
    JsonText.read (convertEventToJson pev) = some (.object (eventValues pev)) := by
  have number16 : ∀ value : UInt16, Written (decimal value.toNat) (.numberUnsigned (UInt64.ofNat value.toNat)) :=
    fun value => number_written value.toNat (Nat.lt_trans value.toNat_lt (by decide))
  have number32 : ∀ value : UInt32, Written (decimal value.toNat) (.numberUnsigned (UInt64.ofNat value.toNat)) :=
    fun value => number_written value.toNat (Nat.lt_trans value.toNat_lt (by decide))
  have data := array_written _ _ (data_written pev.dataBytes)
  rw [← data_text_joined pev present true] at data
  have members : List.Forall₂ WrittenMember (eventMembers pev) (eventValues pev) :=
    .cons ⟨rfl, rfl, number16 _⟩
      (.cons ⟨rfl, rfl, number32 _⟩
        (.cons ⟨rfl, rfl, string_written _ (date_letters_plain pev)⟩
          (.cons ⟨rfl, rfl, string_written _ (hex_letters_plain _)⟩
            (.cons ⟨rfl, rfl, number16 _⟩
              (.cons ⟨rfl, rfl, number16 _⟩
                (.cons ⟨rfl, rfl, string_written _ (guid_letters_plain pev.guid)⟩
                  (.cons ⟨rfl, rfl, data⟩
                    (.cons ⟨rfl, rfl, string_written [] fun _ inside => absurd inside List.not_mem_nil⟩ .nil))))))))
  exact Reads.read (object_reads _ _ (List.cons_ne_nil _ _) members)

theorem json_number16 (value : UInt16) : (UInt64.ofNat value.toNat).toUInt16 = value := by
  apply UInt16.toNat_inj.mp
  have small := value.toNat_lt
  simp only [UInt64.toNat_toUInt16, UInt64.toNat_ofNat']
  omega

theorem json_number32 (value : UInt32) : (UInt64.ofNat value.toNat).toUInt32 = value := by
  apply UInt32.toNat_inj.mp
  have small := value.toNat_lt
  simp only [UInt64.toNat_toUInt32, UInt64.toNat_ofNat']
  omega

theorem json_number8 (value : UInt8) : (UInt64.ofNat value.toNat).toUInt8 = value := by
  apply UInt8.toNat_inj.mp
  have small := value.toNat_lt
  simp only [UInt64.toNat_toUInt8, UInt64.toNat_ofNat']
  omega

theorem read_json_timestamp (ns : UInt64) (small : ns.toNat < 2 ^ 63) :
    UInt64.ofInt (readStringValue (['0', 'x'] ++ lowerHex 16 ns.toNat)) = ns := by
  rw [read_hex_value _ 16 ns.toNat small (hex_text_lowered 16 _), word64_of_cast, UInt64.ofNat_toNat]

section

variable (castToByte : Text → UInt8)

theorem json_data_read (pev : VscpEvent) (size : pev.sizeData.toNat ≤ maxData) :
    jsonData castToByte (.object (eventValues pev)) = some pev.dataBytes := by
  have items : arrayOf (firstOf (.object (eventValues pev)) ['d', 'a', 't', 'a'] ['v', 's', 'c', 'p', 'D', 'a', 't', 'a']) =
      some (pev.dataBytes.map fun byte => .numberUnsigned (UInt64.ofNat byte.toNat)) := rfl
  have bytes : ∀ data : Bytes, (data.map fun byte => Value.numberUnsigned (UInt64.ofNat byte.toNat)).mapM
      (jsonByte castToByte) = some data := by
    intro data
    induction data with
    | nil => rfl
    | cons byte data ih =>
        rw [List.map_cons, List.mapM_cons, jsonByte, json_number8, ih]
        rfl
  have room : pev.dataBytes.length ≤ maxData := by
    rw [data_bytes_length]
    exact size
  simp only [jsonData, items, bytes, Option.filter_some, decide_eq_true room, if_true]

structure DecodesTo (clock : Clock) (pev : VscpEvent) : Prop where
  head : jsonHead (.object (eventValues pev)) = pev.head
  obid : ((unsignedOf ((Value.object (eventValues pev)).member ['o', 'b', 'i', 'd'])).getD 0).toUInt32 = pev.obid
  timestampNs : jsonTimestampNs clock (.object (eventValues pev)) = pev.timestampNs
  vscpClass : ((unsignedOf (firstOf (.object (eventValues pev)) ['c', 'l', 'a', 's', 's']
    ['v', 's', 'c', 'p', 'C', 'l', 'a', 's', 's'])).getD 0).toUInt16 = pev.vscpClass
  vscpType : ((unsignedOf (firstOf (.object (eventValues pev)) ['t', 'y', 'p', 'e']
    ['v', 's', 'c', 'p', 'T', 'y', 'p', 'e'])).getD 0).toUInt16 = pev.vscpType
  guid : jsonGuid (.object (eventValues pev)) = pev.guid

theorem template_decodes (clock : Clock) (pev : VscpEvent) (version : frameVersion pev.head = frameVersionUnixNs)
    (dated : pev.timestampNs ≠ 0) (small : pev.timestampNs.toNat < 2 ^ 63) : DecodesTo clock pev := by
  have ns : eventTimestampNs pev = pev.timestampNs := by rw [eventTimestampNs, if_pos version]
  constructor
  · have head : jsonHead (.object (eventValues pev)) = writtenHead (UInt64.ofNat (writtenHead pev.head).toNat).toUInt16 :=
      rfl
    have same : writtenHead pev.head = pev.head := written_head pev.head version
    rw [head, json_number16, same, same]
  · exact json_number32 pev.obid
  · have text : (Value.object (eventValues pev)).member
        ['t', 'i', 'm', 'e', 's', 't', 'a', 'm', 'p', '_', 'n', 's'] =
          some (.string (['0', 'x'] ++ lowerHex 16 (eventTimestampNs pev).toNat)) := rfl
    rw [ns] at text
    simp only [jsonTimestampNs, text, read_json_timestamp pev.timestampNs small, if_neg dated]
  · exact json_number16 pev.vscpClass
  · exact json_number16 pev.vscpType
  · have text : jsonGuid (.object (eventValues pev)) = guidFromString (writeGuidToString pev.guid) := rfl
    rw [text, guid_from_written]

theorem json_event_read (clock : Clock) (pev : VscpEvent) (decoded : DecodesTo clock pev) :
    jsonEvent clock (.object (eventValues pev)) =
      ⟨pev.head, pev.obid, 0xffff, 0xff, pev.timestampNs, pev.vscpClass, pev.vscpType, pev.guid, 0, none, 0⟩ := by
  rw [jsonEvent, decoded.head, decoded.obid, decoded.timestampNs, decoded.vscpClass, decoded.vscpType, decoded.guid,
    emptyEvent]

theorem json_event_ex_read (clock : Clock) (pev : VscpEvent) (decoded : DecodesTo clock pev) :
    jsonEventEx clock (.object (eventValues pev)) =
      ⟨pev.head, pev.obid, 0xffff, 0xff, pev.timestampNs, 0, pev.vscpClass, pev.vscpType, pev.guid, 0,
        Vector.replicate 512 0⟩ := by
  rw [jsonEventEx, decoded.head, decoded.obid, decoded.timestampNs, decoded.vscpClass, decoded.vscpType, decoded.guid,
    emptyEventEx]

theorem json_data_kept (pev : VscpEvent) :
    (if UInt16.ofNat pev.dataBytes.length = 0 then none else some pev.dataBytes).getD [] = pev.dataBytes := by
  have length := data_bytes_length pev
  split
  · rename_i empty
    rw [length, UInt16.ofNat_toNat] at empty
    rw [empty] at length
    rw [List.length_eq_zero_iff.mp length]
    rfl
  · rfl

variable (parse : Text → Except JsonFailure Value)
  (faithful : ∀ text value, JsonText.read text = some value → parse text = .ok value)
include faithful

-- A text with the values of the template in it, perhaps with more beside them.
omit faithful in
theorem event_values_decoded (clock : Clock) (pev : VscpEvent) (unix : UnixEvent pev)
    (small : pev.timestampNs.toNat < 2 ^ 63) (text : Text) (j : Value) (parsed : parse text = .ok j)
    (event : jsonEvent clock j = jsonEvent clock (.object (eventValues pev)))
    (data : jsonData castToByte j = jsonData castToByte (.object (eventValues pev))) :
    ∃ read, convertJsonToEvent parse castToByte clock text = (true, read) ∧ SameEvent pev read := by
  have decoded := template_decodes clock pev unix.version unix.dated small
  have whole := event_parsed parse castToByte clock text j _ parsed
    (data.trans (json_data_read castToByte pev unix.size))
  rw [event, json_event_read clock pev decoded] at whole
  refine ⟨_, whole, rfl, rfl, rfl, rfl, rfl, rfl, ?_, ?_⟩
  · show UInt16.ofNat pev.dataBytes.length = pev.sizeData
    rw [data_bytes_length, UInt16.ofNat_toNat]
  · exact (json_data_kept pev).trans (data_bytes_exact pev unix.whole)

theorem event_json_decoded (clock : Clock) (pev : VscpEvent) (unix : UnixEvent pev)
    (small : pev.timestampNs.toNat < 2 ^ 63) :
    ∃ read, convertJsonToEvent parse castToByte clock (convertEventToJson pev) = (true, read) ∧ SameEvent pev read :=
  event_values_decoded castToByte parse clock pev unix small _ _
    (faithful _ _ (event_json_reads pev (unix_present pev unix))) rfl rfl

theorem event_ex_json_decoded (clock : Clock) (pex : VscpEventEx) (unix : UnixEventEx pex)
    (small : pex.timestampNs.toNat < 2 ^ 63) :
    ∃ read, convertJsonToEventEx parse castToByte clock (convertEventExToJson pex) = (true, read) ∧
      SameEventEx pex read := by
  obtain ⟨version, dated, bytes⟩ := fields_unix pex unix
  have present : pex.fields.sizeData ≠ 0 → pex.fields.pdata ≠ none := by
    intro _ missing
    cases missing
  have parsed := faithful _ _ (event_json_reads pex.fields present)
  have decoded := template_decodes clock pex.fields version dated small
  have data := json_data_read castToByte pex.fields unix.size
  have length : pex.fields.dataBytes.length = pex.sizeData.toNat := data_bytes_length pex.fields
  have content := json_event_content clock (.object (eventValues pex.fields)) pex.fields.dataBytes
    (by rw [length]; exact unix.size)
  have whole := event_ex_parsed parse castToByte clock _ _ _ parsed data
  rw [json_event_ex_read clock pex.fields decoded] at whole content
  refine ⟨_, whole, rfl, rfl, rfl, rfl, rfl, rfl, ?_, ?_⟩
  · show UInt16.ofNat pex.fields.dataBytes.length = pex.sizeData
    rw [length, UInt16.ofNat_toNat]
  · exact content.data.trans ((json_data_kept pex.fields).trans bytes)

theorem event_json_round_trip (clock : Clock) :
    (∀ pev, UnixEvent pev → pev.timestampNs.toNat < 2 ^ 63 →
      ∃ read, convertJsonToEvent parse castToByte clock (convertEventToJson pev) = (true, read) ∧ SameEvent pev read) ∧
    (∀ pex, UnixEventEx pex → pex.timestampNs.toNat < 2 ^ 63 →
      ∃ read, convertJsonToEventEx parse castToByte clock (convertEventExToJson pex) = (true, read) ∧
        SameEventEx pex read) :=
  ⟨event_json_decoded castToByte parse faithful clock, event_ex_json_decoded castToByte parse faithful clock⟩

end

theorem plain_parse_reads (text : Text) (value : Value) (reads : JsonText.read text = some value) :
    plainParse text = .ok value := by
  rw [plainParse, reads]

theorem event_json_round_trip_example :
    (∃ read, convertJsonToEvent plainParse (fun _ => 0) exampleClock (convertEventToJson exampleEvent) = (true, read) ∧
      SameEvent exampleEvent read) ∧
    (∃ read, convertJsonToEventEx plainParse (fun _ => 0) exampleClock (convertEventExToJson unixEventEx) = (true, read) ∧
      SameEventEx unixEventEx read) :=
  ⟨(event_json_round_trip (fun _ => 0) plainParse plain_parse_reads exampleClock).1 exampleEvent
      ⟨by decide, by decide, by decide, by decide⟩ (by decide),
    (event_json_round_trip (fun _ => 0) plainParse plain_parse_reads exampleClock).2 unixEventEx
      ⟨rfl, by decide, by decide⟩ (by decide)⟩

end Vscp
