import Vscp.Canal
import Vscp.DateText
import Vscp.GuidText
import Vscp.Lib.XmlText

set_option autoImplicit false

namespace Vscp

open NumberText XmlText
open RemoteTcp (Text isSpace split)

def eventName : Text := ['e', 'v', 'e', 'n', 't']

def eventXmlFields (pev : VscpEvent) : List (Text × Text) :=
  [(['h', 'e', 'a', 'd'], decimal (writtenHead pev.head).toNat),
    (['o', 'b', 'i', 'd'], decimal pev.obid.toNat),
    (['d', 'a', 't', 'e', 't', 'i', 'm', 'e'], getDateStringFromEvent pev),
    (['t', 'i', 'm', 'e', 's', 't', 'a', 'm', 'p'], decimal (eventTimestampNs pev).toNat),
    (['c', 'l', 'a', 's', 's'], decimal pev.vscpClass.toNat),
    (['t', 'y', 'p', 'e'], decimal pev.vscpType.toNat),
    (['g', 'u', 'i', 'd'], writeGuidToString pev.guid),
    (['d', 'a', 't', 'a'], dataText pev false)]

def convertEventToXml (pev : VscpEvent) : Text := elementText eventName (eventXmlFields pev)

def convertEventExToXml (pex : VscpEventEx) : Text := convertEventToXml pex.fields

def xmlBuffSize : Nat := 0xffff

-- What strncpy leaves in the parser's buffer: behind a NUL there are only NULs.
def parserBuffer (strXml : Text) : Text :=
  let copied := strXml.takeWhile (· ≠ '\x00')
  copied ++ List.replicate (strXml.length - copied.length) '\x00'

section

-- XML_ParseBuffer with isFinal false: the elements it reports in their order, and whether it reports success.
variable (sax : Text → List SaxEvent × Bool)

section

variable {α : Type} (start : Int → α → Text → List (Text × Text) → Option α)

def callback (state : Int × α) : SaxEvent → Option (Int × α)
  | .start name attributes => (start state.1 state.2 name attributes).map fun value => (state.1 + 1, value)
  | .stop _ => some (state.1 - 1, state.2)

-- The three decoders that keep the depth of their elements in a global variable, one each; none where a text
-- overruns the buffer or the start callback does not come back. The result is the depth that is left behind,
-- what is returned, and what the callbacks have filled in.
def decodeXml (depth : Int) (old : α) (strXml : Text) : Option (Int × Bool × α) :=
  if strXml = [] then some (depth, false, old)
  else if xmlBuffSize < strXml.length then none
  else
    let parsed := sax (parserBuffer strXml)
    (parsed.1.foldlM (callback start) (depth, old)).map fun state => (state.1, parsed.2, state.2)

end

structure XmlFields where
  head : UInt16
  obid : UInt32
  vscpClass : UInt16
  vscpType : UInt16
  timestamp : Option Text
  datetime : Option BrokenTime

def xmlField (fields : XmlFields) (entry : Text × Text) : XmlFields :=
  if entry.1 = ['h', 'e', 'a', 'd'] then { fields with head := UInt16.ofInt (readStringValue entry.2) }
  else if entry.1 = ['o', 'b', 'i', 'd'] then { fields with obid := UInt32.ofInt (readStringValue entry.2) }
  else if entry.1 = ['d', 'a', 't', 'e', 't', 'i', 'm', 'e'] then
    if parsesIsoCombined entry.2 then { fields with datetime := some (parseIsoCombined entry.2) } else fields
  else if entry.1 = ['t', 'i', 'm', 'e', 's', 't', 'a', 'm', 'p'] then { fields with timestamp := some entry.2 }
  else if entry.1 = ['c', 'l', 'a', 's', 's'] then { fields with vscpClass := UInt16.ofInt (readStringValue entry.2) }
  else if entry.1 = ['t', 'y', 'p', 'e'] then { fields with vscpType := UInt16.ofInt (readStringValue entry.2) }
  else fields

def xmlFields (attributes : List (Text × Text)) : XmlFields := attributes.foldl xmlField ⟨0, 0, 0, 0, none, none⟩

-- A timestamp behind the year 2100 in microseconds is taken for nanoseconds.
def xmlTimestampNs (fields : XmlFields) (default : UInt64) : UInt64 :=
  match fields.timestamp, fields.datetime with
  | some timestampStr, datetime =>
      let tsValue := UInt64.ofInt (readStringValue timestampStr)
      if tsValue > 4102444800000000 then tsValue
      else
        match datetime with
        | some parsedTm => UInt64.ofInt parsedTm.seconds * 1000000000 + tsValue * 1000
        | none => tsValue * 1000
  | none, some parsedTm => UInt64.ofInt parsedTm.seconds * 1000000000
  | none, none => default

def dataFromString (str : Text) : Bytes :=
  ((split str ',').take maxData).map fun token => UInt8.ofInt (readStringValue token)

def xmlGuid (attributes : List (Text × Text)) : Guid :=
  attributes.foldl
    (fun guid entry => if entry.1 = ['g', 'u', 'i', 'd'] then setEventGuidFromString guid entry.2 else guid)
    (Vector.replicate 16 0)

def xmlData (attributes : List (Text × Text)) : Bytes :=
  attributes.foldl (fun data entry => if entry.1 = ['d', 'a', 't', 'a'] then dataFromString entry.2 else data) []

def startedEvent (clock : Clock) (rawtime : UInt64) : VscpEvent :=
  setTimestamp (setEventToNow clock rawtime emptyEvent) clock.makeTimeStamp

def xmlEvent (clock : Clock) (rawtime : UInt64) (attributes : List (Text × Text)) : VscpEvent :=
  let pev := startedEvent clock rawtime
  let fields := xmlFields attributes
  let data := xmlData attributes
  { pev with
    head := writtenHead fields.head
    obid := fields.obid
    year := 0xffff
    month := 0xff
    timestampNs := xmlTimestampNs fields pev.timestampNs
    vscpClass := fields.vscpClass
    vscpType := fields.vscpType
    guid := xmlGuid attributes
    sizeData := UInt16.ofNat data.length
    pdata := if data = [] then none else some data }

-- Every element starts the event anew, whatever it is called and wherever it stands.
def startEventXmlParser (clock : Clock) (rawtime : UInt64) (depth : Int) (_ : VscpEvent) (name : Text)
    (attributes : List (Text × Text)) : Option VscpEvent :=
  if name = eventName ∧ depth = 0 then some (xmlEvent clock rawtime attributes) else some (startedEvent clock rawtime)

def convertXmlToEvent (clock : Clock) (rawtime : UInt64) (depth : Int) (pev : VscpEvent) (strXml : Text) :
    Option (Int × Bool × VscpEvent) :=
  decodeXml sax (startEventXmlParser clock rawtime) depth pev strXml

-- The loop ends behind the first byte where there are more groups; where there are none it takes the front of an
-- empty queue. A group that is no number throws.
def setEventExGuidFromString (strGuid : Text) : Option Guid :=
  if strGuid = ['-'] then some (Vector.replicate 16 0)
  else
    match split strGuid ':' with
    | first :: _ :: _ => (stoInteger isSpace 64 16 first).map fun number => leading [UInt8.ofInt number.1]
    | _ => none

def xmlGuidEx (attributes : List (Text × Text)) : Option Guid :=
  attributes.foldlM
    (fun guid entry => if entry.1 = ['g', 'u', 'i', 'd'] then setEventExGuidFromString entry.2 else some guid)
    (Vector.replicate 16 0)

def xmlDataEx (attributes : List (Text × Text)) : Vector UInt8 512 :=
  attributes.foldl
    (fun data entry =>
      if entry.1 = ['d', 'a', 't', 'a'] then overlay (dataFromString entry.2) (dataFromString entry.2).length data
      else data)
    (Vector.replicate 512 0)

def startedEventEx (clock : Clock) (rawtime : UInt64) : VscpEventEx :=
  let pev := startedEvent clock rawtime
  { emptyEventEx with year := pev.year, month := pev.month, timestampNs := pev.timestampNs }

def xmlEventEx (clock : Clock) (rawtime : UInt64) (attributes : List (Text × Text)) (guid : Guid) : VscpEventEx :=
  let pex := startedEventEx clock rawtime
  let fields := xmlFields attributes
  { pex with
    head := writtenHead fields.head
    obid := fields.obid
    year := 0xffff
    month := 0xff
    timestampNs := xmlTimestampNs fields pex.timestampNs
    vscpClass := fields.vscpClass
    vscpType := fields.vscpType
    guid := guid
    sizeData := UInt16.ofNat (xmlData attributes).length
    data := xmlDataEx attributes }

def startEventExXmlParser (clock : Clock) (rawtime : UInt64) (depth : Int) (_ : VscpEventEx) (name : Text)
    (attributes : List (Text × Text)) : Option VscpEventEx :=
  if name = eventName ∧ depth = 0 then (xmlGuidEx attributes).map (xmlEventEx clock rawtime attributes)
  else some (startedEventEx clock rawtime)

def convertXmlToEventEx (clock : Clock) (rawtime : UInt64) (depth : Int) (pex : VscpEventEx) (strXml : Text) :
    Option (Int × Bool × VscpEventEx) :=
  decodeXml sax (startEventExXmlParser clock rawtime) depth pex strXml

end

variable (byte : UInt8)

theorem data_letter_plain : ∀ letter ∈ dataLetters false byte, XmlText.isPlain letter = true := by
  intro letter inside
  rcases List.mem_append.mp inside with lead | digit
  · simp only [List.mem_cons, List.not_mem_nil, or_false] at lead
    rcases lead with rfl | rfl
    · rfl
    · rfl
  · obtain ⟨value, read, _⟩ := digit_of_base 16 letter (upper_hex_digits 2 byte.toNat letter digit)
    exact digit_is_plain letter (by rw [read]; rfl)

variable (pev : VscpEvent)

theorem xml_values_plain (present : pev.sizeData ≠ 0 → pev.pdata ≠ none) :
    ∀ field ∈ eventXmlFields pev, ∀ letter ∈ field.2, XmlText.isPlain letter = true := by
  have number : ∀ value, ∀ letter ∈ decimal value, XmlText.isPlain letter = true := by
    intro value letter inside
    obtain ⟨digit, read, _⟩ := digit_of_base 10 letter (decimal_digits value letter inside)
    exact digit_is_plain letter (by rw [read]; rfl)
  have date : ∀ letter ∈ getDateStringFromEvent pev, XmlText.isPlain letter = true := by
    apply date_letters (XmlText.isPlain · = true)
    · intro letter digit
      obtain ⟨value, read, _⟩ := digit_of_base 10 letter digit
      exact digit_is_plain letter (by rw [read]; rfl)
    · exact List.all_eq_true.mp rfl
  have guid : ∀ letter ∈ writeGuidToString pev.guid, XmlText.isPlain letter = true := by
    intro letter inside
    rcases hex_groups_letters pev.guid.toList letter inside with digit | rfl
    · obtain ⟨value, read, _⟩ := digit_of_base 16 letter digit
      exact digit_is_plain letter (by rw [read]; rfl)
    · rfl
  have data : ∀ letter ∈ dataText pev false, XmlText.isPlain letter = true := by
    rw [data_text_joined pev present]
    apply joined_letters (XmlText.isPlain · = true) ',' _ rfl
    intro part member
    obtain ⟨byte, _, rfl⟩ := List.mem_map.mp member
    exact data_letter_plain byte
  intro field member
  simp only [eventXmlFields, List.mem_cons, List.not_mem_nil, or_false] at member
  rcases member with rfl | rfl | rfl | rfl | rfl | rfl | rfl | rfl
  · exact number _
  · exact number _
  · exact date
  · exact number _
  · exact number _
  · exact number _
  · exact guid
  · exact data

theorem event_xml_reads (present : pev.sizeData ≠ 0 → pev.pdata ≠ none) :
    XmlText.read (convertEventToXml pev) =
      some [.start eventName (eventXmlFields pev), .stop eventName] := by
  apply element_reads eventName (eventXmlFields pev) rfl _ (xml_values_plain pev present)
  · show ([['h', 'e', 'a', 'd'], ['o', 'b', 'i', 'd'], ['d', 'a', 't', 'e', 't', 'i', 'm', 'e'],
      ['t', 'i', 'm', 'e', 's', 't', 'a', 'm', 'p'], ['c', 'l', 'a', 's', 's'], ['t', 'y', 'p', 'e'],
      ['g', 'u', 'i', 'd'], ['d', 'a', 't', 'a']] : List Text).Nodup
    decide
  · intro field member
    simp only [eventXmlFields, List.mem_cons, List.not_mem_nil, or_false] at member
    rcases member with rfl | rfl | rfl | rfl | rfl | rfl | rfl | rfl
    · rfl
    · rfl
    · rfl
    · rfl
    · rfl
    · rfl
    · rfl
    · rfl

theorem civil_length (secs : Nat) (small : secs < 10 ^ 19) : (civilText (gmtime secs)).length ≤ 125 := by
  have number : ∀ width value, width ≤ 20 → value < 10 ^ 20 → (padded width value).length ≤ 20 := by
    intro width value narrow fits
    exact padded_length width 20 _ narrow (decimal_length value 20 (by omega) fits)
  have year := gmtime_year secs
  have month := gmtime_month secs
  have day := gmtime_day secs
  have hour : (gmtime secs).hour < 10 ^ 20 := by
    simp only [gmtime]
    omega
  have minute : (gmtime secs).minute < 10 ^ 20 := by
    simp only [gmtime]
    omega
  have second : (gmtime secs).second < 10 ^ 20 := by
    simp only [gmtime]
    omega
  have years := number 4 _ (by omega) (by omega : (gmtime secs).year < 10 ^ 20)
  have months := number 2 _ (by omega) (by omega : (gmtime secs).month < 10 ^ 20)
  have days := number 2 _ (by omega) (by omega : (gmtime secs).day < 10 ^ 20)
  have hours := number 2 _ (by omega) hour
  have minutes := number 2 _ (by omega) minute
  have seconds := number 2 _ (by omega) second
  simp only [civilText, List.length_append, List.length_singleton]
  omega

theorem date_length (version : frameVersion pev.head = frameVersionUnixNs) :
    (getDateStringFromEvent pev).length ≤ 147 := by
  have bound := pev.timestampNs.toNat_lt
  have civil := civil_length (pev.timestampNs.toNat / 1000000000) (by omega)
  have nanos : (padded 9 (pev.timestampNs.toNat % 1000000000)).length ≤ 9 :=
    padded_length 9 9 _ (Nat.le_refl 9) (decimal_length _ 9 (by omega) (by omega))
  rw [getDateStringFromEvent, if_pos version]
  split
  · simp only [List.length_append, List.length_singleton]
    omega
  · exact Nat.zero_le _

theorem hex_pair_length : (upperHex 2 byte.toNat).length = 2 := by
  rw [two_hex_digits]
  rfl

variable (guid : Guid)

theorem guid_text_length : (writeGuidToString guid).length ≤ 16 * 3 := by
  have joined := joined_length ':' (guid.toList.map fun byte => upperHex 2 byte.toNat) 2
    (by
      intro part member
      obtain ⟨byte, _, rfl⟩ := List.mem_map.mp member
      exact Nat.le_of_eq (hex_pair_length byte))
  rwa [List.length_map, Vector.length_toList] at joined

theorem event_xml_length (version : frameVersion pev.head = frameVersionUnixNs)
    (present : pev.sizeData ≠ 0 → pev.pdata ≠ none) (size : pev.sizeData.toNat ≤ maxData) :
    (convertEventToXml pev).length ≤ xmlBuffSize := by
  have head := decimal_length (writtenHead pev.head).toNat 20 (by omega)
    (Nat.lt_trans (writtenHead pev.head).toNat_lt (by decide))
  have obid := decimal_length pev.obid.toNat 20 (by omega) (Nat.lt_trans pev.obid.toNat_lt (by decide))
  have ns := decimal_length (eventTimestampNs pev).toNat 20 (by omega)
    (Nat.lt_trans (eventTimestampNs pev).toNat_lt (by decide))
  have class' := decimal_length pev.vscpClass.toNat 20 (by omega) (Nat.lt_trans pev.vscpClass.toNat_lt (by decide))
  have type' := decimal_length pev.vscpType.toNat 20 (by omega) (Nat.lt_trans pev.vscpType.toNat_lt (by decide))
  have date := date_length pev version
  have guid := guid_text_length pev.guid
  have data : (dataText pev false).length ≤ 512 * 5 := by
    have joined := joined_length ',' (pev.dataBytes.map (dataLetters false)) 4
      (by
        intro part member
        obtain ⟨byte, _, rfl⟩ := List.mem_map.mp member
        have two := hex_pair_length byte
        simp [dataLetters, two])
    rw [List.length_map, data_bytes_length] at joined
    have bound : pev.sizeData.toNat ≤ 512 := size
    rw [data_text_joined pev present]
    omega
  simp only [convertEventToXml, elementText, eventXmlFields, attributeText, eventName, xmlBuffSize, List.flatMap_cons,
    List.flatMap_nil, List.length_append, List.length_cons, List.length_nil]
  omega

theorem parser_buffer_plain (strXml : Text) (plain : '\x00' ∉ strXml) : parserBuffer strXml = strXml := by
  have copied : strXml.takeWhile (· ≠ '\x00') = strXml := by
    apply List.takeWhile_eq_self_iff.mpr
    intro letter inside
    have solid : letter ≠ '\x00' := by
      rintro rfl
      exact plain inside
    exact decide_eq_true solid
  rw [parserBuffer, copied, Nat.sub_self, List.replicate_zero, List.append_nil]

theorem data_list_reads (data : Bytes) (size : data.length ≤ maxData) :
    dataFromString (List.intercalate [','] (data.map (dataLetters false))) = data := by
  cases data with
  | nil => rfl
  | cons byte data =>
      have comma : ∀ part ∈ (byte :: data).map (dataLetters false), ',' ∉ part := by
        intro part member
        obtain ⟨own, _, rfl⟩ := List.mem_map.mp member
        exact data_no_comma own
      have first : dataLetters false byte ≠ [] := List.cons_ne_nil _ _
      rw [List.map_cons] at comma ⊢
      rw [dataFromString, split_joined ',' _ _ comma (.inl first), List.take_of_length_le (by simpa using size),
        ← List.map_cons, read_data_list]

theorem xml_written_fields (version : frameVersion pev.head = frameVersionUnixNs) :
    xmlFields (eventXmlFields pev) =
      ⟨pev.head, pev.obid, pev.vscpClass, pev.vscpType, some (decimal pev.timestampNs.toNat),
        if parsesIsoCombined (getDateStringFromEvent pev) then some (parseIsoCombined (getDateStringFromEvent pev))
        else none⟩ := by
  have head : writtenHead pev.head = pev.head := written_head pev.head version
  have ns : eventTimestampNs pev = pev.timestampNs := by rw [eventTimestampNs, if_pos version]
  by_cases dated : parsesIsoCombined (getDateStringFromEvent pev) = true
  · simp [xmlFields, eventXmlFields, xmlField, dated, head, ns, read_word16, read_word32]
  · simp [xmlFields, eventXmlFields, xmlField, dated, head, ns, read_word16, read_word32]

theorem xml_written_guid : xmlGuid (eventXmlFields pev) = pev.guid := by
  simp [xmlGuid, eventXmlFields, guid_text_round_trip]

theorem xml_written_data (present : pev.sizeData ≠ 0 → pev.pdata ≠ none)
    (size : pev.sizeData.toNat ≤ maxData) : xmlData (eventXmlFields pev) = pev.dataBytes := by
  have length : pev.dataBytes.length ≤ maxData := by
    rw [data_bytes_length]
    exact size
  have reads := data_list_reads pev.dataBytes length
  rw [← data_text_joined pev present] at reads
  simp [xmlData, eventXmlFields, reads]

theorem xml_data_front (attributes : List (Text × Text)) :
    (xmlDataEx attributes).toList.take (xmlData attributes).length = xmlData attributes ∧
      (xmlData attributes).length ≤ maxData := by
  have room : ∀ str, (dataFromString str).length ≤ maxData := by
    intro str
    rw [dataFromString, List.length_map, List.length_take]
    exact Nat.min_le_left _ _
  have loop : ∀ (attributes : List (Text × Text)) (data : Bytes) (array : Vector UInt8 512),
      array.toList.take data.length = data ∧ data.length ≤ maxData →
      (attributes.foldl (fun array entry =>
          if entry.1 = ['d', 'a', 't', 'a'] then
            overlay (dataFromString entry.2) (dataFromString entry.2).length array
          else array) array).toList.take
        (attributes.foldl (fun data entry => if entry.1 = ['d', 'a', 't', 'a'] then dataFromString entry.2 else data)
          data).length =
        attributes.foldl (fun data entry => if entry.1 = ['d', 'a', 't', 'a'] then dataFromString entry.2 else data)
          data ∧
      (attributes.foldl (fun data entry => if entry.1 = ['d', 'a', 't', 'a'] then dataFromString entry.2 else data)
        data).length ≤ maxData := by
    intro attributes
    induction attributes with
    | nil => exact fun _ _ here => here
    | cons entry attributes ih =>
        intro data array here
        rw [List.foldl_cons, List.foldl_cons]
        apply ih
        by_cases own : entry.1 = ['d', 'a', 't', 'a']
        · rw [if_pos own, if_pos own]
          exact ⟨overlay_front _ (room entry.2) array, room entry.2⟩
        · rw [if_neg own, if_neg own]
          exact here
  exact loop attributes [] (Vector.replicate 512 0) ⟨rfl, Nat.zero_le _⟩

theorem first_guid_byte :
    setEventExGuidFromString (writeGuidToString guid) = some (leading [guid.get 0]) := by
  have length : guid.toList.length = 16 := by simp
  obtain ⟨byte, next, rest, bytes⟩ : ∃ byte next rest, guid.toList = byte :: next :: rest := by
    obtain ⟨byte, others, first⟩ := List.exists_cons_of_length_eq_add_one length
    rw [first, List.length_cons] at length
    obtain ⟨next, rest, second⟩ := List.exists_cons_of_length_eq_add_one (Nat.succ.inj length)
    exact ⟨byte, next, rest, by rw [first, second]⟩
  have front : guid.get 0 = byte := by
    have head : guid.toList[0] = byte := by simp only [bytes, List.getElem_cons_zero]
    rw [← head]
    rfl
  have digits : ∀ part ∈ (byte :: next :: rest).map (fun byte => upperHex 2 byte.toNat), ':' ∉ part := by
    intro part member colon
    obtain ⟨own, _, rfl⟩ := List.mem_map.mp member
    exact Bool.noConfusion (upper_hex_digits 2 own.toNat ':' colon)
  have tokens : split (writeGuidToString guid) ':' =
      upperHex 2 byte.toNat :: upperHex 2 next.toNat :: rest.map (fun byte => upperHex 2 byte.toNat) := by
    rw [writeGuidToString, bytes]
    exact split_joined ':' _ _ digits (.inl (upper_hex_nonempty 2 byte.toNat))
  have given : writeGuidToString guid ≠ ['-'] := by
    intro dash
    rw [dash] at tokens
    have same := congrArg List.length tokens
    rw [List.length_cons, List.length_cons] at same
    have one : (split ['-'] ':').length = 1 := by decide
    omega
  have read := sto_integer_in_base isSpace digit_not_space 64 16 (upperHex 2 byte.toNat) (by omega) (by omega)
    (upper_hex_nonempty 2 byte.toNat) (upper_hex_digits 2 byte.toNat)
    (by rw [upper_hex_value]; exact Nat.lt_trans byte.toNat_lt (by decide))
  rw [upper_hex_value] at read
  rw [setEventExGuidFromString, if_neg given, tokens]
  simp only [read, Option.map_some, word8_of_cast, UInt8.ofNat_toNat, front]

theorem large_timestamp (ns default : UInt64) (fields : XmlFields) (written : fields.timestamp = some (decimal ns.toNat))
    (large : 4102444800000000 < ns.toNat) (small : ns.toNat < 2 ^ 63) : xmlTimestampNs fields default = ns := by
  have value : UInt64.ofInt (readStringValue (decimal ns.toNat)) = ns := by
    rw [read_decimal_value _ small, word64_of_cast, UInt64.ofNat_toNat]
  have later : ns > 4102444800000000 := UInt64.lt_iff_toNat_lt.mpr large
  simp only [xmlTimestampNs, written, value, if_pos later]

-- Within 48 days of the epoch the month that is read is the one behind, so the time that is read is a later one.
theorem early_date_seconds (version : frameVersion pev.head = frameVersionUnixNs)
    (dated : 0 < pev.timestampNs) (early : pev.timestampNs.toNat / 1000000000 < 48 * 86400) :
    0 ≤ (parseIsoCombined (getDateStringFromEvent pev)).seconds ∧
      (parseIsoCombined (getDateStringFromEvent pev)).seconds < 10 ^ 8 := by
  rw [date_read pev version dated]
  generalize pev.timestampNs.toNat / 1000000000 = secs at early ⊢
  have date : ∀ day < 48,
      let time := gmtime (day * 86400)
      time.year = 1970 ∧ 1 ≤ time.day ∧ time.day < 32 ∧
        0 ≤ daysFromCivil (1970 + (time.month : Int) / 12) ((time.month : Int) % 12 + 1) 1 ∧
        daysFromCivil (1970 + (time.month : Int) / 12) ((time.month : Int) % 12 + 1) 1 < 100 := by
    decide
  obtain ⟨year, dayLow, dayHigh, low, high⟩ := date (secs / 86400) (by omega)
  have whole : secs / 86400 * 86400 / 86400 = secs / 86400 := by omega
  have sameYear : (gmtime (secs / 86400 * 86400)).year = (gmtime secs).year := by simp only [gmtime, whole]
  have sameMonth : (gmtime (secs / 86400 * 86400)).month = (gmtime secs).month := by simp only [gmtime, whole]
  have sameDay : (gmtime (secs / 86400 * 86400)).day = (gmtime secs).day := by simp only [gmtime, whole]
  have hour : (gmtime secs).hour < 24 := Nat.mod_lt _ (by omega)
  have minute : (gmtime secs).minute < 60 := Nat.mod_lt _ (by omega)
  have second : (gmtime secs).second < 60 := Nat.mod_lt _ (by omega)
  rw [sameYear] at year
  rw [sameDay] at dayLow dayHigh
  rw [sameMonth] at low high
  have since : ((gmtime secs).year : Int) - 1900 + 1900 = 1970 := by omega
  simp only [BrokenTime.seconds, timegm, since]
  omega

theorem early_timestamp_changed (clock : Clock) (rawtime : UInt64) (pev : VscpEvent)
    (version : frameVersion pev.head = frameVersionUnixNs) (dated : pev.timestampNs ≠ 0)
    (early : pev.timestampNs.toNat ≤ 4102444800000000) :
    (xmlEvent clock rawtime (eventXmlFields pev)).timestampNs ≠ pev.timestampNs := by
  have positive : 0 < pev.timestampNs.toNat := Nat.pos_of_ne_zero fun zero => dated (UInt64.toNat_inj.mp zero)
  have later : 0 < pev.timestampNs := UInt64.lt_iff_toNat_lt.mpr positive
  obtain ⟨low, high⟩ := early_date_seconds pev version later (by omega)
  have ns : eventTimestampNs pev = pev.timestampNs := by rw [eventTimestampNs, if_pos version]
  have read : UInt64.ofInt (readStringValue (decimal pev.timestampNs.toNat)) = pev.timestampNs := by
    rw [read_decimal_value _ (by omega), word64_of_cast, UInt64.ofNat_toNat]
  have small : ¬ pev.timestampNs > 4102444800000000 := fun large =>
    absurd (UInt64.lt_iff_toNat_lt.mp large) (Nat.not_lt.mpr early)
  have thousand : (1000 : UInt64).toNat = 1000 := rfl
  have billion : (1000000000 : UInt64).toNat = 1000000000 := rfl
  have micro : (pev.timestampNs * 1000).toNat = pev.timestampNs.toNat * 1000 := by
    rw [UInt64.toNat_mul, thousand]
    exact Nat.mod_eq_of_lt (by omega)
  have fields := xml_written_fields pev version
  simp only [xmlEvent, fields, xmlTimestampNs, read, if_neg small]
  intro same
  have equal := congrArg UInt64.toNat same
  split at equal
  · rename_i parsed found
    -- Both parts are small enough to add up exactly, so the sum is larger than the timestamp.
    obtain rfl : parseIsoCombined (getDateStringFromEvent pev) = parsed := by
      split at found
      · exact Option.some.inj found
      · cases found
    obtain ⟨secs, value⟩ := Int.eq_ofNat_of_zero_le low
    rw [value] at high equal
    have fits : secs < 10 ^ 8 := by exact_mod_cast high
    have part : (UInt64.ofInt (secs : Int)).toNat = secs := by
      rw [word64_of_cast, UInt64.toNat_ofNat_of_lt' (Nat.lt_trans fits (by decide))]
    rw [UInt64.toNat_add, UInt64.toNat_mul, micro, part, billion, Nat.mod_eq_of_lt (a := secs * 1000000000) (by omega),
      Nat.mod_eq_of_lt (by omega)] at equal
    omega
  · rw [micro] at equal
    omega

section

variable (sax : Text → List SaxEvent × Bool)
  (faithful : ∀ text events, XmlText.read text = some events → sax text = (events, true))
include faithful

theorem element_decodes {α : Type} (start : Int → α → Text → List (Text × Text) → Option α) (depth : Int)
    (old value : α) (strXml name : Text) (attributes : List (Text × Text))
    (reads : XmlText.read strXml = some [.start name attributes, .stop name]) (nonempty : strXml ≠ [])
    (fits : strXml.length ≤ xmlBuffSize) (started : start depth old name attributes = some value) :
    decodeXml sax start depth old strXml = some (depth, true, value) := by
  have buffer := parser_buffer_plain _ (read_without_zero _ _ reads)
  rw [decodeXml, if_neg nonempty, if_neg (Nat.not_lt.mpr fits), buffer, faithful _ _ reads]
  simp [callback, started]

theorem xml_written_decodes {α : Type} (start : Int → α → Text → List (Text × Text) → Option α) (depth : Int)
    (old value : α) (pev : VscpEvent) (version : frameVersion pev.head = frameVersionUnixNs)
    (present : pev.sizeData ≠ 0 → pev.pdata ≠ none) (size : pev.sizeData.toNat ≤ maxData)
    (started : start depth old eventName (eventXmlFields pev) = some value) :
    decodeXml sax start depth old (convertEventToXml pev) = some (depth, true, value) :=
  element_decodes sax faithful start depth old value _ _ _ (event_xml_reads pev present) (List.cons_ne_nil _ _)
    (event_xml_length pev version present size) started

theorem event_xml_decoded (clock : Clock) (rawtime : UInt64) (old pev : VscpEvent) (unix : UnixEvent pev)
    (large : 4102444800000000 < pev.timestampNs.toNat) (small : pev.timestampNs.toNat < 2 ^ 63) :
    ∃ read, convertXmlToEvent sax clock rawtime 0 old (convertEventToXml pev) = some (0, true, read) ∧
      SameEvent pev read := by
  have present := unix_present pev unix
  have fields := xml_written_fields pev unix.version
  have head : writtenHead pev.head = pev.head := written_head pev.head unix.version
  have ns := large_timestamp pev.timestampNs (startedEvent clock rawtime).timestampNs (xmlFields (eventXmlFields pev))
    (by rw [fields]) large small
  have data := xml_written_data pev present unix.size
  have length := data_bytes_length pev
  have started : startEventXmlParser clock rawtime 0 old eventName (eventXmlFields pev) =
      some (xmlEvent clock rawtime (eventXmlFields pev)) := if_pos ⟨rfl, rfl⟩
  rw [fields] at ns
  have whole : xmlEvent clock rawtime (eventXmlFields pev) =
      { startedEvent clock rawtime with
        head := pev.head
        obid := pev.obid
        year := 0xffff
        month := 0xff
        timestampNs := pev.timestampNs
        vscpClass := pev.vscpClass
        vscpType := pev.vscpType
        guid := pev.guid
        sizeData := UInt16.ofNat pev.dataBytes.length
        pdata := if pev.dataBytes = [] then none else some pev.dataBytes } := by
    simp only [xmlEvent, fields, head, ns, data, xml_written_guid]
  refine ⟨_, xml_written_decodes sax faithful _ 0 old _ pev unix.version present unix.size started, ?_⟩
  rw [whole]
  refine ⟨rfl, rfl, rfl, rfl, rfl, rfl, ?_, ?_⟩
  · change UInt16.ofNat pev.dataBytes.length = pev.sizeData
    rw [length, UInt16.ofNat_toNat]
  · change (if pev.dataBytes = [] then none else some pev.dataBytes).getD [] = pev.pdata.getD []
    rw [← data_bytes_exact pev unix.whole]
    split
    · rename_i empty
      exact empty.symm
    · rfl

theorem event_ex_xml_decoded (clock : Clock) (rawtime : UInt64) (old pex : VscpEventEx) (unix : UnixEventEx pex)
    (large : 4102444800000000 < pex.timestampNs.toNat) (small : pex.timestampNs.toNat < 2 ^ 63) :
    ∃ read, convertXmlToEventEx sax clock rawtime 0 old (convertEventExToXml pex) = some (0, true, read) ∧
      SameEventEx pex { read with guid := pex.guid } := by
  obtain ⟨version, _, bytes⟩ := fields_unix pex unix
  have present : pex.fields.sizeData ≠ 0 → pex.fields.pdata ≠ none := by
    intro _ missing
    cases missing
  have fields := xml_written_fields pex.fields version
  have head : writtenHead pex.fields.head = pex.fields.head := written_head pex.fields.head version
  have ns := large_timestamp pex.fields.timestampNs (startedEventEx clock rawtime).timestampNs
    (xmlFields (eventXmlFields pex.fields)) (by rw [fields]) large small
  have data := xml_written_data pex.fields present unix.size
  have length : pex.fields.dataBytes.length = pex.sizeData.toNat := data_bytes_length pex.fields
  have size : UInt16.ofNat (xmlData (eventXmlFields pex.fields)).length = pex.sizeData := by
    rw [data, length, UInt16.ofNat_toNat]
  have guid : xmlGuidEx (eventXmlFields pex.fields) = some (leading [pex.guid.get 0]) := by
    have written := first_guid_byte pex.guid
    simp [xmlGuidEx, eventXmlFields, VscpEventEx.fields, written]
  have started : startEventExXmlParser clock rawtime 0 old eventName (eventXmlFields pex.fields) =
      some (xmlEventEx clock rawtime (eventXmlFields pex.fields) (leading [pex.guid.get 0])) := by
    rw [startEventExXmlParser, if_pos ⟨rfl, rfl⟩, guid, Option.map_some]
  rw [fields] at ns
  have whole : xmlEventEx clock rawtime (eventXmlFields pex.fields) (leading [pex.guid.get 0]) =
      { startedEventEx clock rawtime with
        head := pex.fields.head
        obid := pex.fields.obid
        year := 0xffff
        month := 0xff
        timestampNs := pex.fields.timestampNs
        vscpClass := pex.fields.vscpClass
        vscpType := pex.fields.vscpType
        guid := leading [pex.guid.get 0]
        sizeData := pex.sizeData
        data := xmlDataEx (eventXmlFields pex.fields) } := by
    simp only [xmlEventEx, fields, head, ns, size]
  refine ⟨_, xml_written_decodes sax faithful _ 0 old _ pex.fields version present unix.size started, ?_⟩
  rw [whole]
  refine ⟨rfl, rfl, rfl, rfl, rfl, rfl, rfl, ?_⟩
  have front := (xml_data_front (eventXmlFields pex.fields)).1
  rw [data, length] at front
  change (xmlDataEx (eventXmlFields pex.fields)).toList.take pex.sizeData.toNat = _
  rw [front, bytes]

end

-- What both decoders make of one text, the GUID apart.
structure SameButGuid (pev : VscpEvent) (pex : VscpEventEx) : Prop where
  content : SameContent pev { pex with guid := pev.guid }
  year : pex.year = pev.year
  month : pex.month = pev.month

theorem started_same (clock : Clock) (rawtime : UInt64) :
    SameButGuid (startedEvent clock rawtime) (startedEventEx clock rawtime) := by
  have fresh : (startedEvent clock rawtime).head = 0 ∧ (startedEvent clock rawtime).vscpClass = 0 ∧
      (startedEvent clock rawtime).vscpType = 0 ∧ (startedEvent clock rawtime).obid = 0 ∧
      (startedEvent clock rawtime).sizeData = 0 ∧ (startedEvent clock rawtime).pdata = none :=
    ⟨rfl, rfl, rfl, rfl, rfl, rfl⟩
  obtain ⟨head, vscpClass, vscpType, obid, sizeData, pdata⟩ := fresh
  refine ⟨⟨head.symm, vscpClass.symm, vscpType.symm, obid.symm, rfl, rfl, sizeData.symm, ?_⟩, rfl, rfl⟩
  rw [pdata]
  rfl

theorem xml_event_same (clock : Clock) (rawtime : UInt64) (attributes : List (Text × Text)) (guid : Guid) :
    SameButGuid (xmlEvent clock rawtime attributes) (xmlEventEx clock rawtime attributes guid) := by
  obtain ⟨front, room⟩ := xml_data_front attributes
  have small : (xmlData attributes).length < 2 ^ 16 := Nat.lt_of_le_of_lt room (by decide)
  have size : (UInt16.ofNat (xmlData attributes).length).toNat = (xmlData attributes).length :=
    UInt16.toNat_ofNat_of_lt' small
  refine ⟨⟨rfl, rfl, rfl, rfl, rfl, rfl, rfl, ?_⟩, rfl, rfl⟩
  show (xmlDataEx attributes).toList.take (UInt16.ofNat (xmlData attributes).length).toNat =
    (if xmlData attributes = [] then none else some (xmlData attributes)).getD []
  rw [size, front]
  split
  · rename_i empty
    exact empty
  · rfl

theorem callbacks_related {α β : Type} (related : α → β → Prop)
    (left : Int → α → Text → List (Text × Text) → Option α) (right : Int → β → Text → List (Text × Text) → Option β)
    (begun : ∀ depth a b name attributes next, right depth b name attributes = some next →
      ∃ own, left depth a name attributes = some own ∧ related own next)
    (events : List SaxEvent) (depth : Int) (a : α) (b : β) (same : related a b) (ended : Int × β)
    (run : events.foldlM (callback right) (depth, b) = some ended) :
    ∃ own, events.foldlM (callback left) (depth, a) = some (ended.1, own) ∧ related own ended.2 := by
  induction events generalizing depth a b with
  | nil =>
      obtain rfl : (depth, b) = ended := Option.some.inj run
      exact ⟨a, rfl, same⟩
  | cons event events ih =>
      rw [List.foldlM_cons] at run
      cases event with
      | start name attributes =>
          cases next : right depth b name attributes with
          | none =>
              simp [callback, next] at run
          | some value =>
              obtain ⟨own, step, still⟩ := begun depth a b name attributes value next
              have rest : events.foldlM (callback right) (depth + 1, value) = some ended := by
                simpa [callback, next] using run
              obtain ⟨last, whole, finally'⟩ := ih (depth + 1) own value still rest
              refine ⟨last, ?_, finally'⟩
              rw [List.foldlM_cons]
              simpa [callback, step] using whole
      | stop name =>
          have rest : events.foldlM (callback right) (depth - 1, b) = some ended := run
          obtain ⟨last, whole, finally'⟩ := ih (depth - 1) a b same rest
          exact ⟨last, whole, finally'⟩

theorem xml_decoders_agree (sax : Text → List SaxEvent × Bool) (clock : Clock) (rawtime : UInt64) (depth left : Int)
    (old : VscpEvent) (oldEx : VscpEventEx) (strXml : Text) (ok : Bool) (readEx : VscpEventEx)
    (decoded : convertXmlToEventEx sax clock rawtime depth oldEx strXml = some (left, ok, readEx)) :
    ∃ read, convertXmlToEvent sax clock rawtime depth old strXml = some (left, ok, read) ∧
      (SameButGuid read readEx ∨ (read = old ∧ readEx = oldEx)) := by
  unfold convertXmlToEventEx decodeXml at decoded
  unfold convertXmlToEvent decodeXml
  by_cases empty : strXml = []
  · rw [if_pos empty] at decoded ⊢
    obtain ⟨rfl, rfl, rfl⟩ : depth = left ∧ false = ok ∧ oldEx = readEx := by simpa using decoded
    exact ⟨old, rfl, .inr ⟨rfl, rfl⟩⟩
  · rw [if_neg empty] at decoded ⊢
    by_cases long : xmlBuffSize < strXml.length
    · rw [if_pos long] at decoded
      cases decoded
    · rw [if_neg long] at decoded ⊢
      obtain ⟨ended, run, result⟩ := Option.map_eq_some_iff.mp decoded
      obtain ⟨read, own, same⟩ := callbacks_related
        (fun pev pex => SameButGuid pev pex ∨ (pev = old ∧ pex = oldEx)) (startEventXmlParser clock rawtime)
        (startEventExXmlParser clock rawtime)
        (by
          intro depth _ _ name attributes next found
          unfold startEventExXmlParser at found
          unfold startEventXmlParser
          by_cases outermost : name = eventName ∧ depth = 0
          · rw [if_pos outermost] at found ⊢
            obtain ⟨guid, _, rfl⟩ := Option.map_eq_some_iff.mp found
            exact ⟨_, rfl, .inl (xml_event_same clock rawtime attributes guid)⟩
          · rw [if_neg outermost] at found ⊢
            obtain rfl := Option.some.inj found
            exact ⟨_, rfl, .inl (started_same clock rawtime)⟩)
        _ depth old oldEx (.inr ⟨rfl, rfl⟩) ended run
      obtain ⟨rfl, rfl, rfl⟩ : ended.1 = left ∧ (sax (parserBuffer strXml)).2 = ok ∧ ended.2 = readEx := by
        simpa using result
      exact ⟨read, by simp only [own, Option.map_some], same⟩

theorem event_xml_round_trip (sax : Text → List SaxEvent × Bool)
    (faithful : ∀ text events, XmlText.read text = some events → sax text = (events, true)) (clock : Clock)
    (rawtime : UInt64) :
    (∀ old pev, UnixEvent pev → 4102444800000000 < pev.timestampNs.toNat → pev.timestampNs.toNat < 2 ^ 63 →
      ∃ read, convertXmlToEvent sax clock rawtime 0 old (convertEventToXml pev) = some (0, true, read) ∧
        SameEvent pev read) ∧
    (∀ old pex, UnixEventEx pex → 4102444800000000 < pex.timestampNs.toNat → pex.timestampNs.toNat < 2 ^ 63 →
      ∃ read, convertXmlToEventEx sax clock rawtime 0 old (convertEventExToXml pex) = some (0, true, read) ∧
        SameEventEx pex { read with guid := pex.guid }) ∧
    (∀ old oldEx strXml left ok readEx,
      convertXmlToEventEx sax clock rawtime 0 oldEx strXml = some (left, ok, readEx) →
      ∃ read, convertXmlToEvent sax clock rawtime 0 old strXml = some (left, ok, read) ∧
        (SameButGuid read readEx ∨ (read = old ∧ readEx = oldEx))) :=
  ⟨event_xml_decoded sax faithful clock rawtime, event_ex_xml_decoded sax faithful clock rawtime,
    fun old oldEx strXml left ok readEx => xml_decoders_agree sax clock rawtime 0 left old oldEx strXml ok readEx⟩

def plainSax (text : Text) : List SaxEvent × Bool :=
  match XmlText.read text with
  | some events => (events, true)
  | none => ([], false)

theorem plain_sax_reads (text : Text) (events : List SaxEvent) (reads : XmlText.read text = some events) :
    plainSax text = (events, true) := by
  rw [plainSax, reads]

def datedEvent : VscpEvent := { exampleEvent with timestampNs := 1700000000000000000 }
def datedEventEx : VscpEventEx :=
  { unixEventEx with timestampNs := 1700000000000000000, guid := Vector.replicate 16 0x11 }

theorem event_xml_round_trip_example :
    (∃ read, convertXmlToEvent plainSax exampleClock 0 0 emptyEvent (convertEventToXml datedEvent) =
      some (0, true, read) ∧ SameEvent datedEvent read) ∧
    (∃ read, convertXmlToEventEx plainSax exampleClock 0 0 emptyEventEx (convertEventExToXml datedEventEx) =
      some (0, true, read) ∧ SameEventEx datedEventEx { read with guid := datedEventEx.guid }) :=
  ⟨(event_xml_round_trip plainSax plain_sax_reads exampleClock 0).1 emptyEvent datedEvent
      ⟨by decide, by decide, by decide, by decide⟩ (by decide) (by decide),
    (event_xml_round_trip plainSax plain_sax_reads exampleClock 0).2.1 emptyEventEx datedEventEx
      ⟨rfl, by decide, by decide⟩ (by decide) (by decide)⟩

-- A time shortly behind the epoch comes back as another one, and a GUID from the eventEx decoder with one byte.
theorem early_timestamp_rewritten :
    UnixEvent { exampleEvent with timestampNs := 5 } ∧
      (convertXmlToEvent plainSax exampleClock 0 0 emptyEvent
        (convertEventToXml { exampleEvent with timestampNs := 5 })).map (fun result => result.2.2.timestampNs) =
          some 2678400000005000 ∧
      UnixEventEx datedEventEx ∧
      (convertXmlToEventEx plainSax exampleClock 0 0 emptyEventEx (convertEventExToXml datedEventEx)).map
        (fun result => result.2.2.guid) = some (leading [0x11]) ∧
      datedEventEx.guid ≠ leading [0x11] :=
  ⟨⟨by decide, by decide, by decide, by decide⟩, by decide +kernel, ⟨rfl, by decide, by decide⟩, by decide +kernel,
    by decide⟩

end Vscp
