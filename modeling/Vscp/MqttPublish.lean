import Vscp.MqttClient

set_option autoImplicit false

namespace Vscp.Mqtt

open ByteMemory NumberText
open JsonText (Value)
open XmlText (SaxEvent)
open RemoteTcp (Text split)

def payloadSize : Nat := 1024

structure Measurement where
  value : Text
  unit : Int
  sensorindex : Int
  zone : Int
  subzone : Int

-- What send takes from the measurement functions, which work with floating point numbers: no block for an event that
-- is no measurement, and none at all where they read or write outside the data of the event.
abbrev MeasurementOf := VscpEvent → Option (Option Measurement)

def numberText (number : Int) : Text :=
  if number < 0 then '-' :: decimal number.natAbs else decimal number.natAbs

def dumpObject (members : List (Text × Text)) : Text :=
  '{' :: List.intercalate [','] (members.map fun entry => quoted entry.1 ++ ':' :: entry.2) ++ ['}']

def measurementText (block : Measurement) : Text :=
  dumpObject
    [(['s', 'e', 'n', 's', 'o', 'r', 'i', 'n', 'd', 'e', 'x'], numberText block.sensorindex),
      (['s', 'u', 'b', 'z', 'o', 'n', 'e'], numberText block.subzone),
      (['u', 'n', 'i', 't'], numberText block.unit),
      (['v', 'a', 'l', 'u', 'e'], block.value),
      (['z', 'o', 'n', 'e'], numberText block.zone)]

def measuredMembers (pev : VscpEvent) (block : Measurement) : List (Text × Text) :=
  [(['c', 'l', 'a', 's', 's'], decimal pev.vscpClass.toNat),
    (['d', 'a', 't', 'a'], '[' :: dataText pev true ++ [']']),
    (['d', 'a', 't', 'e', 't', 'i', 'm', 'e'], quoted (getDateStringFromEvent pev)),
    (['g', 'u', 'i', 'd'], quoted (writeGuidToString pev.guid)),
    (['h', 'e', 'a', 'd'], decimal (writtenHead pev.head).toNat),
    (['m', 'e', 'a', 's', 'u', 'r', 'e', 'm', 'e', 'n', 't'], measurementText block),
    (['n', 'o', 't', 'e'], quoted []),
    (['o', 'b', 'i', 'd'], decimal pev.obid.toNat),
    (['t', 'i', 'm', 'e', 's', 't', 'a', 'm', 'p', '_', 'n', 's'],
      quoted (['0', 'x'] ++ lowerHex 16 (eventTimestampNs pev).toNat)),
    (['t', 'y', 'p', 'e'], decimal pev.vscpType.toNat)]

def measuredValues (pev : VscpEvent) (measurement : Value) : List (Text × Value) :=
  [(['c', 'l', 'a', 's', 's'], .numberUnsigned (UInt64.ofNat pev.vscpClass.toNat)),
    (['d', 'a', 't', 'a'], .array (pev.dataBytes.map fun byte => .numberUnsigned (UInt64.ofNat byte.toNat))),
    (['d', 'a', 't', 'e', 't', 'i', 'm', 'e'], .string (getDateStringFromEvent pev)),
    (['g', 'u', 'i', 'd'], .string (writeGuidToString pev.guid)),
    (['h', 'e', 'a', 'd'], .numberUnsigned (UInt64.ofNat (writtenHead pev.head).toNat)),
    (['m', 'e', 'a', 's', 'u', 'r', 'e', 'm', 'e', 'n', 't'], measurement),
    (['n', 'o', 't', 'e'], .string []),
    (['o', 'b', 'i', 'd'], .numberUnsigned (UInt64.ofNat pev.obid.toNat)),
    (['t', 'i', 'm', 'e', 's', 't', 'a', 'm', 'p', '_', 'n', 's'],
      .string (['0', 'x'] ++ lowerHex 16 (eventTimestampNs pev).toNat)),
    (['t', 'y', 'p', 'e'], .numberUnsigned (UInt64.ofNat pev.vscpType.toNat))]

inductive Sent where
  | refused (code : VscpError)
  | overran
  | published (payload : Text)

def byteLetter (byte : UInt8) : Char := Char.ofNat byte.toNat

section

variable (measurementOf : MeasurementOf) (jsonMeasurementAdd : Bool)

def payloadText (format : MqttMsgFormat) (pev : VscpEvent) : Option Text :=
  match format with
  | .jsonfmt =>
      if jsonMeasurementAdd then
        (measurementOf pev).map fun
          | some block => dumpObject (measuredMembers pev block)
          | none => convertEventToJson pev
      else some (convertEventToJson pev)
  | .xmlfmt => some (convertEventToXml pev)
  | .strfmt => some (convertEventToString pev)
  | _ => none

-- strncpy with the length of the text, not with that of the buffer.
def sendText (text : Option Text) : Sent :=
  match text with
  | none => .overran
  | some strPayload => if payloadSize < strPayload.length then .overran else .published (parserBuffer strPayload)

-- The frame is written behind the marker byte, with the size of the whole buffer.
def sendFrame (pev : VscpEvent) : Sent :=
  match writeEventToFrame (List.replicate payloadSize 0) 0 pev with
  | none => .refused .parameter
  | some frame =>
      if payloadSize < 1 + frameSize pev.sizeData then .overran
      else .published ('\x00' :: (frame.take (frameSize pev.sizeData)).map byteLetter)

def sendPayload (format : MqttMsgFormat) (pev : VscpEvent) : Sent :=
  match format with
  | .binfmt => sendFrame pev
  | .autofmt => .refused .notSupported
  | textFormat => sendText (payloadText measurementOf jsonMeasurementAdd textFormat pev)

end

-- How far into a payload, and behind it, handleMessage reads: the first NUL ends the text that is looked at for
-- commas, a frame says itself how long it is.
def bytesRead (topics : List SubscribeTopic) (pmsg : Message) : Nat :=
  let looked :=
    if subscribedFormat topics pmsg.topic = .autofmt ∧ pmsg.payload[0]? ≠ some '\x00' ∧ pmsg.payload[0]? ≠ some '{' ∧
        pmsg.payload[0]? ≠ some '<' then
      (cString (pmsg.payload ++ pmsg.behind)).length + 1
    else 1
  let converted :=
    match messageFormat topics pmsg with
    | none => 0
    | some .binfmt =>
        let calcFrameSize := frameSize (read16 (frameMemory pmsg.payload pmsg.behind) posSizeMsb)
        if pmsg.payload.length < calcFrameSize then 1 + posData else 1 + calcFrameSize
    | some _ => pmsg.payload.length
  max looked converted

-- What a subscriber has to find in its queue.
structure Arrived (sent read : VscpEvent) : Prop where
  head : read.head = sent.head
  timestampNs : read.timestampNs = sent.timestampNs
  vscpClass : read.vscpClass = sent.vscpClass
  vscpType : read.vscpType = sent.vscpType
  guid : read.guid = sent.guid
  sizeData : read.sizeData = sent.sizeData
  data : read.pdata.getD [] = sent.pdata.getD []

def FitsTogether (measurementOf : MeasurementOf) (jsonMeasurementAdd : Bool) (readers : Readers) (clock : Clock)
    (rawtime : UInt64) (client : Client) (topic : Text) (format : MqttMsgFormat) (pev : VscpEvent) : Prop :=
  ∃ payload, sendPayload measurementOf jsonMeasurementAdd format pev = .published payload ∧
    ∀ ev behind, bytesRead client.subscribeTopicList ⟨topic, payload, behind⟩ ≤ payload.length ∧
      ∃ after read, handleMessage readers clock rawtime client ev ⟨topic, payload, behind⟩ = some (true, after) ∧
        after.receiveQueue = client.receiveQueue ++ [read] ∧ Arrived pev read

def notJson (text : Text) : Prop :=
  text[0]? = some '<' ∨ text[0]? = some '\x00' ∨
    ∃ digits rest, (∀ letter ∈ digits, isDigitOf 10 letter = true) ∧ text = digits ++ ',' :: rest

def notXml (text : Text) : Prop :=
  text[0]? = some '{' ∨ text[0]? = some '\x00' ∨ ∃ letter, text[0]? = some letter ∧ isDigitOf 10 letter = true

-- json::parse and XML_ParseBuffer, as far as the two sides rely on them.
structure Reliable (measurementOf : MeasurementOf) (readers : Readers) : Prop where
  parses : ∀ text value, text[0]? = some '{' → JsonText.read text = some value → readers.parse text = .ok value
  parsesMeasured : ∀ pev block, measurementOf pev = some (some block) →
    ∃ measurement, readers.parse (dumpObject (measuredMembers pev block)) = .ok (.object (measuredValues pev measurement))
  refusesJson : ∀ text value, notJson text → readers.parse text ≠ .ok value
  reports : ∀ text events, XmlText.read text = some events → readers.sax text = (events, true)
  refusesXml : ∀ text, notXml text → (readers.sax text).2 = false
  dumped : ∀ pev block, measurementOf pev = some (some block) →
    ∀ letter ∈ block.value, JsonText.isPlain letter = true ∧ letter ≠ ','

structure Compatible (measurementOf : MeasurementOf) (jsonMeasurementAdd : Bool) (client : Client) (topic : Text)
    (format : MqttMsgFormat) (pev : VscpEvent) : Prop where
  fits : format ≠ .binfmt →
    ∃ text, payloadText measurementOf jsonMeasurementAdd format pev = some text ∧ text.length ≤ payloadSize
  chosen : subscribedFormat client.subscribeTopicList topic = format ∨
    (subscribedFormat client.subscribeTopicList topic = .autofmt ∧ format ≠ .strfmt)
  outermost : format = .xmlfmt → client.depthEventParser = 0 ∧ 4102444800000000 < pev.timestampNs.toNat
  silent : client.callbackEvActive = false ∧ client.callbackExActive = false
  room : client.receiveQueue.length < mqttMaxInqueueSize

def isShown (letter : Char) : Bool := '\n' ≤ letter ∧ letter ≤ '~'

def Shown (text : Text) : Prop := text.all isShown = true

variable (text : Text) (pev : VscpEvent)

theorem shown_letters (each : ∀ letter ∈ text, ' ' ≤ letter ∧ letter ≤ '~') : Shown text := by
  apply List.all_eq_true.mpr
  intro letter inside
  obtain ⟨low, high⟩ := each letter inside
  exact decide_eq_true ⟨Char.le_trans (by decide : '\n' ≤ ' ') low, high⟩

theorem shown_append (first second : Text) (left : Shown first) (right : Shown second) : Shown (first ++ second) := by
  rw [Shown, List.all_append, left, right]
  rfl

theorem shown_plain (plain : ∀ letter ∈ text, JsonText.isPlain letter = true) : Shown text := by
  apply shown_letters
  intro letter inside
  obtain ⟨low, high, _⟩ := of_decide_eq_true (plain letter inside)
  exact ⟨low, high⟩

theorem shown_xml_plain (plain : ∀ letter ∈ text, XmlText.isPlain letter = true) : Shown text := by
  apply shown_letters
  intro letter inside
  obtain ⟨low, high, _⟩ := of_decide_eq_true (plain letter inside)
  exact ⟨low, high⟩

theorem shown_digits (base : Nat) (text : Text) (digits : ∀ letter ∈ text, isDigitOf base letter = true) :
    Shown text := by
  apply shown_letters
  intro letter inside
  obtain ⟨value, read, _⟩ := digit_of_base base letter (digits letter inside)
  exact digit_graphic letter (by rw [read]; rfl)

theorem shown_decimal (value : Nat) : Shown (decimal value) := shown_digits 10 _ (decimal_digits value)

theorem shown_quoted (shown : Shown text) : Shown (quoted text) :=
  shown_append ('"' :: text) ['"'] (shown_append ['"'] text rfl shown) rfl

theorem shown_joined (separator : Text) (parts : List Text) (separates : Shown separator)
    (each : ∀ part ∈ parts, Shown part) : Shown (List.intercalate separator parts) := by
  induction parts with
  | nil => rfl
  | cons first rest ih =>
      have own := each first List.mem_cons_self
      have later := ih fun part inside => each part (List.mem_cons_of_mem first inside)
      by_cases last : rest = []
      · rw [last, List.intercalate_singleton]
        exact own
      · rw [List.intercalate_cons_of_ne_nil last]
        exact shown_append _ _ (shown_append _ _ own separates) later

theorem shown_data (present : pev.sizeData ≠ 0 → pev.pdata ≠ none) (decimalNumbers : Bool) :
    Shown (dataText pev decimalNumbers) := by
  rw [data_text_joined pev present]
  apply shown_joined [','] _ rfl
  intro part member
  obtain ⟨byte, _, rfl⟩ := List.mem_map.mp member
  unfold dataLetters
  split
  · exact shown_decimal _
  · exact shown_append _ _ rfl (shown_digits 16 _ (upper_hex_digits 2 byte.toNat))

theorem shown_members (separator opened closed : Text) (member : Text × Text → Text)
    (members : List (Text × Text)) (front : Shown opened) (back : Shown closed) (separates : Shown separator)
    (each : ∀ entry ∈ members, Shown (member entry)) :
    Shown (opened ++ List.intercalate separator (members.map member) ++ closed) := by
  apply shown_append _ _ (shown_append _ _ front (shown_joined separator _ separates ?_)) back
  intro part inside
  obtain ⟨entry, own, rfl⟩ := List.mem_map.mp inside
  exact each entry own

theorem shown_json (present : pev.sizeData ≠ 0 → pev.pdata ≠ none) :
    Shown (convertEventToJson pev) := by
  apply shown_members [',', '\n'] ['{', '\n'] ['\n', '}'] JsonText.memberText _ rfl rfl rfl
  have members : ∀ entry ∈ eventMembers pev, Shown entry.1 ∧ Shown entry.2 := by
    intro entry inside
    simp only [eventMembers, List.mem_cons, List.not_mem_nil, or_false] at inside
    rcases inside with rfl | rfl | rfl | rfl | rfl | rfl | rfl | rfl | rfl
    · exact ⟨rfl, shown_decimal _⟩
    · exact ⟨rfl, shown_decimal _⟩
    · exact ⟨rfl, shown_quoted _ (shown_plain _ (date_letters_plain pev))⟩
    · exact ⟨rfl, shown_quoted _ (shown_plain _ (hex_letters_plain _))⟩
    · exact ⟨rfl, shown_decimal _⟩
    · exact ⟨rfl, shown_decimal _⟩
    · exact ⟨rfl, shown_quoted _ (shown_plain _ (guid_letters_plain pev.guid))⟩
    · exact ⟨rfl, shown_append ('[' :: dataText pev true) [']']
        (shown_append ['['] _ rfl (shown_data pev present true)) rfl⟩
    · exact ⟨rfl, rfl⟩
  intro entry inside
  obtain ⟨name, text⟩ := members entry inside
  exact shown_append ('"' :: entry.1 ++ ['"', ':', ' ']) _
    (shown_append ('"' :: entry.1) _ (shown_append ['"'] _ rfl name) rfl) text

theorem shown_number (number : Int) : Shown (numberText number) := by
  unfold numberText
  split
  · exact shown_append ['-'] _ rfl (shown_decimal _)
  · exact shown_decimal _

theorem shown_dump (members : List (Text × Text)) (each : ∀ entry ∈ members, Shown entry.1 ∧ Shown entry.2) :
    Shown (dumpObject members) := by
  apply shown_members [','] ['{'] ['}'] _ members rfl rfl rfl
  intro entry inside
  obtain ⟨name, text⟩ := each entry inside
  exact shown_append (quoted entry.1) _ (shown_quoted _ name) (shown_append [':'] _ rfl text)

theorem shown_measured (block : Measurement) (present : pev.sizeData ≠ 0 → pev.pdata ≠ none)
    (value : Shown block.value) : Shown (dumpObject (measuredMembers pev block)) := by
  apply shown_dump
  have measurement : Shown (measurementText block) := by
    apply shown_dump
    intro entry inside
    simp only [List.mem_cons, List.not_mem_nil, or_false] at inside
    rcases inside with rfl | rfl | rfl | rfl | rfl
    · exact ⟨rfl, shown_number _⟩
    · exact ⟨rfl, shown_number _⟩
    · exact ⟨rfl, shown_number _⟩
    · exact ⟨rfl, value⟩
    · exact ⟨rfl, shown_number _⟩
  intro entry inside
  simp only [measuredMembers, List.mem_cons, List.not_mem_nil, or_false] at inside
  rcases inside with rfl | rfl | rfl | rfl | rfl | rfl | rfl | rfl | rfl | rfl
  · exact ⟨rfl, shown_decimal _⟩
  · exact ⟨rfl, shown_append ('[' :: dataText pev true) [']']
      (shown_append ['['] _ rfl (shown_data pev present true)) rfl⟩
  · exact ⟨rfl, shown_quoted _ (shown_plain _ (date_letters_plain pev))⟩
  · exact ⟨rfl, shown_quoted _ (shown_plain _ (guid_letters_plain pev.guid))⟩
  · exact ⟨rfl, shown_decimal _⟩
  · exact ⟨rfl, measurement⟩
  · exact ⟨rfl, rfl⟩
  · exact ⟨rfl, shown_decimal _⟩
  · exact ⟨rfl, shown_quoted _ (shown_plain _ (hex_letters_plain _))⟩
  · exact ⟨rfl, shown_decimal _⟩

theorem shown_xml (present : pev.sizeData ≠ 0 → pev.pdata ≠ none) :
    Shown (convertEventToXml pev) := by
  have values := xml_values_plain pev present
  have one : ∀ field ∈ eventXmlFields pev, Shown (XmlText.attributeText field) := by
    intro field inside
    have name : Shown field.1 := by
      simp only [eventXmlFields, List.mem_cons, List.not_mem_nil, or_false] at inside
      rcases inside with rfl | rfl | rfl | rfl | rfl | rfl | rfl | rfl
      · rfl
      · rfl
      · rfl
      · rfl
      · rfl
      · rfl
      · rfl
      · rfl
    exact shown_append _ _ (shown_append _ _ (shown_append _ ['=', '"'] name rfl)
      (shown_xml_plain _ (values field inside))) rfl
  have attributes : Shown ((eventXmlFields pev).flatMap XmlText.attributeText) := by
    rw [Shown, List.all_flatMap, List.all_eq_true]
    exact one
  exact shown_append _ _ (shown_append ('<' :: eventName ++ [' ']) _ rfl attributes) rfl

theorem shown_string (present : pev.sizeData ≠ 0 → pev.pdata ≠ none) :
    Shown (convertEventToString pev) := by
  rw [event_text_fields pev present]
  apply shown_joined [','] _ rfl
  intro part inside
  rcases List.mem_append.mp inside with lead | payload
  · simp only [List.mem_cons, List.not_mem_nil, or_false] at lead
    rcases lead with rfl | rfl | rfl | rfl | rfl | rfl | rfl
    · exact shown_decimal _
    · exact shown_decimal _
    · exact shown_decimal _
    · exact shown_decimal _
    · rfl
    · exact shown_decimal _
    · exact shown_plain _ (guid_letters_plain pev.guid)
  · obtain ⟨byte, _, rfl⟩ := List.mem_map.mp payload
    exact shown_append ['0', 'x'] _ rfl (shown_digits 16 _ (upper_hex_digits 2 byte.toNat))

section

variable (measurementOf : MeasurementOf) (jsonMeasurementAdd : Bool) (readers : Readers)

theorem shown_payload (reliable : Reliable measurementOf readers) (format : MqttMsgFormat) (pev : VscpEvent)
    (unix : UnixEvent pev) (text : Text)
    (written : payloadText measurementOf jsonMeasurementAdd format pev = some text) : Shown text := by
  have present := unix_present pev unix
  cases format with
  | jsonfmt =>
      simp only [payloadText] at written
      split at written
      · obtain ⟨block, measured, rfl⟩ := Option.map_eq_some_iff.mp written
        cases block with
        | none => exact shown_json pev present
        | some block =>
            have value := reliable.dumped pev block measured
            exact shown_measured pev block present (shown_plain _ fun letter inside => (value letter inside).1)
      · obtain rfl := Option.some.inj written
        exact shown_json pev present
  | xmlfmt =>
      obtain rfl := Option.some.inj written
      exact shown_xml pev present
  | strfmt =>
      obtain rfl := Option.some.inj written
      exact shown_string pev present
  | binfmt => cases written
  | autofmt => cases written

theorem shown_copied (text : Text) (shown : Shown text) : parserBuffer text = text := by
  apply parser_buffer_plain
  intro zero
  exact Bool.noConfusion (List.all_eq_true.mp shown '\x00' zero)

theorem arrived_same (sent read : VscpEvent) (same : SameEvent sent read) : Arrived sent read :=
  ⟨same.head, same.timestampNs, same.vscpClass, same.vscpType, same.guid, same.sizeData, same.data⟩

theorem arrived_trans (sent read copy : VscpEvent) (arrived : Arrived sent read) (same : Arrived read copy) :
    Arrived sent copy :=
  ⟨same.head.trans arrived.head, same.timestampNs.trans arrived.timestampNs, same.vscpClass.trans arrived.vscpClass,
    same.vscpType.trans arrived.vscpType, same.guid.trans arrived.guid, same.sizeData.trans arrived.sizeData,
    same.data.trans arrived.data⟩

theorem arrived_unix (sent read : VscpEvent) (unix : UnixEvent sent) (arrived : Arrived sent read) : UnixEvent read := by
  constructor
  · rw [arrived.head]
    exact unix.version
  · rw [arrived.timestampNs]
    exact unix.dated
  · rw [arrived.sizeData]
    exact unix.size
  · rw [arrived.data, arrived.sizeData]
    exact unix.whole

theorem copy_arrives (pev : VscpEvent) (unix : UnixEvent pev) : ∃ copy, copyEvent pev = some copy ∧ Arrived pev copy := by
  rw [copyEvent, if_neg (Nat.not_lt.mpr unix.size)]
  exact ⟨_, rfl, rfl, if_pos unix.version, rfl, rfl, rfl, rfl, copied_data_exact pev unix.whole⟩

theorem handle_event_queues (client : Client) (read : VscpEvent) (unix : UnixEvent read)
    (silent : client.callbackEvActive = false ∧ client.callbackExActive = false)
    (room : client.receiveQueue.length < mqttMaxInqueueSize) :
    ∃ after copy, handleEvent client read = (true, after) ∧ after.receiveQueue = client.receiveQueue ++ [copy] ∧
      Arrived read copy := by
  obtain ⟨pex, converted, _⟩ := event_to_ex_content emptyEventEx read unix
  obtain ⟨copy, copied, arrived⟩ := copy_arrives read unix
  refine ⟨saveEvent client copy, copy, ?_, ?_, arrived⟩
  · simp [handleEvent, converted, silent.1, silent.2, copied]
  · rw [saveEvent, if_pos room]

variable (clock : Clock) (rawtime : UInt64)

variable (client : Client)

theorem handle_message_queues (ev pev read : VscpEvent)
    (pmsg : Message) (format : MqttMsgFormat) (depth : Int) (unix : UnixEvent pev)
    (found : messageFormat client.subscribeTopicList pmsg = some format) (some' : pmsg.payload ≠ [])
    (decoded : decodePayload readers clock rawtime ev client.depthEventParser format pmsg.payload pmsg.behind =
      some (depth, some read)) (arrived : Arrived pev read)
    (silent : client.callbackEvActive = false ∧ client.callbackExActive = false)
    (room : client.receiveQueue.length < mqttMaxInqueueSize) :
    ∃ after copy, handleMessage readers clock rawtime client ev pmsg = some (true, after) ∧
      after.receiveQueue = client.receiveQueue ++ [copy] ∧ Arrived pev copy := by
  obtain ⟨after, copy, handled, queue, same⟩ := handle_event_queues { client with depthEventParser := depth } read
    (arrived_unix pev read unix arrived) silent room
  refine ⟨after, copy, ?_, queue, arrived_trans pev read copy arrived same⟩
  simp only [handleMessage, readMessage, if_neg some', found, decoded, Option.map_some, handled]

theorem first_json (text : Text) (pev : VscpEvent)
    (written : payloadText measurementOf jsonMeasurementAdd .jsonfmt pev = some text) : text[0]? = some '{' := by
  simp only [payloadText] at written
  split at written
  · obtain ⟨block, _, rfl⟩ := Option.map_eq_some_iff.mp written
    cases block <;> rfl
  · obtain rfl := Option.some.inj written
    rfl

theorem decode_sent_json (reliable : Reliable measurementOf readers) (clock : Clock) (rawtime : UInt64)
    (ev pev : VscpEvent) (depth : Int) (text behind : Text) (unix : UnixEvent pev)
    (small : pev.timestampNs.toNat < 2 ^ 63)
    (written : payloadText measurementOf jsonMeasurementAdd .jsonfmt pev = some text) :
    ∃ read, decodePayload readers clock rawtime ev depth .jsonfmt text behind = some (depth, some read) ∧
      Arrived pev read := by
  obtain ⟨read, converted, same⟩ : ∃ read,
      convertJsonToEvent readers.parse readers.castToByte clock text = (true, read) ∧ SameEvent pev read := by
    have plain := event_values_decoded readers.castToByte readers.parse clock pev unix small _ _
      (reliable.parses _ _ rfl (event_json_reads pev (unix_present pev unix))) rfl rfl
    simp only [payloadText] at written
    split at written
    · obtain ⟨block, measured, rfl⟩ := Option.map_eq_some_iff.mp written
      cases block with
      | none => exact plain
      | some block =>
          obtain ⟨measurement, parsed⟩ := reliable.parsesMeasured pev block measured
          exact event_values_decoded readers.castToByte readers.parse clock pev unix small _ _ parsed rfl rfl
    · obtain rfl := Option.some.inj written
      exact plain
  refine ⟨read, ?_, arrived_same pev read same⟩
  simp only [decodePayload, converted, if_true]

theorem decode_sent_xml (reliable : Reliable measurementOf readers) (clock : Clock) (rawtime : UInt64)
    (ev pev : VscpEvent) (behind : Text) (unix : UnixEvent pev) (small : pev.timestampNs.toNat < 2 ^ 63)
    (large : 4102444800000000 < pev.timestampNs.toNat) :
    ∃ read, decodePayload readers clock rawtime ev 0 .xmlfmt (convertEventToXml pev) behind = some (0, some read) ∧
      Arrived pev read := by
  obtain ⟨read, converted, same⟩ := event_xml_decoded readers.sax reliable.reports clock rawtime ev pev unix large small
  refine ⟨read, ?_, arrived_same pev read same⟩
  simp only [decodePayload, converted, Option.map_some, if_true]

theorem decode_sent_string (ev pev : VscpEvent) (depth : Int) (behind : Text)
    (unix : UnixEvent pev) :
    ∃ read, decodePayload readers clock rawtime ev depth .strfmt (convertEventToString pev) behind =
      some (depth, some read) ∧ Arrived pev read := by
  obtain ⟨read, converted, same⟩ := event_text_reads clock ev pev unix
  exact ⟨read, by rw [decodePayload, converted], arrived_same pev read same⟩

theorem byte_letter_kept (byte : UInt8) : letterByte (byteLetter byte) = byte := by
  have valid : byte.toNat.isValidChar := .inl (Nat.lt_trans byte.toNat_lt (by decide))
  rw [letterByte, byteLetter, Char.toNat_ofNat, if_pos valid, UInt8.ofNat_toNat]

def sentFrame (pev : VscpEvent) : Text := '\x00' :: (eventFrame 0 pev).map byteLetter

theorem frame_is_sent (pev : VscpEvent) (present : pev.sizeData ≠ 0 → pev.pdata ≠ none)
    (size : pev.sizeData.toNat ≤ maxData) : sendFrame pev = .published (sentFrame pev) := by
  have small : 1 + frameSize pev.sizeData ≤ payloadSize := by
    have bound : pev.sizeData.toNat ≤ 512 := size
    simp only [frameSize, headerLength, payloadSize]
    omega
  have room : ¬ (List.replicate payloadSize (0 : UInt8)).length < frameSize pev.sizeData := by
    rw [List.length_replicate]
    omega
  have frame : writeEventToFrame (List.replicate payloadSize 0) 0 pev =
      some (eventFrame 0 pev ++ (List.replicate payloadSize 0).drop (frameSize pev.sizeData)) := by
    rw [writeEventToFrame, if_neg (fun missing => present missing.1 missing.2), if_neg room]
  rw [sendFrame, frame]
  simp only [if_neg (Nat.not_lt.mpr small), List.take_left' (event_frame_length 0 pev), sentFrame]

theorem sent_frame_length (pev : VscpEvent) : (sentFrame pev).length = 1 + frameSize pev.sizeData := by
  rw [sentFrame, List.length_cons, List.length_map, event_frame_length, Nat.add_comm]

theorem sent_frame_memory (pev : VscpEvent) (behind : Text) :
    frameMemory (sentFrame pev) behind = writtenMemory 0 pev (behind.map letterByte) fun _ => 0 := by
  have bytes : ((eventFrame 0 pev).map byteLetter).map letterByte = eventFrame 0 pev := by
    rw [List.map_map]
    exact (List.map_congr_left fun byte _ => byte_letter_kept byte).trans (List.map_id _)
  rw [frameMemory, sentFrame, List.drop_one, List.tail_cons, List.map_append, bytes, writtenMemory]

theorem decode_sent_frame (ev pev : VscpEvent) (depth : Int) (behind : Text)
    (unix : UnixEvent pev) :
    ∃ read, decodePayload readers clock rawtime ev depth .binfmt (sentFrame pev) behind = some (depth, some read) ∧
      Arrived pev read := by
  have enough : frameSize pev.sizeData ≤ (sentFrame pev).length := by
    rw [sent_frame_length]
    omega
  have ns : eventTimestampNs pev = pev.timestampNs := by rw [eventTimestampNs, if_pos unix.version]
  rw [decodePayload, sent_frame_memory, written_event 0 pev _ _ clock _ enough]
  refine ⟨_, rfl, written_head pev.head unix.version, ?_, rfl, rfl, rfl, rfl, copied_data_exact pev unix.whole⟩
  show (if eventTimestampNs pev = 0 then clock.makeTimeStampNs else eventTimestampNs pev) = _
  rw [ns, if_neg unix.dated]

theorem sent_payload (reliable : Reliable measurementOf readers) (format : MqttMsgFormat) (pev : VscpEvent)
    (unix : UnixEvent pev) (text : Text) (written : payloadText measurementOf jsonMeasurementAdd format pev = some text)
    (fits : text.length ≤ payloadSize) :
    sendPayload measurementOf jsonMeasurementAdd format pev = .published text := by
  have copied := shown_copied text (shown_payload measurementOf jsonMeasurementAdd readers reliable format pev unix text written)
  have sent : sendText (payloadText measurementOf jsonMeasurementAdd format pev) = .published text := by
    rw [written]
    simp only [sendText, if_neg (Nat.not_lt.mpr fits), copied]
  cases format with
  | jsonfmt => exact sent
  | xmlfmt => exact sent
  | strfmt => exact sent
  | binfmt => cases written
  | autofmt => cases written

variable (topics : List SubscribeTopic) (pmsg : Message) (format : MqttMsgFormat)

theorem message_format (given : format ≠ .autofmt) (chosen : subscribedFormat topics pmsg.topic = format ∨
      (subscribedFormat topics pmsg.topic = .autofmt ∧ guessedFormat pmsg.payload pmsg.behind = some format)) :
    messageFormat topics pmsg = some format := by
  unfold messageFormat
  rcases chosen with told | ⟨auto', guessed⟩
  · rw [told]
    cases format with
    | jsonfmt => rfl
    | xmlfmt => rfl
    | strfmt => rfl
    | binfmt => rfl
    | autofmt => exact absurd rfl given
  · rw [auto']
    exact guessed

theorem bytes_read_of_format (found : messageFormat topics pmsg = some format) (some' : pmsg.payload ≠ [])
    (told : subscribedFormat topics pmsg.topic ≠ .autofmt ∨ pmsg.payload[0]? = some '\x00' ∨
      pmsg.payload[0]? = some '{' ∨ pmsg.payload[0]? = some '<')
    (frame : format = .binfmt → pmsg.payload.length =
      1 + frameSize (read16 (frameMemory pmsg.payload pmsg.behind) posSizeMsb)) :
    bytesRead topics pmsg ≤ pmsg.payload.length := by
  have positive : 1 ≤ pmsg.payload.length := List.length_pos_iff.mpr some'
  have known : ¬ (subscribedFormat topics pmsg.topic = .autofmt ∧ pmsg.payload[0]? ≠ some '\x00' ∧
      pmsg.payload[0]? ≠ some '{' ∧ pmsg.payload[0]? ≠ some '<') := by
    rintro ⟨unknown, zero, brace, tag⟩
    rcases told with other | other | other | other
    · exact other unknown
    · exact zero other
    · exact brace other
    · exact tag other
  unfold bytesRead
  rw [if_neg known, found]
  apply Nat.max_le.mpr ⟨positive, ?_⟩
  cases format with
  | jsonfmt => exact Nat.le_refl _
  | xmlfmt => exact Nat.le_refl _
  | strfmt => exact Nat.le_refl _
  | autofmt => exact Nat.le_refl _
  | binfmt =>
      have length := frame rfl
      have whole : ¬ pmsg.payload.length <
          frameSize (read16 (frameMemory pmsg.payload pmsg.behind) posSizeMsb) := by omega
      simp only [if_neg whole]
      exact Nat.le_of_eq length.symm

theorem fits_of_decoded (topic payload : Text)
    (format : MqttMsgFormat) (pev : VscpEvent) (unix : UnixEvent pev) (given : format ≠ .autofmt)
    (compatible : Compatible measurementOf jsonMeasurementAdd client topic format pev) (some' : payload ≠ [])
    (sent : sendPayload measurementOf jsonMeasurementAdd format pev = .published payload)
    (marked : format ≠ .strfmt → (payload[0]? = some '\x00' ∨ payload[0]? = some '{' ∨ payload[0]? = some '<') ∧
      ∀ behind, guessedFormat payload behind = some format)
    (frame : ∀ behind, format = .binfmt → payload.length =
      1 + frameSize (read16 (frameMemory payload behind) posSizeMsb))
    (decoded : ∀ ev behind, ∃ depth read,
      decodePayload readers clock rawtime ev client.depthEventParser format payload behind = some (depth, some read) ∧
        Arrived pev read) :
    FitsTogether measurementOf jsonMeasurementAdd readers clock rawtime client topic format pev := by
  refine ⟨payload, sent, fun ev behind => ?_⟩
  have found : messageFormat client.subscribeTopicList ⟨topic, payload, behind⟩ = some format := by
    apply message_format _ _ format given
    rcases compatible.chosen with told | ⟨unknown, other⟩
    · exact .inl told
    · exact .inr ⟨unknown, (marked other).2 behind⟩
  have told : subscribedFormat client.subscribeTopicList topic ≠ .autofmt ∨ payload[0]? = some '\x00' ∨
      payload[0]? = some '{' ∨ payload[0]? = some '<' := by
    rcases compatible.chosen with told | ⟨_, other⟩
    · exact .inl (by rw [told]; exact given)
    · exact .inr (marked other).1
  obtain ⟨depth, read, converted, arrived⟩ := decoded ev behind
  exact ⟨bytes_read_of_format _ ⟨topic, payload, behind⟩ format found some' told (frame behind),
    handle_message_queues readers clock rawtime client ev pev read ⟨topic, payload, behind⟩ format depth unix found
      some' converted arrived compatible.silent compatible.room⟩

theorem compatible_fits (reliable : Reliable measurementOf readers) (clock : Clock) (rawtime : UInt64)
    (client : Client) (topic : Text) (format : MqttMsgFormat) (pev : VscpEvent) (unix : UnixEvent pev)
    (small : pev.timestampNs.toNat < 2 ^ 63) (given : format ≠ .autofmt)
    (compatible : Compatible measurementOf jsonMeasurementAdd client topic format pev) :
    FitsTogether measurementOf jsonMeasurementAdd readers clock rawtime client topic format pev := by
  have text : ∀ text, payloadText measurementOf jsonMeasurementAdd format pev = some text →
      text.length ≤ payloadSize → sendPayload measurementOf jsonMeasurementAdd format pev = .published text :=
    fun text written fits =>
      sent_payload measurementOf jsonMeasurementAdd readers reliable format pev unix text written fits
  have assemble := fits_of_decoded measurementOf jsonMeasurementAdd readers clock rawtime client topic
  cases format with
  | jsonfmt =>
      obtain ⟨json, written, fits⟩ := compatible.fits (by decide)
      have first := first_json measurementOf jsonMeasurementAdd json pev written
      apply assemble json .jsonfmt pev unix given compatible
      · rintro rfl
        cases first
      · exact text json written fits
      · exact fun _ => ⟨.inr (.inl first), fun behind => by simp [guessedFormat, first]⟩
      · exact fun _ bin => MqttMsgFormat.noConfusion bin
      · intro ev behind
        obtain ⟨read, decoded, arrived⟩ := decode_sent_json measurementOf jsonMeasurementAdd readers reliable clock rawtime
          ev pev client.depthEventParser json behind unix small written
        exact ⟨_, read, decoded, arrived⟩
  | xmlfmt =>
      obtain ⟨xml, written, fits⟩ := compatible.fits (by decide)
      obtain ⟨outermost, large⟩ := compatible.outermost rfl
      obtain rfl := Option.some.inj written
      have first : (convertEventToXml pev)[0]? = some '<' := rfl
      apply assemble (convertEventToXml pev) .xmlfmt pev unix given compatible
      · exact List.cons_ne_nil _ _
      · exact text _ written fits
      · exact fun _ => ⟨.inr (.inr first), fun behind => by simp [guessedFormat, first]⟩
      · exact fun _ bin => MqttMsgFormat.noConfusion bin
      · intro ev behind
        obtain ⟨read, decoded, arrived⟩ := decode_sent_xml measurementOf readers reliable clock rawtime ev pev behind unix
          small large
        rw [outermost]
        exact ⟨_, read, decoded, arrived⟩
  | strfmt =>
      obtain ⟨string, written, fits⟩ := compatible.fits (by decide)
      obtain rfl := Option.some.inj written
      apply assemble (convertEventToString pev) .strfmt pev unix given compatible
      · intro empty
        have fields := textual_fields pev unix
        rw [empty] at fields
        cases fields
      · exact text _ written fits
      · exact fun other => absurd rfl other
      · exact fun _ bin => MqttMsgFormat.noConfusion bin
      · intro ev behind
        obtain ⟨read, decoded, arrived⟩ := decode_sent_string readers clock rawtime ev pev client.depthEventParser behind
          unix
        exact ⟨_, read, decoded, arrived⟩
  | binfmt =>
      have first : (sentFrame pev)[0]? = some '\x00' := rfl
      apply assemble (sentFrame pev) .binfmt pev unix given compatible
      · exact List.cons_ne_nil _ _
      · exact frame_is_sent pev (unix_present pev unix) unix.size
      · exact fun _ => ⟨.inl first, fun behind => by simp [guessedFormat, first]⟩
      · intro behind _
        rw [sent_frame_length, sent_frame_memory, written_size]
      · intro ev behind
        obtain ⟨read, decoded, arrived⟩ := decode_sent_frame readers clock rawtime ev pev client.depthEventParser behind unix
        exact ⟨_, read, decoded, arrived⟩
  | autofmt => exact absurd rfl given

end

end Vscp.Mqtt
