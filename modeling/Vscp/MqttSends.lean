import Vscp.MqttFormats
import Vscp.MqttTopics

set_option autoImplicit false

namespace Vscp.Mqtt

open NumberText
open RemoteTcp (Text)

-- A call of mosquitto_publish; the payload has the length that is handed over.
structure Published where
  topic : Text
  payload : Text
  qos : Int
  retain : Bool
deriving DecidableEq

-- How send ends; none stands for VSCP_ERROR_SUCCESS.
inductive Ending where
  | returned (failure : Option VscpError)
  | overran
deriving DecidableEq

-- The loop over the topics. Whether mosquitto_publish succeeds changes nothing.
def sendTopics (skips : PublishTopic → Bool) (payloadOf : MqttMsgFormat → Sent) (topicOf : PublishTopic → Text) :
    List PublishTopic → List Published × Ending
  | [] => ([], .returned none)
  | ppublish :: rest =>
      if skips ppublish then sendTopics skips payloadOf topicOf rest
      else
        match payloadOf ppublish.format with
        | .refused failure => ([], .returned (some failure))
        | .overran => ([], .overran)
        | .published payload =>
            let later := sendTopics skips payloadOf topicOf rest
            (⟨cString (topicOf ppublish), payload, ppublish.qos, ppublish.retain⟩ :: later.1, later.2)

def inactive (ppublish : PublishTopic) : Bool := !ppublish.active

def nowhere (_ : PublishTopic) : Bool := false

section

-- What the measurement functions make of a class and its data; none where they leave the data.
variable (render : Render) (readingOf : UInt16 → Bytes → Option Reading) (publisher : Publisher)

def measurementOf : MeasurementOf := fun pev => (readingOf pev.vscpClass pev.dataBytes).map Reading.block

def topicReading (pev : VscpEvent) : Reading := (readingOf pev.vscpClass pev.dataBytes).getD .failed

def eventPayload (pev : VscpEvent) (format : MqttMsgFormat) : Sent :=
  sendPayload (measurementOf readingOf) publisher.jsonMeasurementAdd format pev

def send (pev : VscpEvent) : List Published × Ending :=
  sendTopics inactive (eventPayload readingOf publisher pev)
    (strTopic render publisher (topicReading readingOf pev) pev) publisher.publishTopicList

-- The functions for an eventEx work on a copy of it; without one vscp_isMeasurementEx is false.
def measurementOfEx (pex : VscpEventEx) : Option (Option Measurement) :=
  match convertEventExToEvent pex with
  | none => some none
  | some pev => measurementOf readingOf pev

def payloadTextEx (format : MqttMsgFormat) (pex : VscpEventEx) : Option Text :=
  match format with
  | .jsonfmt =>
      if publisher.jsonMeasurementAdd then
        (measurementOfEx readingOf pex).map fun
          | some block => dumpObject (measuredMembers pex.fields block)
          | none => convertEventExToJson pex
      else some (convertEventExToJson pex)
  | .xmlfmt => some (convertEventExToXml pex)
  | .strfmt => convertEventExToString pex
  | _ => none

-- strncpy stops at the end of the buffer, but mosquitto_publish is given the length of the text and reads on.
def sendTextEx (text : Option Text) : Sent :=
  match text with
  | none => .overran
  | some strPayload => if payloadSize < strPayload.length then .overran else .published (parserBuffer strPayload)

def writeEventExToFrame (frame : Bytes) (pkttype : UInt8) (pex : VscpEventEx) : Option Bytes :=
  (convertEventExToEvent pex).bind (writeEventToFrame frame pkttype)

def sendFrameEx (pex : VscpEventEx) : Sent :=
  match writeEventExToFrame (List.replicate payloadSize 0) 0 pex with
  | none => .refused .parameter
  | some frame =>
      if payloadSize < 1 + frameSize pex.sizeData then .overran
      else .published ('\x00' :: (frame.take (frameSize pex.sizeData)).map byteLetter)

def sendPayloadEx (pex : VscpEventEx) (format : MqttMsgFormat) : Sent :=
  match format with
  | .binfmt => sendFrameEx pex
  | .autofmt => .refused .notSupported
  | textFormat => sendTextEx (payloadTextEx readingOf publisher textFormat pex)

-- It does not ask whether a topic is active.
def sendEx (pex : VscpEventEx) : List Published × Ending :=
  sendTopics nowhere (sendPayloadEx readingOf publisher pex) (strTopicEx render publisher pex)
    publisher.publishTopicList

end

def Agree (sent sentEx : List Published × Ending) : Prop :=
  ∃ published failure, sent = (published, .returned failure) ∧ sentEx = (published, .returned failure)

section

variable (one other : VscpEvent) (alike : Alike one other)

include alike

theorem alike_stamp : eventTimestampNs one = eventTimestampNs other := by
  obtain ⟨day, hour, minute, second, timestamp⟩ := alike_time one other alike
  unfold eventTimestampNs
  by_cases version : frameVersion one.head = frameVersionUnixNs
  · have also : frameVersion other.head = frameVersionUnixNs := by rw [← alike.head, version]
    rw [if_pos version, if_pos also, alike.timestampNs]
  · have also : frameVersion other.head ≠ frameVersionUnixNs := by
      rw [← alike.head]
      exact version
    obtain ⟨year, month⟩ := alike.dated version
    rw [if_neg version, if_neg also, year, month, day, hour, minute, second, timestamp]

theorem alike_data_text (decimalNumbers : Bool) : dataText one decimalNumbers = dataText other decimalNumbers := by
  rw [data_text_joined one alike.present, data_text_joined other alike.presentOther, alike.data]

theorem alike_json : convertEventToJson one = convertEventToJson other := by
  rw [convertEventToJson, convertEventToJson, eventMembers, eventMembers, alike_date one other alike,
    alike_stamp one other alike, alike_data_text one other alike, alike.head, alike.obid, alike.vscpClass, alike.vscpType,
    alike.guid]

theorem alike_measured (block : Measurement) : measuredMembers one block = measuredMembers other block := by
  rw [measuredMembers, measuredMembers, alike_date one other alike, alike_stamp one other alike,
    alike_data_text one other alike, alike.head, alike.obid, alike.vscpClass, alike.vscpType, alike.guid]

theorem alike_xml : convertEventToXml one = convertEventToXml other := by
  rw [convertEventToXml, convertEventToXml, eventXmlFields, eventXmlFields, alike_date one other alike,
    alike_stamp one other alike, alike_data_text one other alike, alike.head, alike.obid, alike.vscpClass, alike.vscpType,
    alike.guid]

theorem alike_string : convertEventToString one = convertEventToString other := by
  unfold convertEventToString
  by_cases some' : one.sizeData ≠ 0
  · have also : other.sizeData ≠ 0 := by
      rw [← alike.sizeData]
      exact some'
    rw [if_pos some', if_pos also, writeDataToString, writeDataToString, if_neg (alike.present some'),
      if_neg (alike.presentOther also), alike.data, alike_stamp one other alike, alike.head, alike.obid, alike.vscpClass,
      alike.vscpType, alike.guid]
  · have also : ¬ other.sizeData ≠ 0 := by
      rw [← alike.sizeData]
      exact some'
    rw [if_neg some', if_neg also, alike_stamp one other alike, alike.head, alike.obid, alike.vscpClass, alike.vscpType,
      alike.guid]

theorem alike_frame (frame : Bytes) (pkttype : UInt8) :
    writeEventToFrame frame pkttype one = writeEventToFrame frame pkttype other := by
  have content : eventFrame pkttype one = eventFrame pkttype other := by
    rw [eventFrame, eventFrame, eventFrameContent, eventFrameContent, eventFrameHeader, eventFrameHeader,
      alike_stamp one other alike, alike.head, alike.vscpClass, alike.vscpType, alike.guid, alike.sizeData, alike.data]
  have missing : ¬ (one.sizeData ≠ 0 ∧ one.pdata = none) := fun both => alike.present both.1 both.2
  have missingOther : ¬ (other.sizeData ≠ 0 ∧ other.pdata = none) := fun both => alike.presentOther both.1 both.2
  rw [writeEventToFrame, writeEventToFrame, if_neg missing, if_neg missingOther, content, alike.sizeData]

theorem alike_measurement (readingOf : UInt16 → Bytes → Option Reading) :
    measurementOf readingOf one = measurementOf readingOf other := by
  rw [measurementOf, measurementOf, alike.vscpClass, alike.data]

end

theorem payloads_same (readingOf : UInt16 → Bytes → Option Reading) (publisher : Publisher) (old ex : VscpEventEx)
    (pev : VscpEvent) (converted : convertEventToEventEx old pev = some ex) :
    sendPayloadEx readingOf publisher ex = eventPayload readingOf publisher pev := by
  obtain ⟨alike, -, -, fits⟩ := converted_alike old ex pev converted
  obtain ⟨back, returned, also⟩ := back_alike ex fits
  have whole := alike_trans pev ex.fields back alike also
  have text : ∀ format, payloadTextEx readingOf publisher format ex =
      payloadText (measurementOf readingOf) publisher.jsonMeasurementAdd format pev := by
    intro format
    cases format with
    | jsonfmt =>
        have measured : measurementOfEx readingOf ex = measurementOf readingOf pev := by
          rw [measurementOfEx, returned]
          exact (alike_measurement pev back whole readingOf).symm
        have plain : convertEventExToJson ex = convertEventToJson pev := by
          rw [convertEventExToJson, alike_json pev ex.fields alike]
        by_cases add : publisher.jsonMeasurementAdd = true
        · simp only [payloadTextEx, payloadText, if_pos add, measured]
          cases measurementOf readingOf pev with
          | none => rw [Option.map_none, Option.map_none]
          | some reading =>
              cases reading with
              | none =>
                  show some (convertEventExToJson ex) = some (convertEventToJson pev)
                  rw [plain]
              | some block =>
                  show some (dumpObject (measuredMembers ex.fields block)) =
                    some (dumpObject (measuredMembers pev block))
                  rw [alike_measured pev ex.fields alike block]
        · simp only [payloadTextEx, payloadText, if_neg add, plain]
    | xmlfmt => exact congrArg some (alike_xml pev ex.fields alike).symm
    | strfmt =>
        show (convertEventExToEvent ex).map convertEventToString = some (convertEventToString pev)
        rw [returned, Option.map_some, alike_string pev back whole]
    | binfmt => rfl
    | autofmt => rfl
  have frame : sendFrameEx ex = sendFrame pev := by
    unfold sendFrameEx sendFrame writeEventExToFrame
    rw [returned, Option.bind_some, ← alike_frame pev back whole, alike.sizeData]
    rfl
  funext format
  cases format with
  | jsonfmt => exact congrArg sendTextEx (text .jsonfmt)
  | xmlfmt => exact congrArg sendTextEx (text .xmlfmt)
  | strfmt => exact congrArg sendTextEx (text .strfmt)
  | binfmt => exact frame
  | autofmt => rfl

def taken (skips : PublishTopic → Bool) (topics : List PublishTopic) : List PublishTopic :=
  topics.filter fun ppublish => !skips ppublish

def reached (skips : PublishTopic → Bool) (topics : List PublishTopic) : List PublishTopic :=
  (taken skips topics).takeWhile fun ppublish => decide (ppublish.format ≠ .autofmt)

def stopped (skips : PublishTopic → Bool) (topics : List PublishTopic) : Bool :=
  (taken skips topics).any fun ppublish => decide (ppublish.format = .autofmt)

section

variable (skips : PublishTopic → Bool) (payloadOf : MqttMsgFormat → Sent) (topicOf : PublishTopic → Text)

variable (ppublish : PublishTopic) (rest : List PublishTopic)

theorem taken_cons (kept : skips ppublish = false) :
    taken skips (ppublish :: rest) = ppublish :: taken skips rest :=
  List.filter_cons_of_pos (by rw [kept]; rfl)

theorem reached_skipped (skipped : skips ppublish = true) :
    reached skips (ppublish :: rest) = reached skips rest ∧ stopped skips (ppublish :: rest) = stopped skips rest := by
  have left : taken skips (ppublish :: rest) = taken skips rest :=
    List.filter_cons_of_neg (by rw [skipped]; exact Bool.false_ne_true)
  exact ⟨by rw [reached, left, reached], by rw [stopped, left, stopped]⟩

theorem reached_stop (kept : skips ppublish = false)
    (auto' : ppublish.format = .autofmt) :
    reached skips (ppublish :: rest) = [] ∧ stopped skips (ppublish :: rest) = true := by
  rw [reached, stopped, taken_cons skips ppublish rest kept]
  exact ⟨List.takeWhile_cons_of_neg (by simp only [auto', ne_eq, not_true_eq_false, decide_false, Bool.false_eq_true,
    not_false_eq_true]), by rw [List.any_cons, decide_eq_true auto', Bool.true_or]⟩

theorem reached_next (kept : skips ppublish = false)
    (format : ppublish.format ≠ .autofmt) :
    reached skips (ppublish :: rest) = ppublish :: reached skips rest ∧
      stopped skips (ppublish :: rest) = stopped skips rest := by
  rw [reached, stopped, taken_cons skips ppublish rest kept]
  exact ⟨List.takeWhile_cons_of_pos (decide_eq_true format),
    by rw [List.any_cons, decide_eq_false format, Bool.false_or, stopped]⟩

theorem send_topics_published (payload : MqttMsgFormat → Text) (auto' : payloadOf .autofmt = .refused .notSupported)
    (topics : List PublishTopic)
    (given : ∀ ppublish ∈ reached skips topics, payloadOf ppublish.format = .published (payload ppublish.format)) :
    sendTopics skips payloadOf topicOf topics =
      ((reached skips topics).map fun ppublish =>
          ⟨cString (topicOf ppublish), payload ppublish.format, ppublish.qos, ppublish.retain⟩,
        .returned (if stopped skips topics then some .notSupported else none)) := by
  induction topics with
  | nil => rfl
  | cons ppublish rest ih =>
      by_cases skipped : skips ppublish = true
      · obtain ⟨same, ending⟩ := reached_skipped skips ppublish rest skipped
        rw [same] at given ⊢
        rw [sendTopics, if_pos skipped, ending]
        exact ih given
      · have kept := Bool.eq_false_iff.mpr skipped
        by_cases last : ppublish.format = .autofmt
        · obtain ⟨none', ending⟩ := reached_stop skips ppublish rest kept last
          rw [sendTopics, if_neg skipped, last, auto', none', ending]
          rfl
        · obtain ⟨next, ending⟩ := reached_next skips ppublish rest kept last
          rw [next] at given ⊢
          have later := ih fun own inside => given own (List.mem_cons_of_mem ppublish inside)
          rw [sendTopics, if_neg skipped, given ppublish List.mem_cons_self, later, ending]
          rfl

theorem send_topics_returned (refuses : ∀ format failure, payloadOf format = .refused failure → format = .autofmt)
    (topics : List PublishTopic) (failure : Option VscpError)
    (ended : (sendTopics skips payloadOf topicOf topics).2 = .returned failure) :
    ∀ ppublish ∈ reached skips topics, ∃ payload, payloadOf ppublish.format = .published payload := by
  induction topics with
  | nil =>
      intro ppublish inside
      cases inside
  | cons first rest ih =>
      by_cases skipped : skips first = true
      · rw [(reached_skipped skips first rest skipped).1]
        rw [sendTopics, if_pos skipped] at ended
        exact ih ended
      · have kept := Bool.eq_false_iff.mpr skipped
        rw [sendTopics, if_neg skipped] at ended
        by_cases last : first.format = .autofmt
        · rw [(reached_stop skips first rest kept last).1]
          intro ppublish inside
          cases inside
        · rw [(reached_next skips first rest kept last).1]
          cases own : payloadOf first.format with
          | refused failure => exact absurd (refuses _ _ own) last
          | overran =>
              rw [own] at ended
              cases ended
          | published payload =>
              rw [own] at ended
              intro ppublish inside
              rcases List.mem_cons.mp inside with rfl | later
              · exact ⟨payload, own⟩
              · exact ih ended ppublish later

end

theorem reached_inside (skips : PublishTopic → Bool) (topics : List PublishTopic) (ppublish : PublishTopic)
    (inside : ppublish ∈ reached skips topics) : ppublish ∈ topics :=
  List.mem_of_mem_filter ((List.takeWhile_sublist _).subset inside)

theorem parser_buffer_first (text : Text) (letter : Char) (first : text[0]? = some letter) (solid : letter ≠ '\x00') :
    (parserBuffer text)[0]? = some letter := by
  cases text with
  | nil => cases first
  | cons front rest =>
      obtain rfl := Option.some.inj first
      simp only [parserBuffer, List.takeWhile_cons, decide_eq_true solid, if_true, List.cons_append,
        List.getElem?_cons_zero]

def payloadFormat (payload : Text) : MqttMsgFormat :=
  if payload[0]? = some '\x00' then .binfmt
  else if payload[0]? = some '{' then .jsonfmt
  else if payload[0]? = some '<' then .xmlfmt
  else .strfmt

theorem payload_format (measurementOf : MeasurementOf) (jsonMeasurementAdd : Bool) (format : MqttMsgFormat)
    (pev : VscpEvent) (payload : Text) (present : pev.sizeData ≠ 0 → pev.pdata ≠ none)
    (sent : sendPayload measurementOf jsonMeasurementAdd format pev = .published payload) :
    payloadFormat payload = format := by
  have texts := published_text measurementOf jsonMeasurementAdd format pev payload
  cases format with
  | jsonfmt =>
      obtain ⟨text, written, -, rfl⟩ := texts (by decide) sent
      have first := first_json measurementOf jsonMeasurementAdd text pev written
      rw [payloadFormat, parser_buffer_first text '{' first (by decide)]
      rfl
  | xmlfmt =>
      obtain ⟨text, written, -, rfl⟩ := texts (by decide) sent
      obtain rfl := Option.some.inj written
      rw [payloadFormat, parser_buffer_first (convertEventToXml pev) '<' rfl (by decide)]
      rfl
  | strfmt =>
      obtain ⟨text, written, -, rfl⟩ := texts (by decide) sent
      obtain rfl := Option.some.inj written
      obtain ⟨letter, first, digit⟩ := string_first pev present
      have other : ∀ mark, isDigitOf 10 mark = false → some letter ≠ some mark := by
        intro mark foreign same
        rw [Option.some.inj same, foreign] at digit
        cases digit
      have solid : letter ≠ '\x00' := fun zero => other '\x00' rfl (congrArg some zero)
      rw [payloadFormat, parser_buffer_first _ letter first solid, if_neg (other '\x00' rfl), if_neg (other '{' rfl),
        if_neg (other '<' rfl)]
  | binfmt =>
      change sendFrame pev = .published payload at sent
      unfold sendFrame at sent
      split at sent
      · cases sent
      · split at sent
        · cases sent
        · cases sent
          rfl
  | autofmt => cases sent

theorem maps_equal_iff {Item First Second : Type} (first firstOther : Item → First) (second secondOther : Item → Second)
    (items others : List Item)
    (each : ∀ item ∈ items, ∀ other ∈ others,
      first item = firstOther other ↔ second item = secondOther other) :
    items.map first = others.map firstOther ↔ items.map second = others.map secondOther := by
  induction items generalizing others with
  | nil =>
      cases others with
      | nil => exact iff_of_true rfl rfl
      | cons other rest => exact iff_of_false (List.cons_ne_nil _ _).symm (List.cons_ne_nil _ _).symm
  | cons item items ih =>
      cases others with
      | nil => exact iff_of_false (List.cons_ne_nil _ _) (List.cons_ne_nil _ _)
      | cons other rest =>
          have front := each item List.mem_cons_self other List.mem_cons_self
          have back := ih rest fun own inside also behind =>
            each own (List.mem_cons_of_mem item inside) also (List.mem_cons_of_mem other behind)
          rw [List.map_cons, List.map_cons, List.map_cons, List.map_cons, List.cons.injEq, List.cons.injEq, front, back]

def heading (topicOf : PublishTopic → Text) (ppublish : PublishTopic) : Text × MqttMsgFormat × Int × Bool :=
  (cString (topicOf ppublish), ppublish.format, ppublish.qos, ppublish.retain)

-- What has to be asked of the topics and the event. The second topic is the one with the year and the month that the
-- conversion gives.
structure SameSends (render : Render) (readingOf : UInt16 → Bytes → Option Reading) (publisher : Publisher)
    (pev : VscpEvent) : Prop where
  fits : ∀ ppublish ∈ reached nowhere publisher.publishTopicList, ppublish.format ≠ .binfmt →
    ∃ text, payloadText (measurementOf readingOf) publisher.jsonMeasurementAdd ppublish.format pev = some text ∧
      text.length ≤ payloadSize
  headings :
    (reached inactive publisher.publishTopicList).map
        (heading (strTopic render publisher (topicReading readingOf pev) pev)) =
      (reached nowhere publisher.publishTopicList).map
        (heading (strTopic render publisher (topicReading readingOf pev) (marked pev)))
  stops : stopped inactive publisher.publishTopicList = stopped nowhere publisher.publishTopicList

def handedOut : Sent → Text
  | .published payload => payload
  | _ => []

section

variable (readingOf : UInt16 → Bytes → Option Reading) (publisher : Publisher) (pev : VscpEvent)
  (present : pev.sizeData ≠ 0 → pev.pdata ≠ none) (size : pev.sizeData.toNat ≤ maxData)

def AllPublished (skips : PublishTopic → Bool) : Prop :=
  ∀ ppublish ∈ reached skips publisher.publishTopicList,
    eventPayload readingOf publisher pev ppublish.format =
      .published (handedOut (eventPayload readingOf publisher pev ppublish.format))

include present size

theorem only_auto_refused (format : MqttMsgFormat) (failure : VscpError)
    (refused : eventPayload readingOf publisher pev format = .refused failure) : format = .autofmt := by
  have text : ∀ written, sendText written ≠ .refused failure := by
    intro written none'
    unfold sendText at none'
    split at none'
    · cases none'
    · split at none' <;> cases none'
  cases format with
  | jsonfmt =>
      exact absurd refused
        (text (payloadText (measurementOf readingOf) publisher.jsonMeasurementAdd .jsonfmt pev))
  | xmlfmt => exact absurd refused (text (some (convertEventToXml pev)))
  | strfmt => exact absurd refused (text (some (convertEventToString pev)))
  | binfmt =>
      change sendFrame pev = .refused failure at refused
      rw [frame_is_sent pev present size] at refused
      cases refused
  | autofmt => rfl

theorem returned_all_published (skips : PublishTopic → Bool) (topicOf : PublishTopic → Text)
    (failure : Option VscpError) (ended : (sendTopics skips (eventPayload readingOf publisher pev) topicOf
      publisher.publishTopicList).2 = .returned failure) : AllPublished readingOf publisher pev skips := by
  intro ppublish inside
  obtain ⟨payload, sent⟩ := send_topics_returned skips _ topicOf
    (only_auto_refused readingOf publisher pev present size) _ failure ended ppublish inside
  rw [sent]
  rfl

theorem fits_published (format : MqttMsgFormat) (fits : format ≠ .binfmt → ∃ text,
    payloadText (measurementOf readingOf) publisher.jsonMeasurementAdd format pev = some text ∧
      text.length ≤ payloadSize) :
    eventPayload readingOf publisher pev format =
      .published (handedOut (eventPayload readingOf publisher pev format)) := by
  by_cases frame : format = .binfmt
  · have sent : eventPayload readingOf publisher pev format = .published (sentFrame pev) := by
      rw [frame]
      exact frame_is_sent pev present size
    rw [sent]
    rfl
  · obtain ⟨text, written, short⟩ := fits frame
    have copied : sendText (payloadText (measurementOf readingOf) publisher.jsonMeasurementAdd format pev) =
        .published (parserBuffer text) := by
      rw [written]
      exact if_neg (Nat.not_lt.mpr short)
    have sent : eventPayload readingOf publisher pev format = .published (parserBuffer text) := by
      cases format with
      | jsonfmt => exact copied
      | xmlfmt => exact copied
      | strfmt => exact copied
      | binfmt => exact absurd rfl frame
      | autofmt => cases written
    rw [sent]
    rfl

end

theorem agree_iff_parts (published publishedEx : List Published) (failure failureEx : Option VscpError) :
    Agree (published, .returned failure) (publishedEx, .returned failureEx) ↔
      published = publishedEx ∧ failure = failureEx := by
  constructor
  · rintro ⟨all, error, sent, sentEx⟩
    obtain ⟨rfl, ending⟩ := Prod.mk.inj sent
    obtain ⟨rfl, endingEx⟩ := Prod.mk.inj sentEx
    exact ⟨rfl, Ending.returned.inj (ending.trans endingEx.symm)⟩
  · rintro ⟨rfl, rfl⟩
    exact ⟨published, failure, rfl, rfl⟩

section

variable (render : Render) (readingOf : UInt16 → Bytes → Option Reading) (publisher : Publisher)
  (old ex : VscpEventEx) (pev : VscpEvent) (converted : convertEventToEventEx old pev = some ex)

include converted

theorem send_ex_topics : sendEx render readingOf publisher ex =
    sendTopics nowhere (eventPayload readingOf publisher pev) (strTopicEx render publisher ex)
      publisher.publishTopicList := by
  rw [sendEx, payloads_same readingOf publisher old ex pev converted]

theorem published_agree_iff (unmeasured : ∀ ppublish ∈ publisher.publishTopicList, Unmeasured render ppublish.topic)
    (given : AllPublished readingOf publisher pev inactive) (givenEx : AllPublished readingOf publisher pev nowhere) :
    Agree (send render readingOf publisher pev) (sendEx render readingOf publisher ex) ↔
      (reached inactive publisher.publishTopicList).map
          (heading (strTopic render publisher (topicReading readingOf pev) pev)) =
        (reached nowhere publisher.publishTopicList).map
          (heading (strTopic render publisher (topicReading readingOf pev) (marked pev))) ∧
      stopped inactive publisher.publishTopicList = stopped nowhere publisher.publishTopicList := by
  have present := (converted_alike old ex pev converted).1.present
  let payload : MqttMsgFormat → Text := fun format => handedOut (eventPayload readingOf publisher pev format)
  rw [send_ex_topics render readingOf publisher old ex pev converted, send,
    send_topics_published inactive _ _ payload rfl _ given, send_topics_published nowhere _ _ payload rfl _ givenEx,
    agree_iff_parts]
  apply and_congr
  · apply maps_equal_iff
    intro one inside other insideOther
    have text := topics_same render publisher (topicReading readingOf pev) old ex pev other converted
      (unmeasured other (reached_inside nowhere _ other insideOther))
    have oneFormat := payload_format _ _ _ pev _ present (given one inside)
    have otherFormat := payload_format _ _ _ pev _ present (givenEx other insideOther)
    rw [Published.mk.injEq, heading, heading, Prod.mk.injEq, Prod.mk.injEq, Prod.mk.injEq, ← text]
    refine and_congr_right fun _ => and_congr_left fun _ => ⟨fun payloads => ?_, fun formats => congrArg payload formats⟩
    rw [← oneFormat, ← otherFormat]
    exact congrArg payloadFormat payloads
  · cases stopped inactive publisher.publishTopicList <;> cases stopped nowhere publisher.publishTopicList <;> simp

end

theorem sends_agree_iff (render : Render) (readingOf : UInt16 → Bytes → Option Reading) (publisher : Publisher)
    (old ex : VscpEventEx) (pev : VscpEvent) (converted : convertEventToEventEx old pev = some ex)
    (unmeasured : ∀ ppublish ∈ publisher.publishTopicList, Unmeasured render ppublish.topic) :
    Agree (send render readingOf publisher pev) (sendEx render readingOf publisher ex) ↔
      SameSends render readingOf publisher pev := by
  obtain ⟨alike, -, -, large⟩ := converted_alike old ex pev converted
  have size : pev.sizeData.toNat ≤ maxData := by
    rw [alike.sizeData]
    exact large
  have agree := published_agree_iff render readingOf publisher old ex pev converted unmeasured
  constructor
  · intro same
    have same' := same
    obtain ⟨published, failure, sent, sentEx⟩ := same'
    rw [send_ex_topics render readingOf publisher old ex pev converted] at sentEx
    have given := returned_all_published readingOf publisher pev alike.present size inactive _ failure
      (congrArg Prod.snd sent)
    have givenEx := returned_all_published readingOf publisher pev alike.present size nowhere _ failure
      (congrArg Prod.snd sentEx)
    obtain ⟨headings, stops⟩ := (agree given givenEx).mp same
    refine ⟨fun ppublish inside text => ?_, headings, stops⟩
    obtain ⟨strPayload, written, short, -⟩ := published_text _ _ _ pev _ text (givenEx ppublish inside)
    exact ⟨strPayload, written, short⟩
  · intro same
    have givenEx : AllPublished readingOf publisher pev nowhere := fun ppublish inside =>
      fits_published readingOf publisher pev alike.present size ppublish.format (same.fits ppublish inside)
    have given : AllPublished readingOf publisher pev inactive := by
      intro ppublish inside
      have listed : ppublish.format ∈ ((reached nowhere publisher.publishTopicList).map
          (heading (strTopic render publisher (topicReading readingOf pev) (marked pev)))).map fun own => own.2.1 := by
        rw [← same.headings, List.map_map]
        exact List.mem_map.mpr ⟨ppublish, inside, rfl⟩
      rw [List.map_map] at listed
      obtain ⟨other, own, format⟩ := List.mem_map.mp listed
      have sent := givenEx other own
      change other.format = ppublish.format at format
      rw [format] at sent
      exact sent
    exact (agree given givenEx).mpr ⟨same.headings, same.stops⟩

def plainEvent : VscpEvent := { exampleEvent with vscpClass := 20, vscpType := 3 }

def plainEventEx : VscpEventEx := (convertEventToEventEx emptyEventEx plainEvent).getD emptyEventEx

theorem plain_converted : convertEventToEventEx emptyEventEx plainEvent = some plainEventEx := rfl

def plainRender : Render := fun template _ => template

def noReading (_ : UInt16) (_ : Bytes) : Option Reading := some .notMeasurement

def onePublisher (active : Bool) : Publisher :=
  { blankPublisher with publishTopicList := [⟨['v', 's', 'c', 'p'], .strfmt, 0, false, active⟩] }

theorem plain_unmeasured (topic : Text) : Unmeasured plainRender topic := fun _ _ _ => rfl

theorem sends_agree_iff_active : Agree (send plainRender noReading (onePublisher true) plainEvent)
    (sendEx plainRender noReading (onePublisher true) plainEventEx) := by
  apply (sends_agree_iff plainRender noReading (onePublisher true) emptyEventEx plainEventEx plainEvent plain_converted
    fun ppublish _ => plain_unmeasured ppublish.topic).mpr
  refine ⟨fun ppublish inside _ => ?_, rfl, rfl⟩
  obtain rfl := List.mem_singleton.mp inside
  exact ⟨convertEventToString plainEvent, rfl, by decide⟩

theorem inactive_topic_published :
    convertEventToEventEx emptyEventEx plainEvent = some plainEventEx ∧ plainEvent.sizeData.toNat ≤ 512 ∧
    (∀ ppublish ∈ (onePublisher false).publishTopicList, Unmeasured plainRender ppublish.topic) ∧
    ¬ Agree (send plainRender noReading (onePublisher false) plainEvent)
      (sendEx plainRender noReading (onePublisher false) plainEventEx) := by
  refine ⟨plain_converted, by decide, fun ppublish _ => plain_unmeasured ppublish.topic, ?_⟩
  rintro ⟨published, failure, sent, sentEx⟩
  have one : (sendEx plainRender noReading (onePublisher false) plainEventEx).1.length = 1 := by decide +kernel
  have nothing : published = [] := (Prod.mk.inj sent).1.symm
  rw [sentEx, nothing] at one
  cases one

end Vscp.Mqtt
