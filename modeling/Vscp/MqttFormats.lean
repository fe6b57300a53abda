import Vscp.MqttPublish

set_option autoImplicit false

namespace Vscp.Mqtt

open ByteMemory NumberText
open RemoteTcp (Text split)

theorem queued_decoded (readers : Readers) (clock : Clock) (rawtime : UInt64) (client after : Client)
    (ev read : VscpEvent) (pmsg : Message)
    (handled : handleMessage readers clock rawtime client ev pmsg = some (true, after))
    (queue : after.receiveQueue = client.receiveQueue ++ [read]) :
    (client.callbackEvActive = false ∧ client.callbackExActive = false) ∧
      client.receiveQueue.length < mqttMaxInqueueSize ∧
      ∃ format depth own, messageFormat client.subscribeTopicList pmsg = some format ∧
        decodePayload readers clock rawtime ev client.depthEventParser format pmsg.payload pmsg.behind =
          some (depth, some own) ∧ copyEvent own = some read := by
  have grown : after.receiveQueue ≠ client.receiveQueue := by
    intro same
    have length := congrArg List.length (queue.symm.trans same)
    rw [List.length_append, List.length_singleton] at length
    omega
  obtain ⟨⟨depth, own⟩, readIs, result⟩ := Option.map_eq_some_iff.mp handled
  cases own with
  | none => cases result
  | some own =>
      unfold readMessage at readIs
      split at readIs
      · cases readIs
      · split at readIs
        · cases readIs
        · rename_i format found
          simp only [handleEvent] at result
          split at result
          · cases result
          · split at result
            · cases result
              exact absurd rfl grown
            · rename_i listens
              simp only [not_or, Bool.not_eq_true] at listens
              cases copied : copyEvent own with
              | none =>
                  rw [copied] at result
                  cases result
              | some copy =>
                  rw [copied] at result
                  cases result
                  unfold saveEvent at queue grown
                  split at queue
                  · rename_i room
                    obtain rfl : copy = read := List.singleton_inj.mp (List.append_cancel_left queue)
                    exact ⟨listens, room, format, depth, own, found, readIs, copied⟩
                  · rename_i full
                    rw [if_neg full] at grown
                    exact absurd rfl grown

theorem copied_fields (own read : VscpEvent) (copied : copyEvent own = some read) :
    read.head = own.head ∧ read.timestampNs = own.timestampNs ∧ read.sizeData = own.sizeData := by
  unfold copyEvent at copied
  split at copied
  · cases copied
  · obtain rfl := Option.some.inj copied
    refine ⟨rfl, ?_, rfl⟩
    simp only [time_block_parts, ite_self]

theorem sent_head (pev : VscpEvent) (unix : UnixEvent pev) : pev.head ≠ 0 := by
  intro zero
  have version := unix.version
  rw [zero] at version
  exact absurd version (by decide)

section

variable (measurementOf : MeasurementOf) (readers : Readers) (reliable : Reliable measurementOf readers)
  (clock : Clock) (rawtime : UInt64) (ev own : VscpEvent) (before depth : Int) (payload behind : Text)
include reliable

theorem not_json_empty (foreign : notJson payload)
    (decoded : decodePayload readers clock rawtime ev before .jsonfmt payload behind = some (depth, some own)) :
    own.head = 0 := by
  cases parsed : readers.parse payload with
  | ok value => exact absurd parsed (reliable.refusesJson payload value foreign)
  | error failure =>
      cases failure with
      | parseError =>
          have converted : convertJsonToEvent readers.parse readers.castToByte clock payload = (true, emptyEvent) := by
            rw [convertJsonToEvent, parsed]
          simp only [decodePayload, converted, if_true] at decoded
          cases decoded
          rfl
      | other =>
          have converted : convertJsonToEvent readers.parse readers.castToByte clock payload = (false, emptyEvent) := by
            rw [convertJsonToEvent, parsed]
          simp only [decodePayload, converted] at decoded
          cases decoded

theorem not_xml_refused (foreign : notXml (parserBuffer payload))
    (decoded : decodePayload readers clock rawtime ev before .xmlfmt payload behind = some (depth, some own)) :
    False := by
  have refused := reliable.refusesXml _ foreign
  simp only [decodePayload, convertXmlToEvent, decodeXml] at decoded
  split at decoded
  · cases decoded
  · split at decoded
    · cases decoded
    · simp only [refused, Option.map_map] at decoded
      obtain ⟨state, _, result⟩ := Option.map_eq_some_iff.mp decoded
      cases result

end

theorem read16_value (memory : Memory) (i : Nat) :
    (read16 memory i).toNat = (memory i).toNat * 256 + (memory (i + 1)).toNat := by
  have high := (memory i).toNat_lt
  have low := (memory (i + 1)).toNat_lt
  simp only [read16, UInt16.toNat_add, UInt16.toNat_shiftLeft, UInt8.toNat_toUInt16, UInt16.toNat_ofNat]
  have width : 2 ^ (8 % 2 ^ 16 % 16) = 256 := rfl
  rw [Nat.shiftLeft_eq, width]
  omega

theorem shown_byte (letter : Char) (shown : isShown letter = true) : 10 ≤ (letterByte letter).toNat := by
  obtain ⟨low, high⟩ := of_decide_eq_true shown
  have lowNat : 10 ≤ letter.toNat := UInt32.le_iff_toNat_le.mp low
  have highNat : letter.toNat ≤ 126 := UInt32.le_iff_toNat_le.mp high
  rw [letterByte, UInt8.toNat_ofNat_of_lt' (Nat.lt_of_le_of_lt highNat (by decide))]
  exact lowNat

-- The letters of a text, taken for a size, are more than any payload has room for.
theorem text_no_frame (clock : Clock) (text behind : Text) (shown : Shown text) (long : 36 ≤ text.length)
    (short : text.length ≤ payloadSize) :
    getEventFromFrame clock (frameMemory text behind) text.length = none := by
  have here : 35 < text.length := long
  have byte : frameMemory text behind posSizeMsb = letterByte text[35] := by
    have front : posSizeMsb < ((text.drop 1).map letterByte).length := by
      rw [List.length_map, List.length_drop]
      exact Nat.lt_sub_of_add_lt here
    rw [frameMemory, List.map_append, of_bytes_front _ _ _ _ front, of_bytes_inside _ _ _ front, List.getElem_map,
      List.getElem_drop]
    rfl
  have large := shown_byte text[35] (List.all_eq_true.mp shown _ (List.getElem_mem here))
  have size := read16_value (frameMemory text behind) posSizeMsb
  have room : text.length ≤ 1024 := short
  rw [byte] at size
  have checks : frameChecks (frameMemory text behind) text.length = false := by
    unfold frameChecks
    rw [if_pos]
    simp only [frameSize, headerLength]
    omega
  rw [getEventFromFrame, if_pos (by simp [checks])]

variable (text : Text) (delimiter : Char)

theorem split_length (some' : text ≠ []) :
    (split text delimiter).length = text.count delimiter + 1 := by
  have pieces : ∀ text : Text, (text.splitOn delimiter).length = text.count delimiter + 1 := by
    intro text
    rw [List.splitOn_eq_splitOnP]
    induction text with
    | nil => rfl
    | cons letter text ih =>
        rw [List.splitOnP_cons_eq_if_modifyHead, List.count_cons]
        split
        · rw [List.length_cons, ih]
        · rw [List.length_modifyHead, ih, Nat.add_zero]
  rw [split, if_neg some', pieces]

theorem string_commas (readers : Readers) (clock : Clock) (rawtime : UInt64) (ev own : VscpEvent) (before depth : Int)
    (payload behind : Text) (some' : payload ≠ [])
    (decoded : decodePayload readers clock rawtime ev before .strfmt payload behind = some (depth, some own)) :
    ∃ count, payload.count ',' = count + 6 ∧ count ≤ maxData ∧ own.sizeData = UInt16.ofNat count := by
  have pieces := split_length payload ',' some'
  simp only [decodePayload, Option.some.injEq, Prod.mk.injEq, convertStringToEvent] at decoded
  obtain ⟨_, read⟩ := decoded
  split at read
  · rename_i head vscpClass vscpType obid datetime timestamp guid data fields
    rw [fields] at pieces
    simp only [List.length_cons] at pieces
    split at read
    · cases read
    · rename_i room
      obtain rfl := Option.some.inj read
      refine ⟨data.length, by omega, Nat.le_of_not_lt room, ?_⟩
      show UInt16.ofNat (data.map _).length = _
      rw [List.length_map]
  · cases read

theorem no_commas (absent : ',' ∉ text) : text.count ',' = 0 := List.count_eq_zero.mpr absent

theorem count_joined (separator : Text) (parts : List Text) (one : separator.count ',' = 1) (some' : parts ≠ []) :
    (List.intercalate separator parts).count ',' + 1 = (parts.map (·.count ',')).sum + parts.length := by
  have total := joined_measure (·.count ',') (fun _ _ => List.count_append) separator parts some'
  rwa [one, Nat.mul_one] at total

variable (pev : VscpEvent)

theorem data_commas (present : pev.sizeData ≠ 0 → pev.pdata ≠ none) (decimalNumbers : Bool) :
    (dataText pev decimalNumbers).count ',' = pev.sizeData.toNat - 1 := by
  have length := data_bytes_length pev
  rw [data_text_joined pev present]
  have each : ∀ bytes : Bytes, ((bytes.map (dataLetters decimalNumbers)).map (·.count ',')).sum = 0 := by
    intro bytes
    apply List.sum_eq_zero
    intro number inside
    obtain ⟨part, member, rfl⟩ := List.mem_map.mp inside
    obtain ⟨byte, _, rfl⟩ := List.mem_map.mp member
    apply no_commas
    unfold dataLetters
    split
    · exact fun comma => Bool.noConfusion (decimal_digits _ ',' comma)
    · exact data_no_comma byte
  by_cases empty : pev.dataBytes = []
  · rw [empty] at length ⊢
    rw [← length]
    rfl
  · have joined := count_joined [','] (pev.dataBytes.map (dataLetters decimalNumbers)) rfl
      (by simpa using empty)
    rw [each, List.length_map, length] at joined
    omega

variable (value : Nat)

theorem decimal_commas : (decimal value).count ',' = 0 :=
  no_commas _ fun comma => Bool.noConfusion (decimal_digits value ',' comma)

variable (guid : Guid)

theorem guid_commas : (writeGuidToString guid).count ',' = 0 := by
  apply no_commas
  intro comma
  rcases hex_groups_letters guid.toList ',' comma with digit | colon
  · exact Bool.noConfusion digit
  · exact absurd colon (by decide)

theorem date_commas : (getDateStringFromEvent pev).count ',' = 0 := by
  apply no_commas
  intro comma
  apply date_letters (· ≠ ',') _ _ pev ',' comma rfl
  · rintro letter digit rfl
    exact Bool.noConfusion digit
  · simp

theorem stamp_commas : (lowerHex 16 value).count ',' = 0 :=
  no_commas _ fun comma => Bool.noConfusion (lower_hex_digits 16 value ',' comma)

theorem member_commas (member : Text × Text) (plain : member.1.count ',' = 0) :
    (JsonText.memberText member).count ',' = member.2.count ',' := by
  rw [JsonText.memberText, List.count_append, List.count_append, List.count_cons_of_ne (by decide), plain]
  exact Nat.zero_add _

theorem quoted_commas (letters : Text) : (quoted letters).count ',' = letters.count ',' := by
  rw [quoted, List.cons_append, List.count_cons_of_ne (by decide), List.count_append]
  rfl

variable (members : List (Text × Text))

theorem members_commas (plain : ∀ member ∈ members, member.1.count ',' = 0) :
    (members.map JsonText.memberText).map (·.count ',') = members.map (·.2.count ',') := by
  rw [List.map_map]
  exact List.map_congr_left fun member inside => member_commas member (plain member inside)

theorem data_list_commas (present : pev.sizeData ≠ 0 → pev.pdata ≠ none) :
    ('[' :: dataText pev true ++ [']']).count ',' = pev.sizeData.toNat - 1 := by
  rw [List.cons_append, List.count_cons_of_ne (by decide), List.count_append, data_commas pev present]
  rfl

theorem hex_stamp_commas : (['0', 'x'] ++ lowerHex 16 value).count ',' = 0 := by
  rw [List.count_append, stamp_commas]
  rfl

theorem json_commas (present : pev.sizeData ≠ 0 → pev.pdata ≠ none) :
    (convertEventToJson pev).count ',' = 8 + (pev.sizeData.toNat - 1) := by
  have joined := count_joined [',', '\n'] ((eventMembers pev).map JsonText.memberText) rfl (by simp [eventMembers])
  have sum : (((eventMembers pev).map JsonText.memberText).map (·.count ',')).sum = pev.sizeData.toNat - 1 := by
    have plain : ∀ member ∈ eventMembers pev, member.1.count ',' = 0 := by
      intro member inside
      simp only [eventMembers, List.mem_cons, List.not_mem_nil, or_false] at inside
      rcases inside with rfl | rfl | rfl | rfl | rfl | rfl | rfl | rfl | rfl <;> rfl
    rw [members_commas _ plain]
    simp only [eventMembers, List.map_cons, List.map_nil, List.sum_cons, List.sum_nil, quoted_commas, decimal_commas,
      guid_commas, date_commas, hex_stamp_commas, data_list_commas pev present, List.count_nil, Nat.zero_add, Nat.add_zero]
  have length : ((eventMembers pev).map JsonText.memberText).length = 9 := rfl
  rw [sum, length] at joined
  simp only [convertEventToJson, JsonText.objectText, List.count_append]
  have front : ['{', '\n'].count ',' = 0 := rfl
  have back : ['\n', '}'].count ',' = 0 := rfl
  omega

theorem number_commas (number : Int) : (numberText number).count ',' = 0 := by
  unfold numberText
  split
  · rw [List.count_cons, decimal_commas]
    rfl
  · exact decimal_commas _

theorem dump_commas (some' : members ≠ [])
    (plain : ∀ member ∈ members, member.1.count ',' = 0) :
    (dumpObject members).count ',' + 1 = (members.map (·.2.count ',')).sum + members.length := by
  have joined := count_joined [','] (members.map fun entry => quoted entry.1 ++ ':' :: entry.2) rfl (by simpa using some')
  have each : (members.map fun entry => quoted entry.1 ++ ':' :: entry.2).map (·.count ',') =
      members.map (·.2.count ',') := by
    rw [List.map_map]
    apply List.map_congr_left
    intro member inside
    change (quoted member.1 ++ ':' :: member.2).count ',' = _
    rw [List.count_append, quoted_commas, plain member inside, List.count_cons_of_ne (by decide), Nat.zero_add]
  rw [List.length_map, each] at joined
  rw [← joined]
  simp [dumpObject]

theorem measured_commas (block : Measurement) (present : pev.sizeData ≠ 0 → pev.pdata ≠ none)
    (value : ',' ∉ block.value) :
    (dumpObject (measuredMembers pev block)).count ',' = 13 + (pev.sizeData.toNat - 1) := by
  have measurement : (measurementText block).count ',' = 4 := by
    have joined := dump_commas
      [(['s', 'e', 'n', 's', 'o', 'r', 'i', 'n', 'd', 'e', 'x'], numberText block.sensorindex),
        (['s', 'u', 'b', 'z', 'o', 'n', 'e'], numberText block.subzone),
        (['u', 'n', 'i', 't'], numberText block.unit),
        (['v', 'a', 'l', 'u', 'e'], block.value),
        (['z', 'o', 'n', 'e'], numberText block.zone)] (List.cons_ne_nil _ _)
      (by
        intro member inside
        simp only [List.mem_cons, List.not_mem_nil, or_false] at inside
        rcases inside with rfl | rfl | rfl | rfl | rfl <;> rfl)
    simp only [List.map_cons, List.map_nil, List.sum_cons, List.sum_nil, List.length_cons, List.length_nil, number_commas,
      no_commas block.value value] at joined
    rw [measurementText]
    exact Nat.succ.inj joined
  have plain : ∀ member ∈ measuredMembers pev block, member.1.count ',' = 0 := by
    intro member inside
    simp only [measuredMembers, List.mem_cons, List.not_mem_nil, or_false] at inside
    rcases inside with rfl | rfl | rfl | rfl | rfl | rfl | rfl | rfl | rfl | rfl <;> rfl
  have joined := dump_commas (measuredMembers pev block) (List.cons_ne_nil _ _) plain
  have sum : ((measuredMembers pev block).map (·.2.count ',')).sum = 4 + (pev.sizeData.toNat - 1) := by
    simp only [measuredMembers, List.map_cons, List.map_nil, List.sum_cons, List.sum_nil, quoted_commas, decimal_commas,
      guid_commas, date_commas, hex_stamp_commas, data_list_commas pev present, measurement, List.count_nil]
    omega
  have length : (measuredMembers pev block).length = 10 := rfl
  rw [sum, length] at joined
  omega

theorem attributes_commas (fields : List (Text × Text)) (plain : ∀ field ∈ fields, field.1.count ',' = 0) :
    (fields.flatMap XmlText.attributeText).count ',' = (fields.map (·.2.count ',')).sum := by
  rw [List.count_flatMap]
  apply congrArg List.sum
  apply List.map_congr_left
  intro field inside
  change (field.1 ++ ['=', '"'] ++ field.2 ++ ['"', ' ']).count ',' = _
  have quote : ['=', '"'].count ',' = 0 := rfl
  have gap : ['"', ' '].count ',' = 0 := rfl
  rw [List.count_append, List.count_append, List.count_append, plain field inside, quote, gap, Nat.zero_add, Nat.add_zero]

theorem xml_commas (present : pev.sizeData ≠ 0 → pev.pdata ≠ none) :
    (convertEventToXml pev).count ',' = pev.sizeData.toNat - 1 := by
  have plain : ∀ field ∈ eventXmlFields pev, field.1.count ',' = 0 := by
    intro field inside
    simp only [eventXmlFields, List.mem_cons, List.not_mem_nil, or_false] at inside
    rcases inside with rfl | rfl | rfl | rfl | rfl | rfl | rfl | rfl <;> rfl
  have fields : ((eventXmlFields pev).map (·.2.count ',')).sum = pev.sizeData.toNat - 1 := by
    simp only [eventXmlFields, List.map_cons, List.map_nil, List.sum_cons, List.sum_nil, decimal_commas, guid_commas,
      date_commas, data_commas pev present, Nat.zero_add, Nat.add_zero]
  have front : ('<' :: eventName ++ [' ']).count ',' = 0 := rfl
  have back : ['/', '>'].count ',' = 0 := rfl
  rw [convertEventToXml, XmlText.elementText, List.count_append, List.count_append, front, back,
    attributes_commas _ plain, fields]
  exact Nat.zero_add _

theorem joined_long (parts : List Text) (bound : Nat) (each : ∀ part ∈ parts, bound ≤ part.length) :
    parts.length * (bound + 1) ≤ (List.intercalate [delimiter] parts).length + 1 := by
  by_cases empty : parts = []
  · rw [empty, List.length_nil, Nat.zero_mul]
    exact Nat.zero_le _
  · have total := joined_measure List.length (fun _ _ => List.length_append) [delimiter] parts empty
    have sum := List.card_nsmul_le_sum (parts.map List.length) bound (List.forall_mem_map.mpr each)
    rw [List.length_map, smul_eq_mul] at sum
    rw [List.length_singleton] at total
    rw [Nat.mul_add]
    omega

theorem guid_long : 36 ≤ (writeGuidToString guid).length := by
  have joined := joined_long ':' (guid.toList.map fun byte => upperHex 2 byte.toNat) 2 (by
    intro part inside
    obtain ⟨byte, _, rfl⟩ := List.mem_map.mp inside
    rw [upperHex, zeroPadded, List.length_append, List.length_replicate]
    omega)
  rw [List.length_map, Vector.length_toList] at joined
  unfold writeGuidToString
  omega

section

variable (measurementOf : MeasurementOf) (jsonMeasurementAdd : Bool)

theorem payload_long (format : MqttMsgFormat) (pev : VscpEvent) (unix : UnixEvent pev) (text : Text)
    (written : payloadText measurementOf jsonMeasurementAdd format pev = some text) : 36 ≤ text.length := by
  have guid := guid_long pev.guid
  have json : 36 ≤ (convertEventToJson pev).length := by
    simp [convertEventToJson, JsonText.objectText, eventMembers, JsonText.memberText, quoted]
    omega
  cases format with
  | jsonfmt =>
      simp only [payloadText] at written
      split at written
      · obtain ⟨block, _, rfl⟩ := Option.map_eq_some_iff.mp written
        cases block with
        | none => exact json
        | some block =>
            simp [dumpObject, measuredMembers, quoted]
            omega
      · obtain rfl := Option.some.inj written
        exact json
  | xmlfmt =>
      obtain rfl := Option.some.inj written
      simp [convertEventToXml, XmlText.elementText, eventXmlFields, XmlText.attributeText]
      omega
  | strfmt =>
      obtain rfl := Option.some.inj written
      rw [event_text_fields pev (unix_present pev unix), eventFields]
      generalize pev.dataBytes.map (dataLetters false) = data
      cases data with
      | nil =>
          simp
          omega
      | cons first rest =>
          simp
          omega
  | binfmt => cases written
  | autofmt => cases written

theorem payload_commas (readers : Readers) (reliable : Reliable measurementOf readers) (format : MqttMsgFormat)
    (pev : VscpEvent) (unix : UnixEvent pev) (text : Text) (other : format ≠ .strfmt)
    (written : payloadText measurementOf jsonMeasurementAdd format pev = some text) (count : Nat)
    (commas : text.count ',' = count + 6) : count ≠ pev.sizeData.toNat := by
  have present := unix_present pev unix
  have json := json_commas pev present
  cases format with
  | jsonfmt =>
      simp only [payloadText] at written
      split at written
      · obtain ⟨block, measured, rfl⟩ := Option.map_eq_some_iff.mp written
        cases block with
        | none =>
            rw [json] at commas
            omega
        | some block =>
            rw [measured_commas pev block present fun comma => (reliable.dumped pev block measured ',' comma).2 rfl]
              at commas
            omega
      · obtain rfl := Option.some.inj written
        rw [json] at commas
        omega
  | xmlfmt =>
      obtain rfl := Option.some.inj written
      rw [xml_commas pev present] at commas
      omega
  | strfmt => exact absurd rfl other
  | binfmt => cases written
  | autofmt => cases written

theorem string_begins (pev : VscpEvent) (present : pev.sizeData ≠ 0 → pev.pdata ≠ none) :
    ∃ rest, convertEventToString pev = decimal (writtenHead pev.head).toNat ++ ',' :: rest := by
  rw [event_text_fields pev present, eventFields, List.cons_append, List.intercalate_cons_of_ne_nil (by simp),
    List.append_assoc, List.singleton_append]
  exact ⟨_, rfl⟩

theorem string_first (pev : VscpEvent) (present : pev.sizeData ≠ 0 → pev.pdata ≠ none) :
    ∃ first, (convertEventToString pev)[0]? = some first ∧ isDigitOf 10 first = true := by
  obtain ⟨rest, split⟩ := string_begins pev present
  have digits := decimal_digits (writtenHead pev.head).toNat
  obtain ⟨first, others, head⟩ := List.exists_cons_of_ne_nil (decimal_nonempty (writtenHead pev.head).toNat)
  exact ⟨first, by rw [split, head]; rfl, digits first (by rw [head]; exact List.mem_cons_self)⟩

theorem payload_marks (format : MqttMsgFormat) (pev : VscpEvent) (unix : UnixEvent pev) (text : Text)
    (written : payloadText measurementOf jsonMeasurementAdd format pev = some text) :
    (format ≠ .jsonfmt → notJson text) ∧ (format ≠ .xmlfmt → notXml text) := by
  cases format with
  | jsonfmt =>
      exact ⟨fun other => absurd rfl other,
        fun _ => .inl (first_json measurementOf jsonMeasurementAdd text pev written)⟩
  | xmlfmt =>
      obtain rfl := Option.some.inj written
      exact ⟨fun _ => .inl rfl, fun other => absurd rfl other⟩
  | strfmt =>
      obtain rfl := Option.some.inj written
      obtain ⟨rest, split⟩ := string_begins pev (unix_present pev unix)
      obtain ⟨first, front, digit⟩ := string_first pev (unix_present pev unix)
      exact ⟨fun _ => .inr (.inr ⟨_, rest, decimal_digits _, split⟩), fun _ => .inr (.inr ⟨first, front, digit⟩)⟩
  | binfmt => cases written
  | autofmt => cases written

end

theorem string_read_past (pev : VscpEvent) (unix : UnixEvent pev) (topics : List SubscribeTopic) (topic behind : Text)
    (unknown : subscribedFormat topics topic = .autofmt) :
    (convertEventToString pev).length < bytesRead topics ⟨topic, convertEventToString pev, behind⟩ := by
  have shown := shown_string pev (unix_present pev unix)
  obtain ⟨first, front, digit⟩ := string_first pev (unix_present pev unix)
  have whole : (convertEventToString pev).length ≤ (cString (convertEventToString pev ++ behind)).length := by
    have letters : ∀ letter ∈ convertEventToString pev, decide (letter ≠ '\x00') = true := by
      intro letter inside
      apply decide_eq_true
      rintro rfl
      exact Bool.noConfusion (List.all_eq_true.mp shown '\x00' inside)
    rw [cString, List.takeWhile_append_of_pos letters, List.length_append]
    exact Nat.le_add_right _ _
  have unmarked : ∀ mark, isDigitOf 10 mark = false → (convertEventToString pev)[0]? ≠ some mark := by
    intro mark foreign same
    rw [front] at same
    rw [Option.some.inj same, foreign] at digit
    cases digit
  have looked : subscribedFormat topics topic = .autofmt ∧ (convertEventToString pev)[0]? ≠ some '\x00' ∧
      (convertEventToString pev)[0]? ≠ some '{' ∧ (convertEventToString pev)[0]? ≠ some '<' :=
    ⟨unknown, unmarked '\x00' rfl, unmarked '{' rfl, unmarked '<' rfl⟩
  unfold bytesRead
  rw [if_pos looked]
  exact Nat.lt_of_lt_of_le (Nat.lt_succ_of_le whole) (Nat.le_max_left _ _)

section

variable (measurementOf : MeasurementOf) (jsonMeasurementAdd : Bool)

theorem published_text (format : MqttMsgFormat) (pev : VscpEvent) (payload : Text) (text : format ≠ .binfmt)
    (sent : sendPayload measurementOf jsonMeasurementAdd format pev = .published payload) :
    ∃ strPayload, payloadText measurementOf jsonMeasurementAdd format pev = some strPayload ∧
      strPayload.length ≤ payloadSize ∧ payload = parserBuffer strPayload := by
  have copied : sendText (payloadText measurementOf jsonMeasurementAdd format pev) = .published payload →
      ∃ strPayload, payloadText measurementOf jsonMeasurementAdd format pev = some strPayload ∧
        strPayload.length ≤ payloadSize ∧ payload = parserBuffer strPayload := by
    intro sent
    cases written : payloadText measurementOf jsonMeasurementAdd format pev with
    | none =>
        rw [written] at sent
        cases sent
    | some strPayload =>
        rw [written] at sent
        simp only [sendText] at sent
        split at sent
        · cases sent
        · rename_i fits
          cases sent
          exact ⟨strPayload, rfl, Nat.le_of_not_lt fits, rfl⟩
  cases format with
  | jsonfmt => exact copied sent
  | xmlfmt => exact copied sent
  | strfmt => exact copied sent
  | binfmt => exact absurd rfl text
  | autofmt => cases sent

theorem found_format (topics : List SubscribeTopic) (pmsg : Message) (format : MqttMsgFormat)
    (found : messageFormat topics pmsg = some format) :
    subscribedFormat topics pmsg.topic = format ∨
      (subscribedFormat topics pmsg.topic = .autofmt ∧ guessedFormat pmsg.payload pmsg.behind = some format) := by
  unfold messageFormat at found
  cases told : subscribedFormat topics pmsg.topic with
  | autofmt =>
      rw [told] at found
      exact .inr ⟨rfl, found⟩
  | jsonfmt =>
      rw [told] at found
      exact .inl (Option.some.inj found)
  | xmlfmt =>
      rw [told] at found
      exact .inl (Option.some.inj found)
  | strfmt =>
      rw [told] at found
      exact .inl (Option.some.inj found)
  | binfmt =>
      rw [told] at found
      exact .inl (Option.some.inj found)

variable (readers : Readers) (reliable : Reliable measurementOf readers) (clock : Clock) (rawtime : UInt64)
include reliable

theorem text_needs_format (format chosen : MqttMsgFormat) (pev ev own read : VscpEvent) (before depth : Int)
    (text behind : Text) (unix : UnixEvent pev)
    (written : payloadText measurementOf jsonMeasurementAdd format pev = some text) (fits : text.length ≤ payloadSize)
    (decoded : decodePayload readers clock rawtime ev before chosen text behind = some (depth, some own))
    (copied : copyEvent own = some read) (arrived : Arrived pev read) : chosen = format := by
  have shown := shown_payload measurementOf jsonMeasurementAdd readers reliable format pev unix text written
  have buffer := shown_copied text shown
  have long := payload_long measurementOf jsonMeasurementAdd format pev unix text written
  obtain ⟨noJson, noXml⟩ := payload_marks measurementOf jsonMeasurementAdd format pev unix text written
  obtain ⟨head, _, size⟩ := copied_fields own read copied
  apply Decidable.byContradiction
  intro other
  cases chosen with
  | jsonfmt =>
      have empty := not_json_empty measurementOf readers reliable clock rawtime ev own before depth text behind
        (noJson (Ne.symm other)) decoded
      exact sent_head pev unix (arrived.head.symm.trans (head.trans empty))
  | xmlfmt =>
      exact not_xml_refused measurementOf readers reliable clock rawtime ev own before depth text behind
        (by rw [buffer]; exact noXml (Ne.symm other)) decoded
  | strfmt =>
      have some' : text ≠ [] := by
        rintro rfl
        exact absurd long (by decide)
      obtain ⟨count, commas, few, counted⟩ := string_commas readers clock rawtime ev own before depth text behind some'
        decoded
      have bound : count < 2 ^ 16 := Nat.lt_of_le_of_lt few (by decide)
      have same : UInt16.ofNat count = pev.sizeData := counted.symm.trans (size.symm.trans arrived.sizeData)
      apply payload_commas measurementOf jsonMeasurementAdd readers reliable format pev unix text (Ne.symm other) written
        count commas
      rw [← same, UInt16.toNat_ofNat_of_lt' bound]
  | binfmt =>
      simp only [decodePayload, text_no_frame clock text behind shown long fits] at decoded
      cases decoded
  | autofmt => cases decoded

theorem xml_needs_depth (pev ev own read : VscpEvent) (before depth : Int) (behind : Text) (unix : UnixEvent pev)
    (decoded : decodePayload readers clock rawtime ev before .xmlfmt (convertEventToXml pev) behind =
      some (depth, some own))
    (copied : copyEvent own = some read) (arrived : Arrived pev read) :
    before = 0 ∧ 4102444800000000 < pev.timestampNs.toNat := by
  have present := unix_present pev unix
  obtain ⟨head, ns, _⟩ := copied_fields own read copied
  obtain ⟨value, started⟩ : ∃ value, startEventXmlParser clock rawtime before ev eventName (eventXmlFields pev) =
      some value := by
    unfold startEventXmlParser
    split
    · exact ⟨_, rfl⟩
    · exact ⟨_, rfl⟩
  have whole := xml_written_decodes readers.sax reliable.reports (startEventXmlParser clock rawtime) before ev value pev
    unix.version present unix.size started
  simp only [decodePayload, convertXmlToEvent, whole, Option.map_some, if_true] at decoded
  obtain rfl : value = own := by
    cases decoded
    rfl
  unfold startEventXmlParser at started
  split at started
  · rename_i outermost
    obtain rfl := Option.some.inj started
    refine ⟨outermost.2, Nat.lt_of_not_le fun early => ?_⟩
    exact early_timestamp_changed clock rawtime pev unix.version unix.dated early (ns.symm.trans arrived.timestampNs)
  · obtain rfl := Option.some.inj started
    exact absurd (arrived.head.symm.trans head) (sent_head pev unix)

theorem frame_fits_compatible (client : Client) (topic : Text) (pev : VscpEvent) (unix : UnixEvent pev)
    (fits : FitsTogether measurementOf jsonMeasurementAdd readers clock rawtime client topic .binfmt pev) :
    Compatible measurementOf jsonMeasurementAdd client topic .binfmt pev ∨
      subscribedFormat client.subscribeTopicList topic = .strfmt := by
  obtain ⟨payload, sent, received⟩ := fits
  obtain ⟨_, after, read, handled, queue, arrived⟩ := received emptyEvent []
  obtain ⟨silent, room, chosen, depth, own, found, decoded, copied⟩ := queued_decoded readers clock rawtime client after
    emptyEvent read _ handled queue
  have subscribed := found_format _ _ _ found
  obtain rfl : payload = sentFrame pev := by
    have published : Sent.published payload = .published (sentFrame pev) :=
      sent.symm.trans (frame_is_sent pev (unix_present pev unix) unix.size)
    cases published
    rfl
  have first : (sentFrame pev)[0]? = some '\x00' := rfl
  cases chosen with
  | jsonfmt =>
      have empty := not_json_empty measurementOf readers reliable clock rawtime emptyEvent own _ depth _ []
        (.inr (.inl first)) decoded
      have head := (copied_fields own read copied).1
      exact absurd (arrived.head.symm.trans (head.trans empty)) (sent_head pev unix)
  | xmlfmt =>
      have zeros : (parserBuffer (sentFrame pev))[0]? = some '\x00' := by
        simp [parserBuffer, sentFrame, List.replicate_succ]
      exact (not_xml_refused measurementOf readers reliable clock rawtime emptyEvent own _ depth _ []
        (.inr (.inl zeros)) decoded).elim
  | strfmt =>
      rcases subscribed with told | ⟨_, guessed⟩
      · exact .inr told
      · rw [guessedFormat, if_pos first] at guessed
        cases guessed
  | binfmt =>
      refine .inl ⟨fun text => absurd rfl text, ?_, fun xml => MqttMsgFormat.noConfusion xml, silent, room⟩
      rcases subscribed with told | ⟨unknown, _⟩
      · exact .inl told
      · exact .inr ⟨unknown, by decide⟩
  | autofmt => cases decoded

theorem text_fits_compatible (client : Client) (topic : Text) (format : MqttMsgFormat) (pev : VscpEvent)
    (unix : UnixEvent pev) (other : format ≠ .binfmt)
    (fits : FitsTogether measurementOf jsonMeasurementAdd readers clock rawtime client topic format pev) :
    Compatible measurementOf jsonMeasurementAdd client topic format pev := by
  obtain ⟨payload, sent, received⟩ := fits
  obtain ⟨within, after, read, handled, queue, arrived⟩ := received emptyEvent []
  obtain ⟨silent, room, chosen, depth, own, found, decoded, copied⟩ := queued_decoded readers clock rawtime client after
    emptyEvent read _ handled queue
  obtain ⟨text, written, short, buffer⟩ := published_text measurementOf jsonMeasurementAdd format pev payload other sent
  have shown := shown_payload measurementOf jsonMeasurementAdd readers reliable format pev unix text written
  rw [shown_copied text shown] at buffer
  subst buffer
  obtain rfl : chosen = format := text_needs_format measurementOf jsonMeasurementAdd readers reliable clock rawtime format
    chosen pev emptyEvent own read _ depth payload [] unix written short decoded copied arrived
  refine ⟨fun _ => ⟨payload, written, short⟩, ?_, ?_, silent, room⟩
  · rcases found_format _ _ _ found with told | ⟨unknown, _⟩
    · exact .inl told
    · refine .inr ⟨unknown, ?_⟩
      rintro rfl
      obtain rfl := Option.some.inj written
      exact absurd within (Nat.not_le.mpr (string_read_past pev unix _ topic [] unknown))
  · rintro rfl
    obtain rfl := Option.some.inj written
    exact xml_needs_depth measurementOf readers reliable clock rawtime pev emptyEvent own read _ depth [] unix decoded
      copied arrived

end

def objectReaders : Readers :=
  ⟨fun text => if text[0]? = some '{' then plainParse text else .error .parseError, fun _ => 0, plainSax⟩

def noMeasurement : MeasurementOf := fun _ => some none

theorem object_readers_reliable : Reliable noMeasurement objectReaders := by
  constructor
  · intro text value first read
    simp only [objectReaders, if_pos first]
    exact plain_parse_reads text value read
  · intro pev block measured
    cases measured
  · intro text value foreign parsed
    have other : text[0]? ≠ some '{' := by
      rcases foreign with tag | zero | ⟨digits, rest, all, rfl⟩
      · simp [tag]
      · simp [zero]
      · cases digits with
        | nil => simp
        | cons digit digits =>
            have own := all digit List.mem_cons_self
            rintro same
            cases same
            cases own
    simp only [objectReaders, if_neg other] at parsed
    cases parsed
  · exact plain_sax_reads
  · intro text foreign
    have refused : XmlText.read text = none := by
      obtain ⟨first, rest, rfl, solid, tag⟩ : ∃ first rest, text = first :: rest ∧ XmlText.isBlank first = false ∧
          first ≠ '<' := by
        cases text with
        | nil => rcases foreign with brace | zero | ⟨_, digit, _⟩ <;> simp at *
        | cons first rest =>
            refine ⟨first, rest, rfl, ?_⟩
            rcases foreign with brace | zero | ⟨letter, own, digit⟩
            · obtain rfl : first = '{' := Option.some.inj brace
              exact ⟨rfl, by decide⟩
            · obtain rfl : first = '\x00' := Option.some.inj zero
              exact ⟨rfl, by decide⟩
            · obtain rfl : first = letter := Option.some.inj own
              have different : ∀ other, isDigitOf 10 other = false → first ≠ other := by
                rintro other foreign rfl
                exact Bool.noConfusion (digit.symm.trans foreign)
              exact ⟨by simp [XmlText.isBlank, different ' ' rfl, different '\t' rfl, different '\n' rfl,
                different '\r' rfl], different '<' rfl⟩
      simp [XmlText.read, XmlText.step, solid, tag]
    simp only [objectReaders, plainSax, refused]
  · intro pev block measured
    cases measured

def listensTo (topics : List SubscribeTopic) : Client := ⟨topics, false, false, 0, [], 0⟩

theorem part_within (separator part : Text) (parts : List Text) (inside : part ∈ parts) :
    part.length ≤ (List.intercalate separator parts).length := by
  have total := joined_measure List.length (fun _ _ => List.length_append) separator parts (List.ne_nil_of_mem inside)
  have own := List.le_sum_of_mem (List.mem_map_of_mem (f := List.length) inside)
  have count := Nat.mul_le_mul_right separator.length (List.length_pos_of_mem inside)
  omega

theorem data_within (pev : VscpEvent) : (dataText pev true).length ≤ (convertEventToJson pev).length := by
  have member : JsonText.memberText (['d', 'a', 't', 'a'], '[' :: dataText pev true ++ [']']) ∈
      (eventMembers pev).map JsonText.memberText := List.mem_map_of_mem (List.mem_of_getElem? (i := 7) rfl)
  have whole := part_within [',', '\n'] _ _ member
  simp only [JsonText.memberText, List.length_append, List.length_cons] at whole
  simp only [convertEventToJson, JsonText.objectText, List.length_append]
  omega

theorem long_text_overruns (pev : VscpEvent) (long : payloadSize < (convertEventToJson pev).length) :
    sendPayload noMeasurement true .jsonfmt pev = .overran := if_pos long

def largeEvent : VscpEvent := { exampleEvent with sizeData := 512, pdata := some (List.replicate 512 0xff) }

theorem large_event_long : payloadSize < (convertEventToJson largeEvent).length := by
  have joined := joined_long ',' (largeEvent.dataBytes.map (dataLetters true)) 3
    (by
      intro part member
      obtain ⟨byte, inside, rfl⟩ := List.mem_map.mp member
      obtain ⟨i, index, rfl⟩ := List.mem_map.mp inside
      have small : i < 512 := List.mem_range.mp index
      have full : (List.replicate 512 (0xff : UInt8)).getD i 0 = 0xff := by
        rw [List.getD_eq_getElem _ _ (by rwa [List.length_replicate]), List.getElem_replicate]
      change 3 ≤ (dataLetters true ((List.replicate 512 (0xff : UInt8)).getD i 0)).length
      rw [full]
      decide)
  have within := data_within largeEvent
  rw [List.length_map, data_bytes_length] at joined
  have present : largeEvent.sizeData ≠ 0 → largeEvent.pdata ≠ none := fun _ => Option.some_ne_none _
  rw [data_text_joined largeEvent present] at within
  have size : largeEvent.sizeData.toNat = 512 := rfl
  unfold payloadSize
  omega

end Vscp.Mqtt
