import Vscp.GuidWriters
import Vscp.Lib.LastWrite
import Vscp.MqttPublish

set_option autoImplicit false

namespace Vscp.Mqtt

open NumberText LastWrite
open GuidWriters (Cguid.getAsString Cguid.getAt Cguid.getMSB Cguid.getNicknameID)
open RemoteTcp (Text)

structure PublishTopic where
  topic : Text
  format : MqttMsgFormat
  qos : Int
  retain : Bool
  active : Bool

structure Publisher where
  publishTopicList : List PublishTopic
  escapesPubTopics : Bool
  jsonMeasurementAdd : Bool
  srvguid : Guid
  ifguid : Guid
  clientid : Text
  username : Text
  host : Text
  mapClass : Option (List (UInt16 × Text))
  mapType : Option (List (UInt32 × Text))
  mapUserEscapes : List (Text × Text)

-- mustache::render: it asks the data for the names that stand in the template.
abbrev Render := Text → (Text → Option Text) → Text

-- What the measurement functions say of an event; the text is that of std::to_string.
inductive Reading where
  | notMeasurement
  | failed
  | measured (block : Measurement) (valueText : Text)

def Reading.block : Reading → Option Measurement
  | .measured block _ => some block
  | _ => none

def indexed (name : Text) (i : Nat) : Text := name ++ '[' :: decimal i ++ [']']

def byteEntries (name : Text) (i : Nat) (byte : UInt8) : List (Text × Text) :=
  [(indexed name i, decimal byte.toNat), (indexed ('x' :: name) i, upperHex 2 byte.toNat)]

def guidName : Text := ['g', 'u', 'i', 'd']
def srvguidName : Text := ['s', 'r', 'v', 'g', 'u', 'i', 'd']
def ifguidName : Text := ['i', 'f', 'g', 'u', 'i', 'd']
def dataName : Text := ['d', 'a', 't', 'a']

-- getMSB gives the first byte, too.
def guidEntries (name : Text) (guid : Guid) : List (Text × Text) :=
  [(name, Cguid.getAsString guid),
    (name ++ ['.', 'm', 's', 'b'], decimal (Cguid.getAt guid 0).toNat),
    (name ++ ['.', 'l', 's', 'b'], decimal (Cguid.getMSB guid).toNat),
    ('x' :: name ++ ['.', 'm', 's', 'b'], upperHex 2 (Cguid.getAt guid 0).toNat),
    ('x' :: name ++ ['.', 'l', 's', 'b'], upperHex 2 (Cguid.getMSB guid).toNat)]

def positionEntries (evguid srvguid ifguid : Guid) : List (Text × Text) :=
  (List.range 15).flatMap fun i =>
    byteEntries guidName i (Cguid.getAt evguid i) ++ byteEntries srvguidName i (Cguid.getAt srvguid i) ++
      byteEntries ifguidName i (Cguid.getAt ifguid i)

def sizeEntries (pev : VscpEvent) : List (Text × Text) :=
  [(['s', 'i', 'z', 'e', 'd', 'a', 't', 'a'], decimal pev.sizeData.toNat),
    (['x', 's', 'i', 'z', 'e', 'd', 'a', 't', 'a'], upperHex 4 pev.sizeData.toNat)]

def numberEntries (pev : VscpEvent) : List (Text × Text) :=
  [(['n', 'i', 'c', 'k', 'n', 'a', 'm', 'e'], decimal (Cguid.getNicknameID pev.guid).toNat),
    (['c', 'l', 'a', 's', 's'], decimal pev.vscpClass.toNat),
    (['t', 'y', 'p', 'e'], decimal pev.vscpType.toNat)]

def hexEntries (pev : VscpEvent) : List (Text × Text) :=
  [(['x', 'c', 'l', 'a', 's', 's'], lowerHex 2 pev.vscpClass.toNat),
    (['x', 't', 'y', 'p', 'e'], lowerHex 2 pev.vscpType.toNat)]

def tokenTypeKey (pev : VscpEvent) : UInt32 := (pev.vscpClass.toUInt32 <<< 16) + pev.vscpType.toUInt32

def tokenEntries (publisher : Publisher) (pev : VscpEvent) : List (Text × Text) :=
  (publisher.mapClass.map fun tokens =>
      (['c', 'l', 'a', 's', 's', '-', 't', 'o', 'k', 'e', 'n'], (tokens.lookup pev.vscpClass).getD [])).toList ++
    (publisher.mapType.map fun tokens =>
      (['t', 'y', 'p', 'e', '-', 't', 'o', 'k', 'e', 'n'], (tokens.lookup (tokenTypeKey pev)).getD [])).toList

def headEntries (pev : VscpEvent) : List (Text × Text) :=
  [(['h', 'e', 'a', 'd'], decimal pev.head.toNat),
    (['x', 'h', 'e', 'a', 'd'], upperHex 4 pev.head.toNat),
    (['o', 'b', 'i', 'd'], decimal pev.obid.toNat ++ ['l']),
    (['x', 'o', 'b', 'i', 'd'], upperHex 8 pev.obid.toNat),
    (['t', 'i', 'm', 'e', 's', 't', 'a', 'm', 'p'], decimal pev.timestamp.toNat ++ ['l']),
    (['x', 't', 'i', 'm', 'e', 's', 't', 'a', 'm', 'p'], upperHex 8 pev.timestamp.toNat)]

def calendarEntries (front : Text) (pev : VscpEvent) : List (Text × Text) :=
  [(front ++ ['d', 'a', 't', 'e', 't', 'i', 'm', 'e'], getDateStringFromEvent pev),
    (front ++ ['y', 'e', 'a', 'r'], decimal pev.year.toNat),
    (front ++ ['m', 'o', 'n', 't', 'h'], decimal pev.month.toNat),
    (front ++ ['d', 'a', 'y'], decimal pev.day.toNat),
    (front ++ ['h', 'o', 'u', 'r'], decimal pev.hour.toNat),
    (front ++ ['m', 'i', 'n', 'u', 't', 'e'], decimal pev.minute.toNat),
    (front ++ ['s', 'e', 'c', 'o', 'n', 'd'], decimal pev.second.toNat)]

def clientEntries (publisher : Publisher) : List (Text × Text) :=
  [(['c', 'l', 'i', 'e', 'n', 't', 'i', 'd'], publisher.clientid),
    (['u', 's', 'e', 'r'], publisher.username),
    (['h', 'o', 's', 't'], publisher.host)]

def measurementNames : List Text :=
  ['i', 's', '-', 'm', 'e', 'a', 's', 'u', 'r', 'e', 'm', 'e', 'n', 't'] ::
    [['v', 'a', 'l', 'u', 'e'], ['u', 'n', 'i', 't'], ['s', 'e', 'n', 's', 'o', 'r', 'i', 'n', 'd', 'e', 'x'],
      ['z', 'o', 'n', 'e'], ['s', 'u', 'b', 'z', 'o', 'n', 'e']].map
        (['m', 'e', 'a', 's', 'u', 'r', 'e', 'm', 'e', 'n', 't', '-'] ++ ·)

-- Only a JSON payload that may have its measurement added tells them apart.
def measurementEntries (publisher : Publisher) (format : MqttMsgFormat) (reading : Reading) : List (Text × Text) :=
  let added := if format = .jsonfmt ∧ publisher.jsonMeasurementAdd then reading else .notMeasurement
  let isMeasurement : Text :=
    match added with
    | .notMeasurement => ['f', 'a', 'l', 's', 'e']
    | _ => ['t', 'r', 'u', 'e']
  let value : Text :=
    match added with
    | .measured _ valueText => valueText
    | _ => ['0', '.', '0', '0', '0', '0', '0', '0']
  let number (field : Measurement → Int) : Text := numberText ((added.block.map field).getD 0)
  measurementNames.zip [isMeasurement, value, number Measurement.unit, number Measurement.sensorindex,
    number Measurement.zone, number Measurement.subzone]

def formatText : MqttMsgFormat → Text
  | .jsonfmt => ['j', 's', 'o', 'n']
  | .xmlfmt => ['x', 'm', 'l']
  | .strfmt => ['s', 't', 'r', 'i', 'n', 'g']
  | .binfmt => ['b', 'i', 'n', 'a', 'r', 'y']
  | .autofmt => ['a', 'u', 't', 'o']

def formatEntry (format : MqttMsgFormat) : Text × Text :=
  (['f', 'm', 't', 'p', 'u', 'b', 'l', 'i', 's', 'h'], formatText format)

def leadingEntries (publisher : Publisher) (pev : VscpEvent) : List (Text × Text) :=
  guidEntries guidName pev.guid ++ guidEntries srvguidName publisher.srvguid ++ guidEntries ifguidName publisher.ifguid ++
    positionEntries pev.guid publisher.srvguid publisher.ifguid

def trailingEntries (publisher : Publisher) (pev : VscpEvent) : List (Text × Text) :=
  tokenEntries publisher pev ++ headEntries pev ++ calendarEntries [] pev ++
    calendarEntries ['l', 'o', 'c', 'a', 'l', '-'] pev ++ clientEntries publisher

def dataEntries (pev : VscpEvent) : List (Text × Text) :=
  if pev.pdata ≠ none ∧ pev.sizeData ≠ 0 then
    (List.range pev.sizeData.toNat).flatMap fun i => byteEntries dataName i (pev.dataBytes.getD i 0)
  else []

-- Two loops where the other send has one.
def dataEntriesEx (pex : VscpEventEx) : List (Text × Text) :=
  (List.range pex.sizeData.toNat).map (fun i => (indexed dataName i, decimal (pex.fields.dataBytes.getD i 0).toNat)) ++
    (List.range pex.sizeData.toNat).map fun i =>
      (indexed ('x' :: dataName) i, upperHex 2 (pex.fields.dataBytes.getD i 0).toNat)

def topicEntries (publisher : Publisher) (format : MqttMsgFormat) (reading : Reading) (pev : VscpEvent) :
    List (Text × Text) :=
  leadingEntries publisher pev ++ sizeEntries pev ++ dataEntries pev ++ numberEntries pev ++ hexEntries pev ++
    trailingEntries publisher pev ++ measurementEntries publisher format reading ++ [formatEntry format]

def topicEntriesEx (publisher : Publisher) (format : MqttMsgFormat) (pex : VscpEventEx) : List (Text × Text) :=
  leadingEntries publisher pex.fields ++ sizeEntries pex.fields ++ dataEntriesEx pex ++
    (List.range 15).map (fun i => (indexed ifguidName i, decimal (Cguid.getAt publisher.ifguid i).toNat)) ++
    numberEntries pex.fields ++
    (List.range 15).map (fun i => (indexed ('x' :: ifguidName) i, upperHex 2 (Cguid.getAt publisher.ifguid i).toNat)) ++
    hexEntries pex.fields ++ trailingEntries publisher pex.fields ++ [formatEntry format]

def topicData (publisher : Publisher) (entries : List (Text × Text)) : Text → Option Text :=
  writeAll (writeAll (fun _ => none) entries) publisher.mapUserEscapes

section

variable (render : Render) (publisher : Publisher)

def strTopic (reading : Reading) (pev : VscpEvent) (ppublish : PublishTopic) : Text :=
  if publisher.escapesPubTopics then
    render ppublish.topic (topicData publisher (topicEntries publisher ppublish.format reading pev))
  else ppublish.topic

def strTopicEx (pex : VscpEventEx) (ppublish : PublishTopic) : Text :=
  if publisher.escapesPubTopics then
    render ppublish.topic (topicData publisher (topicEntriesEx publisher ppublish.format pex))
  else ppublish.topic

end

-- Two events that say the same; the year and the month of one with a Unix timestamp say nothing.
structure Alike (one other : VscpEvent) : Prop where
  head : one.head = other.head
  obid : one.obid = other.obid
  timestampNs : one.timestampNs = other.timestampNs
  vscpClass : one.vscpClass = other.vscpClass
  vscpType : one.vscpType = other.vscpType
  guid : one.guid = other.guid
  sizeData : one.sizeData = other.sizeData
  data : one.dataBytes = other.dataBytes
  present : one.sizeData ≠ 0 → one.pdata ≠ none
  presentOther : other.sizeData ≠ 0 → other.pdata ≠ none
  dated : frameVersion one.head ≠ frameVersionUnixNs → one.year = other.year ∧ one.month = other.month

def marked (pev : VscpEvent) : VscpEvent :=
  if frameVersion pev.head = frameVersionUnixNs then { pev with year := 0xffff, month := 0xff } else pev

theorem overlay_read (source : Bytes) (size i : Nat) (old : Vector UInt8 512) (inside : i < size) (room : i < 512) :
    (overlay source size old).toList.getD i 0 = source.getD i 0 := by
  have length : i < (overlay source size old).toList.length := by
    rw [Vector.length_toList]
    exact room
  rw [List.getD_eq_getElem _ _ length]
  simp only [overlay, Vector.getElem_toList, Vector.getElem_ofFn, if_pos inside]

theorem converted_alike (old ex : VscpEventEx) (pev : VscpEvent) (converted : convertEventToEventEx old pev = some ex) :
    Alike pev ex.fields ∧ (marked pev).year = ex.year ∧ (marked pev).month = ex.month ∧
      ex.sizeData.toNat ≤ maxData := by
  unfold convertEventToEventEx at converted
  by_cases refused : pev.sizeData.toNat > maxData ∨ (pev.sizeData ≠ 0 ∧ pev.pdata = none)
  · rw [if_pos refused] at converted
    cases converted
  · rw [if_neg refused] at converted
    obtain ⟨fits, present⟩ := not_or.mp refused
    have room : pev.sizeData.toNat ≤ 512 := Nat.not_lt.mp fits
    obtain rfl := Option.some.inj converted
    refine ⟨⟨rfl, rfl, rfl, rfl, rfl, rfl, rfl, ?_, fun size missing => present ⟨size, missing⟩,
      fun _ => Option.some_ne_none _, ?_⟩, ?_, ?_, ?_⟩
    · apply List.map_congr_left
      intro i inside
      have below : i < pev.sizeData.toNat := List.mem_range.mp inside
      exact (overlay_read _ _ i old.data below (by omega)).symm
    · intro version
      exact ⟨(if_neg version).symm, (if_neg version).symm⟩
    · by_cases version : frameVersion pev.head = frameVersionUnixNs
      · rw [marked, if_pos version]
        exact (if_pos version).symm
      · rw [marked, if_neg version]
        exact (if_neg version).symm
    · by_cases version : frameVersion pev.head = frameVersionUnixNs
      · rw [marked, if_pos version]
        exact (if_pos version).symm
      · rw [marked, if_neg version]
        exact (if_neg version).symm
    · exact Nat.not_lt.mp fits

variable (pex : VscpEventEx)

theorem back_alike (fits : pex.sizeData.toNat ≤ maxData) :
    ∃ pev, convertEventExToEvent pex = some pev ∧ Alike pex.fields pev := by
  have room : pex.sizeData.toNat ≤ 512 := fits
  refine ⟨_, if_neg (Nat.not_lt.mpr fits), rfl, rfl, rfl, rfl, rfl, rfl, rfl, ?_, fun _ => Option.some_ne_none _, ?_,
    fun version => ⟨(if_neg version).symm, (if_neg version).symm⟩⟩
  · apply List.map_congr_left
    intro i inside
    have below : i < pex.sizeData.toNat := List.mem_range.mp inside
    have some' : pex.sizeData ≠ 0 := by
      intro empty
      rw [empty] at below
      exact absurd below (Nat.not_lt_zero i)
    have length : i < pex.data.toList.length := by
      rw [Vector.length_toList]
      omega
    show pex.data.toList.getD i 0 =
      ((if pex.sizeData = 0 then none else some (pex.data.toList.take pex.sizeData.toNat)).getD []).getD i 0
    rw [if_neg some', Option.getD_some, List.getD_eq_getElem _ _ length,
      List.getD_eq_getElem _ _ (by rw [List.length_take]; omega), List.getElem_take]
  · intro some' missing
    rw [if_neg some'] at missing
    cases missing

theorem alike_trans (first second third : VscpEvent) (left : Alike first second) (right : Alike second third) :
    Alike first third := by
  refine ⟨left.head.trans right.head, left.obid.trans right.obid, left.timestampNs.trans right.timestampNs,
    left.vscpClass.trans right.vscpClass, left.vscpType.trans right.vscpType, left.guid.trans right.guid,
    left.sizeData.trans right.sizeData, left.data.trans right.data, left.present, right.presentOther, ?_⟩
  intro version
  have also : frameVersion second.head ≠ frameVersionUnixNs := by
    rw [← left.head]
    exact version
  exact ⟨(left.dated version).1.trans (right.dated also).1, (left.dated version).2.trans (right.dated also).2⟩

variable (one other : VscpEvent)

theorem alike_symm (alike : Alike one other) : Alike other one := by
  refine ⟨alike.head.symm, alike.obid.symm, alike.timestampNs.symm, alike.vscpClass.symm, alike.vscpType.symm,
    alike.guid.symm, alike.sizeData.symm, alike.data.symm, alike.presentOther, alike.present, ?_⟩
  intro version
  rw [← alike.head] at version
  exact ⟨(alike.dated version).1.symm, (alike.dated version).2.symm⟩

variable (pev : VscpEvent)

theorem marked_alike (present : pev.sizeData ≠ 0 → pev.pdata ≠ none) : Alike pev (marked pev) := by
  unfold marked
  by_cases version : frameVersion pev.head = frameVersionUnixNs
  · rw [if_pos version]
    exact ⟨rfl, rfl, rfl, rfl, rfl, rfl, rfl, rfl, present, present, fun calendar => absurd version calendar⟩
  · rw [if_neg version]
    exact ⟨rfl, rfl, rfl, rfl, rfl, rfl, rfl, rfl, present, present, fun _ => ⟨rfl, rfl⟩⟩

theorem alike_time (alike : Alike one other) :
    one.day = other.day ∧ one.hour = other.hour ∧ one.minute = other.minute ∧ one.second = other.second ∧
      one.timestamp = other.timestamp := by
  simp only [VscpEvent.day, VscpEvent.hour, VscpEvent.minute, VscpEvent.second, VscpEvent.timestamp, alike.timestampNs,
    and_self]

theorem alike_date (alike : Alike one other) :
    getDateStringFromEvent one = getDateStringFromEvent other := by
  obtain ⟨day, hour, minute, second, _⟩ := alike_time one other alike
  unfold getDateStringFromEvent
  by_cases version : frameVersion one.head = frameVersionUnixNs
  · have also : frameVersion other.head = frameVersionUnixNs := by rw [← alike.head, version]
    rw [if_pos version, if_pos also, alike.timestampNs]
  · have also : frameVersion other.head ≠ frameVersionUnixNs := by
      rw [← alike.head]
      exact version
    obtain ⟨year, month⟩ := alike.dated version
    rw [if_neg version, if_neg also, year, month, day, hour, minute, second]

def fixedEntries (publisher : Publisher) (format : MqttMsgFormat) (pev : VscpEvent) : List (Text × Text) :=
  leadingEntries publisher pev ++ sizeEntries pev ++ numberEntries pev ++ hexEntries pev ++ headEntries pev ++
    calendarEntries [] pev ++ calendarEntries ['l', 'o', 'c', 'a', 'l', '-'] pev ++ clientEntries publisher ++
    [formatEntry format]

def blankGuid : Guid := Vector.replicate 16 0

def blankPublisher : Publisher := ⟨[], true, true, blankGuid, blankGuid, [], [], [], none, none, []⟩

def fixedNames : List Text := (fixedEntries blankPublisher .jsonfmt exampleEvent).map Prod.fst

def tokenNames : List Text :=
  [['c', 'l', 'a', 's', 's', '-', 't', 'o', 'k', 'e', 'n'], ['t', 'y', 'p', 'e', '-', 't', 'o', 'k', 'e', 'n']]

theorem fixed_names (publisher : Publisher) (format : MqttMsgFormat) (pev : VscpEvent) :
    (fixedEntries publisher format pev).map Prod.fst = fixedNames := by
  simp only [fixedNames, fixedEntries, leadingEntries, guidEntries, positionEntries, byteEntries, sizeEntries,
    numberEntries, hexEntries, headEntries, calendarEntries, clientEntries, formatEntry, List.map_append,
    List.map_flatMap, List.map_cons, List.map_nil]

theorem names_different : (fixedNames ++ tokenNames).Nodup := by decide +kernel

theorem names_no_data : ∀ name ∈ fixedNames ++ tokenNames,
    ¬ dataName ++ ['['] <+: name ∧ ¬ 'x' :: dataName ++ ['['] <+: name := by decide +kernel

theorem token_names (publisher : Publisher) (pev : VscpEvent) :
    ((tokenEntries publisher pev).map Prod.fst).Sublist tokenNames := by
  unfold tokenEntries
  cases publisher.mapClass with
  | none =>
      cases publisher.mapType with
      | none => exact List.nil_sublist _
      | some types => exact List.sublist_cons_self _ _
  | some classes =>
      cases publisher.mapType with
      | none => exact List.cons_sublist_cons.mpr (List.nil_sublist _)
      | some types => exact List.Sublist.refl _

theorem fixed_single (publisher : Publisher) (format : MqttMsgFormat) (pev : VscpEvent) :
    OneValue (fixedEntries publisher format pev ++ tokenEntries publisher pev) := by
  apply one_value_of_nodup
  rw [List.map_append, fixed_names]
  exact names_different.sublist ((List.Sublist.refl fixedNames).append (token_names publisher pev))

variable (name : Text)

theorem indexed_mark (i : Nat) : name ++ ['['] <+: indexed name i :=
  ⟨decimal i ++ [']'], by simp only [indexed, List.append_assoc, List.cons_append, List.nil_append]⟩

theorem indexed_injective (i j : Nat) (same : indexed name i = indexed name j) : i = j := by
  have behind := List.append_cancel_left ((List.append_assoc _ _ _).symm.trans (same.trans (List.append_assoc _ _ _)))
  have digits := List.append_cancel_right (List.cons.inj behind).2
  rw [← decimal_value i, digits, decimal_value]

def dataBlock (pev : VscpEvent) : List (Text × Text) :=
  (List.range pev.sizeData.toNat).flatMap fun i => byteEntries dataName i (pev.dataBytes.getD i 0)

variable (entry : Text × Text)

theorem data_block_member : entry ∈ dataBlock pev ↔
    ∃ i < pev.sizeData.toNat, entry = (indexed dataName i, decimal (pev.dataBytes.getD i 0).toNat) ∨
      entry = (indexed ('x' :: dataName) i, upperHex 2 (pev.dataBytes.getD i 0).toNat) := by
  simp only [dataBlock, byteEntries, List.mem_flatMap, List.mem_range, List.mem_cons, List.not_mem_nil, or_false]

theorem data_single : OneValue (dataBlock pev) := by
  intro name first second left right
  obtain ⟨i, _, one⟩ := (data_block_member pev _).mp left
  obtain ⟨j, _, other⟩ := (data_block_member pev _).mp right
  rcases one with one | one <;> rcases other with other | other <;>
    obtain ⟨named, rfl⟩ := Prod.mk.inj one <;> obtain ⟨same, rfl⟩ := Prod.mk.inj other
  · rw [indexed_injective dataName i j (named.symm.trans same)]
  · exact absurd (congrArg List.head? (named.symm.trans same)) (by decide : some 'd' ≠ some 'x')
  · exact absurd (congrArg List.head? (named.symm.trans same)) (by decide : some 'x' ≠ some 'd')
  · rw [indexed_injective ('x' :: dataName) i j (named.symm.trans same)]

theorem data_block_of_present (present : pev.sizeData ≠ 0 → pev.pdata ≠ none) :
    dataEntries pev = dataBlock pev := by
  by_cases some' : pev.sizeData = 0
  · rw [dataEntries, if_neg (fun both => both.2 some'), dataBlock, some']
    rfl
  · rw [dataEntries, if_pos ⟨present some', some'⟩, dataBlock]

def sharedEntries (publisher : Publisher) (format : MqttMsgFormat) (pev : VscpEvent) : List (Text × Text) :=
  leadingEntries publisher pev ++ sizeEntries pev ++ dataBlock pev ++ numberEntries pev ++ hexEntries pev ++
    trailingEntries publisher pev ++ [formatEntry format]

theorem shared_member (publisher : Publisher) (format : MqttMsgFormat) (pev : VscpEvent) (entry : Text × Text) :
    entry ∈ fixedEntries publisher format pev ++ tokenEntries publisher pev ++ dataBlock pev ↔
      entry ∈ sharedEntries publisher format pev := by
  simp only [sharedEntries, fixedEntries, trailingEntries, List.mem_append]
  tauto

theorem shared_single (publisher : Publisher) (format : MqttMsgFormat) (pev : VscpEvent) :
    OneValue (sharedEntries publisher format pev) := by
  have whole := one_value_append _ _ (fixed_single publisher format pev) (data_single pev) ?_
  · intro name first second left right
    exact whole name first second ((shared_member publisher format pev _).mpr left)
      ((shared_member publisher format pev _).mpr right)
  · intro one own other inside same
    have named : one.1 ∈ fixedNames ++ tokenNames := by
      have listed : one.1 ∈ (fixedEntries publisher format pev ++ tokenEntries publisher pev).map Prod.fst :=
        List.mem_map_of_mem own
      rw [List.map_append, fixed_names] at listed
      exact ((List.Sublist.refl fixedNames).append (token_names publisher pev)).subset listed
    obtain ⟨plain, hex⟩ := names_no_data one.1 named
    obtain ⟨i, _, rfl | rfl⟩ := (data_block_member pev other).mp inside
    · exact plain (by rw [same]; exact indexed_mark dataName i)
    · exact hex (by rw [same]; exact indexed_mark ('x' :: dataName) i)

theorem again_member (publisher : Publisher) (pev : VscpEvent) (entry : Text × Text)
    (again : entry ∈ (List.range 15).map (fun i =>
        (indexed ifguidName i, decimal (Cguid.getAt publisher.ifguid i).toNat)) ∨
      entry ∈ (List.range 15).map fun i =>
        (indexed ('x' :: ifguidName) i, upperHex 2 (Cguid.getAt publisher.ifguid i).toNat)) :
    entry ∈ leadingEntries publisher pev := by
  have positions : entry ∈ positionEntries pev.guid publisher.srvguid publisher.ifguid := by
    rcases again with plain | hex
    · obtain ⟨i, inside, rfl⟩ := List.mem_map.mp plain
      exact List.mem_flatMap.mpr ⟨i, inside, List.mem_append_right _ List.mem_cons_self⟩
    · obtain ⟨i, inside, rfl⟩ := List.mem_map.mp hex
      exact List.mem_flatMap.mpr ⟨i, inside, List.mem_append_right _ (List.mem_cons_of_mem _ List.mem_cons_self)⟩
  exact List.mem_append_right _ positions

theorem data_ex_member :
    entry ∈ dataEntriesEx pex ↔ entry ∈ dataBlock pex.fields := by
  rw [data_block_member, dataEntriesEx, List.mem_append, List.mem_map, List.mem_map, ← exists_or]
  apply exists_congr
  intro i
  rw [List.mem_range, ← and_or_left, eq_comm (b := entry), eq_comm (b := entry)]
  exact Iff.rfl

theorem topic_data_ex (publisher : Publisher) (format : MqttMsgFormat) (pex : VscpEventEx) :
    topicData publisher (topicEntriesEx publisher format pex) =
      topicData publisher (sharedEntries publisher format pex.fields) := by
  have same : writeAll (fun _ => none) (sharedEntries publisher format pex.fields) =
      writeAll (fun _ => none) (topicEntriesEx publisher format pex) := by
    apply write_all_same _ _ _ (shared_single publisher format pex.fields)
    intro entry
    have data := data_ex_member pex entry
    have again := again_member publisher pex.fields entry
    simp only [sharedEntries, topicEntriesEx, List.mem_append]
    tauto
  rw [topicData, topicData, same]

theorem measurement_names (publisher : Publisher) (format : MqttMsgFormat) (reading : Reading) :
    (measurementEntries publisher format reading).map Prod.fst = measurementNames :=
  List.map_fst_zip (Nat.le_refl 6)

theorem topic_data_event (publisher : Publisher) (format : MqttMsgFormat) (reading : Reading) (pev : VscpEvent)
    (present : pev.sizeData ≠ 0 → pev.pdata ≠ none) (name : Text) (other : name ∉ measurementNames) :
    topicData publisher (topicEntries publisher format reading pev) name =
      topicData publisher (sharedEntries publisher format pev) name := by
  apply write_all_congr
  rw [topicEntries, data_block_of_present pev present, sharedEntries, write_all_append,
    write_all_append _ _ [formatEntry format]]
  apply write_all_congr
  rw [write_all_append]
  apply write_all_outside
  intro value inside
  apply other
  rw [← measurement_names publisher format reading]
  exact List.mem_map_of_mem inside

theorem shared_same (publisher : Publisher) (format : MqttMsgFormat) (one other : VscpEvent) (alike : Alike one other)
    (year : one.year = other.year) (month : one.month = other.month) :
    sharedEntries publisher format one = sharedEntries publisher format other := by
  have date := alike_date one other alike
  obtain ⟨day, hour, minute, second, timestamp⟩ := alike_time one other alike
  simp only [sharedEntries, leadingEntries, sizeEntries, dataBlock, numberEntries, hexEntries, trailingEntries,
    tokenEntries, tokenTypeKey, headEntries, calendarEntries, date, day, hour, minute, second, timestamp, alike.head,
    alike.obid, alike.vscpClass, alike.vscpType, alike.guid, alike.sizeData, alike.data, year, month]

def Unmeasured (render : Render) (topic : Text) : Prop :=
  ∀ one other : Text → Option Text, (∀ name, name ∉ measurementNames → one name = other name) →
    render topic one = render topic other

theorem topics_same (render : Render) (publisher : Publisher) (reading : Reading) (old ex : VscpEventEx)
    (pev : VscpEvent) (ppublish : PublishTopic) (converted : convertEventToEventEx old pev = some ex)
    (unmeasured : Unmeasured render ppublish.topic) :
    strTopicEx render publisher ex ppublish = strTopic render publisher reading (marked pev) ppublish := by
  obtain ⟨alike, year, month, -⟩ := converted_alike old ex pev converted
  have also := alike_trans _ _ _ (alike_symm _ _ (marked_alike pev alike.present)) alike
  unfold strTopicEx strTopic
  by_cases escapes : publisher.escapesPubTopics = true
  · rw [if_pos escapes, if_pos escapes]
    apply unmeasured
    intro name other
    rw [topic_data_ex, topic_data_event publisher _ reading (marked pev) also.present name other,
      shared_same publisher _ (marked pev) ex.fields also year month]
  · rw [if_neg escapes, if_neg escapes]

end Vscp.Mqtt
