import Vscp.EventJson
import Vscp.EventXml

set_option autoImplicit false

namespace Vscp

open NumberText
open JsonText (Value)
open XmlText (SaxEvent elementText)
open RemoteTcp (Text)

def canalFormatCanXml : UInt8 := 0
def canalFormatCanJson : UInt8 := 1
def canalFormatVscpXml : UInt8 := 2
def canalFormatVscpJson : UInt8 := 3

def vscpErrorSuccess : Int := 0
def vscpErrorError : Int := -1

def canalName : Text := ['c', 'a', 'n', 'a', 'l']
def flagsName : Text := ['f', 'l', 'a', 'g', 's']
def idName : Text := ['i', 'd']
def obidName : Text := ['o', 'b', 'i', 'd']
def sizeDataName : Text := ['s', 'i', 'z', 'e', 'D', 'a', 't', 'a']
def dataSizeName : Text := ['d', 'a', 't', 'a', 'S', 'i', 'z', 'e']
def dataName : Text := ['d', 'a', 't', 'a']
def timestampName : Text := ['t', 'i', 'm', 'e', 's', 't', 'a', 'm', 'p']

-- The bytes are written one behind the other, with nothing between them.
def messageData (pmsg : CanalMsg) : Text := (msgData pmsg).flatMap fun byte => decimal byte.toNat

def messageXmlFields (pmsg : CanalMsg) : List (Text × Text) :=
  [(flagsName, decimal pmsg.flags.toNat),
    (idName, decimal pmsg.id.toNat),
    (obidName, decimal pmsg.obid.toNat),
    (sizeDataName, decimal pmsg.sizeData.toNat),
    (dataName, messageData pmsg),
    (timestampName, decimal pmsg.timestamp.toNat)]

def messageXml (pmsg : CanalMsg) : Text := elementText canalName (messageXmlFields pmsg)

def messageMembers (pmsg : CanalMsg) : List (Text × Text) :=
  [(flagsName, decimal pmsg.flags.toNat),
    (idName, decimal pmsg.id.toNat),
    (obidName, decimal pmsg.obid.toNat),
    (sizeDataName, decimal pmsg.sizeData.toNat),
    (dataName, '[' :: messageData pmsg ++ [']']),
    (timestampName, decimal pmsg.timestamp.toNat)]

-- The template has a comma behind its last member too.
def messageJson (pmsg : CanalMsg) : Text :=
  '{' :: (messageMembers pmsg).flatMap (fun entry => quoted entry.1 ++ [':', ' '] ++ entry.2 ++ [',', '\n']) ++ ['}']

def convertCanalToEventEx (clock : Clock) (rawtime : UInt64) (ex : VscpEventEx) (pcanalMsg : CanalMsg) (pguid : Guid) :
    Option VscpEventEx :=
  let converted := convertCanalToEvent clock rawtime emptyEvent pcanalMsg pguid
  if converted.1 then some ((convertEventToEventEx ex converted.2).getD ex) else none

def canalToFormatedEvent (clock : Clock) (rawtime : UInt64) (ex : VscpEventEx) (pmsg : CanalMsg) (nFormat : UInt8) :
    Option Text :=
  if nFormat = canalFormatCanXml then some (messageXml pmsg)
  else if nFormat = canalFormatCanJson then some (messageJson pmsg)
  else if nFormat = canalFormatVscpXml then
    (convertCanalToEventEx clock rawtime ex pmsg (Vector.replicate 16 0)).map convertEventExToXml
  else if nFormat = canalFormatVscpJson then
    (convertCanalToEventEx clock rawtime ex pmsg (Vector.replicate 16 0)).map convertEventExToJson
  else none

-- One attribute; none where the copy would not end with the eight bytes of the message.
def canalAttribute (pmsg : CanalMsg) (attr : Text × Text) : Option CanalMsg :=
  if attr.1 = flagsName then some { pmsg with flags := UInt64.ofInt (readStringValue attr.2) }
  else if attr.1 = idName then some { pmsg with id := UInt64.ofInt (readStringValue attr.2) }
  else if attr.1 = obidName then some { pmsg with obid := UInt64.ofInt (readStringValue attr.2) }
  else if attr.1 = timestampName then some { pmsg with timestamp := UInt64.ofInt (readStringValue attr.2) }
  else if attr.1 = dataSizeName then some { pmsg with sizeData := min (UInt8.ofInt (readStringValue attr.2)) 8 }
  else if attr.1 = dataName then
    if 8 < pmsg.sizeData.toNat then none
    else
      let buf := dataFromString attr.2
      some { pmsg with
        data := Vector.ofFn fun i => if i.val < pmsg.sizeData.toNat then buf.getD i.val 0 else pmsg.data.get i }
  else some pmsg

def startCanalXmlParser (depth : Int) (pmsg : CanalMsg) (name : Text) (attr : List (Text × Text)) : Option CanalMsg :=
  if name = canalName ∧ depth = 0 then attr.foldlM canalAttribute pmsg else some pmsg

-- The depths that the XML parsers keep in global variables.
structure DecoderDepths where
  canal : Int
  eventEx : Int
deriving DecidableEq

structure TextReaders where
  parse : Text → Except JsonFailure Value
  castToByte : Text → UInt8
  castToWord : Text → UInt64
  sax : Text → List SaxEvent × Bool

inductive Constructed where
  -- A read behind the decoded data, or a write behind the data of the message.
  | outside
  -- A text that does not fit in the buffer of the XML parser.
  | overran
  -- An event decoder that does not come back.
  | thrown
  | returned (code : Int) (pmsg : CanalMsg) (depths : DecoderDepths)

section

variable (readers : TextReaders)

-- get<unsigned long>; none is its type_error.
def jsonWord (value : Value) : Option UInt64 :=
  match value with
  | .numberUnsigned number => some number
  | .numberInteger number => some (UInt64.ofInt number)
  | .numberFloat digits => some (readers.castToWord digits)
  | .boolean truth => some (if truth then 1 else 0)
  | _ => none

def canalSetters : List (Text × (CanalMsg → Value → Option CanalMsg)) :=
  [(flagsName, fun pmsg value => (jsonWord readers value).map fun number => { pmsg with flags := number }),
    (obidName, fun pmsg value => (jsonWord readers value).map fun number => { pmsg with obid := number }),
    (idName, fun pmsg value => (jsonWord readers value).map fun number => { pmsg with id := number }),
    (timestampName, fun pmsg value => (jsonWord readers value).map fun number => { pmsg with timestamp := number }),
    (sizeDataName, fun pmsg value =>
      (jsonByte readers.castToByte value).map fun number => { pmsg with sizeData := number })]

-- The members in the order of the source, up to one that throws.
def setMembers : List (Text × (CanalMsg → Value → Option CanalMsg)) → Value → CanalMsg → CanalMsg × Bool
  | [], _, pmsg => (pmsg, true)
  | (name, set) :: setters, j, pmsg =>
      match j.member name with
      | none => setMembers setters j pmsg
      | some value =>
          match set pmsg value with
          | none => (pmsg, false)
          | some next => setMembers setters j next

-- Eight bytes are copied whatever the array has, and the size is that of an event that nothing was read into.
def setCanalData (j : Value) (pmsg : CanalMsg) (depths : DecoderDepths) : Constructed :=
  match j.member dataName with
  | none => .returned vscpErrorSuccess pmsg depths
  | some (.array items) =>
      match items.mapM (jsonByte readers.castToByte) with
      | none => .returned vscpErrorError pmsg depths
      | some vecData =>
          if vecData.length < 8 then .outside
          else
            .returned vscpErrorSuccess
              { pmsg with sizeData := 0, data := Vector.ofFn fun i => vecData.getD i.val 0 } depths
  | some _ => .returned vscpErrorError pmsg depths

def constructCanalMsg (clock : Clock) (rawtime : UInt64) (depths : DecoderDepths) (strObj : Text) (nFormat : UInt8) :
    Constructed :=
  if nFormat = canalFormatCanXml then
    if xmlBuffSize < strObj.length then .overran
    else
      match decodeXml readers.sax startCanalXmlParser depths.canal blankMsg strObj with
      | none => .outside
      -- A text that is no XML is answered with false, which is the code of success.
      | some (depth, _, pmsg) => .returned vscpErrorSuccess pmsg { depths with canal := depth }
  else if nFormat = canalFormatCanJson then
    match readers.parse (strObj.takeWhile (· ≠ '\x00')) with
    | .error _ => .returned vscpErrorError blankMsg depths
    | .ok j =>
        let filled := setMembers (canalSetters readers) j blankMsg
        if filled.2 then setCanalData readers j filled.1 depths else .returned vscpErrorError filled.1 depths
  else if nFormat = canalFormatVscpXml then
    if xmlBuffSize < strObj.length then .overran
    else
      match convertXmlToEventEx readers.sax clock rawtime depths.eventEx emptyEventEx strObj with
      | none => .thrown
      | some (depth, converted, _) =>
          .returned (if converted then vscpErrorSuccess else vscpErrorError) blankMsg { depths with eventEx := depth }
  else if nFormat = canalFormatVscpJson then
    let converted := (convertJsonToEventEx readers.parse readers.castToByte clock strObj).1
    .returned (if converted then vscpErrorSuccess else vscpErrorError) blankMsg depths
  else .returned vscpErrorSuccess blankMsg depths

structure SameMessage (nFormat : UInt8) (sent read : CanalMsg) : Prop where
  id : read.id = sent.id
  sizeData : read.sizeData = sent.sizeData
  data : msgData read = msgData sent
  rest : nFormat = canalFormatCanXml ∨ nFormat = canalFormatCanJson →
    read.flags = sent.flags ∧ read.obid = sent.obid ∧ read.timestamp = sent.timestamp

def ReadsBack (clock : Clock) (rawtime : UInt64) (ex : VscpEventEx) (depths : DecoderDepths) (pmsg : CanalMsg)
    (nFormat : UInt8) : Prop :=
  ∃ text read left, canalToFormatedEvent clock rawtime ex pmsg nFormat = some text ∧
    constructCanalMsg readers clock rawtime depths text nFormat = .returned vscpErrorSuccess read left ∧
    SameMessage nFormat pmsg read

def StaysInside (clock : Clock) (rawtime : UInt64) (depths : DecoderDepths) (strObj : Text) (nFormat : UInt8) : Prop :=
  constructCanalMsg readers clock rawtime depths strObj nFormat ≠ .outside ∧
    constructCanalMsg readers clock rawtime depths strObj nFormat ≠ .overran

end

structure ExtendedMessage (pmsg : CanalMsg) : Prop where
  extended : pmsg.flags &&& canalIdFlagExtended ≠ 0
  id : pmsg.id.toNat < 2 ^ 29
  size : pmsg.sizeData.toNat ≤ 8

structure FaithfulReaders (readers : TextReaders) : Prop where
  parses : ∀ text value, JsonText.read text = some value → readers.parse text = .ok value
  -- No document ends with a comma in front of its brace.
  refuses : ∀ text value, readers.parse (text ++ [',', '\n', '}']) ≠ .ok value
  reports : ∀ text events, XmlText.read text = some events → readers.sax text = (events, true)

def isNumeric (value : Value) : Bool :=
  match value with
  | .numberUnsigned _ => true
  | .numberInteger _ => true
  | .numberFloat _ => true
  | .boolean _ => true
  | _ => false

def ShortData (readers : TextReaders) (strObj : Text) : Prop :=
  ∃ j items, readers.parse (strObj.takeWhile (· ≠ '\x00')) = .ok j ∧
    (∀ name ∈ [flagsName, obidName, idName, timestampName, sizeDataName], ∀ value, j.member name = some value →
      isNumeric value = true) ∧
    j.member dataName = some (.array items) ∧ (∀ item ∈ items, isNumeric item = true) ∧ items.length < 8

def KeptMessage (depths : DecoderDepths) (pmsg : CanalMsg) (nFormat : UInt8) : Prop :=
  pmsg.sizeData = 0 ∧
    ((nFormat = canalFormatCanXml ∧ depths.canal = 0 ∧ pmsg.flags.toNat < 2 ^ 63 ∧ pmsg.obid.toNat < 2 ^ 63 ∧
        pmsg.timestamp.toNat < 2 ^ 63) ∨
      ((nFormat = canalFormatVscpXml ∨ nFormat = canalFormatVscpJson) ∧ pmsg.id = 0))

theorem attribute_inside (pmsg : CanalMsg) (attr : Text × Text) (small : pmsg.sizeData.toNat ≤ 8) :
    ∃ next, canalAttribute pmsg attr = some next ∧ next.sizeData.toNat ≤ 8 := by
  unfold canalAttribute
  split
  · exact ⟨_, rfl, small⟩
  split
  · exact ⟨_, rfl, small⟩
  split
  · exact ⟨_, rfl, small⟩
  split
  · exact ⟨_, rfl, small⟩
  split
  · have least : min (UInt8.ofInt (readStringValue attr.2)) 8 ≤ 8 := Std.min_le_right
    exact ⟨_, rfl, UInt8.le_iff_toNat_le.mp least⟩
  split
  · rw [if_neg (Nat.not_lt.mpr small)]
    exact ⟨_, rfl, small⟩
  · exact ⟨_, rfl, small⟩

theorem attributes_inside (attr : List (Text × Text)) (pmsg : CanalMsg) (small : pmsg.sizeData.toNat ≤ 8) :
    ∃ next, attr.foldlM canalAttribute pmsg = some next ∧ next.sizeData.toNat ≤ 8 := by
  induction attr generalizing pmsg with
  | nil => exact ⟨pmsg, rfl, small⟩
  | cons first attr ih =>
      obtain ⟨next, set, kept⟩ := attribute_inside pmsg first small
      rw [List.foldlM_cons, set]
      exact ih next kept

theorem elements_inside (events : List SaxEvent) (depth : Int) (pmsg : CanalMsg) (small : pmsg.sizeData.toNat ≤ 8) :
    ∃ left, events.foldlM (callback startCanalXmlParser) (depth, pmsg) = some left ∧ left.2.sizeData.toNat ≤ 8 := by
  induction events generalizing depth pmsg with
  | nil => exact ⟨_, rfl, small⟩
  | cons event events ih =>
      cases event with
      | stop name => exact ih (depth - 1) pmsg small
      | start name attr =>
          by_cases outermost : name = canalName ∧ depth = 0
          · obtain ⟨next, set, kept⟩ := attributes_inside attr pmsg small
            obtain ⟨left, run, last⟩ := ih (depth + 1) next kept
            refine ⟨left, ?_, last⟩
            rw [List.foldlM_cons, callback, startCanalXmlParser, if_pos outermost, set]
            exact run
          · obtain ⟨left, run, last⟩ := ih (depth + 1) pmsg small
            refine ⟨left, ?_, last⟩
            rw [List.foldlM_cons, callback, startCanalXmlParser, if_neg outermost]
            exact run

theorem canal_xml_inside (sax : Text → List SaxEvent × Bool) (depth : Int) (strObj : Text)
    (fits : strObj.length ≤ xmlBuffSize) : ∃ left, decodeXml sax startCanalXmlParser depth blankMsg strObj = some left := by
  obtain ⟨left, run, _⟩ := elements_inside (sax (parserBuffer strObj)).1 depth blankMsg (Nat.zero_le 8)
  unfold decodeXml
  split
  · exact ⟨_, rfl⟩
  · simp only [if_neg (Nat.not_lt.mpr fits), run]
    exact ⟨_, rfl⟩

section

variable (readers : TextReaders)

variable (value : Value)

theorem word_numeric : (∃ number, jsonWord readers value = some number) ↔ isNumeric value = true := by
  cases value <;> simp [jsonWord, isNumeric]

theorem byte_numeric :
    (∃ number, jsonByte readers.castToByte value = some number) ↔ isNumeric value = true := by
  cases value <;> simp [jsonByte, isNumeric]

variable (items : List Value)

theorem bytes_read (bytes : Bytes)
    (read : items.mapM (jsonByte readers.castToByte) = some bytes) :
    bytes.length = items.length ∧ ∀ item ∈ items, isNumeric item = true := by
  induction items generalizing bytes with
  | nil =>
      cases read
      exact ⟨rfl, List.forall_mem_nil _⟩
  | cons item items ih =>
      rw [List.mapM_cons] at read
      obtain ⟨byte, first, read⟩ := Option.bind_eq_some_iff.mp read
      obtain ⟨others, rest, whole⟩ := Option.bind_eq_some_iff.mp read
      cases whole
      obtain ⟨length, numeric⟩ := ih others rest
      exact ⟨congrArg Nat.succ length, List.forall_mem_cons.mpr ⟨(byte_numeric readers item).mp ⟨byte, first⟩, numeric⟩⟩

theorem numeric_read (numeric : ∀ item ∈ items, isNumeric item = true) :
    ∃ bytes, items.mapM (jsonByte readers.castToByte) = some bytes := by
  induction items with
  | nil => exact ⟨[], rfl⟩
  | cons item items ih =>
      obtain ⟨own, later⟩ := List.forall_mem_cons.mp numeric
      obtain ⟨byte, first⟩ := (byte_numeric readers item).mpr own
      obtain ⟨bytes, rest⟩ := ih later
      refine ⟨byte :: bytes, ?_⟩
      rw [List.mapM_cons, first, rest]
      rfl

theorem members_set (setters : List (Text × (CanalMsg → Value → Option CanalMsg))) (j : Value)
    (own : ∀ setter ∈ setters, ∀ pmsg value, (∃ next, setter.2 pmsg value = some next) ↔ isNumeric value = true)
    (pmsg : CanalMsg) :
    (setMembers setters j pmsg).2 = true ↔
      ∀ name ∈ setters.map Prod.fst, ∀ value, j.member name = some value → isNumeric value = true := by
  induction setters generalizing pmsg with
  | nil => exact ⟨fun _ => List.forall_mem_nil _, fun _ => rfl⟩
  | cons setter setters ih =>
      obtain ⟨first, later⟩ := List.forall_mem_cons.mp own
      rw [List.map_cons, List.forall_mem_cons]
      obtain ⟨name, set⟩ := setter
      cases found : j.member name with
      | none =>
          simp only [setMembers, found]
          rw [ih later pmsg]
          constructor
          · intro rest
            refine ⟨?_, rest⟩
            intro value none
            cases none
          · exact And.right
      | some value =>
          cases next : set pmsg value with
          | none =>
              simp only [setMembers, found, next]
              constructor
              · intro same
                cases same
              · rintro ⟨numeric, _⟩
                obtain ⟨_, taken⟩ := (first pmsg value).mpr (numeric value rfl)
                cases next.symm.trans taken
          | some after =>
              simp only [setMembers, found, next]
              rw [ih later after]
              constructor
              · intro rest
                refine ⟨?_, rest⟩
                rintro other same
                obtain rfl := Option.some.inj same
                exact (first pmsg value).mp ⟨after, next⟩
              · exact And.right

variable (j : Value)

theorem canal_members_set :
    (setMembers (canalSetters readers) j blankMsg).2 = true ↔
      ∀ name ∈ [flagsName, obidName, idName, timestampName, sizeDataName], ∀ value, j.member name = some value →
        isNumeric value = true := by
  apply members_set
  intro setter member pmsg value
  simp only [canalSetters, List.mem_cons, List.not_mem_nil, or_false] at member
  rcases member with rfl | rfl | rfl | rfl | rfl
  · rw [← word_numeric readers value]
    simp [Option.map_eq_some_iff]
  · rw [← word_numeric readers value]
    simp [Option.map_eq_some_iff]
  · rw [← word_numeric readers value]
    simp [Option.map_eq_some_iff]
  · rw [← word_numeric readers value]
    simp [Option.map_eq_some_iff]
  · rw [← byte_numeric readers value]
    simp [Option.map_eq_some_iff]

theorem data_outside (pmsg : CanalMsg) (depths : DecoderDepths) :
    setCanalData readers j pmsg depths = .outside ↔
      ∃ items, j.member dataName = some (.array items) ∧ (∀ item ∈ items, isNumeric item = true) ∧ items.length < 8 := by
  unfold setCanalData
  split
  · next none => simp [none]
  · next items found =>
      rw [found]
      split
      · next refused =>
          constructor
          · intro same
            cases same
          · rintro ⟨others, same, numeric, _⟩
            cases same
            obtain ⟨bytes, read⟩ := numeric_read readers items numeric
            cases refused.symm.trans read
      · next vecData read =>
          obtain ⟨length, numeric⟩ := bytes_read readers items vecData read
          split
          · next short => exact ⟨fun _ => ⟨items, rfl, numeric, by omega⟩, fun _ => rfl⟩
          · next long =>
              constructor
              · intro same
                cases same
              · rintro ⟨others, same, _, short⟩
                cases same
                omega
  · next value other found =>
      rw [found]
      constructor
      · intro same
        cases same
      · rintro ⟨items, same, _⟩
        obtain rfl := Option.some.inj same
        exact absurd rfl (other items)

theorem returned_inside (code : Int) (pmsg : CanalMsg) (depths : DecoderDepths) :
    Constructed.returned code pmsg depths ≠ .outside ∧ Constructed.returned code pmsg depths ≠ .overran := by
  constructor
  · intro same
    cases same
  · intro same
    cases same

theorem data_not_overran (pmsg : CanalMsg) (depths : DecoderDepths) :
    setCanalData readers j pmsg depths ≠ .overran := by
  unfold setCanalData
  split
  · exact (returned_inside _ _ _).2
  · split
    · exact (returned_inside _ _ _).2
    · split
      · intro same
        cases same
      · exact (returned_inside _ _ _).2
  · exact (returned_inside _ _ _).2

theorem short_data_read (strObj : Text) (j : Value) (depths : DecoderDepths)
    (parsed : readers.parse (strObj.takeWhile (· ≠ '\x00')) = .ok j) :
    ShortData readers strObj ↔
      (setMembers (canalSetters readers) j blankMsg).2 = true ∧
        setCanalData readers j (setMembers (canalSetters readers) j blankMsg).1 depths = .outside := by
  rw [canal_members_set readers j, data_outside readers j _ depths]
  constructor
  · rintro ⟨other, items, own, numeric, rest⟩
    cases parsed.symm.trans own
    exact ⟨numeric, items, rest⟩
  · rintro ⟨numeric, items, rest⟩
    exact ⟨j, items, parsed, numeric, rest⟩

section

variable (clock : Clock) (rawtime : UInt64) (depths : DecoderDepths) (strObj : Text)

theorem can_xml_inside : StaysInside readers clock rawtime depths strObj canalFormatCanXml ↔
    strObj.length ≤ xmlBuffSize := by
  unfold StaysInside constructCanalMsg
  rw [if_pos rfl]
  by_cases long : xmlBuffSize < strObj.length
  · rw [if_pos long]
    exact ⟨fun inside => absurd rfl inside.2, fun fits => absurd fits (Nat.not_le.mpr long)⟩
  · obtain ⟨left, run⟩ := canal_xml_inside readers.sax depths.canal strObj (Nat.not_lt.mp long)
    rw [if_neg long, run]
    exact ⟨fun _ => Nat.not_lt.mp long, fun _ => returned_inside _ _ _⟩

theorem vscp_xml_inside : StaysInside readers clock rawtime depths strObj canalFormatVscpXml ↔
    strObj.length ≤ xmlBuffSize := by
  unfold StaysInside constructCanalMsg
  rw [if_neg (by decide), if_neg (by decide), if_pos rfl]
  by_cases long : xmlBuffSize < strObj.length
  · rw [if_pos long]
    exact ⟨fun inside => absurd rfl inside.2, fun fits => absurd fits (Nat.not_le.mpr long)⟩
  · rw [if_neg long]
    refine ⟨fun _ => Nat.not_lt.mp long, fun _ => ?_⟩
    split
    · constructor
      · intro same
        cases same
      · intro same
        cases same
    · exact returned_inside _ _ _

theorem can_json_inside : StaysInside readers clock rawtime depths strObj canalFormatCanJson ↔
    ¬ ShortData readers strObj := by
  unfold StaysInside constructCanalMsg
  rw [if_neg (by decide), if_pos rfl]
  cases parsed : readers.parse (strObj.takeWhile (· ≠ '\x00')) with
  | error failure =>
      refine ⟨fun _ => ?_, fun _ => returned_inside _ _ _⟩
      rintro ⟨j, items, other, _⟩
      cases parsed.symm.trans other
  | ok j =>
      rw [short_data_read readers strObj j depths parsed]
      by_cases set : (setMembers (canalSetters readers) j blankMsg).2 = true
      · simp only [set, true_and]
        exact ⟨And.left, fun inside => ⟨inside, data_not_overran readers j _ depths⟩⟩
      · simp only [if_neg set]
        exact ⟨fun _ both => set both.1, fun _ => returned_inside _ _ _⟩

theorem stays_inside_iff (nFormat : UInt8) :
    StaysInside readers clock rawtime depths strObj nFormat ↔
      (nFormat = canalFormatCanXml ∨ nFormat = canalFormatVscpXml → strObj.length ≤ xmlBuffSize) ∧
        (nFormat = canalFormatCanJson → ¬ ShortData readers strObj) := by
  have different : canalFormatCanXml ≠ canalFormatCanJson ∧ canalFormatVscpXml ≠ canalFormatCanJson := by decide
  by_cases canXml : nFormat = canalFormatCanXml
  · rw [canXml, can_xml_inside]
    simp [different.1]
  by_cases vscpXml : nFormat = canalFormatVscpXml
  · rw [vscpXml, vscp_xml_inside]
    simp [different.2]
  by_cases canJson : nFormat = canalFormatCanJson
  · rw [canJson, can_json_inside]
    simp [different.1.symm, different.2.symm]
  · simp only [canXml, vscpXml, canJson, or_self, false_implies, and_self, iff_true]
    unfold StaysInside constructCanalMsg
    rw [if_neg canXml, if_neg canJson, if_neg vscpXml]
    split
    · exact returned_inside _ _ _
    · exact returned_inside _ _ _

end

end

theorem read_word_iff (word : UInt64) :
    UInt64.ofInt (readStringValue (decimal word.toNat)) = word ↔ word.toNat < 2 ^ 63 := by
  by_cases small : word.toNat < 2 ^ 63
  · rw [read_decimal_value _ small, word64_of_cast, UInt64.ofNat_toNat]
    exact iff_of_true rfl small
  · rw [read_decimal_large _ (Nat.not_lt.mp small)]
    refine iff_of_false ?_ small
    intro zero
    have none : word.toNat = 0 := by rw [← zero]; rfl
    omega

theorem message_data_digits (pmsg : CanalMsg) : ∀ letter ∈ messageData pmsg, isDigitOf 10 letter = true := by
  intro letter member
  obtain ⟨byte, _, inside⟩ := List.mem_flatMap.mp member
  exact decimal_digits byte.toNat letter inside

theorem message_xml_reads (pmsg : CanalMsg) :
    XmlText.read (messageXml pmsg) = some [.start canalName (messageXmlFields pmsg), .stop canalName] := by
  have plain : ∀ text : Text, (∀ letter ∈ text, isDigitOf 10 letter = true) →
      ∀ letter ∈ text, XmlText.isPlain letter = true := by
    intro text digits letter inside
    obtain ⟨value, read, _⟩ := digit_of_base 10 letter (digits letter inside)
    exact XmlText.digit_is_plain letter (by rw [read]; rfl)
  apply XmlText.element_reads canalName (messageXmlFields pmsg) rfl
  · intro field member
    simp only [messageXmlFields, List.mem_cons, List.not_mem_nil, or_false] at member
    rcases member with rfl | rfl | rfl | rfl | rfl | rfl
    · rfl
    · rfl
    · rfl
    · rfl
    · rfl
    · rfl
  · intro field member
    simp only [messageXmlFields, List.mem_cons, List.not_mem_nil, or_false] at member
    rcases member with rfl | rfl | rfl | rfl | rfl | rfl
    · exact plain _ (decimal_digits _)
    · exact plain _ (decimal_digits _)
    · exact plain _ (decimal_digits _)
    · exact plain _ (decimal_digits _)
    · exact plain _ (message_data_digits pmsg)
    · exact plain _ (decimal_digits _)
  · show [flagsName, idName, obidName, sizeDataName, dataName, timestampName].Nodup
    decide

theorem message_data_length (pmsg : CanalMsg) : (messageData pmsg).length ≤ 24 := by
  have each : ∀ bytes : Bytes, (bytes.flatMap fun byte => decimal byte.toNat).length ≤ 3 * bytes.length := by
    intro bytes
    induction bytes with
    | nil => exact Nat.le_refl 0
    | cons byte bytes ih =>
        have own := decimal_length byte.toNat 3 (by omega) (Nat.lt_trans byte.toNat_lt (by decide))
        rw [List.flatMap_cons, List.length_append, List.length_cons]
        omega
  have few : (msgData pmsg).length ≤ 8 := by
    rw [msgData, List.length_take, Vector.length_toList]
    exact Nat.min_le_right _ _
  have whole := each (msgData pmsg)
  rw [messageData]
  omega

theorem message_xml_length (pmsg : CanalMsg) : (messageXml pmsg).length ≤ xmlBuffSize := by
  have word : ∀ value : UInt64, (decimal value.toNat).length ≤ 20 := fun value =>
    decimal_length value.toNat 20 (by omega) (Nat.lt_trans value.toNat_lt (by decide))
  have flags := word pmsg.flags
  have id := word pmsg.id
  have obid := word pmsg.obid
  have timestamp := word pmsg.timestamp
  have size := decimal_length pmsg.sizeData.toNat 20 (by omega) (Nat.lt_trans pmsg.sizeData.toNat_lt (by decide))
  have data := message_data_length pmsg
  simp only [messageXml, elementText, messageXmlFields, XmlText.attributeText, canalName, flagsName, idName, obidName,
    sizeDataName, dataName, timestampName, xmlBuffSize, List.flatMap_cons, List.flatMap_nil, List.length_append,
    List.length_cons, List.length_nil]
  omega

def readMessage (pmsg : CanalMsg) : CanalMsg :=
  { blankMsg with
    flags := UInt64.ofInt (readStringValue (decimal pmsg.flags.toNat))
    obid := UInt64.ofInt (readStringValue (decimal pmsg.obid.toNat))
    id := UInt64.ofInt (readStringValue (decimal pmsg.id.toNat))
    timestamp := UInt64.ofInt (readStringValue (decimal pmsg.timestamp.toNat)) }

theorem message_attributes (pmsg : CanalMsg) :
    (messageXmlFields pmsg).foldlM canalAttribute blankMsg = some (readMessage pmsg) := by
  have none : (Vector.ofFn fun _ : Fin 8 => (0 : UInt8)) = Vector.replicate 8 0 := by decide
  simp [messageXmlFields, canalAttribute, readMessage, blankMsg, flagsName, idName, obidName, sizeDataName, dataName,
    timestampName, dataSizeName, none]

theorem message_json_solid (pmsg : CanalMsg) : '\x00' ∉ messageJson pmsg := by
  have digits : ∀ text : Text, (∀ letter ∈ text, isDigitOf 10 letter = true) → '\x00' ∉ text := by
    intro text all member
    exact Bool.noConfusion (all _ member)
  have number : ∀ value, '\x00' ∉ decimal value := fun value => digits _ (decimal_digits value)
  have data := digits _ (message_data_digits pmsg)
  simp [messageJson, messageMembers, quoted, flagsName, idName, obidName, sizeDataName, dataName, timestampName, number,
    data]

theorem message_json_trailing (pmsg : CanalMsg) : ∃ front, messageJson pmsg = front ++ [',', '\n', '}'] := by
  refine ⟨'{' :: ((messageMembers pmsg).dropLast.flatMap fun entry =>
    quoted entry.1 ++ [':', ' '] ++ entry.2 ++ [',', '\n']) ++ quoted timestampName ++ [':', ' '] ++
      decimal pmsg.timestamp.toNat, ?_⟩
  simp [messageJson, messageMembers]

theorem converted_ex (clock : Clock) (rawtime : UInt64) (ex : VscpEventEx) (pmsg : CanalMsg)
    (extended : pmsg.id.toNat < 2 ^ 29) (size : pmsg.sizeData.toNat ≤ 8) :
    ∃ pex, convertCanalToEventEx clock rawtime ex pmsg (Vector.replicate 16 0) = some pex ∧
      frameVersion pex.fields.head = frameVersionUnixNs ∧ pex.sizeData.toNat ≤ maxData := by
  obtain ⟨pev, converted, carries⟩ := canal_to_event_reads clock rawtime emptyEvent pmsg (Vector.replicate 16 0)
    (Nat.lt_trans extended (by decide)) (UInt8.le_iff_toNat_le.mpr size)
  have small : pev.sizeData.toNat = pmsg.sizeData.toNat := by rw [carries.sizeData, UInt8.toNat_toUInt16]
  have bound : pev.sizeData.toNat ≤ maxData := by
    rw [small]
    exact Nat.le_trans size (by decide)
  have present : ¬ (pev.sizeData.toNat > maxData ∨ (pev.sizeData ≠ 0 ∧ pev.pdata = none)) := by
    rintro (large | ⟨some, missing⟩)
    · exact absurd bound (Nat.not_le.mpr large)
    · rw [carries.pdata] at missing
      split at missing
      · cases missing
      · next none =>
          apply some
          rw [carries.sizeData, UInt8.le_zero_iff.mp (UInt8.not_lt.mp none)]
          rfl
  have version : frameVersion pev.head = frameVersionUnixNs := by
    have each : ∀ priority < 8, ∀ hard < 2,
        frameVersion (UInt16.ofNat (256 + priority * 32 + hard * 16)) = frameVersionUnixNs := by decide
    rw [← UInt16.ofNat_toNat (x := pev.head), carries.head]
    exact each _ (BitField.field_lt 26 3 _) _ (BitField.field_lt 25 1 _)
  unfold convertCanalToEventEx
  rw [converted]
  simp only [if_true, convertEventToEventEx, if_neg present, Option.getD_some]
  exact ⟨_, rfl, version, bound⟩

section

variable (readers : TextReaders) (clock : Clock) (rawtime : UInt64) (ex : VscpEventEx) (depths : DecoderDepths)
  (pmsg : CanalMsg)

theorem vscp_constructed (nFormat : UInt8) (vscp : nFormat = canalFormatVscpXml ∨ nFormat = canalFormatVscpJson)
    (text : Text) (read : CanalMsg) (left : DecoderDepths)
    (got : constructCanalMsg readers clock rawtime depths text nFormat = .returned vscpErrorSuccess read left) :
    read = blankMsg := by
  rcases vscp with rfl | rfl
  · rw [constructCanalMsg, if_neg (by decide), if_neg (by decide), if_pos rfl] at got
    split at got
    · cases got
    · split at got
      · cases got
      · injection got with _ same
        exact same.symm
  · rw [constructCanalMsg, if_neg (by decide), if_neg (by decide), if_neg (by decide), if_pos rfl] at got
    injection got with _ same
    exact same.symm

theorem blank_same (nFormat : UInt8) (vscp : nFormat = canalFormatVscpXml ∨ nFormat = canalFormatVscpJson)
    (size : pmsg.sizeData = 0) (id : pmsg.id = 0) : SameMessage nFormat pmsg blankMsg := by
  refine ⟨id.symm, size.symm, ?_, ?_⟩
  · rw [msgData, msgData, size]
    rfl
  · rcases vscp with rfl | rfl
    · rintro (other | other)
      · cases other
      · cases other
    · rintro (other | other)
      · cases other
      · cases other

theorem vscp_back (nFormat : UInt8) (vscp : nFormat = canalFormatVscpXml ∨ nFormat = canalFormatVscpJson)
    (succeeds : pmsg.sizeData.toNat ≤ 8 → pmsg.id.toNat < 2 ^ 29 →
      ∃ text left, canalToFormatedEvent clock rawtime ex pmsg nFormat = some text ∧
        constructCanalMsg readers clock rawtime depths text nFormat = .returned vscpErrorSuccess blankMsg left) :
    ReadsBack readers clock rawtime ex depths pmsg nFormat ↔ KeptMessage depths pmsg nFormat := by
  constructor
  · rintro ⟨text, read, left, _, got, same⟩
    obtain rfl := vscp_constructed readers clock rawtime depths nFormat vscp text read left got
    exact ⟨same.sizeData.symm, .inr ⟨vscp, same.id.symm⟩⟩
  · rintro ⟨size, ⟨other, _⟩ | ⟨_, id⟩⟩
    · rcases vscp with rfl | rfl
      · cases other
      · cases other
    · obtain ⟨text, left, written, got⟩ := succeeds (by rw [size]; exact Nat.zero_le 8) (by rw [id]; decide)
      exact ⟨text, blankMsg, left, written, got, blank_same pmsg nFormat vscp size id⟩

section

variable (faithful : FaithfulReaders readers)
include faithful

theorem message_xml_constructed :
    constructCanalMsg readers clock rawtime depths (messageXml pmsg) canalFormatCanXml =
      .returned vscpErrorSuccess (if depths.canal = 0 then readMessage pmsg else blankMsg) depths := by
  have reads := message_xml_reads pmsg
  have buffer := parser_buffer_plain _ (XmlText.read_without_zero _ _ reads)
  have nonempty : messageXml pmsg ≠ [] := List.cons_ne_nil _ _
  have fits := Nat.not_lt.mpr (message_xml_length pmsg)
  have decoded : decodeXml readers.sax startCanalXmlParser depths.canal blankMsg (messageXml pmsg) =
      some (depths.canal, true, if depths.canal = 0 then readMessage pmsg else blankMsg) := by
    rw [decodeXml, if_neg nonempty, if_neg fits, buffer, faithful.reports _ _ reads]
    by_cases outermost : depths.canal = 0
    · simp [callback, startCanalXmlParser, outermost, message_attributes]
    · simp [callback, startCanalXmlParser, outermost]
  rw [constructCanalMsg, if_pos rfl, if_neg fits, decoded]

theorem can_xml_back (extended : ExtendedMessage pmsg) :
    ReadsBack readers clock rawtime ex depths pmsg canalFormatCanXml ↔ KeptMessage depths pmsg canalFormatCanXml := by
  have constructed := message_xml_constructed readers clock rawtime depths pmsg faithful
  have id : UInt64.ofInt (readStringValue (decimal pmsg.id.toNat)) = pmsg.id :=
    (read_word_iff pmsg.id).mpr (Nat.lt_trans extended.id (by decide))
  constructor
  · rintro ⟨text, read, left, written, got, same⟩
    cases written
    rw [constructed] at got
    injection got with _ own _
    obtain ⟨flags, obid, timestamp⟩ := same.rest (.inl rfl)
    by_cases outermost : depths.canal = 0
    · rw [if_pos outermost] at own
      subst own
      exact ⟨same.sizeData.symm, .inl ⟨rfl, outermost, (read_word_iff _).mp flags, (read_word_iff _).mp obid,
        (read_word_iff _).mp timestamp⟩⟩
    · rw [if_neg outermost] at own
      subst own
      have unflagged : pmsg.flags = 0 := flags.symm
      have flagged := extended.extended
      rw [unflagged] at flagged
      exact absurd (by decide) flagged
  · rintro ⟨size, ⟨_, outermost, flags, obid, timestamp⟩ | ⟨other, _⟩⟩
    · refine ⟨_, _, _, if_pos rfl, constructed, ?_⟩
      rw [if_pos outermost]
      refine ⟨id, size.symm, ?_, fun _ => ⟨(read_word_iff _).mpr flags, (read_word_iff _).mpr obid,
        (read_word_iff _).mpr timestamp⟩⟩
      rw [msgData, msgData, size]
      rfl
    · rcases other with other | other
      · cases other
      · cases other

-- No JSON text that is written is read at all.
theorem can_json_back :
    ReadsBack readers clock rawtime ex depths pmsg canalFormatCanJson ↔ KeptMessage depths pmsg canalFormatCanJson := by
  constructor
  · rintro ⟨text, read, left, written, got, _⟩
    obtain rfl : messageJson pmsg = text := by
      rw [canalToFormatedEvent, if_neg (by decide), if_pos rfl] at written
      exact Option.some.inj written
    have cut : (messageJson pmsg).takeWhile (· ≠ '\x00') = messageJson pmsg := by
      apply List.takeWhile_eq_self_iff.mpr
      intro letter member
      exact decide_eq_true fun zero => message_json_solid pmsg (zero ▸ member)
    obtain ⟨front, trailing⟩ := message_json_trailing pmsg
    rw [constructCanalMsg, if_neg (by decide), if_pos rfl, cut] at got
    cases parsed : readers.parse (messageJson pmsg) with
    | error failure =>
        rw [parsed] at got
        injection got with code
        cases code
    | ok j =>
        rw [trailing] at parsed
        exact absurd parsed (faithful.refuses front j)
  · rintro ⟨_, ⟨other, _⟩ | ⟨other | other, _⟩⟩
    · cases other
    · cases other
    · cases other

theorem vscp_xml_back :
    ReadsBack readers clock rawtime ex depths pmsg canalFormatVscpXml ↔ KeptMessage depths pmsg canalFormatVscpXml := by
  apply vscp_back readers clock rawtime ex depths pmsg canalFormatVscpXml (.inl rfl)
  intro size extended
  obtain ⟨pex, converted, version, bound⟩ := converted_ex clock rawtime ex pmsg extended size
  have present : pex.fields.sizeData ≠ 0 → pex.fields.pdata ≠ none := by
    intro _ missing
    cases missing
  have guid : xmlGuidEx (eventXmlFields pex.fields) = some (leading [pex.guid.get 0]) := by
    have written := first_guid_byte pex.guid
    simp [xmlGuidEx, eventXmlFields, VscpEventEx.fields, written]
  obtain ⟨value, started⟩ : ∃ value, startEventExXmlParser clock rawtime depths.eventEx emptyEventEx eventName
      (eventXmlFields pex.fields) = some value := by
    unfold startEventExXmlParser
    split
    · rw [guid]
      exact ⟨_, rfl⟩
    · exact ⟨_, rfl⟩
  have decoded := xml_written_decodes readers.sax faithful.reports _ depths.eventEx emptyEventEx value pex.fields version
    present bound started
  have fits := Nat.not_lt.mpr (event_xml_length pex.fields version present bound)
  refine ⟨convertEventExToXml pex, { depths with eventEx := depths.eventEx }, ?_, ?_⟩
  · rw [canalToFormatedEvent, if_neg (by decide), if_neg (by decide), if_pos rfl, converted]
    rfl
  · rw [constructCanalMsg, if_neg (by decide), if_neg (by decide), if_pos rfl]
    simp only [convertEventExToXml, convertXmlToEventEx, if_neg fits, decoded, if_true]

theorem vscp_json_back :
    ReadsBack readers clock rawtime ex depths pmsg canalFormatVscpJson ↔
      KeptMessage depths pmsg canalFormatVscpJson := by
  apply vscp_back readers clock rawtime ex depths pmsg canalFormatVscpJson (.inr rfl)
  intro size extended
  obtain ⟨pex, converted, _, bound⟩ := converted_ex clock rawtime ex pmsg extended size
  have present : pex.fields.sizeData ≠ 0 → pex.fields.pdata ≠ none := by
    intro _ missing
    cases missing
  have parsed := faithful.parses _ _ (event_json_reads pex.fields present)
  have data := json_data_read readers.castToByte pex.fields bound
  have whole := event_ex_parsed readers.parse readers.castToByte clock _ _ _ parsed data
  refine ⟨convertEventExToJson pex, depths, ?_, ?_⟩
  · rw [canalToFormatedEvent, if_neg (by decide), if_neg (by decide), if_neg (by decide), if_pos rfl, converted]
    rfl
  · rw [constructCanalMsg, if_neg (by decide), if_neg (by decide), if_neg (by decide), if_pos rfl]
    simp only [convertEventExToJson, whole, if_true]

theorem reads_back_iff (nFormat : UInt8) (extended : ExtendedMessage pmsg) :
    ReadsBack readers clock rawtime ex depths pmsg nFormat ↔ KeptMessage depths pmsg nFormat := by
  by_cases canXml : nFormat = canalFormatCanXml
  · rw [canXml]
    exact can_xml_back readers clock rawtime ex depths pmsg faithful extended
  by_cases canJson : nFormat = canalFormatCanJson
  · rw [canJson]
    exact can_json_back readers clock rawtime ex depths pmsg faithful
  by_cases vscpXml : nFormat = canalFormatVscpXml
  · rw [vscpXml]
    exact vscp_xml_back readers clock rawtime ex depths pmsg faithful
  by_cases vscpJson : nFormat = canalFormatVscpJson
  · rw [vscpJson]
    exact vscp_json_back readers clock rawtime ex depths pmsg faithful
  · constructor
    · rintro ⟨text, _, _, written, _⟩
      rw [canalToFormatedEvent, if_neg canXml, if_neg canJson, if_neg vscpXml, if_neg vscpJson] at written
      cases written
    · rintro ⟨_, ⟨same, _⟩ | ⟨same | same, _⟩⟩
      · exact absurd same canXml
      · exact absurd same vscpXml
      · exact absurd same vscpJson

end

end

def plainReaders : TextReaders := ⟨plainParse, fun _ => 0, fun _ => 0, plainSax⟩

theorem plain_readers_faithful : FaithfulReaders plainReaders := by
  refine ⟨plain_parse_reads, ?_, plain_sax_reads⟩
  intro text value read
  simp only [plainReaders, plainParse, JsonText.trailing_comma_refused] at read
  cases read

end Vscp
