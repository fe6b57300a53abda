import Vscp.CanalFilter
import Vscp.CanalText

set_option autoImplicit false

namespace Vscp.CanalTextSends

open JsonText (Value)
open XmlText (SaxEvent)
open RemoteTcp (Text)

def canalErrorLibrary : Int := 28
def canalErrorParameter : Int := 34

-- The entries of the driver that send; a driver of the first generation has no CanalBlockingSend.
structure Device where
  loaded : Bool
  openHandle : Int
  procCanalSend : Int → CanalMsg → Int
  procCanalBlockingSend : Option (Int → CanalMsg → UInt32 → Int)

inductive Sending where
  -- The text is not read to its end without leaving a buffer.
  | undefined
  | returned (code : Int) (handed : Option CanalMsg)
deriving DecidableEq

section

variable (readers : TextReaders) (clock : Clock) (rawtime : UInt64) (depths : DecoderDepths)

-- constructCanalMsg answers zero when it was successful, and `!` of that is the error.
def handOver (proc : CanalMsg → Int) (strObj : Text) (nFormat : UInt8) : Sending :=
  match constructCanalMsg readers clock rawtime depths strObj nFormat with
  | .returned code msg _ =>
      if code = 0 then .returned canalErrorParameter none else .returned (proc msg) (some msg)
  | _ => .undefined

def canalSend (device : Device) (strObj : Text) (nFormat : UInt8) : Sending :=
  if ¬ device.loaded then .returned canalErrorInitMissing none
  else handOver readers clock rawtime depths (device.procCanalSend device.openHandle) strObj nFormat

def canalBlockingSend (device : Device) (strObj : Text) (timeout : UInt32) (nFormat : UInt8) : Sending :=
  if ¬ device.loaded then .returned canalErrorInitMissing none
  else
    match device.procCanalBlockingSend with
    | none => .returned canalErrorLibrary none
    | some proc =>
        if device.openHandle = 0 then .returned canalErrorNotOpen none
        else handOver readers clock rawtime depths (proc device.openHandle · timeout) strObj nFormat

-- What a text of each format says. `finished` is what the XML parser answers when it is told that the text is complete.
section

variable (finished : Text → Bool)

def xmlRoot (strObj : Text) : Option (Text × List (Text × Text)) :=
  match readers.sax (parserBuffer strObj) with
  | (.start name attributes :: _, true) => if finished strObj then some (name, attributes) else none
  | _ => none

def canXmlMessage (strObj : Text) : Option CanalMsg :=
  (xmlRoot readers finished strObj).bind fun root =>
    if root.1 = canalName then root.2.foldlM canalAttribute blankMsg else none

def canJsonMessage (strObj : Text) : Option CanalMsg :=
  match readers.parse (strObj.takeWhile (· ≠ '\x00')) with
  | .error _ => none
  | .ok j =>
      let filled := setMembers (canalSetters readers) j blankMsg
      if filled.2 then
        match j.member dataName with
        | none => some filled.1
        | some (.array items) =>
            (items.mapM (jsonByte readers.castToByte)).bind fun bytes =>
              if bytes.length ≤ 8 then
                some { filled.1 with
                  sizeData := UInt8.ofNat bytes.length
                  data := Vector.ofFn fun i => bytes.getD i.val 0 }
              else none
        | some _ => none
      else none

def eventMessage (ex : VscpEventEx) : Option CanalMsg :=
  if ex.vscpClass < 512 ∧ ex.sizeData ≤ 8 then
    (convertEventExToEvent ex).bind fun ev => (convertEventToCanal blankMsg ev).map Prod.fst
  else none

def vscpXmlMessage (strObj : Text) : Option CanalMsg :=
  (xmlRoot readers finished strObj).bind fun root =>
    if strObj ≠ [] ∧ root.1 = eventName then
      (startEventExXmlParser clock rawtime 0 emptyEventEx root.1 root.2).bind eventMessage
    else none

def vscpJsonMessage (strObj : Text) : Option CanalMsg :=
  let converted := convertJsonToEventEx readers.parse readers.castToByte clock strObj
  if converted.1 then eventMessage converted.2 else none

def messageOf (strObj : Text) (nFormat : UInt8) : Option CanalMsg :=
  if nFormat = canalFormatCanXml then canXmlMessage readers finished strObj
  else if nFormat = canalFormatCanJson then canJsonMessage readers strObj
  else if nFormat = canalFormatVscpXml then vscpXmlMessage readers clock rawtime finished strObj
  else if nFormat = canalFormatVscpJson then vscpJsonMessage readers clock strObj
  else none

end

def HandsOver (message : Option CanalMsg) (sending : Sending) : Prop :=
  ∃ code, sending = .returned code message ∧ (message = none → code ≠ canalErrorSuccess)

def JsonTaken (strObj : Text) : Prop :=
  ∃ j, readers.parse (strObj.takeWhile (· ≠ '\x00')) = .ok j ∧ (setMembers (canalSetters readers) j blankMsg).2 = true ∧
    (j.member dataName = none ∨
      ∃ items bytes, j.member dataName = some (.array items) ∧ items.mapM (jsonByte readers.castToByte) = some bytes ∧
        8 ≤ bytes.length)

def Taken (strObj : Text) (nFormat : UInt8) : Prop :=
  if nFormat = canalFormatCanXml then strObj.length ≤ xmlBuffSize
  else if nFormat = canalFormatCanJson then JsonTaken readers strObj
  else if nFormat = canalFormatVscpXml then
    strObj.length ≤ xmlBuffSize ∧
      ∃ depth ex, convertXmlToEventEx readers.sax clock rawtime depths.eventEx emptyEventEx strObj = some (depth, true, ex)
  else if nFormat = canalFormatVscpJson then
    (convertJsonToEventEx readers.parse readers.castToByte clock strObj).1 = true
  else True

def Succeeds (constructed : Constructed) : Prop := ∃ pmsg left, constructed = .returned vscpErrorSuccess pmsg left

def Fails (constructed : Constructed) : Prop := ∃ code pmsg left, constructed = .returned code pmsg left ∧ code ≠ 0

variable (code : Int) (pmsg : CanalMsg) (left : DecoderDepths)

theorem succeeds_returned :
    Succeeds (.returned code pmsg left) ↔ code = vscpErrorSuccess := by
  constructor
  · rintro ⟨_, _, same⟩
    cases same
    rfl
  · rintro rfl
    exact ⟨pmsg, left, rfl⟩

theorem fails_returned :
    Fails (.returned code pmsg left) ↔ code ≠ 0 := by
  constructor
  · rintro ⟨_, _, _, same, failed⟩
    cases same
    exact failed
  · intro failed
    exact ⟨code, pmsg, left, rfl, failed⟩

theorem outside_neither : ¬Succeeds .outside ∧ ¬Fails .outside := by
  refine ⟨?_, ?_⟩
  · rintro ⟨_, _, same⟩
    cases same
  · rintro ⟨_, _, _, same, -⟩
    cases same

theorem set_data_cases (j : Value) (pmsg : CanalMsg) :
    (Succeeds (setCanalData readers j pmsg depths) ↔
      j.member dataName = none ∨
        ∃ items bytes, j.member dataName = some (.array items) ∧ items.mapM (jsonByte readers.castToByte) = some bytes ∧
          8 ≤ bytes.length) ∧
      (Fails (setCanalData readers j pmsg depths) ↔
        ∃ value, j.member dataName = some value ∧
          ∀ items, value = .array items → items.mapM (jsonByte readers.castToByte) = none) := by
  unfold setCanalData
  cases found : j.member dataName with
  | none =>
      simp only
      rw [succeeds_returned, fails_returned]
      simp [vscpErrorSuccess]
  | some value =>
      cases value with
      | array items =>
          simp only
          cases read : items.mapM (jsonByte readers.castToByte) with
          | none =>
              simp only
              rw [succeeds_returned, fails_returned]
              simp [vscpErrorSuccess, vscpErrorError, read]
          | some bytes =>
              simp only
              by_cases short : bytes.length < 8
              · rw [if_pos short, iff_false_left outside_neither.1, iff_false_left outside_neither.2]
                simp [read, short]
              · rw [if_neg short, succeeds_returned, fails_returned]
                simp [vscpErrorSuccess, read, Nat.not_lt.mp short]
      | _ =>
          simp only
          rw [succeeds_returned, fails_returned]
          simp [vscpErrorSuccess, vscpErrorError]

variable (strObj : Text)

theorem can_xml_cases :
    (Succeeds (constructCanalMsg readers clock rawtime depths strObj canalFormatCanXml) ↔ strObj.length ≤ xmlBuffSize) ∧
      ¬Fails (constructCanalMsg readers clock rawtime depths strObj canalFormatCanXml) := by
  rw [constructCanalMsg, if_pos rfl]
  by_cases long : xmlBuffSize < strObj.length
  · rw [if_pos long]
    refine ⟨iff_of_false ?_ (Nat.not_le.mpr long), ?_⟩
    · rintro ⟨_, _, same⟩
      cases same
    · rintro ⟨_, _, _, same, -⟩
      cases same
  · have fits := Nat.not_lt.mp long
    obtain ⟨⟨depth, accepted, pmsg⟩, decoded⟩ := canal_xml_inside readers.sax depths.canal strObj fits
    rw [if_neg long, decoded]
    refine ⟨iff_of_true ⟨_, _, rfl⟩ fits, ?_⟩
    rintro ⟨_, _, _, same, failed⟩
    cases same
    exact failed rfl

theorem can_json_cases :
    (Succeeds (constructCanalMsg readers clock rawtime depths strObj canalFormatCanJson) ↔ JsonTaken readers strObj) ∧
      (Fails (constructCanalMsg readers clock rawtime depths strObj canalFormatCanJson) →
        canJsonMessage readers strObj = none) := by
  rw [constructCanalMsg, if_neg (by decide), if_pos rfl, JsonTaken, canJsonMessage]
  cases parsed : readers.parse (strObj.takeWhile (· ≠ '\x00')) with
  | error failure =>
      simp only
      rw [succeeds_returned]
      refine ⟨iff_of_false (by decide) ?_, fun _ => trivial⟩
      rintro ⟨_, same, -⟩
      cases same
  | ok j =>
      simp only
      have cases' := set_data_cases readers depths j (setMembers (canalSetters readers) j blankMsg).1
      by_cases filled : (setMembers (canalSetters readers) j blankMsg).2 = true
      · rw [if_pos filled, if_pos filled, cases'.1, cases'.2]
        refine ⟨⟨fun data => ⟨j, rfl, filled, data⟩, ?_⟩, ?_⟩
        · rintro ⟨_, same, -, data⟩
          cases same
          exact data
        · rintro ⟨value, found, unread⟩
          rw [found]
          cases value with
          | array items =>
              simp only
              rw [unread items rfl, Option.bind_none]
          | _ => rfl
      · rw [if_neg filled, if_neg filled, succeeds_returned]
        refine ⟨iff_of_false (by decide) ?_, fun _ => rfl⟩
        rintro ⟨_, same, own, -⟩
        cases same
        exact filled own

theorem decoded_answer {α : Type} (start : Int → α → Text → List (Text × Text) → Option α) (strObj : Text)
    (depth left : Int) (old new : α) (answer : Bool) (solid : strObj ≠ [])
    (decoded : decodeXml readers.sax start depth old strObj = some (left, answer, new)) :
    (readers.sax (parserBuffer strObj)).2 = answer := by
  rw [decodeXml, if_neg solid] at decoded
  by_cases long : xmlBuffSize < strObj.length
  · rw [if_pos long] at decoded
    cases decoded
  · rw [if_neg long] at decoded
    obtain ⟨state, -, same⟩ := Option.map_eq_some_iff.mp decoded
    exact congrArg (fun result : Int × Bool × α => result.2.1) same

theorem refused_root (finished : Text → Bool) (strObj : Text)
    (refused : (readers.sax (parserBuffer strObj)).2 = false) : xmlRoot readers finished strObj = none := by
  unfold xmlRoot
  split
  · next parsed =>
      rw [parsed] at refused
      cases refused
  · rfl

theorem vscp_xml_cases (finished : Text → Bool) (strObj : Text) :
    (Succeeds (constructCanalMsg readers clock rawtime depths strObj canalFormatVscpXml) ↔
      strObj.length ≤ xmlBuffSize ∧ ∃ depth ex,
        convertXmlToEventEx readers.sax clock rawtime depths.eventEx emptyEventEx strObj = some (depth, true, ex)) ∧
      (Fails (constructCanalMsg readers clock rawtime depths strObj canalFormatVscpXml) →
        vscpXmlMessage readers clock rawtime finished strObj = none) := by
  rw [constructCanalMsg, if_neg (by decide), if_neg (by decide), if_pos rfl]
  by_cases long : xmlBuffSize < strObj.length
  · rw [if_pos long]
    refine ⟨iff_of_false ?_ fun taken => Nat.not_le.mpr long taken.1, ?_⟩
    · rintro ⟨_, _, same⟩
      cases same
    · rintro ⟨_, _, _, same, -⟩
      cases same
  · rw [if_neg long]
    cases decoded : convertXmlToEventEx readers.sax clock rawtime depths.eventEx emptyEventEx strObj with
    | none =>
        refine ⟨iff_of_false ?_ ?_, ?_⟩
        · rintro ⟨_, _, same⟩
          cases same
        · rintro ⟨-, _, _, same⟩
          cases same
        · rintro ⟨_, _, _, same, -⟩
          cases same
    | some state =>
        obtain ⟨depth, converted, ex⟩ := state
        simp only
        rw [succeeds_returned, fails_returned]
        cases converted with
        | true =>
            exact ⟨iff_of_true rfl ⟨Nat.not_lt.mp long, depth, ex, rfl⟩, fun failed => absurd rfl failed⟩
        | false =>
            refine ⟨iff_of_false (by decide) ?_, fun _ => ?_⟩
            · rintro ⟨-, _, _, same⟩
              cases same
            · rw [vscpXmlMessage]
              by_cases empty : strObj = []
              · refine Option.bind_eq_none_iff.mpr fun root _ => if_neg fun both => both.1 empty
              · have refused := decoded_answer readers _ strObj depths.eventEx depth _ ex false empty decoded
                rw [refused_root readers finished strObj refused, Option.bind_none]

theorem vscp_json_cases :
    (Succeeds (constructCanalMsg readers clock rawtime depths strObj canalFormatVscpJson) ↔
      (convertJsonToEventEx readers.parse readers.castToByte clock strObj).1 = true) ∧
      (Fails (constructCanalMsg readers clock rawtime depths strObj canalFormatVscpJson) →
        vscpJsonMessage readers clock strObj = none) := by
  rw [constructCanalMsg, if_neg (by decide), if_neg (by decide), if_neg (by decide), if_pos rfl, vscpJsonMessage]
  simp only
  rw [succeeds_returned, fails_returned]
  cases (convertJsonToEventEx readers.parse readers.castToByte clock strObj).1 with
  | true => exact ⟨iff_of_true rfl rfl, fun failed => absurd rfl failed⟩
  | false => exact ⟨iff_of_false (by decide) (by decide), fun _ => rfl⟩

theorem construct_cases (finished : Text → Bool) (strObj : Text) (nFormat : UInt8) :
    (Succeeds (constructCanalMsg readers clock rawtime depths strObj nFormat) ↔
      Taken readers clock rawtime depths strObj nFormat) ∧
      (Fails (constructCanalMsg readers clock rawtime depths strObj nFormat) →
        messageOf readers clock rawtime finished strObj nFormat = none) := by
  rw [Taken, messageOf]
  by_cases canXml : nFormat = canalFormatCanXml
  · have both := can_xml_cases readers clock rawtime depths strObj
    rw [if_pos canXml, if_pos canXml, canXml]
    exact ⟨both.1, fun fails => absurd fails both.2⟩
  · rw [if_neg canXml, if_neg canXml]
    by_cases canJson : nFormat = canalFormatCanJson
    · rw [if_pos canJson, if_pos canJson, canJson]
      exact can_json_cases readers clock rawtime depths strObj
    · rw [if_neg canJson, if_neg canJson]
      by_cases vscpXml : nFormat = canalFormatVscpXml
      · rw [if_pos vscpXml, if_pos vscpXml, vscpXml]
        exact vscp_xml_cases readers clock rawtime depths finished strObj
      · rw [if_neg vscpXml, if_neg vscpXml]
        by_cases vscpJson : nFormat = canalFormatVscpJson
        · rw [if_pos vscpJson, if_pos vscpJson, vscpJson]
          exact vscp_json_cases readers clock rawtime depths strObj
        · rw [if_neg vscpJson, if_neg vscpJson, constructCanalMsg, if_neg canXml, if_neg canJson, if_neg vscpXml,
            if_neg vscpJson]
          exact ⟨iff_of_true ⟨_, _, rfl⟩ trivial, fun _ => rfl⟩

theorem hand_over_iff (finished : Text → Bool) (proc : CanalMsg → Int) (strObj : Text) (nFormat : UInt8) :
    HandsOver (messageOf readers clock rawtime finished strObj nFormat)
        (handOver readers clock rawtime depths proc strObj nFormat) ↔
      messageOf readers clock rawtime finished strObj nFormat = none ∧
        Taken readers clock rawtime depths strObj nFormat := by
  obtain ⟨succeeds, fails⟩ := construct_cases readers clock rawtime depths finished strObj nFormat
  rw [← succeeds, handOver]
  cases constructed : constructCanalMsg readers clock rawtime depths strObj nFormat with
  | returned code pmsg left =>
      simp only
      rw [constructed] at fails
      by_cases zero : code = 0
      · rw [if_pos zero]
        constructor
        · rintro ⟨_, same, -⟩
          exact ⟨(Sending.returned.inj same).2.symm, (succeeds_returned code pmsg left).mpr zero⟩
        · rintro ⟨nothing, -⟩
          rw [nothing]
          exact ⟨canalErrorParameter, rfl, fun _ => by decide⟩
      · rw [if_neg zero]
        have nothing := fails ⟨code, pmsg, left, rfl, zero⟩
        rw [nothing]
        refine iff_of_false ?_ ?_
        · rintro ⟨_, same, -⟩
          cases same
        · rintro ⟨-, success⟩
          exact zero ((succeeds_returned code pmsg left).mp success)
  | _ =>
      simp only
      refine iff_of_false ?_ ?_
      · rintro ⟨_, same, -⟩
        cases same
      · rintro ⟨-, _, _, same⟩
        cases same

theorem refusal_iff (message : Option CanalMsg) (code : Int) (failed : code ≠ canalErrorSuccess) :
    HandsOver message (.returned code none) ↔ message = none := by
  constructor
  · rintro ⟨_, same, -⟩
    cases same
    rfl
  · rintro rfl
    exact ⟨code, rfl, fun _ => failed⟩

def CanSend (device : Device) : Prop := device.loaded = true

def CanBlockingSend (device : Device) : Prop :=
  device.loaded = true ∧ device.procCanalBlockingSend ≠ none ∧ device.openHandle ≠ 0

end

def refusingReaders : TextReaders := ⟨fun _ => .error .parseError, fun _ => 0, fun _ => 0, fun _ => ([], false)⟩

def takingDevice : Device := ⟨true, 1, fun _ _ => 0, some fun _ _ _ => 0⟩

end Vscp.CanalTextSends
