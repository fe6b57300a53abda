import Vscp.MqttSends
import Vscp.Ws1Replies

set_option autoImplicit false

namespace Vscp.CanalSends

open JsonText (Value)
open RemoteTcp (Text)

-- send(canalMsg&) is the same text in the three clients: the true of the converter is taken for an error, and what lay
-- on the stack is sent otherwise.
def send {Done : Type} (refused : Done) (sendEx : VscpEventEx → Done) (clock : Clock) (rawtime : UInt64)
    (stack : VscpEventEx) (msg : CanalMsg) : Done :=
  match convertCanalToEventEx clock rawtime stack msg CanalClient.zeroGuid with
  | some _ => refused
  | none => sendEx stack

-- The write of the request is commented out in both web socket clients: what a call does is to take a reply off the
-- queue.
structure Exchange where
  taken : Bool
  code : Int
deriving DecidableEq

inductive Outcome where
  -- A field of the reply that is not there, or a reply that is no object.
  | threw
  -- The data of the event is read behind its end.
  | outside
  | done (exchange : Exchange)
deriving DecidableEq

def failed (failure : VscpError) : Outcome := .done ⟨false, failure.code⟩

def ofReply : Ws1.Result Unit → Outcome
  | .threw => .threw
  | .returned code _ => .done ⟨true, code⟩

-- `answer` is the reply at the front of the queue after the wait, or none where the wait fails. The text made of the
-- event goes nowhere, and vscp_convertEventExToString answers true for every event.
def ws1SendEx (client : Ws1.Client) (answer : Option Text) (_ : VscpEventEx) : Outcome :=
  if ¬ client.bConnected then failed .notConnected
  else
    match answer with
    | none => failed .timeout
    | some reply => ofReply (Ws1.answered Ws1.nameE (some reply))

def nameType : Text := ['t', 'y', 'p', 'e']

-- `"+" != j["type"]`: the operator makes an object of null, and takes nothing else that is no object.
def refusedType (j : Value) : Option Bool :=
  match j with
  | .null => some true
  | .object _ =>
      match j.member nameType with
      | some (.string letters) => some (letters ≠ Ws1.plus)
      | _ => some true
  | _ => none

def ws2SendEx (bConnected : Bool) (answer : Option Value) (ex : VscpEventEx) : Outcome :=
  if ¬ bConnected then failed .notConnected
  else if maxData < ex.sizeData.toNat then .outside
  else
    match answer with
    | none => failed .timeout
    | some j =>
        match refusedType j with
        | none => .threw
        | some true => .done ⟨true, VscpError.operationFailed.code⟩
        | some false => .done ⟨true, vscpErrorSuccess⟩

def mqttSend (render : Mqtt.Render) (readingOf : UInt16 → Bytes → Option Mqtt.Reading) (publisher : Mqtt.Publisher) :
    Clock → UInt64 → VscpEventEx → CanalMsg → List Mqtt.Published × Mqtt.Ending :=
  send ([], .returned (some .invalidFrame)) (Mqtt.sendEx render readingOf publisher)

def ws1Send (client : Ws1.Client) (answer : Option Text) : Clock → UInt64 → VscpEventEx → CanalMsg → Outcome :=
  send (failed .invalidFrame) (ws1SendEx client answer)

def ws2Send (bConnected : Bool) (answer : Option Value) : Clock → UInt64 → VscpEventEx → CanalMsg → Outcome :=
  send (failed .invalidFrame) (ws2SendEx bConnected answer)

def SendsItsEvent {Done : Type} (refused : Done) (sendEx : VscpEventEx → Done)
    (sendMsg : Clock → UInt64 → VscpEventEx → CanalMsg → Done) (clock : Clock) (rawtime : UInt64) (stack : VscpEventEx)
    (msg : CanalMsg) : Prop :=
  match convertCanalToEventEx clock rawtime stack msg CanalClient.zeroGuid with
  | some ex => sendMsg clock rawtime stack msg = sendEx ex
  | none => sendMsg clock rawtime stack msg = refused

theorem inverted_never_sends {Done : Type} (refused : Done) (sendEx : VscpEventEx → Done)
    (other : ∀ ex, sendEx ex ≠ refused) (clock : Clock) (rawtime : UInt64) (stack : VscpEventEx) (msg : CanalMsg) :
    ¬ SendsItsEvent refused sendEx (send refused sendEx) clock rawtime stack msg := by
  intro sends
  rw [SendsItsEvent, send] at sends
  cases converted : convertCanalToEventEx clock rawtime stack msg CanalClient.zeroGuid with
  | some ex =>
      rw [converted] at sends
      exact other ex sends.symm
  | none =>
      rw [converted] at sends
      exact other stack sends

theorem failed_other (failure : VscpError) (different : failure.code ≠ VscpError.invalidFrame.code) :
    failed failure ≠ failed .invalidFrame := by
  intro same
  exact different (congrArg Exchange.code (Outcome.done.inj same))

theorem ws1_other (client : Ws1.Client) (answer : Option Text) (ex : VscpEventEx) :
    ws1SendEx client answer ex ≠ failed .invalidFrame := by
  unfold ws1SendEx
  by_cases away : ¬ client.bConnected = true
  · rw [if_pos away]
    exact failed_other _ (by decide)
  · rw [if_neg away]
    cases answer with
    | none => exact failed_other _ (by decide)
    | some reply =>
        cases result : Ws1.answered Ws1.nameE (some reply) with
        | threw =>
            simp only [result, ofReply]
            intro same
            cases same
        | returned code value =>
            simp only [result, ofReply]
            intro same
            cases congrArg Exchange.taken (Outcome.done.inj same)

theorem ws2_other (bConnected : Bool) (answer : Option Value) (ex : VscpEventEx) :
    ws2SendEx bConnected answer ex ≠ failed .invalidFrame := by
  unfold ws2SendEx
  by_cases away : ¬ bConnected = true
  · rw [if_pos away]
    exact failed_other _ (by decide)
  · rw [if_neg away]
    by_cases large : maxData < ex.sizeData.toNat
    · rw [if_pos large]
      intro same
      cases same
    · rw [if_neg large]
      cases answer with
      | none => exact failed_other _ (by decide)
      | some j =>
          simp only
          cases refusedType j with
          | none =>
              intro same
              cases same
          | some refusal =>
              cases refusal with
              | true =>
                  intro same
                  cases congrArg Exchange.taken (Outcome.done.inj same)
              | false =>
                  intro same
                  cases congrArg Exchange.taken (Outcome.done.inj same)

theorem topics_refusal (skips : Mqtt.PublishTopic → Bool) (payloadOf : Mqtt.MqttMsgFormat → Mqtt.Sent)
    (topicOf : Mqtt.PublishTopic → Text) (topics : List Mqtt.PublishTopic) (failure : VscpError)
    (ended : (Mqtt.sendTopics skips payloadOf topicOf topics).2 = .returned (some failure)) :
    ∃ format, payloadOf format = .refused failure := by
  induction topics with
  | nil => cases ended
  | cons ppublish rest ih =>
      rw [Mqtt.sendTopics] at ended
      by_cases skipped : skips ppublish = true
      · rw [if_pos skipped] at ended
        exact ih ended
      · rw [if_neg skipped] at ended
        cases payload : payloadOf ppublish.format with
        | refused own =>
            rw [payload] at ended
            cases ended
            exact ⟨ppublish.format, payload⟩
        | overran =>
            rw [payload] at ended
            cases ended
        | published sent =>
            rw [payload] at ended
            exact ih ended

theorem text_not_refused (text : Option Text) (failure : VscpError) : Mqtt.sendTextEx text ≠ .refused failure := by
  cases text with
  | none =>
      intro same
      cases same
  | some strPayload =>
      rw [Mqtt.sendTextEx]
      by_cases long : Mqtt.payloadSize < strPayload.length
      · rw [if_pos long]
        intro same
        cases same
      · rw [if_neg long]
        intro same
        cases same

theorem payload_refusal (readingOf : UInt16 → Bytes → Option Mqtt.Reading) (publisher : Mqtt.Publisher)
    (ex : VscpEventEx) (format : Mqtt.MqttMsgFormat) (failure : VscpError)
    (refused : Mqtt.sendPayloadEx readingOf publisher ex format = .refused failure) :
    failure = .parameter ∨ failure = .notSupported := by
  cases format with
  | jsonfmt => exact absurd refused (text_not_refused (Mqtt.payloadTextEx readingOf publisher .jsonfmt ex) failure)
  | xmlfmt => exact absurd refused (text_not_refused (Mqtt.payloadTextEx readingOf publisher .xmlfmt ex) failure)
  | strfmt => exact absurd refused (text_not_refused (Mqtt.payloadTextEx readingOf publisher .strfmt ex) failure)
  | binfmt =>
      rw [Mqtt.sendPayloadEx, Mqtt.sendFrameEx] at refused
      cases written : Mqtt.writeEventExToFrame (List.replicate Mqtt.payloadSize 0) 0 ex with
      | none =>
          rw [written] at refused
          cases refused
          exact Or.inl rfl
      | some frame =>
          rw [written] at refused
          simp only at refused
          by_cases long : Mqtt.payloadSize < 1 + frameSize ex.sizeData
          · rw [if_pos long] at refused
            cases refused
          · rw [if_neg long] at refused
            cases refused
  | autofmt =>
      cases refused
      exact Or.inr rfl

theorem mqtt_other (render : Mqtt.Render) (readingOf : UInt16 → Bytes → Option Mqtt.Reading)
    (publisher : Mqtt.Publisher) (ex : VscpEventEx) :
    Mqtt.sendEx render readingOf publisher ex ≠ ([], .returned (some .invalidFrame)) := by
  intro same
  obtain ⟨format, refused⟩ := topics_refusal _ _ _ _ _ (congrArg Prod.snd same)
  rcases payload_refusal readingOf publisher ex format _ refused with own | own
  · cases own
  · cases own

-- No message is sent as its event: the ones with an event are turned away, and the others send what lay on the stack.
theorem no_message_sent (clock : Clock) (rawtime : UInt64) (stack : VscpEventEx) (msg : CanalMsg) :
    (∀ render readingOf publisher, ¬SendsItsEvent ([], .returned (some .invalidFrame))
      (Mqtt.sendEx render readingOf publisher) (mqttSend render readingOf publisher) clock rawtime stack msg) ∧
      (∀ client answer, ¬SendsItsEvent (failed .invalidFrame) (ws1SendEx client answer) (ws1Send client answer) clock
        rawtime stack msg) ∧
      ∀ bConnected answer, ¬SendsItsEvent (failed .invalidFrame) (ws2SendEx bConnected answer)
        (ws2Send bConnected answer) clock rawtime stack msg :=
  ⟨fun render readingOf publisher => inverted_never_sends _ _ (mqtt_other render readingOf publisher) _ _ _ _,
    fun client answer => inverted_never_sends _ _ (ws1_other client answer) _ _ _ _,
    fun bConnected answer => inverted_never_sends _ _ (ws2_other bConnected answer) _ _ _ _⟩

-- An empty message has an event, and every client turns it away.
theorem empty_message_refused :
    (∃ ex, convertCanalToEventEx exampleClock 0 emptyEventEx blankMsg CanalClient.zeroGuid = some ex) ∧
      ¬SendsItsEvent (failed .invalidFrame) (ws1SendEx ⟨true, true⟩ (some ['+', ';', 'E']))
        (ws1Send ⟨true, true⟩ (some ['+', ';', 'E'])) exampleClock 0 emptyEventEx blankMsg :=
  ⟨⟨_, rfl⟩, inverted_never_sends _ _ (ws1_other ⟨true, true⟩ (some ['+', ';', 'E'])) _ _ _ _⟩

end Vscp.CanalSends
