import Vscp.EventJson
import Vscp.EventXml

set_option autoImplicit false

namespace Vscp.Mqtt

open ByteMemory
open JsonText (Value)
open XmlText (SaxEvent)
open RemoteTcp (Text)

inductive MqttMsgFormat where
  | jsonfmt
  | xmlfmt
  | strfmt
  | binfmt
  | autofmt
deriving DecidableEq

structure SubscribeTopic where
  topic : Text
  format : MqttMsgFormat
deriving DecidableEq

-- What the client takes from other libraries: json::parse, the cast of a floating point number to a byte, and
-- XML_ParseBuffer.
structure Readers where
  parse : Text → Except JsonFailure Value
  castToByte : Text → UInt8
  sax : Text → List SaxEvent × Bool

-- mosquitto_message: a letter of the payload is one byte of it, and `behind` is the memory behind the payload.
structure Message where
  topic : Text
  payload : Text
  behind : Text

def mqttMaxInqueueSize : Nat := 2000

-- A vscpClientMqtt, as far as its receiving side goes, and the depth that the XML decoder keeps for the process.
structure Client where
  subscribeTopicList : List SubscribeTopic
  callbackEvActive : Bool
  callbackExActive : Bool
  depthEventParser : Int
  receiveQueue : List VscpEvent
  semReceiveQueue : Nat

def cString (text : Text) : Text := text.takeWhile (· ≠ '\x00')

def strstr (haystack needle : Text) : Bool := cString needle <:+: cString haystack

-- The loop stops at the first subscription whose topic the message's topic is not found in.
def subscribedFormat (topics : List SubscribeTopic) (topic : Text) : MqttMsgFormat :=
  match topics.find? fun psubscribe => ¬ strstr psubscribe.topic topic with
  | some psubscribe => psubscribe.format
  | none => .autofmt

-- The format by the first letter of a payload. A text without six commas is no event; they are counted up to the
-- first NUL, wherever that is.
def guessedFormat (payload behind : Text) : Option MqttMsgFormat :=
  if payload[0]? = some '\x00' then some .binfmt
  else if payload[0]? = some '{' then some .jsonfmt
  else if payload[0]? = some '<' then some .xmlfmt
  else if (cString (payload ++ behind)).count ',' < 6 then none
  else some .strfmt

def messageFormat (topics : List SubscribeTopic) (pmsg : Message) : Option MqttMsgFormat :=
  match subscribedFormat topics pmsg.topic with
  | .autofmt => guessedFormat pmsg.payload pmsg.behind
  | format => some format

def letterByte (letter : Char) : UInt8 := UInt8.ofNat letter.toNat

-- A frame begins behind the marker byte; the length it is read with counts the marker.
def frameMemory (payload behind : Text) : Memory :=
  ofBytes ((payload.drop 1 ++ behind).map letterByte) fun _ => 0

section

variable (readers : Readers) (clock : Clock) (rawtime : UInt64)

-- What the converters make of a payload: the depth they leave behind, and the event where they succeed. `ev` is the
-- event as it lies on the stack; none where a text is longer than the buffer of the XML parser.
def decodePayload (ev : VscpEvent) (depth : Int) (format : MqttMsgFormat) (payload behind : Text) :
    Option (Int × Option VscpEvent) :=
  match format with
  | .jsonfmt =>
      let converted := convertJsonToEvent readers.parse readers.castToByte clock payload
      some (depth, if converted.1 then some converted.2 else none)
  | .xmlfmt =>
      (convertXmlToEvent readers.sax clock rawtime depth ev payload).map fun converted =>
        (converted.1, if converted.2.1 then some converted.2.2 else none)
  | .strfmt => some (depth, convertStringToEvent clock ev payload)
  | .binfmt => some (depth, getEventFromFrame clock (frameMemory payload behind) payload.length)
  | .autofmt => some (depth, none)

-- Saves an event in the incoming queue; one that finds it full is dropped.
def saveEvent (client : Client) (pEvent : VscpEvent) : Client :=
  if client.receiveQueue.length < mqttMaxInqueueSize then
    { client with
      receiveQueue := client.receiveQueue ++ [pEvent]
      semReceiveQueue := client.semReceiveQueue + 1 }
  else client

-- The eventEx is only for its callback, so no more than that it is made is modelled.
def handleEvent (client : Client) (ev : VscpEvent) : Bool × Client :=
  if (convertEventToEventEx emptyEventEx ev).isNone then (false, client)
  else if client.callbackEvActive ∨ client.callbackExActive then (true, client)
  else
    match copyEvent ev with
    | none => (false, client)
    | some pEvent => (true, saveEvent client pEvent)

-- The event of a message, none where handleMessage gives it up before or in the converter.
def readMessage (client : Client) (ev : VscpEvent) (pmsg : Message) : Option (Int × Option VscpEvent) :=
  if pmsg.payload = [] then some (client.depthEventParser, none)
  else
    match messageFormat client.subscribeTopicList pmsg with
    | none => some (client.depthEventParser, none)
    | some format => decodePayload readers clock rawtime ev client.depthEventParser format pmsg.payload pmsg.behind

def handleMessage (client : Client) (ev : VscpEvent) (pmsg : Message) : Option (Bool × Client) :=
  (readMessage readers clock rawtime client ev pmsg).map fun decoded =>
    let client := { client with depthEventParser := decoded.1 }
    match decoded.2 with
    | none => (false, client)
    | some read => handleEvent client read

end

inductive Target where
  | ev
  | ex
  | msg
deriving DecidableEq

inductive ReceiveError where
  | fifoEmpty
  | memory
  | timeout
  | error
deriving DecidableEq

def convertFor (target : Target) (pev : VscpEvent) : Bool :=
  match target with
  | .ev => (copyEvent pev).isSome
  | .ex => (convertEventToEventEx emptyEventEx pev).isSome
  | .msg => (convertEventToCanal blankMsg pev).isSome

def receive (client : Client) (target : Target) : Except ReceiveError VscpEvent × Client :=
  match client.receiveQueue with
  | [] => (.error .fifoEmpty, client)
  | pev :: rest =>
      let client := { client with receiveQueue := rest }
      if convertFor target pev then (.ok pev, client) else (.error .memory, client)

-- vscp_sem_wait takes no wait of four seconds or more. Nothing is posted while a call waits here; a post in that time
-- is one before the call.
def semWait (client : Client) (waitms : UInt32) : Option Client :=
  if 4000 ≤ waitms then none
  else if client.semReceiveQueue = 0 then none
  else some { client with semReceiveQueue := client.semReceiveQueue - 1 }

-- What errno says where the wait is refused does not come from it.
def receiveBlocking (client : Client) (target : Target) (timeout : UInt32) (errnoTimedOut : Bool) :
    Except ReceiveError VscpEvent × Client :=
  match semWait client timeout with
  | none => (.error (if timeout < 4000 ∨ errnoTimedOut then .timeout else .error), client)
  | some client => receive client target

def clear (client : Client) : Client := { client with receiveQueue := [] }

end Vscp.Mqtt
