import Vscp.EventCopies
import Vscp.MqttQueue

set_option autoImplicit false

namespace Vscp.Mqtt

open RemoteTcp (Text split)

def nullGuid : Guid := Vector.replicate 16 0

-- A field of the event that is zero is taken from the topic, vscp/<vscp-guid>/<vscp-class>/<vscp-type> and more.
def writeEventDefaultsFromTopic (useTopicForEventDefaults : Bool) (ex : VscpEventEx) (topic : Text) : VscpEventEx :=
  if useTopicForEventDefaults then
    match split (cString topic) '/' with
    | _ :: guid :: vscpClass :: vscpType :: _ =>
        { ex with
          guid := if ex.guid = nullGuid then guidFromString guid else ex.guid
          vscpClass := if ex.vscpClass = 0 then UInt16.ofInt (readStringValue vscpClass) else ex.vscpClass
          vscpType := if ex.vscpType = 0 then UInt16.ofInt (readStringValue vscpType) else ex.vscpType }
    | _ => ex
  else ex

inductive Delivery where
  | callbackEv (ev : VscpEvent)
  | callbackEx (ex : VscpEventEx)
  | queued (pEvent : VscpEvent)

-- The event that handleEvent has put behind the queue; a queue that is full takes nothing.
def savedEvent (client : Client) (ev : VscpEvent) : Option VscpEvent :=
  ((handleEvent client ev).2.receiveQueue.drop client.receiveQueue.length).head?

-- Whom handleEvent gives what. `old` is the eventEx as it lies on the stack.
def deliverEvent (useTopic : Bool) (client : Client) (old : VscpEventEx) (ev : VscpEvent) (topic : Text) :
    Option Delivery :=
  match convertEventToEventEx old ev with
  | none => none
  | some ex =>
      let ex := writeEventDefaultsFromTopic useTopic ex topic
      if client.callbackEvActive then some (.callbackEv ev)
      else if client.callbackExActive then some (.callbackEx ex)
      else (savedEvent client ev).map .queued

section

variable (readers : Readers) (clock : Clock) (rawtime : UInt64)

def messageEvent (client : Client) (ev : VscpEvent) (pmsg : Message) : Option VscpEvent :=
  (readMessage readers clock rawtime client ev pmsg).bind Prod.snd

def deliverMessage (useTopic : Bool) (client : Client) (ev : VscpEvent) (old : VscpEventEx) (pmsg : Message) :
    Option Delivery :=
  (messageEvent readers clock rawtime client ev pmsg).bind fun read => deliverEvent useTopic client old read pmsg.topic

end

theorem saved_copied (client : Client) (ev pEvent : VscpEvent) (saved : savedEvent client ev = some pEvent) :
    copyEvent ev = some pEvent := by
  have unsaved (after : Client) (same : after.receiveQueue = client.receiveQueue) :
      (after.receiveQueue.drop client.receiveQueue.length).head? ≠ some pEvent := by
    rw [same, List.drop_length]
    exact nofun
  unfold savedEvent handleEvent at saved
  split at saved
  · exact absurd saved (unsaved _ rfl)
  · split at saved
    · exact absurd saved (unsaved _ rfl)
    · cases copied : copyEvent ev with
      | none =>
          rw [copied] at saved
          exact absurd saved (unsaved _ rfl)
      | some copy =>
          rw [copied] at saved
          rcases save_event_cases client copy with full | room
          · exact absurd saved (unsaved _ (congrArg Client.receiveQueue full))
          · simp only [room, List.drop_left] at saved
            exact saved

inductive Way where
  | callbackEv
  | callbackEx
  | queue

def Client.by (client : Client) : Way → Client
  | .callbackEv => { client with callbackEvActive := true }
  | .callbackEx => { client with callbackEvActive := false, callbackExActive := true }
  | .queue => { client with callbackEvActive := false, callbackExActive := false }

def Delivery.asEx (old : VscpEventEx) : Delivery → Option VscpEventEx
  | .callbackEv ev => convertEventToEventEx old ev
  | .callbackEx ex => some ex
  | .queued pEvent => convertEventToEventEx old pEvent

def DeliveriesAgree (readers : Readers) (clock : Clock) (rawtime : UInt64) (useTopic : Bool) (client : Client)
    (ev : VscpEvent) (old : VscpEventEx) (pmsg : Message) : Prop :=
  ∀ (one other : Way) (first second : Delivery),
    deliverMessage readers clock rawtime useTopic (client.by one) ev old pmsg = some first →
    deliverMessage readers clock rawtime useTopic (client.by other) ev old pmsg = some second →
    first.asEx old = second.asEx old

-- The topic is not used, has no GUID, class and type, or has nothing but zeros for the fields that are zero.
def TopicIsIdle (useTopic : Bool) (ev : VscpEvent) (topic : Text) : Prop :=
  ∀ vscp guid vscpClass vscpType rest,
    useTopic = true → split (cString topic) '/' = vscp :: guid :: vscpClass :: vscpType :: rest →
      (ev.guid = nullGuid → guidFromString guid = nullGuid) ∧
      (ev.vscpClass = 0 → UInt16.ofInt (readStringValue vscpClass) = 0) ∧
      (ev.vscpType = 0 → UInt16.ofInt (readStringValue vscpType) = 0)

theorem defaults_idle_iff (useTopic : Bool) (old ex : VscpEventEx) (ev : VscpEvent) (topic : Text)
    (converted : convertEventToEventEx old ev = some ex) :
    writeEventDefaultsFromTopic useTopic ex topic = ex ↔ TopicIsIdle useTopic ev topic := by
  have fields : ex.guid = ev.guid ∧ ex.vscpClass = ev.vscpClass ∧ ex.vscpType = ev.vscpType := by
    rw [convertEventToEventEx] at converted
    split at converted
    · cases converted
    · cases converted
      exact ⟨rfl, rfl, rfl⟩
  obtain ⟨guid, vscpClass, vscpType⟩ := fields
  rw [writeEventDefaultsFromTopic]
  by_cases used : useTopic = true
  · rw [if_pos used]
    rcases parts : split (cString topic) '/' with _ | ⟨a, _ | ⟨b, _ | ⟨c, _ | ⟨d, rest⟩⟩⟩⟩
    · refine iff_of_true rfl fun _ _ _ _ _ _ found => ?_
      rw [parts] at found
      cases found
    · refine iff_of_true rfl fun _ _ _ _ _ _ found => ?_
      rw [parts] at found
      cases found
    · refine iff_of_true rfl fun _ _ _ _ _ _ found => ?_
      rw [parts] at found
      cases found
    · refine iff_of_true rfl fun _ _ _ _ _ _ found => ?_
      rw [parts] at found
      cases found
    · dsimp only
      constructor
      · intro same vscp _ _ _ _ _ found
        rw [parts] at found
        cases found
        refine ⟨fun zero => ?_, fun zero => ?_, fun zero => ?_⟩
        · have own := congrArg VscpEventEx.guid same
          dsimp only at own
          rw [guid, if_pos zero, zero] at own
          exact own
        · have own := congrArg VscpEventEx.vscpClass same
          dsimp only at own
          rw [vscpClass, if_pos zero, zero] at own
          exact own
        · have own := congrArg VscpEventEx.vscpType same
          dsimp only at own
          rw [vscpType, if_pos zero, zero] at own
          exact own
      · intro idle
        obtain ⟨noGuid, noClass, noType⟩ := idle a b c d rest used parts
        have guidKept : (if ex.guid = nullGuid then guidFromString b else ex.guid) = ex.guid := by
          split
          · next zero => rw [noGuid (guid ▸ zero), zero]
          · rfl
        have classKept : (if ex.vscpClass = 0 then UInt16.ofInt (readStringValue c) else ex.vscpClass) = ex.vscpClass := by
          split
          · next zero => rw [noClass (vscpClass ▸ zero), zero]
          · rfl
        have typeKept : (if ex.vscpType = 0 then UInt16.ofInt (readStringValue d) else ex.vscpType) = ex.vscpType := by
          split
          · next zero => rw [noType (vscpType ▸ zero), zero]
          · rfl
        rw [guidKept, classKept, typeKept]
  · rw [if_neg used]
    exact iff_of_true rfl fun _ _ _ _ _ on => absurd on used

theorem data_bytes_overlay (ev : VscpEvent) (old : Vector UInt8 512) :
    overlay ev.dataBytes ev.sizeData.toNat old = overlay (ev.pdata.getD []) ev.sizeData.toNat old := by
  apply Vector.ext
  intro i inside
  simp only [overlay, Vector.getElem_ofFn]
  by_cases front : i < ev.sizeData.toNat
  · rw [if_pos front, if_pos front, VscpEvent.dataBytes, List.getD_eq_getElem?_getD, List.getElem?_map,
      List.getElem?_range front]
    rfl
  · rw [if_neg front, if_neg front]

theorem copy_converted (old ex : VscpEventEx) (ev pEvent : VscpEvent) (converted : convertEventToEventEx old ev = some ex)
    (copied : copyEvent ev = some pEvent) : convertEventToEventEx old pEvent = some ex := by
  rw [copyEvent] at copied
  split at copied
  · cases copied
  · next fits =>
      cases copied
      rw [← converted, convertEventToEventEx, convertEventToEventEx, time_block_parts, ite_self]
      dsimp only
      have refused : ¬ (ev.sizeData.toNat > maxData ∨ (ev.sizeData ≠ 0 ∧ ev.pdata = none)) := by
        intro refused
        rw [convertEventToEventEx, if_pos refused] at converted
        cases converted
      by_cases empty : ev.sizeData = 0
      · have same : overlay [] 0 old.data = overlay (ev.pdata.getD []) 0 old.data := by
          rw [overlay_nothing, overlay_nothing]
        rw [if_pos empty, if_neg refused, empty, if_neg (by simp)]
        split <;> simp only [Option.getD_none, UInt16.toNat_zero, same]
      · rw [if_neg empty, if_neg refused, if_neg (by simp [Nat.not_lt.mp fits])]
        split <;> simp only [Option.getD_some, data_bytes_overlay]

section

variable (useTopic : Bool) (client : Client) (old ex : VscpEventEx) (ev : VscpEvent) (topic : Text)
  (converted : convertEventToEventEx old ev = some ex)

include converted

theorem delivered_as_converted (idle : TopicIsIdle useTopic ev topic) (delivery : Delivery)
    (delivered : deliverEvent useTopic client old ev topic = some delivery) : delivery.asEx old = some ex := by
  rw [deliverEvent, converted] at delivered
  dsimp only at delivered
  rw [(defaults_idle_iff useTopic old ex ev topic converted).mpr idle] at delivered
  split at delivered
  · cases delivered
    exact converted
  · split at delivered
    · cases delivered
      rfl
    · obtain ⟨pEvent, saved, rfl⟩ := Option.map_eq_some_iff.mp delivered
      exact copy_converted old ex ev pEvent converted (saved_copied client ev pEvent saved)

theorem delivered_callbacks :
    deliverEvent useTopic (client.by .callbackEv) old ev topic = some (.callbackEv ev) ∧
    deliverEvent useTopic (client.by .callbackEx) old ev topic =
      some (.callbackEx (writeEventDefaultsFromTopic useTopic ex topic)) := by
  rw [deliverEvent, deliverEvent, converted]
  exact ⟨rfl, rfl⟩

end

theorem deliveries_agree_iff (readers : Readers) (clock : Clock) (rawtime : UInt64) (useTopic : Bool) (client : Client)
    (ev : VscpEvent) (old : VscpEventEx) (pmsg : Message) :
    DeliveriesAgree readers clock rawtime useTopic client ev old pmsg ↔
      ∀ read, messageEvent readers clock rawtime client ev pmsg = some read →
        (convertEventToEventEx old read).isSome → TopicIsIdle useTopic read pmsg.topic := by
  have payload (way : Way) : messageEvent readers clock rawtime (client.by way) ev pmsg =
      messageEvent readers clock rawtime client ev pmsg := by
    cases way <;> rfl
  simp only [DeliveriesAgree, deliverMessage, payload]
  cases found : messageEvent readers clock rawtime client ev pmsg with
  | none =>
      refine iff_of_true (fun _ _ _ _ delivered => ?_) fun _ some' => ?_
      · cases delivered
      · cases some'
  | some read =>
      simp only [Option.bind_some]
      constructor
      · rintro agree _ ⟨⟩ converts
        obtain ⟨ex, converted⟩ := Option.isSome_iff_exists.mp converts
        obtain ⟨plain, extended⟩ := delivered_callbacks useTopic client old ex read pmsg.topic converted
        have same := agree .callbackEv .callbackEx _ _ plain extended
        rw [Delivery.asEx, Delivery.asEx, converted] at same
        exact (defaults_idle_iff useTopic old ex read pmsg.topic converted).mp (Option.some.inj same).symm
      · intro idle one other first second firstIs secondIs
        cases converted : convertEventToEventEx old read with
        | none =>
            rw [deliverEvent, converted] at firstIs
            cases firstIs
        | some ex =>
            have nothing := idle read rfl (by rw [converted]; rfl)
            rw [delivered_as_converted useTopic _ old ex read pmsg.topic converted nothing first firstIs,
              delivered_as_converted useTopic _ old ex read pmsg.topic converted nothing second secondIs]

def classlessMessage : Message :=
  ⟨"vscp/-/20/3".toList, ['2', '5', '6', ',', '0', ',', '3', ',', '0', ',', ',', '5', ',', '-'], []⟩

-- The callback for eventEx is given class 20, the other callback and the queue class 0.
theorem classless_delivered :
    (∃ ev, deliverMessage plainReaders exampleClock 0 true (newClient.by .callbackEv) emptyEvent emptyEventEx
      classlessMessage = some (.callbackEv ev) ∧ ev.vscpClass = 0) ∧
    (∃ ex, deliverMessage plainReaders exampleClock 0 true (newClient.by .callbackEx) emptyEvent emptyEventEx
      classlessMessage = some (.callbackEx ex) ∧ ex.vscpClass = 20) ∧
    (∃ pEvent, deliverMessage plainReaders exampleClock 0 true (newClient.by .queue) emptyEvent emptyEventEx
      classlessMessage = some (.queued pEvent) ∧ pEvent.vscpClass = 0) ∧
    ¬ DeliveriesAgree plainReaders exampleClock 0 true newClient emptyEvent emptyEventEx classlessMessage := by
  refine ⟨⟨_, rfl, by decide⟩, ⟨_, rfl, by decide⟩, ⟨_, rfl, by decide⟩, fun agree => ?_⟩
  have same := agree .callbackEv .callbackEx _ _ rfl rfl
  exact absurd (congrArg (Option.map VscpEventEx.vscpClass) same) (by decide)

end Vscp.Mqtt
