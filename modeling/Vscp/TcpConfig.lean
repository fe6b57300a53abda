import Vscp.FilterDocuments
import Vscp.Lib.JsonFlat

set_option autoImplicit false

namespace Vscp.TcpConfig

open FieldRecord JsonText
open GuidWriters (Cguid.toString)
open RemoteTcp (Text)

inductive TlsMode where
  | autoSelect
  | forcePlain
  | forceTls
deriving DecidableEq

structure Config where
  strHostname : Text
  strUsername : Text
  strPassword : Text
  bFullLevel2 : Bool
  guidif : Guid
  bTLS : Bool
  tlsMode : TlsMode
  bVerifyPeer : Bool
  cafile : Text
  capath : Text
  certfile : Text
  keyfile : Text
  pwKeyfile : Text
  filterIn : VscpEventFilter
  bPolling : Bool
  bSingleChannelReceiveLoop : Bool
  bBinaryMode : Bool
deriving DecidableEq

-- An automatic choice keeps the legacy flag.
def setTLSMode (mode : TlsMode) (config : Config) : Config :=
  match mode with
  | .forceTls => { config with tlsMode := .forceTls, bTLS := true }
  | .forcePlain => { config with tlsMode := .forcePlain, bTLS := false }
  | .autoSelect => { config with tlsMode := .autoSelect }

structure Activity where
  singleChannelRunning : Bool
  singleChannelWorker : Bool
  binarySendWorker : Bool
  pollWorker : Bool
  connected : Bool
  receiveConnected : Bool

def idle : Activity := ⟨false, false, false, false, false, false⟩

inductive Field where
  | host
  | user
  | password
  | fullLevel2
  | selectedInterface
  | tls
  | tlsMode
  | verifyPeer
  | cafile
  | capath
  | certfile
  | keyfile
  | pwKeyfile
  | filter (field : FilterField)
deriving DecidableEq

namespace Field

def filterName : FilterField → Text
  | .maskPriority => "priority-mask".toList
  | .maskClass => "class-mask".toList
  | .maskType => "type-mask".toList
  | .maskGuid => "guid-mask".toList
  | .filterPriority => "priority-filter".toList
  | .filterClass => "class-filter".toList
  | .filterType => "type-filter".toList
  | .filterGuid => "guid-filter".toList

def name : Field → Text
  | .host => "host".toList
  | .user => "user".toList
  | .password => "password".toList
  | .fullLevel2 => "bfull-l2".toList
  | .selectedInterface => "selected-interface".toList
  | .tls => "btls".toList
  | .tlsMode => "tls-mode".toList
  | .verifyPeer => "bverifypeer".toList
  | .cafile => "cafile".toList
  | .capath => "capath".toList
  | .certfile => "certfile".toList
  | .keyfile => "keyfile".toList
  | .pwKeyfile => "pwkeyfile".toList
  | .filter field => filterName field

abbrev Content : Field → Type
  | .host => Text
  | .user => Text
  | .password => Text
  | .fullLevel2 => Bool
  | .selectedInterface => Guid
  | .tls => Bool
  | .tlsMode => TlsMode
  | .verifyPeer => Bool
  | .cafile => Text
  | .capath => Text
  | .certfile => Text
  | .keyfile => Text
  | .pwKeyfile => Text
  | .filter field => field.Content

def content : (field : Field) → Config → field.Content
  | .host, config => config.strHostname
  | .user, config => config.strUsername
  | .password, config => config.strPassword
  | .fullLevel2, config => config.bFullLevel2
  | .selectedInterface, config => config.guidif
  | .tls, config => config.bTLS
  | .tlsMode, config => config.tlsMode
  | .verifyPeer, config => config.bVerifyPeer
  | .cafile, config => config.cafile
  | .capath, config => config.capath
  | .certfile, config => config.certfile
  | .keyfile, config => config.keyfile
  | .pwKeyfile, config => config.pwKeyfile
  | .filter field, config => field.content config.filterIn

def store : (field : Field) → field.Content → Config → Config
  | .host, value, config => { config with strHostname := value }
  | .user, value, config => { config with strUsername := value }
  | .password, value, config => { config with strPassword := value }
  | .fullLevel2, value, config => { config with bFullLevel2 := value }
  | .selectedInterface, value, config => { config with guidif := value }
  | .tls, value, config => { config with bTLS := value }
  | .tlsMode, value, config => { config with tlsMode := value }
  | .verifyPeer, value, config => { config with bVerifyPeer := value }
  | .cafile, value, config => { config with cafile := value }
  | .capath, value, config => { config with capath := value }
  | .certfile, value, config => { config with certfile := value }
  | .keyfile, value, config => { config with keyfile := value }
  | .pwKeyfile, value, config => { config with pwKeyfile := value }
  | .filter field, value, config => { config with filterIn := field.store value config.filterIn }

-- The selected mode takes the legacy flag with it.
def assigned : (field : Field) → field.Content → Config → Config
  | .tlsMode, mode, config => { config with tlsMode := mode, bTLS := mode = .forceTls }
  | field, value, config => field.store value config

theorem lawful : FieldRecord.Lawful content store where
  stored field value record := by
    cases field with
    | filter field => exact FilterField.lawful.stored field value record.filterIn
    | _ => rfl
  others field different value record apart := by
    cases field with
    | filter field =>
        cases different with
        | filter other =>
            exact FilterField.lawful.others field other value record.filterIn fun same => apart (by rw [same])
        | _ => rfl
    | _ => cases different <;> first | rfl | exact absurd rfl apart
  same field record := by
    cases field with
    | filter field =>
        change { record with filterIn := field.store (field.content record.filterIn) record.filterIn } = record
        rw [FilterField.lawful.same]
    | _ => rfl

end Field

def tlsModeText : TlsMode → Text
  | .forceTls => "force-tls".toList
  | .forcePlain => "force-plain".toList
  | .autoSelect => "auto".toList

def tlsModeOf (text : Text) : TlsMode :=
  let mode := makeLower text
  if mode = "force-tls".toList ∨ mode = "tls".toList ∨ mode = "on".toList ∨ mode = "true".toList then .forceTls
  else if mode = "force-plain".toList ∨ mode = "plain".toList ∨ mode = "off".toList ∨ mode = "false".toList then
    .forcePlain
  else .autoSelect

def writtenFilter (pFilter : VscpEventFilter) : FilterField → Value
  | .maskPriority => .numberUnsigned (UInt64.ofNat pFilter.maskPriority.toNat)
  | .maskClass => .numberUnsigned (UInt64.ofNat pFilter.maskClass.toNat)
  | .maskType => .numberUnsigned (UInt64.ofNat pFilter.maskType.toNat)
  | .maskGuid => .string (GuidWriters.writeGuidArrayToString pFilter.maskGuid false .normal)
  | .filterPriority => .numberUnsigned (UInt64.ofNat pFilter.filterPriority.toNat)
  | .filterClass => .numberUnsigned (UInt64.ofNat pFilter.filterClass.toNat)
  | .filterType => .numberUnsigned (UInt64.ofNat pFilter.filterType.toNat)
  | .filterGuid => .string (GuidWriters.writeGuidArrayToString pFilter.filterGuid false .normal)

-- The flag in the document is made from the mode, not from the legacy flag.
def Field.written : Field → Config → Value
  | .host, config => .string config.strHostname
  | .user, config => .string config.strUsername
  | .password, config => .string config.strPassword
  | .fullLevel2, config => .boolean config.bFullLevel2
  | .selectedInterface, config => .string (Cguid.toString config.guidif)
  | .tls, config => .boolean (config.tlsMode = .forceTls)
  | .tlsMode, config => .string (tlsModeText config.tlsMode)
  | .verifyPeer, config => .boolean config.bVerifyPeer
  | .cafile, config => .string config.cafile
  | .capath, config => .string config.capath
  | .certfile, config => .string config.certfile
  | .keyfile, config => .string config.keyfile
  | .pwKeyfile, config => .string config.pwKeyfile
  | .filter field, config => writtenFilter config.filterIn field

def account : List Field := [.host, .user, .password]
def interfaceFields : List Field := [.fullLevel2, .selectedInterface]
def certificates : List Field := [.verifyPeer, .cafile, .capath, .certfile, .keyfile, .pwKeyfile]

def filters : List Field :=
  [.filter .filterPriority, .filter .maskPriority, .filter .filterClass, .filter .maskClass, .filter .filterType,
    .filter .maskType, .filter .filterGuid, .filter .maskGuid]

def front : List Field := account ++ interfaceFields
def connection : List Field := front ++ .tls :: .tlsMode :: certificates

def Field.member (config : Config) (field : Field) : Text × Value := (field.name, field.written config)

def configMembers (config : Config) : List (Text × Value) :=
  account.map (Field.member config) ++
    [("bpoll".toList, .boolean config.bPolling),
      ("single-channel".toList, .boolean config.bSingleChannelReceiveLoop),
      ("binary-mode".toList, .boolean config.bBinaryMode),
      ("connection-timeout".toList, .numberInteger 0),
      ("response-timeout".toList, .numberInteger 0)] ++
    (interfaceFields ++ .tls :: .tlsMode :: certificates ++ filters).map (Field.member config)

def booleanOf (value : Value) : Option Bool :=
  match value with
  | .boolean truth => some truth
  | _ => none

def booleanOr (j : Value) (name : Text) (default : Bool) : Option Bool :=
  match j with
  | .object _ =>
      match j.member name with
      | some value => booleanOf value
      | none => some default
  | _ => none

structure Modes where
  polling : Bool
  singleChannel : Bool
  binary : Bool

def modesOf (config : Config) (j : Value) : Option Modes := do
  let polling ← booleanOr j "bpoll".toList config.bPolling
  let singleChannel ← booleanOr j "single-channel".toList config.bSingleChannelReceiveLoop
  let binary ← booleanOr j "binary-mode".toList config.bBinaryMode
  some ⟨polling, singleChannel, binary⟩

def usesManagedReceive (config : Config) : Bool := config.bSingleChannelReceiveLoop || config.bBinaryMode

def refuses (activity : Activity) (config : Config) (modes : Modes) : Bool :=
  (modes.polling && modes.singleChannel) ||
    (usesManagedReceive config &&
      (activity.singleChannelRunning || activity.singleChannelWorker || activity.binarySendWorker)) ||
    ((modes.singleChannel != config.bSingleChannelReceiveLoop || modes.binary != config.bBinaryMode) &&
      (activity.singleChannelWorker || activity.binarySendWorker || activity.pollWorker || activity.connected ||
        activity.receiveConnected))

section

-- json::parse and dump, and the casts of floating point numbers.
variable (parse : Text → Except JsonFailure Value) (dump : Value → Option Text) (castToByte : Text → UInt8)
  (castToUint16 : Text → UInt16)

def getConfigAsJson (config : Config) : Option Text := dump (.object (configMembers config))

def Field.get : (field : Field) → Value → Option field.Content
  | .host, value => stringOf (some value)
  | .user, value => stringOf (some value)
  | .password, value => stringOf (some value)
  | .fullLevel2, value => booleanOf value
  | .selectedInterface, value => (stringOf (some value)).map guidFromString
  | .tls, value => booleanOf value
  | .tlsMode, value => (stringOf (some value)).map tlsModeOf
  | .verifyPeer, value => booleanOf value
  | .cafile, value => stringOf (some value)
  | .capath, value => stringOf (some value)
  | .certfile, value => stringOf (some value)
  | .keyfile, value => stringOf (some value)
  | .pwKeyfile, value => stringOf (some value)
  | .filter field, value => field.get castToByte castToUint16 value

def Field.reading (j : Value) (field : Field) : Reading field.Content :=
  match j.member field.name with
  | none => .absent
  | some value =>
      match field.get castToByte castToUint16 value with
      | none => .refused
      | some content => .given content

def bHasTlsMode (j : Value) : Bool := (j.member Field.tlsMode.name).isSome

def selectedMode (bTLS : Bool) : TlsMode := if bTLS then .forceTls else .autoSelect

-- An exception leaves what was assigned before it.
def initMembers (j : Value) (config : Config) : Bool × Config :=
  let connected := assign Field.assigned (Field.reading castToByte castToUint16 j) connection config
  if connected.1 then
    assign Field.assigned (Field.reading castToByte castToUint16 j) filters
      (if bHasTlsMode j then connected.2 else { connected.2 with tlsMode := selectedMode connected.2.bTLS })
  else connected

def initFromJson (activity : Activity) (config : Config) (text : Text) : Bool × Config :=
  match parse text with
  | .error _ => (false, config)
  | .ok j =>
      match modesOf config j with
      | none => (false, config)
      | some modes =>
          if refuses activity config modes then (false, config)
          else
            let read := initMembers castToByte castToUint16 j config
            if read.1 then
              (true, { read.2 with
                bPolling := modes.polling
                bSingleChannelReceiveLoop := modes.singleChannel
                bBinaryMode := modes.binary })
            else read

-- The same members as a reader that sets each field once: a mode that is named decides the legacy flag too, and
-- behind the certificates the flag decides a mode that is not named.
def settled (j : Value) (config : Config) : (field : Field) → Reading field.Content
  | .tls =>
      match Field.reading castToByte castToUint16 j .tls with
      | .refused => .refused
      | flag =>
          match Field.reading castToByte castToUint16 j .tlsMode with
          | .given mode => .given (mode = .forceTls)
          | _ => flag
  | .tlsMode =>
      match Field.reading castToByte castToUint16 j .tlsMode with
      | .absent =>
          match Field.reading castToByte castToUint16 j .tls with
          | .given flag => .given (selectedMode flag)
          | _ => .given (selectedMode config.bTLS)
      | mode => mode
  | field => Field.reading castToByte castToUint16 j field

def steps (j : Value) : List Field :=
  if bHasTlsMode j then connection ++ filters else (front ++ .tls :: certificates) ++ .tlsMode :: filters

variable (j : Value) (config : Config) (field : Field)

theorem steps_distinct : (steps j).Nodup := by
  unfold steps
  split
  · decide
  · decide

theorem mode_absent (none : bHasTlsMode j = false) :
    Field.reading castToByte castToUint16 j .tlsMode = .absent := by
  have missing := Option.isSome_eq_false_iff.mp none
  have missing : j.member Field.tlsMode.name = Option.none := Option.isNone_iff_eq_none.mp missing
  rw [Field.reading, missing]

theorem mode_present (named : bHasTlsMode j = true) :
    Field.reading castToByte castToUint16 j .tlsMode ≠ .absent := by
  obtain ⟨value, held⟩ := Option.isSome_iff_exists.mp named
  simp only [Field.reading, held]
  cases Field.get castToByte castToUint16 .tlsMode value with
  | none =>
      intro same
      cases same
  | some mode =>
      intro same
      cases same

theorem others_alike (config record : Config) (fields : List Field)
    (other : ∀ field ∈ fields, field ≠ .tls ∧ field ≠ .tlsMode) :
    assign Field.assigned (Field.reading castToByte castToUint16 j) fields record =
      assign Field.store (settled castToByte castToUint16 j config) fields record := by
  apply assign_alike
  · intro field inside
    obtain ⟨_, noMode⟩ := other field inside
    cases field with
    | tlsMode => exact absurd rfl noMode
    | _ => rfl
  · intro field inside
    obtain ⟨noFlag, noMode⟩ := other field inside
    cases field with
    | tls => exact absurd rfl noFlag
    | tlsMode => exact absurd rfl noMode
    | _ => rfl

theorem named_mode_settled (named : bHasTlsMode j = true) :
    assign Field.assigned (Field.reading castToByte castToUint16 j) connection config =
      assign Field.store (settled castToByte castToUint16 j config) connection config := by
  have before : ∀ field ∈ front, field ≠ .tls ∧ field ≠ .tlsMode := by decide
  have behind : ∀ field ∈ certificates, field ≠ .tls ∧ field ≠ .tlsMode := by decide
  have present := mode_present castToByte castToUint16 j named
  rw [connection, assign_append, assign_append, others_alike castToByte castToUint16 j config config front before]
  generalize assign Field.store (settled castToByte castToUint16 j config) front config = left
  congr 1
  have files := fun record => others_alike castToByte castToUint16 j config record certificates behind
  rw [assign, assign, assign]
  cases mode : Field.reading castToByte castToUint16 j .tlsMode with
  | absent => exact absurd mode present
  | refused =>
      cases flag : Field.reading castToByte castToUint16 j .tls with
      | absent => simp [settled, flag, mode, assign]
      | refused => simp [settled, flag]
      | given value => simp [settled, flag, mode, assign, Field.assigned]
  | given selected =>
      cases flag : Field.reading castToByte castToUint16 j .tls with
      | absent => simp [settled, flag, mode, assign, files, Field.assigned, Field.store]
      | refused => simp [settled, flag]
      | given value => simp [settled, flag, mode, assign, files, Field.assigned, Field.store]

theorem unnamed_mode_settled (unnamed : bHasTlsMode j = false) :
    assign Field.assigned (Field.reading castToByte castToUint16 j) connection config =
      assign Field.store (settled castToByte castToUint16 j config) (front ++ .tls :: certificates) config := by
  have before : ∀ field ∈ front, field ≠ .tls ∧ field ≠ .tlsMode := by decide
  have behind : ∀ field ∈ certificates, field ≠ .tls ∧ field ≠ .tlsMode := by decide
  have absent := mode_absent castToByte castToUint16 j unnamed
  rw [connection, assign_append, assign_append, others_alike castToByte castToUint16 j config config front before]
  generalize assign Field.store (settled castToByte castToUint16 j config) front config = left
  congr 1
  have files := fun record => others_alike castToByte castToUint16 j config record certificates behind
  rw [assign, assign]
  cases flag : Field.reading castToByte castToUint16 j .tls with
  | absent => simp [settled, flag, absent, assign, files]
  | refused => simp [settled, flag, assign]
  | given value => simp [settled, flag, absent, assign, files, Field.assigned]

theorem unnamed_mode (unnamed : bHasTlsMode j = false)
    (read : Bool × Config)
    (result :
      assign Field.store (settled castToByte castToUint16 j config) (front ++ .tls :: certificates) config = read)
    (success : read.1 = true) :
    settled castToByte castToUint16 j config .tlsMode = .given (selectedMode read.2.bTLS) := by
  subst result
  have absent := mode_absent castToByte castToUint16 j unnamed
  have held := assign_content (settled castToByte castToUint16 j config) Field.lawful (front ++ .tls :: certificates)
    (by decide) .tls (by decide) config success
  simp only [Field.content] at held
  rw [held]
  cases flag : Field.reading castToByte castToUint16 j .tls with
  | absent => simp [settled, flag, absent]
  | refused => simp [settled, flag, absent]
  | given value => simp [settled, flag, absent]

theorem members_settled :
    initMembers castToByte castToUint16 j config =
      assign Field.store (settled castToByte castToUint16 j config) (steps j) config := by
  have behind : ∀ field ∈ filters, field ≠ .tls ∧ field ≠ .tlsMode := by decide
  have last := fun record => others_alike castToByte castToUint16 j config record filters behind
  rw [initMembers, steps]
  cases named : bHasTlsMode j with
  | true =>
      rw [named_mode_settled castToByte castToUint16 j config named, if_pos rfl, if_pos rfl, assign_append]
      simp only [last]
  | false =>
      rw [unnamed_mode_settled castToByte castToUint16 j config named, if_neg Bool.false_ne_true,
        if_neg Bool.false_ne_true, assign_append _ _ (front ++ .tls :: certificates)]
      simp only [last]
      generalize result :
        assign Field.store (settled castToByte castToUint16 j config) (front ++ .tls :: certificates) config = read
      by_cases success : read.1 = true
      · have mode := unnamed_mode castToByte castToUint16 j config named read result success
        rw [if_pos success, if_pos success, assign, mode]
        rfl
      · rw [if_neg success, if_neg success]

-- The members in front of the first one that cannot be read say what the configuration holds already.
def FailsClean (activity : Activity) (config : Config) (text : Text) : Prop :=
  ∀ j modes, parse text = .ok j → modesOf config j = some modes → refuses activity config modes = false →
    ∀ before, FirstRefused (settled castToByte castToUint16 j config) (steps j) before →
      Stands Field.content (settled castToByte castToUint16 j config) before config

variable (activity : Activity)

theorem fails_clean_early (config : Config) (text : Text)
    (refused : ∀ j modes, parse text = .ok j → modesOf config j = some modes → refuses activity config modes = true) :
    FailsClean parse castToByte castToUint16 activity config text := by
  intro j modes parsed chosen allowed
  rw [refused j modes parsed chosen] at allowed
  cases allowed

theorem fails_clean_members (config : Config) (text : Text) (j : Value) (modes : Modes)
    (parsed : parse text = .ok j) (chosen : modesOf config j = some modes)
    (allowed : refuses activity config modes = false) :
    FailsClean parse castToByte castToUint16 activity config text ↔
      ((initMembers castToByte castToUint16 j config).1 = false →
        (initMembers castToByte castToUint16 j config).2 = config) := by
  rw [members_settled, failure_keeps_iff (settled castToByte castToUint16 j config) Field.lawful (steps j)
    (steps_distinct j) config]
  constructor
  · exact fun clean => clean j modes parsed chosen allowed
  · intro clean other others same
    rw [parsed] at same
    cases same
    exact fun _ _ => clean

theorem rejected_config_kept_iff (config : Config) (text : Text) :
    ((initFromJson parse castToByte castToUint16 activity config text).1 = false →
      (initFromJson parse castToByte castToUint16 activity config text).2 = config) ↔
      FailsClean parse castToByte castToUint16 activity config text := by
  cases parsed : parse text with
  | error failure =>
      refine iff_of_true ?_ (fails_clean_early parse castToByte castToUint16 activity config text ?_)
      · intro _
        rw [initFromJson, parsed]
      · intro j modes same
        rw [parsed] at same
        cases same
  | ok j =>
      cases chosen : modesOf config j with
      | none =>
          refine iff_of_true ?_ (fails_clean_early parse castToByte castToUint16 activity config text ?_)
          · intro _
            simp only [initFromJson, parsed, chosen]
          · intro other modes same held
            rw [parsed] at same
            cases same
            rw [chosen] at held
            cases held
      | some modes =>
          cases refused : refuses activity config modes with
          | true =>
              refine iff_of_true ?_ (fails_clean_early parse castToByte castToUint16 activity config text ?_)
              · intro _
                simp [initFromJson, parsed, chosen, refused]
              · intro other others same held
                rw [parsed] at same
                cases same
                rw [chosen] at held
                cases held
                exact refused
          | false =>
              rw [fails_clean_members parse castToByte castToUint16 activity config text j modes parsed chosen refused]
              simp only [initFromJson, parsed, chosen, refused, Bool.false_eq_true, if_false]
              cases success : (initMembers castToByte castToUint16 j config).1 with
              | true => simp
              | false => simp [success]

-- What is relied on: an object with flat members is written where its texts are UTF-8, and is read back then.
structure DumpLaw (isUtf8 : Text → Bool) : Prop where
  plain : ∀ text, text.all isPlain = true → isUtf8 text = true
  writes : ∀ members : List (Text × Value), (∀ member ∈ members, IsFlat member.2) →
    ((dump (.object members)).isSome ↔ ∀ member ∈ members,
      isUtf8 member.1 = true ∧ ∀ letters, member.2 = .string letters → isUtf8 letters = true)
  reads : ∀ members : List (Text × Value), (∀ member ∈ members, IsFlat member.2) → (members.map Prod.fst).Nodup →
    ∀ text, dump (.object members) = some text → ∃ others, parse text = .ok (.object others) ∧
      ∀ name, (Value.object others).member name = ((Value.object members).member name).map unsignedValue

def configTexts (config : Config) : List Text :=
  [config.strHostname, config.strUsername, config.strPassword, config.cafile, config.capath, config.certfile,
    config.keyfile, config.pwKeyfile]

-- The configurations that the document can tell from each other.
structure Restorable (isUtf8 : Text → Bool) (config : Config) : Prop where
  texts : ∀ text ∈ configTexts config, isUtf8 text = true
  modes : (config.bPolling && config.bSingleChannelReceiveLoop) = false
  flag : config.bTLS = decide (config.tlsMode = .forceTls)

theorem names_distinct : ((configMembers config).map Prod.fst).Nodup := by
  change ["host".toList, "user".toList, "password".toList, "bpoll".toList, "single-channel".toList,
    "binary-mode".toList, "connection-timeout".toList, "response-timeout".toList, "bfull-l2".toList,
    "selected-interface".toList, "btls".toList, "tls-mode".toList, "bverifypeer".toList, "cafile".toList,
    "capath".toList, "certfile".toList, "keyfile".toList, "pwkeyfile".toList, "priority-filter".toList,
    "priority-mask".toList, "class-filter".toList, "class-mask".toList, "type-filter".toList, "type-mask".toList,
    "guid-filter".toList, "guid-mask".toList].Nodup
  decide

theorem field_written : field.member config ∈ configMembers config := by
  have listed : field ∈ account ∨ field ∈ interfaceFields ++ .tls :: .tlsMode :: certificates ++ filters := by
    cases field with
    | filter field => cases field <;> decide
    | _ => decide
  rcases listed with first | later
  · exact List.mem_append_left _ (List.mem_append_left _ (List.mem_map_of_mem first))
  · exact List.mem_append_right _ (List.mem_map_of_mem later)

theorem config_member_cases (member : Text × Value) (inside : member ∈ configMembers config) :
    (∃ field : Field, member = field.member config) ∨
      member ∈ [("bpoll".toList, Value.boolean config.bPolling),
        ("single-channel".toList, .boolean config.bSingleChannelReceiveLoop),
        ("binary-mode".toList, .boolean config.bBinaryMode), ("connection-timeout".toList, .numberInteger 0),
        ("response-timeout".toList, .numberInteger 0)] := by
  rcases List.mem_append.mp inside with early | late
  · rcases List.mem_append.mp early with first | others
    · obtain ⟨field, _, rfl⟩ := List.mem_map.mp first
      exact .inl ⟨field, rfl⟩
    · exact .inr others
  · obtain ⟨field, _, rfl⟩ := List.mem_map.mp late
    exact .inl ⟨field, rfl⟩

theorem config_flat : ∀ member ∈ configMembers config, IsFlat member.2 := by
  intro member inside
  rcases config_member_cases config member inside with ⟨field, rfl⟩ | other
  · cases field with
    | filter field => cases field <;> trivial
    | _ => trivial
  · simp only [List.mem_cons, List.not_mem_nil, or_false] at other
    rcases other with rfl | rfl | rfl | rfl | rfl
    · trivial
    · trivial
    · trivial
    · exact ⟨Int.le_refl 0, by decide⟩
    · exact ⟨Int.le_refl 0, by decide⟩

theorem field_name_plain : field.name.all isPlain = true := by
  cases field with
  | filter field => cases field <;> decide
  | _ => decide

theorem written_text_cases (letters : Text)
    (text : field.written config = .string letters) : letters ∈ configTexts config ∨ letters.all isPlain = true := by
  have guid : ∀ guid : Guid, (writeGuidToString guid).all isPlain = true :=
    fun guid => List.all_eq_true.mpr (guid_letters_plain guid)
  cases field with
  | filter field =>
      cases field with
      | maskGuid =>
          cases text
          exact .inr (guid config.filterIn.maskGuid)
      | filterGuid =>
          cases text
          exact .inr (guid config.filterIn.filterGuid)
      | _ => cases text
  | selectedInterface =>
      cases text
      exact .inr (guid config.guidif)
  | tlsMode =>
      cases text
      cases config.tlsMode <;> exact .inr (by decide)
  | fullLevel2 => cases text
  | tls => cases text
  | verifyPeer => cases text
  | _ =>
      cases text
      exact .inl (by simp [configTexts])

variable (isUtf8 : Text → Bool)

theorem configuration_written_iff (law : DumpLaw parse dump isUtf8) (config : Config) :
    (getConfigAsJson dump config).isSome ↔ ∀ text ∈ configTexts config, isUtf8 text = true := by
  rw [getConfigAsJson, law.writes _ (config_flat config)]
  constructor
  · intro written text inside
    have own := fun field letters held => (written _ (field_written config field)).2 letters held
    simp only [configTexts, List.mem_cons, List.not_mem_nil, or_false] at inside
    rcases inside with rfl | rfl | rfl | rfl | rfl | rfl | rfl | rfl
    · exact own .host _ rfl
    · exact own .user _ rfl
    · exact own .password _ rfl
    · exact own .cafile _ rfl
    · exact own .capath _ rfl
    · exact own .certfile _ rfl
    · exact own .keyfile _ rfl
    · exact own .pwKeyfile _ rfl
  · intro texts member inside
    rcases config_member_cases config member inside with ⟨field, rfl⟩ | other
    · refine ⟨law.plain _ (field_name_plain field), ?_⟩
      intro letters held
      rcases written_text_cases config field letters held with text | plain
      · exact texts letters text
      · exact law.plain letters plain
    · simp only [List.mem_cons, List.not_mem_nil, or_false] at other
      rcases other with rfl | rfl | rfl | rfl | rfl
      all_goals
        refine ⟨law.plain _ rfl, ?_⟩
        intro letters held
        cases held

def flagged (config : Config) : Config := { config with bTLS := config.tlsMode = .forceTls }

theorem mode_read (mode : TlsMode) : tlsModeOf (tlsModeText mode) = mode := by
  cases mode <;> decide

theorem field_read :
    field.get castToByte castToUint16 (unsignedValue (field.written config)) =
      some (field.content (flagged config)) := by
  cases field with
  | filter field =>
      cases field with
      | maskPriority => exact congrArg some (json_number8 config.filterIn.maskPriority)
      | maskClass => exact congrArg some (json_number16 config.filterIn.maskClass)
      | maskType => exact congrArg some (json_number16 config.filterIn.maskType)
      | maskGuid => exact congrArg some (guid_from_written config.filterIn.maskGuid)
      | filterPriority => exact congrArg some (json_number8 config.filterIn.filterPriority)
      | filterClass => exact congrArg some (json_number16 config.filterIn.filterClass)
      | filterType => exact congrArg some (json_number16 config.filterIn.filterType)
      | filterGuid => exact congrArg some (guid_from_written config.filterIn.filterGuid)
  | selectedInterface => exact congrArg some (guid_from_written config.guidif)
  | tlsMode => exact congrArg some (mode_read config.tlsMode)
  | _ => rfl

def Holds (j : Value) (config : Config) : Prop :=
  ∀ name value, (name, value) ∈ configMembers config → j.member name = some (unsignedValue value)

theorem settled_written (config other : Config) (holds : Holds j config) (field : Field) :
    settled castToByte castToUint16 j other field = .given (field.content (flagged config)) := by
  have own : ∀ field : Field,
      Field.reading castToByte castToUint16 j field = .given (field.content (flagged config)) := by
    intro field
    have held := holds _ _ (field_written config field)
    simp only [Field.reading, held, field_read castToByte castToUint16 config field]
  cases field with
  | tls =>
      simp only [settled, own]
      rfl
  | tlsMode => simp only [settled, own]
  | _ => exact own _

theorem all_steps (holds : Holds j config) (field : Field) : field ∈ steps j := by
  have named : bHasTlsMode j = true := by
    rw [bHasTlsMode, holds _ _ (field_written config .tlsMode)]
    rfl
  rw [steps, if_pos named]
  cases field with
  | filter field => cases field <;> decide
  | _ => decide

theorem filter_of_fields (left right : VscpEventFilter)
    (same : ∀ field : FilterField, field.content left = field.content right) : left = right := by
  cases left
  cases right
  rw [VscpEventFilter.mk.injEq]
  exact ⟨same .filterPriority, same .maskPriority, same .filterClass, same .maskClass, same .filterType, same .maskType,
    same .filterGuid, same .maskGuid⟩

theorem config_of_fields (left right : Config) (same : ∀ field : Field, field.content left = field.content right) :
    { left with
      bPolling := right.bPolling
      bSingleChannelReceiveLoop := right.bSingleChannelReceiveLoop
      bBinaryMode := right.bBinaryMode } = right := by
  have filter := filter_of_fields left.filterIn right.filterIn fun field => same (.filter field)
  have host : left.strHostname = right.strHostname := same .host
  have user : left.strUsername = right.strUsername := same .user
  have password : left.strPassword = right.strPassword := same .password
  have fullLevel2 : left.bFullLevel2 = right.bFullLevel2 := same .fullLevel2
  have guidif : left.guidif = right.guidif := same .selectedInterface
  have flag : left.bTLS = right.bTLS := same .tls
  have mode : left.tlsMode = right.tlsMode := same .tlsMode
  have verifyPeer : left.bVerifyPeer = right.bVerifyPeer := same .verifyPeer
  have cafile : left.cafile = right.cafile := same .cafile
  have capath : left.capath = right.capath := same .capath
  have certfile : left.certfile = right.certfile := same .certfile
  have keyfile : left.keyfile = right.keyfile := same .keyfile
  have pwKeyfile : left.pwKeyfile = right.pwKeyfile := same .pwKeyfile
  rw [host, user, password, fullLevel2, guidif, flag, mode, verifyPeer, cafile, capath, certfile, keyfile, pwKeyfile,
    filter]

theorem members_written (config other : Config) (holds : Holds j config) :
    (initMembers castToByte castToUint16 j other).1 = true ∧
      { (initMembers castToByte castToUint16 j other).2 with
        bPolling := config.bPolling
        bSingleChannelReceiveLoop := config.bSingleChannelReceiveLoop
        bBinaryMode := config.bBinaryMode } = flagged config := by
  have given := fun field => settled_written castToByte castToUint16 j config other holds field
  have readable : ∀ field ∈ steps j, settled castToByte castToUint16 j other field ≠ .refused := by
    intro field _
    rw [given]
    intro same
    cases same
  have success : (assign Field.store (settled castToByte castToUint16 j other) (steps j) other).1 = true :=
    assign_reads (settled castToByte castToUint16 j other) (steps j) other readable
  rw [members_settled]
  refine ⟨success, config_of_fields _ (flagged config) ?_⟩
  intro field
  have held := assign_content (settled castToByte castToUint16 j other) Field.lawful (steps j) (steps_distinct j) field
    (all_steps j config holds field) other success
  rw [held, given]

theorem modes_written (config other : Config) (object : ∃ members, j = .object members)
    (holds : Holds j config) :
    modesOf other j = some ⟨config.bPolling, config.bSingleChannelReceiveLoop, config.bBinaryMode⟩ := by
  obtain ⟨members, rfl⟩ := object
  have listed : ∀ member ∈ [("bpoll".toList, Value.boolean config.bPolling),
      ("single-channel".toList, .boolean config.bSingleChannelReceiveLoop),
      ("binary-mode".toList, .boolean config.bBinaryMode), ("connection-timeout".toList, .numberInteger 0),
      ("response-timeout".toList, .numberInteger 0)], member ∈ configMembers config :=
    fun member inside => List.mem_append_left _ (List.mem_append_right _ inside)
  have polling := holds _ _ (listed ("bpoll".toList, .boolean config.bPolling) (by simp))
  have singleChannel :=
    holds _ _ (listed ("single-channel".toList, .boolean config.bSingleChannelReceiveLoop) (by simp))
  have binary := holds _ _ (listed ("binary-mode".toList, .boolean config.bBinaryMode) (by simp))
  simp only [modesOf, booleanOr, polling, singleChannel, binary, booleanOf, unsignedValue]
  rfl

theorem idle_refuses (modes : Modes) :
    refuses idle config modes = (modes.polling && modes.singleChannel) := by
  simp [refuses, idle]

theorem document_read (law : DumpLaw parse dump isUtf8) (config other : Config) (text : Text)
    (written : getConfigAsJson dump config = some text) :
    initFromJson parse castToByte castToUint16 idle other text =
      if config.bPolling && config.bSingleChannelReceiveLoop then (false, other) else (true, flagged config) := by
  obtain ⟨others, parsed, held⟩ := law.reads _ (config_flat config) (names_distinct config) text written
  have holds : Holds (.object others) config := by
    intro name value inside
    rw [held, (member_iff _ (names_distinct config) name value).mpr inside]
    rfl
  obtain ⟨success, same⟩ := members_written castToByte castToUint16 (.object others) config other holds
  simp only [initFromJson, parsed, modes_written (.object others) config other ⟨others, rfl⟩ holds, idle_refuses]
  rw [if_pos success, same]

theorem restored_iff (law : DumpLaw parse dump isUtf8) (config other : Config) :
    (∃ text, getConfigAsJson dump config = some text ∧
      initFromJson parse castToByte castToUint16 idle other text = (true, config)) ↔ Restorable isUtf8 config := by
  have texts := configuration_written_iff parse dump isUtf8 law config
  have flag : flagged config = config ↔ config.bTLS = decide (config.tlsMode = .forceTls) := by
    constructor
    · intro same
      exact (congrArg Config.bTLS same).symm
    · intro same
      rw [flagged, ← same]
  constructor
  · rintro ⟨text, written, read⟩
    rw [document_read parse dump castToByte castToUint16 isUtf8 law config other text written] at read
    have modes : (config.bPolling && config.bSingleChannelReceiveLoop) = false := by
      cases both : config.bPolling && config.bSingleChannelReceiveLoop with
      | false => rfl
      | true =>
          rw [both] at read
          cases congrArg Prod.fst read
    rw [modes] at read
    exact ⟨texts.mp (by rw [written]; rfl), modes, flag.mp (congrArg Prod.snd read)⟩
  · intro restorable
    obtain ⟨text, written⟩ := Option.isSome_iff_exists.mp (texts.mpr restorable.texts)
    refine ⟨text, written, ?_⟩
    rw [document_read parse dump castToByte castToUint16 isUtf8 law config other text written, restorable.modes,
      flag.mpr restorable.flag]
    rfl

end

def plainDump (value : Value) : Option Text :=
  match value with
  | .object members => flatObject members
  | _ => none

theorem plain_dump_law : DumpLaw plainParse plainDump fun text => text.all isPlain where
  plain _ plain := plain
  writes members flat := by
    change (flatObject members).isSome ↔ _
    rw [flat_object_written_iff]
    constructor
    · intro written member inside
      exact (flat_member_written_iff member.1 member.2 (flat member inside)).mp (written member inside)
    · intro plain member inside
      exact (flat_member_written_iff member.1 member.2 (flat member inside)).mpr (plain member inside)
  reads members _ distinct text written := by
    obtain ⟨others, read, held⟩ := flat_object_kept members distinct text written
    refine ⟨others, ?_, held⟩
    rw [plainParse, read]

def freshConfig : Config :=
  { strHostname := "tcp://localhost:9598".toList
    strUsername := "admin".toList
    strPassword := "secret".toList
    bFullLevel2 := false
    guidif := leading []
    bTLS := false
    tlsMode := .autoSelect
    bVerifyPeer := true
    cafile := []
    capath := []
    certfile := []
    keyfile := []
    pwKeyfile := []
    filterIn := quietFilter
    bPolling := false
    bSingleChannelReceiveLoop := false
    bBinaryMode := false }

def securedConfig : Config :=
  { setTLSMode .forceTls freshConfig with
    strHostname := "tcp://192.168.1.7:9598".toList
    cafile := "/etc/vscp/ca.pem".toList
    guidif := leading [1, 2, 3]
    filterIn := busyFilter
    bPolling := true
    bBinaryMode := true }

def halfConfigText : Text := "\x7b\"host\":\"x\",\"user\":5\x7d".toList

end Vscp.TcpConfig
