import Vscp.Datagram
import Vscp.Endpoint
import Vscp.TcpConfig

set_option autoImplicit false

namespace Vscp.Multicast

open Datagram JsonText NumberText
open RemoteTcp (Text)

abbrev KeyArray := Vector UInt8 32

structure Config where
  interface : Text
  multicastGroupAddr : Text
  multicastPort : UInt16
  ttl : UInt8
  encryptType : UInt8
  key : KeyArray
  configuredKeyLength : UInt8
  hmacEnabled : Bool
  hmacKey : KeyArray
  configuredEncryption : UInt8
  configuredKey : KeyArray
  filter : VscpEventFilter
deriving DecidableEq

-- What keeps a client from changing its configuration; `queued` is an event in the receive queue.
structure Activity where
  connected : Bool
  joining : Bool
  worker : Bool
  queued : Bool

def idle : Activity := ⟨false, false, false, false⟩

-- Letters in pairs. The callers have looked at them, so that none is foreign.
def hexStr2ByteArray : Nat → Text → Bytes
  | 0, _ => []
  | _ + 1, [] => []
  | _ + 1, [_] => []
  | size + 1, high :: low :: rest =>
      if high = '\x00' ∨ low = '\x00' then []
      else (hexToVal high <<< 4 + hexToVal low) :: hexStr2ByteArray size rest

def byteArray2HexStr (bytes : Bytes) : Text :=
  bytes.flatMap fun byte : UInt8 => [lowerDigit (byte >>> 4).toNat, lowerDigit (byte &&& 0x0f).toNat]

def keyArray (bytes : Bytes) : KeyArray := Vector.ofFn fun i => bytes.getD i.val 0

def usedKey (encryption : UInt8) (key : KeyArray) : Bytes := key.toList.take (aesKeyLength encryption).toNat

def defaultKey16 : Text := "A4A86F7D7E119BA3F0CD06881E371B98".toList

def freshConfig : Config :=
  { interface := []
    multicastGroupAddr := "224.0.23.158".toList
    multicastPort := 9598
    ttl := 1
    encryptType := 0
    key := keyArray (hexStr2ByteArray 32 defaultKey16)
    configuredKeyLength := 0
    hmacEnabled := false
    hmacKey := keyArray []
    configuredEncryption := 0
    configuredKey := keyArray []
    filter := clearVSCPFilter }

def isObject (config : Value) : Bool :=
  match config with
  | .object _ => true
  | _ => false

def jsonUnsigned (value : Value) (maximum : Nat) : Option Nat :=
  match value with
  | .numberUnsigned number => if number.toNat ≤ maximum then some number.toNat else none
  | .numberInteger number => if 0 ≤ number ∧ number.toNat ≤ maximum then some number.toNat else none
  | _ => none

def jsonPort (value : Value) : Option UInt16 :=
  (jsonUnsigned value 65535).bind fun number => if number = 0 then none else some (UInt16.ofNat number)

section

variable {Number : Type}

def optionalUnsigned (maximum : Nat) (cast : Nat → Number) (config : Value) (name : Text) (value : Number) :
    Option Number :=
  match config.member name with
  | none => some value
  | some entry => (jsonUnsigned entry maximum).map cast

end

def optionalByte := optionalUnsigned 255 UInt8.ofNat
def optionalWord := optionalUnsigned 65535 UInt16.ofNat

def parseGuid (text : Text) : Option Guid :=
  if (vscpGuidParse text).accepted then some (vscpGuidParse text).guid else none

def optionalGuid (config : Value) (name : Text) (guid : Guid) : Option Guid :=
  match config.member name with
  | none => some guid
  | some entry => (stringOf (some entry)).bind parseGuid

structure EventOptions where
  encryption : UInt8
  key : KeyArray
  keyLength : UInt8
  hmacEnabled : Bool
  hmacKey : KeyArray
  filter : VscpEventFilter

def encryptionOption (config : Value) (encryption : UInt8) : Option UInt8 :=
  match config.member "encryption".toList with
  | none => some encryption
  | some entry => (jsonUnsigned entry 3).map UInt8.ofNat

def paddingOption (config : Value) : Bool :=
  match config.member "padding".toList with
  | none => true
  | some entry => stringOf (some entry) = some "pkcs7".toList

-- A key for no encryption is not looked at.
def decodeKey (encryption : UInt8) (hex : Text) : Option (KeyArray × UInt8) :=
  if encryption = encryptionNone then some (keyArray [], 0)
  else
    let expectedLength := aesKeyLength encryption
    let bytes := hexStr2ByteArray expectedLength.toNat hex
    if expectedLength = 0 ∨ hex.length ≠ expectedLength.toNat * 2 ∨ hex.all isHexDigit = false then none
    else if bytes.length ≠ expectedLength.toNat then none
    else some (keyArray bytes, expectedLength)

def keyOption (config : Value) (encryption : UInt8) (key : KeyArray) (keyLength : UInt8) : Option (KeyArray × UInt8) :=
  match config.member "key".toList with
  | none => some (key, keyLength)
  | some entry => (stringOf (some entry)).bind (decodeKey encryption)

def decodeHmacKey (hex : Text) : Option (Bool × KeyArray) :=
  if hex = [] then some (false, keyArray [])
  else if hex.length ≠ 64 ∨ hex.all isHexDigit = false ∨ (hexStr2ByteArray 32 hex).length ≠ 32 then none
  else some (true, keyArray (hexStr2ByteArray 32 hex))

def hmacOption (config : Value) (hmacEnabled : Bool) (hmacKey : KeyArray) : Option (Bool × KeyArray) :=
  match config.member "hmac-key".toList with
  | none => some (hmacEnabled, hmacKey)
  | some entry => (stringOf (some entry)).bind decodeHmacKey

def keysAllowed (encryption : UInt8) (key : KeyArray) (keyLength : UInt8) (hmacEnabled : Bool) (hmacKey : KeyArray) :
    Bool :=
  if hmacEnabled then
    if aesKeyLength encryption = 0 ∨ keyLength ≠ aesKeyLength encryption then false
    else usedKey encryption key ≠ usedKey encryption hmacKey
  else true

def filterOptions (config : Value) (filter : VscpEventFilter) : Option VscpEventFilter := do
  let filterPriority ← optionalByte config "priority-filter".toList filter.filterPriority
  let maskPriority ← optionalByte config "priority-mask".toList filter.maskPriority
  let filterClass ← optionalWord config "class-filter".toList filter.filterClass
  let maskClass ← optionalWord config "class-mask".toList filter.maskClass
  let filterType ← optionalWord config "type-filter".toList filter.filterType
  let maskType ← optionalWord config "type-mask".toList filter.maskType
  let filterGuid ← optionalGuid config "guid-filter".toList filter.filterGuid
  let maskGuid ← optionalGuid config "guid-mask".toList filter.maskGuid
  some { filterPriority, maskPriority, filterClass, maskClass, filterType, maskType, filterGuid, maskGuid }

def eventOptions (config : Value) (options : EventOptions) : Option EventOptions := do
  let encryption ← encryptionOption config options.encryption
  guard (paddingOption config)
  let (key, keyLength) ← keyOption config encryption options.key options.keyLength
  let (hmacEnabled, hmacKey) ← hmacOption config options.hmacEnabled options.hmacKey
  guard (keysAllowed encryption key keyLength hmacEnabled hmacKey)
  let filter ← filterOptions config options.filter
  some { encryption, key, keyLength, hmacEnabled, hmacKey, filter }

def contains (config : Value) (name : Text) : Bool := (config.member name).isSome

def authenticationOptionsExplicit (config : Value) (encryption : UInt8) (key : KeyArray) (configuredEncryption : UInt8)
    (configuredKey : KeyArray) : Bool :=
  (contains config "encryption".toList || encryption = configuredEncryption) &&
    (contains config "key".toList || key = configuredKey)

def authenticationChanged (oldEnabled newEnabled : Bool) (oldEncryption newEncryption : UInt8)
    (oldKey newKey oldHmacKey newHmacKey : KeyArray) : Bool :=
  (oldEnabled || newEnabled) &&
    (oldEnabled != newEnabled || oldEncryption ≠ newEncryption || oldKey ≠ newKey || oldHmacKey ≠ newHmacKey)

def interfaceOption (config : Value) (interfaceName : Text) : Option Text :=
  match config.member "interface".toList with
  | none => some interfaceName
  | some entry => stringOf (some entry)

def portOption (config : Value) (port : UInt16) : Option UInt16 :=
  match config.member "port".toList with
  | none => some port
  | some entry => jsonPort entry

section

-- inet_pton, json::parse and dump.
variable (inet4 inet6 : Text → Bool) (parse : Text → Except JsonFailure Value) (dump : Value → Option Text)

def endpointOption (config : Value) (address : Text) (port : UInt16) : Option (Text × UInt16) :=
  match config.member "ip".toList with
  | none => some (address, port)
  | some entry => (stringOf (some entry)).bind fun text => parseEndpoint inet4 inet6 text port

-- Everything is read into variables, and the members are set when nothing is left to refuse.
def nextConfig (activity : Activity) (client : Config) (config : Value) : Option Config := do
  guard (isObject config)
  let interfaceName ← interfaceOption config client.interface
  let (address, port) ← endpointOption inet4 inet6 config client.multicastGroupAddr client.multicastPort
  let port ← portOption config port
  let ttl ← optionalByte config "ttl".toList client.ttl
  let options ← eventOptions config
    ⟨client.encryptType, client.key, client.configuredKeyLength, client.hmacEnabled, client.hmacKey, client.filter⟩
  guard (! options.hmacEnabled ||
    authenticationOptionsExplicit config options.encryption options.key client.configuredEncryption
      client.configuredKey)
  guard (! (activity.queued &&
    authenticationChanged client.hmacEnabled options.hmacEnabled
      (if client.hmacEnabled then client.configuredEncryption else client.encryptType) options.encryption
      (if client.hmacEnabled then client.configuredKey else client.key) options.key client.hmacKey options.hmacKey))
  some
    { interface := interfaceName
      multicastGroupAddr := address
      multicastPort := port
      ttl := ttl
      encryptType := options.encryption
      key := options.key
      configuredKeyLength := options.keyLength
      hmacEnabled := options.hmacEnabled
      hmacKey := options.hmacKey
      configuredEncryption :=
        if contains config "encryption".toList then options.encryption else client.configuredEncryption
      configuredKey := if contains config "key".toList then options.key else client.configuredKey
      filter := options.filter }

def initFromJson (activity : Activity) (client : Config) (text : Text) : Bool × Config :=
  if activity.connected || activity.joining || activity.worker then (false, client)
  else
    match parse text with
    | .error _ => (false, client)
    | .ok config =>
        match nextConfig inet4 inet6 activity client config with
        | none => (false, client)
        | some next => (true, next)

-- The interface is written up to its first zero.
def configMembers (client : Config) : List (Text × Value) :=
  [("interface".toList, .string (client.interface.takeWhile (· ≠ '\x00'))),
    ("ip".toList, .string (formatEndpoint client.multicastGroupAddr client.multicastPort)),
    ("ttl".toList, .numberUnsigned (UInt64.ofNat client.ttl.toNat)),
    ("encryption".toList, .numberUnsigned (UInt64.ofNat client.encryptType.toNat)),
    ("padding".toList, .string "pkcs7".toList),
    ("hmac-key".toList, .string (if client.hmacEnabled then byteArray2HexStr client.hmacKey.toList else [])),
    ("key".toList, .string (byteArray2HexStr (usedKey client.encryptType client.key))),
    ("priority-filter".toList, TcpConfig.writtenFilter client.filter .filterPriority),
    ("priority-mask".toList, TcpConfig.writtenFilter client.filter .maskPriority),
    ("class-filter".toList, TcpConfig.writtenFilter client.filter .filterClass),
    ("class-mask".toList, TcpConfig.writtenFilter client.filter .maskClass),
    ("type-filter".toList, TcpConfig.writtenFilter client.filter .filterType),
    ("type-mask".toList, TcpConfig.writtenFilter client.filter .maskType),
    ("guid-filter".toList, TcpConfig.writtenFilter client.filter .filterGuid),
    ("guid-mask".toList, TcpConfig.writtenFilter client.filter .maskGuid)]

-- none is the type_error of a text that is no UTF-8.
def getConfigAsJson (client : Config) : Option Text := dump (.object (configMembers client))

theorem rejected_kept (activity : Activity) (client : Config) (text : Text) :
    (initFromJson inet4 inet6 parse activity client text).1 = true ∨
      (initFromJson inet4 inet6 parse activity client text).2 = client := by
  unfold initFromJson
  cases activity.connected || activity.joining || activity.worker with
  | true => exact .inr rfl
  | false =>
      rw [if_neg Bool.false_ne_true]
      cases parse text with
      | error failure => exact .inr rfl
      | ok config =>
          simp only
          cases nextConfig inet4 inet6 activity client config with
          | none => exact .inr rfl
          | some next => exact .inl rfl

abbrev KeysAllowed (client : Config) : Prop :=
  keysAllowed client.encryptType client.key client.configuredKeyLength client.hmacEnabled client.hmacKey = true

structure Taken (client : Config) (config : Value) (next : Config) : Prop where
  interface : interfaceOption config client.interface = some next.interface
  endpoint : ∃ port, endpointOption inet4 inet6 config client.multicastGroupAddr client.multicastPort =
    some (next.multicastGroupAddr, port) ∧ portOption config port = some next.multicastPort
  hmac : hmacOption config client.hmacEnabled client.hmacKey = some (next.hmacEnabled, next.hmacKey)
  keys : KeysAllowed next

theorem event_options_taken (config : Value) (options next : EventOptions)
    (read : eventOptions config options = some next) :
    hmacOption config options.hmacEnabled options.hmacKey = some (next.hmacEnabled, next.hmacKey) ∧
      keysAllowed next.encryption next.key next.keyLength next.hmacEnabled next.hmacKey = true := by
  unfold eventOptions at read
  obtain ⟨encryption, _, read⟩ := Option.bind_eq_some_iff.mp read
  obtain ⟨_, _, read⟩ := Option.bind_eq_some_iff.mp read
  obtain ⟨⟨key, keyLength⟩, _, read⟩ := Option.bind_eq_some_iff.mp read
  obtain ⟨⟨hmacEnabled, hmacKey⟩, hmac, read⟩ := Option.bind_eq_some_iff.mp read
  obtain ⟨_, allowed, read⟩ := Option.bind_eq_some_iff.mp read
  obtain ⟨filter, _, read⟩ := Option.bind_eq_some_iff.mp read
  cases read
  refine ⟨hmac, ?_⟩
  simpa [guard] using allowed

theorem next_config_taken (activity : Activity) (client : Config) (config : Value) (next : Config)
    (read : nextConfig inet4 inet6 activity client config = some next) : Taken inet4 inet6 client config next := by
  unfold nextConfig at read
  obtain ⟨_, _, read⟩ := Option.bind_eq_some_iff.mp read
  obtain ⟨interfaceName, interface, read⟩ := Option.bind_eq_some_iff.mp read
  obtain ⟨⟨address, port⟩, endpoint, read⟩ := Option.bind_eq_some_iff.mp read
  obtain ⟨number, ported, read⟩ := Option.bind_eq_some_iff.mp read
  obtain ⟨ttl, _, read⟩ := Option.bind_eq_some_iff.mp read
  obtain ⟨options, events, read⟩ := Option.bind_eq_some_iff.mp read
  obtain ⟨_, _, read⟩ := Option.bind_eq_some_iff.mp read
  obtain ⟨_, _, read⟩ := Option.bind_eq_some_iff.mp read
  obtain ⟨hmac, keys⟩ := event_options_taken config _ options events
  cases read
  exact ⟨interface, ⟨port, endpoint, ported⟩, hmac, keys⟩

end

theorem string_entry (entry : Value) (letters : Text) (read : stringOf (some entry) = some letters) :
    entry = .string letters := by
  cases entry with
  | string own =>
      cases read
      rfl
  | _ => cases read

theorem json_unsigned_bound (value : Value) (maximum number : Nat) (read : jsonUnsigned value maximum = some number) :
    number ≤ maximum := by
  unfold jsonUnsigned at read
  cases value with
  | numberUnsigned own =>
      obtain ⟨small, same⟩ := Option.ite_none_right_eq_some.mp read
      cases same
      exact small
  | numberInteger own =>
      obtain ⟨⟨_, small⟩, same⟩ := Option.ite_none_right_eq_some.mp read
      cases same
      exact small
  | _ => cases read

variable (bytes : Bytes) (encryption : UInt8) (key : KeyArray) (config : Value) (client : Config)

theorem port_option_not_zero (port next : UInt16) (positive : port ≠ 0)
    (read : portOption config port = some next) : next ≠ 0 := by
  unfold portOption at read
  cases held : config.member "port".toList with
  | none =>
      rw [held] at read
      cases read
      exact positive
  | some entry =>
      rw [held] at read
      obtain ⟨number, known, same⟩ := Option.bind_eq_some_iff.mp read
      have bound := json_unsigned_bound entry 65535 number known
      obtain ⟨other, cast⟩ := Option.ite_none_left_eq_some.mp same
      cases cast
      intro zero
      have same := congrArg UInt16.toNat zero
      rw [UInt16.toNat_ofNat_of_lt' (by omega : number < 2 ^ 16)] at same
      exact other same

theorem hmac_option_cleared (hmacEnabled next : Bool) (hmacKey nextKey : KeyArray)
    (cleared : hmacEnabled = false → hmacKey = keyArray [])
    (read : hmacOption config hmacEnabled hmacKey = some (next, nextKey)) : next = false → nextKey = keyArray [] := by
  unfold hmacOption at read
  cases held : config.member "hmac-key".toList with
  | none =>
      rw [held] at read
      cases read
      exact cleared
  | some entry =>
      rw [held] at read
      obtain ⟨hex, _, decoded⟩ := Option.bind_eq_some_iff.mp read
      unfold decodeHmacKey at decoded
      split at decoded
      · cases decoded
        exact fun _ => rfl
      · split at decoded
        · cases decoded
        · cases decoded
          exact fun off => by cases off

theorem hex_byte_read (byte : UInt8) :
    hexToVal (lowerDigit (byte >>> 4).toNat) <<< 4 + hexToVal (lowerDigit (byte &&& 0x0f).toNat) = byte ∧
      isHexDigit (lowerDigit (byte >>> 4).toNat) = true ∧ isHexDigit (lowerDigit (byte &&& 0x0f).toNat) = true := by
  have each : ∀ value < 256, hexToVal (lowerDigit (UInt8.ofNat value >>> 4).toNat) <<< 4 +
        hexToVal (lowerDigit (UInt8.ofNat value &&& 0x0f).toNat) = UInt8.ofNat value ∧
      isHexDigit (lowerDigit (UInt8.ofNat value >>> 4).toNat) = true ∧
      isHexDigit (lowerDigit (UInt8.ofNat value &&& 0x0f).toNat) = true := by decide +kernel
  have own := each byte.toNat byte.toNat_lt
  rwa [UInt8.ofNat_toNat] at own

theorem hex_text_cons (byte : UInt8) (bytes : Bytes) : byteArray2HexStr (byte :: bytes) =
    lowerDigit (byte >>> 4).toNat :: lowerDigit (byte &&& 0x0f).toNat :: byteArray2HexStr bytes := rfl

theorem hex_text_length : (byteArray2HexStr bytes).length = bytes.length * 2 := by
  induction bytes with
  | nil => rfl
  | cons byte bytes ih =>
      rw [hex_text_cons, List.length_cons, List.length_cons, ih, List.length_cons]
      omega

theorem hex_text_digits : (byteArray2HexStr bytes).all isHexDigit = true := by
  induction bytes with
  | nil => rfl
  | cons byte bytes ih =>
      obtain ⟨_, high, low⟩ := hex_byte_read byte
      rw [hex_text_cons, List.all_cons, List.all_cons, high, low, ih]
      rfl

theorem hex_text_read : hexStr2ByteArray bytes.length (byteArray2HexStr bytes) = bytes := by
  induction bytes with
  | nil => rfl
  | cons byte bytes ih =>
      obtain ⟨value, high, low⟩ := hex_byte_read byte
      have solid : ∀ letter, isHexDigit letter = true → letter ≠ '\x00' := by
        rintro letter digit rfl
        cases digit
      have whole : ¬ (lowerDigit (byte >>> 4).toNat = '\x00' ∨ lowerDigit (byte &&& 0x0f).toNat = '\x00') :=
        not_or.mpr ⟨solid _ high, solid _ low⟩
      rw [hex_text_cons, List.length_cons, hexStr2ByteArray, if_neg whole, value, ih]

theorem key_array_whole : keyArray key.toList = key := by
  apply Vector.ext
  intro i inside
  simp [keyArray, List.getD_eq_getElem?_getD]

theorem key_array_front (room : bytes.length ≤ 32) :
    (keyArray bytes).toList.take bytes.length = bytes := by
  apply List.ext_getElem
  · simp [room]
  · intro i first second
    simp [keyArray, List.getD_eq_getElem?_getD, second]

theorem aes_key_room : (aesKeyLength encryption).toNat ≤ 32 := by
  unfold aesKeyLength
  split
  · decide
  · split
    · decide
    · split <;> decide

theorem used_key_length :
    (usedKey encryption key).length = (aesKeyLength encryption).toNat := by
  rw [usedKey, List.length_take, Vector.length_toList, Nat.min_eq_left (aes_key_room encryption)]

theorem used_key_kept :
    usedKey encryption (keyArray (usedKey encryption key)) = usedKey encryption key := by
  have length := used_key_length encryption key
  have front := key_array_front (usedKey encryption key) (by rw [length]; exact aes_key_room encryption)
  rwa [length] at front

theorem aes_key_some (known : encryption ≤ 3) (some : encryption ≠ encryptionNone) :
    aesKeyLength encryption ≠ 0 := by
  revert encryption
  decide +kernel

theorem key_decoded (known : encryption ≤ 3) (key : KeyArray) :
    decodeKey encryption (byteArray2HexStr (usedKey encryption key)) =
      some (keyArray (usedKey encryption key), aesKeyLength encryption) := by
  unfold decodeKey
  by_cases plain : encryption = encryptionNone
  · rw [if_pos plain, plain]
    rfl
  · have length := used_key_length encryption key
    have read := hex_text_read (usedKey encryption key)
    rw [length] at read
    rw [if_neg plain]
    simp only [read, hex_text_length, length, hex_text_digits, aes_key_some encryption known plain, ne_eq,
      not_true_eq_false, Bool.true_eq_false, or_self, if_false]

theorem hmac_key_decoded (hmacEnabled : Bool) (hmacKey : KeyArray)
    (cleared : hmacEnabled = false → hmacKey = keyArray []) :
    decodeHmacKey (if hmacEnabled then byteArray2HexStr hmacKey.toList else []) = some (hmacEnabled, hmacKey) := by
  cases hmacEnabled with
  | false =>
      rw [if_neg Bool.false_ne_true, cleared rfl]
      rfl
  | true =>
      have length := hex_text_length hmacKey.toList
      have read := hex_text_read hmacKey.toList
      rw [Vector.length_toList] at length read
      have some : byteArray2HexStr hmacKey.toList ≠ [] := by
        intro empty
        rw [empty] at length
        cases length
      rw [if_pos rfl, decodeHmacKey, if_neg some]
      simp [length, hex_text_digits, read, key_array_whole]

def Tells (config : Value) (client : Config) : Prop :=
  ∀ name, config.member name = ((Value.object (configMembers client)).member name).map unsignedValue

theorem byte_read (name : Text) (value other : UInt8)
    (held : config.member name = some (.numberUnsigned (UInt64.ofNat value.toNat))) :
    optionalByte config name other = some value := by
  have small : value.toNat ≤ 255 := Nat.le_of_lt_succ value.toNat_lt
  have number : (UInt64.ofNat value.toNat).toNat = value.toNat :=
    UInt64.toNat_ofNat_of_lt' (Nat.lt_trans value.toNat_lt (by decide))
  simp only [optionalByte, optionalUnsigned, held, jsonUnsigned, number, if_pos small, Option.map_some,
    UInt8.ofNat_toNat]

theorem word_read (name : Text) (value other : UInt16)
    (held : config.member name = some (.numberUnsigned (UInt64.ofNat value.toNat))) :
    optionalWord config name other = some value := by
  have small : value.toNat ≤ 65535 := Nat.le_of_lt_succ value.toNat_lt
  have number : (UInt64.ofNat value.toNat).toNat = value.toNat :=
    UInt64.toNat_ofNat_of_lt' (Nat.lt_trans value.toNat_lt (by decide))
  simp only [optionalWord, optionalUnsigned, held, jsonUnsigned, number, if_pos small, Option.map_some,
    UInt16.ofNat_toNat]

theorem guid_read (name : Text) (guid other : Guid)
    (held : config.member name = some (.string (writeGuidToString guid))) :
    optionalGuid config name other = some guid := by
  have parsed := guid_parse_written guid
  simp only [optionalGuid, held, stringOf, Option.bind_some, parseGuid, parsed, if_true]

theorem filter_read (tells : Tells config client) (other : VscpEventFilter) :
    filterOptions config other = some client.filter := by
  have filterPriority := byte_read config "priority-filter".toList client.filter.filterPriority other.filterPriority
    ((tells _).trans rfl)
  have maskPriority := byte_read config "priority-mask".toList client.filter.maskPriority other.maskPriority
    ((tells _).trans rfl)
  have filterClass := word_read config "class-filter".toList client.filter.filterClass other.filterClass
    ((tells _).trans rfl)
  have maskClass := word_read config "class-mask".toList client.filter.maskClass other.maskClass ((tells _).trans rfl)
  have filterType := word_read config "type-filter".toList client.filter.filterType other.filterType
    ((tells _).trans rfl)
  have maskType := word_read config "type-mask".toList client.filter.maskType other.maskType ((tells _).trans rfl)
  have filterGuid := guid_read config "guid-filter".toList client.filter.filterGuid other.filterGuid
    ((tells _).trans rfl)
  have maskGuid := guid_read config "guid-mask".toList client.filter.maskGuid other.maskGuid ((tells _).trans rfl)
  simp only [filterOptions, filterPriority, maskPriority, filterClass, maskClass, filterType, maskType, filterGuid,
    maskGuid]
  rfl

theorem encryption_read (tells : Tells config client) (other : UInt8) :
    encryptionOption config other = if client.encryptType ≤ 3 then some client.encryptType else none := by
  have held : config.member "encryption".toList = some (.numberUnsigned (UInt64.ofNat client.encryptType.toNat)) :=
    (tells _).trans rfl
  have number : (UInt64.ofNat client.encryptType.toNat).toNat = client.encryptType.toNat :=
    UInt64.toNat_ofNat_of_lt' (Nat.lt_trans client.encryptType.toNat_lt (by decide))
  simp only [encryptionOption, held, jsonUnsigned, number]
  have bound : client.encryptType ≤ 3 ↔ client.encryptType.toNat ≤ 3 := UInt8.le_iff_toNat_le
  by_cases known : client.encryptType ≤ 3
  · rw [if_pos known, if_pos (bound.mp known), Option.map_some, UInt8.ofNat_toNat]
  · rw [if_neg known, if_neg fun small => known (bound.mpr small), Option.map_none]

def restored (client : Config) : Config :=
  { client with
    interface := client.interface.takeWhile (· ≠ '\x00')
    key := keyArray (usedKey client.encryptType client.key)
    configuredKeyLength := aesKeyLength client.encryptType
    configuredEncryption := client.encryptType
    configuredKey := keyArray (usedKey client.encryptType client.key) }

theorem keys_still_allowed (keyLength : UInt8) (hmacEnabled : Bool)
    (hmacKey : KeyArray) (allowed : keysAllowed encryption key keyLength hmacEnabled hmacKey = true) :
    keysAllowed encryption (keyArray (usedKey encryption key)) (aesKeyLength encryption) hmacEnabled hmacKey =
      true := by
  unfold keysAllowed at allowed ⊢
  cases hmacEnabled with
  | false => rfl
  | true =>
      simp only [if_true] at allowed ⊢
      by_cases bad : aesKeyLength encryption = 0 ∨ keyLength ≠ aesKeyLength encryption
      · rw [if_pos bad] at allowed
        cases allowed
      · rw [if_neg bad] at allowed
        have some := (not_or.mp bad).1
        rw [if_neg (by simp [some]), used_key_kept]
        exact allowed

theorem events_read (tells : Tells config client)
    (cleared : client.hmacEnabled = false → client.hmacKey = keyArray [])
    (allowed : KeysAllowed client)
    (options : EventOptions) :
    eventOptions config options =
      if client.encryptType ≤ 3 then
        some ⟨client.encryptType, keyArray (usedKey client.encryptType client.key), aesKeyLength client.encryptType,
          client.hmacEnabled, client.hmacKey, client.filter⟩
      else none := by
  unfold eventOptions
  rw [encryption_read config client tells]
  by_cases known : client.encryptType ≤ 3
  · rw [if_pos known, if_pos known]
    have padding : paddingOption config = true := by
      have held : config.member "padding".toList = some (.string "pkcs7".toList) := (tells _).trans rfl
      rw [paddingOption, held]
      rfl
    have key : ∀ old length, keyOption config client.encryptType old length =
        some (keyArray (usedKey client.encryptType client.key), aesKeyLength client.encryptType) := by
      intro old length
      have held : config.member "key".toList =
          some (.string (byteArray2HexStr (usedKey client.encryptType client.key))) := (tells _).trans rfl
      simp only [keyOption, held, stringOf, Option.bind_some, key_decoded client.encryptType known]
    have hmac : ∀ enabled old, hmacOption config enabled old = some (client.hmacEnabled, client.hmacKey) := by
      intro enabled old
      have held : config.member "hmac-key".toList =
          some (.string (if client.hmacEnabled then byteArray2HexStr client.hmacKey.toList else [])) :=
        (tells _).trans rfl
      simp only [hmacOption, held, stringOf, Option.bind_some,
        hmac_key_decoded client.hmacEnabled client.hmacKey cleared]
    have still := keys_still_allowed _ _ _ _ _ allowed
    simp only [Option.bind_eq_bind, Option.bind_some, padding, key, hmac, still, filter_read config client tells, guard,
      if_true]
    rfl
  · rw [if_neg known, if_neg known]
    rfl

theorem multicast_names_distinct : ((configMembers client).map Prod.fst).Nodup := by
  change ["interface".toList, "ip".toList, "ttl".toList, "encryption".toList, "padding".toList, "hmac-key".toList,
    "key".toList, "priority-filter".toList, "priority-mask".toList, "class-filter".toList, "class-mask".toList,
    "type-filter".toList, "type-mask".toList, "guid-filter".toList, "guid-mask".toList].Nodup
  decide

theorem multicast_flat : ∀ member ∈ configMembers client, IsFlat member.2 := by
  simp [configMembers, TcpConfig.writtenFilter, IsFlat]

theorem hex_text_plain : (byteArray2HexStr bytes).all isPlain = true := by
  refine List.all_eq_true.mpr fun letter inside => ?_
  obtain ⟨value, read, _⟩ := digit_of_base 16 letter (List.all_eq_true.mp (hex_text_digits bytes) letter inside)
  exact digit_is_plain letter (by rw [read]; rfl)

-- What is relied on: a text is UTF-8 where its parts around a plain letter are, and so are the texts of a document.
structure Utf8Law (parse : Text → Except JsonFailure Value) (isUtf8 : Text → Bool) : Prop where
  parts : ∀ front mark back, isPlain mark = true ∨ mark = '\x00' → isUtf8 (front ++ mark :: back) = true →
    isUtf8 front = true ∧ isUtf8 back = true
  joined : ∀ front back, isUtf8 front = true → isUtf8 back = true → isUtf8 (front ++ back) = true
  strings : ∀ text config name letters, parse text = .ok config → config.member name = some (.string letters) →
    isUtf8 letters = true

section

variable (inet4 inet6 isUtf8 : Text → Bool)

structure Valid (client : Config) : Prop where
  host : IsHost inet4 inet6 client.multicastGroupAddr
  port : client.multicastPort ≠ 0
  address : isUtf8 client.multicastGroupAddr = true
  interface : isUtf8 client.interface = true
  cleared : client.hmacEnabled = false → client.hmacKey = keyArray []

structure InetLaw : Prop where
  colons : NeedsColon inet6
  group : inet4 "224.0.23.158".toList = true

theorem endpoint_option_read (config : Value) (text : Text) (held : config.member "ip".toList = some (.string text))
    (address : Text) (port : UInt16) :
    endpointOption inet4 inet6 config address port = parseEndpoint inet4 inet6 text port := by
  -- The parser is hidden from the unifier, which would unfold it.
  unfold endpointOption
  generalize parseEndpoint inet4 inet6 = parsed
  rw [held]
  simp only [stringOf]
  rw [Option.bind_some]

theorem next_read (config : Value) (client other : Config) (object : isObject config = true)
    (tells : Tells config client) (valid : Valid inet4 inet6 isUtf8 client)
    (allowed : KeysAllowed client) :
    nextConfig inet4 inet6 idle other config = if client.encryptType ≤ 3 then some (restored client) else none := by
  have interface : interfaceOption config other.interface = some (restored client).interface := by
    have held : config.member "interface".toList = some (.string (client.interface.takeWhile (· ≠ '\x00'))) :=
      (tells _).trans rfl
    simp only [interfaceOption, held, stringOf, restored]
  have endpoint : endpointOption inet4 inet6 config other.multicastGroupAddr other.multicastPort =
      some (client.multicastGroupAddr, client.multicastPort) := by
    have held : config.member "ip".toList =
        some (.string (formatEndpoint client.multicastGroupAddr client.multicastPort)) := (tells _).trans rfl
    rw [endpoint_option_read inet4 inet6 config _ held, formatted_read inet4 inet6 _ valid.host, if_neg valid.port]
  have port : portOption config client.multicastPort = some client.multicastPort := by
    have absent : config.member "port".toList = none := (tells _).trans rfl
    rw [portOption, absent]
  have ttl : optionalByte config "ttl".toList other.ttl = some client.ttl :=
    byte_read config _ client.ttl _ ((tells _).trans rfl)
  have encryption : contains config "encryption".toList = true := by
    rw [contains, tells]
    rfl
  have key : contains config "key".toList = true := by
    rw [contains, tells]
    rfl
  have events := events_read config client tells valid.cleared allowed
  have explicit : ∀ own used configured configuredKey,
      authenticationOptionsExplicit config own used configured configuredKey = true := by
    intro own used configured configuredKey
    rw [authenticationOptionsExplicit, encryption, key]
    rfl
  unfold nextConfig
  simp only [Option.bind_eq_bind, object, interface, endpoint, port, ttl, events, guard, if_true, Option.bind_some]
  by_cases known : client.encryptType ≤ 3
  · rw [if_pos known, if_pos known]
    simp only [explicit, Bool.or_true, if_true, idle, Bool.false_and, Bool.not_false, encryption, key]
    rfl
  · rw [if_neg known, if_neg known]
    rfl

end

section

variable (inet4 inet6 : Text → Bool) (parse : Text → Except JsonFailure Value) (dump : Value → Option Text)
  (isUtf8 : Text → Bool) (law : TcpConfig.DumpLaw parse dump isUtf8) (utf8 : Utf8Law parse isUtf8)
include law utf8

theorem utf8_around (front middle back : Text) (plain : middle.all isPlain = true)
    (before : isUtf8 front = true) (behind : isUtf8 back = true) : isUtf8 (front ++ (middle ++ back)) = true :=
  utf8.joined front _ before (utf8.joined middle back (law.plain middle plain) behind)

theorem decoded_utf8 (text : Text) (valid : isUtf8 text = true) : isUtf8 (decodeZone text) = true := by
  rcases decode_cases text with same | ⟨front, back, whole, decoded⟩
  · rwa [same]
  · rw [whole] at valid
    obtain ⟨before, rest⟩ := utf8.parts front '%' ('2' :: '5' :: back) (.inl rfl) valid
    obtain ⟨_, rest⟩ := utf8.parts [] '2' ('5' :: back) (.inl rfl) rest
    obtain ⟨_, behind⟩ := utf8.parts [] '5' back (.inl rfl) rest
    rw [decoded]
    exact utf8_around parse dump isUtf8 law utf8 front ['%'] back rfl before behind

theorem encoded_utf8 (text : Text) (valid : isUtf8 text = true) : isUtf8 (encodeZone text) = true := by
  rcases encode_cases text with same | ⟨front, back, whole, encoded⟩
  · rwa [same]
  · rw [whole] at valid
    obtain ⟨before, behind⟩ := utf8.parts front '%' back (.inl rfl) valid
    rw [encoded]
    exact utf8_around parse dump isUtf8 law utf8 front ['%', '2', '5'] back rfl before behind

theorem formatted_utf8 (host : Text) (port : UInt16) (valid : isUtf8 host = true) :
    isUtf8 (formatEndpoint host port) = true := by
  have digits : isUtf8 (':' :: decimal port.toNat) = true := by
    apply law.plain
    rw [List.all_cons, Bool.and_eq_true]
    refine ⟨rfl, List.all_eq_true.mpr fun letter inside => ?_⟩
    obtain ⟨value, read, _⟩ := digit_of_base 10 letter (decimal_digits port.toNat letter inside)
    exact digit_is_plain letter (by rw [read]; rfl)
  have written : isUtf8 scheme = true := law.plain scheme rfl
  unfold formatEndpoint
  split
  · exact utf8.joined _ _ (utf8.joined scheme host written valid) digits
  · have inside := utf8.joined _ _ (encoded_utf8 parse dump isUtf8 law utf8 host valid)
      (utf8_around parse dump isUtf8 law utf8 [] [']'] _ rfl (law.plain [] rfl) digits)
    have whole := utf8_around parse dump isUtf8 law utf8 scheme ['['] _ rfl written inside
    simpa [List.append_assoc] using whole

theorem parsed_utf8 (colons : NeedsColon inet6) (input : Text) (port : UInt16) (host : Text) (found : UInt16)
    (read : parseEndpoint inet4 inet6 input port = some (host, found)) (valid : isUtf8 input = true) :
    isUtf8 host = true := by
  obtain ⟨_, _, value, origin, place⟩ := parsed_host inet4 inet6 colons input port host found read
  have own : isUtf8 value = true := by
    rcases origin with rfl | rfl
    · exact valid
    · exact (utf8.parts "udp:/".toList '/' value (.inl rfl) valid).2
  cases place with
  | bracketed inside behind whole decoded =>
      rw [whole] at own
      have rest := (utf8.parts [] '[' _ (.inl rfl) own).2
      have within := (utf8.parts inside ']' behind (.inl rfl) rest).1
      rcases decoded with rfl | rfl
      · exact within
      · exact decoded_utf8 parse dump isUtf8 law utf8 inside within
  | alone whole => rwa [← whole]
  | front behind whole =>
      rw [whole] at own
      exact (utf8.parts host ':' behind (.inl rfl) own).1

theorem endpoint_option_valid (colons : NeedsColon inet6) (text : Text) (config : Value)
    (parsed : parse text = .ok config) (client : Config) (valid : Valid inet4 inet6 isUtf8 client) (address : Text)
    (port : UInt16)
    (read : endpointOption inet4 inet6 config client.multicastGroupAddr client.multicastPort = some (address, port)) :
    IsHost inet4 inet6 address ∧ port ≠ 0 ∧ isUtf8 address = true := by
  unfold endpointOption at read
  cases held : config.member "ip".toList with
  | none =>
      rw [held] at read
      obtain ⟨rfl, rfl⟩ := Prod.mk.inj (Option.some.inj read)
      exact ⟨valid.host, valid.port, valid.address⟩
  | some entry =>
      rw [held] at read
      obtain ⟨letters, own, found⟩ := Option.bind_eq_some_iff.mp read
      rw [string_entry entry letters own] at held
      obtain ⟨host, either, _⟩ := parsed_host inet4 inet6 colons letters _ _ _ found
      refine ⟨host, ?_, parsed_utf8 inet4 inet6 parse dump isUtf8 law utf8 colons letters _ _ _ found
        (utf8.strings text config _ letters parsed held)⟩
      rcases either with same | some
      · rw [same]
        exact valid.port
      · exact some

omit law in
theorem interface_option_valid (text : Text) (config : Value) (parsed : parse text = .ok config) (interface next : Text)
    (valid : isUtf8 interface = true) (read : interfaceOption config interface = some next) : isUtf8 next = true := by
  unfold interfaceOption at read
  cases held : config.member "interface".toList with
  | none =>
      rw [held] at read
      rw [← Option.some.inj read]
      exact valid
  | some entry =>
      rw [held] at read
      rw [string_entry entry _ read] at held
      exact utf8.strings text config _ _ parsed held

theorem accepted_valid (inet : InetLaw inet4 inet6) (activity : Activity) (client next : Config) (text : Text)
    (valid : Valid inet4 inet6 isUtf8 client)
    (accepted : initFromJson inet4 inet6 parse activity client text = (true, next)) :
    Valid inet4 inet6 isUtf8 next ∧ KeysAllowed next := by
  unfold initFromJson at accepted
  split at accepted
  · cases accepted
  cases parsed : parse text with
  | error failure =>
      rw [parsed] at accepted
      cases accepted
  | ok config =>
      cases read : nextConfig inet4 inet6 activity client config with
      | none =>
          simp only [parsed, read] at accepted
          cases accepted
      | some other =>
          simp only [parsed, read] at accepted
          cases accepted
          have taken := next_config_taken inet4 inet6 activity client config next read
          obtain ⟨port, endpoint, ported⟩ := taken.endpoint
          obtain ⟨host, some, address⟩ := endpoint_option_valid inet4 inet6 parse dump isUtf8 law utf8 inet.colons
            text config parsed client valid _ port endpoint
          exact ⟨⟨host, port_option_not_zero config port _ some ported, address,
            interface_option_valid parse isUtf8 utf8 text config parsed _ _ valid.interface taken.interface,
            hmac_option_cleared config client.hmacEnabled _ client.hmacKey _ valid.cleared taken.hmac⟩, taken.keys⟩

omit law in
theorem interface_front_utf8 (interface : Text) (valid : isUtf8 interface = true) :
    isUtf8 (interface.takeWhile (· ≠ '\x00')) = true := by
  cases found : cut '\x00' interface with
  | none =>
      have absent := cut_none '\x00' interface found
      have whole : interface.takeWhile (· ≠ '\x00') = interface := by
        apply List.takeWhile_eq_self_iff.mpr
        intro letter inside
        exact decide_eq_true fun same => absent (by rw [← same]; exact inside)
      rwa [whole]
  | some parts =>
      obtain ⟨whole, absent⟩ := cut_parts '\x00' interface parts.1 parts.2 found
      rw [whole] at valid ⊢
      have front : (parts.1 ++ '\x00' :: parts.2).takeWhile (· ≠ '\x00') = parts.1 := by
        rw [List.takeWhile_append_of_pos]
        · simp
        · intro letter inside
          exact decide_eq_true fun same => absent (by rw [← same]; exact inside)
      rw [front]
      exact (utf8.parts parts.1 '\x00' parts.2 (.inr rfl) valid).1

theorem configuration_written (client : Config) (valid : Valid inet4 inet6 isUtf8 client) :
    (getConfigAsJson dump client).isSome := by
  rw [getConfigAsJson, law.writes _ (multicast_flat client)]
  have guid : ∀ guid : Guid, isUtf8 (writeGuidToString guid) = true :=
    fun guid => law.plain _ (List.all_eq_true.mpr (guid_letters_plain guid))
  have string : ∀ text, isUtf8 text = true →
      ∀ letters, Value.string text = .string letters → isUtf8 letters = true := by
    intro text plain letters same
    cases same
    exact plain
  have number : ∀ value, ∀ letters, Value.numberUnsigned value = .string letters → isUtf8 letters = true := by
    intro value letters same
    cases same
  have hmac : isUtf8 (if client.hmacEnabled then byteArray2HexStr client.hmacKey.toList else []) = true := by
    cases client.hmacEnabled with
    | true => exact law.plain _ (hex_text_plain client.hmacKey.toList)
    | false => exact law.plain [] rfl
  intro member inside
  simp only [configMembers, TcpConfig.writtenFilter, List.mem_cons, List.not_mem_nil, or_false] at inside
  rcases inside with rfl | rfl | rfl | rfl | rfl | rfl | rfl | rfl | rfl | rfl | rfl | rfl | rfl | rfl | rfl
  · exact ⟨law.plain _ rfl, string _ (interface_front_utf8 parse isUtf8 utf8 _ valid.interface)⟩
  · exact ⟨law.plain _ rfl, string _ (formatted_utf8 parse dump isUtf8 law utf8 _ _ valid.address)⟩
  · exact ⟨law.plain _ rfl, number _⟩
  · exact ⟨law.plain _ rfl, number _⟩
  · exact ⟨law.plain _ rfl, string _ (law.plain _ rfl)⟩
  · exact ⟨law.plain _ rfl, string _ hmac⟩
  · exact ⟨law.plain _ rfl, string _ (law.plain _ (hex_text_plain _))⟩
  · exact ⟨law.plain _ rfl, number _⟩
  · exact ⟨law.plain _ rfl, number _⟩
  · exact ⟨law.plain _ rfl, number _⟩
  · exact ⟨law.plain _ rfl, number _⟩
  · exact ⟨law.plain _ rfl, number _⟩
  · exact ⟨law.plain _ rfl, number _⟩
  · exact ⟨law.plain _ rfl, string _ (guid client.filter.filterGuid)⟩
  · exact ⟨law.plain _ rfl, string _ (guid client.filter.maskGuid)⟩

omit utf8 in
theorem document_read (client other : Config) (valid : Valid inet4 inet6 isUtf8 client)
    (allowed : KeysAllowed client) (text : Text) (written : getConfigAsJson dump client = some text) :
    initFromJson inet4 inet6 parse idle other text =
      if client.encryptType ≤ 3 then (true, restored client) else (false, other) := by
  obtain ⟨others, parsed, tells⟩ :=
    law.reads _ (multicast_flat client) (multicast_names_distinct client) text written
  have read := next_read inet4 inet6 isUtf8 (.object others) client other rfl tells valid allowed
  have quiet : (idle.connected || idle.joining || idle.worker) = false := rfl
  rw [initFromJson, quiet, if_neg Bool.false_ne_true]
  simp only [parsed, read]
  by_cases known : client.encryptType ≤ 3
  · rw [if_pos known, if_pos known]
  · rw [if_neg known, if_neg known]

end

structure SameSettings (left right : Config) : Prop where
  interface : left.interface = right.interface
  multicastGroupAddr : left.multicastGroupAddr = right.multicastGroupAddr
  multicastPort : left.multicastPort = right.multicastPort
  ttl : left.ttl = right.ttl
  encryptType : left.encryptType = right.encryptType
  key : usedKey left.encryptType left.key = usedKey right.encryptType right.key
  hmacEnabled : left.hmacEnabled = right.hmacEnabled
  hmacKey : left.hmacKey = right.hmacKey
  filter : left.filter = right.filter

section

variable (inet4 inet6 : Text → Bool) (parse : Text → Except JsonFailure Value) (dump : Value → Option Text)

def GivenBack (client : Config) : Prop :=
  ∃ text, getConfigAsJson dump client = some text ∧
    ∃ read, initFromJson inet4 inet6 parse idle freshConfig text = (true, read) ∧ SameSettings read client

inductive Reached : Config → Prop where
  | fresh : Reached freshConfig
  | accepted (activity : Activity) (client next : Config) (text : Text) (before : Reached client)
      (read : initFromJson inet4 inet6 parse activity client text = (true, next)) : Reached next
  | opened (client : Config) (encryptType : UInt8) (key : KeyArray) (filter : VscpEventFilter)
      (before : Reached client) : Reached { client with encryptType := encryptType, key := key, filter := filter }

variable (isUtf8 : Text → Bool) (inet : InetLaw inet4 inet6) (law : TcpConfig.DumpLaw parse dump isUtf8)
  (utf8 : Utf8Law parse isUtf8)
include inet law utf8

theorem reached_valid (client : Config) (reached : Reached inet4 inet6 parse client) :
    Valid inet4 inet6 isUtf8 client := by
  induction reached with
  | fresh =>
      have named : ∀ port, namedEndpoint inet4 "224.0.23.158".toList port = some ("224.0.23.158".toList, port) := by
        intro port
        have whole : ("224.0.23.158".toList).takeWhile (· ≠ '\x00') = "224.0.23.158".toList := rfl
        rw [namedEndpoint, whole, inet.group, if_neg (by decide), if_neg]
        exact fun both => Bool.noConfusion both.2
      have apart : ("224.0.23.158".toList.all fun letter => ! foreignLetters.contains letter) = true := rfl
      have solid : ∀ letter ∈ "224.0.23.158".toList, letter ∉ foreignLetters := by
        intro letter inside foreign
        have other := List.all_eq_true.mp apart letter inside
        rw [List.contains_iff_mem.mpr foreign] at other
        cases other
      have host : IsHost inet4 inet6 "224.0.23.158".toList :=
        .name solid (by decide) (by decide) (by decide) named
      exact ⟨host, by decide, law.plain "224.0.23.158".toList rfl, law.plain [] rfl, fun _ => rfl⟩
  | accepted activity client next text _ read ih =>
      exact (accepted_valid inet4 inet6 parse dump isUtf8 law utf8 inet activity client next text ih read).1
  | opened client encryptType key filter _ ih => exact ⟨ih.host, ih.port, ih.address, ih.interface, ih.cleared⟩

omit inet in
theorem given_back_iff (client : Config) (valid : Valid inet4 inet6 isUtf8 client)
    (allowed : KeysAllowed client) :
    GivenBack inet4 inet6 parse dump client ↔ '\x00' ∉ client.interface ∧ client.encryptType ≤ 3 := by
  have read := document_read inet4 inet6 parse dump isUtf8 law client freshConfig valid allowed
  have whole : client.interface.takeWhile (· ≠ '\x00') = client.interface ↔ '\x00' ∉ client.interface := by
    rw [List.takeWhile_eq_self_iff]
    constructor
    · intro solid inside
      exact of_decide_eq_true (solid '\x00' inside) rfl
    · intro absent letter inside
      exact decide_eq_true fun same => absent (by rw [← same]; exact inside)
  constructor
  · rintro ⟨text, written, next, accepted, same⟩
    rw [read text written] at accepted
    by_cases known : client.encryptType ≤ 3
    · rw [if_pos known] at accepted
      have settled := same.interface
      rw [← (Prod.mk.inj accepted).2] at settled
      exact ⟨whole.mp settled, known⟩
    · rw [if_neg known] at accepted
      cases (Prod.mk.inj accepted).1
  · rintro ⟨absent, known⟩
    have written := configuration_written inet4 inet6 parse dump isUtf8 law utf8 client valid
    obtain ⟨text, written⟩ := Option.isSome_iff_exists.mp written
    have accepted := read text written
    rw [if_pos known] at accepted
    exact ⟨text, written, restored client, accepted, whole.mpr absent, rfl, rfl, rfl, rfl,
      used_key_kept client.encryptType client.key, rfl, rfl, rfl⟩

-- A document is taken whole or not at all. What was taken is given back where the interface has no zero in it and
-- the algorithm is one of the four; a host and a port are always, but for the port 0, which comes from a caller only.
theorem datagram_configuration_iff :
    (∀ activity client text,
      (initFromJson inet4 inet6 parse activity client text).1 = true ∨
        (initFromJson inet4 inet6 parse activity client text).2 = client) ∧
    (∀ activity client text next, Reached inet4 inet6 parse client →
      initFromJson inet4 inet6 parse activity client text = (true, next) →
      (GivenBack inet4 inet6 parse dump next ↔ '\x00' ∉ next.interface ∧ next.encryptType ≤ 3)) ∧
    (∀ input port host found, parseEndpoint inet4 inet6 input port = some (host, found) →
      (port ≠ 0 → found ≠ 0) ∧
        ((∀ other, parseEndpoint inet4 inet6 (formatEndpoint host found) other = some (host, found)) ↔ found ≠ 0)) := by
  refine ⟨rejected_kept inet4 inet6 parse, ?_, ?_⟩
  · intro activity client text next reached accepted
    have before := reached_valid inet4 inet6 parse dump isUtf8 inet law utf8 client reached
    obtain ⟨valid, allowed⟩ :=
      accepted_valid inet4 inet6 parse dump isUtf8 law utf8 inet activity client next text before accepted
    exact given_back_iff inet4 inet6 parse dump isUtf8 law utf8 next valid allowed
  · intro input port host found read
    obtain ⟨form, either, _⟩ := parsed_host inet4 inet6 inet.colons input port host found read
    have again := formatted_read inet4 inet6 host form found
    refine ⟨?_, ?_⟩
    · intro given
      rcases either with same | some
      · rwa [same]
      · exact some
    · constructor
      · intro all zero
        have refused := all 0
        rw [again, if_pos zero] at refused
        cases refused
      · intro some other
        rw [again, if_neg some]

end

def plainString : Value → Bool
  | .string letters => letters.all isPlain
  | _ => true

def flatParse (text : Text) : Except JsonFailure Value :=
  match JsonText.read text with
  | some (.object members) =>
      if members.all fun member => plainString member.2 then .ok (.object members) else .error .other
  | _ => .error .parseError

theorem flat_dump_law : TcpConfig.DumpLaw flatParse TcpConfig.plainDump fun text => text.all isPlain where
  plain := TcpConfig.plain_dump_law.plain
  writes := TcpConfig.plain_dump_law.writes
  reads members flat distinct text written := by
    obtain ⟨others, read, held⟩ := flat_object_kept members distinct text written
    have same := flat_object_read members text written
    rw [read] at same
    obtain ⟨rfl⟩ := same
    have strings := (TcpConfig.plain_dump_law.writes members flat).mp (by rw [written]; rfl)
    have plain : (((byName members).map unsignedMember).all fun member => plainString member.2) = true := by
      refine List.all_eq_true.mpr fun member inside => ?_
      obtain ⟨⟨name, value⟩, origin, rfl⟩ := List.mem_map.mp inside
      have listed := (List.perm_insertionSort _ members).mem_iff.mp origin
      cases value with
      | string letters => exact (strings _ listed).2 letters rfl
      | _ => rfl
    exact ⟨_, by simp only [flatParse, read, plain, if_true], held⟩

theorem flat_utf8_law : Utf8Law flatParse fun text => text.all isPlain where
  parts front mark back _ valid := by
    rw [List.all_append, List.all_cons, Bool.and_eq_true, Bool.and_eq_true] at valid
    exact ⟨valid.1, valid.2.2⟩
  joined front back first second := by
    rw [List.all_append, first, second]
    rfl
  strings text config name letters parsed held := by
    unfold flatParse at parsed
    split at parsed
    · rename_i members _
      split at parsed
      · rename_i plain
        cases parsed
        obtain ⟨⟨own, value⟩, hit, same⟩ := Option.map_eq_some_iff.mp held
        cases same
        exact List.all_eq_true.mp plain _ (List.mem_reverse.mp (List.mem_of_find?_eq_some hit))
      · cases parsed
    · cases parsed

def groupOnly (text : Text) : Bool := text = "224.0.23.158".toList
def linkGroupOnly (text : Text) : Bool := text = "ff02::114".toList

theorem group_law : InetLaw groupOnly linkGroupOnly where
  colons text accepted := by
    rw [of_decide_eq_true accepted]
    decide
  group := by decide

def zonedText : Text :=
  "\x7b\"interface\":\"eth0\",\"ip\":\"[ff02::114%eth0]:9700\",\"encryption\":1,".toList ++
    "\"key\":\"000102030405060708090a0b0c0d0e0f\"\x7d".toList

theorem datagram_configuration_example :
    ((initFromJson groupOnly linkGroupOnly flatParse idle freshConfig zonedText).1 = true ∨
      (initFromJson groupOnly linkGroupOnly flatParse idle freshConfig zonedText).2 = freshConfig) ∧
    GivenBack groupOnly linkGroupOnly flatParse TcpConfig.plainDump
      (initFromJson groupOnly linkGroupOnly flatParse idle freshConfig zonedText).2 ∧
    parseEndpoint groupOnly linkGroupOnly (formatEndpoint "ff02::114%eth0".toList 9700) 9598 =
      some ("ff02::114%eth0".toList, 9700) := by
  obtain ⟨whole, back, endpoints⟩ := datagram_configuration_iff groupOnly linkGroupOnly flatParse TcpConfig.plainDump
    (fun text => text.all isPlain) group_law flat_dump_law flat_utf8_law
  have pair : ∀ result : Bool × Config, result.1 = true → result = (true, result.2) := by
    rintro ⟨_, next⟩ rfl
    rfl
  have accepted := pair (initFromJson groupOnly linkGroupOnly flatParse idle freshConfig zonedText) (by decide)
  have zoned : parseEndpoint groupOnly linkGroupOnly "[ff02::114%eth0]:9700".toList 9598 =
      some ("ff02::114%eth0".toList, 9700) := by decide
  refine ⟨whole idle freshConfig zonedText, ?_, ?_⟩
  · exact (back idle freshConfig zonedText _ .fresh accepted).mpr (by decide)
  · exact (endpoints _ _ _ _ zoned).2.mpr (by decide) 9598

def zeroText : Text := "\x7b\"interface\":\"e\\u0000\"\x7d".toList

def escapingParse (text : Text) : Except JsonFailure Value :=
  if text = zeroText then .ok (.object [("interface".toList, .string ['e', '\x00'])]) else flatParse text

-- The interface is taken with its zero and written without it.
theorem interface_cut_short :
    initFromJson groupOnly linkGroupOnly escapingParse idle freshConfig zeroText =
      (true, { freshConfig with interface := ['e', '\x00'] }) ∧
    ¬ GivenBack groupOnly linkGroupOnly escapingParse TcpConfig.plainDump
      { freshConfig with interface := ['e', '\x00'] } := by
  have short : (getConfigAsJson TcpConfig.plainDump { freshConfig with interface := ['e', '\x00'] }).map (fun text =>
      (initFromJson groupOnly linkGroupOnly escapingParse idle freshConfig text).2.interface) = some ['e'] := by
    decide +kernel
  refine ⟨by decide +kernel, ?_⟩
  rintro ⟨text, written, read, accepted, same⟩
  rw [written, Option.map_some, accepted] at short
  have whole := same.interface
  rw [Option.some.inj short] at whole
  revert whole
  decide

end Vscp.Multicast
