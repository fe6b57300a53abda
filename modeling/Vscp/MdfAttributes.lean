import Vscp.ModuleDescription
import Vscp.Lib.SaxHandler

set_option autoImplicit false

namespace Vscp.ModuleDescription

open RemoteTcp (Text trim)

abbrev Attributes := List (Text × Text)

def strcasecmp (first second : Text) : Bool := makeLower first = makeLower second

def memberOf {Member : Type} (names : List (Text × Member)) (name : Text) : Option Member :=
  (names.find? fun entry => strcasecmp name entry.1).map Prod.snd

def setAttribute {Member Record : Type} (names : List (Text × Member)) (set : Member → Text → Record → Record)
    (clean : Text → Text) (record : Record) (entry : Text × Text) : Record :=
  match memberOf names entry.1 with
  | some member => set member (clean entry.2) record
  | none => record

def setAttributes {Member Record : Type} (names : List (Text × Member)) (set : Member → Text → Record → Record)
    (clean : Text → Text) (attributes : Attributes) (record : Record) : Record :=
  attributes.foldl (setAttribute names set clean) record

def lowerTrim (text : Text) : Text := makeLower (trim text)

def accessOf (text : Text) : Access :=
  if text = "w".toList then .writeOnly
  else if text = "r".toList then .readOnly
  else if text = "rw".toList then .readWrite
  else .none

def keepEmpty (text old : Text) : Text := if text = [] then old else text

inductive PictureMember where
  | name
  | url
  | format
  | date
deriving DecidableEq

def pictureNames : List (Text × PictureMember) :=
  [("name".toList, .name), ("path".toList, .url), ("url".toList, .url), ("format".toList, .format),
    ("date".toList, .date)]

def setPicture : PictureMember → Text → Picture → Picture
  | .name, text, picture => { picture with name := keepEmpty text picture.name }
  | .url, text, picture => { picture with url := keepEmpty text picture.url }
  | .format, text, picture => { picture with format := keepEmpty text picture.format }
  | .date, text, picture => { picture with date := text }

def setVideo : PictureMember → Text → Video → Video
  | .name, text, video => { video with name := keepEmpty text video.name }
  | .url, text, video => { video with url := keepEmpty text video.url }
  | .format, text, video => { video with format := keepEmpty text video.format }
  | .date, text, video => { video with date := text }

def setSetup : PictureMember → Text → Setup → Setup
  | .name, text, setup => { setup with name := keepEmpty text setup.name }
  | .url, text, setup => { setup with url := keepEmpty text setup.url }
  | .format, text, setup => { setup with format := keepEmpty text setup.format }
  | .date, text, setup => { setup with date := text }

inductive FirmwareMember where
  | name
  | target
  | targetcode
  | versionMajor
  | versionMinor
  | versionPatch
  | url
  | md5
  | size
  | date
  | format
deriving DecidableEq

def firmwareNames : List (Text × FirmwareMember) :=
  [("name".toList, .name), ("target".toList, .target), ("targetcode".toList, .targetcode),
    ("version_major".toList, .versionMajor), ("version_minor".toList, .versionMinor),
    ("version_patch".toList, .versionPatch), ("version_subminor".toList, .versionPatch), ("url".toList, .url),
    ("path".toList, .url), ("md5sum".toList, .md5), ("size".toList, .size), ("date".toList, .date),
    ("format".toList, .format)]

def setFirmware : FirmwareMember → Text → Firmware → Firmware
  | .name, text, firmware => { firmware with name := keepEmpty text firmware.name }
  | .target, text, firmware => { firmware with target := text }
  | .targetcode, text, firmware => { firmware with targetCode := UInt16.ofInt (readStringValue text) }
  | .versionMajor, text, firmware => { firmware with versionMajor := UInt16.ofInt (readStringValue text) }
  | .versionMinor, text, firmware => { firmware with versionMinor := UInt16.ofInt (readStringValue text) }
  | .versionPatch, text, firmware => { firmware with versionPatch := UInt16.ofInt (readStringValue text) }
  | .url, text, firmware => { firmware with url := text }
  | .md5, text, firmware => { firmware with md5 := text }
  | .size, text, firmware => { firmware with size := UInt64.ofInt (readStringValue text) }
  | .date, text, firmware => { firmware with date := text }
  | .format, text, firmware => { firmware with format := text }

inductive DriverMember where
  | name
  | type
  | versionMajor
  | versionMinor
  | versionPatch
  | url
  | md5
  | os
  | osVer
  | architecture
  | date
deriving DecidableEq

def driverNames : List (Text × DriverMember) :=
  [("name".toList, .name), ("type".toList, .type), ("version_major".toList, .versionMajor),
    ("version_minor".toList, .versionMinor), ("version_patch".toList, .versionPatch),
    ("version_subminor".toList, .versionPatch), ("url".toList, .url), ("path".toList, .url), ("md5sum".toList, .md5),
    ("os".toList, .os), ("osver".toList, .osVer), ("architecture".toList, .architecture), ("date".toList, .date)]

def setDriver : DriverMember → Text → Driver → Driver
  | .name, text, driver => { driver with name := keepEmpty text driver.name }
  | .type, text, driver => { driver with type := text }
  | .versionMajor, text, driver => { driver with versionMajor := UInt16.ofInt (readStringValue text) }
  | .versionMinor, text, driver => { driver with versionMinor := UInt16.ofInt (readStringValue text) }
  | .versionPatch, text, driver => { driver with versionPatch := UInt16.ofInt (readStringValue text) }
  | .url, text, driver => { driver with url := text }
  | .md5, text, driver => { driver with md5 := text }
  | .os, text, driver => { driver with os := text }
  | .osVer, text, driver => { driver with osVer := text }
  | .architecture, text, driver => { driver with architecture := text }
  | .date, text, driver => { driver with date := text }

inductive ManualMember where
  | name
  | url
  | language
  | format
  | date
deriving DecidableEq

def manualNames : List (Text × ManualMember) :=
  [("name".toList, .name), ("path".toList, .url), ("url".toList, .url), ("lang".toList, .language),
    ("format".toList, .format), ("date".toList, .date)]

def setManual : ManualMember → Text → Manual → Manual
  | .name, text, manual => { manual with name := keepEmpty text manual.name }
  | .url, text, manual => { manual with url := text }
  | .language, text, manual => { manual with language := text }
  | .format, text, manual => { manual with format := text }
  | .date, text, manual => { manual with date := text }

inductive RegisterMember where
  | name
  | page
  | offset
  | span
  | width
  | default
  | access
  | min
  | max
  | type
  | fgcolor
  | bgcolor
  | evenfg
  | evenbg
  | oddfg
  | oddbg
deriving DecidableEq

def registerNames : List (Text × RegisterMember) :=
  [("name".toList, .name), ("page".toList, .page), ("offset".toList, .offset), ("span".toList, .span),
    ("size".toList, .span), ("width".toList, .width), ("default".toList, .default), ("access".toList, .access),
    ("min".toList, .min), ("max".toList, .max), ("type".toList, .type), ("fgcolor".toList, .fgcolor),
    ("bgcolor".toList, .bgcolor), ("evenfg".toList, .evenfg), ("evenbg".toList, .evenbg), ("oddfg".toList, .oddfg),
    ("oddbg".toList, .oddbg)]

def registerWidth (number : UInt16) : UInt16 := if number > 8 then 8 else number

def registerType (text : Text) : RegisterType :=
  if text = "standard".toList ∨ text = "std".toList then .standard
  else if text = "dmatrix".toList ∨ text = "dmatrix1".toList ∨ text = "dm".toList then .dmatrix1
  else if text = "block".toList ∨ text = "blk".toList then .block
  else RegisterType.ofCode (UInt32.ofInt (readStringValue text))

def setRegister : RegisterMember → Text → Register → Register
  | .name, text, reg => { reg with name := text }
  | .page, text, reg => { reg with page := UInt16.ofInt (readStringValue text) }
  | .offset, text, reg => { reg with offset := UInt32.ofInt (readStringValue text) }
  | .span, text, reg => { reg with span := UInt16.ofInt (readStringValue text) }
  | .width, text, reg => { reg with width := registerWidth (UInt16.ofInt (readStringValue text)) }
  | .default, text, reg => { reg with strDefault := text }
  | .access, text, reg => { reg with access := accessOf text }
  | .min, text, reg => { reg with min := UInt32.ofInt (readStringValue text) }
  | .max, text, reg => { reg with max := UInt32.ofInt (readStringValue text) }
  | .type, text, reg => { reg with type := registerType text }
  | .fgcolor, text, reg => { reg with fgcolor := UInt32.ofInt (readStringValue text) }
  | .bgcolor, text, reg => { reg with bgcolor := UInt32.ofInt (readStringValue text) }
  | .evenfg, text, reg => { reg with fgeven := UInt32.ofInt (readStringValue text) }
  | .evenbg, text, reg => { reg with bgeven := UInt32.ofInt (readStringValue text) }
  | .oddfg, text, reg => { reg with fgodd := UInt32.ofInt (readStringValue text) }
  | .oddbg, text, reg => { reg with bgodd := UInt32.ofInt (readStringValue text) }

inductive RemoteMember where
  | name
  | default
  | bitpos
  | size
  | access
  | type
  | page
  | offset
  | fgcolor
  | bgcolor
deriving DecidableEq

def remoteNames : List (Text × RemoteMember) :=
  [("name".toList, .name), ("default".toList, .default), ("bitpos".toList, .bitpos), ("size".toList, .size),
    ("access".toList, .access), ("type".toList, .type), ("page".toList, .page), ("offset".toList, .offset),
    ("fgcolor".toList, .fgcolor), ("bgcolor".toList, .bgcolor)]

def remoteTypeNames : List (Text × RemoteVariableType) :=
  [("string".toList, .string), ("bool".toList, .boolean), ("int8".toList, .int8), ("int8_t".toList, .int8),
    ("char".toList, .int8), ("uint8".toList, .uint8), ("uint8_t".toList, .uint8), ("byte".toList, .uint8),
    ("int16".toList, .int16), ("int16_t".toList, .int16), ("short".toList, .int16), ("uint16".toList, .uint16),
    ("uint16_t".toList, .uint16), ("int32".toList, .int32), ("int32_t".toList, .int32), ("long".toList, .int32),
    ("uint32".toList, .uint32), ("uint32_t".toList, .uint32), ("unsigned".toList, .uint32), ("int64".toList, .int64),
    ("int64_t".toList, .int64), ("longlong".toList, .int64), ("uint64".toList, .uint64), ("uint64_t".toList, .uint64),
    ("float".toList, .float), ("double".toList, .double), ("date".toList, .date), ("time".toList, .time)]

def remoteType (text : Text) : RemoteVariableType := (remoteTypeNames.lookup text).getD .unknown

-- The access text also goes to the size, as the number it is read as.
def setRemote : RemoteMember → Text → RemoteVariable → RemoteVariable
  | .name, text, rvar => { rvar with name := text }
  | .default, text, rvar => { rvar with strDefault := text }
  | .bitpos, text, rvar => { rvar with bitpos := Int8.ofInt (readStringValue text) &&& 7 }
  | .size, text, rvar => { rvar with size := UInt16.ofInt (readStringValue text) }
  | .access, text, rvar => { rvar with size := UInt16.ofInt (readStringValue text), access := accessOf text }
  | .type, text, rvar => { rvar with type := remoteType text }
  | .page, text, rvar => { rvar with page := UInt16.ofInt (readStringValue text) }
  | .offset, text, rvar => { rvar with offset := UInt32.ofInt (readStringValue text) }
  | .fgcolor, text, rvar => { rvar with fgcolor := UInt32.ofInt (readStringValue text) }
  | .bgcolor, text, rvar => { rvar with bgcolor := UInt32.ofInt (readStringValue text) }

inductive BitMember where
  | name
  | pos
  | width
  | default
  | min
  | max
  | access
deriving DecidableEq

def bitNames : List (Text × BitMember) :=
  [("name".toList, .name), ("pos".toList, .pos), ("width".toList, .width), ("default".toList, .default),
    ("min".toList, .min), ("max".toList, .max), ("access".toList, .access)]

def bitDefault (text : Text) : UInt8 :=
  if text = "true".toList then 1
  else if text = "false".toList then 0
  else UInt8.ofInt (readStringValue text)

-- min and max go past the setters that would mask them.
def setBit : BitMember → Text → Bit → Bit
  | .name, text, bit => { bit with name := text }
  | .pos, text, bit => bit.setPos (UInt8.ofInt (readStringValue text))
  | .width, text, bit => bit.setWidth (UInt8.ofInt (readStringValue text))
  | .default, text, bit => { bit with default := bitDefault text }
  | .min, text, bit => { bit with min := UInt8.ofInt (readStringValue text) }
  | .max, text, bit => { bit with max := UInt8.ofInt (readStringValue text) }
  | .access, text, bit => { bit with access := accessOf text }

inductive ValueMember where
  | name
  | value
deriving DecidableEq

def valueNames : List (Text × ValueMember) := [("name".toList, .name), ("value".toList, .value)]

def setValue : ValueMember → Text → Value → Value
  | .name, text, value => { value with name := text }
  | .value, text, value => { value with strValue := text }

inductive StartMember where
  | page
  | offset
deriving DecidableEq

def startNames : List (Text × StartMember) := [("page".toList, .page), ("offset".toList, .offset)]

def setStart : StartMember → Text → DecisionMatrix → DecisionMatrix
  | .page, text, dm => { dm with startPage := UInt16.ofInt (readStringValue text) }
  | .offset, text, dm => { dm with startOffset := UInt16.ofInt (readStringValue text) }

inductive ActionMember where
  | code
  | name
deriving DecidableEq

def actionNames : List (Text × ActionMember) := [("code".toList, .code), ("name".toList, .name)]

def setAction : ActionMember → Text → Action → Action
  | .code, text, action => { action with code := UInt16.ofInt (readStringValue text) }
  | .name, text, action => { action with name := text }

inductive ParameterMember where
  | offset
  | min
  | max
  | name
deriving DecidableEq

def parameterNames : List (Text × ParameterMember) :=
  [("offset".toList, .offset), ("min".toList, .min), ("max".toList, .max), ("name".toList, .name)]

def setParameter : ParameterMember → Text → ActionParameter → ActionParameter
  | .offset, text, param => { param with offset := UInt16.ofInt (readStringValue text) }
  | .min, text, param => { param with min := UInt8.ofInt (readStringValue text) }
  | .max, text, param => { param with max := UInt8.ofInt (readStringValue text) }
  | .name, text, param => { param with name := text }

inductive EventMember where
  | name
  | vscpClass
  | type
  | direction
  | priority
deriving DecidableEq

def eventNames : List (Text × EventMember) :=
  [("name".toList, .name), ("class".toList, .vscpClass), ("type".toList, .type), ("direction".toList, .direction),
    ("priority".toList, .priority)]

def eventNumber (text : Text) : Int32 := if text = "-".toList then -1 else Int32.ofInt (readStringValue text)

def directionOf (text : Text) : Direction := if text = "in".toList then .into else .out

def priorityOf (text : Text) : UInt8 :=
  if text = "low".toList then 7
  else if text = "normal".toList then 3
  else if text = "medium".toList then 6
  else if text = "high".toList then 0
  else UInt8.ofInt (readStringValue text) &&& 7

def setEvent : EventMember → Text → Event → Event
  | .name, text, event => { event with name := text }
  | .vscpClass, text, event => { event with vscpClass := eventNumber text }
  | .type, text, event => { event with type := eventNumber text }
  | .direction, text, event => { event with direction := directionOf text }
  | .priority, text, event => { event with priority := priorityOf text }

inductive DataMember where
  | name
  | offset
deriving DecidableEq

def dataNames : List (Text × DataMember) := [("name".toList, .name), ("offset".toList, .offset)]

def setEventData : DataMember → Text → EventData → EventData
  | .name, text, data => { data with name := text }
  | .offset, text, data => { data with offset := UInt16.ofInt (readStringValue text) }

def getValueAttributes (values : List Value) (attributes : Attributes) : List Value :=
  values ++ [setAttributes valueNames setValue lowerTrim attributes {}]

def getBitAttributes (bits : List Bit) (attributes : Attributes) : List Bit :=
  bits ++ [setAttributes bitNames setBit lowerTrim attributes {}]

def Register.striped (reg : Register) : Bool := reg.fgeven ≠ 0 ∨ reg.fgodd ≠ 0 ∨ reg.bgeven ≠ 0 ∨ reg.bgodd ≠ 0

-- The assignment operator takes over neither the bits nor the values.
def Register.copied (reg : Register) : Register := { reg with listBit := [], listValue := [] }

def Register.row (reg : Register) (name : Text) (pos : Nat) : Register :=
  { reg with
    name := name
    offset := reg.offset + UInt32.ofNat pos
    fgcolor := if reg.striped then if pos % 2 = 1 then reg.fgodd else reg.fgeven else reg.fgcolor
    bgcolor := if reg.striped then if pos % 2 = 1 then reg.bgodd else reg.bgeven else reg.bgcolor }

-- The rows of a decision matrix and of a block are registers of their own, in the colours of
-- even and odd rows where there are any.
def Register.rows (reg : Register) (first : Text) (later : Text) : List Register :=
  reg.row (reg.name ++ first) 0 :: (List.range' 1 (reg.span.toNat - 1)).map fun pos =>
    reg.copied.row (reg.name ++ later ++ NumberText.decimal pos) pos

def Register.copies (reg : Register) : List Register :=
  match reg.type with
  | .dmatrix1 => reg.rows " - DM 0".toList "Decision Matrix ".toList
  | .block => reg.rows " - BLOCK 0".toList " - BLOCK ".toList
  | _ => [reg]

end Vscp.ModuleDescription
