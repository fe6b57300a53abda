import Vscp.EventText

set_option autoImplicit false

namespace Vscp.ModuleDescription

open RemoteTcp (Text)

abbrev Texts := List (Text × Text)

def Texts.update (change : Text → Text) (lang : Text) : Texts → Texts
  | [] => [(lang, change [])]
  | (key, old) :: rest =>
      if lang = key then (key, change old) :: rest
      else if lang < key then (lang, change []) :: (key, old) :: rest
      else (key, old) :: Texts.update change lang rest

def Texts.append (lang text : Text) (texts : Texts) : Texts := texts.update (fun old => old ++ text) lang
def Texts.assign (lang text : Text) (texts : Texts) : Texts := texts.update (fun _ => text) lang

structure Described where
  name : Text := []
  mapDescription : Texts := []
  mapInfoURL : Texts := []
deriving DecidableEq

inductive Access where
  | none
  | readOnly
  | writeOnly
  | readWrite
deriving DecidableEq

structure Value extends Described where
  strValue : Text := []
deriving DecidableEq

structure Bit extends Described where
  pos : UInt8 := 0
  width : UInt8 := 1
  default : UInt8 := 0
  min : UInt8 := 0
  max : UInt8 := 1
  access : Access := .readWrite
  mask : Option UInt8 := none
  listValue : List Value := []
deriving DecidableEq

-- The bits from pos on, as far as they lie within a byte.
def fieldMask (pos width : UInt8) : UInt8 :=
  (List.range' pos.toNat width.toNat).foldl (fun mask k => mask ||| UInt8.ofNat (1 <<< k)) 0

def fieldWidth (width : UInt8) : UInt8 := if width = 0 then 1 else if width > 7 then 8 else width

def Bit.setWidth (bit : Bit) (width : UInt8) : Bit :=
  let mask := fieldMask bit.pos (fieldWidth width)
  { bit with
    width := fieldWidth width
    mask := some mask
    min := bit.min &&& mask
    max := bit.max &&& mask }

def Bit.setPos (bit : Bit) (pos : UInt8) : Bit := { bit with pos := pos &&& 7 }.setWidth bit.width

inductive RegisterType where
  | standard
  | dmatrix1
  | block
  | other (code : UInt32)
deriving DecidableEq

def RegisterType.ofCode (code : UInt32) : RegisterType :=
  if code = 0 then .standard else if code = 1 then .dmatrix1 else if code = 2 then .block else .other code

structure Register extends Described where
  page : UInt16 := 0
  offset : UInt32 := 0
  span : UInt16 := 1
  width : UInt16 := 8
  type : RegisterType := .standard
  min : UInt32 := 0
  max : UInt32 := 255
  strDefault : Text := "UNDEF".toList
  access : Access := .readWrite
  listBit : List Bit := []
  listValue : List Value := []
  fgcolor : UInt32 := 0x000000
  bgcolor : UInt32 := 0xffffff
  fgeven : UInt32 := 0
  fgodd : UInt32 := 0
  bgeven : UInt32 := 0
  bgodd : UInt32 := 0
deriving DecidableEq

inductive RemoteVariableType where
  | unknown
  | string
  | boolean
  | int8
  | uint8
  | int16
  | uint16
  | int32
  | uint32
  | int64
  | uint64
  | float
  | double
  | date
  | time
deriving DecidableEq

structure RemoteVariable extends Described where
  strDefault : Text := "UNDEF".toList
  type : RemoteVariableType := .unknown
  page : UInt16 := 0
  offset : UInt32 := 0
  bitpos : Int8 := 0
  size : UInt16 := 0
  access : Access := .readWrite
  bgcolor : UInt32 := 0xffffff
  fgcolor : UInt32 := 0x000000
  listBit : List Bit := []
  listValue : List Value := []
deriving DecidableEq

structure ActionParameter extends Described where
  offset : UInt16 := 0
  min : UInt8 := 0
  max : UInt8 := 255
  listBit : List Bit := []
  listValue : List Value := []
deriving DecidableEq

structure Action extends Described where
  code : UInt16 := 0
  listActionParameter : List ActionParameter := []
deriving DecidableEq

structure DecisionMatrix where
  level : UInt8 := 1
  startPage : UInt16 := 0
  startOffset : UInt16 := 0
  rowCount : UInt16 := 0
  rowSize : UInt16 := 8
  listAction : List Action := []
deriving DecidableEq

structure EventData extends Described where
  offset : UInt16 := 0
  listBit : List Bit := []
  listValue : List Value := []
deriving DecidableEq

inductive Direction where
  | into
  | out
deriving DecidableEq

structure Event extends Described where
  vscpClass : Int32 := 0
  type : Int32 := 0
  priority : UInt8 := 7
  direction : Direction := .out
  listEventData : List EventData := []
deriving DecidableEq

-- A line of the manufacturer's contact lists; it has a value in place of a name.
structure Item extends Described where
deriving DecidableEq

structure BootLoaderInfo where
  algorithm : UInt8 := 0
  blockSize : UInt32 := 0
  blockCount : UInt32 := 0
deriving DecidableEq

structure Address where
  street : Text := []
  town : Text := []
  city : Text := []
  postCode : Text := []
  state : Text := []
  region : Text := []
  country : Text := []
deriving DecidableEq

structure Manufacturer where
  name : Text := []
  address : Address := {}
  listPhone : List Item := []
  listFax : List Item := []
  listEmail : List Item := []
  listWeb : List Item := []
  listSocial : List Item := []
deriving DecidableEq

structure Picture extends Described where
  url : Text := []
  format : Text := []
  date : Text := []
deriving DecidableEq

structure Video extends Described where
  url : Text := []
  format : Text := []
  date : Text := []
deriving DecidableEq

structure Firmware extends Described where
  url : Text := []
  target : Text := []
  targetCode : UInt16 := 0
  format : Text := "INTELHEX".toList
  date : Text := []
  size : UInt64 := 0
  versionMajor : UInt16 := 0
  versionMinor : UInt16 := 0
  versionPatch : UInt16 := 0
  md5 : Text := []
deriving DecidableEq

structure Driver extends Described where
  url : Text := []
  type : Text := []
  os : Text := []
  osVer : Text := []
  date : Text := []
  architecture : Text := []
  versionMajor : UInt16 := 0
  versionMinor : UInt16 := 0
  versionPatch : UInt16 := 0
  md5 : Text := []
deriving DecidableEq

structure Setup extends Described where
  url : Text := []
  format : Text := []
  date : Text := []
  version : Text := []
deriving DecidableEq

structure Manual extends Described where
  url : Text := []
  format : Text := []
  language : Text := []
  date : Text := []
deriving DecidableEq

structure Mdf extends Described where
  redirectUrl : Text := []
  level : UInt8 := 0
  copyright : Text := []
  changeDate : Text := []
  model : Text := []
  version : Text := []
  bufferSize : UInt16 := 0
  manufacturer : Manufacturer := {}
  listPicture : List Picture := []
  listVideo : List Video := []
  listFirmware : List Firmware := []
  listDriver : List Driver := []
  listManual : List Manual := []
  listSetup : List Setup := []
  dmInfo : DecisionMatrix := {}
  bootInfo : BootLoaderInfo := {}
  listRegister : List Register := []
  listRemotevar : List RemoteVariable := []
  listEvent : List Event := []
  listAlarm : List Bit := []
deriving DecidableEq

-- Unlike a new object, a cleared one keeps its redirect, its copyright and its manufacturer.
def Mdf.clearStorage (mdf : Mdf) : Mdf :=
  { redirectUrl := mdf.redirectUrl, copyright := mdf.copyright, manufacturer := mdf.manufacturer }

end Vscp.ModuleDescription
