import Vscp.MdfAttributes
import Vscp.Lib.JsonText
import Vscp.Lib.Printf

set_option autoImplicit false

namespace Vscp.ModuleDescription

open RemoteTcp (Text trim makeUpper)
open NumberText (decimal)
open Printf (signedDecimal)

abbrev Json := JsonText.Value

structure JsonLibrary where
  parse : Text → Option Json
  truncate : Text → Int
  floatText : Text → Text
  dump : Json → Text

def isObject : Json → Bool
  | .object _ => true
  | _ => false

def stringMember (j : Json) (name : Text) : Option Text :=
  match j.member name with
  | some (.string text) => some text
  | _ => none

def arrayMember (j : Json) (name : Text) : Option (List Json) :=
  match j.member name with
  | some (.array items) => some items
  | _ => none

def objectMember (j : Json) (name : Text) : Option Json :=
  match j.member name with
  | some (.object members) => some (.object members)
  | _ => none

-- Reads the records of an array one by one; one that fails is on the list as far as it was read.
def readRecords {Record : Type} (read : Json → Except Record Record) : List Json → Except (List Record) (List Record)
  | [] => .ok []
  | item :: items =>
      match read item with
      | .error record => .error [record]
      | .ok record =>
          match readRecords read items with
          | .error records => .error (record :: records)
          | .ok records => .ok (record :: records)

def attach {Part Whole : Type} (put : Part → Whole) : Except Part Part → Except Whole Whole
  | .error part => .error (put part)
  | .ok part => .ok (put part)

section

variable (library : JsonLibrary)

def numberOf : Json → Option Int
  | .numberInteger number => some number
  | .numberUnsigned number => some number.toNat
  | .numberFloat digits => some (library.truncate digits)
  | _ => none

def numberMember (j : Json) (name : Text) : Option Int := (j.member name).bind (numberOf library)

def numericMember (j : Json) (name : Text) : Option Int :=
  match j.member name with
  | some (.string text) => some (readStringValue text)
  | some value => numberOf library value
  | none => none

def toJsonString : Json → Text
  | .string text => text
  | .numberInteger number => signedDecimal number
  | .numberUnsigned number => signedDecimal number.toInt64.toInt
  | .numberFloat digits => library.floatText digits
  | .boolean value => if value then "true".toList else "false".toList
  | value => library.dump value

def textsMember (j : Json) (name : Text) (texts : Texts) : Texts :=
  match j.member name with
  | some (.string text) => texts.assign "en".toList text
  | some (.object members) => members.foldl (fun map entry => map.assign entry.1 (toJsonString library entry.2)) texts
  | _ => texts

def getDescriptionList (j : Json) (texts : Texts) : Texts := textsMember library j "description".toList texts
def getInfoUrlList (j : Json) (texts : Texts) : Texts := textsMember library j "infourl".toList texts

def Described.fromJson (name : Text) (j : Json) : Described :=
  { name := name, mapDescription := getDescriptionList library j [], mapInfoURL := getInfoUrlList library j [] }

def lowerName (j : Json) : Text := lowerTrim ((stringMember j "name".toList).getD [])

def jsonValue (j : Json) : Value :=
  { toDescribed := Described.fromJson library (lowerName j) j
    strValue := (stringMember j "value".toList).getD [] }

def getValueList (j : Json) : List Value :=
  (((arrayMember j "valuelist".toList).getD []).filter isObject).map (jsonValue library)

def accessMember (j : Json) : Option Access :=
  (stringMember j "access".toList).map fun text => accessOf (lowerTrim text)

def jsonBitDefault (j : Json) : UInt8 :=
  match j.member "default".toList with
  | some (.boolean value) => if value then 1 else 0
  | _ => ((numericMember library j "default".toList).map UInt8.ofInt).getD 1

-- Without a max it is the min that is set to 255.
def jsonBit (j : Json) : Bit :=
  let named : Bit := { toDescribed := Described.fromJson library (lowerName j) j }
  let placed :=
    match numericMember library j "pos".toList with
    | some pos => named.setPos (UInt8.ofInt pos)
    | none => { named with pos := 0 }
  let sized :=
    match numericMember library j "width".toList with
    | some width => placed.setWidth (UInt8.ofInt width)
    | none => { placed with width := 1 }
  let low := { sized with
    default := jsonBitDefault library j
    min := ((numericMember library j "min".toList).map UInt8.ofInt).getD 0 }
  let bounded :=
    match numericMember library j "max".toList with
    | some max => { low with max := UInt8.ofInt max }
    | none => { low with min := 255 }
  { bounded with
    access := (accessMember j).getD .readWrite
    listValue := getValueList library j }

def getBitList (j : Json) : List Bit :=
  (((arrayMember j "bit".toList).getD []).filter isObject).map (jsonBit library)

def jsonRegisterType (j : Json) : RegisterType :=
  match stringMember j "type".toList with
  | some text =>
      let strType := trim text
      if strType = "std".toList then .standard
      else if strType = "dmatrix1".toList ∨ strType = "dm".toList ∨ strType = "dmatrix".toList then .dmatrix1
      else if strType = "block".toList then .block
      else .standard
  | none => .standard

def jsonRegisterDefault (j : Json) : Text :=
  match j.member "default".toList with
  | some (.string text) => makeUpper (trim text)
  | some (.boolean value) => if value then "true".toList else "false".toList
  | some value =>
      match numberOf library value with
      | some number => signedDecimal (Int32.ofInt number).toInt
      | none => "UNDEF".toList
  | none => "UNDEF".toList

def jsonColor (j : Json) (name : Text) : UInt32 := ((numericMember library j name).map UInt32.ofInt).getD 0

-- Without an access it is the max that is set to 0.
def jsonRegister (j : Json) : Register :=
  let span := ((numericMember library j "span".toList).map UInt16.ofInt).getD 1
  let max := ((numericMember library j "max".toList).map UInt32.ofInt).getD 0
  { toDescribed := Described.fromJson library (lowerName j) j
    page := ((numericMember library j "page".toList).map UInt16.ofInt).getD 0
    offset := ((numericMember library j "offset".toList).map UInt32.ofInt).getD 0
    span := ((numericMember library j "size".toList).map UInt16.ofInt).getD span
    width := ((numericMember library j "width".toList).map UInt16.ofInt).getD 8
    type := jsonRegisterType j
    min := ((numericMember library j "min".toList).map UInt32.ofInt).getD 0
    max := if (accessMember j).isSome then max else 0
    strDefault := jsonRegisterDefault library j
    access := (accessMember j).getD .readWrite
    fgcolor := jsonColor library j "fgcolor".toList
    bgcolor := jsonColor library j "bgcolor".toList
    fgeven := jsonColor library j "evenfg".toList
    fgodd := jsonColor library j "oddfg".toList
    bgeven := jsonColor library j "evenbg".toList
    bgodd := jsonColor library j "oddbg".toList
    listValue := getValueList library j
    listBit := getBitList library j }

-- The later rows are named after the first one, suffix included.
def jsonRegisterRows (reg : Register) : List Register :=
  match reg.type with
  | .dmatrix1 => reg.rows " - DM 0".toList " - DM 0 - DM ".toList
  | .block => reg.rows " - BLOCK 0".toList " - BLOCK 0 - BLOCK ".toList
  | _ => [reg]

def jsonRemoteDefault (j : Json) : Text :=
  match j.member "default".toList with
  | some (.string text) => text
  | some (.boolean value) => if value then "true".toList else "false".toList
  | some value =>
      match numberOf library value with
      | some number => decimal (UInt32.ofInt number).toNat
      | none => "UNDEF".toList
  | none => "UNDEF".toList

-- Without a size it is the bit position that is set to 0.
def jsonBitpos (j : Json) : Int8 :=
  match numericMember library j "size".toList with
  | some _ => ((numericMember library j "bitpos".toList).map fun number => Int8.ofInt number &&& 7).getD (-1)
  | none => 0

def jsonRemote (j : Json) : Except RemoteVariable RemoteVariable :=
  match stringMember j "name".toList with
  | none => .error {}
  | some name =>
      match stringMember j "type".toList with
      | none => .error { name := lowerTrim name }
      | some type =>
          .ok { toDescribed := Described.fromJson library (lowerTrim name) j
                type := remoteType (lowerTrim type)
                strDefault := jsonRemoteDefault library j
                page := ((numericMember library j "page".toList).map UInt16.ofInt).getD 0
                offset := ((numericMember library j "offset".toList).map UInt32.ofInt).getD 0
                bitpos := jsonBitpos library j
                size := ((numericMember library j "size".toList).map UInt16.ofInt).getD 0
                access := (accessMember j).getD .readWrite
                fgcolor := jsonColor library j "fgcolor".toList
                bgcolor := jsonColor library j "bgcolor".toList
                listValue := getValueList library j
                listBit := getBitList library j }

-- A max that is a number is never looked at.
def jsonParameter (j : Json) : ActionParameter :=
  if isObject j then
    { toDescribed := Described.fromJson library (lowerName j) j
      offset := ((numericMember library j "offset".toList).map UInt16.ofInt).getD 0
      min := ((numericMember library j "min".toList).map UInt8.ofInt).getD 0
      max := ((stringMember j "max".toList).map fun text => UInt8.ofInt (readStringValue text)).getD 0
      listValue := getValueList library j
      listBit := getBitList library j }
  else {}

def jsonAction (j : Json) : Except Action Action :=
  match stringMember j "name".toList with
  | none => .error {}
  | some name =>
      match numericMember library j "code".toList with
      | none => .error { name := lowerTrim name }
      | some code =>
          .ok { toDescribed := Described.fromJson library (lowerTrim name) j
                code := UInt16.ofInt code
                listActionParameter := ((arrayMember j "param".toList).getD []).map (jsonParameter library) }

def jsonMatrix (j : Json) (old : DecisionMatrix) : Except DecisionMatrix DecisionMatrix :=
  let dm : DecisionMatrix :=
    { level := ((numericMember library j "level".toList).map UInt8.ofInt).getD 1
      startPage := ((numericMember library j "start-page".toList).map UInt16.ofInt).getD 0
      startOffset := ((numericMember library j "start-offset".toList).map UInt16.ofInt).getD 0
      rowCount := ((numericMember library j "rowcount".toList).map UInt16.ofInt).getD 0
      rowSize := ((numericMember library j "rowsize".toList).map UInt16.ofInt).getD 8
      listAction := old.listAction }
  attach (fun actions => { dm with listAction := dm.listAction ++ actions })
    (readRecords (jsonAction library) (((arrayMember j "action".toList).getD []).filter isObject))

-- The offset of the data is not read.
def jsonEventData (j : Json) : EventData :=
  { toDescribed := Described.fromJson library (lowerName j) j
    listValue := getValueList library j
    listBit := getBitList library j }

def jsonPriority (j : Json) : UInt8 :=
  match stringMember j "priority".toList with
  | some text => priorityOf (lowerTrim text)
  | none => ((numberMember library j "priority".toList).map fun number => UInt8.ofInt number &&& 7).getD 3

-- A class or type that is a text is tested as if it were a truth value, and that throws.
def jsonEvent (j : Json) : Except Event Event :=
  let named : Event := { name := lowerName j }
  match numberMember library j "class".toList with
  | none => .error named
  | some vscpClass =>
      let classed := { named with vscpClass := Int32.ofInt vscpClass }
      match numberMember library j "type".toList with
      | none => .error classed
      | some type =>
          .ok { classed with
            toDescribed := Described.fromJson library (lowerName j) j
            type := Int32.ofInt type
            direction := ((stringMember j "direction".toList).map fun text => directionOf (lowerTrim text)).getD .out
            priority := jsonPriority library j
            listEventData := (((arrayMember j "data".toList).getD []).filter isObject).map (jsonEventData library) }

def alarmEntry (entry : Option Json) : Option (List Bit) :=
  match entry with
  | some (.array items) => some (getBitList library (.object [("bit".toList, .array items)]))
  | some (.object members) =>
      let j : Json := .object members
      match j.member "bit".toList, j.member "bits".toList with
      | none, some bits => some (getBitList library (.object (members ++ [("bit".toList, bits)])))
      | _, _ => some (getBitList library j)
  | _ => none

-- The first of the places that holds a list of bits counts.
def jsonAlarm (j inner : Json) : List Bit :=
  match alarmEntry library (inner.member "alarm".toList), alarmEntry library (inner.member "alarms".toList),
      alarmEntry library (j.member "alarm".toList), alarmEntry library (j.member "alarms".toList) with
  | some bits, _, _, _ => bits
  | none, some bits, _, _ => bits
  | none, none, some bits, _ => bits
  | none, none, none, some bits => bits
  | none, none, none, none => []

def jsonItem (names : List Text) (j : Json) : Item :=
  { toDescribed := Described.fromJson library ((names.findSome? (stringMember j)).getD []) j }

-- An address leads to the id, and without one to an exception.
def jsonSocial (j : Json) : Except Item Item :=
  match stringMember j "url".toList with
  | some url => .ok { toDescribed := Described.fromJson library url j }
  | none =>
      match stringMember j "address".toList with
      | none => .ok { toDescribed := Described.fromJson library [] j }
      | some _ =>
          match stringMember j "id".toList with
          | some id => .ok { toDescribed := Described.fromJson library id j }
          | none => .error {}

def jsonAddress (j : Json) (old : Address) : Address :=
  { street := (stringMember j "street".toList).getD old.street
    town := (stringMember j "town".toList).getD old.town
    city := (stringMember j "city".toList).getD old.city
    postCode := (stringMember j "postcode".toList).getD old.postCode
    state := (stringMember j "state".toList).getD old.state
    region := (stringMember j "region".toList).getD old.region
    country := (stringMember j "country".toList).getD old.country }

def contacts (j : Json) (name : Text) : List Json := ((arrayMember j name).getD []).filter isObject

-- The contacts are only read where there is an address.
def jsonManufacturer (j : Json) (old : Manufacturer) : Except Manufacturer Manufacturer :=
  let named := { old with name := (stringMember j "name".toList).getD old.name }
  match objectMember j "address".toList with
  | none => .ok named
  | some address =>
      let reached := { named with
        address := jsonAddress address named.address
        listPhone := named.listPhone ++ (contacts j "telephone".toList).map (jsonItem library ["number".toList])
        listFax := named.listFax ++ (contacts j "fax".toList).map (jsonItem library ["number".toList])
        listEmail := named.listEmail ++ (contacts j "email".toList).map (jsonItem library ["address".toList])
        listWeb := named.listWeb ++ (contacts j "web".toList).map (jsonItem library ["url".toList, "address".toList]) }
      attach (fun items => { reached with listSocial := reached.listSocial ++ items })
        (readRecords (jsonSocial library) (contacts j "social".toList))

def jsonBoot (j : Json) (old : BootLoaderInfo) : BootLoaderInfo :=
  { algorithm := ((numericMember library j "algorithm".toList).map UInt8.ofInt).getD old.algorithm
    blockSize := ((numericMember library j "blocksize".toList).map UInt32.ofInt).getD old.blockSize
    blockCount := ((numericMember library j "blockcount".toList).map UInt32.ofInt).getD old.blockCount }

def rawText (j : Json) (name : Text) : Text := (stringMember j name).getD []

def jsonPicture (j : Json) : Picture :=
  { toDescribed := Described.fromJson library (rawText j "name".toList) j
    url := rawText j "url".toList
    format := rawText j "format".toList
    date := rawText j "date".toList }

def jsonVideo (j : Json) : Video :=
  { toDescribed := Described.fromJson library (rawText j "name".toList) j
    url := rawText j "url".toList
    format := rawText j "format".toList
    date := rawText j "date".toList }

def jsonFirmware (j : Json) : Firmware :=
  { toDescribed := Described.fromJson library (rawText j "name".toList) j
    url := rawText j "url".toList
    target := rawText j "target".toList
    targetCode := ((numericMember library j "targetcode".toList).map UInt16.ofInt).getD 0
    format := (stringMember j "format".toList).getD "INTELHEX".toList
    date := rawText j "date".toList
    versionMajor := ((numericMember library j "version_major".toList).map UInt16.ofInt).getD 0
    versionMinor := ((numericMember library j "version_minor".toList).map UInt16.ofInt).getD 0
    versionPatch := ((numericMember library j "version_patch".toList).map UInt16.ofInt).getD 0
    size := ((numericMember library j "size".toList).map UInt64.ofInt).getD 0
    md5 := rawText j "md5sum".toList }

def jsonDriver (j : Json) : Driver :=
  { toDescribed := Described.fromJson library (rawText j "name".toList) j
    url := rawText j "url".toList
    type := rawText j "type".toList
    os := rawText j "os".toList
    osVer := rawText j "osver".toList
    architecture := rawText j "architecture".toList
    date := rawText j "date".toList
    versionMajor := ((numericMember library j "version_major".toList).map UInt16.ofInt).getD 0
    versionMinor := ((numericMember library j "version_minor".toList).map UInt16.ofInt).getD 0
    versionPatch := ((numericMember library j "version_patch".toList).map UInt16.ofInt).getD 0
    md5 := rawText j "md5sum".toList }

def jsonManual (j : Json) : Manual :=
  { toDescribed := Described.fromJson library (rawText j "name".toList) j
    url := rawText j "url".toList
    format := rawText j "format".toList
    language := rawText j "lang".toList
    date := rawText j "date".toList }

def jsonSetup (j : Json) : Setup :=
  { toDescribed := Described.fromJson library (rawText j "name".toList) j
    url := rawText j "url".toList
    format := rawText j "format".toList
    date := rawText j "date".toList }

def jsonFiles (mdf : Mdf) (j : Json) : Mdf :=
  let items (name : Text) := (arrayMember j name).getD []
  { mdf with
    listPicture := mdf.listPicture ++ (items "picture".toList).map (jsonPicture library)
    listVideo := mdf.listVideo ++ (items "video".toList).map (jsonVideo library)
    listFirmware := mdf.listFirmware ++ (items "firmware".toList).map (jsonFirmware library)
    listDriver := mdf.listDriver ++ (items "driver".toList).map (jsonDriver library)
    listManual := mdf.listManual ++ (items "manual".toList).map (jsonManual library)
    listSetup := mdf.listSetup ++ (items "setup".toList).map (jsonSetup library) }

def firstArray (j : Json) (first second : Text) : List Json :=
  match arrayMember j first with
  | some items => items
  | none => (arrayMember j second).getD []

-- A buffer size counts as 8 unless it is given as an integer.
def jsonBufferSize (j : Json) : UInt16 :=
  match j.member "buffersize".toList with
  | some (.numberInteger number) => UInt16.ofInt number
  | some (.numberUnsigned number) => number.toUInt16
  | _ => 8

-- The members that cannot fail, in the order of the source; the level is not read.
def jsonHead (mdf : Mdf) (name : Text) (inner : Json) : Mdf :=
  { mdf with
    name := lowerTrim name
    model := (stringMember inner "model".toList).getD mdf.model
    copyright := (stringMember inner "copyright".toList).getD mdf.copyright
    version := (stringMember inner "version".toList).getD mdf.version
    changeDate := (stringMember inner "changed".toList).getD mdf.changeDate
    bufferSize := jsonBufferSize inner
    mapDescription := getDescriptionList library inner mdf.mapDescription
    mapInfoURL := getInfoUrlList library inner mdf.mapInfoURL }

def addManufacturer (inner : Json) (mdf : Mdf) : Except Mdf Mdf :=
  attach (fun manufacturer => { mdf with manufacturer := manufacturer })
    (jsonManufacturer library ((objectMember inner "manufacturer".toList).getD (.object [])) mdf.manufacturer)

def addBoot (inner : Json) (mdf : Mdf) : Mdf :=
  match objectMember inner "boot".toList with
  | some boot => { mdf with bootInfo := jsonBoot library boot mdf.bootInfo }
  | none => mdf

def addRegisters (inner : Json) (mdf : Mdf) : Mdf :=
  let items := (firstArray inner "register".toList "registers".toList).filter isObject
  { mdf with listRegister := mdf.listRegister ++ items.flatMap fun item => jsonRegisterRows (jsonRegister library item) }

def addRemotes (inner : Json) (mdf : Mdf) : Except Mdf Mdf :=
  attach (fun rvars => { mdf with listRemotevar := mdf.listRemotevar ++ rvars })
    (readRecords (jsonRemote library) ((firstArray inner "remotevar".toList "remotevars".toList).filter isObject))

def addMatrix (inner : Json) (mdf : Mdf) : Except Mdf Mdf :=
  match objectMember inner "dmatrix".toList with
  | some dmatrix => attach (fun dm => { mdf with dmInfo := dm }) (jsonMatrix library dmatrix mdf.dmInfo)
  | none => .ok mdf

def addEvents (inner : Json) (mdf : Mdf) : Except Mdf Mdf :=
  attach (fun events => { mdf with listEvent := mdf.listEvent ++ events })
    (readRecords (jsonEvent library) (((arrayMember inner "events".toList).getD []).filter isObject))

def addAlarm (j inner : Json) (mdf : Mdf) : Mdf :=
  { mdf with listAlarm := mdf.listAlarm ++ jsonAlarm library j inner }

def addFiles (inner : Json) (mdf : Mdf) : Mdf :=
  match objectMember inner "files".toList with
  | some files => jsonFiles library mdf files
  | none => mdf

def jsonModule (j inner : Json) (mdf : Mdf) : Except Mdf Mdf :=
  match stringMember inner "name".toList with
  | none => .error mdf
  | some name =>
      (addManufacturer library inner (jsonHead library mdf name inner)).bind fun made =>
        (addRemotes library inner (addRegisters library inner (addBoot library inner made))).bind fun remote =>
          (addMatrix library inner remote).bind fun matrix =>
            (addEvents library inner matrix).map fun events =>
              addFiles library inner (addAlarm library j inner events)

def vscpErrorSuccess : Int := 0
def vscpErrorParsing : Int := 62

def parseJsonValue (mdf : Mdf) (j : Json) : Int × Mdf :=
  match stringMember j "redirect".toList with
  | some redirect => (vscpErrorSuccess, { mdf with redirectUrl := redirect })
  | none =>
      match objectMember j "module".toList with
      | none => (vscpErrorParsing, mdf)
      | some inner =>
          match jsonModule library j inner mdf with
          | .error half => (vscpErrorParsing, half)
          | .ok whole => (vscpErrorSuccess, whole)

-- A document that is no JSON makes it return false, the code of success.
def parseMDF_JSON (mdf : Mdf) (content : Text) : Int × Mdf :=
  match library.parse content with
  | none => (0, mdf)
  | some j => parseJsonValue library mdf j

end

end Vscp.ModuleDescription
