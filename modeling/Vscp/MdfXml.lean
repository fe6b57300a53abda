import Vscp.MdfAttributes

set_option autoImplicit false

namespace Vscp.ModuleDescription

open RemoteTcp (Text trim)
open SaxHandler (Node)

-- The list a bit was added to, as the owner's place in the lists of the object.
inductive BitList where
  | alarm
  | register (index : Nat)
  | remotevar (index : Nat)
  | actionParam (action param : Nat)
  | eventData (event data : Nat)
deriving DecidableEq

structure BitPlace where
  bits : BitList
  index : Nat
deriving DecidableEq

inductive ValueList where
  | register (index : Nat)
  | remotevar (index : Nat)
  | actionParam (action param : Nat)
  | eventData (event data : Nat)
  | bit (place : BitPlace)
deriving DecidableEq

structure ValuePlace where
  values : ValueList
  index : Nat
deriving DecidableEq

-- The globals of the parser. A pointer to a record of the object is the record's place; only an
-- item is not part of the object until its element ends.
structure Globals where
  lastLanguage : Text
  tokenList : List Text
  depth : Int
  item : Option Item
  bit : Option BitPlace
  value : Option ValuePlace
  picture : Option Nat
  video : Option Nat
  firmware : Option Nat
  driver : Option Nat
  manual : Option Nat
  setup : Option Nat
  register : Option Nat
  rvar : Option Nat
  actionParam : Option (Nat × Nat)
  action : Option Nat
  event : Option Nat
  eventData : Option (Nat × Nat)
deriving DecidableEq

def freshGlobals : Globals :=
  { lastLanguage := [], tokenList := [], depth := 0, item := none, bit := none, value := none, picture := none,
    video := none, firmware := none, driver := none, manual := none, setup := none, register := none, rvar := none,
    actionParam := none, action := none, event := none, eventData := none }

structure Parser extends Globals where
  mdf : Mdf
deriving DecidableEq

def Globals.token (globals : Globals) (index : Nat) : Text := globals.tokenList.getD index []

def isRemote (token : Text) : Bool := token = "remotevar".toList ∨ token = "abstraction".toList

def Mdf.modifyActionParam (mdf : Mdf) (action param : Nat) (change : ActionParameter → ActionParameter) : Mdf :=
  { mdf with
    dmInfo.listAction := mdf.dmInfo.listAction.modify action fun owner =>
      { owner with listActionParameter := owner.listActionParameter.modify param change } }

def Mdf.modifyEventData (mdf : Mdf) (event data : Nat) (change : EventData → EventData) : Mdf :=
  { mdf with
    listEvent := mdf.listEvent.modify event fun owner =>
      { owner with listEventData := owner.listEventData.modify data change } }

def Mdf.actionParam (mdf : Mdf) (action param : Nat) : ActionParameter :=
  ((mdf.dmInfo.listAction.getD action {}).listActionParameter).getD param {}

def Mdf.eventData (mdf : Mdf) (event data : Nat) : EventData :=
  ((mdf.listEvent.getD event {}).listEventData).getD data {}

def Mdf.bits (mdf : Mdf) : BitList → List Bit
  | .alarm => mdf.listAlarm
  | .register index => (mdf.listRegister.getD index {}).listBit
  | .remotevar index => (mdf.listRemotevar.getD index {}).listBit
  | .actionParam action param => (mdf.actionParam action param).listBit
  | .eventData event data => (mdf.eventData event data).listBit

def Mdf.modifyBits (mdf : Mdf) (change : List Bit → List Bit) : BitList → Mdf
  | .alarm => { mdf with listAlarm := change mdf.listAlarm }
  | .register index =>
      { mdf with listRegister := mdf.listRegister.modify index fun reg => { reg with listBit := change reg.listBit } }
  | .remotevar index =>
      { mdf with
        listRemotevar := mdf.listRemotevar.modify index fun rvar => { rvar with listBit := change rvar.listBit } }
  | .actionParam action param =>
      mdf.modifyActionParam action param fun owner => { owner with listBit := change owner.listBit }
  | .eventData event data =>
      mdf.modifyEventData event data fun owner => { owner with listBit := change owner.listBit }

def Mdf.modifyBit (mdf : Mdf) (place : BitPlace) (change : Bit → Bit) : Mdf :=
  mdf.modifyBits (fun bits => bits.modify place.index change) place.bits

def Mdf.values (mdf : Mdf) : ValueList → List Value
  | .register index => (mdf.listRegister.getD index {}).listValue
  | .remotevar index => (mdf.listRemotevar.getD index {}).listValue
  | .actionParam action param => (mdf.actionParam action param).listValue
  | .eventData event data => (mdf.eventData event data).listValue
  | .bit place => ((mdf.bits place.bits).getD place.index {}).listValue

def Mdf.modifyValues (mdf : Mdf) (change : List Value → List Value) : ValueList → Mdf
  | .register index =>
      { mdf with
        listRegister := mdf.listRegister.modify index fun reg => { reg with listValue := change reg.listValue } }
  | .remotevar index =>
      { mdf with
        listRemotevar := mdf.listRemotevar.modify index fun rvar => { rvar with listValue := change rvar.listValue } }
  | .actionParam action param =>
      mdf.modifyActionParam action param fun owner => { owner with listValue := change owner.listValue }
  | .eventData event data =>
      mdf.modifyEventData event data fun owner => { owner with listValue := change owner.listValue }
  | .bit place => mdf.modifyBit place fun bit => { bit with listValue := change bit.listValue }

def Mdf.modifyValue (mdf : Mdf) (place : ValuePlace) (change : Value → Value) : Mdf :=
  mdf.modifyValues (fun values => values.modify place.index change) place.values

inductive Opened where
  | nothing
  | picture
  | firmware
  | manual
  | video
  | driver
  | setup
  | item
  | register
  | remotevar
  | bit (bits : BitList)
  | matrixStart
  | action
  | event
  | actionParam (action : Nat)
  | eventData
  | value (values : ValueList)
deriving DecidableEq

def openedInModule (globals : Globals) : Opened :=
  let token := globals.token 0
  if token = "picture".toList then .picture
  else if token = "firmware".toList then .firmware
  else if token = "manual".toList then .manual
  else .nothing

def contactNames : List Text :=
  ["telephone".toList, "fax".toList, "email".toList, "web".toList, "social".toList]

def openedInSection (globals : Globals) : Opened :=
  let token := globals.token 0
  if token ∈ contactNames then .item
  else if token = "picture".toList then .picture
  else if token = "video".toList then .video
  else if token = "firmware".toList then .firmware
  else if token = "driver".toList then .driver
  else if token = "manual".toList then .manual
  else if token = "setup".toList then .setup
  else if token = "reg".toList then .register
  else if isRemote token then .remotevar
  else if token = "bit".toList ∧ globals.token 1 = "alarm".toList then .bit .alarm
  else if token = "start".toList ∧ globals.token 1 = "dmatrix".toList then .matrixStart
  else if token = "action".toList ∧ globals.token 1 = "dmatrix".toList then .action
  else if token = "event".toList ∧ globals.token 1 = "events".toList then .event
  else .nothing

def openedInRecord (globals : Globals) : Opened :=
  let token := globals.token 0
  if token = "bit".toList ∧ globals.token 1 = "reg".toList then
    match globals.register with
    | some index => .bit (.register index)
    | none => .nothing
  else if token = "bit".toList ∧ isRemote (globals.token 1) then
    match globals.rvar with
    | some index => .bit (.remotevar index)
    | none => .nothing
  else if token = "param".toList ∧ globals.token 1 = "action".toList ∧ globals.token 2 = "dmatrix".toList then
    match globals.action with
    | some action => .actionParam action
    | none => .nothing
  else if token = "data".toList ∧ globals.token 1 = "event".toList ∧ globals.token 2 = "events".toList then .eventData
  else .nothing

def openedInPart (globals : Globals) : Opened :=
  let token := globals.token 0
  if token = "item".toList ∧ globals.token 1 = "valuelist".toList ∧ globals.token 2 = "reg".toList then
    match globals.register with
    | some index => .value (.register index)
    | none => .nothing
  else if token = "item".toList ∧ globals.token 1 = "valuelist".toList ∧ isRemote (globals.token 2) then
    match globals.rvar with
    | some index => .value (.remotevar index)
    | none => .nothing
  else if token = "bit".toList ∧ globals.token 1 = "param".toList ∧ globals.token 2 = "action".toList ∧
      globals.token 3 = "dmatrix".toList then
    match globals.action, globals.actionParam with
    | some _, some (action, param) => .bit (.actionParam action param)
    | _, _ => .nothing
  else if token = "bit".toList ∧ globals.token 1 = "data".toList ∧ globals.token 2 = "event".toList ∧
      globals.token 3 = "events".toList then
    match globals.event, globals.eventData with
    | some _, some (event, data) => .bit (.eventData event data)
    | _, _ => .nothing
  else .nothing

def openedInValueList (globals : Globals) : Opened :=
  if globals.token 0 = "item".toList ∧ globals.token 1 = "valuelist".toList then
    if globals.token 2 = "bit".toList ∧ globals.token 3 = "reg".toList then
      match globals.register, globals.bit with
      | some _, some place => .value (.bit place)
      | _, _ => .nothing
    else if globals.token 2 = "bit".toList ∧ isRemote (globals.token 3) then
      match globals.rvar, globals.bit with
      | some _, some place => .value (.bit place)
      | _, _ => .nothing
    else if globals.token 2 = "param".toList ∧ globals.token 3 = "action".toList then
      match globals.action, globals.actionParam with
      | some _, some (action, param) => .value (.actionParam action param)
      | _, _ => .nothing
    else if globals.token 2 = "data".toList ∧ globals.token 3 = "event".toList ∧
        globals.token 4 = "events".toList then
      match globals.event, globals.eventData with
      | some _, some (event, data) => .value (.eventData event data)
      | _, _ => .nothing
    else .nothing
  else .nothing

def openedInBitList (globals : Globals) : Opened :=
  if globals.token 0 = "item".toList ∧ globals.token 1 = "valuelist".toList ∧ globals.token 2 = "bit".toList then
    if globals.token 3 = "param".toList ∧ globals.token 4 = "action".toList ∧ globals.token 5 = "dmatrix".toList then
      match globals.action, globals.actionParam, globals.bit with
      | some _, some _, some place => .value (.bit place)
      | _, _, _ => .nothing
    else if globals.token 3 = "data".toList ∧ globals.token 4 = "event".toList ∧
        globals.token 5 = "events".toList then
      match globals.event, globals.eventData, globals.bit with
      | some _, some _, some place => .value (.bit place)
      | _, _, _ => .nothing
    else .nothing
  else .nothing

def opened (globals : Globals) : Opened :=
  if globals.depth = 2 then openedInModule globals
  else if globals.depth = 3 then openedInSection globals
  else if globals.depth = 4 then openedInRecord globals
  else if globals.depth = 5 then openedInPart globals
  else if globals.depth = 6 then openedInValueList globals
  else if globals.depth = 7 then openedInBitList globals
  else .nothing

-- A missing event is a null pointer that the source follows.
def startRecord (parser : Parser) (attributes : Attributes) : Opened → Option Parser
  | .nothing => some parser
  | .picture =>
      let record := setAttributes pictureNames setPicture trim attributes {}
      some { parser with
        picture := some parser.mdf.listPicture.length
        mdf.listPicture := parser.mdf.listPicture ++ [record] }
  | .firmware =>
      let record := setAttributes firmwareNames setFirmware trim attributes {}
      some { parser with
        firmware := some parser.mdf.listFirmware.length
        mdf.listFirmware := parser.mdf.listFirmware ++ [record] }
  | .manual =>
      let record := setAttributes manualNames setManual trim attributes {}
      some { parser with
        manual := some parser.mdf.listManual.length
        mdf.listManual := parser.mdf.listManual ++ [record] }
  | .video =>
      let record := setAttributes pictureNames setVideo trim attributes {}
      some { parser with
        video := some parser.mdf.listVideo.length
        mdf.listVideo := parser.mdf.listVideo ++ [record] }
  | .driver =>
      let record := setAttributes driverNames setDriver trim attributes {}
      some { parser with
        driver := some parser.mdf.listDriver.length
        mdf.listDriver := parser.mdf.listDriver ++ [record] }
  | .setup =>
      let record := setAttributes pictureNames setSetup trim attributes {}
      some { parser with
        setup := some parser.mdf.listSetup.length
        mdf.listSetup := parser.mdf.listSetup ++ [record] }
  | .item => some { parser with item := some {} }
  | .register =>
      let record := setAttributes registerNames setRegister lowerTrim attributes {}
      some { parser with
        register := some parser.mdf.listRegister.length
        mdf.listRegister := parser.mdf.listRegister ++ record.copies }
  | .remotevar =>
      let record := setAttributes remoteNames setRemote lowerTrim attributes {}
      some { parser with
        rvar := some parser.mdf.listRemotevar.length
        mdf.listRemotevar := parser.mdf.listRemotevar ++ [record] }
  | .bit bits =>
      some { parser with
        bit := some ⟨bits, (parser.mdf.bits bits).length⟩
        mdf := parser.mdf.modifyBits (fun old => getBitAttributes old attributes) bits }
  | .matrixStart =>
      some { parser with mdf.dmInfo := setAttributes startNames setStart lowerTrim attributes parser.mdf.dmInfo }
  | .action =>
      let record := setAttributes actionNames setAction lowerTrim attributes {}
      some { parser with
        action := some parser.mdf.dmInfo.listAction.length
        mdf.dmInfo.listAction := parser.mdf.dmInfo.listAction ++ [record] }
  | .event =>
      let record := setAttributes eventNames setEvent lowerTrim attributes {}
      some { parser with
        event := some parser.mdf.listEvent.length
        mdf.listEvent := parser.mdf.listEvent ++ [record] }
  | .actionParam action =>
      let record := setAttributes parameterNames setParameter lowerTrim attributes {}
      some { parser with
        actionParam := some (action, (parser.mdf.dmInfo.listAction.getD action {}).listActionParameter.length)
        mdf.dmInfo.listAction := parser.mdf.dmInfo.listAction.modify action fun owner =>
          { owner with listActionParameter := owner.listActionParameter ++ [record] } }
  | .eventData =>
      let record := setAttributes dataNames setEventData lowerTrim attributes {}
      match parser.event with
      | none => none
      | some event =>
          some { parser with
            eventData := some (event, (parser.mdf.listEvent.getD event {}).listEventData.length)
            mdf.listEvent := parser.mdf.listEvent.modify event fun owner =>
              { owner with listEventData := owner.listEventData ++ [record] } }
  | .value values =>
      some { parser with
        value := some ⟨values, (parser.mdf.values values).length⟩
        mdf := parser.mdf.modifyValues (fun old => getValueAttributes old attributes) values }

def languageNames : List (Text × Unit) := [("lang".toList, ())]

def spokenNames : List Text := ["name".toList, "description".toList, "infourl".toList]

-- An empty language does not count.
def elementLanguage (token : Text) (attributes : Attributes) : Text :=
  if token ∈ spokenNames then setAttributes languageNames (fun _ => keepEmpty) lowerTrim attributes "en".toList
  else "en".toList

def invalidStructure (globals : Globals) : Bool :=
  (globals.depth ≥ 2 ∧ globals.token (globals.tokenList.length - 2) ≠ "module".toList) ∨
    globals.tokenList.getLast? ≠ some "vscp".toList

def entered (parser : Parser) (name : Text) (attributes : Attributes) : Parser :=
  { parser with
    tokenList := lowerTrim name :: parser.tokenList
    lastLanguage := elementLanguage (lowerTrim name) attributes }

-- In an invalid structure the element is on the list of open elements and yet not counted.
def startSetupMDFParser (parser : Parser) (name : Text) (attributes : Attributes) : Option Parser :=
  let next := entered parser name attributes
  if invalidStructure next.toGlobals then some next
  else (startRecord next attributes (opened next.toGlobals)).map fun started =>
    { started with depth := started.depth + 1 }

inductive Owner where
  | mdf
  | picture (index : Nat)
  | video (index : Nat)
  | firmware (index : Nat)
  | driver (index : Nat)
  | manual (index : Nat)
  | setup (index : Nat)
  | item
  | register (index : Nat)
  | remotevar (index : Nat)
  | event (index : Nat)
  | action (index : Nat)
  | actionParam (place : Nat × Nat)
  | eventData (place : Nat × Nat)
  | bit (place : BitPlace)
  | value (place : ValuePlace)
deriving DecidableEq

def Parser.modifyOwner (parser : Parser) (change : Described → Described) : Owner → Parser
  | .mdf => { parser with mdf.toDescribed := change parser.mdf.toDescribed }
  | .picture index =>
      { parser with mdf.listPicture := parser.mdf.listPicture.modify index fun record =>
          { record with toDescribed := change record.toDescribed } }
  | .video index =>
      { parser with mdf.listVideo := parser.mdf.listVideo.modify index fun record =>
          { record with toDescribed := change record.toDescribed } }
  | .firmware index =>
      { parser with mdf.listFirmware := parser.mdf.listFirmware.modify index fun record =>
          { record with toDescribed := change record.toDescribed } }
  | .driver index =>
      { parser with mdf.listDriver := parser.mdf.listDriver.modify index fun record =>
          { record with toDescribed := change record.toDescribed } }
  | .manual index =>
      { parser with mdf.listManual := parser.mdf.listManual.modify index fun record =>
          { record with toDescribed := change record.toDescribed } }
  | .setup index =>
      { parser with mdf.listSetup := parser.mdf.listSetup.modify index fun record =>
          { record with toDescribed := change record.toDescribed } }
  | .item => { parser with item := parser.item.map fun record => { toDescribed := change record.toDescribed } }
  | .register index =>
      { parser with mdf.listRegister := parser.mdf.listRegister.modify index fun record =>
          { record with toDescribed := change record.toDescribed } }
  | .remotevar index =>
      { parser with mdf.listRemotevar := parser.mdf.listRemotevar.modify index fun record =>
          { record with toDescribed := change record.toDescribed } }
  | .event index =>
      { parser with mdf.listEvent := parser.mdf.listEvent.modify index fun record =>
          { record with toDescribed := change record.toDescribed } }
  | .action index =>
      { parser with mdf.dmInfo.listAction := parser.mdf.dmInfo.listAction.modify index fun record =>
          { record with toDescribed := change record.toDescribed } }
  | .actionParam place =>
      { parser with mdf := parser.mdf.modifyActionParam place.1 place.2 fun record =>
          { record with toDescribed := change record.toDescribed } }
  | .eventData place =>
      { parser with mdf := parser.mdf.modifyEventData place.1 place.2 fun record =>
          { record with toDescribed := change record.toDescribed } }
  | .bit place =>
      { parser with mdf := parser.mdf.modifyBit place fun record =>
          { record with toDescribed := change record.toDescribed } }
  | .value place =>
      { parser with mdf := parser.mdf.modifyValue place fun record =>
          { record with toDescribed := change record.toDescribed } }

inductive ModuleText where
  | redirect
  | level
  | model
  | copyright
  | version
  | changed
  | buffersize
  | manufacturerName
  | street
  | city
  | town
  | postcode
  | country
  | region
  | matrixLevel
  | rowCount
  | rowSize
  | algorithm
  | blockSize
  | blockCount
deriving DecidableEq

def moduleLevel (number : UInt8) : UInt8 := if number > 1 then 0 else number

def setModuleText : ModuleText → Text → Mdf → Mdf
  | .redirect, text, mdf => { mdf with redirectUrl := text }
  | .level, text, mdf => { mdf with level := moduleLevel (UInt8.ofInt (readStringValue text - 1)) }
  | .model, text, mdf => { mdf with model := text }
  | .copyright, text, mdf => { mdf with copyright := text }
  | .version, text, mdf => { mdf with version := text }
  | .changed, text, mdf => { mdf with changeDate := text }
  | .buffersize, text, mdf => { mdf with bufferSize := UInt16.ofInt (readStringValue text) }
  | .manufacturerName, text, mdf => { mdf with manufacturer.name := text }
  | .street, text, mdf => { mdf with manufacturer.address.street := text }
  | .city, text, mdf => { mdf with manufacturer.address.city := text }
  | .town, text, mdf => { mdf with manufacturer.address.town := text }
  | .postcode, text, mdf => { mdf with manufacturer.address.postCode := text }
  | .country, text, mdf => { mdf with manufacturer.address.country := text }
  | .region, text, mdf => { mdf with manufacturer.address.region := text }
  | .matrixLevel, text, mdf => { mdf with dmInfo.level := UInt8.ofInt (readStringValue text) }
  | .rowCount, text, mdf => { mdf with dmInfo.rowCount := UInt16.ofInt (readStringValue text) }
  | .rowSize, text, mdf => { mdf with dmInfo.rowSize := UInt16.ofInt (readStringValue text) }
  | .algorithm, text, mdf => { mdf with bootInfo.algorithm := UInt8.ofInt (readStringValue text) }
  | .blockSize, text, mdf => { mdf with bootInfo.blockSize := UInt32.ofInt (readStringValue text) }
  | .blockCount, text, mdf => { mdf with bootInfo.blockCount := UInt32.ofInt (readStringValue text) }

-- Where the text of the innermost open element goes.
inductive TextPlace where
  | nowhere
  | nullPointer
  | moduleText (member : ModuleText)
  | rawName (owner : Owner)
  | name (owner : Owner)
  | nameOfDataBit (bit : BitPlace) (value : ValuePlace)
  | description (owner : Owner)
  | infoURL (owner : Owner)
  | strValue (place : ValuePlace)
  | registerAccess (index : Nat)
  | remoteAccess (index : Nat)
  | eventPriority (index : Nat)
  | eventDirection (index : Nat)
deriving DecidableEq

def labelPlace (globals : Globals) (owner : Owner) : TextPlace :=
  if globals.token 0 = "name".toList then .name owner
  else if globals.token 0 = "description".toList then .description owner
  else if globals.token 0 = "infourl".toList then .infoURL owner
  else .nowhere

def optionalPlace {Place : Type} (place : Option Place) (placeOf : Place → TextPlace) : TextPlace :=
  match place with
  | some place => placeOf place
  | none => .nowhere

def placeInRoot (globals : Globals) : TextPlace :=
  if globals.token 0 = "redirect".toList then .moduleText .redirect
  else if globals.token 0 = "name".toList then .rawName .mdf
  else if globals.token 0 = "level".toList then .moduleText .level
  else .nowhere

def placeInModule (globals : Globals) : TextPlace :=
  if globals.token 0 = "name".toList then .name .mdf
  else if globals.token 0 = "level".toList then .moduleText .level
  else if globals.token 0 = "model".toList then .moduleText .model
  else if globals.token 0 = "copyright".toList then .moduleText .copyright
  else if globals.token 0 = "version".toList then .moduleText .version
  else if globals.token 0 = "changed".toList then .moduleText .changed
  else if globals.token 0 = "description".toList then
    if globals.token 1 = "module".toList then .description .mdf else .nowhere
  else if globals.token 0 = "infourl".toList then .infoURL .mdf
  else if globals.token 0 = "buffersize".toList then .moduleText .buffersize
  else .nowhere

def nameOrDescription (globals : Globals) (owner : Owner) : TextPlace :=
  if globals.token 0 = "name".toList then .name owner
  else if globals.token 0 = "description".toList then .description owner
  else .nowhere

def placeInSection (globals : Globals) : TextPlace :=
  let parent := globals.token 1
  if parent = "manufacturer".toList ∧ globals.token 0 = "name".toList then .moduleText .manufacturerName
  else if parent = "picture".toList then optionalPlace globals.picture fun index =>
    nameOrDescription globals (.picture index)
  else if parent = "firmware".toList then optionalPlace globals.firmware fun index =>
    nameOrDescription globals (.firmware index)
  else if parent = "manual".toList then optionalPlace globals.manual fun index =>
    nameOrDescription globals (.manual index)
  else if parent = "dmatrix".toList ∧ globals.token 0 = "level".toList then .moduleText .matrixLevel
  else if parent = "dmatrix".toList ∧ globals.token 0 = "rowcnt".toList then .moduleText .rowCount
  else if parent = "dmatrix".toList ∧ globals.token 0 = "rowsize".toList then .moduleText .rowSize
  else if parent = "boot".toList ∧ globals.token 0 = "algorithm".toList then .moduleText .algorithm
  else if parent = "boot".toList ∧ globals.token 0 = "blocksize".toList then .moduleText .blockSize
  else if parent = "boot".toList ∧ globals.token 0 = "blockcount".toList then .moduleText .blockCount
  else .nowhere

def placeInAddress (globals : Globals) : TextPlace :=
  if globals.token 0 = "street".toList then .moduleText .street
  else if globals.token 0 = "city".toList then .moduleText .city
  else if globals.token 0 = "town".toList then .moduleText .town
  else if globals.token 0 = "postcode".toList then .moduleText .postcode
  else if globals.token 0 = "country".toList then .moduleText .country
  else if globals.token 0 = "region".toList then .moduleText .region
  else .nowhere

def placeInContact (globals : Globals) (valueNames : List Text) : TextPlace :=
  if globals.token 0 ∈ valueNames then .name .item
  else if globals.token 0 = "description".toList then .description .item
  else .nowhere

def placeInAccessed (globals : Globals) (owner : Owner) (access : TextPlace) : TextPlace :=
  if globals.token 0 = "access".toList then access else labelPlace globals owner

def placeInEvent (globals : Globals) (index : Nat) : TextPlace :=
  if globals.token 0 = "priority".toList then .eventPriority index
  else if globals.token 0 = "direction".toList then .eventDirection index
  else labelPlace globals (.event index)

-- The description of a telephone is the one text of an item that is stored without a look at the pointer.
def placeInRecord (globals : Globals) : TextPlace :=
  let parent := globals.token 1
  if parent = "address".toList then placeInAddress globals
  else if parent = "telephone".toList then
    match globals.item with
    | some _ => placeInContact globals ["number".toList]
    | none => if globals.token 0 = "description".toList then .nullPointer else .nowhere
  else if parent = "fax".toList then optionalPlace globals.item fun _ => placeInContact globals ["number".toList]
  else if parent = "email".toList then optionalPlace globals.item fun _ => placeInContact globals ["address".toList]
  else if parent = "web".toList then optionalPlace globals.item fun _ =>
    placeInContact globals ["address".toList, "url".toList]
  else if parent = "social".toList then optionalPlace globals.item fun _ =>
    placeInContact globals ["address".toList, "url".toList]
  else if parent = "picture".toList then optionalPlace globals.picture fun index => labelPlace globals (.picture index)
  else if parent = "video".toList then optionalPlace globals.video fun index => labelPlace globals (.video index)
  else if parent = "firmware".toList then optionalPlace globals.firmware fun index =>
    labelPlace globals (.firmware index)
  else if parent = "driver".toList then optionalPlace globals.driver fun index => labelPlace globals (.driver index)
  else if parent = "manual".toList then optionalPlace globals.manual fun index => labelPlace globals (.manual index)
  else if parent = "setup".toList then optionalPlace globals.setup fun index => labelPlace globals (.setup index)
  else if parent = "reg".toList then optionalPlace globals.register fun index =>
    placeInAccessed globals (.register index) (.registerAccess index)
  else if isRemote parent then optionalPlace globals.rvar fun index =>
    placeInAccessed globals (.remotevar index) (.remoteAccess index)
  else if parent = "event".toList then optionalPlace globals.event fun index => placeInEvent globals index
  else if parent = "bit".toList ∧ globals.token 2 = "alarm".toList then
    optionalPlace globals.bit fun place => labelPlace globals (.bit place)
  else if parent = "action".toList ∧ globals.token 2 = "dmatrix".toList then
    optionalPlace globals.action fun index => labelPlace globals (.action index)
  else .nowhere

def placeInPart (globals : Globals) : TextPlace :=
  let parent := globals.token 1
  let owner := globals.token 2
  if parent = "bit".toList ∧ (owner = "reg".toList ∨ isRemote owner) then
    optionalPlace globals.bit fun place => labelPlace globals (.bit place)
  else if parent = "param".toList ∧ owner = "action".toList ∧ globals.token 3 = "dmatrix".toList then
    optionalPlace globals.actionParam fun place => labelPlace globals (.actionParam place)
  else if parent = "data".toList ∧ owner = "event".toList then
    optionalPlace globals.eventData fun place => labelPlace globals (.eventData place)
  else .nowhere

-- For a bit of event data it is the name of the last value that gets trimmed and lowered.
def placeInInnerPart (globals : Globals) : TextPlace :=
  let parent := globals.token 1
  let owner := globals.token 2
  if parent = "item".toList ∧ owner = "valuelist".toList ∧
      (globals.token 3 = "reg".toList ∨ isRemote (globals.token 3)) then
    optionalPlace globals.value fun place => labelPlace globals (.value place)
  else if parent = "bit".toList ∧ owner = "param".toList ∧ globals.token 3 = "action".toList ∧
      globals.token 4 = "dmatrix".toList then
    match globals.actionParam, globals.bit with
    | some _, some place => labelPlace globals (.bit place)
    | _, _ => .nowhere
  else if parent = "bit".toList ∧ owner = "data".toList ∧ globals.token 3 = "event".toList ∧
      globals.token 4 = "events".toList then
    optionalPlace globals.bit fun place =>
      if globals.token 0 = "name".toList then
        match globals.value with
        | some value => .nameOfDataBit place value
        | none => .nullPointer
      else labelPlace globals (.bit place)
  else .nowhere

def valueLabelPlace (globals : Globals) (place : ValuePlace) : TextPlace :=
  if globals.token 0 = "value".toList then .strValue place else labelPlace globals (.value place)

def placeInValue (globals : Globals) : TextPlace :=
  if globals.token 1 = "item".toList ∧ globals.token 2 = "valuelist".toList then
    if globals.token 3 = "bit".toList then optionalPlace globals.value fun place => valueLabelPlace globals place
    else if globals.token 3 = "param".toList ∧ globals.token 4 = "action".toList ∧
        globals.token 5 = "dmatrix".toList then
      match globals.actionParam, globals.value with
      | some _, some place => valueLabelPlace globals place
      | _, _ => .nowhere
    else if globals.token 3 = "data".toList ∧ globals.token 4 = "event".toList ∧
        globals.token 5 = "events".toList then
      optionalPlace globals.value fun place => valueLabelPlace globals place
    else .nowhere
  else .nowhere

-- The name of a value of an action parameter's bit stays in its letter case.
def placeInBitValue (globals : Globals) : TextPlace :=
  if globals.token 1 = "item".toList ∧ globals.token 2 = "valuelist".toList ∧ globals.token 3 = "bit".toList then
    if globals.token 4 = "param".toList ∧ globals.token 5 = "action".toList then
      optionalPlace globals.value fun place =>
        if globals.token 0 = "name".toList then .rawName (.value place) else valueLabelPlace globals place
    else if globals.token 4 = "data".toList ∧ globals.token 5 = "event".toList ∧
        globals.token 6 = "events".toList then
      optionalPlace globals.value fun place => valueLabelPlace globals place
    else .nowhere
  else .nowhere

def textPlace (globals : Globals) : TextPlace :=
  if globals.tokenList.getLast? ≠ some "vscp".toList then .nowhere
  else if globals.depth = 1 then placeInRoot globals
  else if globals.depth = 3 then placeInModule globals
  else if globals.depth = 4 then placeInSection globals
  else if globals.depth = 5 then placeInRecord globals
  else if globals.depth = 6 then placeInPart globals
  else if globals.depth = 7 then placeInInnerPart globals
  else if globals.depth = 8 then placeInValue globals
  else if globals.depth = 9 then placeInBitValue globals
  else .nowhere

def Described.named (text : Text) (record : Described) : Described := { record with name := text }

def Described.describe (lang text : Text) (record : Described) : Described :=
  { record with mapDescription := record.mapDescription.append lang text }

def Described.inform (lang text : Text) (record : Described) : Described :=
  { record with mapInfoURL := record.mapInfoURL.append lang text }

def storeText (parser : Parser) (text : Text) : TextPlace → Option Parser
  | .nowhere => some parser
  | .nullPointer => none
  | .moduleText member => some { parser with mdf := setModuleText member text parser.mdf }
  | .rawName owner => some (parser.modifyOwner (Described.named text) owner)
  | .name owner => some (parser.modifyOwner (Described.named (lowerTrim text)) owner)
  | .nameOfDataBit bit value =>
      some ((parser.modifyOwner (Described.named text) (.bit bit)).modifyOwner
        (fun record => record.named (lowerTrim record.name)) (.value value))
  | .description owner => some (parser.modifyOwner (Described.describe parser.lastLanguage text) owner)
  | .infoURL owner => some (parser.modifyOwner (Described.inform parser.lastLanguage text) owner)
  | .strValue place =>
      some { parser with mdf := parser.mdf.modifyValue place fun value => { value with strValue := text } }
  | .registerAccess index =>
      some { parser with mdf.listRegister := parser.mdf.listRegister.modify index fun reg =>
          { reg with access := accessOf (lowerTrim text) } }
  | .remoteAccess index =>
      some { parser with mdf.listRemotevar := parser.mdf.listRemotevar.modify index fun rvar =>
          { rvar with access := accessOf (lowerTrim text) } }
  | .eventPriority index =>
      some { parser with mdf.listEvent := parser.mdf.listEvent.modify index fun event =>
          { event with priority := priorityOf (lowerTrim text) } }
  | .eventDirection index =>
      some { parser with mdf.listEvent := parser.mdf.listEvent.modify index fun event =>
          { event with direction := directionOf (lowerTrim text) } }

def handleMDFParserData (parser : Parser) (content : Text) : Option Parser :=
  let strContent := trim content
  if strContent = [] then some parser else storeText parser strContent (textPlace parser.toGlobals)

def closedRecord (parser : Parser) (token : Text) : Parser :=
  if token = "firmware".toList then { parser with firmware := none }
  else if token = "driver".toList then { parser with driver := none }
  else if token = "pictures".toList ∨ token = "picture".toList then { parser with picture := none }
  else if token = "video".toList then { parser with video := none }
  else if token = "setup".toList then { parser with setup := none }
  else if token = "manual".toList then { parser with manual := none }
  else if token = "registers".toList ∨ token = "register".toList then { parser with register := none }
  else parser

def contactList (manufacturer : Manufacturer) (token : Text) (item : Item) : Manufacturer :=
  if token = "telephone".toList then { manufacturer with listPhone := manufacturer.listPhone ++ [item] }
  else if token = "fax".toList then { manufacturer with listFax := manufacturer.listFax ++ [item] }
  else if token = "email".toList then { manufacturer with listEmail := manufacturer.listEmail ++ [item] }
  else if token = "web".toList then { manufacturer with listWeb := manufacturer.listWeb ++ [item] }
  else { manufacturer with listSocial := manufacturer.listSocial ++ [item] }

def closedInSection (parser : Parser) (token : Text) : Parser :=
  if token = "bit".toList ∧ parser.token 1 = "alarm".toList then { parser with bit := none }
  else if token = "action".toList ∧ parser.token 1 = "dmatrix".toList then { parser with action := none }
  else if token ∈ contactNames then
    match parser.item with
    | some item => { parser with
        item := none
        mdf.manufacturer := contactList parser.mdf.manufacturer token item }
    | none => parser
  else if token = "reg".toList then { parser with register := none }
  else if isRemote token then { parser with rvar := none }
  else parser

def closedInRecord (parser : Parser) (token : Text) : Parser :=
  if token = "bit".toList ∧ ((parser.token 1 = "reg".toList ∧ parser.token 2 = "registers".toList) ∨
      (parser.token 1 = "remotevar".toList ∧ parser.token 2 = "remotevars".toList) ∨
      (parser.token 1 = "abstraction".toList ∧ parser.token 2 = "abstractions".toList)) then
    { parser with bit := none }
  else parser

def closedInPart (parser : Parser) (token : Text) : Parser :=
  if token = "item".toList ∧ parser.token 1 = "valuelist".toList ∧
      (parser.token 2 = "reg".toList ∨ isRemote (parser.token 2)) then
    { parser with value := none }
  else parser

-- The pointer that is looked at here is the one to a contact.
def closedInValueList (parser : Parser) (token : Text) : Parser :=
  if token = "item".toList ∧ parser.token 1 = "valuelist".toList ∧
      (parser.token 2 = "param".toList ∨ parser.token 2 = "bit".toList) ∧ parser.item.isSome then
    { parser with item := none }
  else if token = "item".toList ∧ parser.token 1 = "valuelist".toList ∧ parser.token 2 = "param".toList ∧
      parser.token 3 = "action".toList ∧ parser.token 4 = "dmatrix".toList then
    { parser with value := none }
  else parser

def closedInBitList (parser : Parser) (token : Text) : Parser :=
  if parser.token 0 = "item".toList ∧ parser.token 1 = "valuelist".toList ∧ parser.token 2 = "bit".toList ∧
      parser.token 3 = "reg".toList then
    { parser with value := none }
  else if token = "item".toList ∧ parser.token 1 = "valuelist".toList ∧ parser.token 2 = "bit".toList ∧
      parser.token 3 = "param".toList ∧ parser.token 4 = "action".toList then
    { parser with value := none }
  else parser

def closed (parser : Parser) (token : Text) : Parser :=
  if parser.depth = 3 then closedRecord parser token
  else if parser.depth = 4 then closedInSection parser token
  else if parser.depth = 5 then closedInRecord parser token
  else if parser.depth = 6 then closedInPart parser token
  else if parser.depth = 7 then closedInValueList parser token
  else if parser.depth = 8 then closedInBitList parser token
  else parser

def endSetupMDFParser (parser : Parser) (name : Text) : Option Parser :=
  let next := closed parser (lowerTrim name)
  some { next with
    lastLanguage := if next.token 0 ∈ spokenNames then "en".toList else next.lastLanguage
    tokenList := next.tokenList.tail
    depth := next.depth - 1 }

-- The list of open elements, the remote variable and the setup file stay as the last document left them.
def resetGlobals (globals : Globals) : Globals :=
  { lastLanguage := "en".toList, tokenList := globals.tokenList, depth := 0, item := none, bit := none, value := none,
    picture := none, video := none, firmware := none, driver := none, manual := none, setup := globals.setup,
    register := none, rvar := globals.rvar, actionParam := none, action := none, event := none, eventData := none }

def parseNodes (globals : Globals) (mdf : Mdf) (nodes : List Node) : Option Parser :=
  SaxHandler.handleAll startSetupMDFParser handleMDFParserData endSetupMDFParser
    { toGlobals := resetGlobals globals, mdf := mdf.clearStorage } nodes

end Vscp.ModuleDescription
