import Vscp.MdfHistory

set_option autoImplicit false

namespace Vscp.ModuleDescription

open RemoteTcp (Text trim)
open SaxHandler (Node)
open Printf (signedDecimal)

inductive Numeral where
  | number (whole : Int64)
  | text (letters : Text)
deriving DecidableEq

def Numeral.value : Numeral → Int
  | .number whole => whole.toInt
  | .text letters => readStringValue letters

def Numeral.spelled : Numeral → Text
  | .number whole => signedDecimal whole.toInt
  | .text letters => letters

def Numeral.json : Numeral → Json
  | .number whole =>
      if 0 ≤ whole.toInt then .numberUnsigned (UInt64.ofNat whole.toInt.toNat) else .numberInteger whole.toInt
  | .text letters => .string letters

structure ValueDescription where
  name : Option Text := none
  value : Option Numeral := none
deriving DecidableEq

structure BitDescription where
  name : Option Text := none
  pos : Option Numeral := none
  width : Option Numeral := none
  default : Option Numeral := none
  min : Option Numeral := none
  max : Option Numeral := none
  access : Option Text := none
  values : List ValueDescription := []
deriving DecidableEq

structure RegisterDescription where
  name : Option Text := none
  page : Option Numeral := none
  offset : Option Numeral := none
  span : Option Numeral := none
  width : Option Numeral := none
  default : Option Numeral := none
  access : Option Text := none
  min : Option Numeral := none
  max : Option Numeral := none
  type : Option Numeral := none
  fgcolor : Option Numeral := none
  bgcolor : Option Numeral := none
  evenfg : Option Numeral := none
  evenbg : Option Numeral := none
  oddfg : Option Numeral := none
  oddbg : Option Numeral := none
  bits : List BitDescription := []
  values : List ValueDescription := []
deriving DecidableEq

structure RemoteDescription where
  name : Option Text := none
  default : Option Numeral := none
  bitpos : Option Numeral := none
  size : Option Numeral := none
  access : Option Text := none
  type : Option Text := none
  page : Option Numeral := none
  offset : Option Numeral := none
  fgcolor : Option Numeral := none
  bgcolor : Option Numeral := none
  bits : List BitDescription := []
  values : List ValueDescription := []
deriving DecidableEq

structure ParameterDescription where
  offset : Option Numeral := none
  min : Option Numeral := none
  max : Option Numeral := none
  name : Option Text := none
  bits : List BitDescription := []
  values : List ValueDescription := []
deriving DecidableEq

structure ActionDescription where
  code : Option Numeral := none
  name : Option Text := none
  params : List ParameterDescription := []
deriving DecidableEq

structure MatrixDescription where
  page : Option Numeral := none
  offset : Option Numeral := none
  level : Option Numeral := none
  rowCount : Option Numeral := none
  rowSize : Option Numeral := none
  actions : List ActionDescription := []
deriving DecidableEq

structure DataDescription where
  name : Option Text := none
  offset : Option Numeral := none
  bits : List BitDescription := []
  values : List ValueDescription := []
deriving DecidableEq

structure EventDescription where
  name : Option Text := none
  vscpClass : Option Numeral := none
  type : Option Numeral := none
  direction : Option Text := none
  priority : Option Numeral := none
  data : List DataDescription := []
deriving DecidableEq

structure Description where
  name : Option Text := none
  bufferSize : Option Numeral := none
  registers : List RegisterDescription := []
  remotes : List RemoteDescription := []
  matrix : MatrixDescription := {}
  events : List EventDescription := []
deriving DecidableEq

def spelled (numeral : Option Numeral) : Option Text := numeral.map Numeral.spelled

section xml

def given (attributes : List (Text × Option Text)) : Attributes :=
  attributes.filterMap fun entry => entry.2.map fun text => (entry.1, text)

def element (tag : Text) (attributes : Attributes) (children : List Node) : List Node :=
  .start tag attributes :: (children ++ [.stop tag])

def leaf (tag : Text) (content : Option Text) : List Node :=
  match content with
  | some text => element tag [] [.text [text]]
  | none => []

def ValueDescription.attributes (value : ValueDescription) : List (Text × Option Text) :=
  [("name".toList, value.name), ("value".toList, spelled value.value)]

def ValueDescription.nodes (value : ValueDescription) : List Node := element "item".toList (given value.attributes) []

def valueListNodes (values : List ValueDescription) : List Node :=
  element "valuelist".toList [] (values.flatMap ValueDescription.nodes)

def BitDescription.attributes (bit : BitDescription) : List (Text × Option Text) :=
  [("name".toList, bit.name), ("pos".toList, spelled bit.pos), ("width".toList, spelled bit.width),
    ("default".toList, spelled bit.default), ("min".toList, spelled bit.min), ("max".toList, spelled bit.max),
    ("access".toList, bit.access)]

def BitDescription.nodes (bit : BitDescription) : List Node :=
  element "bit".toList (given bit.attributes) (valueListNodes bit.values)

def RegisterDescription.attributes (reg : RegisterDescription) : List (Text × Option Text) :=
  [("name".toList, reg.name), ("page".toList, spelled reg.page), ("offset".toList, spelled reg.offset),
    ("span".toList, spelled reg.span), ("width".toList, spelled reg.width), ("default".toList, spelled reg.default),
    ("access".toList, reg.access), ("min".toList, spelled reg.min), ("max".toList, spelled reg.max),
    ("type".toList, spelled reg.type), ("fgcolor".toList, spelled reg.fgcolor),
    ("bgcolor".toList, spelled reg.bgcolor), ("evenfg".toList, spelled reg.evenfg),
    ("evenbg".toList, spelled reg.evenbg), ("oddfg".toList, spelled reg.oddfg), ("oddbg".toList, spelled reg.oddbg)]

def RegisterDescription.nodes (reg : RegisterDescription) : List Node :=
  element "reg".toList (given reg.attributes) (reg.bits.flatMap BitDescription.nodes ++ valueListNodes reg.values)

def RemoteDescription.attributes (rvar : RemoteDescription) : List (Text × Option Text) :=
  [("name".toList, rvar.name), ("default".toList, spelled rvar.default), ("bitpos".toList, spelled rvar.bitpos),
    ("size".toList, spelled rvar.size), ("access".toList, rvar.access), ("type".toList, rvar.type),
    ("page".toList, spelled rvar.page), ("offset".toList, spelled rvar.offset),
    ("fgcolor".toList, spelled rvar.fgcolor), ("bgcolor".toList, spelled rvar.bgcolor)]

def RemoteDescription.nodes (rvar : RemoteDescription) : List Node :=
  element "remotevar".toList (given rvar.attributes)
    (rvar.bits.flatMap BitDescription.nodes ++ valueListNodes rvar.values)

def ParameterDescription.attributes (param : ParameterDescription) : List (Text × Option Text) :=
  [("offset".toList, spelled param.offset), ("min".toList, spelled param.min), ("max".toList, spelled param.max),
    ("name".toList, param.name)]

def ParameterDescription.nodes (param : ParameterDescription) : List Node :=
  element "param".toList (given param.attributes)
    (param.bits.flatMap BitDescription.nodes ++ valueListNodes param.values)

def ActionDescription.attributes (action : ActionDescription) : List (Text × Option Text) :=
  [("code".toList, spelled action.code), ("name".toList, action.name)]

def ActionDescription.nodes (action : ActionDescription) : List Node :=
  element "action".toList (given action.attributes) (action.params.flatMap ParameterDescription.nodes)

def MatrixDescription.startAttributes (matrix : MatrixDescription) : List (Text × Option Text) :=
  [("page".toList, spelled matrix.page), ("offset".toList, spelled matrix.offset)]

def MatrixDescription.nodes (matrix : MatrixDescription) : List Node :=
  element "dmatrix".toList [] (element "start".toList (given matrix.startAttributes) [] ++
    leaf "level".toList (spelled matrix.level) ++ leaf "rowcnt".toList (spelled matrix.rowCount) ++
    leaf "rowsize".toList (spelled matrix.rowSize) ++ matrix.actions.flatMap ActionDescription.nodes)

def DataDescription.attributes (data : DataDescription) : List (Text × Option Text) :=
  [("name".toList, data.name), ("offset".toList, spelled data.offset)]

def DataDescription.nodes (data : DataDescription) : List Node :=
  element "data".toList (given data.attributes) (data.bits.flatMap BitDescription.nodes ++ valueListNodes data.values)

def EventDescription.attributes (event : EventDescription) : List (Text × Option Text) :=
  [("name".toList, event.name), ("class".toList, spelled event.vscpClass), ("type".toList, spelled event.type),
    ("direction".toList, event.direction), ("priority".toList, spelled event.priority)]

def EventDescription.nodes (event : EventDescription) : List Node :=
  element "event".toList (given event.attributes) (event.data.flatMap DataDescription.nodes)

def Description.nodes (description : Description) : List Node :=
  element "vscp".toList [] (element "module".toList [] (
    leaf "name".toList description.name ++ leaf "buffersize".toList (spelled description.bufferSize) ++
    element "registers".toList [] (description.registers.flatMap RegisterDescription.nodes) ++
    element "remotevars".toList [] (description.remotes.flatMap RemoteDescription.nodes) ++
    description.matrix.nodes ++
    element "events".toList [] (description.events.flatMap EventDescription.nodes)))

end xml

section json

def written (numeral : Option Numeral) : Option Json := numeral.map Numeral.json
def quoted (text : Option Text) : Option Json := text.map JsonText.Value.string
def listed {Item : Type} (json : Item → Json) (items : List Item) : Option Json := some (.array (items.map json))

def withMembers (members : List (Text × Option Json)) : Json :=
  .object (members.filterMap fun entry => entry.2.map fun value => (entry.1, value))

def ValueDescription.members (value : ValueDescription) : List (Text × Option Json) :=
  [("name".toList, quoted value.name), ("value".toList, written value.value)]

def ValueDescription.json (value : ValueDescription) : Json := withMembers value.members

def BitDescription.members (bit : BitDescription) : List (Text × Option Json) :=
  [("name".toList, quoted bit.name), ("pos".toList, written bit.pos), ("width".toList, written bit.width),
    ("default".toList, written bit.default), ("min".toList, written bit.min), ("max".toList, written bit.max),
    ("access".toList, quoted bit.access), ("valuelist".toList, listed ValueDescription.json bit.values)]

def BitDescription.json (bit : BitDescription) : Json := withMembers bit.members

def RegisterDescription.members (reg : RegisterDescription) : List (Text × Option Json) :=
  [("name".toList, quoted reg.name), ("page".toList, written reg.page), ("offset".toList, written reg.offset),
    ("span".toList, written reg.span), ("width".toList, written reg.width), ("default".toList, written reg.default),
    ("access".toList, quoted reg.access), ("min".toList, written reg.min), ("max".toList, written reg.max),
    ("type".toList, written reg.type), ("fgcolor".toList, written reg.fgcolor),
    ("bgcolor".toList, written reg.bgcolor), ("evenfg".toList, written reg.evenfg),
    ("evenbg".toList, written reg.evenbg), ("oddfg".toList, written reg.oddfg), ("oddbg".toList, written reg.oddbg),
    ("bit".toList, listed BitDescription.json reg.bits),
    ("valuelist".toList, listed ValueDescription.json reg.values)]

def RegisterDescription.json (reg : RegisterDescription) : Json := withMembers reg.members

def RemoteDescription.members (rvar : RemoteDescription) : List (Text × Option Json) :=
  [("name".toList, quoted rvar.name), ("default".toList, written rvar.default),
    ("bitpos".toList, written rvar.bitpos), ("size".toList, written rvar.size), ("access".toList, quoted rvar.access),
    ("type".toList, quoted rvar.type), ("page".toList, written rvar.page), ("offset".toList, written rvar.offset),
    ("fgcolor".toList, written rvar.fgcolor), ("bgcolor".toList, written rvar.bgcolor),
    ("bit".toList, listed BitDescription.json rvar.bits),
    ("valuelist".toList, listed ValueDescription.json rvar.values)]

def RemoteDescription.json (rvar : RemoteDescription) : Json := withMembers rvar.members

def ParameterDescription.members (param : ParameterDescription) : List (Text × Option Json) :=
  [("offset".toList, written param.offset), ("min".toList, written param.min), ("max".toList, written param.max),
    ("name".toList, quoted param.name), ("bit".toList, listed BitDescription.json param.bits),
    ("valuelist".toList, listed ValueDescription.json param.values)]

def ParameterDescription.json (param : ParameterDescription) : Json := withMembers param.members

def ActionDescription.members (action : ActionDescription) : List (Text × Option Json) :=
  [("code".toList, written action.code), ("name".toList, quoted action.name),
    ("param".toList, listed ParameterDescription.json action.params)]

def ActionDescription.json (action : ActionDescription) : Json := withMembers action.members

def MatrixDescription.members (matrix : MatrixDescription) : List (Text × Option Json) :=
  [("start-page".toList, written matrix.page), ("start-offset".toList, written matrix.offset),
    ("level".toList, written matrix.level), ("rowcount".toList, written matrix.rowCount),
    ("rowsize".toList, written matrix.rowSize), ("action".toList, listed ActionDescription.json matrix.actions)]

def MatrixDescription.json (matrix : MatrixDescription) : Json := withMembers matrix.members

def DataDescription.members (data : DataDescription) : List (Text × Option Json) :=
  [("name".toList, quoted data.name), ("offset".toList, written data.offset),
    ("bit".toList, listed BitDescription.json data.bits),
    ("valuelist".toList, listed ValueDescription.json data.values)]

def DataDescription.json (data : DataDescription) : Json := withMembers data.members

def EventDescription.members (event : EventDescription) : List (Text × Option Json) :=
  [("name".toList, quoted event.name), ("class".toList, written event.vscpClass),
    ("type".toList, written event.type), ("direction".toList, quoted event.direction),
    ("priority".toList, written event.priority), ("data".toList, listed DataDescription.json event.data)]

def EventDescription.json (event : EventDescription) : Json := withMembers event.members

def Description.moduleMembers (description : Description) : List (Text × Option Json) :=
  [("name".toList, quoted description.name), ("buffersize".toList, written description.bufferSize),
    ("registers".toList, listed RegisterDescription.json description.registers),
    ("remotevars".toList, listed RemoteDescription.json description.remotes),
    ("dmatrix".toList, some description.matrix.json),
    ("events".toList, listed EventDescription.json description.events)]

def Description.json (description : Description) : Json :=
  .object [("module".toList, withMembers description.moduleMembers)]

end json

end Vscp.ModuleDescription
