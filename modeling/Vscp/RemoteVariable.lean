import Vscp.RegisterPage
import Vscp.Lib.Printf

set_option autoImplicit false

namespace Vscp.Registers

open NumberText
open RemoteTcp (Text split)
open Printf (signedDecimal)

-- Without the two floating types.
inductive VariableType
  | unknown
  | string
  | boolean
  | int8
  | uint8
  | int16
  | uint16
  | int32
  | uint32
  | int64
  | uint64
  | date
  | time
deriving DecidableEq

structure RemoteVariable where
  type : VariableType
  page : UInt16
  offset : UInt32
  bitpos : UInt8
  size : UInt16

namespace RemoteVariable

def getTypeByteCount (var : RemoteVariable) : UInt16 :=
  match var.type with
  | .string => var.size
  | .boolean | .int8 | .uint8 => 1
  | .int16 | .uint16 => 2
  | .int32 | .uint32 => 4
  | .int64 | .uint64 => 8
  | .date | .time => 3
  | .unknown => 0

def getBitPos (var : RemoteVariable) : UInt8 := var.bitpos &&& 7

end RemoteVariable

def formatDecimal : UInt8 := 0

def booleanText (flag : Bool) : Text := if flag then ['t', 'r', 'u', 'e'] else ['f', 'a', 'l', 's', 'e']

def bigEndianNumber : Bytes → Nat
  | [] => 0
  | byte :: bytes => byte.toNat <<< (8 * bytes.length) + bigEndianNumber bytes

def bigEndianBytes : Nat → Int → Bytes
  | 0, _ => []
  | count + 1, value => UInt8.ofInt (value >>> (8 * count)) :: bigEndianBytes count value

-- pstr[i] = ... for each index in turn; behind the end of the buffer it is undefined.
def fill (pstr : Bytes) (index : Nat) : Bytes → Option Bytes
  | [] => some pstr
  | byte :: bytes => if index < pstr.length then fill (pstr.set index byte) (index + 1) bytes else none

def cString (pstr : Bytes) : Text := (pstr.takeWhile (· ≠ 0)).map fun byte => Char.ofNat byte.toNat

-- strValue = vscp_str_format(fstr, number), after the registers have been read.
def printed (longBits : Nat) (fstr : Text) (bits : Nat) (number : Int) (page : RegisterPage) :
    Option (Text × RegisterPage) :=
  (Printf.format longBits fstr [⟨bits, number⟩]).map fun strValue => (strValue, page)

-- Every second byte of the buffer is shown.
def printedParts (longBits : Nat) (fstr : Text) (buf : Bytes × RegisterPage) : Option (Text × RegisterPage) :=
  match buf.1[0]?, buf.1[2]?, buf.1[4]? with
  | some first, some second, some third =>
      (Printf.format longBits fstr [⟨32, first.toNat⟩, ⟨32, second.toNat⟩, ⟨32, third.toNat⟩]).map
        fun strValue => (strValue, buf.2)
  | _, _, _ => none

def readVariable (longBits : Nat) (var : RemoteVariable) (format : UInt8) (page : RegisterPage) :
    Option (Text × RegisterPage) :=
  let byteCount := var.getTypeByteCount.toNat
  match var.type with
  | .string =>
      let last := var.offset + UInt32.ofNat byteCount
      let buf := page.readBytes var.offset (last.toNat - var.offset.toNat)
      (fill (List.replicate (byteCount + 1) 0) var.offset.toNat buf.1).map fun pstr => (cString pstr, buf.2)
  | .boolean =>
      let read := page.getReg (var.offset &&& ((1 : UInt32) <<< var.getBitPos.toUInt32))
      some (booleanText (read.1 ≠ 0), read.2)
  | .int8 =>
      let read := page.getReg var.offset
      printed longBits
        (if format = formatDecimal then ['%', 'h', 'a', 'd'] else ['0', 'x', '%', '0', '2', 'h', 'x']) 32 read.1 read.2
  | .uint8 =>
      let read := page.getReg var.offset
      printed longBits
        (if format = formatDecimal then ['%', 'h', 'u'] else ['0', 'x', '%', '0', '2', 'h', 'x']) 32 read.1 read.2
  | .int16 =>
      let buf := page.readBytes var.offset 2
      let val := (Int16.ofInt (bigEndianNumber buf.1)).toInt
      printed longBits
        (if format = formatDecimal then ['%', 'h', 'd'] else ['0', 'x', '%', '0', '4', 'h', 'x']) 32 val buf.2
  | .uint16 =>
      let buf := page.readBytes var.offset 2
      let val := (UInt16.ofNat (bigEndianNumber buf.1)).toNat
      printed longBits
        (if format = formatDecimal then ['h', 'd'] else ['0', 'x', '%', '0', '4', 'h', 'x']) 32 val buf.2
  | .int32 =>
      let buf := page.readBytes var.offset byteCount
      let val := (Int32.ofInt (bigEndianNumber buf.1)).toInt
      printed longBits
        (if format = formatDecimal then ['%', 'l', 'd'] else ['0', 'x', '%', '0', '4', 'l', 'x']) 32 val buf.2
  | .uint32 =>
      let buf := page.readBytes var.offset byteCount
      let val := (UInt32.ofNat (bigEndianNumber buf.1)).toNat
      printed longBits
        (if format = formatDecimal then ['%', 'l', 'u'] else ['0', 'x', '%', '0', '4', 'l', 'x']) 32 val buf.2
  | .int64 =>
      let buf := page.readBytes var.offset byteCount
      let val := (Int64.ofInt (bigEndianNumber buf.1)).toInt
      printed longBits
        (if format = formatDecimal then ['%', 'l', 'l', 'd'] else ['0', 'x', '%', 'l', 'l', 'x']) 64 val buf.2
  | .uint64 =>
      let buf := page.readBytes var.offset byteCount
      let val := (UInt64.ofNat (bigEndianNumber buf.1)).toNat
      printed longBits
        (if format = formatDecimal then ['%', 'u', 'l', 'l', 'u'] else ['0', 'x', '%', 'u', 'l', 'l', 'x']) 64 val buf.2
  | .date =>
      printedParts longBits ['%', '0', '2', 'd', '-', '%', '0', '2', 'd', '-', '%', '0', '2', 'd']
        (page.readBytes var.offset byteCount)
  | .time =>
      printedParts longBits ['%', '0', '2', 'd', ':', '%', '0', '2', 'd', ':', '%', '0', '2', 'd']
        (page.readBytes var.offset byteCount)
  | .unknown => some ([], page)

def writeNumber (page : RegisterPage) (offset : UInt32) (count : Nat) (val : Int) : RegisterPage :=
  page.writeBytes offset (bigEndianBytes count val)

def writeParts (page : RegisterPage) (offset : UInt32) (strValue : Text) : RegisterPage :=
  match split strValue ':' with
  | [first, second, third] =>
      page.writeBytes offset ([first, second, third].map fun part => UInt8.ofInt (readStringValue part))
  | _ => page

def writeVariable (var : RemoteVariable) (strValue : Text) (page : RegisterPage) : RegisterPage :=
  match var.type with
  | .string => page.writeBytes var.offset (strValue.map fun letter => UInt8.ofNat letter.toNat)
  | .boolean =>
      let read := page.getReg var.offset
      let val := UInt8.ofInt read.1
      let val :=
        if strValue = booleanText true then val ||| ((1 : UInt8) <<< var.getBitPos)
        else if strValue = booleanText false then val &&& ~~~((1 : UInt8) <<< var.getBitPos)
        else UInt8.ofInt (readStringValue strValue)
      (read.2.putReg var.offset val).2
  | .int8 => writeNumber page var.offset 1 (Int8.ofInt (readStringValue strValue)).toInt
  | .uint8 => writeNumber page var.offset 1 (UInt8.ofInt (readStringValue strValue)).toNat
  | .int16 => writeNumber page var.offset 2 (Int16.ofInt (readStringValue strValue)).toInt
  | .uint16 => writeNumber page var.offset 2 (UInt16.ofInt (readStringValue strValue)).toNat
  | .int32 => writeNumber page var.offset 4 (Int32.ofInt (readStringValue strValue)).toInt
  | .uint32 => writeNumber page var.offset 4 (UInt32.ofInt (readStringValue strValue)).toNat
  | .int64 => writeNumber page var.offset 8 (Int64.ofInt (readStringValue strValue)).toInt
  | .uint64 => writeNumber page var.offset 8 (UInt64.ofInt (readStringValue strValue)).toNat
  | .date => writeParts page var.offset strValue
  | .time => writeParts page var.offset strValue
  | .unknown => page

namespace UserRegisters

def remoteVarFromRegToString (longBits : Nat) (user : UserRegisters) (remoteVar : RemoteVariable) (strValue : Text)
    (format : UInt8) : Option (Int × Text × UserRegisters) :=
  match user.getRegisterPage remoteVar.page with
  | (none, user) => some (VscpError.error.code, strValue, user)
  | (some ppage, user) =>
      (readVariable longBits remoteVar format ppage).map fun read =>
        (0, read.1, user.withPage remoteVar.page read.2)

def remoteVarFromStringToReg (user : UserRegisters) (remoteVar : RemoteVariable) (strValue : Text) :
    Int × UserRegisters :=
  match user.getRegisterPage remoteVar.page with
  | (none, user) => (VscpError.error.code, user)
  | (some ppage, user) =>
      (0, user.withPage remoteVar.page (writeVariable remoteVar strValue ppage))

end UserRegisters

end Vscp.Registers
