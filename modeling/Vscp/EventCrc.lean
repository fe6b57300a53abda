import Vscp.FrameCorruption

set_option autoImplicit false

namespace Vscp

inductive Host where
  | bits32
  | bits64
deriving DecidableEq

def Host.pointerSize : Host → Nat
  | .bits32 => 4
  | .bits64 => 8

def memory16 (value : UInt16) : Bytes := [value.toUInt8, (value >>> 8).toUInt8]

def coveredFields (head vscpClass vscpType : UInt16) (guid : Guid) : Bytes :=
  [head.toUInt8] ++ memory16 vscpClass ++ memory16 vscpType ++ guid.toList

-- The bytes that are packed for the CRC, the size of the data last.
def packedEvent (pev : VscpEvent) : Bytes :=
  coveredFields pev.head pev.vscpClass pev.vscpType pev.guid ++ pev.dataBytes ++ memory16 pev.sizeData

-- `sizeof(pbuf)` is the size of the pointer and not of the bytes behind it.
def calcCrcEvent (host : Host) (pev : VscpEvent) (bSet : Bool) : UInt16 × VscpEvent :=
  let crc := crcFast ((packedEvent pev).take host.pointerSize)
  (crc, if bSet then { pev with crc := crc } else pev)

def packedEventEx (pex : VscpEventEx) : Bytes :=
  coveredFields pex.head pex.vscpClass pex.vscpType pex.guid ++ pex.data.toList.take pex.sizeData.toNat ++
    memory16 pex.sizeData

def calcCrcEventEx (host : Host) (pex : VscpEventEx) (bSet : Bool) : UInt16 × VscpEventEx :=
  let crc := crcFast ((packedEventEx pex).take host.pointerSize)
  (crc, if bSet then { pex with crc := crc } else pex)

def covered (pev : VscpEvent) : Bytes :=
  coveredFields pev.head pev.vscpClass pev.vscpType pev.guid ++ pev.dataBytes

structure OneByteChanged (first second : VscpEvent) (i : Nat) : Prop where
  inside : i < (covered first).length
  size : second.sizeData = first.sizeData
  other : (covered second).getD i 0 ≠ (covered first).getD i 0
  same : ∀ j, j ≠ i → (covered second).getD j 0 = (covered first).getD j 0

variable (host : Host) (pev : VscpEvent)

theorem covered_length : (covered pev).length = 21 + pev.sizeData.toNat := by
  simp only [covered, coveredFields, memory16, List.length_append, List.length_cons, List.length_nil,
    Vector.length_toList, data_bytes_length]

theorem pointer_size_bounds : host.pointerSize ≤ 8 := by
  cases host <;> decide

theorem packed_front :
    (packedEvent pev).take host.pointerSize = (covered pev).take host.pointerSize := by
  have length := covered_length pev
  have pointer := pointer_size_bounds host
  show (covered pev ++ memory16 pev.sizeData).take host.pointerSize = _
  exact List.take_append_of_le_length (by omega)

theorem byte_change_detected (message : Bytes) (i : Nat) (byte : UInt8) (inside : i < message.length)
    (other : byte ≠ message.getD i 0) : crcFast (message.set i byte) ≠ crcFast message := by
  have split : message = message.take i ++ [message.getD i 0] ++ message.drop (i + 1) := by
    rw [List.getD_eq_getElem _ _ inside, List.append_assoc, List.singleton_append, List.getElem_cons_drop,
      List.take_append_drop]
  have changed : message.set i byte = message.take i ++ [byte] ++ message.drop (i + 1) := by
    rw [List.set_eq_take_append_cons_drop, if_pos inside, List.append_assoc, List.singleton_append]
  have bits (own : UInt8) : messageBits (message.take i ++ [own] ++ message.drop (i + 1)) =
      messageBits (message.take i) ++ messageBits [own] ++ messageBits (message.drop (i + 1)) := by
    rw [message_bits_append, message_bits_append]
  have length (own : UInt8) : (messageBits [own]).length = 8 := message_bits_length [own]
  refine crc_burst_detected _ _ (messageBits (message.take i)) (messageBits [byte]) (messageBits [message.getD i 0])
    (messageBits (message.drop (i + 1))) ?_ ?_ ?_ ?_ ?_
  · rw [changed, bits]
  · rw [← bits, ← split]
  · rw [length, length]
  · rw [length]
    decide
  · intro same
    have byteSame := congrArg (fun list : Bytes => list.getD i 0) same
    rw [List.getD_eq_getElem _ _ (by rw [List.length_set]; exact inside), List.getElem_set_self] at byteSame
    exact other byteSame

variable (first second : VscpEvent) (i : Nat)

theorem covered_changed (changed : OneByteChanged first second i) :
    covered second = (covered first).set i ((covered second).getD i 0) := by
  have length : (covered second).length = (covered first).length := by
    rw [covered_length, covered_length, changed.size]
  apply List.ext_getElem
  · rw [List.length_set, length]
  · intro j left right
    rw [List.getElem_set]
    split
    · rename_i here
      subst here
      exact (List.getD_eq_getElem _ _ left).symm
    · rename_i elsewhere
      have kept := changed.same j (Ne.symm elsewhere)
      rw [List.getD_eq_getElem _ _ left, List.getD_eq_getElem _ _ (by rw [← length]; exact left)] at kept
      exact kept

theorem changed_of_set (byte : UInt8) (size : second.sizeData = first.sizeData)
    (inside : i < (covered first).length) (other : byte ≠ (covered first).getD i 0)
    (set : covered second = (covered first).set i byte) : OneByteChanged first second i := by
  refine ⟨inside, size, ?_, ?_⟩
  · rw [set, List.getD_eq_getElem _ _ (by rw [List.length_set]; exact inside), List.getElem_set_self]
    exact other
  · intro j elsewhere
    rw [set, List.getD_eq_getElem?_getD, List.getElem?_set_ne (Ne.symm elsewhere), ← List.getD_eq_getElem?_getD]

-- The converted event has the same bytes in front and as its data.
theorem packed_converted (pex : VscpEventEx) (pev : VscpEvent) (ex : VscpEventEx)
    (converted : convertEventToEventEx pex pev = some ex) : packedEventEx ex = packedEvent pev := by
  unfold convertEventToEventEx at converted
  split at converted
  · cases converted
  · rename_i fits
    have small : pev.sizeData.toNat ≤ 512 := Nat.le_of_not_lt fun large => fits (.inl large)
    cases converted
    have data : (overlay (pev.pdata.getD []) pev.sizeData.toNat pex.data).toList.take pev.sizeData.toNat =
        pev.dataBytes := by
      apply List.ext_getElem
      · rw [List.length_take, Vector.length_toList, data_bytes_length]
        omega
      · intro i left right
        have inside : i < pev.sizeData.toNat := by
          rw [data_bytes_length] at right
          exact right
        simp only [List.getElem_take, Vector.getElem_toList, overlay, Vector.getElem_ofFn, if_pos inside,
          VscpEvent.dataBytes, List.getElem_map, List.getElem_range]
    rw [packedEventEx, packedEvent, data]

theorem event_crc_covers_iff (host : Host) (bSet : Bool) (first second : VscpEvent) (i : Nat)
    (changed : OneByteChanged first second i) :
    ((calcCrcEvent host first bSet).1 ≠ (calcCrcEvent host second bSet).1 ↔ i < host.pointerSize) ∧
      ∀ pex ex, convertEventToEventEx pex first = some ex →
        (calcCrcEventEx host ex bSet).1 = (calcCrcEvent host first bSet).1 := by
  constructor
  · have list := covered_changed first second i changed
    show crcFast ((packedEvent first).take host.pointerSize) ≠ crcFast ((packedEvent second).take host.pointerSize) ↔ _
    rw [packed_front, packed_front, list, List.take_set]
    constructor
    · intro different
      by_contra outside
      apply different
      rw [List.set_eq_of_length_le]
      rw [List.length_take]
      omega
    · intro inside
      have length := changed.inside
      refine Ne.symm (byte_change_detected _ i _ ?_ ?_)
      · rw [List.length_take]
        omega
      · have front : ((covered first).take host.pointerSize).getD i 0 = (covered first).getD i 0 := by
          rw [List.getD_eq_getElem?_getD, List.getElem?_take_of_lt inside, ← List.getD_eq_getElem?_getD]
        rw [front]
        exact changed.other
  · intro pex ex converted
    show crcFast ((packedEventEx ex).take host.pointerSize) = crcFast ((packedEvent first).take host.pointerSize)
    rw [packed_converted pex first ex converted]

def otherGuid : VscpEvent := { exampleEvent with guid := exampleEvent.guid.set 12 77 }

def otherType : VscpEvent := { exampleEvent with vscpType := exampleEvent.vscpType + 1 }

theorem event_crc_covers_iff_type :
    ((calcCrcEvent .bits64 exampleEvent false).1 ≠ (calcCrcEvent .bits64 otherType false).1 ↔
        3 < Host.bits64.pointerSize) ∧
      ∀ pex ex, convertEventToEventEx pex exampleEvent = some ex →
        (calcCrcEventEx .bits64 ex false).1 = (calcCrcEvent .bits64 exampleEvent false).1 :=
  event_crc_covers_iff .bits64 false exampleEvent otherType 3
    (changed_of_set exampleEvent otherType 3 (exampleEvent.vscpType + 1).toUInt8 rfl (by decide) (by decide) (by decide))

theorem guid_byte_not_covered :
    OneByteChanged exampleEvent otherGuid 17 ∧
      (calcCrcEvent .bits64 exampleEvent false).1 = (calcCrcEvent .bits64 otherGuid false).1 :=
  ⟨changed_of_set exampleEvent otherGuid 17 77 rfl (by decide) (by decide) (by decide), by decide⟩

end Vscp
