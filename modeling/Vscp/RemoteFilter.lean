import Vscp.FilterText
import Vscp.EventFilter

set_option autoImplicit false

namespace Vscp.RemoteTcp

open NumberText
open GuidWriters (Cguid.getAsString)

def sflt : Text := ['S', 'F', 'L', 'T', ' ']
def smsk : Text := ['S', 'M', 'S', 'K', ' ']

-- "%d,%d,%d,%02X:...:%02X\r\n" behind the word; the bytes of the GUID from the last one to the first.
def filterCommand (word : Text) (priority : UInt8) (vscpClass vscpType : UInt16) (guid : Guid) : Text :=
  word ++ decimal priority.toNat ++ [','] ++ decimal vscpClass.toNat ++ [','] ++ decimal vscpType.toNat ++ [','] ++
    hexGroups ((List.finRange 16).reverse.map guid.get) ++ ['\r', '\n']

-- What the call answers and the commands it sends; `doCommand` is the answer to one command.
def doCmdFilter (session : TextSession) (doCommand : Text → Except VscpError Unit) (pFilter : VscpEventFilter) :
    Except VscpError Unit × List Text :=
  if ¬ session.connected then (.error .connection, [])
  else if session.modeReceiveLoop then (.error .parameter, [])
  else
    let first := filterCommand sflt pFilter.filterPriority pFilter.filterClass pFilter.filterType pFilter.filterGuid
    match doCommand first with
    | .error _ => (.error .error, [first])
    | .ok _ =>
        let second := filterCommand smsk pFilter.maskPriority pFilter.maskClass pFilter.maskType pFilter.maskGuid
        match doCommand second with
        | .error _ => (.error .error, [first, second])
        | .ok _ => (.ok (), [first, second])

-- A server reads what stands between the word and the end of the line.
def commandArgument (command : Text) : Text := (command.drop 5).takeWhile (· ≠ '\r')

def serverCommand (filter : VscpEventFilter) (command : Text) : VscpEventFilter :=
  if command.take 5 = sflt then readFilterFromString filter (commandArgument command)
  else if command.take 5 = smsk then readMaskFromString filter (commandArgument command)
  else filter

def reverseGuid (guid : Guid) : Guid := Vector.ofFn fun i => guid.get i.rev

variable (word : Text) (priority : UInt8) (vscpClass vscpType : UInt16) (guid : Guid)

theorem reversed_bytes : (List.finRange 16).reverse.map guid.get = (reverseGuid guid).toList := by
  apply List.ext_getElem
  · simp
  · intro i _ inside
    simp only [List.getElem_map, List.getElem_reverse, List.getElem_finRange, reverseGuid, Vector.getElem_toList,
      Vector.getElem_ofFn]
    congr 1
    apply Fin.ext
    simp [Fin.rev]

theorem filter_command_parts :
    filterCommand word priority vscpClass vscpType guid =
      word ++ (writeParts priority vscpClass vscpType (reverseGuid guid) ++ ['\r', '\n']) := by
  rw [filterCommand, reversed_bytes]
  simp only [writeParts, List.append_assoc]
  rfl

theorem written_parts_one_line :
    ∀ letter ∈ writeParts priority vscpClass vscpType guid, letter ≠ '\r' := by
  have plain : ∀ value : Nat, '\r' ∉ decimal value :=
    fun value ends => Bool.noConfusion (decimal_digits value '\r' ends)
  rintro letter member rfl
  simp only [writeParts, List.mem_append, List.mem_singleton] at member
  rcases member with ((((((first | comma) | second) | comma) | third) | comma) | groups)
  · exact plain _ first
  · exact absurd comma (by decide)
  · exact plain _ second
  · exact absurd comma (by decide)
  · exact plain _ third
  · exact absurd comma (by decide)
  · rcases hex_groups_letters guid.toList '\r' groups with digit | colon
    · exact Bool.noConfusion digit
    · exact absurd colon (by decide)

theorem command_argument_read (five : word.length = 5) (priority : UInt8) (vscpClass vscpType : UInt16)
    (guid : Guid) :
    (filterCommand word priority vscpClass vscpType guid).take 5 = word ∧
      commandArgument (filterCommand word priority vscpClass vscpType guid) =
        writeParts priority vscpClass vscpType (reverseGuid guid) := by
  rw [filter_command_parts, commandArgument, List.take_left' five, List.drop_left' five]
  refine ⟨rfl, ?_⟩
  rw [List.takeWhile_append_of_pos, List.takeWhile_cons_of_neg (by decide), List.append_nil]
  intro letter member
  exact decide_eq_true (written_parts_one_line priority vscpClass vscpType _ letter member)

theorem server_filter_reversed (session : TextSession) (doCommand : Text → Except VscpError Unit)
    (pFilter before : VscpEventFilter) (sent : (doCmdFilter session doCommand pFilter).1 = .ok ()) :
    (doCmdFilter session doCommand pFilter).2.foldl serverCommand before =
      { pFilter with filterGuid := reverseGuid pFilter.filterGuid, maskGuid := reverseGuid pFilter.maskGuid } := by
  have both : (doCmdFilter session doCommand pFilter).2 =
      [filterCommand sflt pFilter.filterPriority pFilter.filterClass pFilter.filterType pFilter.filterGuid,
        filterCommand smsk pFilter.maskPriority pFilter.maskClass pFilter.maskType pFilter.maskGuid] := by
    unfold doCmdFilter at sent ⊢
    dsimp only at sent ⊢
    split_ifs at sent ⊢
    split
    · rename_i refused
      simp [refused] at sent
    · rename_i accepted
      split
      · rename_i refused
        simp [accepted, refused] at sent
      · rfl
  obtain ⟨filterWord, filterText⟩ := command_argument_read sflt rfl pFilter.filterPriority pFilter.filterClass
    pFilter.filterType pFilter.filterGuid
  obtain ⟨maskWord, maskText⟩ := command_argument_read smsk rfl pFilter.maskPriority pFilter.maskClass
    pFilter.maskType pFilter.maskGuid
  have differ : smsk ≠ sflt := by decide
  rw [both, List.foldl_cons, List.foldl_cons, List.foldl_nil]
  simp only [serverCommand, filterWord, filterText, maskWord, maskText, if_true, if_neg differ]
  have filterBack := filter_read_back { pFilter with filterGuid := reverseGuid pFilter.filterGuid } before
  rw [writeFilterToString] at filterBack
  dsimp only at filterBack
  rw [filterBack]
  have maskBack := mask_read_back { pFilter with maskGuid := reverseGuid pFilter.maskGuid } { before with
    filterPriority := pFilter.filterPriority, filterClass := pFilter.filterClass,
    filterType := pFilter.filterType, filterGuid := reverseGuid pFilter.filterGuid }
  rw [writeMaskToString] at maskBack
  exact maskBack

-- The server denotes the client's filter, and so passes the same events, for GUIDs alike from both ends.
theorem filter_sent_iff_symmetric (session : TextSession) (doCommand : Text → Except VscpError Unit)
    (pFilter before : VscpEventFilter) (sent : (doCmdFilter session doCommand pFilter).1 = .ok ()) :
    ((doCmdFilter session doCommand pFilter).2.foldl serverCommand before = pFilter ∧
      ∀ pev, doLevel2Filter pev ((doCmdFilter session doCommand pFilter).2.foldl serverCommand before) =
        doLevel2Filter pev pFilter) ↔
    reverseGuid pFilter.filterGuid = pFilter.filterGuid ∧ reverseGuid pFilter.maskGuid = pFilter.maskGuid := by
  rw [server_filter_reversed session doCommand pFilter before sent]
  constructor
  · rintro ⟨same, _⟩
    exact ⟨congrArg VscpEventFilter.filterGuid same, congrArg VscpEventFilter.maskGuid same⟩
  · rintro ⟨filter, mask⟩
    rw [filter, mask]
    exact ⟨rfl, fun _ => rfl⟩

def firstByteFilter : VscpEventFilter :=
  ⟨0, 0, 0, 0, 0, 0, Vector.ofFn fun i => if i.val = 0 then 1 else 0, Vector.ofFn fun i => if i.val = 0 then 0xff else 0⟩

theorem filter_sent_iff_symmetric_example :
    ¬ ((doCmdFilter freshSession (fun _ => .ok ()) firstByteFilter).2.foldl serverCommand firstByteFilter =
        firstByteFilter ∧
      ∀ pev, doLevel2Filter pev ((doCmdFilter freshSession (fun _ => .ok ()) firstByteFilter).2.foldl serverCommand
        firstByteFilter) = doLevel2Filter pev firstByteFilter) := by
  rw [filter_sent_iff_symmetric freshSession (fun _ => .ok ()) firstByteFilter firstByteFilter rfl]
  decide

-- Byte 0 of the GUID is to be 1; the server asks it of byte 15.
theorem server_loses_wanted_event :
    (doCmdFilter freshSession (fun _ => .ok ()) firstByteFilter).1 = .ok () ∧
    (doCmdFilter freshSession (fun _ => .ok ()) firstByteFilter).2.foldl serverCommand firstByteFilter ≠
      firstByteFilter ∧
    ∃ pev, doLevel2Filter pev firstByteFilter = true ∧
      doLevel2Filter pev ((doCmdFilter freshSession (fun _ => .ok ()) firstByteFilter).2.foldl serverCommand
        firstByteFilter) = false := by
  have server : (doCmdFilter freshSession (fun _ => .ok ()) firstByteFilter).2.foldl serverCommand firstByteFilter =
      { firstByteFilter with
        filterGuid := reverseGuid firstByteFilter.filterGuid, maskGuid := reverseGuid firstByteFilter.maskGuid } :=
    server_filter_reversed freshSession (fun _ => .ok ()) firstByteFilter firstByteFilter rfl
  refine ⟨rfl, ?_, { temperatureEvent with guid := firstByteFilter.filterGuid }, by decide, ?_⟩
  · rw [server]
    decide
  · rw [server]
    decide

end Vscp.RemoteTcp
