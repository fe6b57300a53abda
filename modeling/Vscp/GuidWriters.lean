import Vscp.GuidText

set_option autoImplicit false

namespace Vscp.GuidWriters

open NumberText
open RemoteTcp (Text)

inductive GuidStrFormat
  | normal
  | compact
  | uuid

def compactLoop (guid : Guid) (ffCount : Nat) : Text :=
  ((List.finRange 16).drop ffCount).flatMap fun i =>
    (if ffCount < i.val then [':'] else []) ++ upperHex 2 (guid.get i).toNat

def ffCount (guid : Guid) : Nat := (guid.toList.takeWhile (· = 0xff)).length

def uuidText (guid : Guid) : Text :=
  let bytes := guid.toList
  hexRun (bytes.take 4) ++ ['-'] ++ hexRun ((bytes.drop 4).take 2) ++ ['-'] ++ hexRun ((bytes.drop 6).take 2) ++ ['-'] ++
    hexRun ((bytes.drop 8).take 2) ++ ['-'] ++ hexRun (bytes.drop 10)

def colonText (guid : Guid) : Text := hexGroups guid.toList

-- The class cguid.
namespace Cguid

def toString (guid : Guid) : Text := colonText guid

def toStringCompact (guid : Guid) : Text :=
  let ffCount := ffCount guid
  if ffCount = 16 then [':', ':']
  else if ffCount = 0 then toString guid
  else [':', ':'] ++ compactLoop guid ffCount

def toStringUUID (guid : Guid) : Text := uuidText guid

def getAsString (guid : Guid) : Text := toString guid

def getAt (guid : Guid) (n : Nat) : UInt8 := guid.toList.getD n 0

def getMSB (guid : Guid) : UInt8 := getAt guid 0

def getNicknameID (guid : Guid) : UInt16 := ((getAt guid 14).toUInt16 <<< 8) + (getAt guid 15).toUInt16

def written (guid : Guid) : GuidStrFormat → Text
  | .normal => toString guid
  | .compact => toStringCompact guid
  | .uuid => toStringUUID guid

end Cguid

-- The switch that the writers of the helper library share; only the array writer knows the comma form.
def writeGuid (guid : Guid) (bUseComma : Bool) : GuidStrFormat → Text
  | .compact =>
      let ffCount := ffCount guid
      if ffCount = 16 then [':', ':']
      else if ffCount = 0 then colonText guid
      else [':', ':'] ++ compactLoop guid ffCount
  | .uuid => uuidText guid
  | .normal =>
      if bUseComma then List.intercalate [','] (guid.toList.map fun byte => decimal byte.toNat) else colonText guid

def writeGuidToString (pev : VscpEvent) (format : GuidStrFormat) : Text := writeGuid pev.guid false format
def writeGuidToStringEx (pex : VscpEventEx) (format : GuidStrFormat) : Text := writeGuid pex.guid false format
def writeGuidArrayToString (guid : Guid) (bUseComma : Bool) (format : GuidStrFormat) : Text :=
  writeGuid guid bUseComma format

def guidToString (guid : Guid) : Text := colonText guid

def guidToStringCompact (guid : Guid) : Text :=
  let ffCount := ffCount guid
  if ffCount = 16 then [':', ':']
  else if ffCount = 0 then guidToString guid
  else [':', ':'] ++ compactLoop guid ffCount

def guidToStringUuid (guid : Guid) : Text := uuidText guid

def writtenInC (guid : Guid) : GuidStrFormat → Text
  | .normal => guidToString guid
  | .compact => guidToStringCompact guid
  | .uuid => guidToStringUuid guid

variable (guid : Guid)

theorem compact_loop_later (count k left : Nat) (remains : 16 - k = left) (later : count < k) :
    (((List.finRange 16).drop k).flatMap fun i =>
      (if count < i.val then [':'] else []) ++ upperHex 2 (guid.get i).toNat) =
        if guid.toList.drop k = [] then [] else ':' :: hexGroups (guid.toList.drop k) := by
  induction left generalizing k with
  | zero =>
      rw [List.drop_of_length_le (by simp; omega), List.drop_of_length_le (by simp; omega)]
      rfl
  | succ left ih =>
      have inside : k < 16 := by omega
      have rest := ih (k + 1) (by omega) (by omega)
      have index : (List.finRange 16).drop k = ⟨k, inside⟩ :: (List.finRange 16).drop (k + 1) := by
        rw [List.drop_eq_getElem_cons (by simpa using inside), List.getElem_finRange]
        rfl
      have byte : guid.toList.drop k = guid.get ⟨k, inside⟩ :: guid.toList.drop (k + 1) := by
        rw [List.drop_eq_getElem_cons (by simpa using inside), Vector.getElem_toList]
        rfl
      rw [index, byte, List.flatMap_cons, rest, if_pos later, if_neg (List.cons_ne_nil _ _), hex_groups_cons]
      rfl

theorem compact_loop_groups (count : Nat) (inside : count < 16) :
    compactLoop guid count = hexGroups (guid.toList.drop count) := by
  have index : (List.finRange 16).drop count = ⟨count, inside⟩ :: (List.finRange 16).drop (count + 1) := by
    rw [List.drop_eq_getElem_cons (by simpa using inside), List.getElem_finRange]
    rfl
  have byte : guid.toList.drop count = guid.get ⟨count, inside⟩ :: guid.toList.drop (count + 1) := by
    rw [List.drop_eq_getElem_cons (by simpa using inside), Vector.getElem_toList]
    rfl
  rw [compactLoop, index, byte, List.flatMap_cons, compact_loop_later guid count (count + 1) _ rfl (Nat.lt_succ_self _),
    if_neg (Nat.lt_irrefl _), hex_groups_cons]
  rfl

theorem trailing_whole (fill : UInt8) (count : Nat) (bytes : Bytes) (guid : Guid)
    (parts : guid.toList = List.replicate count fill ++ bytes) : trailing fill bytes = guid := by
  have length : guid.toList.length = 16 := by simp
  have sizes := congrArg List.length parts
  rw [length, List.length_append, List.length_replicate] at sizes
  apply Vector.ext
  intro i bound
  have inside : i < guid.toList.length := by omega
  have within : i < (List.replicate count fill ++ bytes).length := by rwa [← parts]
  have whole : guid[i] = (List.replicate count fill ++ bytes)[i] := by
    rw [← Vector.getElem_toList (by simpa using inside)]
    simp only [parts]
  rw [trailing, Vector.getElem_ofFn, whole]
  by_cases front : i < 16 - bytes.length
  · rw [if_pos front, List.getElem_append_left (by rw [List.length_replicate]; omega), List.getElem_replicate]
  · have back : count ≤ i := by omega
    have same : i - (16 - bytes.length) = i - count := by omega
    rw [if_neg front, List.getElem_append_right (by rw [List.length_replicate]; exact back), same,
      List.getD_eq_getElem _ _ (by omega)]
    simp only [List.length_replicate]

theorem filled_groups_parse (depth : Nat) (bytes : Bytes) (some : bytes ≠ []) (few : bytes.length ≤ 16) :
    guidParse (depth + 1) (':' :: ':' :: hexGroups bytes) = ⟨true, trailing 0xff bytes, .some []⟩ := by
  obtain ⟨single, flat⟩ := single_runs bytes
  have length : (bytes.map fun byte => [byte]).length = bytes.length := List.length_map _
  have groups := hex_runs_read (fun value => UInt8.ofNat (value / 256)) ':' (.inl rfl) 16 16
    (bytes.map fun byte => [byte]) single (by omega) (by rw [flat]; exact few)
  rw [← hex_groups_runs, flat] at groups
  have digit : nextIsHex (hexGroups bytes) = true := by
    obtain ⟨byte, rest, cons⟩ := List.exists_cons_of_ne_nil some
    obtain ⟨letter, text, head, digit⟩ := hex_runs_head ':' [byte] (rest.map fun byte => [byte]) (List.cons_ne_nil _ _)
    rw [cons, hex_groups_runs, List.map_cons, head]
    exact digit
  simp [guidParse, skipBlanks, digit, parseGroups, groups, finish]

variable (bytes : Bytes)

theorem compact_solid :
    (':' :: ':' :: hexGroups bytes).takeWhile (· ≠ '\x00') = ':' :: ':' :: hexGroups bytes := by
  apply marked_text_solid
  intro letter inside
  rcases List.mem_cons.mp inside with rfl | inside
  · exact .inr List.mem_cons_self
  · rcases List.mem_cons.mp inside with rfl | inside
    · exact .inr List.mem_cons_self
    · rcases hex_groups_letters bytes letter inside with digit | rfl
      · exact .inl digit
      · exact .inr List.mem_cons_self

theorem leading_ones :
    guid.toList = List.replicate (ffCount guid) 0xff ++ guid.toList.drop (ffCount guid) := by
  have parts := List.takeWhile_append_dropWhile (p := (· = (0xff : UInt8))) (l := guid.toList)
  have front : guid.toList.takeWhile (· = 0xff) = List.replicate (ffCount guid) 0xff := by
    refine List.eq_replicate_iff.mpr ⟨rfl, ?_⟩
    intro byte member
    have one := List.mem_takeWhile_imp member
    exact of_decide_eq_true one
  have behind : guid.toList.drop (ffCount guid) = guid.toList.dropWhile (· = 0xff) :=
    (congrArg (List.drop (ffCount guid)) parts.symm).trans List.drop_left
  rw [behind, ← front]
  exact parts.symm

theorem compact_reads : vscpGuidParse (Cguid.toStringCompact guid) = ⟨true, guid, some []⟩ := by
  have length : guid.toList.length = 16 := by simp
  have front := leading_ones guid
  have sizes := congrArg List.length front
  rw [length, List.length_append, List.length_replicate, List.length_drop, length] at sizes
  unfold Cguid.toStringCompact
  by_cases full : ffCount guid = 16
  · have none : guid.toList.drop (ffCount guid) = [] := List.drop_eq_nil_of_le (by omega)
    have ones : Vector.replicate 16 0xff = guid := trailing_whole 0xff (ffCount guid) [] guid (by rwa [none] at front)
    rw [if_pos full, ← ones]
    rfl
  · rw [if_neg full]
    by_cases clear : ffCount guid = 0
    · rw [if_pos clear]
      exact guid_parse_written guid
    · have some : guid.toList.drop (ffCount guid) ≠ [] := by
        intro empty
        have none := congrArg List.length empty
        rw [List.length_drop, length, List.length_nil] at none
        omega
      have parsed := filled_groups_parse (':' :: ':' :: hexGroups (guid.toList.drop (ffCount guid))).length _ some (by
        rw [List.length_drop, length]
        exact Nat.sub_le _ _)
      rw [trailing_whole 0xff _ _ guid front] at parsed
      rw [if_neg clear, compact_loop_groups guid _ (by omega), vscpGuidParse]
      simp only [List.cons_append, List.nil_append, compact_solid]
      exact parsed

def uuidRuns (bytes : Bytes) : List Bytes :=
  [bytes.take 4, (bytes.drop 4).take 2, (bytes.drop 6).take 2, (bytes.drop 8).take 2, bytes.drop 10]

theorem uuid_text_runs : uuidText guid = hexRuns '-' (uuidRuns guid.toList) := by
  simp only [uuidRuns, hex_runs_cons, reduceCtorEq, if_false, if_true, List.append_nil, uuidText, List.append_assoc,
    List.cons_append, List.nil_append]

theorem uuid_runs_whole (length : bytes.length = 16) :
    (∀ run ∈ uuidRuns bytes, run ≠ []) ∧ (uuidRuns bytes).flatten = bytes := by
  constructor
  · intro run member
    apply List.length_pos_iff.mp
    simp only [uuidRuns, List.mem_cons, List.not_mem_nil, or_false] at member
    rcases member with rfl | rfl | rfl | rfl | rfl <;> simp only [List.length_take, List.length_drop] <;> omega
  · have step : ∀ start size, (bytes.drop start).take size ++ bytes.drop (start + size) = bytes.drop start := by
      intro start size
      rw [← List.drop_drop, List.take_append_drop]
    simp only [uuidRuns, List.flatten_cons, List.flatten_nil, List.append_nil]
    rw [step 8 2, step 6 2, step 4 2, List.take_append_drop]

theorem uuid_reads : vscpGuidParse (uuidText guid) = ⟨true, guid, some []⟩ := by
  have length : guid.toList.length = 16 := by simp
  obtain ⟨some, flat⟩ := uuid_runs_whole guid.toList length
  have solid : (uuidText guid).takeWhile (· ≠ '\x00') = uuidText guid := by
    apply marked_text_solid
    intro letter inside
    rw [uuid_text_runs] at inside
    rcases hex_runs_letters '-' _ letter inside with digit | rfl
    · exact .inl digit
    · exact .inr (by decide)
  rw [vscpGuidParse, solid, uuid_text_runs, guid_parse_runs _ '-' (.inr (.inl rfl)) _ some (by rw [flat, length])
    (by decide : (5 : Nat) ≤ 16), flat, leading_whole]

theorem guid_writers_round_trip (guid : Guid) (format : GuidStrFormat) :
    vscpGuidParse (Cguid.written guid format) = ⟨true, guid, some []⟩ ∧
    writeGuidArrayToString guid false format = Cguid.written guid format ∧
    writtenInC guid format = Cguid.written guid format ∧
    (∀ pev : VscpEvent, writeGuidToString { pev with guid := guid } format = Cguid.written guid format) ∧
    (∀ pex : VscpEventEx, writeGuidToStringEx { pex with guid := guid } format = Cguid.written guid format) := by
  refine ⟨?_, ?_, ?_, fun pev => ?_, fun pex => ?_⟩
  · cases format with
    | normal => exact guid_parse_written guid
    | compact => exact compact_reads guid
    | uuid => exact uuid_reads guid
  · cases format <;> rfl
  · cases format <;> rfl
  · cases format <;> rfl
  · cases format <;> rfl

end Vscp.GuidWriters
