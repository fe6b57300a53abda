import Vscp.Event
import Vscp.Lib.IntelHex

set_option autoImplicit false

namespace Vscp.Boot

open IntelHex

def intelhexLinetypeData : UInt8 := 0
def intelhexLinetypeEof : UInt8 := 1
def intelhexLinetypeExtendedSegment : UInt8 := 2
def intelhexLinetypeExtendedLinear : UInt8 := 4

structure CBootMemSegment where
  startAddress : UInt32
  segSize : UInt8
  memSegment : Vector UInt8 segSize.toNat
deriving DecidableEq

-- `none` is the std::invalid_argument that is thrown.
def readHexChar (input : UInt8) : Option UInt8 :=
  if 48 ≤ input ∧ input ≤ 57 then some (input - 48)
  else if 65 ≤ input ∧ input ≤ 70 then some (input - 65 + 10)
  else if 97 ≤ input ∧ input ≤ 102 then some (input - 97 + 10)
  else none

-- Pairs of letters up to a zero, to the end of the string or until the array is full.
def hexStr2ByteArray : Nat → Bytes → Option Bytes
  | 0, _ => some []
  | _ + 1, [] => some []
  | _ + 1, [_] => some []
  | size + 1, high :: low :: rest =>
      if high = 0 ∨ low = 0 then some []
      else
        match readHexChar high, readHexChar low, hexStr2ByteArray size rest with
        | some upper, some lower, some bytes => some ((upper <<< 4 + lower) :: bytes)
        | _, _, _ => none

structure LoadState where
  highaddr : UInt16
  segmentaddr : UInt32
  memSegList : List CBootMemSegment

inductive LineResult
  | thrown
  | failed (code : VscpError)
  | ended
  | next (state : LoadState)

def lineSum (bytes : Bytes) : UInt16 := bytes.foldl (fun sum byte => sum + byte.toUInt16) 0

-- Nothing compares the count with the bytes of the line: `stale` is what linebuf holds behind them.
-- Types without a case, and the two that set a start address, are passed over.
def loadLine (stale : Nat → UInt8) (state : LoadState) (szline : Bytes) : LineResult :=
  match szline with
  | [] => .next state
  | mark :: text =>
      if mark ≠ 58 then .next state
      else
        match hexStr2ByteArray 1024 text with
        | none => .thrown
        | some bytes =>
            if bytes.length < 5 then .failed .parameter
            else if lineSum bytes &&& 0xff ≠ 0 then .failed .parameter
            else
              let linebuf := fun i => bytes.getD i (stale i)
              let cnt := linebuf 0
              let lowaddr := (linebuf 1).toUInt16 <<< 8 + (linebuf 2).toUInt16
              let rectype := linebuf 3
              let fulladdr := state.highaddr.toUInt32 <<< 16 + lowaddr.toUInt32 + state.segmentaddr
              if rectype = intelhexLinetypeData then
                let pblk := ⟨fulladdr, cnt, Vector.ofFn fun i => linebuf (4 + i)⟩
                .next { state with memSegList := state.memSegList ++ [pblk] }
              else if rectype = intelhexLinetypeEof then .ended
              else if rectype = intelhexLinetypeExtendedSegment then
                if cnt ≠ 4 then .failed .parameter
                else .next { state with segmentaddr := ((linebuf 4).toUInt32 <<< 8 + (linebuf 5).toUInt32) * 16 }
              else if rectype = intelhexLinetypeExtendedLinear then
                if cnt ≠ 2 then .failed .parameter
                else .next { state with highaddr := (linebuf 4).toUInt16 <<< 8 + (linebuf 5).toUInt16 }
              else .next state

inductive LoadResult
  | thrown
  | failed (code : VscpError)
  | success
deriving DecidableEq

-- `stale` is told the line it is asked about. The end of the file ends the loop like an end record.
def loadLines (stale : Nat → Nat → UInt8) : Nat → LoadState → List Bytes → LoadResult × List CBootMemSegment
  | _, state, [] => (.success, state.memSegList)
  | line, state, szline :: rest =>
      match loadLine (stale line) state szline with
      | .thrown => (.thrown, state.memSegList)
      | .failed code => (.failed code, state.memSegList)
      | .ended => (.success, state.memSegList)
      | .next state => loadLines stale (line + 1) state rest

-- getline takes the lines of the file one by one, the last one also when it has no end.
def loadIntelHexFile (stale : Nat → Nat → UInt8) (memSegList : List CBootMemSegment) (hexfile : Bytes) :
    LoadResult × List CBootMemSegment :=
  loadLines stale 0 ⟨0, 0, memSegList⟩ (lines hexfile)

def segmentCells (pblk : CBootMemSegment) : List (Nat × UInt8) :=
  pblk.memSegment.toList.mapIdx fun i byte => ((pblk.startAddress.toNat + i) % 2 ^ 32, byte)

def segmentImage (memSegList : List CBootMemSegment) : Nat → Option UInt8 :=
  memory (memSegList.flatMap segmentCells)

def Refused (szline : Bytes) : Prop :=
  ∃ text, szline = recordMark :: text ∧
    ∀ bytes, hexStr2ByteArray 1024 text = some bytes →
      bytes.length < 5 ∨ (bytes.map UInt8.toNat).sum % 256 ≠ 0 ∨ (bytes.getD 3 0 = 2 ∧ bytes.getD 0 0 ≠ 4) ∨
        (bytes.getD 3 0 = 4 ∧ bytes.getD 0 0 ≠ 2)

def EndsFile (szline : Bytes) : Prop :=
  ∃ text bytes, szline = recordMark :: text ∧ hexStr2ByteArray 1024 text = some bytes ∧ bytes.getD 3 0 = 1

def RefusedAhead (szlines : List Bytes) : Prop :=
  ∃ before szline after, szlines = before ++ szline :: after ∧ Refused szline ∧
    ∀ earlier ∈ before, ¬ EndsFile earlier

variable (bytes : Bytes)

theorem line_sum_value : (lineSum bytes).toNat % 256 = (bytes.map UInt8.toNat).sum % 256 := by
  have general : ∀ (rest : Bytes) (sum : UInt16),
      (rest.foldl (fun sum byte => sum + byte.toUInt16) sum).toNat % 256 =
        (sum.toNat + (rest.map UInt8.toNat).sum) % 256 := by
    intro rest
    induction rest with
    | nil => intro sum; simp
    | cons byte later ih =>
        intro sum
        rw [List.foldl_cons, ih, UInt16.toNat_add, UInt8.toNat_toUInt16, List.map_cons, List.sum_cons]
        omega
  rw [lineSum, general]
  simp

theorem line_sum_checked : lineSum bytes &&& 0xff ≠ 0 ↔ (bytes.map UInt8.toNat).sum % 256 ≠ 0 := by
  have low : (lineSum bytes &&& 0xff).toNat = (lineSum bytes).toNat % 2 ^ 8 := by
    rw [UInt16.toNat_and]
    exact Nat.and_two_pow_sub_one_eq_mod _ 8
  rw [← line_sum_value, ne_eq, ← UInt16.toNat_inj, low]
  rfl

theorem byte_sum_zero : bytes.sum = 0 ↔ (bytes.map UInt8.toNat).sum % 256 = 0 := by
  have general : bytes.sum.toNat = (bytes.map UInt8.toNat).sum % 256 := by
    induction bytes with
    | nil => rfl
    | cons byte rest ih =>
        rw [List.sum_cons, List.map_cons, List.sum_cons, UInt8.toNat_add, ih]
        omega
  rw [← UInt8.toNat_inj, general]
  rfl

theorem digit_not_zero (letter value : UInt8) (digit : hexDigit letter = some value) : letter ≠ 0 := by
  intro zero
  have none : hexDigit 0 = none := by decide
  rw [zero, none] at digit
  cases digit

theorem hex_str_of_digits (text extra bytes : Bytes) (size : Nat) (read : hexBytes text = some bytes)
    (alone : extra.length ≤ 1) (room : bytes.length ≤ size) :
    hexStr2ByteArray size (text ++ extra) = some bytes := by
  induction text using List.twoStepInduction generalizing bytes size with
  | nil =>
      obtain rfl := Option.some.inj read
      cases size with
      | zero => rfl
      | succ size =>
          match extra with
          | [] => rfl
          | [_] => rfl
          | _ :: _ :: _ => simp at alone
  | singleton letter => cases read
  | cons_cons high low rest ih =>
      obtain ⟨upper, lower, later, highRead, lowRead, restRead, rfl⟩ := hex_pair_read high low rest bytes read
      cases size with
      | zero => simp at room
      | succ size =>
          have nonzero : ¬ (high = 0 ∨ low = 0) :=
            not_or.mpr ⟨digit_not_zero high upper highRead, digit_not_zero low lower lowRead⟩
          have again := ih later size restRead (by simpa using room)
          have highSame : readHexChar high = some upper := highRead
          have lowSame : readHexChar low = some lower := lowRead
          simp only [List.cons_append, hexStr2ByteArray, if_neg nonzero, highSame, lowSame, again]

theorem record_text_read (text bytes : Bytes) (read : hexBytes (trimReturn text) = some bytes)
    (short : text.length < 2047) : hexStr2ByteArray 1024 text = some bytes := by
  have count := hex_bytes_length _ bytes read
  have trimmed : ∃ extra, text = trimReturn text ++ extra ∧ extra.length ≤ 1 := by
    unfold trimReturn
    split
    · rename_i last
      exact ⟨[carriageReturn], (List.dropLast_append_getLast? _ last).symm, le_refl 1⟩
    · exact ⟨[], (List.append_nil text).symm, Nat.zero_le 1⟩
  obtain ⟨extra, split, alone⟩ := trimmed
  have shorter : (trimReturn text).length ≤ text.length := by
    have whole := congrArg List.length split
    rw [List.length_append] at whole
    omega
  rw [split]
  exact hex_str_of_digits _ extra bytes 1024 read alone (by omega)

theorem full_address_value (highaddr : UInt16) (high low : UInt8) :
    (highaddr.toUInt32 <<< 16 + (high.toUInt16 <<< 8 + low.toUInt16).toUInt32 + 0).toNat =
      (highaddr.toNat * 2 ^ 16 + word high low) % 2 ^ 32 := by
  have sixteen : (16 : UInt32).toNat % 32 = 16 := rfl
  have eight : (8 : UInt16).toNat % 16 = 8 := rfl
  have zero : (0 : UInt32).toNat = 0 := rfl
  have highBelow := highaddr.toNat_lt
  have firstBelow := high.toNat_lt
  have secondBelow := low.toNat_lt
  simp only [UInt32.toNat_add, UInt32.toNat_shiftLeft, UInt16.toNat_toUInt32, UInt16.toNat_add, UInt16.toNat_shiftLeft,
    UInt8.toNat_toUInt16, sixteen, eight, zero, Nat.shiftLeft_eq, word]
  omega

theorem high_word_value (high low : UInt8) : (high.toUInt16 <<< 8 + low.toUInt16).toNat = word high low := by
  have eight : (8 : UInt16).toNat % 16 = 8 := rfl
  have firstBelow := high.toNat_lt
  have secondBelow := low.toNat_lt
  simp only [UInt16.toNat_add, UInt16.toNat_shiftLeft, UInt8.toNat_toUInt16, eight, Nat.shiftLeft_eq, word]
  omega

def Taken (state : LoadState) (record : Record) (result : LineResult) : Prop :=
  match record with
  | .data offset bytes => ∃ pblk, result = .next { state with memSegList := state.memSegList ++ [pblk] } ∧
      segmentCells pblk = bytes.mapIdx fun i byte => ((Base.linear state.highaddr.toNat).address offset i, byte)
  | .endOfFile => result = .ended
  | .segmentBase _ => result = .failed .parameter
  | .linearBase upper => ∃ highaddr : UInt16, result = .next { state with highaddr } ∧ highaddr.toNat = upper
  | .startSegment => result = .next state
  | .startLinear => result = .next state

theorem load_line_record (stale : Nat → UInt8) (state : LoadState) (text bytes : Bytes) (record : Record)
    (read : hexStr2ByteArray 1024 text = some bytes) (is : recordOf bytes = some record)
    (noSegment : state.segmentaddr = 0) :
    Taken state record (loadLine stale state (recordMark :: text)) := by
  obtain ⟨count, high, low, kind, rest, rfl, length, zero, holds⟩ := record_shape bytes record is
  have long : ¬ (count :: high :: low :: kind :: rest).length < 5 := by
    simp only [List.length_cons, length]
    omega
  have sum : ¬ lineSum (count :: high :: low :: kind :: rest) &&& 0xff ≠ 0 := by
    rw [line_sum_checked, not_not]
    exact (byte_sum_zero _).mp zero
  have mark : ¬ recordMark ≠ 58 := not_not.mpr rfl
  simp only [loadLine, if_neg mark, read, if_neg long, if_neg sum, List.getD_cons_zero, List.getD_cons_succ]
  have few : rest.dropLast.length = count.toNat := by
    rw [List.length_dropLast, length]
    rfl
  rcases content_cases kind _ _ record holds with ⟨rfl, rfl⟩ | ⟨rfl, -, rfl⟩ | ⟨rfl, first, second, two, rfl⟩ |
    ⟨rfl, rfl⟩ | ⟨rfl, first, second, two, rfl⟩ | ⟨rfl, rfl⟩
  · refine ⟨_, rfl, ?_⟩
    apply List.ext_getElem
    · simp only [segmentCells, List.length_mapIdx, Vector.length_toList, few]
      rfl
    · intro i left right
      have inside : i < rest.dropLast.length := by
        simpa only [List.length_mapIdx] using right
      have reach : i < rest.length := by
        rw [few] at inside
        omega
      simp only [segmentCells, List.getElem_mapIdx, Vector.getElem_toList, Vector.getElem_ofFn, List.getElem_dropLast,
        noSegment, full_address_value, Base.address]
      refine Prod.ext ?_ ?_
      · dsimp only
        omega
      · dsimp only
        rw [Nat.add_comm 4 i]
        exact List.getD_eq_getElem _ _ reach
  · rfl
  · have other : count ≠ 4 := by
      intro four
      rw [two, four] at few
      cases few
    exact if_pos other
  · rfl
  · have same : ¬ count ≠ 2 := by
      rw [not_not]
      apply UInt8.toNat_inj.mp
      rw [← few, two]
      rfl
    obtain ⟨last, whole⟩ : ∃ last, rest = [first, second, last] := by
      have nonempty : rest ≠ [] := List.ne_nil_of_length_eq_add_one length
      have split := List.dropLast_append_getLast nonempty
      rw [two] at split
      exact ⟨rest.getLast nonempty, split.symm⟩
    exact ⟨_, if_neg same, by rw [whole]; exact high_word_value first second⟩
  · rfl

theorem load_line_no_record (stale : Nat → UInt8) (state : LoadState) (szline : Bytes)
    (unmarked : ∀ text, szline ≠ recordMark :: text) : loadLine stale state szline = .next state := by
  cases szline with
  | nil => rfl
  | cons mark text =>
      have other : mark ≠ 58 := fun same => unmarked text (by rw [same]; rfl)
      simp only [loadLine, if_pos other]

variable (szline : Bytes) (rest : List Bytes)

theorem records_step (all : List Record) (short : szline.length < 2048)
    (are : records (szline :: rest) = some all) :
    ((∀ text, szline ≠ recordMark :: text) ∧ records rest = some all) ∨
      ∃ record later, all = record :: later ∧ records rest = some later ∧
        ∀ stale state, state.segmentaddr = 0 → Taken state record (loadLine stale state szline) := by
  cases szline with
  | nil => exact .inl ⟨fun text => (List.cons_ne_nil _ _).symm, are⟩
  | cons mark text =>
      by_cases marked : mark = recordMark
      · subst marked
        simp only [records, if_true] at are
        split at are
        · rename_i record later is restAre
          obtain ⟨bytes, digits, is⟩ := Option.bind_eq_some_iff.mp is
          rw [List.length_cons] at short
          have read := record_text_read text bytes digits (by omega)
          exact .inr ⟨record, later, (Option.some.inj are).symm, restAre,
            fun stale state noSegment => load_line_record stale state text bytes record read is noSegment⟩
        · cases are
      · simp only [records, if_neg marked] at are
        exact .inl ⟨fun other same => marked (List.cons.inj same).1, are⟩

variable (stale : Nat → Nat → UInt8) (szlines : List Bytes) (line : Nat) (state : LoadState)

theorem load_lines_records (body : List Record) (short : ∀ szline ∈ szlines, szline.length < 2048) (noSegment : state.segmentaddr = 0)
    (are : records szlines = some (body ++ [.endOfFile])) (inside : .endOfFile ∉ body) :
    ((loadLines stale line state szlines).1 = .success ↔ ∀ paragraph, .segmentBase paragraph ∉ body) ∧
      ((∀ paragraph, .segmentBase paragraph ∉ body) →
        (loadLines stale line state szlines).2.flatMap segmentCells =
          state.memSegList.flatMap segmentCells ++ cells (.linear state.highaddr.toNat) body) := by
  induction szlines generalizing line state body with
  | nil => cases body <;> cases are
  | cons szline rest ih =>
      have restShort : ∀ later ∈ rest, later.length < 2048 := fun later member => short later (List.mem_cons_of_mem _ member)
      rcases records_step szline rest _ (short szline List.mem_cons_self) are with
        ⟨unmarked, restAre⟩ | ⟨record, later, split, restAre, takes⟩
      · simp only [loadLines, load_line_no_record (stale line) state szline unmarked]
        exact ih (line + 1) state body restShort noSegment restAre inside
      · have taken := takes (stale line) state noSegment
        cases body with
        | nil =>
            obtain rfl : Record.endOfFile = record := (List.cons.inj split).1
            have ended : loadLine (stale line) state szline = .ended := taken
            simp [loadLines, ended, cells]
        | cons first others =>
            obtain ⟨rfl, rfl⟩ := List.cons.inj split
            have othersInside : .endOfFile ∉ others := fun member => inside (List.mem_cons_of_mem _ member)
            cases first with
            | data offset bytes =>
                obtain ⟨pblk, next, same⟩ := taken
                have after := ih (line + 1) { state with memSegList := state.memSegList ++ [pblk] } others restShort noSegment
                  restAre othersInside
                simp only [loadLines, next, List.mem_cons, reduceCtorEq, false_or]
                refine ⟨after.1, fun none => (after.2 none).trans ?_⟩
                simp [same, cells]
            | endOfFile => exact absurd List.mem_cons_self inside
            | segmentBase paragraph =>
                have failed : loadLine (stale line) state szline = .failed .parameter := taken
                simp only [loadLines, failed, reduceCtorEq, false_iff]
                exact ⟨fun none => none paragraph List.mem_cons_self,
                  fun none => absurd List.mem_cons_self (none paragraph)⟩
            | startSegment =>
                have next : loadLine (stale line) state szline = .next state := taken
                simp only [loadLines, next, cells, List.mem_cons, reduceCtorEq, false_or]
                exact ih (line + 1) state others restShort noSegment restAre othersInside
            | linearBase upper =>
                obtain ⟨highaddr, next, value⟩ := taken
                simp only [loadLines, next, cells, List.mem_cons, reduceCtorEq, false_or, ← value]
                exact ih (line + 1) { state with highaddr } others restShort noSegment restAre othersInside
            | startLinear =>
                have next : loadLine (stale line) state szline = .next state := taken
                simp only [loadLines, next, cells, List.mem_cons, reduceCtorEq, false_or]
                exact ih (line + 1) state others restShort noSegment restAre othersInside

theorem load_line_outcome (stale : Nat → UInt8) (state : LoadState) (szline : Bytes) :
    (Refused szline ∧ (loadLine stale state szline = .thrown ∨ loadLine stale state szline = .failed .parameter)) ∨
      (¬ Refused szline ∧ EndsFile szline ∧ loadLine stale state szline = .ended) ∨
      (¬ Refused szline ∧ ¬ EndsFile szline ∧ ∃ after, loadLine stale state szline = .next after) := by
  by_cases marked : ∃ text, szline = recordMark :: text
  · obtain ⟨text, rfl⟩ := marked
    have mark : ¬ recordMark ≠ 58 := not_not.mpr rfl
    have same (other : Bytes) (equal : recordMark :: text = recordMark :: other) : text = other := (List.cons.inj equal).2
    cases read : hexStr2ByteArray 1024 text with
    | none =>
        refine .inl ⟨⟨text, rfl, fun bytes some => ?_⟩, .inl ?_⟩
        · rw [read] at some
          cases some
        · simp only [loadLine, if_neg mark, read]
    | some bytes =>
        have refused : Refused (recordMark :: text) ↔ bytes.length < 5 ∨ (bytes.map UInt8.toNat).sum % 256 ≠ 0 ∨
            (bytes.getD 3 0 = 2 ∧ bytes.getD 0 0 ≠ 4) ∨ (bytes.getD 3 0 = 4 ∧ bytes.getD 0 0 ≠ 2) := by
          constructor
          · rintro ⟨other, equal, faults⟩
            exact faults bytes (same other equal ▸ read)
          · intro faults
            refine ⟨text, rfl, fun other found => ?_⟩
            rw [read] at found
            exact Option.some.inj found ▸ faults
        have ends : EndsFile (recordMark :: text) ↔ bytes.getD 3 0 = 1 := by
          constructor
          · rintro ⟨other, found, equal, decoded, kind⟩
            rw [← same other equal, read] at decoded
            exact Option.some.inj decoded ▸ kind
          · exact fun kind => ⟨text, bytes, rfl, read, kind⟩
        rw [refused, ends]
        simp only [loadLine, if_neg mark, read, line_sum_checked]
        by_cases few : bytes.length < 5
        · exact .inl ⟨.inl few, .inr (if_pos few)⟩
        by_cases wrong : (bytes.map UInt8.toNat).sum % 256 ≠ 0
        · exact .inl ⟨.inr (.inl wrong), .inr (by rw [if_neg few, if_pos wrong])⟩
        have held (i : Nat) (low : i < 5) : bytes.getD i (stale i) = bytes.getD i 0 := by
          rw [List.getD_eq_getElem _ _ (by omega), List.getD_eq_getElem _ _ (by omega)]
        rw [if_neg few, if_neg wrong, held 3 (by omega), held 0 (by omega)]
        generalize bytes.getD 3 0 = kind
        generalize bytes.getD 0 0 = count
        simp only [few, wrong, false_or, intelhexLinetypeData, intelhexLinetypeEof, intelhexLinetypeExtendedSegment,
          intelhexLinetypeExtendedLinear]
        by_cases data : kind = 0
        · subst data
          exact .inr (.inr ⟨by simp, by decide, _, rfl⟩)
        by_cases eof : kind = 1
        · subst eof
          exact .inr (.inl ⟨by simp, rfl, rfl⟩)
        by_cases segment : kind = 2
        · subst segment
          by_cases four : count = 4
          · subst four
            exact .inr (.inr ⟨by decide, by decide, _, rfl⟩)
          · exact .inl ⟨.inl ⟨rfl, four⟩, .inr (if_pos four)⟩
        by_cases linear : kind = 4
        · subst linear
          by_cases two : count = 2
          · subst two
            exact .inr (.inr ⟨by decide, by decide, _, rfl⟩)
          · exact .inl ⟨.inr ⟨rfl, two⟩, .inr (if_pos two)⟩
        simp only [data, eof, segment, linear, if_false]
        exact .inr (.inr ⟨by simp, by simp, _, rfl⟩)
  · refine .inr (.inr ⟨?_, ?_, state, load_line_no_record stale state szline fun text same => marked ⟨text, same⟩⟩)
    · rintro ⟨text, same, -⟩
      exact marked ⟨text, same⟩
    · rintro ⟨text, bytes, same, -⟩
      exact marked ⟨text, same⟩

theorem refused_ahead_cons :
    RefusedAhead (szline :: rest) ↔ Refused szline ∨ (¬ EndsFile szline ∧ RefusedAhead rest) := by
  constructor
  · rintro ⟨before, found, after, split, refused, none⟩
    cases before with
    | nil => exact .inl ((List.cons.inj split).1 ▸ refused)
    | cons first others =>
        obtain ⟨rfl, rfl⟩ := List.cons.inj split
        exact .inr ⟨none _ List.mem_cons_self, others, found, after, rfl, refused,
          fun earlier member => none earlier (List.mem_cons_of_mem _ member)⟩
  · rintro (refused | ⟨goesOn, before, found, after, rfl, refused, none⟩)
    · exact ⟨[], szline, rest, rfl, refused, fun earlier member => absurd member List.not_mem_nil⟩
    · refine ⟨szline :: before, found, after, rfl, refused, fun earlier member => ?_⟩
      rcases List.mem_cons.mp member with rfl | later
      · exact goesOn
      · exact none earlier later

theorem load_lines_success_iff :
    (loadLines stale line state szlines).1 = .success ↔ ¬ RefusedAhead szlines := by
  induction szlines generalizing line state with
  | nil =>
      refine iff_of_true rfl ?_
      rintro ⟨before, szline, after, split, -⟩
      cases before <;> cases split
  | cons szline rest ih =>
      rw [refused_ahead_cons]
      rcases load_line_outcome (stale line) state szline with ⟨refused, thrown | failed⟩ | ⟨fine, ends, ended⟩ |
        ⟨fine, goesOn, after, next⟩
      · simp [loadLines, thrown, refused]
      · simp [loadLines, failed, refused]
      · simp [loadLines, ended, fine, ends]
      · simp only [loadLines, next, fine, goesOn, not_false_eq_true, true_and, false_or]
        exact ih (line + 1) after

theorem load_defined (hexfile : Bytes) (body : List Record)
    (short : ∀ szline ∈ lines hexfile, szline.length < 2048) (defines : Defines hexfile body) :
    ((loadIntelHexFile stale [] hexfile).1 = .success ↔ ∀ paragraph, .segmentBase paragraph ∉ body) ∧
      ((∀ paragraph, .segmentBase paragraph ∉ body) →
        segmentImage (loadIntelHexFile stale [] hexfile).2 = image body) := by
  obtain ⟨success, same⟩ := load_lines_records stale (lines hexfile) 0 ⟨0, 0, []⟩ body short rfl defines.1 defines.2
  refine ⟨success, fun none => ?_⟩
  rw [segmentImage, loadIntelHexFile, same none]
  rfl

theorem intel_hex_load_iff (stale : Nat → Nat → UInt8) (hexfile : Bytes)
    (short : ∀ szline ∈ lines hexfile, szline.length < 2048) :
    let loaded := loadIntelHexFile stale [] hexfile
    ((loaded.1 = .success ↔ WellFormed hexfile) ∧
        ∀ body, Defines hexfile body → loaded.1 = .success → segmentImage loaded.2 = image body) ↔
      (∃ body, Defines hexfile body ∧ ∀ paragraph, .segmentBase paragraph ∉ body) ∨
        (¬ WellFormed hexfile ∧ RefusedAhead (lines hexfile)) := by
  intro loaded
  have accepts : loaded.1 = .success ↔ ¬ RefusedAhead (lines hexfile) := load_lines_success_iff stale _ 0 _
  by_cases formed : WellFormed hexfile
  · have known := formed
    obtain ⟨body, defines⟩ := known
    constructor
    · rintro ⟨success, -⟩
      exact .inl ⟨body, defines, (load_defined stale hexfile body short defines).1.mp (success.mpr formed)⟩
    · rintro (⟨other, otherDefines, none⟩ | ⟨unformed, -⟩)
      · have success := (load_defined stale hexfile other short otherDefines).1.mpr none
        refine ⟨iff_of_true success formed, fun again againDefines _ => ?_⟩
        obtain ⟨taken, same⟩ := load_defined stale hexfile again short againDefines
        exact same (taken.mp success)
      · exact absurd formed unformed
  · have undefined (body : List Record) : ¬ Defines hexfile body := fun defines => formed ⟨body, defines⟩
    constructor
    · rintro ⟨success, -⟩
      refine .inr ⟨formed, ?_⟩
      by_contra unrefused
      exact formed (success.mp (accepts.mpr unrefused))
    · rintro (⟨body, defines, -⟩ | ⟨-, refused⟩)
      · exact absurd defines (undefined body)
      · exact ⟨iff_of_false (fun success => accepts.mp success refused) formed,
          fun body defines => absurd defines (undefined body)⟩

def hexText (text : String) : Bytes := text.toList.map fun letter => UInt8.ofNat letter.toNat

def linearFile : Bytes := hexText ":020000040001F9\n:0400100001020304E2\r\n:00000001FF"
def segmentFile : Bytes := hexText ":020000021200EA\n:0400100001020304E2\n:00000001FF\n"
def cutFile : Bytes := hexText ":0400100001020304E2\n:10002000D0"

theorem intel_hex_load_iff_example :
    let loaded := loadIntelHexFile (fun _ _ => 0) [] linearFile
    ((loaded.1 = .success ↔ WellFormed linearFile) ∧
        ∀ body, Defines linearFile body → loaded.1 = .success → segmentImage loaded.2 = image body) ↔
      (∃ body, Defines linearFile body ∧ ∀ paragraph, .segmentBase paragraph ∉ body) ∨
        (¬ WellFormed linearFile ∧ RefusedAhead (lines linearFile)) :=
  intel_hex_load_iff (fun _ _ => 0) linearFile (by decide)

example : (loadIntelHexFile (fun _ _ => 0) [] linearFile).2.map CBootMemSegment.startAddress = [0x10010] := by
  decide

-- A right file with a segment base is refused, a file that breaks off in a record is taken.
theorem segment_record_refused :
    (WellFormed segmentFile ∧ (loadIntelHexFile (fun _ _ => 0) [] segmentFile).1 = .failed .parameter) ∧
      ¬ WellFormed cutFile ∧ (loadIntelHexFile (fun _ _ => 0) [] cutFile).1 = .success := by
  refine ⟨⟨⟨[.segmentBase 0x1200, .data 0x10 [1, 2, 3, 4]], by decide, by decide⟩, by decide⟩, ?_,
    by decide⟩
  rintro ⟨body, records, -⟩
  have none : IntelHex.records (lines cutFile) = none := by decide
  rw [none] at records
  cases records

end Vscp.Boot
