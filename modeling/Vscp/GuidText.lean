import Vscp.EventText

set_option autoImplicit false

namespace Vscp

open NumberText
open RemoteTcp (Text)

def isHexDigit (letter : Char) : Bool := isDigitOf 16 letter

def hexToVal (letter : Char) : UInt8 := if isHexDigit letter then UInt8.ofNat ((digitValue letter).getD 0) else 0

@[grind =] def hexPairs : Nat → Text → Bytes × Text
  | 0, input => ([], input)
  | _ + 1, [] => ([], [])
  | count + 1, high :: input =>
      let low := (input.takeWhile isHexDigit).head?
      let later := hexPairs count (if low.isSome then input.drop 1 else input)
      (((hexToVal high <<< 4) ||| (low.map hexToVal).getD 0) :: later.1, later.2)

-- One group at the head of the input with `room` bytes left; `lastByte` is what is kept of a two-byte group
-- when only one byte is left.
def readGroup (lastByte : Nat → UInt8) (room : Nat) (input : Text) : Bytes × Text :=
  let digits := input.takeWhile isHexDigit
  let rest := input.dropWhile isHexDigit
  let value := digitsValue 16 digits
  if digits.length ≤ 2 then ([UInt8.ofNat value], rest)
  else if digits.length ≤ 4 then
    if 1 < room then ([UInt8.ofNat (value / 256), UInt8.ofNat value], rest) else ([lastByte value], rest)
  else hexPairs (min ((digits.length + 1) / 2) room) input

-- Every group takes a byte at least, so as many rounds as there is room are enough.
@[grind =] def readGroups (lastByte : Nat → UInt8) : Nat → Nat → Text → Bytes × Text
  | 0, _, input => ([], input)
  | rounds + 1, room, input =>
      if room = 0 ∨ (input.takeWhile isHexDigit) = [] then ([], input)
      else
        let group := readGroup lastByte room input
        let left := room - group.1.length
        let separated := 0 < left ∧ (group.2.head? = some ':' ∨ group.2.head? = some '-' ∨ group.2.head? = some ',')
        let later := readGroups lastByte rounds left (if separated then group.2.drop 1 else group.2)
        (group.1 ++ later.1, later.2)

def parseGroups (input : Text) : Bytes × Text := readGroups (fun value => UInt8.ofNat (value / 256)) 16 16 input

def leading (bytes : Bytes) : Guid := Vector.ofFn fun i => bytes.getD i.val 0
def trailing (fill : UInt8) (bytes : Bytes) : Guid :=
  Vector.ofFn fun i => if i.val < 16 - bytes.length then fill else bytes.getD (i.val - (16 - bytes.length)) 0

@[grind =] def splitAtFill : Text → Option (Text × Text)
  | [] => none
  | letter :: text =>
      if letter = ':' ∧ text.head? = some ':' then some ([], text.drop 1)
      else (splitAtFill text).map fun parts => (letter :: parts.1, parts.2)

def countParsedBytes (text : Text) : Nat :=
  let runs := (text.splitOnP fun letter => !isHexDigit letter).filter fun run => run ≠ []
  (runs.map fun run => if run.length ≤ 2 then 1 else if run.length ≤ 4 then 2 else (run.length + 1) / 2).sum

-- `endptr` is none where the parser leaves it alone.
structure GuidParse where
  accepted : Bool
  guid : Guid
  endptr : Option Text
deriving DecidableEq

def skipBlanks (text : Text) : Text := text.dropWhile fun letter => letter = ' ' ∨ letter = '\t'

def finish (hasBraces : Bool) (guid : Guid) (p : Text) : GuidParse :=
  let closed := skipBlanks p
  let p := if hasBraces then (if closed.head? = some '}' then closed.drop 1 else closed) else p
  ⟨true, guid, some p⟩

def nextIsHex (text : Text) : Bool := (text.head?).any isHexDigit

-- `depth` bounds how often the text is split at a "::" in its middle.
@[grind =] def guidParse : Nat → Text → GuidParse
  | 0, _ => ⟨false, Vector.replicate 16 0, none⟩
  | depth + 1, strguid =>
      let start := skipBlanks strguid
      let hasBraces := decide (start.head? = some '{')
      let p := if hasBraces then skipBlanks (start.drop 1) else start
      if p = [] then finish hasBraces (Vector.replicate 16 0) p
      else if p.head? = some '-' ∧ (p.drop 1).head? = some ':' then
        let groups := parseGroups (p.drop 2)
        finish hasBraces (trailing 0 groups.1) groups.2
      else if p.head? = some '-' ∧ ¬ nextIsHex (p.drop 1) then finish hasBraces (Vector.replicate 16 0) (p.drop 1)
      else if (p.head? = some ':' ∨ p.head? = some '*') ∧ (p.drop 1).head? = some ':' then
        if ¬ nextIsHex (p.drop 2) then finish hasBraces (Vector.replicate 16 0xff) (p.drop 2)
        else
          let groups := parseGroups (p.drop 2)
          finish hasBraces (trailing 0xff groups.1) groups.2
      else
        match splitAtFill p with
        | some (before, behind) =>
            let beforeCount := min (countParsedBytes before) 16
            let behindCount := min (countParsedBytes behind) (16 - beforeCount)
            let beforeGuid := (guidParse depth before).guid
            let behindGuid := (guidParse depth behind).guid
            let guid : Guid := Vector.ofFn fun i =>
              if i.val < beforeCount then beforeGuid.get i
              else if i.val < 16 - behindCount then 0
              else behindGuid.toList.getD (i.val - (16 - behindCount)) 0
            finish hasBraces guid p
        | none =>
            let groups := readGroups UInt8.ofNat 16 16 p
            if groups.1.length ≠ 16 then ⟨false, leading groups.1, none⟩
            else finish hasBraces (leading groups.1) groups.2

def vscpGuidParse (strguid : Text) : GuidParse :=
  let text := strguid.takeWhile (· ≠ '\x00')
  guidParse (text.length + 1) text

-- cguid::getFromString, which does not look at what the parser returns.
def guidFromString (strGuid : Text) : Guid := (vscpGuidParse strGuid).guid

@[grind =] def pairBytes : Text → Bytes
  | [] => []
  | [high] => [hexToVal high <<< 4]
  | high :: low :: digits => ((hexToVal high <<< 4) ||| hexToVal low) :: pairBytes digits

def runBytes (digits : Text) : Bytes :=
  let value := digitsValue 16 digits
  if digits.length ≤ 2 then [UInt8.ofNat value]
  else if digits.length ≤ 4 then [UInt8.ofNat (value / 256), UInt8.ofNat value]
  else pairBytes digits

def hexRun (bytes : Bytes) : Text := bytes.flatMap fun byte => upperHex 2 byte.toNat

def hexGroups (bytes : Bytes) : Text := List.intercalate [':'] (bytes.map fun byte => upperHex 2 byte.toNat)

variable (byte : UInt8)

theorem two_hex_digits :
    upperHex 2 byte.toNat = [upperDigit (byte.toNat / 16), upperDigit (byte.toNat % 16)] := by
  have each : ∀ value < 256, upperHex 2 value = [upperDigit (value / 16), upperDigit (value % 16)] := by decide +kernel
  exact each byte.toNat byte.toNat_lt

variable (digits rest : Text)

theorem run_parts (all : ∀ letter ∈ digits, isHexDigit letter = true)
    (ends : rest.takeWhile isHexDigit = []) :
    (digits ++ rest).takeWhile isHexDigit = digits ∧ (digits ++ rest).dropWhile isHexDigit = rest := by
  have kept : rest.dropWhile isHexDigit = rest := by
    have parts := List.takeWhile_append_dropWhile (p := isHexDigit) (l := rest)
    rwa [ends, List.nil_append] at parts
  rw [List.takeWhile_append_of_pos all, List.dropWhile_append_of_pos all, ends, List.append_nil]
  exact ⟨rfl, kept⟩

theorem hex_pairs_run (count : Nat) (digits rest : Text) (all : ∀ letter ∈ digits, isHexDigit letter = true)
    (ends : rest.takeWhile isHexDigit = []) (inside : 2 * count ≤ digits.length + 1) :
    hexPairs count (digits ++ rest) = (pairBytes (digits.take (2 * count)), digits.drop (2 * count) ++ rest) := by
  induction count generalizing digits with
  | zero => cases digits <;> rfl
  | succ count ih =>
      cases digits with
      | nil =>
          rw [List.length_nil] at inside
          omega
      | cons high digits =>
          cases digits with
          | nil =>
              have single : count = 0 := by
                rw [List.length_singleton] at inside
                omega
              have two : 2 * (count + 1) = 2 := by omega
              rw [two, single]
              cases rest with
              | nil => simp [hexPairs, pairBytes]
              | cons letter rest =>
                  have stops : isHexDigit letter = false := by
                    cases digit : isHexDigit letter with
                    | false => rfl
                    | true => simp [digit] at ends
                  simp [hexPairs, pairBytes, stops]
          | cons low digits =>
              have hex : isHexDigit low = true := all low (by simp)
              have later := ih digits (fun letter member => all letter (by simp [member])) (by
                simp only [List.length_cons] at inside
                omega)
              have steps : 2 * (count + 1) = 2 * count + 1 + 1 := by omega
              rw [steps, List.take_succ_cons, List.take_succ_cons, List.drop_succ_cons, List.drop_succ_cons, pairBytes]
              simp only [List.cons_append, hexPairs, List.takeWhile_cons_of_pos hex, List.head?_cons, Option.isSome_some,
                if_true, List.drop_succ_cons, List.drop_zero, Option.map_some, Option.getD_some, later]

theorem pair_bytes_length (digits : Text) : (pairBytes digits).length = (digits.length + 1) / 2 := by
  induction digits using pairBytes.induct with
  | case1 => rfl
  | case2 high => simp [pairBytes]
  | case3 high low digits ih =>
      rw [pairBytes, List.length_cons, ih]
      simp only [List.length_cons]
      omega

theorem run_bytes_length (digits : Text) (long : digits ≠ []) :
    (runBytes digits).length = (digits.length + 1) / 2 := by
  have positive := List.length_pos_iff.mpr long
  unfold runBytes
  by_cases short : digits.length ≤ 2
  · rw [if_pos short, List.length_singleton]
    omega
  · by_cases word : digits.length ≤ 4
    · rw [if_neg short, if_pos word]
      simp only [List.length_cons, List.length_nil]
      omega
    · rw [if_neg short, if_neg word, pair_bytes_length]

variable (lastByte : Nat → UInt8)

theorem read_group_whole (room : Nat) (digits rest : Text)
    (all : ∀ letter ∈ digits, isHexDigit letter = true) (ends : rest.takeWhile isHexDigit = [])
    (fits : (digits.length + 1) / 2 ≤ room) : readGroup lastByte room (digits ++ rest) = (runBytes digits, rest) := by
  obtain ⟨run, behind⟩ := run_parts digits rest all ends
  simp only [readGroup, run, behind, runBytes]
  by_cases short : digits.length ≤ 2
  · rw [if_pos short, if_pos short]
  · by_cases word : digits.length ≤ 4
    · have two : 1 < room := by omega
      rw [if_neg short, if_neg short, if_pos word, if_pos word, if_pos two]
    · have most : min ((digits.length + 1) / 2) room = (digits.length + 1) / 2 := Nat.min_eq_left fits
      have whole : digits.length ≤ 2 * ((digits.length + 1) / 2) := by omega
      rw [if_neg short, if_neg short, if_neg word, if_neg word, most, hex_pairs_run _ digits rest all ends (by omega),
        List.take_of_length_le whole, List.drop_of_length_le whole, List.nil_append]

variable (bytes : Bytes)

theorem hex_run_digits : ∀ letter ∈ hexRun bytes, isHexDigit letter = true := by
  intro letter member
  obtain ⟨byte, _, inside⟩ := List.mem_flatMap.mp member
  exact upper_hex_digits 2 byte.toNat letter inside

theorem hex_run_cons :
    hexRun (byte :: bytes) = upperDigit (byte.toNat / 16) :: upperDigit (byte.toNat % 16) :: hexRun bytes := by
  rw [hexRun, List.flatMap_cons, two_hex_digits]
  rfl

theorem hex_run_length : (hexRun bytes).length = 2 * bytes.length := by
  induction bytes with
  | nil => rfl
  | cons byte bytes ih =>
      rw [hex_run_cons, List.length_cons, List.length_cons, ih, List.length_cons]
      omega

theorem hex_run_pairs : pairBytes (hexRun bytes) = bytes := by
  induction bytes with
  | nil => rfl
  | cons byte bytes ih =>
      have each : ∀ value < 256, (hexToVal (upperDigit (value / 16)) <<< 4) ||| hexToVal (upperDigit (value % 16)) =
          UInt8.ofNat value := by decide +kernel
      rw [hex_run_cons, pairBytes, ih, each byte.toNat byte.toNat_lt, UInt8.ofNat_toNat]

theorem hex_run_bytes (some : bytes ≠ []) : runBytes (hexRun bytes) = bytes := by
  match bytes with
  | [] => exact absurd rfl some
  | [byte] =>
      have text : hexRun [byte] = upperHex 2 byte.toNat := List.append_nil _
      have short : (hexRun [byte]).length ≤ 2 := by rw [hex_run_length, List.length_singleton]
      rw [runBytes, if_pos short, text, upper_hex_value, UInt8.ofNat_toNat]
  | [first, second] => 
      have value : digitsValue 16 (hexRun [first, second]) = 256 * first.toNat + second.toNat := by
        have high := first.toNat_lt
        have low := second.toNat_lt
        have text : hexRun [first, second] = [upperDigit (first.toNat / 16), upperDigit (first.toNat % 16),
            upperDigit (second.toNat / 16), upperDigit (second.toNat % 16)] := by
          rw [hex_run_cons, hex_run_cons]
          rfl
        simp only [text, digitsValue, List.foldl_cons, List.foldl_nil, upper_digit_reads (first.toNat / 16) (by omega),
          upper_digit_reads (first.toNat % 16) (by omega), upper_digit_reads (second.toNat / 16) (by omega),
          upper_digit_reads (second.toNat % 16) (by omega), Option.getD_some]
        omega
      have four : (hexRun [first, second]).length = 4 := hex_run_length [first, second]
      have high : (256 * first.toNat + second.toNat) / 256 = first.toNat := by
        have low := second.toNat_lt
        omega
      have low : UInt8.ofNat (256 * first.toNat + second.toNat) = second := by
        apply UInt8.toNat_inj.mp
        have small := second.toNat_lt
        rw [UInt8.toNat_ofNat']
        omega
      rw [runBytes, if_neg (by omega), if_pos (by omega), value, high, low, UInt8.ofNat_toNat]
  | first :: second :: third :: bytes =>
      have long : (hexRun (first :: second :: third :: bytes)).length = 2 * bytes.length + 6 := by
        rw [hex_run_length]
        simp only [List.length_cons]
        omega
      rw [runBytes, if_neg (by omega), if_neg (by omega), hex_run_pairs]

def hexRuns (mark : Char) (runs : List Bytes) : Text := List.intercalate [mark] (runs.map hexRun)

variable (mark : Char) (run : Bytes) (runs : List Bytes)

theorem hex_runs_cons :
    hexRuns mark (run :: runs) = hexRun run ++ (if runs = [] then [] else mark :: hexRuns mark runs) := by
  by_cases last : runs = []
  · rw [last, if_pos rfl, List.append_nil, hexRuns, List.map_cons, List.map_nil, List.intercalate_singleton]
  · have more : runs.map hexRun ≠ [] := by simpa using last
    rw [if_neg last, hexRuns, List.map_cons, List.intercalate_cons_of_ne_nil more, List.append_assoc]
    rfl

theorem hex_runs_head (some : run ≠ []) :
    ∃ letter rest, hexRuns mark (run :: runs) = letter :: rest ∧ isHexDigit letter = true := by
  obtain ⟨byte, bytes, rfl⟩ := List.exists_cons_of_ne_nil some
  have first := hex_run_digits (byte :: bytes)
  rw [hex_run_cons] at first
  rw [hex_runs_cons, hex_run_cons]
  exact ⟨_, _, rfl, first _ List.mem_cons_self⟩

theorem hex_runs_read (separates : mark = ':' ∨ mark = '-' ∨ mark = ',')
    (rounds room : Nat) (runs : List Bytes) (some : ∀ run ∈ runs, run ≠ []) (enough : runs.length ≤ rounds)
    (fits : runs.flatten.length ≤ room) : readGroups lastByte rounds room (hexRuns mark runs) = (runs.flatten, []) := by
  induction rounds generalizing room runs with
  | zero =>
      have none : runs = [] := List.length_eq_zero_iff.mp (Nat.le_zero.mp enough)
      rw [none]
      rfl
  | succ rounds ih =>
      cases runs with
      | nil =>
          by_cases full : room = 0 <;> simp [readGroups, hexRuns, full]
      | cons run runs =>
          have own : run ≠ [] := some run List.mem_cons_self
          have others : ∀ other ∈ runs, other ≠ [] := fun other member => some other (List.mem_cons_of_mem run member)
          have positive := List.length_pos_iff.mpr own
          rw [List.flatten_cons, List.length_append] at fits
          rw [List.length_cons] at enough
          have foreign : isHexDigit mark = false := by
            rcases separates with rfl | rfl | rfl <;> rfl
          have ends : (if runs = [] then [] else mark :: hexRuns mark runs).takeWhile isHexDigit = [] := by
            split
            · rfl
            · rw [List.takeWhile_cons_of_neg]
              simp [foreign]
          have digits : (hexRun run ++ (if runs = [] then [] else mark :: hexRuns mark runs)).takeWhile isHexDigit ≠
              [] := by
            rw [(run_parts _ _ (hex_run_digits run) ends).1]
            intro empty
            have none := hex_run_length run
            rw [empty, List.length_nil] at none
            omega
          have group := read_group_whole lastByte room _ _ (hex_run_digits run) ends (by
            rw [hex_run_length]
            omega)
          rw [hex_run_bytes run own] at group
          have later := ih (room - run.length) runs others (by omega) (by omega)
          rw [hex_runs_cons, readGroups, if_neg (by simp [digits]; omega), group]
          by_cases last : runs = []
          · rw [last, hexRuns, List.map_nil, List.intercalate_nil] at later
            simp [last, later]
          · obtain ⟨next, rest, more⟩ := List.exists_cons_of_ne_nil last
            have first := List.length_pos_iff.mpr (others next (by rw [more]; exact List.mem_cons_self))
            have left : 0 < room - run.length := by
              rw [more, List.flatten_cons, List.length_append] at fits
              omega
            simp only [if_neg last, List.head?_cons, Option.some.injEq, left, separates, and_self, if_true, List.drop_one,
              List.tail_cons, later, List.flatten_cons]

theorem no_fill_in_digits (all : ∀ letter ∈ digits, isHexDigit letter = true)
    (none : splitAtFill rest = none) : splitAtFill (digits ++ rest) = .none := by
  induction digits with
  | nil => exact none
  | cons letter digits ih =>
      have later := ih fun other inside => all other (List.mem_cons_of_mem letter inside)
      have own := all letter List.mem_cons_self
      have colon : letter ≠ ':' := by
        rintro rfl
        exact Bool.noConfusion own
      rw [List.cons_append, splitAtFill, if_neg (fun fill => colon fill.1), later]
      rfl

theorem no_fill_runs (some : ∀ run ∈ runs, run ≠ []) :
    splitAtFill (hexRuns mark runs) = none := by
  induction runs with
  | nil => rfl
  | cons run runs ih =>
      have later := ih fun other member => some other (List.mem_cons_of_mem run member)
      rw [hex_runs_cons]
      apply no_fill_in_digits _ _ (hex_run_digits run)
      cases runs with
      | nil => rfl
      | cons next others =>
          obtain ⟨letter, rest, text, digit⟩ := hex_runs_head mark next others (some next (by simp))
          have colon : letter ≠ ':' := by
            rintro rfl
            exact Bool.noConfusion digit
          rw [if_neg (List.cons_ne_nil _ _), splitAtFill, later, text]
          simp [colon]

theorem hex_runs_letters :
    ∀ letter ∈ hexRuns mark runs, isHexDigit letter = true ∨ letter = mark := by
  apply joined_letters (fun letter => isHexDigit letter = true ∨ letter = mark) mark _ (.inr rfl)
  intro part member letter inside
  obtain ⟨run, _, rfl⟩ := List.mem_map.mp member
  exact .inl (hex_run_digits run letter inside)

theorem hex_groups_runs : hexGroups bytes = hexRuns ':' (bytes.map fun byte => [byte]) := by
  rw [hexGroups, hexRuns, List.map_map]
  congr 1
  apply List.map_congr_left
  intro byte _
  exact (List.append_nil _).symm

theorem hex_groups_cons :
    hexGroups (byte :: bytes) = upperHex 2 byte.toNat ++ (if bytes = [] then [] else ':' :: hexGroups bytes) := by
  have single : hexRun [byte] = upperHex 2 byte.toNat := List.append_nil _
  rw [hex_groups_runs, List.map_cons, hex_runs_cons, single, hex_groups_runs]
  simp only [List.map_eq_nil_iff]

theorem single_runs :
    (∀ run ∈ bytes.map (fun byte => [byte]), run ≠ []) ∧ (bytes.map fun byte => [byte]).flatten = bytes := by
  constructor
  · intro run member
    obtain ⟨byte, _, rfl⟩ := List.mem_map.mp member
    exact List.cons_ne_nil _ _
  · induction bytes with
    | nil => rfl
    | cons byte bytes ih => rw [List.map_cons, List.flatten_cons, ih, List.singleton_append]

theorem hex_groups_letters :
    ∀ letter ∈ hexGroups bytes, isHexDigit letter = true ∨ letter = ':' := by
  rw [hex_groups_runs]
  exact hex_runs_letters ':' _

theorem marked_text_solid (text : Text) (letters : ∀ letter ∈ text, isHexDigit letter = true ∨ letter ∈ [':', '-']) :
    text.takeWhile (· ≠ '\x00') = text := by
  apply List.takeWhile_eq_self_iff.mpr
  intro letter inside
  apply decide_eq_true
  rintro rfl
  rcases letters _ inside with digit | mark
  · exact Bool.noConfusion digit
  · exact absurd mark (by decide)

variable (guid : Guid)

theorem leading_whole : leading guid.toList = guid := by
  apply Vector.ext
  intro i bound
  rw [leading, Vector.getElem_ofFn, List.getD_eq_getElem _ _ (by simpa using bound), Vector.getElem_toList]

theorem guid_parse_runs (depth : Nat) (mark : Char) (separates : mark = ':' ∨ mark = '-' ∨ mark = ',')
    (runs : List Bytes) (some : ∀ run ∈ runs, run ≠ []) (whole : runs.flatten.length = 16)
    (few : runs.length ≤ 16) :
    guidParse (depth + 1) (hexRuns mark runs) = ⟨true, leading runs.flatten, .some []⟩ := by
  have groups := hex_runs_read UInt8.ofNat mark separates 16 16 runs some few (by omega)
  have fill := no_fill_runs mark runs some
  have head : ∃ letter rest, hexRuns mark runs = letter :: rest ∧ isHexDigit letter = true := by
    cases runs with
    | nil => simp at whole
    | cons run runs => exact hex_runs_head mark run runs (some run List.mem_cons_self)
  obtain ⟨letter, rest, cons, digit⟩ := head
  have other : ∀ mark, isHexDigit mark = false → letter ≠ mark := by
    rintro mark foreign rfl
    rw [digit] at foreign
    exact Bool.noConfusion foreign
  have blanks : skipBlanks (letter :: rest) = letter :: rest := by
    rw [skipBlanks, List.dropWhile_cons_of_neg]
    simp [other ' ' rfl, other '\t' rfl]
  rw [guidParse]
  rw [cons] at groups fill ⊢
  simp only [blanks, List.head?_cons, Option.some.injEq, other '{' rfl, other '-' rfl, other ':' rfl, other '*' rfl,
    decide_false, Bool.false_eq_true, if_false, false_and, or_self, reduceCtorEq, fill, groups, whole, ne_eq,
    not_true_eq_false, finish]

theorem guid_parse_written : vscpGuidParse (writeGuidToString guid) = ⟨true, guid, some []⟩ := by
  have length : guid.toList.length = 16 := by simp
  obtain ⟨some, flat⟩ := single_runs guid.toList
  have written : writeGuidToString guid = hexRuns ':' (guid.toList.map fun byte => [byte]) := hex_groups_runs guid.toList
  have text : (writeGuidToString guid).takeWhile (· ≠ '\x00') = writeGuidToString guid := by
    apply marked_text_solid
    intro letter inside
    rcases hex_groups_letters guid.toList letter inside with digit | rfl
    · exact .inl digit
    · exact .inr List.mem_cons_self
  rw [vscpGuidParse, text]
  rw [written, guid_parse_runs _ ':' (.inl rfl) _ some (by rw [flat, length]) (by rw [List.length_map, length]), flat,
    leading_whole]

theorem guid_from_written : guidFromString (writeGuidToString guid) = guid := by
  rw [guidFromString, guid_parse_written]

example : guidFromString ['1', '1', ':', ':', '2', '2', '3', '3'] =
    #v[0x11, 0, 0, 0, 0, 0, 0, 0, 0, 0, 0, 0, 0, 0, 0x22, 0x33] := by decide

end Vscp
