import Vscp.EventFrame
import Vscp.TextReply
import Vscp.Lib.NumberText

set_option autoImplicit false

namespace Vscp

open NumberText
open RemoteTcp (Text isSpace trim split)

def makeLower (text : Text) : Text := text.map Char.toLower

-- A sign and a base prefix anywhere in the text decide the base, but it is always the first
-- two letters that are skipped.
def readStringValue (strval : Text) : Int :=
  let str := trim (makeLower strval)
  let number :=
    if ['0', 'x'] <:+: str then stoInteger isSpace 64 16 (str.drop 2)
    else if ['0', 'o'] <:+: str then stoInteger isSpace 64 8 (str.drop 2)
    else if ['0', 'b'] <:+: str then stoInteger isSpace 64 2 (str.drop 2)
    else stoInteger isSpace 64 10 str
  match number with
  | some (value, _) => value
  | none => 0

-- The numbers of an ISO date in their order, as far as std::stoi gets.
def isoNumbers : Nat → Text → List Int
  | 0, _ => []
  | count + 1, isodt =>
      match stoInteger isSpace 32 10 isodt with
      | none => []
      | some (number, []) => [number]
      | some (number, _ :: rest) => number :: isoNumbers count rest

-- A struct tm; what the text does not reach stays zero.
structure BrokenTime where
  tmYear : Int
  tmMon : Int
  tmMday : Int
  tmHour : Int
  tmMin : Int
  tmSec : Int

def BrokenTime.seconds (tm : BrokenTime) : Int := timegm tm.tmYear tm.tmMon tm.tmMday tm.tmHour tm.tmMin tm.tmSec

-- tm_mon counts from zero, but gets the month of the text as it stands there.
def parseIsoCombined (dt : Text) : BrokenTime :=
  match isoNumbers 6 (dt.takeWhile (· ≠ '\x00')) with
  | [] => ⟨0, 0, 0, 0, 0, 0⟩
  | year :: rest => ⟨year - 1900, rest.getD 0 0, rest.getD 1 0, rest.getD 2 0, rest.getD 3 0, rest.getD 4 0⟩

def guidByte (token : Text) : UInt8 :=
  match stoInteger isSpace 64 16 token with
  | some (value, _) => UInt8.ofInt value
  | none => 0

def setEventGuidFromString (guid : Guid) (strGuid : Text) : Guid :=
  let str := trim strGuid
  if str = [] ∨ str = ['-'] then Vector.replicate 16 0
  else
    let tokens := split strGuid ':'
    Vector.ofFn fun i =>
      match tokens[i.val]? with
      | some token => guidByte token
      | none => guid.get i

def writeGuidToString (guid : Guid) : Text :=
  List.intercalate [':'] (guid.toList.map fun byte => upperHex 2 byte.toNat)

def dataLetters (decimalNumbers : Bool) (byte : UInt8) : Text :=
  if decimalNumbers then decimal byte.toNat else ['0', 'x'] ++ upperHex 2 byte.toNat

def writeDataWithSizeToString (data : Bytes) (useHtmlBreak breakLines decimalNumbers : Bool) : Text :=
  let strBreak := if useHtmlBreak then ['<', 'b', 'r', '>'] else ['\r', '\n']
  data.zipIdx.flatMap fun entry =>
    dataLetters decimalNumbers entry.1 ++ (if entry.2 + 1 < data.length then [','] else []) ++
      (if breakLines ∧ (entry.2 + 1) % 8 = 0 then strBreak else [])

def writeDataToString (pev : VscpEvent) (useHtmlBreak breakLines : Bool) : Option Text :=
  if pev.pdata = none then none else some (writeDataWithSizeToString pev.dataBytes useHtmlBreak breakLines false)

def convertEventToString (pev : VscpEvent) : Text :=
  let head := (pev.head &&& ~~~frameVersionMask) ||| frameVersionUnixNs
  let str := decimal head.toNat ++ [','] ++ decimal pev.vscpClass.toNat ++ [','] ++ decimal pev.vscpType.toNat ++ [','] ++
    decimal pev.obid.toNat ++ [',', ','] ++ decimal (eventTimestampNs pev).toNat ++ [',']
  let str := str ++ writeGuidToString pev.guid
  if pev.sizeData ≠ 0 then str ++ [','] ++ (writeDataToString pev false false).getD [] else str

-- An eventEx with more than 512 bytes leaves the event that is written uninitialised.
def convertEventExToString (pex : VscpEventEx) : Option Text :=
  (convertEventExToEvent pex).map convertEventToString

def textTimestamp (clock : Clock) (strDatetime : Text) (timestampValue : UInt64) : UInt64 :=
  if strDatetime ≠ [] then
    let ns := UInt64.ofInt (parseIsoCombined strDatetime).seconds * 1000000000
    if 0 < timestampValue ∧ timestampValue < 1000000000 then ns + timestampValue * 1000 else ns
  else if 0 < timestampValue then timestampValue
  else clock.makeTimeStampNs

-- The event is given up by every caller when false comes back, so what is left in it then is not modelled.
def convertStringToEvent (clock : Clock) (pev : VscpEvent) (strEvent : Text) : Option VscpEvent :=
  match split strEvent ',' with
  | head :: vscpClass :: vscpType :: obid :: datetime :: timestamp :: guid :: data =>
      if data.length > maxData then none
      else
        let bytes := data.map fun token => UInt8.ofInt (readStringValue token)
        some { pev with
          head := (UInt16.ofInt (readStringValue head) &&& ~~~frameVersionMask) ||| frameVersionUnixNs
          vscpClass := UInt16.ofInt (readStringValue vscpClass)
          vscpType := UInt16.ofInt (readStringValue vscpType)
          obid := UInt32.ofInt (readStringValue obid)
          timestampNs := textTimestamp clock (trim datetime) (strtoull isSpace 0 (trim timestamp))
          year := 0xffff
          month := 0xff
          guid := setEventGuidFromString pev.guid guid
          sizeData := UInt16.ofNat bytes.length
          pdata := if bytes = [] then none else some bytes }
  | _ => none

def emptyEvent : VscpEvent := ⟨0, 0, 0, 0, 0, 0, 0, Vector.replicate 16 0, 0, none, 0⟩

def convertStringToEventEx (clock : Clock) (pex : VscpEventEx) (strEvent : Text) : Option VscpEventEx :=
  (convertStringToEvent clock emptyEvent strEvent).bind (convertEventToEventEx pex)

theorem digit_not_space (letter : Char) (digit : (digitValue letter).isSome) : isSpace letter = false := by
  have range := digit_range letter digit
  have notBlank : letter ≠ ' ' := digit_not_mark letter ' ' digit rfl
  have notControl : ¬ ('\t' ≤ letter ∧ letter ≤ '\r') := by
    rintro ⟨_, low⟩
    have bound : letter.toNat ≤ 13 := Char.le_def.mp low
    omega
  simp [isSpace, notBlank, notControl]

theorem base_digit_not_space (base : Nat) (letter : Char) (digit : isDigitOf base letter = true) : isSpace letter = false := by
  obtain ⟨value, read, _⟩ := digit_of_base base letter digit
  exact digit_not_space letter (by rw [read]; rfl)

variable (text : Text)

theorem trim_unspaced (unspaced : ∀ letter ∈ text, isSpace letter = false) : trim text = text := by
  have front : text.dropWhile isSpace = text := by
    cases text with
    | nil => rfl
    | cons letter text =>
        rw [List.dropWhile_cons, unspaced letter List.mem_cons_self, if_neg Bool.false_ne_true]
  have back : text.rdropWhile isSpace = text := by
    rcases List.eq_nil_or_concat text with rfl | ⟨init, last, rfl⟩
    · rfl
    · rw [List.concat_eq_append, List.rdropWhile_concat_neg]
      simp [unspaced last (by simp)]
  rw [trim, front, back]

theorem pair_absent (first second : Char) (text : Text) (absent : second ∉ text) : ¬ [first, second] <:+: text := by
  intro inside
  exact absent (inside.subset (by simp))

theorem decimal_value_read (value : Nat) :
    readStringValue (decimal value) = ((stoInteger isSpace 64 10 (decimal value)).map Prod.fst).getD 0 := by
  have digits := decimal_digits value
  have lowered : makeLower (decimal value) = decimal value := written_lowered 10 value (by omega) (by omega)
  have trimmed := trim_unspaced (decimal value) fun letter member => base_digit_not_space 10 letter (digits letter member)
  have absent : ∀ letter, isDigitOf 10 letter = false → letter ∉ decimal value := by
    intro letter foreign member
    rw [digits letter member] at foreign
    exact Bool.noConfusion foreign
  simp only [readStringValue, lowered, trimmed, if_neg (pair_absent '0' 'x' _ (absent 'x' rfl)),
    if_neg (pair_absent '0' 'o' _ (absent 'o' rfl)), if_neg (pair_absent '0' 'b' _ (absent 'b' rfl))]
  cases stoInteger isSpace 64 10 (decimal value) <;> rfl

theorem read_decimal_value (value : Nat) (small : value < 2 ^ 63) : readStringValue (decimal value) = value := by
  have read := sto_integer_in_base isSpace digit_not_space 64 10 (decimal value) (by omega) (by omega)
    (decimal_nonempty value) (decimal_digits value) (by rw [decimal_value]; exact small)
  rw [decimal_value_read, read, decimal_value]
  rfl

theorem read_decimal_large (value : Nat) (large : 2 ^ 63 ≤ value) : readStringValue (decimal value) = 0 := by
  have past : ¬ (value : Int) < 2 ^ 63 := by
    have high : ((2 ^ 63 : Nat) : Int) ≤ value := by exact_mod_cast large
    omega
  rw [decimal_value_read, stoInteger, read_in_base isSpace digit_not_space 10 (decimal value) (by omega) (by omega)
    (decimal_nonempty value) (decimal_digits value), decimal_value, Option.filter_some,
    if_neg (by simp only [decide_eq_true_eq]; exact fun both => past both.2)]
  rfl

variable (width value : Nat)

theorem hex_text_unspaced : ∀ letter ∈ ['0', 'x'] ++ lowerHex width value, isSpace letter = false := by
  intro letter member
  rcases List.mem_append.mp member with lead | digit
  · simp only [List.mem_cons, List.not_mem_nil, or_false] at lead
    rcases lead with rfl | rfl
    · exact digit_not_space '0' rfl
    · exact digit_not_space 'x' rfl
  · exact base_digit_not_space 16 letter (lower_hex_digits width value letter digit)

theorem hex_text_lowered :
    makeLower (['0', 'x'] ++ lowerHex width value) = ['0', 'x'] ++ lowerHex width value := by
  rw [makeLower, List.map_append, lower_hex_lowered]
  rfl

theorem read_hex_value (small : value < 2 ^ 63)
    (lowered : makeLower text = ['0', 'x'] ++ lowerHex width value) : readStringValue text = value := by
  have trimmed := trim_unspaced _ (hex_text_unspaced width value)
  have marked : ['0', 'x'] <:+: ['0', 'x'] ++ lowerHex width value := (List.prefix_append _ _).isInfix
  have read := sto_integer_in_base isSpace digit_not_space 64 16 (lowerHex width value) (by omega) (by omega)
    (lower_hex_nonempty width value) (lower_hex_digits width value) (by rw [lower_hex_value]; simpa using small)
  rw [lower_hex_value] at read
  simp only [readStringValue, lowered, trimmed, if_pos marked]
  exact read ▸ rfl

theorem read_hex_overflow (large : 2 ^ 63 ≤ value) :
    readStringValue (['0', 'x'] ++ lowerHex width value) = 0 := by
  have trimmed := trim_unspaced _ (hex_text_unspaced width value)
  have marked : ['0', 'x'] <:+: ['0', 'x'] ++ lowerHex width value := (List.prefix_append _ _).isInfix
  have thrown : stoInteger isSpace 64 16 (lowerHex width value) = none := by
    have outside : ¬ ((-2 ^ (64 - 1) : Int) ≤ (value : Int) ∧ (value : Int) < 2 ^ (64 - 1)) := by omega
    rw [stoInteger, read_in_base isSpace digit_not_space 16 _ (by omega) (by omega) (lower_hex_nonempty width value)
      (lower_hex_digits width value), lower_hex_value, Option.filter_some, if_neg]
    intro inside
    exact outside (of_decide_eq_true inside)
  simp only [readStringValue, hex_text_lowered, trimmed, if_pos marked]
  exact thrown ▸ rfl

variable (decimalNumbers : Bool) (byte : UInt8)

theorem read_data_letters :
    UInt8.ofInt (readStringValue (dataLetters decimalNumbers byte)) = byte := by
  have small : byte.toNat < 2 ^ 63 := Nat.lt_trans byte.toNat_lt (by decide)
  cases decimalNumbers with
  | false =>
      have lowered : makeLower (dataLetters false byte) = ['0', 'x'] ++ lowerHex 2 byte.toNat := by
        rw [dataLetters, if_neg Bool.false_ne_true, makeLower, List.map_append, upper_hex_lowered]
        rfl
      rw [read_hex_value _ 2 byte.toNat small lowered, word8_of_cast, UInt8.ofNat_toNat]
  | true =>
      rw [dataLetters, if_pos rfl, read_decimal_value byte.toNat small, word8_of_cast, UInt8.ofNat_toNat]

theorem guid_byte_reads : guidByte (upperHex 2 byte.toNat) = byte := by
  have small : byte.toNat < 2 ^ 63 := Nat.lt_trans byte.toNat_lt (by decide)
  have read := sto_integer_in_base isSpace digit_not_space 64 16 (upperHex 2 byte.toNat) (by omega) (by omega)
    (upper_hex_nonempty 2 byte.toNat) (upper_hex_digits 2 byte.toNat) (by rw [upper_hex_value]; exact small)
  rw [upper_hex_value] at read
  simp only [guidByte, read]
  rw [word8_of_cast, UInt8.ofNat_toNat]

variable (delimiter : Char)

theorem split_joined (first : Text) (rest : List Text)
    (single : ∀ part ∈ first :: rest, delimiter ∉ part) (someText : first ≠ [] ∨ rest ≠ []) :
    split (List.intercalate [delimiter] (first :: rest)) delimiter = first :: rest := by
  have nonempty : List.intercalate [delimiter] (first :: rest) ≠ [] := by
    intro empty
    cases rest with
    | nil =>
        rw [List.intercalate_singleton] at empty
        rcases someText with text | more
        · exact text empty
        · exact more rfl
    | cons second others =>
        rw [List.intercalate_cons_cons] at empty
        simp at empty
  rw [split, if_neg nonempty, List.splitOn_intercalate delimiter single (List.cons_ne_nil _ _)]

theorem joined_letters (good : Char → Prop) (delimiter : Char) (parts : List Text) (separates : good delimiter)
    (each : ∀ part ∈ parts, ∀ letter ∈ part, good letter) :
    ∀ letter ∈ List.intercalate [delimiter] parts, good letter := by
  induction parts with
  | nil =>
      intro letter member
      exact absurd member List.not_mem_nil
  | cons first rest ih =>
      intro letter member
      have later := ih fun part inside => each part (List.mem_cons_of_mem first inside)
      by_cases last : rest = []
      · rw [last, List.intercalate_singleton] at member
        exact each first List.mem_cons_self letter member
      · rw [List.intercalate_cons_of_ne_nil last] at member
        rcases List.mem_append.mp member with front | back
        · rcases List.mem_append.mp front with own | mark
          · exact each first List.mem_cons_self letter own
          · rw [List.mem_singleton.mp mark]
            exact separates
        · exact later letter back

theorem joined_measure (measure : Text → Nat) (adds : ∀ front back, measure (front ++ back) = measure front + measure back)
    (separator : Text) (parts : List Text) (some' : parts ≠ []) :
    measure (List.intercalate separator parts) + measure separator =
      (parts.map measure).sum + parts.length * measure separator := by
  induction parts with
  | nil => exact absurd rfl some'
  | cons first rest ih =>
      rw [List.map_cons, List.sum_cons, List.length_cons, Nat.add_mul, Nat.one_mul]
      by_cases last : rest = []
      · rw [last, List.intercalate_singleton, List.map_nil, List.sum_nil, List.length_nil]
        omega
      · have later := ih last
        rw [List.intercalate_cons_of_ne_nil last, adds, adds]
        omega

theorem joined_length (parts : List Text) (bound : Nat) (each : ∀ part ∈ parts, part.length ≤ bound) :
    (List.intercalate [delimiter] parts).length ≤ parts.length * (bound + 1) := by
  by_cases empty : parts = []
  · rw [empty]
    exact Nat.zero_le _
  · have total := joined_measure List.length (fun _ _ => List.length_append) [delimiter] parts empty
    have sum := List.sum_le_card_nsmul (parts.map List.length) bound (List.forall_mem_map.mpr each)
    rw [List.length_map, smul_eq_mul] at sum
    rw [List.length_singleton] at total
    rw [Nat.mul_add]
    omega

theorem guid_text_round_trip (old guid : Guid) : setEventGuidFromString old (writeGuidToString guid) = guid := by
  have digits : ∀ part ∈ guid.toList.map (fun byte => upperHex 2 byte.toNat), ∀ letter ∈ part,
      isDigitOf 16 letter = true := by
    intro part member letter inside
    obtain ⟨byte, _, rfl⟩ := List.mem_map.mp member
    exact upper_hex_digits 2 byte.toNat letter inside
  have token : ∀ i : Fin 16, (guid.toList.map fun byte => upperHex 2 byte.toNat)[i.val]? =
      some (upperHex 2 (guid.get i).toNat) := by
    intro i
    have inside : i.val < guid.toList.length := by simp
    rw [List.getElem?_map, List.getElem?_eq_getElem inside, Option.map_some]
    rfl
  have length : (guid.toList.map fun byte => upperHex 2 byte.toNat).length = 16 := by simp
  unfold writeGuidToString
  generalize (guid.toList.map fun byte => upperHex 2 byte.toNat) = parts at digits token length
  match parts, length with
  | first :: second :: rest, length =>
      have single : ∀ part ∈ first :: second :: rest, ':' ∉ part :=
        fun part member colon => Bool.noConfusion (digits part member ':' colon)
      have trimmed := trim_unspaced _ (joined_letters (isSpace · = false) ':' (first :: second :: rest) rfl
        fun part member letter inside => base_digit_not_space 16 letter (digits part member letter inside))
      have marked : ':' ∈ List.intercalate [':'] (first :: second :: rest) := by
        rw [List.intercalate_cons_cons]
        simp
      have given : ¬ (List.intercalate [':'] (first :: second :: rest) = [] ∨
          List.intercalate [':'] (first :: second :: rest) = ['-']) := by
        rintro (empty | dash)
        · rw [empty] at marked
          exact absurd marked List.not_mem_nil
        · rw [dash] at marked
          exact absurd marked (by decide)
      simp only [setEventGuidFromString, trimmed, if_neg given, split_joined ':' first (second :: rest) single
        (.inr (List.cons_ne_nil _ _))]
      apply Vector.ext
      intro i bound
      rw [Vector.getElem_ofFn, token ⟨i, bound⟩]
      exact guid_byte_reads (guid.get ⟨i, bound⟩)

variable (data : Bytes)

theorem data_joined (start total : Nat) (ends : start + data.length = total) :
    ((data.zipIdx start).flatMap fun entry =>
        dataLetters decimalNumbers entry.1 ++ (if entry.2 + 1 < total then [','] else [])) =
      List.intercalate [','] (data.map (dataLetters decimalNumbers)) := by
  induction data generalizing start with
  | nil => rfl
  | cons byte data ih =>
      rw [List.length_cons] at ends
      have later := ih (start + 1) (by omega)
      rw [List.zipIdx_cons, List.flatMap_cons, later, List.map_cons]
      by_cases last : data = []
      · have final : ¬ start + 1 < total := by
          rw [last, List.length_nil] at ends
          omega
        rw [last, if_neg final]
        simp
      · have more : start + 1 < total := by
          have positive := List.length_pos_iff.mpr last
          omega
        have others : data.map (dataLetters decimalNumbers) ≠ [] := by simpa using last
        rw [if_pos more, List.intercalate_cons_of_ne_nil others]

theorem write_data_joined (useHtmlBreak decimalNumbers : Bool) :
    writeDataWithSizeToString data useHtmlBreak false decimalNumbers =
      List.intercalate [','] (data.map (dataLetters decimalNumbers)) := by
  simp only [writeDataWithSizeToString, Bool.false_eq_true, false_and, if_false, List.append_nil]
  exact data_joined decimalNumbers data 0 data.length (Nat.zero_add _)

def eventFields (pev : VscpEvent) : List Text :=
  [decimal ((pev.head &&& ~~~frameVersionMask) ||| frameVersionUnixNs).toNat, decimal pev.vscpClass.toNat,
    decimal pev.vscpType.toNat, decimal pev.obid.toNat, [], decimal (eventTimestampNs pev).toNat,
    writeGuidToString pev.guid] ++ pev.dataBytes.map (dataLetters false)

variable (pev : VscpEvent)

theorem event_text_fields (present : pev.sizeData ≠ 0 → pev.pdata ≠ none) :
    convertEventToString pev = List.intercalate [','] (eventFields pev) := by
  by_cases empty : pev.sizeData = 0
  · have noData : pev.dataBytes = [] := by simp [VscpEvent.dataBytes, empty]
    simp [convertEventToString, eventFields, empty, noData]
  · have someData : pev.dataBytes ≠ [] := by
      intro none
      have length := congrArg List.length none
      simp only [VscpEvent.dataBytes, List.length_map, List.length_range, List.length_nil] at length
      exact empty (UInt16.toNat_inj.mp length)
    have written : writeDataToString pev false false = some (List.intercalate [','] (pev.dataBytes.map (dataLetters false))) := by
      rw [writeDataToString, if_neg (present empty), write_data_joined]
    have others : pev.dataBytes.map (dataLetters false) ≠ [] := by simpa using someData
    obtain ⟨first, rest, split⟩ := List.exists_cons_of_ne_nil others
    simp only [convertEventToString, if_pos empty, written, Option.getD_some, eventFields, split, List.cons_append,
      List.nil_append, List.intercalate_cons_cons, List.append_assoc]

theorem data_no_comma : ',' ∉ dataLetters false byte := by
  have hex : ',' ∉ upperHex 2 byte.toNat := fun comma => Bool.noConfusion (upper_hex_digits 2 byte.toNat ',' comma)
  simp [dataLetters, hex]

theorem field_letters : ∀ field ∈ eventFields pev, ',' ∉ field := by
  have plain : ∀ value : Nat, ',' ∉ decimal value :=
    fun value comma => Bool.noConfusion (decimal_digits value ',' comma)
  have guid : ',' ∉ writeGuidToString pev.guid := by
    intro comma
    have letters := joined_letters (fun letter => isDigitOf 16 letter = true ∨ letter = ':') ':'
      (pev.guid.toList.map fun byte => upperHex 2 byte.toNat) (.inr rfl)
      (by
        intro part member letter inside
        obtain ⟨byte, _, rfl⟩ := List.mem_map.mp member
        exact .inl (upper_hex_digits 2 byte.toNat letter inside))
    rcases letters ',' comma with digit | colon
    · exact Bool.noConfusion digit
    · exact absurd colon (by decide)
  intro field member
  rcases List.mem_append.mp member with lead | payload
  · simp only [List.mem_cons, List.not_mem_nil, or_false] at lead
    rcases lead with rfl | rfl | rfl | rfl | rfl | rfl | rfl
    · exact plain _
    · exact plain _
    · exact plain _
    · exact plain _
    · exact List.not_mem_nil
    · exact plain _
    · exact guid
  · obtain ⟨byte, _, rfl⟩ := List.mem_map.mp payload
    exact data_no_comma byte

structure SameEvent (sent read : VscpEvent) : Prop where
  head : read.head = sent.head
  vscpClass : read.vscpClass = sent.vscpClass
  vscpType : read.vscpType = sent.vscpType
  obid : read.obid = sent.obid
  timestampNs : read.timestampNs = sent.timestampNs
  guid : read.guid = sent.guid
  sizeData : read.sizeData = sent.sizeData
  data : read.pdata.getD [] = sent.pdata.getD []

structure SameEventEx (sent read : VscpEventEx) : Prop where
  head : read.head = sent.head
  vscpClass : read.vscpClass = sent.vscpClass
  vscpType : read.vscpType = sent.vscpType
  obid : read.obid = sent.obid
  timestampNs : read.timestampNs = sent.timestampNs
  guid : read.guid = sent.guid
  sizeData : read.sizeData = sent.sizeData
  data : read.data.toList.take read.sizeData.toNat = sent.data.toList.take sent.sizeData.toNat

-- An event in the form the texts carry whole: nanoseconds since the epoch and its data at hand.
structure UnixEvent (pev : VscpEvent) : Prop where
  version : frameVersion pev.head = frameVersionUnixNs
  dated : pev.timestampNs ≠ 0
  size : pev.sizeData.toNat ≤ maxData
  whole : (pev.pdata.getD []).length = pev.sizeData.toNat

structure UnixEventEx (pex : VscpEventEx) : Prop where
  version : frameVersion pex.head = frameVersionUnixNs
  dated : pex.timestampNs ≠ 0
  size : pex.sizeData.toNat ≤ maxData

theorem unix_present (unix : UnixEvent pev) : pev.sizeData ≠ 0 → pev.pdata ≠ none := by
  intro size missing
  have whole := unix.whole
  rw [missing] at whole
  exact size (UInt16.toNat_inj.mp whole.symm)

theorem textual_fields (unix : UnixEvent pev) :
    split (convertEventToString pev) ',' = eventFields pev := by
  rw [event_text_fields pev (unix_present pev unix)]
  exact split_joined ',' _ _ (field_letters pev) (.inl (decimal_nonempty _))

theorem read_word16 (value : UInt16) : UInt16.ofInt (readStringValue (decimal value.toNat)) = value := by
  rw [read_decimal_value _ (Nat.lt_trans value.toNat_lt (by decide)), word16_of_cast, UInt16.ofNat_toNat]

theorem read_word32 (value : UInt32) : UInt32.ofInt (readStringValue (decimal value.toNat)) = value := by
  rw [read_decimal_value _ (Nat.lt_trans value.toNat_lt (by decide)), word32_of_cast, UInt32.ofNat_toNat]

theorem read_data_list :
    (data.map (dataLetters decimalNumbers)).map (fun token => UInt8.ofInt (readStringValue token)) = data := by
  rw [List.map_map]
  exact (List.map_congr_left fun byte _ => read_data_letters decimalNumbers byte).trans (List.map_id data)

variable (clock : Clock)

theorem read_timestamp (ns : UInt64) (dated : ns ≠ 0) :
    textTimestamp clock (trim []) (strtoull isSpace 0 (trim (decimal ns.toNat))) = ns := by
  have digits := decimal_digits ns.toNat
  have positive : ns.toNat ≠ 0 := fun zero => dated (UInt64.toNat_inj.mp zero)
  have trimmed := trim_unspaced (decimal ns.toNat) fun letter member => base_digit_not_space 10 letter (digits letter member)
  have read := strtoull_any_base isSpace digit_not_space (decimal ns.toNat) (decimal_nonempty _) digits
    (decimal_leading _ positive) (by rw [decimal_value]; exact ns.toNat_lt)
  rw [decimal_value, UInt64.ofNat_toNat] at read
  have later : 0 < ns := UInt64.lt_iff_toNat_lt.mpr (Nat.pos_of_ne_zero positive)
  rw [trimmed, read, textTimestamp, if_neg (fun some => some rfl), if_pos later]

theorem event_text_reads (old pev : VscpEvent) (unix : UnixEvent pev) :
    ∃ read, convertStringToEvent clock old (convertEventToString pev) = some read ∧ SameEvent pev read := by
  have head := written_head pev.head unix.version
  have bytes := data_bytes_exact pev unix.whole
  have length : pev.dataBytes.length = pev.sizeData.toNat := data_bytes_length pev
  have room : ¬ (pev.dataBytes.map (dataLetters false)).length > maxData := by
    rw [List.length_map, length]
    exact Nat.not_lt.mpr unix.size
  have ns : eventTimestampNs pev = pev.timestampNs := by rw [eventTimestampNs, if_pos unix.version]
  rw [convertStringToEvent, textual_fields pev unix]
  simp only [eventFields, List.cons_append, List.nil_append, if_neg room, read_word16, read_word32, read_data_list, ns,
    read_timestamp clock pev.timestampNs unix.dated, guid_text_round_trip]
  refine ⟨_, rfl, ?_⟩
  constructor
  · rw [head, head]
  · rfl
  · rfl
  · rfl
  · rfl
  · rfl
  · rw [length, UInt16.ofNat_toNat]
  · rw [← bytes]
    split
    · rename_i empty
      exact empty.symm
    · rfl

structure SameContent (pev : VscpEvent) (pex : VscpEventEx) : Prop where
  head : pex.head = pev.head
  vscpClass : pex.vscpClass = pev.vscpClass
  vscpType : pex.vscpType = pev.vscpType
  obid : pex.obid = pev.obid
  timestampNs : pex.timestampNs = pev.timestampNs
  guid : pex.guid = pev.guid
  sizeData : pex.sizeData = pev.sizeData
  data : pex.data.toList.take pex.sizeData.toNat = pev.pdata.getD []

theorem ex_to_event_content (pex : VscpEventEx) (unix : UnixEventEx pex) :
    ∃ pev, convertEventExToEvent pex = some pev ∧ UnixEvent pev ∧ SameContent pev pex := by
  have bound : pex.sizeData.toNat ≤ 512 := unix.size
  have fits : ¬ pex.sizeData.toNat > maxData := Nat.not_lt.mpr unix.size
  have data : (if pex.sizeData = 0 then none else some (pex.data.toList.take pex.sizeData.toNat)).getD [] =
      pex.data.toList.take pex.sizeData.toNat := by
    split
    · rename_i empty
      rw [empty]
      rfl
    · rfl
  have length : (pex.data.toList.take pex.sizeData.toNat).length = pex.sizeData.toNat := by
    rw [List.length_take, Vector.length_toList]
    omega
  refine ⟨_, if_neg fits, ?_, ?_⟩
  · exact ⟨unix.version, unix.dated, unix.size, by rw [data, length]⟩
  · exact ⟨rfl, rfl, rfl, rfl, rfl, rfl, rfl, data.symm⟩

theorem event_to_ex_content (old : VscpEventEx) (pev : VscpEvent) (unix : UnixEvent pev) :
    ∃ pex, convertEventToEventEx old pev = some pex ∧ SameContent pev pex := by
  have present := unix_present pev unix
  have fits : ¬ (pev.sizeData.toNat > maxData ∨ (pev.sizeData ≠ 0 ∧ pev.pdata = none)) := by
    rintro (long | ⟨size, missing⟩)
    · exact absurd unix.size (Nat.not_le.mpr long)
    · exact present size missing
  have data : (overlay (pev.pdata.getD []) pev.sizeData.toNat old.data).toList.take pev.sizeData.toNat =
      pev.pdata.getD [] := by
    rw [← unix.whole]
    exact overlay_front _ (by rw [unix.whole]; exact unix.size) old.data
  exact ⟨_, if_neg fits, rfl, rfl, rfl, rfl, rfl, rfl, rfl, data⟩

variable (sent read : VscpEvent)

theorem same_event_unix (unix : UnixEvent sent) (same : SameEvent sent read) : UnixEvent read := by
  constructor
  · rw [same.head]
    exact unix.version
  · rw [same.timestampNs]
    exact unix.dated
  · rw [same.sizeData]
    exact unix.size
  · rw [same.data, same.sizeData]
    exact unix.whole

theorem same_content_ex (sentEx readEx : VscpEventEx) (out : SameContent sent sentEx)
    (same : SameEvent sent read) (back : SameContent read readEx) : SameEventEx sentEx readEx := by
  constructor
  · rw [back.head, same.head, out.head]
  · rw [back.vscpClass, same.vscpClass, out.vscpClass]
  · rw [back.vscpType, same.vscpType, out.vscpType]
  · rw [back.obid, same.obid, out.obid]
  · rw [back.timestampNs, same.timestampNs, out.timestampNs]
  · rw [back.guid, same.guid, out.guid]
  · rw [back.sizeData, same.sizeData, out.sizeData]
  · rw [back.data, same.data, out.data]

theorem event_ex_text_reads (old pex : VscpEventEx) (unix : UnixEventEx pex) :
    ∃ text read, convertEventExToString pex = some text ∧ convertStringToEventEx clock old text = some read ∧
      SameEventEx pex read := by
  obtain ⟨pev, converted, pevUnix, out⟩ := ex_to_event_content pex unix
  obtain ⟨read, parsed, same⟩ := event_text_reads clock emptyEvent pev pevUnix
  obtain ⟨readEx, packed, back⟩ := event_to_ex_content old read (same_event_unix pev read pevUnix same)
  refine ⟨convertEventToString pev, readEx, ?_, ?_, same_content_ex pev read pex readEx out same back⟩
  · rw [convertEventExToString, converted, Option.map_some]
  · rw [convertStringToEventEx, parsed, Option.bind_some, packed]

theorem event_text_round_trip (clock : Clock) :
    (∀ old pev, UnixEvent pev →
      ∃ read, convertStringToEvent clock old (convertEventToString pev) = some read ∧ SameEvent pev read) ∧
    (∀ old pex, UnixEventEx pex →
      ∃ text read, convertEventExToString pex = some text ∧ convertStringToEventEx clock old text = some read ∧
        SameEventEx pex read) :=
  ⟨event_text_reads clock, event_ex_text_reads clock⟩

def unixEventEx : VscpEventEx := { emptyEventEx with head := 0x0120, timestampNs := 5, sizeData := 2 }

theorem event_text_round_trip_example :
    (∃ read, convertStringToEvent exampleClock emptyEvent (convertEventToString exampleEvent) = some read ∧
      SameEvent exampleEvent read) ∧
    (∃ text read, convertEventExToString unixEventEx = some text ∧
      convertStringToEventEx exampleClock emptyEventEx text = some read ∧ SameEventEx unixEventEx read) :=
  ⟨(event_text_round_trip exampleClock).1 emptyEvent exampleEvent ⟨by decide, by decide, by decide, by decide⟩,
    (event_text_round_trip exampleClock).2 emptyEventEx unixEventEx ⟨rfl, by decide, by decide⟩⟩

end Vscp
