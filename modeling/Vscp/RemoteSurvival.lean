import Vscp.RemoteRoundTrip

set_option autoImplicit false

namespace Vscp.Registers

open NumberText
open RemoteTcp (Text split)
open Printf (signedDecimal)
open RegisterPage (holds_after get_reg_held get_reg_registers put_reg_registers get_reg_level put_reg_level
  read_bytes_held write_bytes_held written_value write_bytes_level run_settled value_of_found)

variable (longBits : Nat) (page : RegisterPage) (var : RemoteVariable) (format : UInt8) (text : Text)
    (content : RegisterPage)

variable (offset : UInt32) (value : Value) (byte : UInt8)

theorem read_one (held : page.Holds offset 1)
    (read : (page.readBytes offset 1).1 = [byte]) :
    page.getReg offset = ((byte.toNat : Int), (page.readBytes offset 1).2) := by
  have own : UInt8.ofInt (page.getReg offset).1 = byte := List.head_eq_of_cons_eq read
  have value : page.value offset = byte := by
    rw [get_reg_held page offset held, word8_of_cast, UInt8.ofNat_toNat] at own
    exact own
  refine Prod.ext ?_ rfl
  rw [get_reg_held page offset held, value]

theorem big_endian_one (value : Int) : bigEndianBytes 1 value = [UInt8.ofInt value] := by
  rw [bigEndianBytes, bigEndianBytes, Nat.mul_zero, Int.shiftRight_zero]

variable (fstr : Text)

theorem byte_trip (fits : Fits page var) (size : var.getTypeByteCount.toNat = 1)
    (writes : ∀ text content, Parses text value → writeVariable var text content = content.writeBytes var.offset [byte])
    (own : Parses value.text value)
    (reads : ∀ content : RegisterPage, readVariable longBits var format content =
      printed longBits fstr 32 (content.getReg var.offset).1 (content.getReg var.offset).2) :
    PageRoundTrip longBits page var format value ↔
      ∃ shown, Printf.format longBits fstr [⟨32, (byte.toNat : Int)⟩] = some shown ∧ Parses shown value := by
  refine number_trip longBits page var format value [byte] fstr 32 _ fits size writes own ?_
  intro content held read
  rw [reads, read_one content var.offset byte held read]
  rfl

theorem int8_survives (number : Int8)
    (fits : Fits page var) (type : var.type = .int8) :
    PageRoundTrip longBits page var format (.int8 number) ↔ format ≠ formatDecimal := by
  have low := number.le_toInt
  have high := number.toInt_lt
  have byte : ((UInt8.ofInt number.toInt).toNat : Int) = number.toInt % 256 := by
    simp [UInt8.ofInt]
    omega
  have back : Int8.ofInt (((UInt8.ofInt number.toInt).toNat : Int) % 2 ^ 16) = number := by
    rw [byte, Int8.ofInt_eq_iff_bmod_eq_toInt, Int.emod_eq_of_lt (by omega) (by omega)]
    exact (Int.emod_bmod number.toInt (2 ^ 8)).trans number.toInt_bmod
  have trip := byte_trip longBits page var format (.int8 number) (UInt8.ofInt number.toInt)
    (if format = formatDecimal then ['%', 'h', 'a', 'd'] else ['0', 'x', '%', '0', '2', 'h', 'x']) fits
    (by rw [RemoteVariable.getTypeByteCount, type]; rfl)
    (fun text content parsed => by
      have same : Int8.ofInt (readStringValue text) = number := parsed
      rw [writeVariable, type]
      dsimp only
      rw [same, writeNumber, big_endian_one])
    ((congrArg Int8.ofInt (read_signed_decimal _ (by omega) (by omega))).trans number.ofInt_toInt)
    (fun _ => by rw [readVariable, type])
  rw [trip]
  by_cases decimalFormat : format = formatDecimal
  · refine iff_of_false ?_ (fun other => other decimalFormat)
    rintro ⟨shown, prints, _⟩
    rw [if_pos decimalFormat] at prints
    cases prints
  · rw [if_neg decimalFormat]
    refine iff_of_true ⟨_, Printf.format_hex longBits ['0', 'x'] ['0', '2', 'h'] ⟨true, 2, 1, 0⟩ 32 _ (by decide) rfl rfl
      (.inl rfl), ?_⟩ decimalFormat
    exact hex_kept Int8.ofInt number _ 16 2 back (by omega)

theorem uint8_survives (number : UInt8)
    (fits : Fits page var) (type : var.type = .uint8) : PageRoundTrip longBits page var format (.uint8 number) := by
  have high := number.toNat_lt
  have whole : UInt8.ofInt (number.toNat : Int) = number := by rw [word8_of_cast, UInt8.ofNat_toNat]
  have back : UInt8.ofInt ((number.toNat : Int) % 2 ^ 16) = number := by
    rw [Int.emod_eq_of_lt (by omega) (by omega), whole]
  have trip := byte_trip longBits page var format (.uint8 number) number
    (if format = formatDecimal then ['%', 'h', 'u'] else ['0', 'x', '%', '0', '2', 'h', 'x']) fits
    (by rw [RemoteVariable.getTypeByteCount, type]; rfl)
    (fun text content parsed => by
      have same : UInt8.ofInt (readStringValue text) = number := parsed
      rw [writeVariable, type]
      dsimp only
      rw [same, writeNumber, big_endian_one, whole])
    ((congrArg UInt8.ofInt (read_decimal_value _ (by omega))).trans whole)
    (fun _ => by rw [readVariable, type])
  rw [trip]
  by_cases decimalFormat : format = formatDecimal
  · rw [if_pos decimalFormat]
    exact ⟨_, Printf.format_unsigned longBits [] ['h'] ⟨false, 0, 1, 0⟩ 32 _ (by decide) rfl rfl rfl,
      unsigned_kept UInt8.ofInt number _ 16 back (by omega)⟩
  · rw [if_neg decimalFormat]
    exact ⟨_, Printf.format_hex longBits ['0', 'x'] ['0', '2', 'h'] ⟨true, 2, 1, 0⟩ 32 _ (by decide) rfl rfl (.inl rfl),
      hex_kept UInt8.ofInt number _ 16 2 back (by omega)⟩

theorem undefined_read (undefined : ∀ content, readVariable longBits var format content = none) :
    ¬ PageRoundTrip longBits page var format value := by
  rintro ⟨shown, read, result, _⟩
  rw [undefined] at result
  cases result

variable (count : Nat)

theorem read_bytes_length :
    (page.readBytes offset count).1.length = count := by
  induction count generalizing page offset with
  | zero => rfl
  | succ count ih => rw [RegisterPage.readBytes, List.length_cons, ih]

-- %u takes 32 bits, and is given 64.
theorem uint64_undefined (type : var.type = .uint64) : readVariable longBits var format content = none := by
  rw [readVariable, type]
  dsimp only
  split <;> rfl

-- The third part is looked for behind the three bytes of the buffer.
theorem parts_undefined (buf : Bytes × RegisterPage) (short : buf.1.length = 3) :
    printedParts longBits fstr buf = none := by
  have beyond : buf.1[4]? = none := List.getElem?_eq_none (by omega)
  rw [printedParts, beyond]
  split
  · rename_i absent
    cases absent
  · rfl

theorem date_undefined (type : var.type = .date ∨ var.type = .time) : readVariable longBits var format content = none := by
  have size : var.getTypeByteCount.toNat = 3 := by
    rcases type with date | time
    · rw [RemoteVariable.getTypeByteCount, date]; rfl
    · rw [RemoteVariable.getTypeByteCount, time]; rfl
  have short := read_bytes_length content var.offset var.getTypeByteCount.toNat
  rcases type with date | time
  · rw [readVariable, date]
    exact parts_undefined longBits _ _ (short.trans size)
  · rw [readVariable, time]
    exact parts_undefined longBits _ _ (short.trans size)

def booleanByte (var : RemoteVariable) (old : UInt8) (flag : Bool) : UInt8 :=
  if flag then old ||| ((1 : UInt8) <<< var.getBitPos) else old &&& ~~~((1 : UInt8) <<< var.getBitPos)

theorem boolean_byte_again (old : UInt8) (flag : Bool) :
    booleanByte var (booleanByte var old flag) flag = booleanByte var old flag := by
  cases flag with
  | true => simp only [booleanByte, if_true, UInt8.or_assoc, UInt8.or_self]
  | false => simp only [booleanByte, Bool.false_eq_true, if_false, UInt8.and_assoc, UInt8.and_self]

theorem bit_set : (1 : UInt8) <<< var.getBitPos ≠ 0 := by
  intro zero
  have nat := congrArg UInt8.toNat zero
  have low : var.getBitPos.toNat % 8 < 8 := Nat.mod_lt _ (by omega)
  have power : 2 ^ (var.getBitPos.toNat % 8) < 2 ^ 8 := Nat.pow_lt_pow_right (by omega) low
  have one : (1 : UInt8).toNat = 1 := rfl
  rw [UInt8.toNat_shiftLeft, one, Nat.shiftLeft_eq, Nat.one_mul, Nat.mod_eq_of_lt power] at nat
  exact absurd nat (Nat.pow_pos (by omega)).ne'

theorem boolean_text_injective (first second : Bool) (same : booleanText first = booleanText second) : first = second := by
  revert first second
  decide

variable (flag : Bool)

theorem write_boolean (held : content.Holds var.offset 1)
    (type : var.type = .boolean) :
    (∀ reg : UInt32, (writeVariable var (booleanText flag) content).registers[reg]? =
      if reg = var.offset then some (booleanByte var (content.value var.offset) flag) else content.registers[reg]?) ∧
      (writeVariable var (booleanText flag) content).level = content.level := by
  have read := get_reg_held content var.offset held
  have after := holds_after content (content.getReg var.offset).2 var.offset 1 held (get_reg_level content var.offset)
  have old : UInt8.ofInt (content.getReg var.offset).1 = content.value var.offset := by
    rw [read, word8_of_cast, UInt8.ofNat_toNat]
  have written : writeVariable var (booleanText flag) content =
      ((content.getReg var.offset).2.putReg var.offset (booleanByte var (content.value var.offset) flag)).2 := by
    rw [writeVariable, type]
    dsimp only
    rw [old]
    cases flag with
    | true => rw [if_pos rfl, booleanByte, if_pos rfl]
    | false => rw [if_neg (by decide), if_pos rfl, booleanByte, if_neg Bool.false_ne_true]
  constructor
  · intro reg
    rw [written, put_reg_registers _ _ _ _ after, get_reg_registers content _ _ held]
    by_cases same : reg = var.offset
    · rw [if_pos same, if_pos same]
    · rw [if_neg same, if_neg same, if_neg same]
  · rw [written, put_reg_level, get_reg_level]

theorem boolean_register_held (held : content.Holds var.offset 1) :
    content.Holds (booleanRegister var) 1 := by
  have below : (booleanRegister var).toNat ≤ var.offset.toNat := by
    rw [booleanRegister, UInt32.toNat_and]
    exact Nat.and_le_left
  exact ⟨by have := held.1; omega, fun first => by have := held.2 first; omega⟩

theorem boolean_trip (longBits : Nat) (page : RegisterPage) (var : RemoteVariable) (format : UInt8) (flag : Bool)
    (held : page.Holds var.offset 1) (type : var.type = .boolean) :
    let seen := if booleanRegister var = var.offset then booleanByte var (page.value var.offset) flag
      else page.value (booleanRegister var)
    ∃ read : RegisterPage, readVariable longBits var format (writeVariable var (booleanText flag) page) =
        some (booleanText (seen ≠ 0), read) ∧ read.level = page.level ∧
      ∀ reg : UInt32, read.registers[reg]? =
        if reg = var.offset then some (booleanByte var (page.value var.offset) flag)
        else if reg = booleanRegister var then some (page.value reg) else page.registers[reg]? := by
  intro seen
  obtain ⟨found, level⟩ := write_boolean var page flag held type
  have inside := boolean_register_held var _ (holds_after page _ var.offset 1 held level)
  have shown : (writeVariable var (booleanText flag) page).value (booleanRegister var) = seen := by
    rw [value_of_found, found]
    by_cases same : booleanRegister var = var.offset
    · rw [if_pos same, Option.getD_some]
      exact (if_pos same).symm
    · rw [if_neg same, ← value_of_found]
      exact (if_neg same).symm
  have asked := get_reg_held _ _ inside
  refine ⟨((writeVariable var (booleanText flag) page).getReg (booleanRegister var)).2, ?_, ?_, fun reg => ?_⟩
  · have zero : (seen.toNat : Int) ≠ 0 ↔ seen ≠ 0 := by
      rw [ne_eq, Int.natCast_eq_zero]
      exact not_congr (UInt8.toNat_inj (b := 0))
    have first : ((writeVariable var (booleanText flag) page).getReg (booleanRegister var)).1 = (seen.toNat : Int) := by
      rw [asked, shown]
    rw [readVariable, type]
    show some (booleanText (((writeVariable var (booleanText flag) page).getReg (booleanRegister var)).1 ≠ 0), _) = _
    rw [first]
    simp only [zero]
    rfl
  · rw [get_reg_level, level]
  · rw [get_reg_registers _ _ _ inside, found, shown]
    by_cases own : reg = var.offset
    · rw [if_pos own, if_pos own]
      by_cases same : reg = booleanRegister var
      · rw [if_pos same]
        exact congrArg some (if_pos (same.symm.trans own))
      · rw [if_neg same]
    · rw [if_neg own, if_neg own]
      by_cases same : reg = booleanRegister var
      · rw [if_pos same, if_pos same]
        have apart : booleanRegister var ≠ var.offset := fun equal => own (same.trans equal)
        rw [same]
        exact congrArg some (if_neg apart)
      · rw [if_neg same, if_neg same]

theorem boolean_survives (fits : Fits page var) (type : var.type = .boolean) :
    PageRoundTrip longBits page var format (.boolean flag) ↔ Survives longBits page var format (.boolean flag) := by
  have size : var.getTypeByteCount.toNat = 1 := by rw [RemoteVariable.getTypeByteCount, type]; rfl
  have held : page.Holds var.offset 1 := size ▸ fits
  obtain ⟨read, reads, level, found⟩ := boolean_trip longBits page var format flag held type
  have again : ∀ reg : UInt32, (writeVariable var (booleanText flag) read).registers[reg]? = read.registers[reg]? := by
    intro reg
    have old : read.value var.offset = booleanByte var (page.value var.offset) flag := by
      rw [value_of_found, found, if_pos rfl, Option.getD_some]
    rw [(write_boolean var read flag (holds_after page read var.offset 1 held level) type).1, old, boolean_byte_again]
    by_cases own : reg = var.offset
    · rw [if_pos own, found, if_pos own]
    · rw [if_neg own]
  -- The text is right, and a register that is only looked at was there before.
  have trip : PageRoundTrip longBits page var format (.boolean flag) ↔
      decide ((if booleanRegister var = var.offset then booleanByte var (page.value var.offset) flag
        else page.value (booleanRegister var)) ≠ 0) = flag ∧
        (booleanRegister var ≠ var.offset → (page.registers[booleanRegister var]?).isSome) := by
    constructor
    · rintro ⟨shown, after, result, parses, outside, _⟩
      cases reads.symm.trans result
      refine ⟨boolean_text_injective _ _ parses, fun apart => ?_⟩
      have below : booleanRegister var < var.offset := by
        have most : (booleanRegister var).toNat ≤ var.offset.toNat := by
          rw [booleanRegister, UInt32.toNat_and]
          exact Nat.and_le_left
        have other : (booleanRegister var).toNat ≠ var.offset.toNat := fun same => apart (UInt32.toNat_inj.mp same)
        exact UInt32.lt_iff_toNat_lt.mpr (by omega)
      have kept := outside (booleanRegister var) (.inl below)
      rw [found, if_neg apart, if_pos rfl] at kept
      rw [← kept, Option.isSome_some]
    · rintro ⟨right, present⟩
      refine ⟨_, read, reads, congrArg booleanText right, fun reg apart => ?_, ?_⟩
      · have other : reg ≠ var.offset := by
          rintro rfl
          rcases apart with before | behind
          · exact absurd before (UInt32.lt_irrefl _)
          · omega
        rw [found, if_neg other]
        by_cases same : reg = booleanRegister var
        · subst same
          obtain ⟨byte, there⟩ := Option.isSome_iff_exists.mp (present other)
          rw [if_pos rfl, value_of_found, there, Option.getD_some]
        · rw [if_neg same]
      · rw [right]
        exact again
  rw [trip, Survives]
  by_cases same : booleanRegister var = var.offset
  · rw [if_pos same, if_pos same, and_iff_left (fun apart => absurd same apart)]
    cases flag with
    | true =>
        refine iff_of_true (decide_eq_true ?_) (.inl rfl)
        rw [booleanByte, if_pos rfl]
        exact fun zero => bit_set var (UInt8.or_eq_zero_iff.mp zero).2
    | false => simp [booleanByte]
  · rw [if_neg same, if_neg same, and_comm]
    cases flag with
    | true => simp [same]
    | false => simp [same]

theorem fill_whole (pstr bytes : Bytes) (index : Nat) :
    fill pstr index bytes =
      if bytes = [] ∨ index + bytes.length ≤ pstr.length then
        some (pstr.take index ++ bytes ++ pstr.drop (index + bytes.length))
      else none := by
  induction bytes generalizing pstr index with
  | nil => rw [if_pos (.inl rfl), fill, List.append_nil, List.length_nil, Nat.add_zero, List.take_append_drop]
  | cons byte bytes ih =>
      rw [fill, ih, List.length_set, List.length_cons]
      by_cases inside : index < pstr.length
      · rw [if_pos inside]
        have front : (pstr.set index byte).take (index + 1) = pstr.take index ++ [byte] := by
          rw [List.take_succ_eq_append_getElem (by rw [List.length_set]; exact inside), List.take_set,
            List.set_eq_of_length_le (by rw [List.length_take]; omega), List.getElem_set_self]
        have back : (pstr.set index byte).drop (index + 1 + bytes.length) = pstr.drop (index + (bytes.length + 1)) := by
          rw [List.drop_set_of_lt (by omega)]
          congr 1
          omega
        rw [front, back, List.append_assoc (pstr.take index), List.singleton_append]
        by_cases room : index + (bytes.length + 1) ≤ pstr.length
        · rw [if_pos (.inr (by omega)), if_pos (.inr room)]
        · have more : bytes ≠ [] := by
            rintro rfl
            exact room (by rw [List.length_nil]; omega)
          rw [if_neg (by rintro (empty | fits); exacts [more empty, room (by omega)]),
            if_neg (by rintro (empty | fits); exacts [List.cons_ne_nil _ _ empty, room fits])]
      · rw [if_neg inside, if_neg (by rintro (empty | fits); exacts [List.cons_ne_nil _ _ empty, inside (by omega)])]

def stringBytes (text : Text) : Bytes := text.map fun letter => UInt8.ofNat letter.toNat

theorem string_bytes_shown (letters : ∀ letter ∈ text, 0 < letter.toNat ∧ letter.toNat < 256) :
    (stringBytes text).map (fun byte => Char.ofNat byte.toNat) = text ∧ ∀ byte ∈ stringBytes text, byte ≠ 0 := by
  have nat : ∀ letter ∈ text, (UInt8.ofNat letter.toNat).toNat = letter.toNat :=
    fun letter member => UInt8.toNat_ofNat_of_lt' (letters letter member).2
  constructor
  · rw [stringBytes, List.map_map]
    have same : ∀ letter ∈ text, ((fun byte : UInt8 => Char.ofNat byte.toNat) ∘ fun letter => UInt8.ofNat letter.toNat) letter =
        id letter := by
      intro letter member
      rw [Function.comp_apply, nat letter member, Char.ofNat_toNat, id_eq]
    rw [List.map_congr_left same, List.map_id]
  · intro byte member zero
    obtain ⟨letter, inside, rfl⟩ := List.mem_map.mp member
    have none := congrArg UInt8.toNat zero
    rw [nat letter inside] at none
    exact absurd none (letters letter inside).1.ne'

-- How many registers the loop comes to: none when the address behind the last one is zero.
def stringCount (var : RemoteVariable) : Nat := (var.offset + UInt32.ofNat var.size.toNat).toNat - var.offset.toNat

theorem string_count (room : var.offset.toNat + var.size.toNat ≤ 2 ^ 32) :
    stringCount var = if var.offset.toNat + var.size.toNat = 2 ^ 32 then 0 else var.size.toNat := by
  have small := var.size.toNat_lt
  have size : (UInt32.ofNat var.size.toNat).toNat = var.size.toNat :=
    UInt32.toNat_ofNat_of_lt' (Nat.lt_trans small (by decide))
  rw [stringCount, UInt32.toNat_add, size]
  split
  · rename_i whole
    rw [whole]
    omega
  · rename_i below
    rw [Nat.mod_eq_of_lt (by omega)]
    omega

theorem string_trip (fits : Fits page var) (type : var.type = .string) (short : text.length ≤ var.size.toNat) :
    PageRoundTrip longBits page var format (.string text) ↔
      ∃ pstr, fill (List.replicate (var.size.toNat + 1) 0) var.offset.toNat
          ((page.writeBytes var.offset (stringBytes text)).readBytes var.offset (stringCount var)).1 = some pstr ∧
        cString pstr = text := by
  have size : var.getTypeByteCount = var.size := by rw [RemoteVariable.getTypeByteCount, type]
  have room : page.Holds var.offset var.size.toNat := size ▸ fits
  have length : (stringBytes text).length = text.length := List.length_map ..
  have most : stringCount var ≤ var.size.toNat := by
    rw [string_count var room.1]
    split <;> omega
  have smaller : ∀ count, count ≤ var.size.toNat → page.Holds var.offset count := fun count less =>
    ⟨Nat.le_trans (by omega) room.1, fun first => Nat.le_trans (by omega) (room.2 first)⟩
  have written : ∀ content, writeVariable var text content = content.writeBytes var.offset (stringBytes text) := by
    intro content
    rw [writeVariable, type]
    rfl
  have read : ∀ content : RegisterPage, readVariable longBits var format content =
      (fill (List.replicate (var.size.toNat + 1) 0) var.offset.toNat
        (content.readBytes var.offset (stringCount var)).1).map
          fun pstr => (cString pstr, (content.readBytes var.offset (stringCount var)).2) := by
    intro content
    rw [readVariable, type, size]
    rfl
  obtain ⟨outside, again⟩ := run_settled page var.offset (stringBytes text) (stringCount var)
    (smaller _ (by rw [length]; exact short)) (smaller _ most)
  constructor
  · rintro ⟨shown, after, result, parses, _, _⟩
    rw [Value.text, written, read, Option.map_eq_some_iff] at result
    obtain ⟨pstr, filled, same⟩ := result
    cases same
    exact ⟨pstr, filled, parses⟩
  · rintro ⟨pstr, filled, shown⟩
    refine ⟨text, ((page.writeBytes var.offset (stringBytes text)).readBytes var.offset (stringCount var)).2, ?_, rfl,
      fun reg apart => ?_, fun reg => ?_⟩
    · rw [Value.text, written, read, filled, Option.map_some, shown]
    · have beyond := outside_apart page var fits reg apart
      rw [size] at beyond
      exact outside reg (by rw [length]; omega) (by omega)
    · rw [written]
      exact again reg

variable (pstr : Bytes)

theorem c_string_ended (ended : pstr[0]? = none ∨ pstr[0]? = some 0) : cString pstr = [] := by
  cases pstr with
  | nil => rfl
  | cons byte pstr =>
      rcases ended with absent | zero
      · cases absent
      · cases zero
        rfl

theorem c_string_append (front back : Bytes) (whole : ∀ byte ∈ front, byte ≠ 0) :
    cString (front ++ back) = front.map (fun byte => Char.ofNat byte.toNat) ++ cString back := by
  rw [cString, List.takeWhile_append_of_pos (fun byte member => decide_eq_true (whole byte member)), List.map_append, cString]

theorem c_string_empty (empty : cString pstr = []) : pstr[0]? = none ∨ pstr[0]? = some 0 := by
  cases pstr with
  | nil => exact .inl rfl
  | cons byte pstr =>
      by_cases zero : byte = 0
      · exact .inr (by rw [zero, List.getElem?_cons_zero])
      · rw [cString, List.takeWhile_cons, if_pos (decide_eq_true zero), List.map_cons] at empty
        cases empty

theorem string_read (held : page.Holds 0 count)
    (short : text.length ≤ count) :
    ((page.writeBytes 0 (stringBytes text)).readBytes 0 count).1 =
      stringBytes text ++ (List.range' text.length (count - text.length)).map fun i => page.value (UInt32.ofNat i) := by
  have length : (stringBytes text).length = text.length := List.length_map ..
  have wrote : page.Holds 0 (stringBytes text).length :=
    ⟨Nat.le_trans (by omega) held.1, fun first => Nat.le_trans (by omega) (held.2 first)⟩
  have room : count ≤ 2 ^ 32 := by simpa using held.1
  rw [(read_bytes_held _ 0 count (holds_after page _ 0 count held (write_bytes_level page 0 _))).1]
  apply List.ext_getElem
  · simp only [List.length_map, List.length_range, List.length_append, List.length_range', length]
    omega
  · intro i left right
    have inside : i < count := by simpa using left
    have here : (UInt32.ofNat i - 0).toNat = i := by
      rw [UInt32.sub_zero]
      exact UInt32.toNat_ofNat_of_lt' (Nat.lt_of_lt_of_le inside room)
    rw [List.getElem_map, List.getElem_range, UInt32.zero_add, value_of_found, write_bytes_held page 0 _ wrote, here]
    by_cases early : i < (stringBytes text).length
    · rw [if_pos early, Option.getD_some, List.getElem_append_left early, List.getD_eq_getElem _ _ early]
    · have position : text.length + 1 * (i - (stringBytes text).length) = i := by omega
      rw [if_neg early, List.getElem_append_right (by omega), List.getElem_map, List.getElem_range', ← value_of_found,
        position]

theorem string_ends (short : text.length ≤ count)
    (letters : ∀ letter ∈ text, 0 < letter.toNat ∧ letter.toNat < 256) :
    cString (stringBytes text ++ ((List.range' text.length (count - text.length)).map fun i => page.value (UInt32.ofNat i)) ++
        [0]) = text ↔
      text.length = count ∨ page.value (UInt32.ofNat text.length) = 0 := by
  obtain ⟨shown, whole⟩ := string_bytes_shown text letters
  rw [List.append_assoc, c_string_append _ _ whole, shown]
  have behind : text ++ cString ((List.range' text.length (count - text.length)).map
      (fun i => page.value (UInt32.ofNat i)) ++ [0]) = text ↔
      cString ((List.range' text.length (count - text.length)).map (fun i => page.value (UInt32.ofNat i)) ++ [0]) = [] :=
    List.append_right_eq_self
  rw [behind]
  rcases Nat.eq_zero_or_pos (count - text.length) with full | more
  · rw [full]
    exact iff_of_true rfl (.inl (by omega))
  · obtain ⟨rest, split⟩ : ∃ rest, count - text.length = rest + 1 := ⟨count - text.length - 1, by omega⟩
    rw [split, List.range'_succ, List.map_cons, List.cons_append]
    constructor
    · intro empty
      rcases c_string_empty _ empty with absent | zero
      · cases absent
      · exact .inr (Option.some.inj zero)
    · rintro (full | zero)
      · omega
      · exact c_string_ended _ (.inr (congrArg some zero))

theorem string_survives (fits : Fits page var) (type : var.type = .string) (short : text.length ≤ var.size.toNat)
    (letters : ∀ letter ∈ text, 0 < letter.toNat ∧ letter.toNat < 256) :
    PageRoundTrip longBits page var format (.string text) ↔ Survives longBits page var format (.string text) := by
  have size : var.getTypeByteCount = var.size := by rw [RemoteVariable.getTypeByteCount, type]
  have room : page.Holds var.offset var.size.toNat := size ▸ fits
  have count := string_count var room.1
  have length := read_bytes_length (page.writeBytes var.offset (stringBytes text)) var.offset (stringCount var)
  have small := var.size.toNat_lt
  have startZero : var.offset = 0 ↔ var.offset.toNat = 0 := UInt32.toNat_inj.symm
  have startOne : var.offset = 1 ↔ var.offset.toNat = 1 := UInt32.toNat_inj.symm
  have nothing : var.size = 0 ↔ var.size.toNat = 0 := UInt16.toNat_inj.symm
  have empty : text = [] ↔ text.length = 0 := List.length_eq_zero_iff.symm
  rw [string_trip longBits page var format text fits type short, fill_whole, List.length_replicate, length, Survives, nothing,
    startOne]
  -- The loop runs over no register, or over all of them.
  by_cases idle : stringCount var = 0
  · rw [idle, if_pos (.inl rfl), RegisterPage.readBytes, List.append_nil]
    simp only [Nat.add_zero, List.take_append_drop]
    have ended : cString (List.replicate (var.size.toNat + 1) 0) = [] := c_string_ended _ (.inr rfl)
    constructor
    · rintro ⟨_, filled, shown⟩
      cases filled
      rw [ended] at shown
      refine .inr ⟨shown.symm, ?_⟩
      rw [count] at idle
      split at idle <;> omega
    · rintro (⟨start, _⟩ | ⟨none, _⟩)
      · refine ⟨_, rfl, ended.trans (empty.mpr ?_).symm⟩
        rw [count, startZero.mp start] at idle
        split at idle <;> omega
      · exact ⟨_, rfl, ended.trans none.symm⟩
  · have inside : var.offset.toNat + var.size.toNat ≠ 2 ^ 32 := fun whole => idle (by rw [count, if_pos whole])
    rw [if_neg inside] at count
    have some : 0 < var.size.toNat := by omega
    rw [count] at length ⊢
    generalize reading : ((page.writeBytes var.offset (stringBytes text)).readBytes var.offset var.size.toNat).1 = buf at length ⊢
    have read : buf ≠ [] := List.ne_nil_of_length_pos (by omega)
    simp only [or_iff_right read]
    by_cases start : var.offset = 0
    · rw [start] at reading room
      rw [string_read page text _ room short] at reading
      have buffer : (List.replicate (var.size.toNat + 1) (0 : UInt8)).drop (0 + var.size.toNat) = [0] := by
        rw [List.drop_replicate, Nat.zero_add, Nat.add_sub_cancel_left]
        rfl
      rw [startZero.mp start, if_pos (by omega), List.take_zero, List.nil_append, buffer, ← reading]
      have ends := string_ends page text var.size.toNat short letters
      constructor
      · rintro ⟨_, filled, shown⟩
        cases filled
        exact .inl ⟨start, ends.mp shown⟩
      · rintro (⟨_, right⟩ | ⟨none, other⟩)
        · exact ⟨_, rfl, ends.mpr right⟩
        · omega
    · have later : ¬ (var.offset = 0 ∧ (text.length = var.size.toNat ∨ page.value (UInt32.ofNat text.length) = 0)) :=
        fun both => start both.1
      rw [or_iff_right later]
      rw [startZero] at start
      by_cases one : var.offset.toNat = 1
      · rw [one, if_pos (by omega)]
        have ended : cString ((List.replicate (var.size.toNat + 1) 0).take 1 ++ buf ++
            (List.replicate (var.size.toNat + 1) 0).drop (1 + var.size.toNat)) = [] := c_string_ended _ (.inr rfl)
        constructor
        · rintro ⟨_, filled, shown⟩
          cases filled
          exact ⟨shown.symm.trans ended, .inr (.inl rfl)⟩
        · rintro ⟨none, _⟩
          exact ⟨_, rfl, ended.trans none.symm⟩
      · rw [if_neg (by omega)]
        refine iff_of_false ?_ ?_
        · rintro ⟨_, filled, _⟩
          cases filled
        · rintro ⟨_, zero | first | whole⟩
          · omega
          · exact one first
          · exact inside whole

theorem page_survives (fits : Fits page var) (own : value.Of var) :
    PageRoundTrip longBits page var format value ↔ Survives longBits page var format value := by
  obtain ⟨type, whole⟩ := own
  cases value with
  | string text =>
      obtain ⟨short, letters⟩ := whole text rfl
      exact string_survives longBits page var format text fits type.symm short letters
  | boolean flag => exact boolean_survives longBits page var format flag fits type.symm
  | int8 number => exact int8_survives longBits page var format number fits type.symm
  | uint8 number => exact iff_of_true (uint8_survives longBits page var format number fits type.symm) trivial
  | int16 number => exact iff_of_true (int16_survives longBits page var format number fits type.symm) trivial
  | uint16 number => exact uint16_survives longBits page var format number fits type.symm
  | int32 number => exact int32_survives longBits page var format number fits type.symm
  | uint32 number => exact uint32_survives longBits page var format number fits type.symm
  | int64 number => exact int64_survives longBits page var format number fits type.symm
  | uint64 number =>
      exact iff_of_false (undefined_read longBits page var format _
        fun content => uint64_undefined longBits var format content type.symm) id
  | date year month day =>
      exact iff_of_false (undefined_read longBits page var format _
        fun content => date_undefined longBits var format content (.inl type.symm)) id
  | time hours minutes seconds =>
      exact iff_of_false (undefined_read longBits page var format _
        fun content => date_undefined longBits var format content (.inr type.symm)) id

theorem variable_survives_iff (longBits : Nat) (user : UserRegisters) (var : RemoteVariable) (content : RegisterPage)
    (strValue : Text) (format : UInt8) (value : Value) (here : user.registerPageMap[var.page]? = some (some content))
    (fits : Fits content var) (own : value.Of var) :
    RoundTrip longBits user var strValue format value ↔ Survives longBits content var format value :=
  (round_trip_on_page longBits user var content strValue format value here).trans
    (page_survives longBits content var format value fits own)

def onePage : UserRegisters := (UserRegisters.new level1).withPage 0 (RegisterPage.new level1 0)
def variableAtStart (type : VariableType) : RemoteVariable := ⟨type, 0, 0, 0, 4⟩

theorem one_page_found : onePage.registerPageMap[(0 : UInt16)]? = some (some (RegisterPage.new level1 0)) := by
  rw [onePage, UserRegisters.withPage, found_after_insert, if_pos rfl]

theorem word_fits (type : VariableType) (word : type = .int16 ∨ type = .uint16) :
    Fits (RegisterPage.new level1 0) (variableAtStart type) := by
  rcases word with rfl | rfl
  · exact ⟨by decide, fun _ => by decide⟩
  · exact ⟨by decide, fun _ => by decide⟩

theorem variable_survives_iff_example :
    RoundTrip 64 onePage (variableAtStart .int16) [] 1 (.int16 (-2)) ↔
      Survives 64 (RegisterPage.new level1 0) (variableAtStart .int16) 1 (.int16 (-2)) :=
  variable_survives_iff 64 onePage (variableAtStart .int16) (RegisterPage.new level1 0) [] 1 (.int16 (-2)) one_page_found
    (word_fits .int16 (.inl rfl)) ⟨rfl, fun _ other => by cases other⟩

-- The decimal format of a uint16 is "hd", without a percent sign.
theorem unsigned_word_not_shown :
    Value.Of (variableAtStart .uint16) (.uint16 5) ∧ Fits (RegisterPage.new level1 0) (variableAtStart .uint16) ∧
      ¬ RoundTrip 64 onePage (variableAtStart .uint16) [] formatDecimal (.uint16 5) := by
  have fits := word_fits .uint16 (.inr rfl)
  refine ⟨⟨rfl, fun _ other => by cases other⟩, fits, fun trip => ?_⟩
  have onPage := (round_trip_on_page 64 onePage (variableAtStart .uint16) _ [] formatDecimal (.uint16 5)
    one_page_found).mp trip
  rcases (uint16_survives 64 _ _ formatDecimal 5 fits rfl).mp onPage with other | zero
  · exact other rfl
  · exact absurd zero (by decide)

end Vscp.Registers
