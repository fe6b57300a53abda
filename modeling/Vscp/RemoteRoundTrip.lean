import Vscp.RemoteVariable

set_option autoImplicit false

namespace Vscp.Registers

open NumberText
open RemoteTcp (Text isSpace trim split)
open Printf (signedDecimal)

inductive Value
  | string (text : Text)
  | boolean (flag : Bool)
  | int8 (number : Int8)
  | uint8 (number : UInt8)
  | int16 (number : Int16)
  | uint16 (number : UInt16)
  | int32 (number : Int32)
  | uint32 (number : UInt32)
  | int64 (number : Int64)
  | uint64 (number : UInt64)
  | date (year month day : UInt8)
  | time (hours minutes seconds : UInt8)

def Value.type : Value → VariableType
  | .string _ => .string
  | .boolean _ => .boolean
  | .int8 _ => .int8
  | .uint8 _ => .uint8
  | .int16 _ => .int16
  | .uint16 _ => .uint16
  | .int32 _ => .int32
  | .uint32 _ => .uint32
  | .int64 _ => .int64
  | .uint64 _ => .uint64
  | .date .. => .date
  | .time .. => .time

def Value.Of (var : RemoteVariable) (value : Value) : Prop :=
  value.type = var.type ∧
    ∀ text, value = .string text → text.length ≤ var.size.toNat ∧ ∀ letter ∈ text, 0 < letter.toNat ∧ letter.toNat < 256

def partsText (first second third : UInt8) : Text :=
  List.intercalate [':'] ([first, second, third].map fun part => zeroPadded 2 (decimal part.toNat))

def Value.text : Value → Text
  | .string text => text
  | .boolean flag => booleanText flag
  | .int8 number => signedDecimal number.toInt
  | .uint8 number => decimal number.toNat
  | .int16 number => signedDecimal number.toInt
  | .uint16 number => decimal number.toNat
  | .int32 number => signedDecimal number.toInt
  | .uint32 number => decimal number.toNat
  | .int64 number => signedDecimal number.toInt
  | .uint64 number => decimal number.toNat
  | .date year month day => partsText year month day
  | .time hours minutes seconds => partsText hours minutes seconds

def ParsesParts (strValue : Text) (first second third : UInt8) : Prop :=
  (split strValue ':').map (fun part => UInt8.ofInt (readStringValue part)) = [first, second, third]

-- The text stands for the value, as vscp_readStringValue reads numbers.
def Parses (strValue : Text) : Value → Prop
  | .string text => strValue = text
  | .boolean flag => strValue = booleanText flag
  | .int8 number => Int8.ofInt (readStringValue strValue) = number
  | .uint8 number => UInt8.ofInt (readStringValue strValue) = number
  | .int16 number => Int16.ofInt (readStringValue strValue) = number
  | .uint16 number => UInt16.ofInt (readStringValue strValue) = number
  | .int32 number => Int32.ofInt (readStringValue strValue) = number
  | .uint32 number => UInt32.ofInt (readStringValue strValue) = number
  | .int64 number => Int64.ofInt (readStringValue strValue) = number
  | .uint64 number => UInt64.ofInt (readStringValue strValue) = number
  | .date year month day => ParsesParts strValue year month day
  | .time hours minutes seconds => ParsesParts strValue hours minutes seconds

def Fits (page : RegisterPage) (var : RemoteVariable) : Prop := page.Holds var.offset var.getTypeByteCount.toNat

def Outside (var : RemoteVariable) (reg : UInt32) : Prop :=
  reg < var.offset ∨ var.offset.toNat + var.getTypeByteCount.toNat ≤ reg.toNat

-- A value is written and read back, its text is the value's, nothing else has changed, and writing that text
-- again changes nothing.
def RoundTrip (longBits : Nat) (user : UserRegisters) (var : RemoteVariable) (strValue : Text) (format : UInt8)
    (value : Value) : Prop :=
  ∃ written shown read rewritten,
    user.remoteVarFromStringToReg var value.text = (0, written) ∧
      written.remoteVarFromRegToString longBits var strValue format = some (0, shown, read) ∧ Parses shown value ∧
      (∀ page reg, (page = var.page → Outside var reg) → read.regAt page reg = user.regAt page reg) ∧
      read.remoteVarFromStringToReg var shown = (0, rewritten) ∧
      ∀ page reg, rewritten.regAt page reg = read.regAt page reg

def PageRoundTrip (longBits : Nat) (page : RegisterPage) (var : RemoteVariable) (format : UInt8) (value : Value) : Prop :=
  ∃ shown read,
    readVariable longBits var format (writeVariable var value.text page) = some (shown, read) ∧ Parses shown value ∧
      (∀ reg : UInt32, Outside var reg → read.registers[reg]? = page.registers[reg]?) ∧
      ∀ reg : UInt32, (writeVariable var shown read).registers[reg]? = read.registers[reg]?

-- Where a boolean is looked for when it is read.
def booleanRegister (var : RemoteVariable) : UInt32 := var.offset &&& ((1 : UInt32) <<< var.getBitPos.toUInt32)

-- When a value survives: every line is one branch of the two switches.
def Survives (longBits : Nat) (page : RegisterPage) (var : RemoteVariable) (format : UInt8) : Value → Prop
  | .string text =>
      (var.offset = 0 ∧ (text.length = var.size.toNat ∨ page.value (UInt32.ofNat text.length) = 0)) ∨
        (text = [] ∧ (var.size = 0 ∨ var.offset = 1 ∨ var.offset.toNat + var.size.toNat = 2 ^ 32))
  | .boolean flag =>
      if booleanRegister var = var.offset then
        flag = true ∨ page.value var.offset &&& ~~~((1 : UInt8) <<< var.getBitPos) = 0
      else (page.registers[booleanRegister var]?).isSome ∧ (page.value (booleanRegister var) ≠ 0 ↔ flag = true)
  | .int8 _ => format ≠ formatDecimal
  | .uint8 _ => True
  | .int16 _ => True
  | .uint16 number => format ≠ formatDecimal ∨ number = 0
  | .int32 _ => longBits = 32
  | .uint32 _ => longBits = 32
  | .int64 number => format = formatDecimal ∨ 0 ≤ number
  | .uint64 _ => False
  | .date .. => False
  | .time .. => False

variable (user : UserRegisters)

theorem found_page (page query : UInt16) (content : RegisterPage)
    (here : user.registerPageMap[page]? = some (some content)) :
    user.getRegisterPage page = (some content, { user with registerPageMap := user.registerPageMap.insertIfNew page none }) ∧
      (user.registerPageMap.insertIfNew page none)[query]? = user.registerPageMap[query]? := by
  have pointer : user.registerPageMap.getD page none = some content := by
    rw [Std.TreeMap.getD_eq_getD_getElem?, here, Option.getD_some]
  refine ⟨by rw [UserRegisters.getRegisterPage, pointer], ?_⟩
  rw [found_after_fetch, pointer]
  by_cases same : query = page
  · rw [if_pos same, same, here]
  · rw [if_neg same]

theorem reg_after_fetch (page query : UInt16) (content : RegisterPage) (reg : UInt32)
    (here : user.registerPageMap[page]? = some (some content)) :
    ({ user with registerPageMap := user.registerPageMap.insertIfNew page none } : UserRegisters).regAt query reg =
      user.regAt query reg := by
  rw [UserRegisters.regAt, (found_page user page query content here).2, UserRegisters.regAt]

theorem reg_at_page (page query : UInt16) (content : RegisterPage) (reg : UInt32) :
    (user.withPage page content).regAt query reg =
      if query = page then content.registers[reg]? else user.regAt query reg := by
  rw [UserRegisters.regAt, UserRegisters.withPage, found_after_insert]
  by_cases same : query = page
  · rw [if_pos same, if_pos same, Option.join_some, Option.bind_some]
  · rw [if_neg same, if_neg same, UserRegisters.regAt]

structure LeavesPage (user after : UserRegisters) (page : UInt16) (content : RegisterPage) : Prop where
  there : after.registerPageMap[page]? = some (some content)
  regs : ∀ (query : UInt16) (reg : UInt32),
    after.regAt query reg = if query = page then content.registers[reg]? else user.regAt query reg

theorem with_page_leaves (page : UInt16) (content changed : RegisterPage)
    (here : user.registerPageMap[page]? = some (some content)) :
    LeavesPage user
      (UserRegisters.withPage { user with registerPageMap := user.registerPageMap.insertIfNew page none } page changed)
      page changed where
  there := by rw [UserRegisters.withPage, found_after_insert, if_pos rfl]
  regs query reg := by rw [reg_at_page, reg_after_fetch user page query content reg here]

theorem write_on_page (var : RemoteVariable) (content : RegisterPage) (strValue : Text)
    (here : user.registerPageMap[var.page]? = some (some content)) :
    ∃ after, user.remoteVarFromStringToReg var strValue = (0, after) ∧
      LeavesPage user after var.page (writeVariable var strValue content) := by
  refine ⟨_, ?_, with_page_leaves user var.page content _ here⟩
  rw [UserRegisters.remoteVarFromStringToReg, (found_page user var.page var.page content here).1]

theorem read_on_page (longBits : Nat) (user : UserRegisters) (var : RemoteVariable) (content : RegisterPage)
    (strValue : Text) (format : UInt8) (here : user.registerPageMap[var.page]? = some (some content)) :
    user.remoteVarFromRegToString longBits var strValue format =
      (readVariable longBits var format content).map fun read => (0, read.1,
        UserRegisters.withPage { user with registerPageMap := user.registerPageMap.insertIfNew var.page none } var.page read.2) := by
  rw [UserRegisters.remoteVarFromRegToString, (found_page user var.page var.page content here).1]

theorem round_trip_on_page (longBits : Nat) (user : UserRegisters) (var : RemoteVariable) (content : RegisterPage)
    (strValue : Text) (format : UInt8) (value : Value) (here : user.registerPageMap[var.page]? = some (some content)) :
    RoundTrip longBits user var strValue format value ↔ PageRoundTrip longBits content var format value := by
  obtain ⟨written, wrote, left⟩ := write_on_page user var content value.text here
  constructor
  · rintro ⟨_, shown, read, rewritten, first, reads, parses, outside, second, same⟩
    rw [wrote] at first
    cases first
    rw [read_on_page longBits written var _ strValue format left.there, Option.map_eq_some_iff] at reads
    obtain ⟨⟨own, onPage⟩, reading, equal⟩ := reads
    cases equal
    have leftRead := with_page_leaves written var.page _ onPage left.there
    obtain ⟨_, again, leftAgain⟩ := write_on_page _ var _ own leftRead.there
    rw [again] at second
    cases second
    refine ⟨own, onPage, reading, parses, fun reg apart => ?_, fun reg => ?_⟩
    · have kept := outside var.page reg fun _ => apart
      rw [leftRead.regs, if_pos rfl, UserRegisters.regAt, here] at kept
      exact kept
    · have kept := same var.page reg
      rw [leftAgain.regs, if_pos rfl, leftRead.regs, if_pos rfl] at kept
      exact kept
  · rintro ⟨shown, onPage, reading, parses, outside, same⟩
    have leftRead := with_page_leaves written var.page _ onPage left.there
    obtain ⟨rewritten, again, leftAgain⟩ := write_on_page _ var _ shown leftRead.there
    refine ⟨written, shown, _, rewritten, wrote, ?_, parses, fun page reg apart => ?_, again, fun page reg => ?_⟩
    · rw [read_on_page longBits written var _ strValue format left.there, reading, Option.map_some]
    · rw [leftRead.regs]
      by_cases own : page = var.page
      · rw [if_pos own, own, outside reg (apart own), UserRegisters.regAt, here]
        rfl
      · rw [if_neg own, left.regs, if_neg own]
    · rw [leftAgain.regs]
      by_cases own : page = var.page
      · rw [if_pos own, same reg, leftRead.regs, if_pos own]
      · rw [if_neg own]

theorem outside_apart (page : RegisterPage) (var : RemoteVariable) (fits : Fits page var) (reg : UInt32)
    (outside : Outside var reg) : ¬ (reg - var.offset).toNat < var.getTypeByteCount.toNat := by
  have bound := fits.1
  have low := reg.toNat_lt
  rw [UInt32.toNat_sub]
  rcases outside with before | behind
  · have less := UInt32.lt_iff_toNat_lt.mp before
    omega
  · omega

theorem big_endian_length (count : Nat) (value : Int) : (bigEndianBytes count value).length = count := by
  induction count with
  | zero => rfl
  | succ count ih => rw [bigEndianBytes, List.length_cons, ih]

theorem emod_mul_split (value whole part : Int) (positive : 0 < whole) (some : 0 < part) :
    value % (whole * part) = whole * (value / whole % part) + value % whole := by
  have low := Int.emod_nonneg value positive.ne'
  have high := Int.emod_lt_of_pos value positive
  have digitLow := Int.emod_nonneg (value / whole) some.ne'
  have digitHigh := Int.emod_lt_of_pos (value / whole) some
  have whole_sum := Int.mul_ediv_add_emod value whole
  have digit_sum := Int.mul_ediv_add_emod (value / whole) part
  have rewritten : value =
      whole * (value / whole % part) + value % whole + whole * part * (value / whole / part) := by
    calc value = whole * (value / whole) + value % whole := whole_sum.symm
      _ = whole * (part * (value / whole / part) + value / whole % part) + value % whole := by rw [digit_sum]
      _ = _ := by ring
  have below : whole * (value / whole % part) + value % whole < whole * part := by
    have step : whole * (value / whole % part + 1) ≤ whole * part :=
      Int.mul_le_mul_of_nonneg_left digitHigh positive.le
    rw [mul_add, mul_one] at step
    omega
  have above : 0 ≤ whole * (value / whole % part) + value % whole := Int.add_nonneg (Int.mul_nonneg positive.le digitLow) low
  calc value % (whole * part)
      = (whole * (value / whole % part) + value % whole + whole * part * (value / whole / part)) % (whole * part) := by
        rw [← rewritten]
    _ = (whole * (value / whole % part) + value % whole) % (whole * part) := Int.add_mul_emod_self_left _ _ _
    _ = _ := Int.emod_eq_of_lt above below

theorem big_endian_value (count : Nat) (value : Int) :
    (bigEndianNumber (bigEndianBytes count value) : Int) = value % 256 ^ count := by
  induction count with
  | zero => rw [bigEndianBytes, bigEndianNumber, Int.pow_zero, Int.emod_one, Int.natCast_zero]
  | succ count ih =>
      have power : (2 : Int) ^ (8 * count) = 256 ^ count := by
        rw [pow_mul]
        norm_num
      have byte : ((UInt8.ofInt (value >>> (8 * count))).toNat : Int) = value / 256 ^ count % 256 := by
        rw [Int.shiftRight_eq_div_pow, Int.natCast_pow, Int.cast_ofNat_Int, power]
        simp [UInt8.ofInt]
        omega
      have split : value % 256 ^ (count + 1) = 256 ^ count * (value / 256 ^ count % 256) + value % 256 ^ count := by
        rw [pow_succ]
        exact emod_mul_split value _ 256 (Int.pow_pos (by omega)) (by omega)
      rw [bigEndianBytes, bigEndianNumber, Int.natCast_add, ih, big_endian_length, Nat.shiftLeft_eq, Int.natCast_mul, byte,
        Int.natCast_pow, Int.cast_ofNat_Int, power, split, mul_comm]

theorem number_trip (longBits : Nat) (page : RegisterPage) (var : RemoteVariable) (format : UInt8) (value : Value)
    (bytes : Bytes) (fstr : Text) (bits : Nat) (number : Int) (fits : Fits page var)
    (size : var.getTypeByteCount.toNat = bytes.length)
    (writes : ∀ text content, Parses text value → writeVariable var text content = content.writeBytes var.offset bytes)
    (own : Parses value.text value)
    (reads : ∀ content, content.Holds var.offset bytes.length → (content.readBytes var.offset bytes.length).1 = bytes →
      readVariable longBits var format content =
        printed longBits fstr bits number (content.readBytes var.offset bytes.length).2) :
    PageRoundTrip longBits page var format value ↔
      ∃ shown, Printf.format longBits fstr [⟨bits, number⟩] = some shown ∧ Parses shown value := by
  have held : page.Holds var.offset bytes.length := size ▸ fits
  have level := RegisterPage.write_bytes_level page var.offset bytes
  have reading := reads (page.writeBytes var.offset bytes) (RegisterPage.holds_after page _ _ _ held level)
    (RegisterPage.read_written page var.offset bytes held)
  obtain ⟨outside, again⟩ := RegisterPage.run_settled page var.offset bytes bytes.length held held
  constructor
  · rintro ⟨shown, read, result, parses, _, _⟩
    rw [writes _ _ own, reading, printed, Option.map_eq_some_iff] at result
    obtain ⟨text, prints, same⟩ := result
    cases same
    exact ⟨shown, prints, parses⟩
  · rintro ⟨shown, prints, parses⟩
    refine ⟨shown, ((page.writeBytes var.offset bytes).readBytes var.offset bytes.length).2, ?_, parses,
      fun reg apart => ?_, fun reg => ?_⟩
    · rw [writes _ _ own, reading, printed, prints, Option.map_some]
    · have beyond := outside_apart page var fits reg apart
      rw [size] at beyond
      exact outside reg beyond beyond
    · rw [writes _ _ parses]
      exact again reg

theorem read_signed_decimal (number : Int) (low : -2 ^ 63 ≤ number) (high : number < 2 ^ 63) :
    readStringValue (signedDecimal number) = number := by
  rcases lt_or_ge number 0 with negative | positive
  · have digits := decimal_digits number.natAbs
    have shown : signedDecimal number = '-' :: decimal number.natAbs := by
      rw [signedDecimal, if_pos negative, List.singleton_append]
    have lowered : makeLower ('-' :: decimal number.natAbs) = '-' :: decimal number.natAbs := by
      rw [makeLower, List.map_cons, decimal, written_lowered 10 _ (by omega) (by omega)]
      rfl
    have unspaced : ∀ letter ∈ '-' :: decimal number.natAbs, isSpace letter = false := by
      intro letter member
      rcases List.mem_cons.mp member with rfl | digit
      · rfl
      · exact base_digit_not_space 10 letter (digits letter digit)
    have absent : ∀ mark, mark ≠ '-' → isDigitOf 10 mark = false → mark ∉ '-' :: decimal number.natAbs := by
      intro mark other foreign member
      rcases List.mem_cons.mp member with same | digit
      · exact other same
      · rw [digits mark digit] at foreign
        exact Bool.noConfusion foreign
    have magnitude : ((digitsValue 10 (decimal number.natAbs) : Nat) : Int) = -number := by
      rw [decimal_value]
      omega
    have resolved : resolveBase 10 (decimal number.natAbs) = (10, decimal number.natAbs) := by
      rw [resolveBase, no_hex_prefix 10 _ (by omega) digits, if_neg (by simp), if_pos (by omega)]
    obtain ⟨taken, dropped⟩ := take_all_digits 10 _ digits
    have read : readInteger isSpace 10 ('-' :: decimal number.natAbs) = some (number, []) := by
      simp only [readInteger, List.dropWhile_cons, unspaced '-' List.mem_cons_self, Bool.false_eq_true, if_false, takeSign,
        List.getElem?_cons_zero, if_true, List.drop_succ_cons, List.drop_zero, resolved, taken, dropped,
        if_neg (decimal_nonempty _), magnitude, Int.neg_neg]
    have found : stoInteger isSpace 64 10 ('-' :: decimal number.natAbs) = some (number, []) := by
      rw [stoInteger, read, Option.filter_some, if_pos (decide_eq_true ⟨low, high⟩)]
    rw [shown]
    simp only [readStringValue, lowered, trim_unspaced _ unspaced,
      if_neg (pair_absent '0' 'x' _ (absent 'x' (by decide) rfl)), if_neg (pair_absent '0' 'o' _ (absent 'o' (by decide) rfl)),
      if_neg (pair_absent '0' 'b' _ (absent 'b' (by decide) rfl)), found]
  · have shown : signedDecimal number = decimal number.natAbs := by
      rw [signedDecimal, if_neg (by omega), List.nil_append]
    rw [shown, read_decimal_value _ (by omega)]
    omega

section

variable {Number : Type} (ofInt : Int → Number) (toInt : Number → Int)

-- A number of more than one byte, written and read through its bytes, is kept when its text is.
theorem word_trip (longBits : Nat) (page : RegisterPage) (var : RemoteVariable) (format : UInt8) (value : Value)
    (number : Number) (count bits : Nat) (fstr : Text) (fits : Fits page var)
    (size : var.getTypeByteCount.toNat = count)
    (back : ∀ other, ofInt other = number → ofInt (other % 256 ^ count) = number) (whole : ofInt (toInt number) = number)
    (parses : ∀ text, Parses text value ↔ ofInt (readStringValue text) = number)
    (own : readStringValue value.text = toInt number)
    (writes : ∀ text content,
      writeVariable var text content = writeNumber content var.offset count (toInt (ofInt (readStringValue text))))
    (reads : ∀ content : RegisterPage, readVariable longBits var format content =
      printed longBits fstr bits (toInt (ofInt (bigEndianNumber (content.readBytes var.offset count).1)))
        (content.readBytes var.offset count).2) :
    PageRoundTrip longBits page var format value ↔
      ∃ shown, Printf.format longBits fstr [⟨bits, toInt number⟩] = some shown ∧
        ofInt (readStringValue shown) = number := by
  have length := big_endian_length count (toInt number)
  have kept : ∀ text, Parses text value → ∀ content,
      writeVariable var text content = content.writeBytes var.offset (bigEndianBytes count (toInt number)) := by
    intro text parsed content
    rw [writes, (parses text).mp parsed, writeNumber]
  have trip := number_trip longBits page var format value (bigEndianBytes count (toInt number)) fstr bits (toInt number) fits
    (size.trans length.symm) (fun text content parsed => kept text parsed content)
    ((parses _).mpr (by rw [own, whole])) (fun content _ bytes => by
      rw [length] at bytes ⊢
      rw [reads, bytes, big_endian_value, back _ whole])
  rw [trip]
  constructor
  · rintro ⟨shown, prints, parsed⟩
    exact ⟨shown, prints, (parses shown).mp parsed⟩
  · rintro ⟨shown, prints, parsed⟩
    exact ⟨shown, prints, (parses shown).mpr parsed⟩

end

theorem decimal_kept {Number : Type} (ofInt : Int → Number) (number : Number) (own : Int) (width : Nat)
    (back : ofInt own = number) (low : -2 ^ 63 ≤ own) (high : own < 2 ^ 63) (narrow : own.bmod (2 ^ width) = own) :
    ofInt (readStringValue (signedDecimal (own.bmod (2 ^ width)))) = number := by
  rw [narrow, read_signed_decimal own low high, back]

theorem unsigned_kept {Number : Type} (ofInt : Int → Number) (number : Number) (own : Int) (width : Nat)
    (back : ofInt (own % 2 ^ width) = number) (narrow : own % 2 ^ width < 2 ^ 63) :
    ofInt (readStringValue (decimal (own % 2 ^ width).toNat)) = number := by
  have positive : 0 ≤ own % 2 ^ width := Int.emod_nonneg own (by positivity)
  have same : (((own % 2 ^ width).toNat : Nat) : Int) = own % 2 ^ width := Int.toNat_of_nonneg positive
  rw [read_decimal_value _ (by omega), same, back]

theorem hex_kept {Number : Type} (ofInt : Int → Number) (number : Number) (own : Int) (width digits : Nat)
    (back : ofInt (own % 2 ^ width) = number) (narrow : own % 2 ^ width < 2 ^ 63) :
    ofInt (readStringValue (['0', 'x'] ++ lowerHex digits (own % 2 ^ width).toNat)) = number := by
  have positive : 0 ≤ own % 2 ^ width := Int.emod_nonneg own (by positivity)
  have small : (own % 2 ^ width).toNat < 2 ^ 63 := by omega
  have same : (((own % 2 ^ width).toNat : Nat) : Int) = own % 2 ^ width := Int.toNat_of_nonneg positive
  rw [read_hex_value _ digits _ small (hex_text_lowered digits _), same, back]

theorem int16_back (number : Int16) (other : Int) (same : Int16.ofInt other = number) :
    Int16.ofInt (other % 256 ^ 2) = number := by
  rw [Int16.ofInt_eq_iff_bmod_eq_toInt] at same ⊢
  exact (Int.emod_bmod other (2 ^ 16)).trans same

variable (longBits : Nat) (page : RegisterPage) (var : RemoteVariable) (format : UInt8)

theorem int16_survives (number : Int16)
    (fits : Fits page var) (type : var.type = .int16) : PageRoundTrip longBits page var format (.int16 number) := by
  have low := number.le_toInt
  have high := number.toInt_lt
  have narrow : number.toInt.bmod (2 ^ 16) = number.toInt := number.toInt_bmod
  have trip := word_trip Int16.ofInt Int16.toInt longBits page var format (.int16 number) number 2 32
    (if format = formatDecimal then ['%', 'h', 'd'] else ['0', 'x', '%', '0', '4', 'h', 'x']) fits
    (by rw [RemoteVariable.getTypeByteCount, type]; rfl) (int16_back number) number.ofInt_toInt (fun _ => Iff.rfl)
    (read_signed_decimal _ (by omega) (by omega)) (fun _ _ => by rw [writeVariable, type])
    (fun _ => by rw [readVariable, type])
  rw [trip]
  by_cases decimalFormat : format = formatDecimal
  · rw [if_pos decimalFormat]
    exact ⟨_, Printf.format_signed longBits [] ['h'] ⟨false, 0, 1, 0⟩ 32 _ (by decide) rfl rfl rfl,
      decimal_kept Int16.ofInt number _ 16 number.ofInt_toInt (by omega) (by omega) narrow⟩
  · rw [if_neg decimalFormat]
    exact ⟨_, Printf.format_hex longBits ['0', 'x'] ['0', '4', 'h'] ⟨true, 4, 1, 0⟩ 32 _ (by decide) rfl rfl (.inl rfl),
      hex_kept Int16.ofInt number _ 16 4 (int16_back number _ number.ofInt_toInt) (by omega)⟩

theorem int32_back (number : Int32) (other : Int) (same : Int32.ofInt other = number) :
    Int32.ofInt (other % 256 ^ 4) = number := by
  rw [Int32.ofInt_eq_iff_bmod_eq_toInt] at same ⊢
  exact (Int.emod_bmod other (2 ^ 32)).trans same

theorem int64_back (number : Int64) (other : Int) (same : Int64.ofInt other = number) :
    Int64.ofInt (other % 256 ^ 8) = number := by
  rw [Int64.ofInt_eq_iff_bmod_eq_toInt] at same ⊢
  exact (Int.emod_bmod other (2 ^ 64)).trans same

theorem uint16_back (number : UInt16) (other : Int) (same : UInt16.ofInt other = number) :
    UInt16.ofInt (other % 256 ^ 2) = number := by
  rw [← same, UInt16.ofInt, UInt16.ofInt]
  exact congrArg (fun rest : Int => UInt16.ofNat rest.toNat) (Int.emod_emod_of_dvd other (Int.dvd_refl _))

theorem uint32_back (number : UInt32) (other : Int) (same : UInt32.ofInt other = number) :
    UInt32.ofInt (other % 256 ^ 4) = number := by
  rw [← same, UInt32.ofInt, UInt32.ofInt]
  exact congrArg (fun rest : Int => UInt32.ofNat rest.toNat) (Int.emod_emod_of_dvd other (Int.dvd_refl _))

-- Without a percent sign the text stands for itself, and no number can be read in it.
theorem uint16_survives (number : UInt16)
    (fits : Fits page var) (type : var.type = .uint16) :
    PageRoundTrip longBits page var format (.uint16 number) ↔ format ≠ formatDecimal ∨ number = 0 := by
  have high := number.toNat_lt
  have whole : UInt16.ofInt (number.toNat : Int) = number := by rw [word16_of_cast, UInt16.ofNat_toNat]
  have trip := word_trip UInt16.ofInt (fun other => (other.toNat : Int)) longBits page var format (.uint16 number) number 2 32
    (if format = formatDecimal then ['h', 'd'] else ['0', 'x', '%', '0', '4', 'h', 'x']) fits
    (by rw [RemoteVariable.getTypeByteCount, type]; rfl) (uint16_back number) whole (fun _ => Iff.rfl)
    (read_decimal_value _ (by omega)) (fun _ _ => by rw [writeVariable, type])
    (fun _ => by rw [readVariable, type, word16_of_cast])
  rw [trip]
  by_cases decimalFormat : format = formatDecimal
  · rw [if_pos decimalFormat]
    have prints : Printf.format longBits ['h', 'd'] [⟨32, (number.toNat : Int)⟩] = some ['h', 'd'] := rfl
    have nothing : UInt16.ofInt (readStringValue ['h', 'd']) = 0 := by decide
    constructor
    · rintro ⟨shown, result, parsed⟩
      rw [prints] at result
      cases result
      exact .inr (parsed.symm.trans nothing)
    · rintro (other | zero)
      · exact absurd decimalFormat other
      · exact ⟨_, prints, nothing.trans zero.symm⟩
  · rw [if_neg decimalFormat]
    refine iff_of_true ?_ (.inl decimalFormat)
    exact ⟨_, Printf.format_hex longBits ['0', 'x'] ['0', '4', 'h'] ⟨true, 4, 1, 0⟩ 32 _ (by decide) rfl rfl (.inl rfl),
      hex_kept UInt16.ofInt number _ 16 4 (uint16_back number _ whole) (by omega)⟩

-- %ld, %lu and %lx take a long, and are given 32 bits.
theorem long_misfit (lead text : Text) (letter : Char) (directive : Printf.Directive) (number : Int)
    (other : longBits ≠ 32) (plain : '%' ∉ lead)
    (reads : text.foldlM Printf.Directive.read ⟨false, 0, 0, 0⟩ = some directive)
    (ends : directive.read letter = none) (long : directive.longs = 1) :
    Printf.format longBits (lead ++ '%' :: (text ++ [letter])) [⟨32, number⟩] = none := by
  refine Printf.format_misfit longBits lead text letter directive _ plain reads ends fun same => other ?_
  rw [Printf.Directive.argumentBits, long] at same
  exact same.symm

theorem long_shown_iff (letter : Char) (number : Int) (Kept : Text → Prop)
    (ends : Printf.Directive.read ⟨false, 0, 0, 1⟩ letter = none)
    (own : ∃ shown, Printf.format 32 ['%', 'l', letter] [⟨32, number⟩] = some shown ∧ Kept shown)
    (hex : ∃ shown, Printf.format 32 ['0', 'x', '%', '0', '4', 'l', 'x'] [⟨32, number⟩] = some shown ∧ Kept shown) :
    (∃ shown, Printf.format longBits
        (if format = formatDecimal then ['%', 'l', letter] else ['0', 'x', '%', '0', '4', 'l', 'x']) [⟨32, number⟩] =
          some shown ∧ Kept shown) ↔ longBits = 32 := by
  by_cases wide : longBits = 32
  · subst wide
    refine iff_of_true ?_ rfl
    split
    · exact own
    · exact hex
  · refine iff_of_false ?_ wide
    rintro ⟨shown, prints, _⟩
    split at prints
    · have undefined := long_misfit longBits [] ['l'] letter ⟨false, 0, 0, 1⟩ number wide (by decide) rfl ends rfl
      cases undefined.symm.trans prints
    · have undefined := long_misfit longBits ['0', 'x'] ['0', '4', 'l'] 'x' ⟨true, 4, 0, 1⟩ number wide (by decide) rfl rfl rfl
      cases undefined.symm.trans prints

theorem int32_survives (number : Int32)
    (fits : Fits page var) (type : var.type = .int32) :
    PageRoundTrip longBits page var format (.int32 number) ↔ longBits = 32 := by
  have low := number.le_toInt
  have high := number.toInt_lt
  have narrow : number.toInt.bmod (2 ^ 32) = number.toInt := number.toInt_bmod
  have size : var.getTypeByteCount.toNat = 4 := by rw [RemoteVariable.getTypeByteCount, type]; rfl
  have trip := word_trip Int32.ofInt Int32.toInt longBits page var format (.int32 number) number 4 32
    (if format = formatDecimal then ['%', 'l', 'd'] else ['0', 'x', '%', '0', '4', 'l', 'x']) fits size
    (int32_back number) number.ofInt_toInt (fun _ => Iff.rfl) (read_signed_decimal _ (by omega) (by omega))
    (fun _ _ => by rw [writeVariable, type]) (fun _ => by rw [readVariable, type]; simp only [size])
  exact trip.trans (long_shown_iff longBits format 'd' number.toInt (fun shown => Int32.ofInt (readStringValue shown) = number) rfl
    ⟨_, Printf.format_signed 32 [] ['l'] ⟨false, 0, 0, 1⟩ 32 _ (by decide) rfl rfl rfl,
      decimal_kept Int32.ofInt number _ 32 number.ofInt_toInt (by omega) (by omega) narrow⟩
    ⟨_, Printf.format_hex 32 ['0', 'x'] ['0', '4', 'l'] ⟨true, 4, 0, 1⟩ 32 _ (by decide) rfl rfl (.inl rfl),
      hex_kept Int32.ofInt number _ 32 4 (int32_back number _ number.ofInt_toInt) (by omega)⟩)

theorem uint32_survives (number : UInt32)
    (fits : Fits page var) (type : var.type = .uint32) :
    PageRoundTrip longBits page var format (.uint32 number) ↔ longBits = 32 := by
  have high := number.toNat_lt
  have whole : UInt32.ofInt (number.toNat : Int) = number := by rw [word32_of_cast, UInt32.ofNat_toNat]
  have back := uint32_back number _ whole
  have size : var.getTypeByteCount.toNat = 4 := by rw [RemoteVariable.getTypeByteCount, type]; rfl
  have trip := word_trip UInt32.ofInt (fun other => (other.toNat : Int)) longBits page var format (.uint32 number) number 4 32
    (if format = formatDecimal then ['%', 'l', 'u'] else ['0', 'x', '%', '0', '4', 'l', 'x']) fits size
    (uint32_back number) whole (fun _ => Iff.rfl) (read_decimal_value _ (by omega))
    (fun _ _ => by rw [writeVariable, type]) (fun _ => by rw [readVariable, type, word32_of_cast]; simp only [size])
  exact trip.trans (long_shown_iff longBits format 'u' number.toNat (fun shown => UInt32.ofInt (readStringValue shown) = number) rfl
    ⟨_, Printf.format_unsigned 32 [] ['l'] ⟨false, 0, 0, 1⟩ 32 _ (by decide) rfl rfl rfl,
      unsigned_kept UInt32.ofInt number _ 32 back (by omega)⟩
    ⟨_, Printf.format_hex 32 ['0', 'x'] ['0', '4', 'l'] ⟨true, 4, 0, 1⟩ 32 _ (by decide) rfl rfl (.inl rfl),
      hex_kept UInt32.ofInt number _ 32 4 back (by omega)⟩)

-- The hexadecimal digits of a negative number are too many for std::stoll.
theorem int64_survives (number : Int64)
    (fits : Fits page var) (type : var.type = .int64) :
    PageRoundTrip longBits page var format (.int64 number) ↔ format = formatDecimal ∨ 0 ≤ number := by
  have low := number.le_toInt
  have high := number.toInt_lt
  have narrow : number.toInt.bmod (2 ^ 64) = number.toInt := number.toInt_bmod
  have sign : 0 ≤ number ↔ 0 ≤ number.toInt := Int64.le_iff_toInt_le
  have size : var.getTypeByteCount.toNat = 8 := by rw [RemoteVariable.getTypeByteCount, type]; rfl
  have trip := word_trip Int64.ofInt Int64.toInt longBits page var format (.int64 number) number 8 64
    (if format = formatDecimal then ['%', 'l', 'l', 'd'] else ['0', 'x', '%', 'l', 'l', 'x']) fits size
    (int64_back number) number.ofInt_toInt (fun _ => Iff.rfl) (read_signed_decimal _ (by omega) (by omega))
    (fun _ _ => by rw [writeVariable, type]) (fun _ => by rw [readVariable, type]; simp only [size])
  rw [trip]
  by_cases decimalFormat : format = formatDecimal
  · refine iff_of_true ?_ (.inl decimalFormat)
    rw [if_pos decimalFormat]
    exact ⟨_, Printf.format_signed longBits [] ['l', 'l'] ⟨false, 0, 0, 2⟩ 64 _ (by decide) rfl rfl rfl,
      decimal_kept Int64.ofInt number _ 64 number.ofInt_toInt (by omega) (by omega) narrow⟩
  · have prints := Printf.format_hex longBits ['0', 'x'] ['l', 'l'] ⟨false, 0, 0, 2⟩ 64 number.toInt (by decide) rfl rfl
      (.inr rfl)
    rw [if_neg decimalFormat, or_iff_right decimalFormat, sign]
    constructor
    · rintro ⟨shown, result, parsed⟩
      by_contra negative
      have large : 2 ^ 63 ≤ (number.toInt % 2 ^ 64).toNat := by omega
      have text : shown = ['0', 'x'] ++ lowerHex 0 (number.toInt % 2 ^ 64).toNat :=
        (Option.some.inj (prints.symm.trans result)).symm
      rw [text, read_hex_overflow 0 _ large] at parsed
      rw [← parsed] at negative
      exact negative (by decide)
    · intro positive
      exact ⟨_, prints, hex_kept Int64.ofInt number _ 64 0 (int64_back number _ number.ofInt_toInt) (by omega)⟩

end Vscp.Registers
