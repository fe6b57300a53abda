import Vscp.EventText
import Vscp.Lib.BitPrefix
import Vscp.Lib.Scanf

set_option autoImplicit false

namespace Vscp.Helper

open BitPrefix NumberText Scanf
open RemoteTcp (Text isSpace)

def asUnsigned (number : Int) : UInt32 := if number.natAbs < 2 ^ 64 then UInt32.ofInt number else 0xffffffff

def asInt (number : Int) : Int32 :=
  if -2 ^ 63 ≤ number ∧ number < 2 ^ 63 then Int32.ofInt number else if number < 0 then 0 else -1

-- "%u.%u.%u.%u/%u%n" and "%u.%u.%u.%u%n", also with %d.
def quadFormat (behind : List Directive) : List Directive :=
  [.number, .literal '.', .number, .literal '.', .number, .literal '.', .number] ++ behind

def bitsFormat : List Directive := [.literal '/', .number, .place]

-- "[%49[^]]]/%u%n" and "[%49[^]]]%n"
def bracketFormat (behind : List Directive) : List Directive := [.literal '[', .word 49 ']', .literal ']'] ++ behind

structure Quad (Value : Type) where
  a : Value
  b : Value
  c : Value
  d : Value
  slash : Value
  n : Nat

def scanQuad {Value : Type} (convert : Int → Value) (full : Value) (addr : Text) : Option (Quad Value) :=
  match scan isSpace (quadFormat bitsFormat) addr with
  | ⟨[a, b, c, d, slash], _, some n⟩ => some ⟨convert a, convert b, convert c, convert d, convert slash, n⟩
  | _ =>
      match scan isSpace (quadFormat [.place]) addr with
      | ⟨[a, b, c, d], _, some n⟩ => some ⟨convert a, convert b, convert c, convert d, full, n⟩
      | _ => none

def netOf (a b c d : UInt32) : UInt32 := a <<< 24 ||| b <<< 16 ||| c <<< 8 ||| d

def maskOf (slash : UInt32) : UInt32 := if slash ≠ 0 then 0xffffffff <<< (32 - slash) else 0

def isByte (n : Int32) : Bool := 0 ≤ n ∧ n ≤ 255

structure Parsed where
  len : Nat
  net : UInt32
  mask : UInt32

-- None is the result 0, with net and mask as they were.
def vscpParseIpv4Addr (addr : Text) : Option Parsed :=
  match scanQuad asInt 32 addr with
  | some quad =>
      if isByte quad.a ∧ isByte quad.b ∧ isByte quad.c ∧ isByte quad.d ∧ quad.slash ≥ 0 ∧ quad.slash < 33 then
        if quad.n = 0 then none
        else some ⟨quad.n, netOf quad.a.toUInt32 quad.b.toUInt32 quad.c.toUInt32 quad.d.toUInt32, maskOf quad.slash.toUInt32⟩
      else none
  | none => none

abbrev Address := Vector UInt8 16

inductive Remote where
  | ipv4 (ip : UInt32)
  | ipv6 (ip : Address)
  | other

def matchIpv4 (quad : Quad UInt32) (sa : Remote) : Int :=
  if quad.a < 256 ∧ quad.b < 256 ∧ quad.c < 256 ∧ quad.d < 256 ∧ quad.slash < 33 then
    match sa with
    | .ipv4 ip => if ip &&& maskOf quad.slash = netOf quad.a quad.b quad.c quad.d then 1 else 0
    | _ => 0
  else -1

structure Literal where
  ad : Text
  slash : UInt32
  n : Nat

def scanBrackets (addr : Text) (n : Nat) : Literal :=
  match scan isSpace (bracketFormat bitsFormat) addr with
  | ⟨[slash], [ad], place⟩ => ⟨ad, asUnsigned slash, place.getD n⟩
  | _ =>
      match scan isSpace (bracketFormat [.place]) addr with
      | ⟨_, [ad], place⟩ => ⟨ad, 128, place.getD n⟩
      | _ => ⟨[], 128, 0⟩

def withoutBrackets (addr : Text) (literal : Literal) : Literal :=
  let front := addr.takeWhile (· ≠ '/')
  if '/' ∈ addr then
    if front.length < 50 then
      match scan isSpace bitsFormat (addr.drop front.length) with
      | ⟨[slash], _, some count⟩ => ⟨front, asUnsigned slash, count + front.length⟩
      | _ => { literal with n := 0 }
    else { literal with n := 0 }
  else if addr.length < 50 then ⟨addr, 128, addr.length⟩
  else literal

def byteMask (i slash : UInt32) : UInt8 :=
  if 8 * i + 8 < slash then 0xff
  else if 8 * i < slash then ((0xff : UInt32) <<< (8 * i + 8 - slash)).toUInt8
  else 0

-- inet_pton of AF_INET6.
variable (inet6 : Text → Option Address)

def matchLiteral (addr : Text) (sa : Remote) (literal : Literal) : Int :=
  if 0 < literal.n ∧ literal.n = addr.length ∧ literal.slash < 129 ∧
      (literal.ad.all fun letter => isDigitOf 16 letter ∨ letter = '.' ∨ letter = ':') ∧ 2 ≤ literal.ad.count ':' then
    match sa with
    | .ipv6 ip =>
        match inet6 literal.ad with
        | some net =>
            if ∀ i : Fin 16, ip.get i &&& byteMask (UInt32.ofNat i.val) literal.slash = net.get i then 1 else 0
        | none => -1
    | _ => 0
  else -1

def matchIpv6 (addr : Text) (sa : Remote) (noStrict : Int32) (n : Nat) : Int :=
  let literal := scanBrackets addr n
  matchLiteral inet6 addr sa (if literal.n = 0 ∧ noStrict ≠ 0 then withoutBrackets addr literal else literal)

def vscpParseMatchNet (addr : Text) (sa : Remote) (noStrict : Int32) : Int :=
  match scanQuad asUnsigned 32 addr with
  | some quad =>
      if 0 < quad.n ∧ quad.n = addr.length then matchIpv4 quad sa else matchIpv6 inet6 addr sa noStrict quad.n
  | none => matchIpv6 inet6 addr sa noStrict 0

-- What is relied on: how the texts of IPv6 addresses look. INET6_ADDRSTRLEN is 46.
structure ReadsIpv6 : Prop where
  letters : ∀ text net, inet6 text = some net →
    ∀ letter ∈ text, isDigitOf 16 letter = true ∨ letter = '.' ∨ letter = ':'
  colons : ∀ text net, inet6 text = some net → 2 ≤ text.count ':'
  dots : ∀ before behind net, inet6 (before ++ '.' :: behind) = some net → ':' ∈ before
  short : ∀ text net, inet6 text = some net → text.length < 46

structure Number (limit : Nat) where
  digits : Text
  nonempty : digits ≠ []
  short : digits.length ≤ 3
  all : ∀ letter ∈ digits, isDigitOf 10 letter = true
  fits : digitsValue 10 digits ≤ limit

def Number.value {limit : Nat} (number : Number limit) : Nat := digitsValue 10 number.digits

def bitsText {limit : Nat} : Option (Number limit) → Text
  | none => []
  | some bits => '/' :: bits.digits

def bitsOf {limit : Nat} (bits : Option (Number limit)) : Nat := bits.elim limit Number.value

inductive Pattern where
  | ipv4 (a b c d : Number 255) (bits : Option (Number 32))
  | ipv6 (brackets : Bool) (address : Text) (net : Address) (reads : inet6 address = some net) (bits : Option (Number 128))

variable {inet6}

def Pattern.text : Pattern inet6 → Text
  | .ipv4 a b c d bits =>
      a.digits ++ '.' :: (b.digits ++ '.' :: (c.digits ++ '.' :: (d.digits ++ bitsText bits)))
  | .ipv6 brackets address _ _ bits =>
      if brackets then '[' :: (address ++ ']' :: bitsText bits) else address ++ bitsText bits

def ipv4Address (a b c d : Number 255) : BitVec 32 :=
  BitVec.ofNat 32 (a.value * 2 ^ 24 + b.value * 2 ^ 16 + c.value * 2 ^ 8 + d.value)

def bitOf (address : Address) (k : Nat) : Bool := (address.toList.getD (k / 8) 0).toBitVec.getMsbD (k % 8)

def Matches : Pattern inet6 → Remote → Prop
  | .ipv4 a b c d bits, .ipv4 ip => SameBits (bitsOf bits) ip.toBitVec (ipv4Address a b c d)
  | .ipv6 _ _ net _ bits, .ipv6 ip => ∀ k < bitsOf bits, bitOf ip k = bitOf net k
  | _, _ => False

def NoHostBits : Pattern inet6 → Prop
  | .ipv4 a b c d bits => NoneBehind (bitsOf bits) (ipv4Address a b c d)
  | .ipv6 _ _ net _ bits => ∀ k, bitsOf bits ≤ k → k < 128 → bitOf net k = false

def Readable (noStrict : Int32) : Pattern inet6 → Prop
  | .ipv4 .. => True
  | .ipv6 brackets .. => brackets = true ∨ noStrict ≠ 0

structure MatchesRight (pattern : Pattern inet6) (sa : Remote) (noStrict : Int32) : Prop where
  matched : vscpParseMatchNet inet6 pattern.text sa noStrict = 1 ↔ Matches pattern sa
  parsed : ∀ a b c d bits, pattern = .ipv4 a b c d bits → ∃ parsed, vscpParseIpv4Addr pattern.text = some parsed ∧
    ∀ ip, sa = .ipv4 ip → (ip &&& parsed.mask = parsed.net ↔ Matches pattern sa)

theorem as_unsigned_small (value : Nat) (small : value < 2 ^ 32) : asUnsigned value = UInt32.ofNat value := by
  rw [asUnsigned, if_pos (by omega)]
  exact word32_of_cast value

theorem as_int_small (value : Nat) (small : value < 2 ^ 31) : asInt value = Int32.ofNat value := by
  rw [asInt, if_pos (by omega), Int32.ofInt_eq_ofNat]

section quads

variable {limit : Nat}

variable (number : Number limit)

theorem number_small (narrow : limit < 2 ^ 31) : number.value < 2 ^ 31 :=
  Nat.lt_of_le_of_lt number.fits narrow

theorem scan_field (more : List Directive) (read : Nat) (rest : Text)
    (stop : ∀ mark later, rest = mark :: later → isDigitOf 10 mark = false) :
    scanFrom isSpace (.number :: more) read (number.digits ++ rest) =
      { scanFrom isSpace more (read + number.digits.length) rest with
        numbers := number.value :: (scanFrom isSpace more (read + number.digits.length) rest).numbers } :=
  scan_number isSpace digit_not_space more read number.digits rest number.nonempty number.all stop

theorem mark_stops (mark : Char) (rest : Text) (foreign : isDigitOf 10 mark = false) :
    ∀ first later, mark :: rest = first :: later → isDigitOf 10 first = false := by
  intro first later same
  cases same
  exact foreign

variable (bits : Option (Number limit))

theorem bits_text_stops :
    ∀ mark later, bitsText bits = mark :: later → isDigitOf 10 mark = false := by
  intro mark later same
  cases bits with
  | none => cases same
  | some bits =>
      cases same
      rfl

theorem scan_bits (read : Nat) (bits : Option (Number limit)) :
    scanFrom isSpace bitsFormat read (bitsText bits) =
      bits.elim nothing fun bits => ⟨[(bits.value : Int)], [], some (read + 1 + bits.digits.length)⟩ := by
  cases bits with
  | none => rfl
  | some bits =>
      have field := scan_field bits [.place] (read + 1) [] (by simp)
      rw [List.append_nil] at field
      simp only [bitsFormat, bitsText, scan_literal, field]
      rfl

theorem scan_quad_text (a b c d : Number 255) (behind : List Directive) (rest : Text)
    (stop : ∀ mark later, rest = mark :: later → isDigitOf 10 mark = false) :
    let later := scanFrom isSpace behind (a.digits.length + 1 + b.digits.length + 1 + c.digits.length + 1 + d.digits.length) rest
    scan isSpace (quadFormat behind) (a.digits ++ '.' :: (b.digits ++ '.' :: (c.digits ++ '.' :: (d.digits ++ rest)))) =
      { later with numbers := (a.value : Int) :: (b.value : Int) :: (c.value : Int) :: (d.value : Int) :: later.numbers } := by
  have dot : isDigitOf 10 '.' = false := rfl
  simp only [scan, quadFormat, List.cons_append, List.nil_append]
  rw [scan_field a _ _ _ (mark_stops '.' _ dot), scan_literal, scan_field b _ _ _ (mark_stops '.' _ dot), scan_literal,
    scan_field c _ _ _ (mark_stops '.' _ dot), scan_literal, scan_field d _ _ _ stop, Nat.zero_add]

theorem scan_quad_of_pattern {Value : Type} (convert : Int → Value) (full : Value) (a b c d : Number 255)
    (bits : Option (Number 32)) :
    scanQuad convert full (Pattern.ipv4 a b c d bits : Pattern inet6).text =
      some ⟨convert a.value, convert b.value, convert c.value, convert d.value,
        bits.elim full fun bits => convert bits.value, (Pattern.ipv4 a b c d bits : Pattern inet6).text.length⟩ := by
  have first := scan_quad_text a b c d bitsFormat (bitsText bits) (bits_text_stops bits)
  have second := scan_quad_text a b c d [.place] (bitsText bits) (bits_text_stops bits)
  rw [scan_bits] at first
  simp only [Pattern.text, scanQuad, first, second]
  cases bits with
  | none =>
      simp only [Option.elim_none, nothing, scanFrom, bitsText]
      congr 2
      simp
      omega
  | some bits =>
      simp only [Option.elim_some, bitsText]
      congr 2
      simp
      omega

variable (a b c d : Number 255)

theorem net_of_value :
    (netOf (UInt32.ofNat a.value) (UInt32.ofNat b.value) (UInt32.ofNat c.value) (UInt32.ofNat d.value)).toBitVec =
      ipv4Address a b c d := by
  have aSmall : a.value ≤ 255 := a.fits
  have bSmall : b.value ≤ 255 := b.fits
  have cSmall : c.value ≤ 255 := c.fits
  have dSmall : d.value ≤ 255 := d.fits
  have places : UInt32.toNat 24 % 32 = 24 ∧ UInt32.toNat 16 % 32 = 16 ∧ UInt32.toNat 8 % 32 = 8 := ⟨rfl, rfl, rfl⟩
  have word (number : Nat) (small : number ≤ 255) : (UInt32.ofNat number).toNat = number := by
    rw [UInt32.toNat_ofNat', Nat.mod_eq_of_lt (by omega)]
  have shifted (number shift : Nat) (small : number * 2 ^ shift < 2 ^ 32) :
      number <<< shift % 2 ^ 32 = number <<< shift := by
    rw [Nat.shiftLeft_eq, Nat.mod_eq_of_lt small]
  apply BitVec.eq_of_toNat_eq
  rw [UInt32.toNat_toBitVec, netOf, UInt32.toNat_or, UInt32.toNat_or, UInt32.toNat_or, UInt32.toNat_shiftLeft,
    UInt32.toNat_shiftLeft, UInt32.toNat_shiftLeft, word _ aSmall, word _ bSmall, word _ cSmall, word _ dSmall, places.1,
    places.2.1, places.2.2, shifted _ 24 (by omega), shifted _ 16 (by omega), shifted _ 8 (by omega), ipv4Address,
    BitVec.toNat_ofNat, Nat.mod_eq_of_lt (by omega)]
  have low : c.value <<< 8 ||| d.value = c.value * 2 ^ 8 + d.value := by
    rw [← Nat.shiftLeft_add_eq_or_of_lt (by omega), Nat.shiftLeft_eq]
  have middle : b.value <<< 16 ||| (c.value <<< 8 ||| d.value) = b.value * 2 ^ 16 + (c.value * 2 ^ 8 + d.value) := by
    rw [low, ← Nat.shiftLeft_add_eq_or_of_lt (by omega), Nat.shiftLeft_eq]
  rw [Nat.or_assoc, Nat.or_assoc, middle, ← Nat.shiftLeft_add_eq_or_of_lt (by omega), Nat.shiftLeft_eq]
  omega

theorem mask_of_bits (bits : Nat) (fits : bits ≤ 32) : (maskOf (UInt32.ofNat bits)).toBitVec = mask 32 bits := by
  have all : ∀ bits : Fin 33, (maskOf (UInt32.ofNat bits.val)).toBitVec = mask 32 bits.val := by decide
  exact all ⟨bits, by omega⟩

theorem bits_fit : bitsOf bits ≤ limit := by
  cases bits with
  | none => exact Nat.le_refl limit
  | some bits => exact bits.fits

theorem quad_matches_iff (bits : Nat) (fits : bits ≤ 32) (ip : UInt32) :
    ip &&& maskOf (UInt32.ofNat bits) =
        netOf (UInt32.ofNat a.value) (UInt32.ofNat b.value) (UInt32.ofNat c.value) (UInt32.ofNat d.value) ↔
      SameBits bits ip.toBitVec (ipv4Address a b c d) ∧ NoneBehind bits (ipv4Address a b c d) := by
  rw [← UInt32.toBitVec_inj, UInt32.toBitVec_and, mask_of_bits bits fits, net_of_value]
  exact masked_iff bits fits _ _

end quads

theorem byte_small (number : Number 255) : UInt32.ofNat number.value < 256 := by
  have fits : number.value ≤ 255 := number.fits
  have bound : UInt32.toNat 256 = 256 := rfl
  apply UInt32.lt_iff_toNat_lt.mpr
  rw [UInt32.toNat_ofNat', bound]
  omega

theorem slash_small (bits : Option (Number 32)) : UInt32.ofNat (bitsOf bits) < 33 := by
  have most := bits_fit bits
  have bound : UInt32.toNat 33 = 33 := rfl
  apply UInt32.lt_iff_toNat_lt.mpr
  rw [UInt32.toNat_ofNat', bound]
  omega

theorem number_unsigned {limit : Nat} (narrow : limit < 2 ^ 31) (number : Number limit) :
    asUnsigned number.value = UInt32.ofNat number.value :=
  as_unsigned_small _ (Nat.lt_trans (number_small number narrow) (by decide))

theorem quad_unsigned (a b c d : Number 255) (bits : Option (Number 32)) :
    scanQuad asUnsigned 32 (Pattern.ipv4 a b c d bits : Pattern inet6).text =
      some ⟨UInt32.ofNat a.value, UInt32.ofNat b.value, UInt32.ofNat c.value, UInt32.ofNat d.value,
        UInt32.ofNat (bitsOf bits), (Pattern.ipv4 a b c d bits : Pattern inet6).text.length⟩ := by
  have narrow : 255 < 2 ^ 31 := by decide
  rw [scan_quad_of_pattern, number_unsigned narrow, number_unsigned narrow, number_unsigned narrow,
    number_unsigned narrow]
  cases bits with
  | none => rfl
  | some bits => rw [Option.elim_some, number_unsigned (by decide) bits, bitsOf, Option.elim_some]

theorem match_ipv4 (a b c d : Number 255) (bits : Option (Number 32)) (sa : Remote) (noStrict : Int32) :
    vscpParseMatchNet inet6 (Pattern.ipv4 a b c d bits : Pattern inet6).text sa noStrict = 1 ↔
      Matches (.ipv4 a b c d bits : Pattern inet6) sa ∧ NoHostBits (.ipv4 a b c d bits : Pattern inet6) := by
  have positive : 0 < (Pattern.ipv4 a b c d bits : Pattern inet6).text.length := by
    rw [Pattern.text, List.length_append, List.length_cons]
    omega
  simp only [vscpParseMatchNet, quad_unsigned, and_true, if_pos positive, matchIpv4]
  rw [if_pos ⟨byte_small a, byte_small b, byte_small c, byte_small d, slash_small bits⟩]
  cases sa with
  | ipv4 ip =>
      have test := quad_matches_iff a b c d (bitsOf bits) (bits_fit bits) ip
      simp only [Matches, NoHostBits, ← test]
      by_cases same : ip &&& maskOf (UInt32.ofNat (bitsOf bits)) =
          netOf (UInt32.ofNat a.value) (UInt32.ofNat b.value) (UInt32.ofNat c.value) (UInt32.ofNat d.value)
      · rw [if_pos same]
        exact iff_of_true rfl same
      · rw [if_neg same]
        exact iff_of_false zero_ne_one same
  | ipv6 ip => exact iff_of_false zero_ne_one fun both => both.1
  | other => exact iff_of_false zero_ne_one fun both => both.1

theorem byte_int (number : Number 255) :
    isByte (asInt number.value) = true ∧ (asInt number.value).toUInt32 = UInt32.ofNat number.value := by
  have all : ∀ value : Fin 256,
      isByte (Int32.ofNat value.val) = true ∧ (Int32.ofNat value.val).toUInt32 = UInt32.ofNat value.val := by decide +kernel
  rw [as_int_small _ (number_small number (by decide))]
  exact all ⟨number.value, Nat.lt_succ_of_le number.fits⟩

theorem slash_int (bits : Option (Number 32)) :
    ∃ slash : Int32, bits.elim 32 (fun bits => asInt bits.value) = slash ∧ slash ≥ 0 ∧ slash < 33 ∧
      slash.toUInt32 = UInt32.ofNat (bitsOf bits) := by
  have all : ∀ value : Fin 33,
      Int32.ofNat value.val ≥ 0 ∧ Int32.ofNat value.val < 33 ∧
        (Int32.ofNat value.val).toUInt32 = UInt32.ofNat value.val := by decide
  refine ⟨Int32.ofNat (bitsOf bits), ?_, all ⟨bitsOf bits, Nat.lt_succ_of_le (bits_fit bits)⟩⟩
  cases bits with
  | none => rfl
  | some bits => rw [Option.elim_some, as_int_small _ (number_small bits (by decide)), bitsOf, Option.elim_some]

theorem parsed_ipv4 (a b c d : Number 255) (bits : Option (Number 32)) :
    vscpParseIpv4Addr (Pattern.ipv4 a b c d bits : Pattern inet6).text =
      some ⟨(Pattern.ipv4 a b c d bits : Pattern inet6).text.length,
        netOf (UInt32.ofNat a.value) (UInt32.ofNat b.value) (UInt32.ofNat c.value) (UInt32.ofNat d.value),
        maskOf (UInt32.ofNat (bitsOf bits))⟩ := by
  have positive : (Pattern.ipv4 a b c d bits : Pattern inet6).text.length ≠ 0 := by
    rw [Pattern.text, List.length_append, List.length_cons]
    omega
  obtain ⟨slash, slashIs, low, high, word⟩ := slash_int bits
  simp only [vscpParseIpv4Addr, scan_quad_of_pattern, slashIs]
  rw [if_pos ⟨(byte_int a).1, (byte_int b).1, (byte_int c).1, (byte_int d).1, low, high⟩, if_neg positive,
    (byte_int a).2, (byte_int b).2, (byte_int c).2, (byte_int d).2, word]

theorem byte_mask_of_bits (i : Fin 16) (bits : Nat) (fits : bits ≤ 128) :
    (byteMask (UInt32.ofNat i.val) (UInt32.ofNat bits)).toBitVec = mask 8 (min (bits - 8 * i.val) 8) := by
  have all : ∀ i : Fin 16, ∀ bits : Fin 129,
      (byteMask (UInt32.ofNat i.val) (UInt32.ofNat bits.val)).toBitVec = mask 8 (min (bits.val - 8 * i.val) 8) := by
    decide
  exact all i ⟨bits, by omega⟩

theorem bit_of_byte (address : Address) (i : Fin 16) (k : Nat) (inside : k < 8) :
    bitOf address (8 * i.val + k) = (address.get i).toBitVec.getMsbD k := by
  have byte : (8 * i.val + k) / 8 = i.val := by omega
  have bit : (8 * i.val + k) % 8 = k := by omega
  have place : i.val < address.toList.length := by
    rw [Vector.length_toList]
    exact i.isLt
  rw [bitOf, byte, bit, List.getD_eq_getElem _ _ place]
  rfl

theorem address_matches_iff (bits : Nat) (fits : bits ≤ 128) (ip net : Address) :
    (∀ i : Fin 16, ip.get i &&& byteMask (UInt32.ofNat i.val) (UInt32.ofNat bits) = net.get i) ↔
      (∀ k < bits, bitOf ip k = bitOf net k) ∧ ∀ k, bits ≤ k → k < 128 → bitOf net k = false := by
  have bytes (i : Fin 16) : ip.get i &&& byteMask (UInt32.ofNat i.val) (UInt32.ofNat bits) = net.get i ↔
      SameBits (min (bits - 8 * i.val) 8) (ip.get i).toBitVec (net.get i).toBitVec ∧
        NoneBehind (min (bits - 8 * i.val) 8) (net.get i).toBitVec := by
    rw [← UInt8.toBitVec_inj, UInt8.toBitVec_and, byte_mask_of_bits i bits fits]
    exact masked_iff _ (Nat.min_le_right _ _) _ _
  simp only [bytes]
  constructor
  · intro all
    have place (k : Nat) (inside : k < 128) : ∃ i : Fin 16, ∃ bit, bit < 8 ∧ k = 8 * i.val + bit :=
      ⟨⟨k / 8, by omega⟩, k % 8, by omega, by simp only; omega⟩
    constructor
    · intro k inside
      obtain ⟨i, bit, small, rfl⟩ := place k (by omega)
      rw [bit_of_byte ip i bit small, bit_of_byte net i bit small]
      exact (all i).1 bit (by omega)
    · intro k behind inside
      obtain ⟨i, bit, small, rfl⟩ := place k inside
      rw [bit_of_byte net i bit small]
      exact (all i).2 bit (by omega)
  · rintro ⟨same, none⟩ i
    constructor
    · intro bit inside
      have small : bit < 8 := by omega
      rw [← bit_of_byte ip i bit small, ← bit_of_byte net i bit small]
      exact same _ (by omega)
    · intro bit behind
      by_cases small : bit < 8
      · rw [← bit_of_byte net i bit small]
        exact none _ (by omega) (by omega)
      · exact BitVec.getMsbD_of_ge _ _ (by omega)

section literals

variable (libc : ReadsIpv6 inet6) (address : Text) (net : Address) (reads : inet6 address = some net)
include libc reads

theorem address_letter (letter : Char) (inside : letter ∈ address) :
    letter ≠ '/' ∧ letter ≠ '[' ∧ letter ≠ ']' ∧ letter ≠ '-' ∧ letter ≠ '+' ∧ isSpace letter = false := by
  obtain digit | rfl | rfl := libc.letters address net reads letter inside
  · have other (mark : Char) (foreign : isDigitOf 16 mark = false) : letter ≠ mark := by
      rintro rfl
      rw [foreign] at digit
      cases digit
    exact ⟨other _ rfl, other _ rfl, other _ rfl, other _ rfl, other _ rfl, base_digit_not_space 16 letter digit⟩
  · decide
  · decide

theorem address_nonempty : ∃ first rest, address = first :: rest := by
  cases address with
  | nil => exact absurd (libc.colons [] net reads) (by decide)
  | cons first rest => exact ⟨first, rest, rfl⟩

theorem no_quad_in_address (behind : List Directive) (rest : Text) :
    scan isSpace (quadFormat behind) (address ++ rest) = nothing ∨
      ∃ number, scan isSpace (quadFormat behind) (address ++ rest) = ⟨[number], [], none⟩ := by
  obtain ⟨first, others, whole⟩ := address_nonempty libc address net reads
  by_cases digit : isDigitOf 10 first = true
  · right
    have parts := List.takeWhile_append_dropWhile (p := isDigitOf 10) (l := address)
    have all : ∀ letter ∈ address.takeWhile (isDigitOf 10), isDigitOf 10 letter = true :=
      fun letter inside => List.mem_takeWhile_imp inside
    have nonempty : address.takeWhile (isDigitOf 10) ≠ [] := by
      rw [whole, List.takeWhile_cons, digit, if_pos rfl]
      exact List.cons_ne_nil _ _
    have noColon : ':' ∉ address.takeWhile (isDigitOf 10) := fun colon => absurd (all ':' colon) (by decide)
    cases left : address.dropWhile (isDigitOf 10) with
    | nil =>
        rw [left, List.append_nil] at parts
        rw [parts] at noColon
        have colons := libc.colons address net reads
        rw [List.count_eq_zero_of_not_mem noColon] at colons
        omega
    | cons mark later =>
        have foreign : isDigitOf 10 mark = false := by
          have head := List.head_dropWhile_not (isDigitOf 10) (l := address) (by rw [left]; exact List.cons_ne_nil _ _)
          simpa only [left, List.head_cons] using head
        have noDot : mark ≠ '.' := by
          rintro rfl
          rw [← parts, left] at reads
          exact noColon (libc.dots _ _ _ reads)
        rw [left] at parts
        refine ⟨digitsValue 10 (address.takeWhile (isDigitOf 10)), ?_⟩
        rw [← parts, List.append_assoc, List.cons_append]
        simp only [scan, quadFormat, List.cons_append, List.nil_append]
        rw [scan_number isSpace digit_not_space _ _ _ _ nonempty all (mark_stops mark _ foreign),
          scan_other_literal isSpace '.' mark _ _ _ noDot, parts]
        rfl
  · left
    obtain ⟨-, -, -, minus, plus, space⟩ := address_letter libc address net reads first (by rw [whole]; exact List.mem_cons_self)
    rw [whole, List.cons_append]
    exact scan_no_number isSpace _ _ _ _ space minus plus (Bool.eq_false_iff.mpr digit)

theorem quad_none (rest : Text) (convert : Int → UInt32) (full : UInt32) :
    scanQuad convert full (address ++ rest) = none := by
  have first := no_quad_in_address libc address net reads bitsFormat rest
  have second := no_quad_in_address libc address net reads [.place] rest
  unfold scanQuad
  rcases first with first | ⟨number, first⟩ <;> rcases second with second | ⟨other, second⟩ <;> rw [first, second] <;> rfl

theorem bracketed_scan (bits : Option (Number 128)) (n : Nat) :
    scanBrackets ('[' :: (address ++ ']' :: bitsText bits)) n =
      ⟨address, UInt32.ofNat (bitsOf bits), ('[' :: (address ++ ']' :: bitsText bits)).length⟩ := by
  obtain ⟨first, others, whole⟩ := address_nonempty libc address net reads
  have nonempty : address ≠ [] := by
    rw [whole]
    exact List.cons_ne_nil _ _
  have short : address.length ≤ 49 := Nat.le_trans (Nat.le_of_lt (libc.short address net reads)) (by decide)
  have closing : ']' ∉ address := fun inside => (address_letter libc address net reads ']' inside).2.2.1 rfl
  have word (behind : List Directive) : scan isSpace (bracketFormat behind) ('[' :: (address ++ ']' :: bitsText bits)) =
      let later := scanFrom isSpace behind (1 + address.length + 1) (bitsText bits)
      { later with words := address :: later.words } := by
    simp only [scan, bracketFormat, List.cons_append, List.nil_append, scan_literal]
    rw [scan_word isSpace 49 ']' _ _ address _ nonempty short closing, scan_literal]
  rw [scanBrackets, word, word, scan_bits]
  cases bits with
  | none =>
      simp only [Option.elim_none, nothing, scanFrom, Option.getD_some, bitsOf, bitsText]
      congr 1
      simp
      omega
  | some bits =>
      simp only [Option.elim_some, nothing, bitsOf, bitsText, number_unsigned (show 128 < 2 ^ 31 by decide) bits,
        Option.getD_some]
      congr 1
      simp
      omega

theorem unbracketed_scan (rest : Text) (n : Nat) : scanBrackets (address ++ rest) n = ⟨[], 128, 0⟩ := by
  obtain ⟨first, others, whole⟩ := address_nonempty libc address net reads
  have other := (address_letter libc address net reads first (by rw [whole]; exact List.mem_cons_self)).2.1
  have none (behind : List Directive) : scan isSpace (bracketFormat behind) (address ++ rest) = nothing := by
    rw [whole, List.cons_append]
    exact scan_other_literal isSpace '[' first _ _ _ other
  rw [scanBrackets, none, none]
  rfl

theorem without_brackets_scan (bits : Option (Number 128)) (literal : Literal) :
    withoutBrackets (address ++ bitsText bits) literal =
      ⟨address, UInt32.ofNat (bitsOf bits), (address ++ bitsText bits).length⟩ := by
  have noSlash : '/' ∉ address := fun inside => (address_letter libc address net reads '/' inside).1 rfl
  have short : address.length < 50 := Nat.lt_trans (libc.short address net reads) (by decide)
  have all : ∀ letter ∈ address, decide (letter ≠ '/') = true :=
    fun letter inside => decide_eq_true fun same => noSlash (same ▸ inside)
  rw [withoutBrackets]
  cases bits with
  | none =>
      simp only [bitsText, List.append_nil, if_neg noSlash, if_pos short]
      rfl
  | some bits =>
      have front : (address ++ bitsText (some bits)).takeWhile (· ≠ '/') = address := by
        rw [List.takeWhile_append_of_pos all, bitsText]
        simp
      have slash : '/' ∈ address ++ bitsText (some bits) := by
        rw [bitsText]
        simp
      have behind := scan_bits 0 (some bits)
      simp only [front, if_pos slash, if_pos short, List.drop_left, scan, behind, Option.elim_some,
        number_unsigned (show 128 < 2 ^ 31 by decide) bits]
      simp only [bitsOf, Option.elim_some, bitsText]
      congr 1
      simp
      omega

theorem literal_matches_iff (addr : Text) (nonempty : 0 < addr.length) (bits : Option (Number 128)) (sa : Remote) :
    matchLiteral inet6 addr sa ⟨address, UInt32.ofNat (bitsOf bits), addr.length⟩ = 1 ↔
      ∃ ip, sa = .ipv6 ip ∧ (∀ k < bitsOf bits, bitOf ip k = bitOf net k) ∧
        ∀ k, bitsOf bits ≤ k → k < 128 → bitOf net k = false := by
  have most := bits_fit bits
  have small : UInt32.ofNat (bitsOf bits) < 129 := by
    have bound : UInt32.toNat 129 = 129 := rfl
    apply UInt32.lt_iff_toNat_lt.mpr
    rw [UInt32.toNat_ofNat', bound]
    omega
  have letters : (address.all fun letter => isDigitOf 16 letter ∨ letter = '.' ∨ letter = ':') = true :=
    List.all_eq_true.mpr fun letter inside => decide_eq_true (libc.letters address net reads letter inside)
  unfold matchLiteral
  rw [if_pos ⟨nonempty, rfl, small, letters, libc.colons address net reads⟩]
  cases sa with
  | ipv4 ip =>
      refine iff_of_false zero_ne_one ?_
      rintro ⟨own, same, -⟩
      cases same
  | other =>
      refine iff_of_false zero_ne_one ?_
      rintro ⟨own, same, -⟩
      cases same
  | ipv6 ip =>
      have test := address_matches_iff (bitsOf bits) most ip net
      simp only [reads]
      by_cases same : ∀ i : Fin 16, ip.get i &&& byteMask (UInt32.ofNat i.val) (UInt32.ofNat (bitsOf bits)) = net.get i
      · rw [if_pos same]
        exact iff_of_true rfl ⟨ip, rfl, test.mp same⟩
      · rw [if_neg same]
        refine iff_of_false zero_ne_one ?_
        rintro ⟨own, ownIs, both⟩
        cases ownIs
        exact same (test.mpr both)

theorem match_ipv6 (brackets : Bool) (bits : Option (Number 128)) (sa : Remote) (noStrict : Int32) :
    vscpParseMatchNet inet6 (Pattern.ipv6 brackets address net reads bits).text sa noStrict = 1 ↔
      Matches (.ipv6 brackets address net reads bits) sa ∧ NoHostBits (.ipv6 brackets address net reads bits) ∧
        Readable noStrict (.ipv6 brackets address net reads bits) := by
  obtain ⟨first, others, whole⟩ := address_nonempty libc address net reads
  have family : (∃ ip, sa = .ipv6 ip ∧ (∀ k < bitsOf bits, bitOf ip k = bitOf net k) ∧
        ∀ k, bitsOf bits ≤ k → k < 128 → bitOf net k = false) ↔
      Matches (.ipv6 brackets address net reads bits) sa ∧ NoHostBits (.ipv6 brackets address net reads bits) := by
    cases sa with
    | ipv4 ip => exact iff_of_false (fun given => by obtain ⟨own, same, -⟩ := given; cases same) fun both => both.1
    | other => exact iff_of_false (fun given => by obtain ⟨own, same, -⟩ := given; cases same) fun both => both.1
    | ipv6 ip =>
        constructor
        · rintro ⟨own, same, both⟩
          cases same
          exact both
        · intro both
          exact ⟨ip, rfl, both⟩
  cases brackets with
  | true =>
      have noNumber (behind : List Directive) :
          scan isSpace (quadFormat behind) ('[' :: (address ++ ']' :: bitsText bits)) = nothing :=
        scan_no_number isSpace _ _ _ _ rfl (by decide) (by decide) rfl
      have noQuad : scanQuad asUnsigned 32 ('[' :: (address ++ ']' :: bitsText bits)) = none := by
        unfold scanQuad
        rw [noNumber, noNumber]
        rfl
      have literal := literal_matches_iff libc address net reads ('[' :: (address ++ ']' :: bitsText bits))
        (Nat.succ_pos _) bits sa
      simp only [vscpParseMatchNet, Pattern.text, if_true, noQuad, matchIpv6, bracketed_scan libc address net reads]
      rw [if_neg (fun empty => absurd empty.1 (Nat.succ_ne_zero _)), literal, family]
      exact ⟨fun both => ⟨both.1, both.2, .inl rfl⟩, fun all => ⟨all.1, all.2.1⟩⟩
  | false =>
      have positive : 0 < (address ++ bitsText bits).length := by
        rw [whole, List.cons_append]
        exact Nat.succ_pos _
      have literal := literal_matches_iff libc address net reads (address ++ bitsText bits) positive bits sa
      simp only [vscpParseMatchNet, Pattern.text, Bool.false_eq_true, if_false, quad_none libc address net reads, matchIpv6,
        unbracketed_scan libc address net reads, true_and]
      by_cases strict : noStrict = 0
      · rw [if_neg (fun lenient => lenient strict)]
        refine iff_of_false ?_ ?_
        · unfold matchLiteral
          rw [if_neg (fun all => absurd all.1 (Nat.lt_irrefl 0))]
          decide
        · rintro ⟨-, -, brackets | lenient⟩
          · cases brackets
          · exact lenient strict
      · rw [if_pos strict, without_brackets_scan libc address net reads, literal, family]
        exact ⟨fun both => ⟨both.1, both.2, .inr strict⟩, fun all => ⟨all.1, all.2.1⟩⟩

end literals

theorem match_iff (libc : ReadsIpv6 inet6) (pattern : Pattern inet6) (sa : Remote) (noStrict : Int32) :
    vscpParseMatchNet inet6 pattern.text sa noStrict = 1 ↔
      Matches pattern sa ∧ NoHostBits pattern ∧ Readable noStrict pattern := by
  cases pattern with
  | ipv4 a b c d bits =>
      rw [match_ipv4]
      exact ⟨fun both => ⟨both.1, both.2, trivial⟩, fun all => ⟨all.1, all.2.1⟩⟩
  | ipv6 brackets address net reads bits => exact match_ipv6 libc address net reads brackets bits sa noStrict

theorem matches_right_iff (libc : ReadsIpv6 inet6) (pattern : Pattern inet6) (sa : Remote) (noStrict : Int32) :
    MatchesRight pattern sa noStrict ↔ (Matches pattern sa → NoHostBits pattern ∧ Readable noStrict pattern) := by
  have matched := match_iff libc pattern sa noStrict
  constructor
  · intro right same
    exact (matched.mp (right.matched.mpr same)).2
  · intro fits
    refine ⟨matched.trans ⟨fun all => all.1, fun same => ⟨same, fits same⟩⟩, ?_⟩
    rintro a b c d bits rfl
    refine ⟨_, parsed_ipv4 a b c d bits, ?_⟩
    rintro ip rfl
    have test := quad_matches_iff a b c d (bitsOf bits) (bits_fit bits) ip
    exact test.trans ⟨fun both => both.1, fun same => ⟨same, (fits same).1⟩⟩

def readDocumentation (text : Text) : Option Address :=
  if text = "2001:db8::".toList then some #v[0x20, 0x01, 0x0d, 0xb8, 0, 0, 0, 0, 0, 0, 0, 0, 0, 0, 0, 0] else none

theorem read_documentation : ReadsIpv6 readDocumentation := by
  have only (text : Text) (net : Address) (reads : readDocumentation text = some net) : text = "2001:db8::".toList := by
    by_contra other
    rw [readDocumentation, if_neg other] at reads
    cases reads
  refine ⟨fun text net reads => ?_, fun text net reads => ?_, fun before behind net reads => ?_, fun text net reads => ?_⟩
  · have all : ("2001:db8::".toList.all fun letter => isDigitOf 16 letter ∨ letter = '.' ∨ letter = ':') = true := by
      decide
    rw [only text net reads]
    exact fun letter inside => of_decide_eq_true (List.all_eq_true.mp all letter inside)
  · rw [only text net reads]
    decide
  · have dot : '.' ∈ "2001:db8::".toList := by
      rw [← only _ net reads]
      simp
    exact absurd dot (by decide)
  · rw [only text net reads]
    decide

def number (limit : Nat) (digits : Text)
    (fits : digits ≠ [] ∧ digits.length ≤ 3 ∧ digits.all (isDigitOf 10) = true ∧ digitsValue 10 digits ≤ limit) :
    Number limit :=
  ⟨digits, fits.1, fits.2.1, List.all_eq_true.mp fits.2.2.1, fits.2.2.2⟩

def documentation (brackets : Bool) : Pattern readDocumentation :=
  .ipv6 brackets "2001:db8::".toList #v[0x20, 0x01, 0x0d, 0xb8, 0, 0, 0, 0, 0, 0, 0, 0, 0, 0, 0, 0] rfl
    (some (number 128 ['3', '2'] (by decide)))

def documentationHost : Remote := .ipv6 #v[0x20, 0x01, 0x0d, 0xb8, 0, 0, 0, 0, 0, 0, 0, 0, 0, 0, 0, 1]

theorem matches_right_iff_documentation :
    MatchesRight (documentation false) documentationHost 1 ↔
      (Matches (documentation false) documentationHost →
        NoHostBits (documentation false) ∧ Readable 1 (documentation false)) :=
  matches_right_iff read_documentation (documentation false) documentationHost 1

def ownHost : Pattern readDocumentation :=
  .ipv4 (number 255 ['1', '9', '2'] (by decide)) (number 255 ['1', '6', '8'] (by decide))
    (number 255 ['1'] (by decide)) (number 255 ['9'] (by decide))
    (some (number 32 ['2', '4'] (by decide)))

-- 192.168.1.9/24 does not match its own address, and 2001:db8::/32 not its own where no_strict is zero.
theorem host_bits_match_nothing :
    ownHost.text = "192.168.1.9/24".toList ∧
      vscpParseMatchNet readDocumentation ownHost.text (.ipv4 0xc0a80109) 1 = 0 ∧
      ¬ MatchesRight ownHost (.ipv4 0xc0a80109) 1 ∧
      ¬ MatchesRight (documentation false) documentationHost 0 := by
  refine ⟨by decide, by decide, fun right => ?_, fun right => ?_⟩
  · have own : (0xc0a80109 : UInt32).toBitVec = ipv4Address (number 255 ['1', '9', '2'] (by decide))
        (number 255 ['1', '6', '8'] (by decide)) (number 255 ['1'] (by decide))
        (number 255 ['9'] (by decide)) := by
      decide
    have same : Matches ownHost (.ipv4 0xc0a80109) := fun k _ => congrArg (BitVec.getMsbD · k) own
    exact absurd (right.matched.mpr same) (by decide)
  · have same : Matches (documentation false) documentationHost := by
      change ∀ k < 32, _
      decide
    exact absurd (right.matched.mpr same) (by decide)

end Vscp.Helper
