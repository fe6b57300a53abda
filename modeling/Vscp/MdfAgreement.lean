import Vscp.MdfRun
import Vscp.RemoteRoundTrip

set_option autoImplicit false

namespace Vscp.ModuleDescription

open RemoteTcp (Text trim isSpace makeUpper)
open SaxHandler (Node)
open Printf (signedDecimal)
open NumberText (decimal decimal_digits isDigitOf)

section texts

theorem space_not_alpha (letter : Char) (space : isSpace letter = true) : letter.isAlpha = false := by
  rcases of_decide_eq_true space with rfl | ⟨_, low⟩
  · rfl
  · have bound : letter.val ≤ 13 := low
    have upper : letter.isUpper = false :=
      decide_eq_false fun range => absurd (UInt32.le_trans range.1 bound) (by decide)
    have lower : letter.isLower = false := by
      rw [Char.isLower, Bool.and_eq_false_iff]
      exact .inl (decide_eq_false fun high => absurd (UInt32.le_trans high bound) (by decide))
    rw [Char.isAlpha, upper, lower]
    rfl

theorem lower_space (letter : Char) : isSpace letter.toLower = isSpace letter := by
  by_cases upper : letter.isUpper = true
  · have alpha : letter.isAlpha = true := by
      rw [Char.isAlpha, upper]
      rfl
    have solid : ∀ other : Char, other.isAlpha = true → isSpace other = false := by
      intro other own
      by_contra space
      rw [space_not_alpha other (Bool.not_eq_false _ ▸ space)] at own
      cases own
    rw [solid letter alpha, solid letter.toLower (by rw [Char.isAlpha_toLower_eq_isAlpha, alpha])]
  · rw [Char.toLower_eq_of_not_isUpper upper]

variable (text : Text)

theorem trim_lower : trim (makeLower text) = makeLower (trim text) := by
  have same : isSpace ∘ Char.toLower = isSpace := funext lower_space
  rw [trim, makeLower, List.dropWhile_map, same, List.rdropWhile, ← List.map_reverse, List.dropWhile_map, same,
    ← List.map_reverse]
  rfl

theorem trim_trim : trim (trim text) = trim text := by
  have front : (trim text).dropWhile isSpace = trim text := by
    cases whole : trim text with
    | nil => rfl
    | cons letter rest =>
        obtain ⟨behind, same⟩ : trim text <+: text.dropWhile isSpace := List.rdropWhile_prefix _ _
        rw [whole, List.cons_append] at same
        have solid := List.head?_dropWhile_not isSpace text
        rw [← same, List.head?_cons] at solid
        simp only at solid
        rw [List.dropWhile_cons, solid, if_neg Bool.false_ne_true]
  rw [trim, front]
  exact List.rdropWhile_idempotent _ _

theorem lower_lower : makeLower (makeLower text) = makeLower text := by
  rw [makeLower, makeLower, List.map_map]
  exact congrArg (fun change => text.map change) (funext Char.toLower_toLower_eq_toLower)

theorem read_trim : readStringValue (trim text) = readStringValue text := by
  simp only [readStringValue, ← trim_lower, trim_trim]

theorem read_lower_trim : readStringValue (lowerTrim text) = readStringValue text := by
  simp only [readStringValue, lowerTrim, lower_lower, ← trim_lower, trim_trim]

end texts

section numerals

variable (library : JsonLibrary)

theorem read_spelled (numeral : Numeral) : readStringValue numeral.spelled = numeral.value := by
  cases numeral with
  | number whole => exact Registers.read_signed_decimal whole.toInt whole.le_toInt whole.toInt_lt
  | text letters => rfl

theorem number_of_json (whole : Int64) : numberOf library (Numeral.number whole).json = some whole.toInt := by
  have bound := whole.toInt_lt
  rw [Numeral.json]
  by_cases positive : 0 ≤ whole.toInt
  · rw [if_pos positive, numberOf, UInt64.toNat_ofNat_of_lt' (by rw [UInt64.size]; omega), Int.toNat_of_nonneg positive]
  · rw [if_neg positive, numberOf]

def numberOr {Number : Type} (ofInt : Int → Number) (numeral : Option Numeral) (missing : Number) : Number :=
  (numeral.map fun own => ofInt own.value).getD missing

theorem spelled_number {Number : Type} (ofInt : Int → Number) (numeral : Option Numeral) (missing : Number) :
    ((spelled numeral).map fun text => ofInt (readStringValue (lowerTrim text))).getD missing =
      numberOr ofInt numeral missing := by
  cases numeral with
  | none => rfl
  | some own => simp only [spelled, numberOr, Option.map_some, Option.getD_some, read_lower_trim, read_spelled]

theorem numeric_member (j : Json) (name : Text) (numeral : Option Numeral) (found : j.member name = written numeral) :
    numericMember library j name = numeral.map Numeral.value := by
  rw [numericMember, found]
  cases numeral with
  | none => rfl
  | some own =>
      cases own with
      | text letters => rfl
      | number whole =>
          have number := number_of_json library whole
          simp only [written, Option.map_some, Numeral.value, ← number]
          rw [Numeral.json]
          by_cases positive : 0 ≤ whole.toInt
          · simp only [if_pos positive]
          · simp only [if_neg positive]

theorem member_number {Number : Type} (ofInt : Int → Number) (j : Json) (name : Text) (numeral : Option Numeral)
    (missing : Number) (found : j.member name = written numeral) :
    ((numericMember library j name).map ofInt).getD missing = numberOr ofInt numeral missing := by
  rw [numeric_member library j name numeral found, numberOr, Option.map_map]
  rfl

end numerals

section members

def present (members : List (Text × Option Json)) : List (Text × Json) :=
  members.filterMap fun entry => entry.2.map fun value => (entry.1, value)

variable (members : List (Text × Option Json)) (j : Json) (name : Text)

theorem absent_member (absent : name ∉ members.map Prod.fst) :
    (present members).reverse.find? (fun entry => entry.1 == name) = none := by
  rw [List.find?_eq_none]
  intro entry inside same
  rw [List.mem_reverse, present, List.mem_filterMap] at inside
  obtain ⟨source, member, made⟩ := inside
  obtain ⟨value, _, rfl⟩ := Option.map_eq_some_iff.mp made
  exact absent (eq_of_beq same ▸ List.mem_map_of_mem member)

theorem member_with (distinct : (members.map Prod.fst).Nodup) (name : Text) :
    (withMembers members).member name = (members.lookup name).join := by
  show ((present members).reverse.find? fun entry => entry.1 == name).map Prod.snd = _
  induction members with
  | nil => rfl
  | cons entry members ih =>
      obtain ⟨own, value⟩ := entry
      rw [List.map_cons, List.nodup_cons] at distinct
      have later := ih distinct.2
      by_cases here : name = own
      · subst here
        have nowhere := absent_member members name distinct.1
        rw [List.lookup_cons_self]
        cases value with
        | none => exact congrArg (Option.map Prod.snd) nowhere
        | some json =>
            have split : (present ((name, some json) :: members)).reverse =
                (present members).reverse ++ [(name, json)] := List.reverse_cons
            rw [split, List.find?_append, nowhere]
            simp
      · have other : (name == own) = false := beq_false_of_ne here
        have notOwn : (own == name) = false := beq_false_of_ne (Ne.symm here)
        rw [List.lookup_cons, other]
        refine Eq.trans ?_ later
        cases value with
        | none => rfl
        | some json =>
            have split : (present ((own, some json) :: members)).reverse =
                (present members).reverse ++ [(own, json)] := List.reverse_cons
            rw [split, List.find?_append]
            simp [notOwn]

theorem listed_members {Item : Type} (json : Item → Json) (j : Json) (name : Text) (items : List Item)
    (found : j.member name = listed json items) : arrayMember j name = some (items.map json) := by
  rw [arrayMember, found]
  rfl

theorem quoted_member (text : Option Text) (found : j.member name = quoted text) :
    stringMember j name = text := by
  rw [stringMember, found]
  cases text <;> rfl

theorem written_member (numeral : Option Numeral) (found : j.member name = written numeral) :
    stringMember j name = numeral.bind fun own => match own with
      | .text letters => some letters
      | .number _ => none := by
  rw [stringMember, found]
  cases numeral with
  | none => rfl
  | some own =>
      cases own with
      | text letters => rfl
      | number whole =>
          simp only [written, Option.map_some, Numeral.json, Option.bind_some]
          by_cases positive : 0 ≤ whole.toInt
          · simp only [if_pos positive]
          · simp only [if_neg positive]

end members

section values

variable (library : JsonLibrary)

def lowered (text : Option Text) : Text := (text.map lowerTrim).getD []

variable (value : ValueDescription)

theorem value_from_xml :
    value.fromXml = { name := lowered value.name, strValue := lowered (spelled value.value) } := by
  obtain ⟨name, own⟩ := value
  cases name <;> cases own <;> rfl

theorem described_bare (j : Json) (name : Text) (noDescription : j.member "description".toList = none)
    (noInfo : j.member "infourl".toList = none) : Described.fromJson library name j = { name := name } := by
  simp only [Described.fromJson, getDescriptionList, getInfoUrlList, textsMember, noDescription, noInfo]

theorem lower_name (j : Json) (name : Option Text) (found : j.member "name".toList = quoted name) :
    lowerName j = lowered name := by
  rw [lowerName, quoted_member j _ name found]
  cases name <;> rfl

theorem objects_listed {Item : Type} (json : Item → Json) (object : ∀ item, isObject (json item) = true)
    (items : List Item) : (items.map json).filter isObject = items.map json := by
  rw [List.filter_eq_self]
  intro value inside
  obtain ⟨item, _, rfl⟩ := List.mem_map.mp inside
  exact object item

def textOf (numeral : Option Numeral) : Text :=
  (numeral.bind fun own => match own with
    | .text letters => some letters
    | .number _ => none).getD []

theorem value_from_json :
    jsonValue library value.json = { name := lowered value.name, strValue := textOf value.value } := by
  have member := member_with value.members (of_decide_eq_true rfl)
  rw [jsonValue, described_bare library value.json _ (member _) (member _), lower_name value.json value.name (member _),
    written_member value.json "value".toList value.value (member _)]
  rfl

-- What a value has to be for both formats to read it alike: a text that is trimmed and in small letters.
def ValueDescription.Agrees (value : ValueDescription) : Prop :=
  match value.value with
  | none => True
  | some (.number _) => False
  | some (.text letters) => lowerTrim letters = letters

variable (number : Int)

theorem signed_decimal_letters :
    ∀ letter ∈ signedDecimal number, letter = '-' ∨ isDigitOf 10 letter = true := by
  intro letter inside
  rcases List.mem_append.mp inside with sign | digit
  · by_cases negative : number < 0
    · rw [if_pos negative, List.mem_singleton] at sign
      exact .inl sign
    · rw [if_neg negative] at sign
      cases sign
  · exact .inr (decimal_digits number.natAbs letter digit)

theorem signed_decimal_ne (word : Text) (mark : Char) (inside : mark ∈ word) (sign : mark ≠ '-')
    (foreign : isDigitOf 10 mark = false) : signedDecimal number ≠ word := by
  intro same
  rcases signed_decimal_letters number mark (same ▸ inside) with own | digit
  · exact sign own
  · rw [digit] at foreign
    cases foreign

theorem signed_decimal_lower : lowerTrim (signedDecimal number) = signedDecimal number := by
  have low : makeLower (decimal number.natAbs) = decimal number.natAbs :=
    NumberText.written_lowered 10 number.natAbs (by omega) (by omega)
  have solid : ∀ letter ∈ signedDecimal number, isSpace letter = false := by
    intro letter inside
    rcases signed_decimal_letters number letter inside with rfl | digit
    · rfl
    · exact base_digit_not_space 10 letter digit
  rw [lowerTrim, trim_unspaced _ solid, signedDecimal, makeLower, List.map_append]
  refine congrArg₂ List.append ?_ low
  by_cases negative : number < 0
  · rw [if_pos negative]
    rfl
  · rw [if_neg negative]
    rfl

theorem signed_decimal_nonempty : signedDecimal number ≠ [] := by
  intro empty
  exact NumberText.decimal_nonempty number.natAbs (List.append_eq_nil_iff.mp empty).2

theorem value_agrees_iff : value.fromXml = jsonValue library value.json ↔ value.Agrees := by
  rw [value_from_xml, value_from_json]
  obtain ⟨name, own⟩ := value
  simp only [Value.mk.injEq, true_and, ValueDescription.Agrees]
  cases own with
  | none => exact iff_of_true rfl trivial
  | some own =>
      cases own with
      | text letters => exact Iff.rfl
      | number whole =>
          refine iff_of_false (fun same => ?_) id
          exact signed_decimal_nonempty whole.toInt ((signed_decimal_lower whole.toInt).symm.trans same)

theorem values_from_json (j : Json) (values : List ValueDescription)
    (found : j.member "valuelist".toList = listed ValueDescription.json values) :
    getValueList library j = values.map fun value => jsonValue library value.json := by
  rw [getValueList, listed_members ValueDescription.json j _ values found, Option.getD_some,
    objects_listed ValueDescription.json (fun _ => rfl), List.map_map]
  rfl

theorem maps_agree_iff {Item Record : Type} (first second : Item → Record) (Agrees : Item → Prop)
    (one : ∀ item, first item = second item ↔ Agrees item) (items : List Item) :
    items.map first = items.map second ↔ ∀ item ∈ items, Agrees item := by
  rw [List.map_inj_left]
  exact forall₂_congr fun item _ => one item

end values

section bits

variable (library : JsonLibrary)

-- A record's number after an attribute that may be missing.
def numberIn {Number : Type} (ofInt : Int → Number) (text : Option Text) (old : Number) : Number :=
  (text.map fun own => ofInt (readStringValue (lowerTrim own))).getD old

def setOptional {Member Record : Type} (set : Member → Text → Record → Record) (member : Member) (text : Option Text)
    (record : Record) : Record :=
  match text with
  | none => record
  | some own => set member (lowerTrim own) record

theorem set_given {Member Record : Type} (names : List (Text × Member)) (set : Member → Text → Record → Record)
    (attributes : List (Text × Option Text)) (record : Record) :
    setAttributes names set lowerTrim (given attributes) record =
      attributes.foldl (fun old entry => match memberOf names entry.1 with
        | some member => setOptional set member entry.2 old
        | none => old) record := by
  induction attributes generalizing record with
  | nil => rfl
  | cons entry attributes ih =>
      obtain ⟨name, text⟩ := entry
      cases text with
      | none =>
          rw [List.foldl_cons, ← ih]
          cases memberOf names name <;> rfl
      | some own =>
          rw [List.foldl_cons, ← ih]
          show setAttributes names set lowerTrim (given attributes) (setAttribute names set lowerTrim record (name, own)) = _
          rw [setAttribute]
          cases memberOf names name <;> rfl

def placedBit (bit : BitDescription) : Bit :=
  let named : Bit := { name := lowered bit.name }
  match bit.pos with
  | none => named
  | some pos => named.setPos (UInt8.ofInt pos.value)

def sizedBit (bit : BitDescription) : Bit :=
  match bit.width with
  | none => placedBit bit
  | some width => (placedBit bit).setWidth (UInt8.ofInt width.value)

def accessOr (access : Option Text) : Access := (access.map fun text => accessOf (lowerTrim text)).getD .readWrite

variable (bit : BitDescription)

theorem sized_bit_min : (sizedBit bit).min = 0 := by
  obtain ⟨name, pos, width, default, min, max, access, values⟩ := bit
  cases pos <;> cases width <;> simp [sizedBit, placedBit, Bit.setPos, Bit.setWidth]

theorem bit_from_xml : bit.fromXml = { sizedBit bit with
    default := ((spelled bit.default).map fun text => bitDefault (lowerTrim text)).getD 0
    min := numberOr UInt8.ofInt bit.min 0
    max := numberOr UInt8.ofInt bit.max (sizedBit bit).max
    access := accessOr bit.access
    listValue := bit.values.map ValueDescription.fromXml } := by
  have placed : setOptional setBit .pos (spelled bit.pos) (setOptional setBit .name bit.name {}) = placedBit bit := by
    obtain ⟨name, pos, width, default, min, max, access, values⟩ := bit
    cases name <;> cases pos <;>
      simp only [spelled, setOptional, setBit, placedBit, Option.map_none, Option.map_some, read_lower_trim,
        read_spelled] <;> rfl
  have sized : setOptional setBit .width (spelled bit.width) (placedBit bit) = sizedBit bit := by
    unfold sizedBit
    cases bit.width with
    | none => rfl
    | some width => simp only [spelled, setOptional, setBit, Option.map_some, read_lower_trim, read_spelled]
  have folded : setAttributes bitNames setBit lowerTrim (given bit.attributes) {} =
      setOptional setBit .access bit.access (setOptional setBit .max (spelled bit.max)
        (setOptional setBit .min (spelled bit.min) (setOptional setBit .default (spelled bit.default)
          (setOptional setBit .width (spelled bit.width) (setOptional setBit .pos (spelled bit.pos)
            (setOptional setBit .name bit.name {})))))) := set_given _ _ _ _
  rw [BitDescription.fromXml, folded, placed, sized]
  have default : ∀ (text : Option Text) (old : Bit), setOptional setBit .default text old =
      { old with default := (text.map fun own => bitDefault (lowerTrim own)).getD old.default } := by
    intro text old
    cases text <;> rfl
  have low : ∀ old : Bit, setOptional setBit .min (spelled bit.min) old =
      { old with min := numberOr UInt8.ofInt bit.min old.min } := by
    intro old
    rw [← spelled_number]
    cases spelled bit.min <;> rfl
  have high : ∀ old : Bit, setOptional setBit .max (spelled bit.max) old =
      { old with max := numberOr UInt8.ofInt bit.max old.max } := by
    intro old
    rw [← spelled_number]
    cases spelled bit.max <;> rfl
  have access : ∀ old : Bit, setOptional setBit .access bit.access old =
      { old with access := (bit.access.map fun own => accessOf (lowerTrim own)).getD old.access } := by
    intro old
    cases bit.access <;> rfl
  have start := sized_bit_min bit
  have untouched : (sizedBit bit).default = 0 ∧ (sizedBit bit).access = .readWrite := by
    obtain ⟨name, pos, width, default, min, max, access, values⟩ := bit
    cases pos <;> cases width <;> exact ⟨rfl, rfl⟩
  rw [default, low, high, access]
  simp only [start, untouched.1, untouched.2]
  rfl

theorem access_member (j : Json) (access : Option Text) (found : j.member "access".toList = quoted access) :
    (accessMember j).getD .readWrite = accessOr access ∧ (accessMember j).isSome = access.isSome := by
  rw [accessMember, quoted_member j _ access found]
  exact ⟨rfl, Option.isSome_map⟩

theorem bit_default_from_json (j : Json) (default : Option Numeral)
    (found : j.member "default".toList = written default) :
    jsonBitDefault library j = numberOr UInt8.ofInt default 1 := by
  rw [← member_number library UInt8.ofInt j _ default 1 found, jsonBitDefault, found]
  cases default with
  | none => rfl
  | some own =>
      cases own with
      | text letters => rfl
      | number whole =>
          simp only [written, Option.map_some, Numeral.json]
          by_cases positive : 0 ≤ whole.toInt
          · simp only [if_pos positive]
          · simp only [if_neg positive]

theorem bit_from_json : jsonBit library bit.json = { sizedBit bit with
    default := numberOr UInt8.ofInt bit.default 1
    min := if bit.max.isSome then numberOr UInt8.ofInt bit.min 0 else 255
    max := numberOr UInt8.ofInt bit.max (sizedBit bit).max
    access := accessOr bit.access
    listValue := bit.values.map fun value => jsonValue library value.json } := by
  have member := member_with bit.members (of_decide_eq_true rfl)
  have name : lowerName bit.json = lowered bit.name := lower_name bit.json bit.name (member _)
  have described := described_bare library bit.json (lowered bit.name) (member _) (member _)
  have pos := numeric_member library bit.json "pos".toList bit.pos (member _)
  have width := numeric_member library bit.json "width".toList bit.width (member _)
  have low := member_number library UInt8.ofInt bit.json "min".toList bit.min 0 (member _)
  have high := numeric_member library bit.json "max".toList bit.max (member _)
  have default := bit_default_from_json library bit.json bit.default (member _)
  have access := (access_member bit.json bit.access (member _)).1
  have values := values_from_json library bit.json bit.values (member _)
  simp only [jsonBit, name, described, pos, width, low, high, default, access, values]
  unfold sizedBit placedBit
  cases bit.pos <;> cases bit.width <;> cases bit.max <;> rfl

def bitDefaultAgrees : Option Numeral → Prop
  | none => False
  | some (.number _) => True
  | some (.text letters) => lowerTrim letters ≠ "true".toList

theorem bit_default_agrees_iff (default : Option Numeral) :
    ((spelled default).map fun text => bitDefault (lowerTrim text)).getD 0 = numberOr UInt8.ofInt default 1 ↔
      bitDefaultAgrees default := by
  cases default with
  | none => exact iff_of_false (by decide) id
  | some own =>
      have read := read_lower_trim own.spelled
      rw [read_spelled] at read
      simp only [spelled, Option.map_some, Option.getD_some, numberOr]
      cases own with
      | number whole =>
          refine iff_of_true ?_ trivial
          have shown : lowerTrim (Numeral.number whole).spelled = signedDecimal whole.toInt :=
            signed_decimal_lower whole.toInt
          rw [shown] at read ⊢
          rw [bitDefault, if_neg (signed_decimal_ne _ _ 't' (by decide) (by decide) rfl),
            if_neg (signed_decimal_ne _ _ 'f' (by decide) (by decide) rfl), read]
      | text letters =>
          simp only [Numeral.spelled] at read ⊢
          simp only [bitDefaultAgrees, bitDefault]
          by_cases yes : lowerTrim letters = "true".toList
          · refine iff_of_false ?_ fun other => other yes
            rw [yes] at read
            rw [if_pos yes, ← read]
            decide
          · refine iff_of_true ?_ yes
            by_cases no : lowerTrim letters = "false".toList
            · rw [no] at read
              rw [if_neg yes, if_pos no, ← read]
              decide
            · rw [if_neg yes, if_neg no, read]

-- Both formats read a bit alike if it has a default and a max, and its values are alike.
def BitDescription.Agrees (bit : BitDescription) : Prop :=
  (bit.max.isSome ∨ numberOr UInt8.ofInt bit.min 0 = 255) ∧ bitDefaultAgrees bit.default ∧
    ∀ value ∈ bit.values, value.Agrees

theorem bit_agrees_iff : bit.fromXml = jsonBit library bit.json ↔ bit.Agrees := by
  have values := maps_agree_iff _ _ _ (value_agrees_iff library) bit.values
  have default := bit_default_agrees_iff bit.default
  have low : numberOr UInt8.ofInt bit.min 0 = (if bit.max.isSome then numberOr UInt8.ofInt bit.min 0 else 255) ↔
      (bit.max.isSome ∨ numberOr UInt8.ofInt bit.min 0 = 255) := by
    cases bit.max with
    | none => exact (or_iff_right Bool.false_ne_true).symm
    | some max => exact iff_of_true rfl (.inl rfl)
  rw [bit_from_xml, bit_from_json, Bit.mk.injEq]
  simp only [true_and, BitDescription.Agrees, ← values, ← default, ← low]
  exact and_left_comm

theorem bits_from_json (j : Json) (bits : List BitDescription)
    (found : j.member "bit".toList = listed BitDescription.json bits) :
    getBitList library j = bits.map fun bit => jsonBit library bit.json := by
  rw [getBitList, listed_members BitDescription.json j _ bits found, Option.getD_some,
    objects_listed BitDescription.json (fun _ => rfl), List.map_map]
  rfl

end bits

section registers

variable (library : JsonLibrary)

theorem register_from_xml (reg : RegisterDescription) : reg.fromXml =
    { name := lowered reg.name
      page := numberOr UInt16.ofInt reg.page 0
      offset := numberOr UInt32.ofInt reg.offset 0
      span := numberOr UInt16.ofInt reg.span 1
      width := numberOr (fun number => registerWidth (UInt16.ofInt number)) reg.width 8
      type := ((spelled reg.type).map fun text => registerType (lowerTrim text)).getD .standard
      min := numberOr UInt32.ofInt reg.min 0
      max := numberOr UInt32.ofInt reg.max 255
      strDefault := ((spelled reg.default).map lowerTrim).getD "UNDEF".toList
      access := accessOr reg.access
      listBit := reg.bits.map BitDescription.fromXml
      listValue := reg.values.map ValueDescription.fromXml
      fgcolor := numberOr UInt32.ofInt reg.fgcolor 0
      bgcolor := numberOr UInt32.ofInt reg.bgcolor 0xffffff
      fgeven := numberOr UInt32.ofInt reg.evenfg 0
      fgodd := numberOr UInt32.ofInt reg.oddfg 0
      bgeven := numberOr UInt32.ofInt reg.evenbg 0
      bgodd := numberOr UInt32.ofInt reg.oddbg 0 } := by
  have set : ∀ (member : RegisterMember) (text : Option Text) (old : Register), setOptional setRegister member text old =
      match member with
      | .name => { old with name := (text.map lowerTrim).getD old.name }
      | .page => { old with page := numberIn UInt16.ofInt text old.page }
      | .offset => { old with offset := numberIn UInt32.ofInt text old.offset }
      | .span => { old with span := numberIn UInt16.ofInt text old.span }
      | .width => { old with width := numberIn (fun own => registerWidth (UInt16.ofInt own)) text old.width }
      | .default => { old with strDefault := (text.map lowerTrim).getD old.strDefault }
      | .access => { old with access := (text.map fun own => accessOf (lowerTrim own)).getD old.access }
      | .min => { old with min := numberIn UInt32.ofInt text old.min }
      | .max => { old with max := numberIn UInt32.ofInt text old.max }
      | .type => { old with type := (text.map fun own => registerType (lowerTrim own)).getD old.type }
      | .fgcolor => { old with fgcolor := numberIn UInt32.ofInt text old.fgcolor }
      | .bgcolor => { old with bgcolor := numberIn UInt32.ofInt text old.bgcolor }
      | .evenfg => { old with fgeven := numberIn UInt32.ofInt text old.fgeven }
      | .evenbg => { old with bgeven := numberIn UInt32.ofInt text old.bgeven }
      | .oddfg => { old with fgodd := numberIn UInt32.ofInt text old.fgodd }
      | .oddbg => { old with bgodd := numberIn UInt32.ofInt text old.bgodd } := by
    intro member text old
    cases member <;> cases text <;> rfl
  have folded : setAttributes registerNames setRegister lowerTrim (given reg.attributes) {} =
      setOptional setRegister .oddbg (spelled reg.oddbg) (setOptional setRegister .oddfg (spelled reg.oddfg)
        (setOptional setRegister .evenbg (spelled reg.evenbg) (setOptional setRegister .evenfg (spelled reg.evenfg)
          (setOptional setRegister .bgcolor (spelled reg.bgcolor) (setOptional setRegister .fgcolor (spelled reg.fgcolor)
            (setOptional setRegister .type (spelled reg.type) (setOptional setRegister .max (spelled reg.max)
              (setOptional setRegister .min (spelled reg.min) (setOptional setRegister .access reg.access
                (setOptional setRegister .default (spelled reg.default)
                  (setOptional setRegister .width (spelled reg.width) (setOptional setRegister .span (spelled reg.span)
                    (setOptional setRegister .offset (spelled reg.offset)
                      (setOptional setRegister .page (spelled reg.page)
                        (setOptional setRegister .name reg.name {}))))))))))))))) := set_given _ _ _ _
  rw [RegisterDescription.fromXml, folded]
  simp only [set, ← spelled_number]
  rfl

def quotedType (text : Text) : RegisterType :=
  if text = "std".toList then .standard
  else if text = "dmatrix1".toList ∨ text = "dm".toList ∨ text = "dmatrix".toList then .dmatrix1
  else if text = "block".toList then .block
  else .standard

def typeInJson : Option Numeral → RegisterType
  | some (.text letters) => quotedType (trim letters)
  | _ => .standard

def defaultInJson : Option Numeral → Text
  | none => "UNDEF".toList
  | some (.number whole) => signedDecimal (Int32.ofInt whole.toInt).toInt
  | some (.text letters) => makeUpper (trim letters)

theorem type_from_json (j : Json) (type : Option Numeral) (found : j.member "type".toList = written type) :
    jsonRegisterType j = typeInJson type := by
  rw [jsonRegisterType, written_member j _ type found]
  cases type with
  | none => rfl
  | some own => cases own <;> rfl

theorem default_from_json (j : Json) (default : Option Numeral) (found : j.member "default".toList = written default) :
    jsonRegisterDefault library j = defaultInJson default := by
  rw [jsonRegisterDefault, found]
  cases default with
  | none => rfl
  | some own =>
      cases own with
      | text letters => rfl
      | number whole =>
          have number := number_of_json library whole
          simp only [written, Option.map_some, defaultInJson]
          rw [Numeral.json] at number ⊢
          by_cases positive : 0 ≤ whole.toInt
          · rw [if_pos positive] at number
            simp only [if_pos positive, number]
          · rw [if_neg positive] at number
            simp only [if_neg positive, number]

theorem register_from_json (reg : RegisterDescription) : jsonRegister library reg.json =
    { name := lowered reg.name
      page := numberOr UInt16.ofInt reg.page 0
      offset := numberOr UInt32.ofInt reg.offset 0
      span := numberOr UInt16.ofInt reg.span 1
      width := numberOr UInt16.ofInt reg.width 8
      type := typeInJson reg.type
      min := numberOr UInt32.ofInt reg.min 0
      max := if reg.access.isSome then numberOr UInt32.ofInt reg.max 0 else 0
      strDefault := defaultInJson reg.default
      access := accessOr reg.access
      listBit := reg.bits.map fun bit => jsonBit library bit.json
      listValue := reg.values.map fun value => jsonValue library value.json
      fgcolor := numberOr UInt32.ofInt reg.fgcolor 0
      bgcolor := numberOr UInt32.ofInt reg.bgcolor 0
      fgeven := numberOr UInt32.ofInt reg.evenfg 0
      fgodd := numberOr UInt32.ofInt reg.oddfg 0
      bgeven := numberOr UInt32.ofInt reg.evenbg 0
      bgodd := numberOr UInt32.ofInt reg.oddbg 0 } := by
  have member := member_with reg.members (of_decide_eq_true rfl)
  have name : lowerName reg.json = lowered reg.name := lower_name reg.json reg.name (member _)
  have described := described_bare library reg.json (lowered reg.name) (member _) (member _)
  have page := member_number library UInt16.ofInt reg.json "page".toList reg.page 0 (member _)
  have offset := member_number library UInt32.ofInt reg.json "offset".toList reg.offset 0 (member _)
  have span := member_number library UInt16.ofInt reg.json "span".toList reg.span 1 (member _)
  have size := numeric_member library reg.json "size".toList none (member _)
  have width := member_number library UInt16.ofInt reg.json "width".toList reg.width 8 (member _)
  have type := type_from_json reg.json reg.type (member _)
  have low := member_number library UInt32.ofInt reg.json "min".toList reg.min 0 (member _)
  have high := member_number library UInt32.ofInt reg.json "max".toList reg.max 0 (member _)
  have default := default_from_json library reg.json reg.default (member _)
  have access := access_member reg.json reg.access (member _)
  have fgcolor := member_number library UInt32.ofInt reg.json "fgcolor".toList reg.fgcolor 0 (member _)
  have bgcolor := member_number library UInt32.ofInt reg.json "bgcolor".toList reg.bgcolor 0 (member _)
  have evenfg := member_number library UInt32.ofInt reg.json "evenfg".toList reg.evenfg 0 (member _)
  have oddfg := member_number library UInt32.ofInt reg.json "oddfg".toList reg.oddfg 0 (member _)
  have evenbg := member_number library UInt32.ofInt reg.json "evenbg".toList reg.evenbg 0 (member _)
  have oddbg := member_number library UInt32.ofInt reg.json "oddbg".toList reg.oddbg 0 (member _)
  have values := values_from_json library reg.json reg.values (member _)
  have bits := bits_from_json library reg.json reg.bits (member _)
  simp only [jsonRegister, jsonColor, name, described, page, offset, span, size, width, type, low, high, default,
    access.1, access.2, fgcolor, bgcolor, evenfg, oddfg, evenbg, oddbg, values, bits, Option.map_none, Option.getD_none]

def rowTypes : List Text := ["dmatrix".toList, "dmatrix1".toList, "dm".toList, "block".toList]

theorem row_type_contained (letters : Text) : rowTypes.contains letters = true ↔ letters ∈ rowTypes :=
  List.contains_iff_mem

instance decidableRowType (letters : Text) : Decidable (letters ∈ rowTypes) :=
  decidable_of_iff (rowTypes.contains letters = true) (row_type_contained letters)

-- A type that means the same to both formats: JSON knows the names in small letters only, and no numbers.
def typeAgrees : Option Numeral → Prop
  | none => True
  | some (.number whole) => UInt32.ofInt whole.toInt = 0
  | some (.text letters) =>
      if lowerTrim letters ∈ rowTypes then trim letters = lowerTrim letters
      else lowerTrim letters ∈ ["standard".toList, "std".toList] ∨
        (lowerTrim letters ≠ "blk".toList ∧ UInt32.ofInt (readStringValue letters) = 0)

def inRows : Option Numeral → Bool
  | some (.text letters) => trim letters ∈ rowTypes
  | _ => false

-- A default that is the same in capital letters, and as a signed 32 bit number.
def defaultAgrees : Option Numeral → Prop
  | none => True
  | some (.number whole) => (Int32.ofInt whole.toInt).toInt = whole.toInt
  | some (.text letters) => ∀ letter ∈ trim letters, letter.toLower = letter.toUpper

def RegisterDescription.striped (reg : RegisterDescription) : Bool :=
  numberOr UInt32.ofInt reg.evenfg 0 ≠ 0 ∨ numberOr UInt32.ofInt reg.oddfg 0 ≠ 0 ∨
    numberOr UInt32.ofInt reg.evenbg 0 ≠ 0 ∨ numberOr UInt32.ofInt reg.oddbg 0 ≠ 0

structure RegisterDescription.Agrees (reg : RegisterDescription) : Prop where
  type : typeAgrees reg.type
  rows : inRows reg.type = true → numberOr UInt16.ofInt reg.span 1 ≤ 1
  width : numberOr UInt16.ofInt reg.width 8 ≤ 8
  max : reg.max.isSome ∧ (reg.access.isSome ∨ numberOr UInt32.ofInt reg.max 0 = 0)
  default : defaultAgrees reg.default
  background : reg.bgcolor.isSome ∨ (inRows reg.type = true ∧ reg.striped = true)
  bits : ∀ bit ∈ reg.bits, bit.Agrees
  values : ∀ value ∈ reg.values, value.Agrees

theorem of_code_standard (code : UInt32) : RegisterType.ofCode code = .standard ↔ code = 0 := by
  unfold RegisterType.ofCode
  split_ifs with zero one two
  · exact iff_of_true rfl zero
  · exact iff_of_false (by simp) zero
  · exact iff_of_false (by simp) zero
  · exact iff_of_false (by simp) zero

theorem lower_of_row_type (letters : Text) (row : trim letters ∈ rowTypes) : lowerTrim letters = trim letters := by
  have each : ∀ word ∈ rowTypes, makeLower word = word := by decide
  exact each (trim letters) row

theorem quoted_type_rows (text : Text) :
    (text ∈ rowTypes ↔ quotedType text = .dmatrix1 ∨ quotedType text = .block) ∧
      (text ∉ rowTypes ↔ quotedType text = .standard) := by
  unfold quotedType rowTypes
  simp only [List.mem_cons, List.not_mem_nil, or_false]
  split_ifs with std matrix block
  · subst std
    decide
  · rcases matrix with rfl | rfl | rfl <;> decide
  · subst block
    decide
  · have other : ¬ (text = "dmatrix".toList ∨ text = "dmatrix1".toList ∨ text = "dm".toList ∨ text = "block".toList) := by
      rintro (own | own | own | own)
      · exact matrix (.inr (.inr own))
      · exact matrix (.inl own)
      · exact matrix (.inr (.inl own))
      · exact block own
    exact ⟨iff_of_false other (by simp), iff_of_true other rfl⟩

theorem register_type_number (text : Text) (standard : text ∉ ["standard".toList, "std".toList])
    (rows : text ∉ rowTypes) (block : text ≠ "blk".toList) :
    registerType text = RegisterType.ofCode (UInt32.ofInt (readStringValue text)) := by
  simp only [rowTypes, List.mem_cons, List.not_mem_nil, or_false, not_or] at standard rows
  rw [registerType, if_neg (not_or.mpr standard), if_neg (not_or.mpr ⟨rows.1, not_or.mpr ⟨rows.2.1, rows.2.2.1⟩⟩),
    if_neg (not_or.mpr ⟨rows.2.2.2, block⟩)]

theorem type_agrees_iff (type : Option Numeral) :
    ((spelled type).map fun text => registerType (lowerTrim text)).getD .standard = typeInJson type ↔
      typeAgrees type := by
  cases type with
  | none => exact iff_of_true rfl trivial
  | some own =>
      cases own with
      | number whole =>
          have shown : lowerTrim (Numeral.number whole).spelled = signedDecimal whole.toInt :=
            signed_decimal_lower whole.toInt
          have read : readStringValue (signedDecimal whole.toInt) = whole.toInt := read_spelled (.number whole)
          have foreign : ∀ word ∈ "standard".toList :: "std".toList :: "blk".toList :: rowTypes,
              signedDecimal whole.toInt ≠ word := by
            intro word member
            have marked : ∃ mark ∈ ['s', 'd', 'b'], mark ∈ word := by
              simp only [rowTypes, List.mem_cons, List.not_mem_nil, or_false] at member
              rcases member with rfl | rfl | rfl | rfl | rfl | rfl | rfl
              · exact ⟨'s', by simp, List.mem_cons_self⟩
              · exact ⟨'s', by simp, List.mem_cons_self⟩
              · exact ⟨'b', by simp, List.mem_cons_self⟩
              · exact ⟨'d', by simp, List.mem_cons_self⟩
              · exact ⟨'d', by simp, List.mem_cons_self⟩
              · exact ⟨'d', by simp, List.mem_cons_self⟩
              · exact ⟨'b', by simp, List.mem_cons_self⟩
            obtain ⟨mark, own, inside⟩ := marked
            have letter : mark ≠ '-' ∧ isDigitOf 10 mark = false := by
              simp only [List.mem_cons, List.not_mem_nil, or_false] at own
              rcases own with rfl | rfl | rfl <;> decide
            exact signed_decimal_ne _ word mark inside letter.1 letter.2
          simp only [spelled, Option.map_some, Option.getD_some, shown, typeInJson, typeAgrees]
          rw [register_type_number, read]
          · exact of_code_standard _
          · intro member
            simp only [List.mem_cons, List.not_mem_nil, or_false] at member
            rcases member with same | same
            · exact foreign _ (by simp) same
            · exact foreign _ (by simp) same
          · intro member
            exact foreign _ (by simp [member]) rfl
          · exact foreign _ (by simp)
      | text letters =>
          have read := read_lower_trim letters
          simp only [spelled, Option.map_some, Option.getD_some, typeInJson, typeAgrees, Numeral.spelled]
          by_cases row : lowerTrim letters ∈ rowTypes
          · rw [if_pos row]
            have made : registerType (lowerTrim letters) = quotedType (lowerTrim letters) := by
              have each : ∀ word ∈ rowTypes, registerType word = quotedType word := by decide
              exact each _ row
            rw [made]
            constructor
            · intro same
              have rows := (quoted_type_rows (lowerTrim letters)).1.mp row
              rw [same] at rows
              exact (lower_of_row_type letters ((quoted_type_rows (trim letters)).1.mpr rows)).symm
            · intro same
              rw [same]
          · rw [if_neg row]
            have standard : quotedType (trim letters) = .standard := by
              refine (quoted_type_rows (trim letters)).2.mp fun own => row ?_
              rw [lower_of_row_type letters own]
              exact own
            rw [standard]
            by_cases named : lowerTrim letters ∈ ["standard".toList, "std".toList]
            · refine iff_of_true ?_ (.inl named)
              simp only [List.mem_cons, List.not_mem_nil, or_false] at named
              exact if_pos named
            · rw [or_iff_right named]
              by_cases block : lowerTrim letters = "blk".toList
              · rw [block]
                exact iff_of_false (by decide) fun other => other.1 rfl
              · rw [register_type_number _ named row block, read, of_code_standard, and_iff_right block]

theorem default_agrees_iff (default : Option Numeral) :
    ((spelled default).map lowerTrim).getD "UNDEF".toList = defaultInJson default ↔ defaultAgrees default := by
  cases default with
  | none => exact iff_of_true rfl trivial
  | some own =>
      cases own with
      | text letters =>
          simp only [spelled, Option.map_some, Option.getD_some, Numeral.spelled, defaultInJson, defaultAgrees, lowerTrim,
            makeLower, makeUpper, List.map_inj_left]
      | number whole =>
          have shown : lowerTrim (Numeral.number whole).spelled = signedDecimal whole.toInt :=
            signed_decimal_lower whole.toInt
          simp only [spelled, Option.map_some, Option.getD_some, shown, defaultInJson, defaultAgrees]
          constructor
          · intro same
            have low := (Int32.ofInt whole.toInt).le_toInt
            have high := (Int32.ofInt whole.toInt).toInt_lt
            have right := Registers.read_signed_decimal (Int32.ofInt whole.toInt).toInt (by omega) (by omega)
            have left : readStringValue (signedDecimal whole.toInt) = whole.toInt := read_spelled (.number whole)
            rw [← right, ← same, left]
          · intro same
            rw [same]

theorem width_agrees_iff (width : Option Numeral) :
    numberOr (fun number => registerWidth (UInt16.ofInt number)) width 8 = numberOr UInt16.ofInt width 8 ↔
      numberOr UInt16.ofInt width 8 ≤ 8 := by
  cases width with
  | none => exact iff_of_true rfl (by decide)
  | some own =>
      simp only [numberOr, Option.map_some, Option.getD_some, registerWidth]
      generalize UInt16.ofInt own.value = number
      by_cases wide : number > 8
      · rw [if_pos wide]
        refine iff_of_false (fun same => ?_) (UInt16.not_le.mpr wide)
        rw [← same] at wide
        exact absurd wide (by decide)
      · rw [if_neg wide]
        exact iff_of_true rfl (UInt16.not_lt.mp wide)

theorem max_agrees_iff (max : Option Numeral) (access : Option Text) :
    numberOr UInt32.ofInt max 255 = (if access.isSome then numberOr UInt32.ofInt max 0 else 0) ↔
      max.isSome ∧ (access.isSome ∨ numberOr UInt32.ofInt max 0 = 0) := by
  cases max with
  | none =>
      refine iff_of_false (fun same => ?_) fun both => Bool.false_ne_true both.1
      have none : (255 : UInt32) = 0 := by
        cases access <;> exact same
      exact absurd none (by decide)
  | some own =>
      cases access with
      | some text => exact iff_of_true rfl ⟨rfl, .inl rfl⟩
      | none => simp [numberOr]

def Register.with (reg other : Register) : Register :=
  { reg with
    width := other.width
    type := other.type
    max := other.max
    strDefault := other.strDefault
    bgcolor := other.bgcolor
    listBit := other.listBit
    listValue := other.listValue }

def Register.inRows (reg : Register) : Prop := reg.type = .dmatrix1 ∨ reg.type = .block

structure Register.SameRow (reg other : Register) : Prop where
  type : reg.type = other.type
  width : reg.width = other.width
  max : reg.max = other.max
  default : reg.strDefault = other.strDefault
  bits : reg.listBit = other.listBit
  values : reg.listValue = other.listValue

variable (reg other : Register)

theorem row_same_iff (alike : other = reg.with other) (name : Text) :
    reg.row name 0 = other.row name 0 ↔
      reg.SameRow other ∧ (reg.bgcolor = other.bgcolor ∨ reg.striped = true) := by
  have striped : other.striped = reg.striped := by rw [alike]; rfl
  constructor
  · intro same
    have background : (if reg.striped then reg.bgeven else reg.bgcolor) =
        if other.striped then other.bgeven else other.bgcolor := congrArg (fun row : Register => row.bgcolor) same
    have type : (reg.row name 0).type = (other.row name 0).type := congrArg Register.type same
    have width : (reg.row name 0).width = (other.row name 0).width := congrArg Register.width same
    have max : (reg.row name 0).max = (other.row name 0).max := congrArg Register.max same
    have default : (reg.row name 0).strDefault = (other.row name 0).strDefault := congrArg Register.strDefault same
    have bits : (reg.row name 0).listBit = (other.row name 0).listBit := congrArg Register.listBit same
    have values : (reg.row name 0).listValue = (other.row name 0).listValue := congrArg Register.listValue same
    refine ⟨⟨type, width, max, default, bits, values⟩, ?_⟩
    cases stripes : reg.striped with
    | true => exact .inr rfl
    | false =>
        rw [striped, stripes] at background
        exact .inl background
  · rintro ⟨⟨type, width, max, default, bits, values⟩, background⟩
    have whole : reg.with other = { reg with bgcolor := other.bgcolor } := by
      rw [Register.with, ← type, ← width, ← max, ← default, ← bits, ← values]
    rw [alike, whole]
    cases background with
    | inl own =>
        rw [← own]
    | inr stripes =>
        have kept : { reg with bgcolor := other.bgcolor }.striped = true := stripes
        simp only [Register.row, stripes, kept, if_true]

theorem rows_same_iff (alike : other = reg.with other) (first later otherLater : Text)
    (different : later ≠ otherLater) : reg.rows first later = other.rows first otherLater ↔
      reg.span.toNat ≤ 1 ∧ reg.row (reg.name ++ first) 0 = other.row (other.name ++ first) 0 := by
  have name : other.name = reg.name := by rw [alike]; rfl
  have span : other.span = reg.span := by rw [alike]; rfl
  unfold Register.rows
  rw [List.cons.injEq, span]
  cases count : reg.span.toNat - 1 with
  | zero => exact ⟨fun same => ⟨by omega, same.1⟩, fun same => ⟨same.2, rfl⟩⟩
  | succ more =>
      refine iff_of_false (fun same => ?_) fun same => by omega
      have head := congrArg (fun rows => rows.head?.map fun row : Register => row.name) same.2
      simp only [List.range'_succ, List.map_cons, List.head?_cons, Option.map_some, Option.some.injEq] at head
      change reg.name ++ later ++ _ = other.name ++ otherLater ++ _ at head
      rw [name] at head
      exact different (List.append_cancel_left (List.append_cancel_right head))

theorem single_same_iff (alike : other = reg.with other) :
    reg = other ↔ reg.SameRow other ∧ reg.bgcolor = other.bgcolor := by
  constructor
  · intro same
    rw [← same]
    exact ⟨⟨rfl, rfl, rfl, rfl, rfl, rfl⟩, rfl⟩
  · rintro ⟨⟨type, width, max, default, bits, values⟩, background⟩
    rw [alike, Register.with, ← type, ← width, ← max, ← default, ← bits, ← values, ← background]

theorem head_types (same : reg.copies.head? = (jsonRegisterRows other).head?) :
    reg.type = other.type := by
  have front : reg.copies.head?.map (fun row : Register => row.type) = some reg.type := by
    unfold Register.copies
    cases type : reg.type with
    | dmatrix1 => exact congrArg some type
    | block => exact congrArg some type
    | _ => exact congrArg some type
  have otherFront : (jsonRegisterRows other).head?.map (fun row : Register => row.type) = some other.type := by
    unfold jsonRegisterRows
    cases type : other.type with
    | dmatrix1 => exact congrArg some type
    | block => exact congrArg some type
    | _ => exact congrArg some type
  rw [same, otherFront] at front
  exact (Option.some.inj front).symm

theorem copies_same_iff (alike : other = reg.with other) :
    reg.copies = jsonRegisterRows other ↔ reg.SameRow other ∧ (reg.inRows → reg.span.toNat ≤ 1) ∧
      (reg.bgcolor = other.bgcolor ∨ (reg.inRows ∧ reg.striped = true)) := by
  by_cases types : reg.type = other.type
  · have name : other.name = reg.name := by rw [alike]; rfl
    have plain (single : reg.copies = [reg]) (otherSingle : jsonRegisterRows other = [other]) (noRows : ¬ reg.inRows) :
        reg.copies = jsonRegisterRows other ↔ reg.SameRow other ∧ (reg.inRows → reg.span.toNat ≤ 1) ∧
          (reg.bgcolor = other.bgcolor ∨ (reg.inRows ∧ reg.striped = true)) := by
      rw [single, otherSingle, List.singleton_inj, single_same_iff reg other alike, or_iff_left fun both => noRows both.1,
        and_iff_right fun own => absurd own noRows]
    have inRows (first later otherLater : Text) (rows : reg.copies = reg.rows first later)
        (otherRows : jsonRegisterRows other = other.rows first otherLater) (different : later ≠ otherLater)
        (own : reg.inRows) :
        reg.copies = jsonRegisterRows other ↔ reg.SameRow other ∧ (reg.inRows → reg.span.toNat ≤ 1) ∧
          (reg.bgcolor = other.bgcolor ∨ (reg.inRows ∧ reg.striped = true)) := by
      rw [rows, otherRows, rows_same_iff reg other alike first later otherLater different, name,
        row_same_iff reg other alike, and_iff_right own, forall_prop_of_true own]
      exact and_left_comm
    cases type : reg.type with
    | standard =>
        refine plain ?_ ?_ ?_
        · simp only [Register.copies, type]
        · simp only [jsonRegisterRows, ← types, type]
        · simp [Register.inRows, type]
    | other code =>
        refine plain ?_ ?_ ?_
        · simp only [Register.copies, type]
        · simp only [jsonRegisterRows, ← types, type]
        · simp [Register.inRows, type]
    | dmatrix1 =>
        refine inRows " - DM 0".toList "Decision Matrix ".toList " - DM 0 - DM ".toList ?_ ?_ (by decide) (.inl type)
        · simp only [Register.copies, type]
        · simp only [jsonRegisterRows, ← types, type]
    | block =>
        refine inRows " - BLOCK 0".toList " - BLOCK ".toList " - BLOCK 0 - BLOCK ".toList ?_ ?_ (by decide) (.inr type)
        · simp only [Register.copies, type]
        · simp only [jsonRegisterRows, ← types, type]
  · exact iff_of_false (fun same => types (head_types reg other (congrArg List.head? same)))
      fun both => types both.1.type

theorem type_in_rows_iff (type : Option Numeral) :
    typeInJson type = .dmatrix1 ∨ typeInJson type = .block ↔ inRows type = true := by
  cases type with
  | none => exact iff_of_false (by decide) Bool.false_ne_true
  | some own =>
      cases own with
      | number whole => exact iff_of_false (by simp [typeInJson]) Bool.false_ne_true
      | text letters =>
          rw [typeInJson, ← (quoted_type_rows (trim letters)).1, inRows]
          exact decide_eq_true_iff.symm

theorem background_agrees_iff (bgcolor : Option Numeral) :
    numberOr UInt32.ofInt bgcolor 0xffffff = numberOr UInt32.ofInt bgcolor 0 ↔ bgcolor.isSome := by
  cases bgcolor with
  | none => exact iff_of_false (by decide) Bool.false_ne_true
  | some own => exact iff_of_true rfl rfl

theorem register_agrees_iff (reg : RegisterDescription) :
    reg.fromXml.copies = jsonRegisterRows (jsonRegister library reg.json) ↔ reg.Agrees := by
  have alike : jsonRegister library reg.json = reg.fromXml.with (jsonRegister library reg.json) := by
    rw [register_from_xml, register_from_json]
    rfl
  rw [copies_same_iff _ _ alike]
  have type := type_agrees_iff reg.type
  have width := width_agrees_iff reg.width
  have max := max_agrees_iff reg.max reg.access
  have default := default_agrees_iff reg.default
  have background := background_agrees_iff reg.bgcolor
  have bits := maps_agree_iff _ _ _ (bit_agrees_iff library) reg.bits
  have values := maps_agree_iff _ _ _ (value_agrees_iff library) reg.values
  have stripes : reg.fromXml.striped = reg.striped := by
    rw [register_from_xml]
    rfl
  have spans : reg.fromXml.span = numberOr UInt16.ofInt reg.span 1 := by
    rw [register_from_xml]
  have rows (same : reg.fromXml.type = typeInJson reg.type) : reg.fromXml.inRows ↔ inRows reg.type = true := by
    rw [Register.inRows, same]
    exact type_in_rows_iff reg.type
  have kind : reg.fromXml.type = ((spelled reg.type).map fun text => registerType (lowerTrim text)).getD .standard := by
    rw [register_from_xml]
  have small : reg.fromXml.span.toNat ≤ 1 ↔ numberOr UInt16.ofInt reg.span 1 ≤ 1 := by
    rw [spans, UInt16.le_iff_toNat_le]
    rfl
  have shown : reg.fromXml.SameRow (jsonRegister library reg.json) ↔ (typeAgrees reg.type ∧
      numberOr UInt16.ofInt reg.width 8 ≤ 8 ∧
      (reg.max.isSome ∧ (reg.access.isSome ∨ numberOr UInt32.ofInt reg.max 0 = 0)) ∧ defaultAgrees reg.default ∧
      (∀ bit ∈ reg.bits, bit.Agrees) ∧ ∀ value ∈ reg.values, value.Agrees) := by
    rw [register_from_xml, register_from_json, ← type, ← width, ← max, ← default, ← bits, ← values]
    exact ⟨fun same => ⟨same.type, same.width, same.max, same.default, same.bits, same.values⟩,
      fun ⟨type, width, max, default, bits, values⟩ => ⟨type, width, max, default, bits, values⟩⟩
  have colour : reg.fromXml.bgcolor = (jsonRegister library reg.json).bgcolor ↔ reg.bgcolor.isSome := by
    rw [register_from_xml, register_from_json]
    exact background
  rw [shown, small, colour, stripes]
  constructor
  · rintro ⟨⟨type', width, max, default, bits, values⟩, few, background⟩
    have own := rows (kind.trans (type.mpr type'))
    rw [own] at few background
    exact ⟨type', few, width, max, default, background, bits, values⟩
  · rintro ⟨type', few, width, max, default, background, bits, values⟩
    have own := rows (kind.trans (type.mpr type'))
    rw [own]
    exact ⟨⟨type', width, max, default, bits, values⟩, few, background⟩

def laterRows (row : Register) : Nat :=
  match row.type with
  | .dmatrix1 => row.span.toNat - 1
  | .block => row.span.toNat - 1
  | _ => 0

def Counted (rows : List Register) : Prop := ∃ first later, rows = first :: later ∧ later.length = laterRows first

theorem rows_counted (reg : Register) (first later : Text) (inRows : laterRows reg = reg.span.toNat - 1) :
    Counted (reg.rows first later) :=
  ⟨_, _, rfl, by rw [List.length_map, List.length_range']; exact inRows.symm⟩

theorem copies_counted (reg : Register) : Counted reg.copies := by
  unfold Register.copies
  cases type : reg.type with
  | dmatrix1 => exact rows_counted reg _ _ (by rw [laterRows, type])
  | block => exact rows_counted reg _ _ (by rw [laterRows, type])
  | _ => exact ⟨reg, [], rfl, by rw [laterRows, type]; rfl⟩

theorem json_rows_counted (reg : Register) : Counted (jsonRegisterRows reg) := by
  unfold jsonRegisterRows
  cases type : reg.type with
  | dmatrix1 => exact rows_counted reg _ _ (by rw [laterRows, type])
  | block => exact rows_counted reg _ _ (by rw [laterRows, type])
  | _ => exact ⟨reg, [], rfl, by rw [laterRows, type]; rfl⟩

theorem rows_aligned (rows others rest otherRest : List Register) (counted : Counted rows) (otherCounted : Counted others)
    (same : rows ++ rest = others ++ otherRest) : rows = others := by
  obtain ⟨first, later, rfl, length⟩ := counted
  obtain ⟨otherFirst, otherLater, rfl, otherLength⟩ := otherCounted
  have heads : first = otherFirst := (List.cons.inj same).1
  refine (List.append_inj same ?_).1
  rw [List.length_cons, List.length_cons, length, otherLength, heads]

theorem registers_agree_iff (registers : List RegisterDescription) :
    (registers.flatMap fun reg => reg.fromXml.copies) =
        (registers.flatMap fun reg => jsonRegisterRows (jsonRegister library reg.json)) ↔
      ∀ reg ∈ registers, reg.Agrees := by
  induction registers with
  | nil => exact iff_of_true rfl fun reg member => absurd member List.not_mem_nil
  | cons reg registers ih =>
      rw [List.flatMap_cons, List.flatMap_cons, List.forall_mem_cons, ← ih, ← register_agrees_iff library reg]
      constructor
      · intro same
        have own := rows_aligned _ _ _ _ (copies_counted _) (json_rows_counted _) same
        rw [own] at same
        exact ⟨own, List.append_cancel_left same⟩
      · rintro ⟨own, later⟩
        rw [own, later]

end registers

section remotes

variable (library : JsonLibrary)

variable (rvar : RemoteDescription)

theorem remote_from_xml : rvar.fromXml =
    { name := lowered rvar.name
      strDefault := ((spelled rvar.default).map lowerTrim).getD "UNDEF".toList
      type := (rvar.type.map fun text => remoteType (lowerTrim text)).getD .unknown
      page := numberOr UInt16.ofInt rvar.page 0
      offset := numberOr UInt32.ofInt rvar.offset 0
      bitpos := numberOr (fun number => Int8.ofInt number &&& 7) rvar.bitpos 0
      size := (rvar.access.map fun text => UInt16.ofInt (readStringValue (lowerTrim text))).getD
        (numberOr UInt16.ofInt rvar.size 0)
      access := accessOr rvar.access
      bgcolor := numberOr UInt32.ofInt rvar.bgcolor 0xffffff
      fgcolor := numberOr UInt32.ofInt rvar.fgcolor 0
      listBit := rvar.bits.map BitDescription.fromXml
      listValue := rvar.values.map ValueDescription.fromXml } := by
  have set : ∀ (member : RemoteMember) (text : Option Text) (old : RemoteVariable),
      setOptional setRemote member text old =
      match member with
      | .name => { old with name := (text.map lowerTrim).getD old.name }
      | .default => { old with strDefault := (text.map lowerTrim).getD old.strDefault }
      | .bitpos => { old with bitpos := numberIn (fun own => Int8.ofInt own &&& 7) text old.bitpos }
      | .size => { old with size := numberIn UInt16.ofInt text old.size }
      | .access => { old with
          size := numberIn UInt16.ofInt text old.size
          access := (text.map fun own => accessOf (lowerTrim own)).getD old.access }
      | .type => { old with type := (text.map fun own => remoteType (lowerTrim own)).getD old.type }
      | .page => { old with page := numberIn UInt16.ofInt text old.page }
      | .offset => { old with offset := numberIn UInt32.ofInt text old.offset }
      | .fgcolor => { old with fgcolor := numberIn UInt32.ofInt text old.fgcolor }
      | .bgcolor => { old with bgcolor := numberIn UInt32.ofInt text old.bgcolor } := by
    intro member text old
    cases member <;> cases text <;> rfl
  have folded : setAttributes remoteNames setRemote lowerTrim (given rvar.attributes) {} =
      setOptional setRemote .bgcolor (spelled rvar.bgcolor) (setOptional setRemote .fgcolor (spelled rvar.fgcolor)
        (setOptional setRemote .offset (spelled rvar.offset) (setOptional setRemote .page (spelled rvar.page)
          (setOptional setRemote .type rvar.type (setOptional setRemote .access rvar.access
            (setOptional setRemote .size (spelled rvar.size) (setOptional setRemote .bitpos (spelled rvar.bitpos)
              (setOptional setRemote .default (spelled rvar.default)
                (setOptional setRemote .name rvar.name {}))))))))) := set_given _ _ _ _
  rw [RemoteDescription.fromXml, folded]
  simp only [set, ← spelled_number]
  rfl

def remoteDefaultInJson : Option Numeral → Text
  | none => "UNDEF".toList
  | some (.number whole) => decimal (UInt32.ofInt whole.toInt).toNat
  | some (.text letters) => letters

def bitposInJson (rvar : RemoteDescription) : Int8 :=
  if rvar.size.isSome then numberOr (fun number => Int8.ofInt number &&& 7) rvar.bitpos (-1) else 0

theorem remote_default_from_json (j : Json) (default : Option Numeral)
    (found : j.member "default".toList = written default) :
    jsonRemoteDefault library j = remoteDefaultInJson default := by
  rw [jsonRemoteDefault, found]
  cases default with
  | none => rfl
  | some own =>
      cases own with
      | text letters => rfl
      | number whole =>
          have number := number_of_json library whole
          simp only [written, Option.map_some, remoteDefaultInJson]
          rw [Numeral.json] at number ⊢
          by_cases positive : 0 ≤ whole.toInt
          · rw [if_pos positive] at number
            simp only [if_pos positive, number]
          · rw [if_neg positive] at number
            simp only [if_neg positive, number]

-- Without a name or a type the JSON reader gives up.
theorem remote_from_json : jsonRemote library rvar.json =
    match rvar.name, rvar.type with
    | none, _ => .error {}
    | some name, none => .error { name := lowerTrim name }
    | some name, some type => .ok
        { name := lowerTrim name
          strDefault := remoteDefaultInJson rvar.default
          type := remoteType (lowerTrim type)
          page := numberOr UInt16.ofInt rvar.page 0
          offset := numberOr UInt32.ofInt rvar.offset 0
          bitpos := bitposInJson rvar
          size := numberOr UInt16.ofInt rvar.size 0
          access := accessOr rvar.access
          bgcolor := numberOr UInt32.ofInt rvar.bgcolor 0
          fgcolor := numberOr UInt32.ofInt rvar.fgcolor 0
          listBit := rvar.bits.map fun bit => jsonBit library bit.json
          listValue := rvar.values.map fun value => jsonValue library value.json } := by
  have member := member_with rvar.members (of_decide_eq_true rfl)
  have name := quoted_member rvar.json "name".toList rvar.name (member _)
  have type := quoted_member rvar.json "type".toList rvar.type (member _)
  have described (own : Text) := described_bare library rvar.json own (member _) (member _)
  have default := remote_default_from_json library rvar.json rvar.default (member _)
  have page := member_number library UInt16.ofInt rvar.json "page".toList rvar.page 0 (member _)
  have offset := member_number library UInt32.ofInt rvar.json "offset".toList rvar.offset 0 (member _)
  have size := member_number library UInt16.ofInt rvar.json "size".toList rvar.size 0 (member _)
  have access := access_member rvar.json rvar.access (member _)
  have fgcolor := member_number library UInt32.ofInt rvar.json "fgcolor".toList rvar.fgcolor 0 (member _)
  have bgcolor := member_number library UInt32.ofInt rvar.json "bgcolor".toList rvar.bgcolor 0 (member _)
  have values := values_from_json library rvar.json rvar.values (member _)
  have bits := bits_from_json library rvar.json rvar.bits (member _)
  have bitpos : jsonBitpos library rvar.json = bitposInJson rvar := by
    rw [jsonBitpos, bitposInJson, numeric_member library rvar.json "size".toList rvar.size (member _),
      member_number library (fun number => Int8.ofInt number &&& 7) rvar.json "bitpos".toList rvar.bitpos (-1) (member _)]
    cases rvar.size <;> rfl
  simp only [jsonRemote, jsonColor, name, type, described, default, page, offset, size, access.1, fgcolor, bgcolor, values,
    bits, bitpos]
  cases rvar.name with
  | none => rfl
  | some name => cases rvar.type <;> rfl

def remoteDefaultAgrees : Option Numeral → Prop
  | none => True
  | some (.number whole) => ((UInt32.ofInt whole.toInt).toNat : Int) = whole.toInt
  | some (.text letters) => lowerTrim letters = letters

structure RemoteDescription.Agrees (rvar : RemoteDescription) : Prop where
  name : rvar.name.isSome
  type : rvar.type.isSome
  default : remoteDefaultAgrees rvar.default
  bitpos : if rvar.size.isSome then rvar.bitpos.isSome
    else numberOr (fun number => Int8.ofInt number &&& 7) rvar.bitpos 0 = 0
  size : ∀ access ∈ rvar.access, UInt16.ofInt (readStringValue access) = numberOr UInt16.ofInt rvar.size 0
  background : rvar.bgcolor.isSome
  bits : ∀ bit ∈ rvar.bits, bit.Agrees
  values : ∀ value ∈ rvar.values, value.Agrees

theorem remote_default_agrees_iff (default : Option Numeral) :
    ((spelled default).map lowerTrim).getD "UNDEF".toList = remoteDefaultInJson default ↔
      remoteDefaultAgrees default := by
  cases default with
  | none => exact iff_of_true rfl trivial
  | some own =>
      cases own with
      | text letters => exact Iff.rfl
      | number whole =>
          have shown : lowerTrim (Numeral.number whole).spelled = signedDecimal whole.toInt :=
            signed_decimal_lower whole.toInt
          have small := (UInt32.ofInt whole.toInt).toNat_lt
          simp only [spelled, Option.map_some, Option.getD_some, shown, remoteDefaultInJson, remoteDefaultAgrees]
          generalize (UInt32.ofInt whole.toInt).toNat = count at small
          constructor
          · intro same
            have right := read_decimal_value count (by omega)
            have left : readStringValue (signedDecimal whole.toInt) = whole.toInt := read_spelled (.number whole)
            rw [← right, ← same, left]
          · intro same
            rw [← same]
            rfl

theorem bitpos_agrees_iff :
    numberOr (fun number => Int8.ofInt number &&& 7) rvar.bitpos 0 = bitposInJson rvar ↔
      if rvar.size.isSome then rvar.bitpos.isSome = true
      else numberOr (fun number => Int8.ofInt number &&& 7) rvar.bitpos 0 = 0 := by
  unfold bitposInJson
  cases rvar.size with
  | none => exact Iff.rfl
  | some size =>
      cases rvar.bitpos with
      | none =>
          refine iff_of_false (fun same => ?_) Bool.false_ne_true
          have wrong : (0 : Int8) = -1 := same
          exact absurd wrong (by decide)
      | some own => exact iff_of_true rfl rfl

theorem size_agrees_iff (access : Option Text) (size : UInt16) :
    (access.map fun text => UInt16.ofInt (readStringValue (lowerTrim text))).getD size = size ↔
      ∀ own ∈ access, UInt16.ofInt (readStringValue own) = size := by
  cases access with
  | none => exact iff_of_true rfl fun own member => by cases member
  | some text => simp only [Option.map_some, Option.getD_some, read_lower_trim, Option.mem_some_iff, forall_eq']

theorem remote_agrees_iff : jsonRemote library rvar.json = .ok rvar.fromXml ↔ rvar.Agrees := by
  have default := remote_default_agrees_iff rvar.default
  have bitpos := bitpos_agrees_iff rvar
  have size := size_agrees_iff rvar.access (numberOr UInt16.ofInt rvar.size 0)
  have background := background_agrees_iff rvar.bgcolor
  have bits := maps_agree_iff _ _ _ (bit_agrees_iff library) rvar.bits
  have values := maps_agree_iff _ _ _ (value_agrees_iff library) rvar.values
  rw [remote_from_json, remote_from_xml]
  cases named : rvar.name with
  | none =>
      refine iff_of_false (fun same => by cases same) fun agrees => ?_
      have some := agrees.name
      rw [named] at some
      cases some
  | some name =>
      cases typed : rvar.type with
      | none =>
          refine iff_of_false (fun same => by cases same) fun agrees => ?_
          have some := agrees.type
          rw [typed] at some
          cases some
      | some type =>
          simp only [Except.ok.injEq, RemoteVariable.mk.injEq, lowered, Option.map_some, Option.getD_some, true_and]
          constructor
          · rintro ⟨own, place, width, colour, inner, items⟩
            exact ⟨by rw [named]; rfl, by rw [typed]; rfl, default.mp own.symm, bitpos.mp place.symm,
              size.mp width.symm, background.mp colour.symm, bits.mp inner.symm, values.mp items.symm⟩
          · intro agrees
            exact ⟨(default.mpr agrees.default).symm, (bitpos.mpr agrees.bitpos).symm, (size.mpr agrees.size).symm,
              (background.mpr agrees.background).symm, (bits.mpr agrees.bits).symm, (values.mpr agrees.values).symm⟩

theorem read_records_iff {Item Record : Type} (read : Json → Except Record Record) (json : Item → Json)
    (made : Item → Record) (items : List Item) :
    readRecords read (items.map json) = .ok (items.map made) ↔ ∀ item ∈ items, read (json item) = .ok (made item) := by
  induction items with
  | nil => exact iff_of_true rfl fun item member => absurd member List.not_mem_nil
  | cons item items ih =>
      rw [List.map_cons, List.map_cons, List.forall_mem_cons, ← ih, readRecords]
      cases read (json item) with
      | error record => exact iff_of_false (fun same => by cases same) fun both => by cases both.1
      | ok record =>
          cases readRecords read (items.map json) with
          | error records => exact iff_of_false (fun same => by cases same) fun both => by cases both.2
          | ok records => simp only [Except.ok.injEq, List.cons.injEq]

end remotes

section actions

variable (library : JsonLibrary)

variable (param : ParameterDescription)

theorem parameter_from_xml : param.fromXml =
    { name := lowered param.name
      offset := numberOr UInt16.ofInt param.offset 0
      min := numberOr UInt8.ofInt param.min 0
      max := numberOr UInt8.ofInt param.max 255
      listBit := param.bits.map BitDescription.fromXml
      listValue := param.values.map ValueDescription.fromXml } := by
  have set : ∀ (member : ParameterMember) (text : Option Text) (old : ActionParameter),
      setOptional setParameter member text old =
      match member with
      | .offset => { old with offset := numberIn UInt16.ofInt text old.offset }
      | .min => { old with min := numberIn UInt8.ofInt text old.min }
      | .max => { old with max := numberIn UInt8.ofInt text old.max }
      | .name => { old with name := (text.map lowerTrim).getD old.name } := by
    intro member text old
    cases member <;> cases text <;> rfl
  have folded : setAttributes parameterNames setParameter lowerTrim (given param.attributes) {} =
      setOptional setParameter .name param.name (setOptional setParameter .max (spelled param.max)
        (setOptional setParameter .min (spelled param.min)
          (setOptional setParameter .offset (spelled param.offset) {}))) := set_given _ _ _ _
  rw [ParameterDescription.fromXml, folded]
  simp only [set, ← spelled_number]
  rfl

def maxInJson : Option Numeral → UInt8
  | some (.text letters) => UInt8.ofInt (readStringValue letters)
  | _ => 0

theorem parameter_from_json : jsonParameter library param.json =
    { name := lowered param.name
      offset := numberOr UInt16.ofInt param.offset 0
      min := numberOr UInt8.ofInt param.min 0
      max := maxInJson param.max
      listBit := param.bits.map fun bit => jsonBit library bit.json
      listValue := param.values.map fun value => jsonValue library value.json } := by
  have member := member_with param.members (of_decide_eq_true rfl)
  have object : isObject param.json = true := rfl
  have name : lowerName param.json = lowered param.name := lower_name param.json param.name (member _)
  have described := described_bare library param.json (lowered param.name) (member _) (member _)
  have offset := member_number library UInt16.ofInt param.json "offset".toList param.offset 0 (member _)
  have low := member_number library UInt8.ofInt param.json "min".toList param.min 0 (member _)
  have high := written_member param.json "max".toList param.max (member _)
  have values := values_from_json library param.json param.values (member _)
  have bits := bits_from_json library param.json param.bits (member _)
  simp only [jsonParameter, object, if_true, name, described, offset, low, high, values, bits]
  cases param.max with
  | none => rfl
  | some own => cases own <;> rfl

-- The max of a parameter has to be given, as a text unless it is 0.
def parameterMaxAgrees : Option Numeral → Prop
  | none => False
  | some (.number whole) => UInt8.ofInt whole.toInt = 0
  | some (.text _) => True

structure ParameterDescription.Agrees (param : ParameterDescription) : Prop where
  max : parameterMaxAgrees param.max
  bits : ∀ bit ∈ param.bits, bit.Agrees
  values : ∀ value ∈ param.values, value.Agrees

theorem parameter_agrees_iff :
    param.fromXml = jsonParameter library param.json ↔ param.Agrees := by
  have bits := maps_agree_iff _ _ _ (bit_agrees_iff library) param.bits
  have values := maps_agree_iff _ _ _ (value_agrees_iff library) param.values
  have max : numberOr UInt8.ofInt param.max 255 = maxInJson param.max ↔ parameterMaxAgrees param.max := by
    cases param.max with
    | none => exact iff_of_false (by decide) id
    | some own =>
        cases own with
        | number whole => exact Iff.rfl
        | text letters => exact iff_of_true rfl trivial
  rw [parameter_from_xml, parameter_from_json, ActionParameter.mk.injEq]
  simp only [true_and, max, bits, values]
  exact ⟨fun ⟨max, bits, values⟩ => ⟨max, bits, values⟩, fun agrees => ⟨agrees.max, agrees.bits, agrees.values⟩⟩

variable (action : ActionDescription)

theorem action_from_xml : action.fromXml =
    { name := lowered action.name
      code := numberOr UInt16.ofInt action.code 0
      listActionParameter := action.params.map ParameterDescription.fromXml } := by
  have folded : setAttributes actionNames setAction lowerTrim (given action.attributes) {} =
      setOptional setAction .name action.name (setOptional setAction .code (spelled action.code) {}) :=
    set_given _ _ _ _
  rw [ActionDescription.fromXml, folded, ← spelled_number]
  cases spelled action.code <;> cases action.name <;> rfl

theorem action_from_json : jsonAction library action.json =
    match action.name, action.code with
    | none, _ => .error {}
    | some name, none => .error { name := lowerTrim name }
    | some name, some code => .ok
        { name := lowerTrim name
          code := UInt16.ofInt code.value
          listActionParameter := action.params.map fun param => jsonParameter library param.json } := by
  have member := member_with action.members (of_decide_eq_true rfl)
  have name := quoted_member action.json "name".toList action.name (member _)
  have code := numeric_member library action.json "code".toList action.code (member _)
  have described (own : Text) := described_bare library action.json own (member _) (member _)
  have params := listed_members ParameterDescription.json action.json "param".toList action.params (member _)
  simp only [jsonAction, name, code, described, params, Option.getD_some, List.map_map]
  cases action.name with
  | none => rfl
  | some name => cases action.code <;> rfl

structure ActionDescription.Agrees (action : ActionDescription) : Prop where
  name : action.name.isSome
  code : action.code.isSome
  params : ∀ param ∈ action.params, param.Agrees

theorem action_agrees_iff :
    jsonAction library action.json = .ok action.fromXml ↔ action.Agrees := by
  have params := maps_agree_iff _ _ _ (parameter_agrees_iff library) action.params
  rw [action_from_json, action_from_xml]
  cases named : action.name with
  | none =>
      refine iff_of_false (fun same => by cases same) fun agrees => ?_
      have some := agrees.name
      rw [named] at some
      cases some
  | some name =>
      cases coded : action.code with
      | none =>
          refine iff_of_false (fun same => by cases same) fun agrees => ?_
          have some := agrees.code
          rw [coded] at some
          cases some
      | some code =>
          simp only [Except.ok.injEq, Action.mk.injEq, lowered, numberOr, Option.map_some, Option.getD_some, true_and]
          rw [eq_comm, params]
          exact ⟨fun all => ⟨by rw [named]; rfl, by rw [coded]; rfl, all⟩, fun agrees => agrees.params⟩

end actions

section events

variable (library : JsonLibrary)

variable (data : DataDescription)

theorem data_from_xml : data.fromXml =
    { name := lowered data.name
      offset := numberOr UInt16.ofInt data.offset 0
      listBit := data.bits.map BitDescription.fromXml
      listValue := data.values.map ValueDescription.fromXml } := by
  have folded : setAttributes dataNames setEventData lowerTrim (given data.attributes) {} =
      setOptional setEventData .offset (spelled data.offset) (setOptional setEventData .name data.name {}) :=
    set_given _ _ _ _
  rw [DataDescription.fromXml, folded, ← spelled_number]
  cases spelled data.offset <;> cases data.name <;> rfl

theorem data_from_json : jsonEventData library data.json =
    { name := lowered data.name
      listBit := data.bits.map fun bit => jsonBit library bit.json
      listValue := data.values.map fun value => jsonValue library value.json } := by
  have member := member_with data.members (of_decide_eq_true rfl)
  have name : lowerName data.json = lowered data.name := lower_name data.json data.name (member _)
  have described := described_bare library data.json (lowered data.name) (member _) (member _)
  have values := values_from_json library data.json data.values (member _)
  have bits := bits_from_json library data.json data.bits (member _)
  simp only [jsonEventData, name, described, values, bits]

structure DataDescription.Agrees (data : DataDescription) : Prop where
  offset : numberOr UInt16.ofInt data.offset 0 = 0
  bits : ∀ bit ∈ data.bits, bit.Agrees
  values : ∀ value ∈ data.values, value.Agrees

theorem data_agrees_iff : data.fromXml = jsonEventData library data.json ↔ data.Agrees := by
  have bits := maps_agree_iff _ _ _ (bit_agrees_iff library) data.bits
  have values := maps_agree_iff _ _ _ (value_agrees_iff library) data.values
  rw [data_from_xml, data_from_json, EventData.mk.injEq]
  simp only [true_and, bits, values]
  exact ⟨fun ⟨offset, bits, values⟩ => ⟨offset, bits, values⟩, fun agrees => ⟨agrees.offset, agrees.bits, agrees.values⟩⟩

def textOr {Part : Type} (read : Text → Part) (text : Option Text) (missing : Part) : Part :=
  (text.map fun own => read (lowerTrim own)).getD missing

variable (event : EventDescription)

theorem event_from_xml : event.fromXml =
    { name := lowered event.name
      vscpClass := textOr eventNumber (spelled event.vscpClass) 0
      type := textOr eventNumber (spelled event.type) 0
      direction := textOr directionOf event.direction .out
      priority := textOr priorityOf (spelled event.priority) 7
      listEventData := event.data.map DataDescription.fromXml } := by
  have folded : setAttributes eventNames setEvent lowerTrim (given event.attributes) {} =
      setOptional setEvent .priority (spelled event.priority) (setOptional setEvent .direction event.direction
        (setOptional setEvent .type (spelled event.type) (setOptional setEvent .vscpClass (spelled event.vscpClass)
          (setOptional setEvent .name event.name {})))) := set_given _ _ _ _
  rw [EventDescription.fromXml, folded]
  cases spelled event.priority <;> cases event.direction <;> cases spelled event.type <;>
    cases spelled event.vscpClass <;> cases event.name <;> rfl

theorem number_member_written (j : Json) (name : Text) (numeral : Option Numeral) (found : j.member name = written numeral) :
    numberMember library j name = numeral.bind fun own => match own with
      | .number whole => some whole.toInt
      | .text _ => none := by
  rw [numberMember, found]
  cases numeral with
  | none => rfl
  | some own =>
      cases own with
      | text letters => rfl
      | number whole => exact number_of_json library whole

def priorityInJson : Option Numeral → UInt8
  | none => 3
  | some (.number whole) => UInt8.ofInt whole.toInt &&& 7
  | some (.text letters) => priorityOf (lowerTrim letters)

theorem priority_from_json (j : Json) (priority : Option Numeral) (found : j.member "priority".toList = written priority) :
    jsonPriority library j = priorityInJson priority := by
  rw [jsonPriority, written_member j _ priority found, number_member_written library j _ priority found]
  cases priority with
  | none => rfl
  | some own => cases own <;> rfl

theorem event_from_json : jsonEvent library event.json =
    match event.vscpClass, event.type with
    | some (.number vscpClass), some (.number type) => .ok
        { name := lowered event.name
          vscpClass := Int32.ofInt vscpClass.toInt
          type := Int32.ofInt type.toInt
          direction := textOr directionOf event.direction .out
          priority := priorityInJson event.priority
          listEventData := event.data.map fun data => jsonEventData library data.json }
    | some (.number vscpClass), _ => .error { name := lowered event.name, vscpClass := Int32.ofInt vscpClass.toInt }
    | _, _ => .error { name := lowered event.name } := by
  have member := member_with event.members (of_decide_eq_true rfl)
  have name : lowerName event.json = lowered event.name := lower_name event.json event.name (member _)
  have described := described_bare library event.json (lowered event.name) (member _) (member _)
  have vscpClass := number_member_written library event.json "class".toList event.vscpClass (member _)
  have type := number_member_written library event.json "type".toList event.type (member _)
  have direction := quoted_member event.json "direction".toList event.direction (member _)
  have priority := priority_from_json library event.json event.priority (member _)
  have data := listed_members DataDescription.json event.json "data".toList event.data (member _)
  simp only [jsonEvent, name, described, vscpClass, type, direction, priority, data, Option.getD_some,
    objects_listed DataDescription.json fun _ => rfl, List.map_map]
  cases event.vscpClass with
  | none => rfl
  | some own =>
      cases own with
      | text letters => rfl
      | number whole =>
          cases event.type with
          | none => rfl
          | some other => cases other <;> rfl

def isNumber : Option Numeral → Prop
  | some (.number _) => True
  | _ => False

structure EventDescription.Agrees (event : EventDescription) : Prop where
  vscpClass : isNumber event.vscpClass
  type : isNumber event.type
  priority : event.priority.isSome
  data : ∀ data ∈ event.data, data.Agrees

variable (whole : Int64)

theorem event_number_of : eventNumber (lowerTrim (signedDecimal whole.toInt)) = Int32.ofInt whole.toInt := by
  have digits : signedDecimal whole.toInt ≠ "-".toList := by
    intro same
    exact NumberText.decimal_nonempty whole.toInt.natAbs (by
      by_cases negative : whole.toInt < 0
      · rw [signedDecimal, if_pos negative] at same
        exact (List.cons.inj same).2
      · rw [signedDecimal, if_neg negative] at same
        have sign : '-' ∈ decimal whole.toInt.natAbs := by
          rw [List.nil_append] at same
          rw [same]
          decide
        have digit := decimal_digits whole.toInt.natAbs '-' sign
        exact absurd digit (by decide))
  rw [signed_decimal_lower, eventNumber, if_neg digits]
  exact congrArg Int32.ofInt (read_spelled (.number whole))

theorem priority_of_number :
    priorityOf (lowerTrim (signedDecimal whole.toInt)) = UInt8.ofInt whole.toInt &&& 7 := by
  rw [signed_decimal_lower, priorityOf,
    if_neg (signed_decimal_ne whole.toInt "low".toList 'l' (by decide) (by decide) (by decide)),
    if_neg (signed_decimal_ne whole.toInt "normal".toList 'n' (by decide) (by decide) (by decide)),
    if_neg (signed_decimal_ne whole.toInt "medium".toList 'm' (by decide) (by decide) (by decide)),
    if_neg (signed_decimal_ne whole.toInt "high".toList 'h' (by decide) (by decide) (by decide))]
  exact congrArg (fun number => UInt8.ofInt number &&& 7) (read_spelled (.number whole))

theorem priority_agrees_iff (priority : Option Numeral) :
    priorityInJson priority = textOr priorityOf (spelled priority) 7 ↔ priority.isSome := by
  cases priority with
  | none => exact iff_of_false (by decide) (by decide)
  | some own =>
      refine iff_of_true ?_ rfl
      cases own with
      | text letters => rfl
      | number whole => exact (priority_of_number whole).symm

theorem event_agrees_iff :
    jsonEvent library event.json = .ok event.fromXml ↔ event.Agrees := by
  have data := maps_agree_iff _ _ _ (data_agrees_iff library) event.data
  have priority := priority_agrees_iff event.priority
  rw [event_from_json, event_from_xml]
  -- Without the two numbers the reader fails.
  by_cases numbered : isNumber event.vscpClass ∧ isNumber event.type
  · obtain ⟨classed, typed⟩ := numbered
    obtain ⟨vscpClass, hasClass⟩ : ∃ whole, event.vscpClass = some (.number whole) := by
      match event.vscpClass, classed with
      | some (.number whole), _ => exact ⟨whole, rfl⟩
    obtain ⟨type, hasType⟩ : ∃ whole, event.type = some (.number whole) := by
      match event.type, typed with
      | some (.number whole), _ => exact ⟨whole, rfl⟩
    have classSame : textOr eventNumber (spelled event.vscpClass) 0 = Int32.ofInt vscpClass.toInt := by
      rw [hasClass]
      exact event_number_of vscpClass
    have typeSame : textOr eventNumber (spelled event.type) 0 = Int32.ofInt type.toInt := by
      rw [hasType]
      exact event_number_of type
    rw [classSame, typeSame]
    have listed := eq_comm.trans data
    simp only [hasClass, hasType, Except.ok.injEq, Event.mk.injEq, true_and, priority, listed]
    exact ⟨fun ⟨given, all⟩ => ⟨classed, typed, given, all⟩, fun agrees => ⟨agrees.priority, agrees.data⟩⟩
  · refine iff_of_false (fun same => numbered ?_) fun agrees => numbered ⟨agrees.vscpClass, agrees.type⟩
    match classed : event.vscpClass, typed : event.type with
    | some (.number _), some (.number _) => exact ⟨trivial, trivial⟩
    | none, _ => rw [classed] at same; cases same
    | some (.text _), _ => rw [classed] at same; cases same
    | some (.number _), none => rw [classed, typed] at same; cases same
    | some (.number _), some (.text _) => rw [classed, typed] at same; cases same

end events

end Vscp.ModuleDescription
