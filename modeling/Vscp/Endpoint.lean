import Vscp.GuidText

set_option autoImplicit false

namespace Vscp.Datagram

open NumberText
open RemoteTcp (Text)

@[grind =] def cut (mark : Char) : Text → Option (Text × Text)
  | [] => none
  | letter :: rest =>
      if letter = mark then some ([], rest) else (cut mark rest).map fun parts => (letter :: parts.1, parts.2)

@[grind =] def portValue : Text → Nat → Option Nat
  | [], value => some value
  | ch :: rest, value =>
      if '0' ≤ ch ∧ ch ≤ '9' then
        let value := value * 10 + (ch.toNat - '0'.toNat)
        if value > 65535 then none else portValue rest value
      else none

def parsePort (text : Text) : Option UInt16 :=
  if text = [] then none
  else (portValue text 0).bind fun value => if value = 0 then none else some (UInt16.ofNat value)

-- The first "%25" becomes "%", and the first "%" becomes "%25".
@[grind =] def decodeZone : Text → Text
  | '%' :: '2' :: '5' :: rest => '%' :: rest
  | letter :: rest => letter :: decodeZone rest
  | [] => []

@[grind =] def encodeZone : Text → Text
  | [] => []
  | letter :: rest => if letter = '%' then '%' :: '2' :: '5' :: rest else letter :: encodeZone rest

def scheme : Text := ['u', 'd', 'p', ':', '/', '/']
def foreignLetters : Text := [' ', '\t', '\r', '\n', '/', '?', '#']

section

-- inet_pton of AF_INET and AF_INET6.
variable (inet4 inet6 : Text → Bool)

def validIpv6Literal (host : Text) : Bool :=
  match cut '%' host with
  | some (address, zone) =>
      address ≠ [] ∧ zone ≠ [] ∧ '%' ∉ zone ∧ inet6 (address.takeWhile (· ≠ '\x00')) = true
  | none => inet6 (host.takeWhile (· ≠ '\x00'))

def bracketedEndpoint (uri : Bool) (value : Text) (port : UInt16) : Option (Text × UInt16) :=
  match cut ']' value with
  | none => none
  | some (inside, behind) =>
      let parsedHost := if uri then decodeZone inside else inside
      if inside = [] ∨ validIpv6Literal inet6 parsedHost = false then none
      else
        match behind with
        | [] => some (parsedHost, port)
        | mark :: text => if mark = ':' then (parsePort text).map fun parsedPort => (parsedHost, parsedPort) else none

def namedEndpoint (parsedHost : Text) (parsedPort : UInt16) : Option (Text × UInt16) :=
  if parsedHost = [] ∨ '%' ∈ parsedHost then none
  else if parsedHost.all (· ∈ "0123456789.".toList) ∧ inet4 (parsedHost.takeWhile (· ≠ '\x00')) = false then none
  else some (parsedHost, parsedPort)

def plainEndpoint (value : Text) (port : UInt16) : Option (Text × UInt16) :=
  if '[' ∈ value ∨ ']' ∈ value then none
  else if 2 ≤ value.count ':' then if validIpv6Literal inet6 value then some (value, port) else none
  else
    match cut ':' value with
    | some (parsedHost, text) => (parsePort text).bind (namedEndpoint inet4 parsedHost)
    | none => namedEndpoint inet4 value port

-- `port` is what the caller's variable holds.
def parseEndpoint (input : Text) (port : UInt16) : Option (Text × UInt16) :=
  let uri := scheme.isPrefixOf input
  let value := if uri then input.drop 6 else input
  if value.any (· ∈ foreignLetters) then none
  else
    match value with
    | [] => none
    | first :: rest =>
        if first = '[' then bracketedEndpoint inet6 uri rest port else plainEndpoint inet4 inet6 value port

end

def formatEndpoint (host : Text) (port : UInt16) : Text :=
  if ':' ∉ host then scheme ++ host ++ ':' :: decimal port.toNat
  else scheme ++ '[' :: encodeZone host ++ ']' :: ':' :: decimal port.toNat

variable (mark : Char)

theorem cut_parts (text before behind : Text) (found : cut mark text = some (before, behind)) :
    text = before ++ mark :: behind ∧ mark ∉ before := by
  induction text generalizing before with
  | nil => cases found
  | cons letter rest ih =>
      rw [cut] at found
      by_cases same : letter = mark
      · rw [if_pos same] at found
        cases found
        rw [same]
        exact ⟨rfl, List.not_mem_nil⟩
      · rw [if_neg same] at found
        obtain ⟨⟨front, back⟩, later, parts⟩ := Option.map_eq_some_iff.mp found
        cases parts
        obtain ⟨whole, absent⟩ := ih front later
        refine ⟨congrArg (letter :: ·) whole, ?_⟩
        exact List.not_mem_cons_of_ne_of_not_mem (Ne.symm same) absent

theorem cut_at (before behind : Text) (absent : mark ∉ before) :
    cut mark (before ++ mark :: behind) = some (before, behind) := by
  induction before with
  | nil => exact if_pos rfl
  | cons letter before ih =>
      obtain ⟨different, absent⟩ := List.ne_and_not_mem_of_not_mem_cons absent
      rw [List.cons_append, cut, if_neg (Ne.symm different), ih absent]
      rfl

variable (text : Text)

theorem cut_none (found : cut mark text = none) : mark ∉ text := by
  induction text with
  | nil => exact List.not_mem_nil
  | cons letter rest ih =>
      rw [cut] at found
      by_cases same : letter = mark
      · rw [if_pos same] at found
        cases found
      · rw [if_neg same, Option.map_eq_none_iff] at found
        exact List.not_mem_cons_of_ne_of_not_mem (Ne.symm same) (ih found)

theorem decode_encoded : decodeZone (encodeZone text) = text := by
  induction text with
  | nil => rfl
  | cons letter rest ih =>
      rw [encodeZone]
      by_cases percent : letter = '%'
      · rw [if_pos percent, percent, decodeZone]
      · rw [if_neg percent, decodeZone, ih]
        intro digits same
        exact absurd same percent

theorem decode_cases : decodeZone text = text ∨
    ∃ front back, text = front ++ '%' :: '2' :: '5' :: back ∧ decodeZone text = front ++ '%' :: back := by
  induction text using decodeZone.induct with
  | case1 rest => exact .inr ⟨[], rest, rfl, by rw [decodeZone]; rfl⟩
  | case2 first rest other ih =>
      have step : decodeZone (first :: rest) = first :: decodeZone rest := by
        rw [decodeZone]
        exact other
      rw [step]
      rcases ih with same | ⟨front, back, whole, decoded⟩
      · exact .inl (by rw [same])
      · exact .inr ⟨first :: front, back, by rw [whole]; rfl, by rw [decoded]; rfl⟩
  | case3 => exact .inl rfl

theorem encode_cases : encodeZone text = text ∨
    ∃ front back, text = front ++ '%' :: back ∧ encodeZone text = front ++ '%' :: '2' :: '5' :: back := by
  induction text with
  | nil => exact .inl rfl
  | cons letter rest ih =>
      rw [encodeZone]
      by_cases percent : letter = '%'
      · rw [if_pos percent, percent]
        exact .inr ⟨[], rest, rfl, rfl⟩
      · rw [if_neg percent]
        rcases ih with same | ⟨front, back, whole, encoded⟩
        · exact .inl (by rw [same])
        · exact .inr ⟨letter :: front, back, by rw [whole]; rfl, by rw [encoded]; rfl⟩

theorem encoded_letters : ∀ letter ∈ encodeZone text, letter ∈ text ∨ letter = '2' ∨ letter = '5' := by
  intro letter inside
  rcases encode_cases text with same | ⟨front, back, whole, encoded⟩
  · rw [same] at inside
    exact .inl inside
  · rw [encoded] at inside
    rw [whole]
    simp only [List.mem_append, List.mem_cons] at inside ⊢
    rcases inside with before | percent | two | five | behind
    · exact .inl (.inl before)
    · exact .inl (.inr (.inl percent))
    · exact .inr (.inl two)
    · exact .inr (.inr five)
    · exact .inl (.inr (.inr behind))

theorem decoded_letters : ∀ letter ∈ decodeZone text, letter ∈ text := by
  intro letter inside
  rcases decode_cases text with same | ⟨front, back, whole, decoded⟩
  · rwa [same] at inside
  · rw [decoded] at inside
    rw [whole]
    simp only [List.mem_append, List.mem_cons] at inside ⊢
    rcases inside with before | percent | behind
    · exact .inl before
    · exact .inr (.inl percent)
    · exact .inr (.inr (.inr (.inr behind)))

theorem decimal_letter (letter : Char) (digit : isDigitOf 10 letter = true) :
    '0' ≤ letter ∧ letter ≤ '9' ∧ digitValue letter = some (letter.toNat - '0'.toNat) := by
  obtain ⟨value, read, below⟩ := digit_of_base 10 letter digit
  unfold digitValue at read ⊢
  by_cases decimal : letter.isDigit = true
  · obtain ⟨low, high⟩ := Char.isDigit_iff_toNat.mp decimal
    rw [if_pos decimal]
    exact ⟨Char.le_def.mpr low, Char.le_def.mpr high, rfl⟩
  · rw [if_neg decimal] at read
    split at read
    · rename_i lower
      have low : 97 ≤ letter.toNat := Char.le_def.mp lower.1
      cases read
      omega
    · split at read
      · rename_i upper
        have low : 65 ≤ letter.toNat := Char.le_def.mp upper.1
        cases read
        omega
      · cases read

def digitsFrom (value : Nat) (digits : Text) : Nat :=
  digits.foldl (fun total letter => total * 10 + (digitValue letter).getD 0) value

variable (digits : Text) (value : Nat)

theorem digits_from_least : value ≤ digitsFrom value digits := by
  induction digits generalizing value with
  | nil => exact Nat.le_refl value
  | cons letter digits ih =>
      have later := ih (value * 10 + (digitValue letter).getD 0)
      exact Nat.le_trans (by omega) later

theorem port_value_digits (all : ∀ letter ∈ digits, isDigitOf 10 letter = true)
    (small : digitsFrom value digits ≤ 65535) : portValue digits value = some (digitsFrom value digits) := by
  induction digits generalizing value with
  | nil => rfl
  | cons letter digits ih =>
      obtain ⟨own, all⟩ := List.forall_mem_cons.mp all
      obtain ⟨low, high, read⟩ := decimal_letter letter own
      have next : digitsFrom value (letter :: digits) =
          digitsFrom (value * 10 + (letter.toNat - '0'.toNat)) digits := by
        rw [digitsFrom, List.foldl_cons, read]
        rfl
      rw [next] at small ⊢
      have bound := digits_from_least digits (value * 10 + (letter.toNat - '0'.toNat))
      have fits : ¬ value * 10 + (letter.toNat - '0'.toNat) > 65535 := by omega
      rw [portValue, if_pos ⟨low, high⟩]
      simp only [if_neg fits]
      exact ih _ all small

variable (port : UInt16)

theorem port_read : parsePort (decimal port.toNat) = if port = 0 then none else some port := by
  have value : digitsFrom 0 (decimal port.toNat) = port.toNat := decimal_value port.toNat
  have small : port.toNat ≤ 65535 := Nat.le_of_lt_succ port.toNat_lt
  have read := port_value_digits (decimal port.toNat) 0 (decimal_digits port.toNat) (by rw [value]; exact small)
  rw [parsePort, if_neg (decimal_nonempty port.toNat), read, value, Option.bind_some, UInt16.ofNat_toNat]
  by_cases zero : port = 0
  · rw [if_pos zero, if_pos (by rw [zero]; rfl)]
  · have different : port.toNat ≠ 0 := fun same => zero (UInt16.toNat_inj.mp same)
    rw [if_neg zero, if_neg different]

theorem port_bound (value found : Nat) (start : value ≤ 65535)
    (read : portValue digits value = some found) : found ≤ 65535 := by
  induction digits generalizing value with
  | nil =>
      cases read
      exact start
  | cons letter digits ih =>
      rw [portValue] at read
      split at read
      · simp only at read
        split at read
        · cases read
        · exact ih _ (by omega) read
      · cases read

theorem port_not_zero (read : parsePort text = some port) : port ≠ 0 := by
  unfold parsePort at read
  split at read
  · cases read
  · obtain ⟨value, found, known⟩ := Option.bind_eq_some_iff.mp read
    have bound := port_bound text 0 value (by decide) found
    split at known
    · cases known
    · rename_i some
      cases known
      intro zero
      have same := congrArg UInt16.toNat zero
      rw [UInt16.toNat_ofNat_of_lt' (by omega : value < 2 ^ 16)] at same
      exact some same

section

variable (inet4 inet6 : Text → Bool)

inductive IsHost (host : Text) : Prop where
  | address (solid : ∀ letter ∈ host, letter ∉ foreignLetters) (colon : ':' ∈ host) (closing : ']' ∉ host)
      (valid : validIpv6Literal inet6 host = true)
  | name (solid : ∀ letter ∈ host, letter ∉ foreignLetters) (noColon : ':' ∉ host) (opening : '[' ∉ host)
      (closing : ']' ∉ host) (named : ∀ port, namedEndpoint inet4 host port = some (host, port))

def NeedsColon (inet6 : Text → Bool) : Prop := ∀ text, inet6 text = true → ':' ∈ text

theorem literal_colon (colons : NeedsColon inet6) (host : Text) (valid : validIpv6Literal inet6 host = true) :
    ':' ∈ host := by
  unfold validIpv6Literal at valid
  cases found : cut '%' host with
  | none =>
      rw [found] at valid
      exact (List.takeWhile_prefix _).subset (colons _ valid)
  | some parts =>
      obtain ⟨whole, _⟩ := cut_parts '%' host parts.1 parts.2 found
      rw [found] at valid
      obtain ⟨_, _, _, accepted⟩ := of_decide_eq_true valid
      have inside := (List.takeWhile_prefix _).subset (colons _ accepted)
      rw [whole]
      exact List.mem_append_left _ inside

inductive HostIn (value host : Text) : Prop where
  | bracketed (inside behind : Text) (whole : value = '[' :: (inside ++ ']' :: behind))
      (decoded : host = inside ∨ host = decodeZone inside)
  | alone (whole : value = host)
  | front (behind : Text) (whole : value = host ++ ':' :: behind)

theorem named_result (parsedHost : Text) (port : UInt16) (host : Text) (found : UInt16)
    (read : namedEndpoint inet4 parsedHost port = some (host, found)) :
    parsedHost = host ∧ port = found ∧ ∀ other, namedEndpoint inet4 host other = some (host, other) := by
  unfold namedEndpoint at read
  split at read
  · cases read
  · rename_i some
    split at read
    · cases read
    · rename_i numeric
      cases read
      refine ⟨rfl, rfl, fun other => ?_⟩
      rw [namedEndpoint, if_neg some, if_neg numeric]

theorem bracketed_host (colons : NeedsColon inet6) (uri : Bool) (value : Text) (port : UInt16) (host : Text)
    (found : UInt16) (solid : ∀ letter ∈ value, letter ∉ foreignLetters)
    (read : bracketedEndpoint inet6 uri value port = some (host, found)) :
    IsHost inet4 inet6 host ∧ (found = port ∨ found ≠ 0) ∧ HostIn ('[' :: value) host := by
  unfold bracketedEndpoint at read
  cases parts : cut ']' value with
  | none =>
      rw [parts] at read
      cases read
  | some both =>
      obtain ⟨inside, behind⟩ := both
      obtain ⟨whole, closing⟩ := cut_parts ']' value inside behind parts
      rw [parts] at read
      simp only at read
      generalize decoded : (if uri then decodeZone inside else inside) = parsedHost at read
      have origin : parsedHost = inside ∨ parsedHost = decodeZone inside := by
        rw [← decoded]
        cases uri with
        | true => exact .inr rfl
        | false => exact .inl rfl
      have place : HostIn ('[' :: value) parsedHost := .bracketed inside behind (by rw [whole]) origin
      have letters : ∀ letter ∈ parsedHost, letter ∈ inside := by
        rcases origin with rfl | rfl
        · exact fun _ inside => inside
        · exact decoded_letters inside
      have form : validIpv6Literal inet6 parsedHost = true → IsHost inet4 inet6 parsedHost := by
        intro valid
        refine .address ?_ (literal_colon inet6 colons parsedHost valid) (fun held => closing (letters _ held)) valid
        intro letter held
        exact solid letter (by rw [whole]; exact List.mem_append_left _ (letters letter held))
      by_cases bad : inside = [] ∨ validIpv6Literal inet6 parsedHost = false
      · rw [if_pos bad] at read
        cases read
      · rw [if_neg bad] at read
        have valid := form (Bool.eq_true_of_not_eq_false fun none => bad (.inr none))
        cases behind with
        | nil =>
            cases read
            exact ⟨valid, .inl rfl, place⟩
        | cons mark text =>
            by_cases separated : mark = ':'
            · simp only [if_pos separated] at read
              obtain ⟨number, known, same⟩ := Option.map_eq_some_iff.mp read
              cases same
              exact ⟨valid, .inr (port_not_zero text _ known), place⟩
            · simp only [if_neg separated] at read
              cases read

theorem plain_host (value : Text) (port : UInt16) (host : Text) (found : UInt16)
    (solid : ∀ letter ∈ value, letter ∉ foreignLetters)
    (read : plainEndpoint inet4 inet6 value port = some (host, found)) :
    IsHost inet4 inet6 host ∧ (found = port ∨ found ≠ 0) ∧ HostIn value host := by
  unfold plainEndpoint at read
  by_cases brackets : '[' ∈ value ∨ ']' ∈ value
  · rw [if_pos brackets] at read
    cases read
  obtain ⟨opening, closing⟩ := not_or.mp brackets
  rw [if_neg brackets] at read
  by_cases several : 2 ≤ value.count ':'
  · rw [if_pos several] at read
    by_cases valid : validIpv6Literal inet6 value = true
    · rw [if_pos valid] at read
      cases read
      have colon : ':' ∈ value := List.count_pos_iff.mp (by omega)
      exact ⟨.address solid colon closing valid, .inl rfl, .alone rfl⟩
    · rw [if_neg valid] at read
      cases read
  · rw [if_neg several] at read
    cases parts : cut ':' value with
    | none =>
        rw [parts] at read
        obtain ⟨rfl, rfl, named⟩ := named_result inet4 value port host found read
        exact ⟨.name solid (cut_none ':' value parts) opening closing named, .inl rfl, .alone rfl⟩
    | some both =>
        obtain ⟨front, text⟩ := both
        obtain ⟨whole, noColon⟩ := cut_parts ':' value front text parts
        rw [parts] at read
        obtain ⟨number, known, result⟩ := Option.bind_eq_some_iff.mp read
        obtain ⟨rfl, rfl, named⟩ := named_result inet4 front number host found result
        have within : ∀ letter ∈ front, letter ∈ value := by
          intro letter inside
          rw [whole]
          exact List.mem_append_left _ inside
        refine ⟨.name (fun letter inside => solid letter (within letter inside)) noColon ?_ ?_ named, .inr ?_,
          .front text whole⟩
        · exact fun inside => opening (within _ inside)
        · exact fun inside => closing (within _ inside)
        · exact port_not_zero text _ known

theorem parsed_host (colons : NeedsColon inet6) (input : Text) (port : UInt16) (host : Text) (found : UInt16)
    (read : parseEndpoint inet4 inet6 input port = some (host, found)) :
    IsHost inet4 inet6 host ∧ (found = port ∨ found ≠ 0) ∧
      ∃ value, (input = value ∨ input = scheme ++ value) ∧ HostIn value host := by
  have origin : input = (if scheme.isPrefixOf input then input.drop 6 else input) ∨
      input = scheme ++ (if scheme.isPrefixOf input then input.drop 6 else input) := by
    cases prefixed : scheme.isPrefixOf input with
    | false => exact .inl rfl
    | true =>
        obtain ⟨rest, rfl⟩ := List.isPrefixOf_iff_prefix.mp prefixed
        exact .inr rfl
  unfold parseEndpoint at read
  simp only at read
  generalize (if scheme.isPrefixOf input then input.drop 6 else input) = value at read origin
  suffices parts : IsHost inet4 inet6 host ∧ (found = port ∨ found ≠ 0) ∧ HostIn value host from
    ⟨parts.1, parts.2.1, value, origin, parts.2.2⟩
  by_cases foreign : value.any (· ∈ foreignLetters) = true
  · rw [if_pos foreign] at read
    cases read
  have solid : ∀ letter ∈ value, letter ∉ foreignLetters :=
    fun letter inside bad => foreign (List.any_eq_true.mpr ⟨letter, inside, decide_eq_true bad⟩)
  rw [if_neg foreign] at read
  cases value with
  | nil => cases read
  | cons first rest =>
      by_cases bracket : first = '['
      · simp only [if_pos bracket] at read
        rw [bracket]
        exact bracketed_host inet4 inet6 colons _ rest port host found
          (fun letter inside => solid letter (List.mem_cons_of_mem first inside)) read
      · simp only [if_neg bracket] at read
        exact plain_host inet4 inet6 (first :: rest) port host found solid read

theorem digit_solid (letter : Char) (digit : isDigitOf 10 letter = true) : letter ∉ foreignLetters := by
  have none : foreignLetters.all (fun letter => ! isDigitOf 10 letter) = true := rfl
  intro foreign
  have other := List.all_eq_true.mp none letter foreign
  rw [digit] at other
  cases other

theorem no_foreign (value : Text) (solid : ∀ letter ∈ value, letter ∉ foreignLetters) :
    ¬ value.any (· ∈ foreignLetters) = true := by
  intro some
  obtain ⟨letter, inside, foreign⟩ := List.any_eq_true.mp some
  exact solid letter inside (of_decide_eq_true foreign)

theorem scheme_dropped (value : Text) : scheme.isPrefixOf (scheme ++ value) = true ∧ (scheme ++ value).drop 6 = value :=
  ⟨List.isPrefixOf_iff_prefix.mpr (List.prefix_append scheme value), rfl⟩

theorem bracketed_read (host : Text) (port other : UInt16) (colon : ':' ∈ host) (closing : ']' ∉ host)
    (valid : validIpv6Literal inet6 host = true) :
    bracketedEndpoint inet6 true (encodeZone host ++ ']' :: ':' :: decimal port.toNat) other =
      (parsePort (decimal port.toNat)).map fun parsedPort => (host, parsedPort) := by
  have absent : ']' ∉ encodeZone host := by
    intro inside
    rcases encoded_letters host ']' inside with held | same | same
    · exact closing held
    · cases same
    · cases same
  have some : encodeZone host ≠ [] := by
    intro empty
    have decoded := decode_encoded host
    rw [empty] at decoded
    rw [← decoded] at colon
    exact absurd colon List.not_mem_nil
  have accepted : ¬ (encodeZone host = [] ∨ validIpv6Literal inet6 host = false) := by
    rintro (empty | refused)
    · exact some empty
    · rw [valid] at refused
      cases refused
  unfold bracketedEndpoint
  rw [cut_at ']' (encodeZone host) _ absent]
  simp only [if_true, decode_encoded, if_neg accepted]

theorem plain_read (host : Text) (port other : UInt16) (noColon : ':' ∉ host) (opening : '[' ∉ host)
    (closing : ']' ∉ host) (named : ∀ port, namedEndpoint inet4 host port = some (host, port)) :
    plainEndpoint inet4 inet6 (host ++ ':' :: decimal port.toNat) other =
      (parsePort (decimal port.toNat)).map fun parsedPort => (host, parsedPort) := by
  have digit : ∀ mark, isDigitOf 10 mark = false → mark ∉ decimal port.toNat := by
    intro mark foreign inside
    rw [decimal_digits port.toNat mark inside] at foreign
    cases foreign
  have brackets : ¬ ('[' ∈ host ++ ':' :: decimal port.toNat ∨ ']' ∈ host ++ ':' :: decimal port.toNat) := by
    simp [opening, closing, digit '[' rfl, digit ']' rfl]
  have once : (host ++ ':' :: decimal port.toNat).count ':' = 1 := by
    rw [List.count_append, List.count_eq_zero.mpr noColon, List.count_cons_self,
      List.count_eq_zero.mpr (digit ':' rfl)]
  unfold plainEndpoint
  rw [if_neg brackets, once, if_neg (by decide), cut_at ':' host _ noColon]
  change (parsePort (decimal port.toNat)).bind (namedEndpoint inet4 host) = _
  cases parsePort (decimal port.toNat) with
  | none => rfl
  | some parsedPort => exact named parsedPort

theorem formatted_read (host : Text) (form : IsHost inet4 inet6 host) (port other : UInt16) :
    parseEndpoint inet4 inet6 (formatEndpoint host port) other =
      if port = 0 then none else some (host, port) := by
  have result : (parsePort (decimal port.toNat)).map (fun parsedPort => (host, parsedPort)) =
      if port = 0 then none else some (host, port) := by
    rw [port_read]
    split <;> rfl
  rw [← result]
  have digits := fun letter inside => digit_solid letter (decimal_digits port.toNat letter inside)
  cases form with
  | address solid colon closing valid =>
      have written : formatEndpoint host port =
          scheme ++ '[' :: (encodeZone host ++ ']' :: ':' :: decimal port.toNat) := by
        rw [formatEndpoint, if_neg (not_not_intro colon), List.append_assoc, List.cons_append]
      obtain ⟨uri, value⟩ := scheme_dropped ('[' :: (encodeZone host ++ ']' :: ':' :: decimal port.toNat))
      have own : ∀ letter ∈ '[' :: (encodeZone host ++ ']' :: ':' :: decimal port.toNat), letter ∉ foreignLetters := by
        intro letter inside
        simp only [List.mem_cons, List.mem_append] at inside
        rcases inside with rfl | encoded | rfl | rfl | digit
        · decide
        · rcases encoded_letters host letter encoded with held | rfl | rfl
          · exact solid letter held
          · decide
          · decide
        · decide
        · decide
        · exact digits letter digit
      rw [written, parseEndpoint]
      simp only [uri, value, if_true]
      rw [if_neg (no_foreign _ own)]
      exact bracketed_read inet6 host port other colon closing valid
  | name solid noColon opening closing named =>
      have written : formatEndpoint host port = scheme ++ (host ++ ':' :: decimal port.toNat) := by
        rw [formatEndpoint, if_pos noColon, List.append_assoc]
      obtain ⟨uri, value⟩ := scheme_dropped (host ++ ':' :: decimal port.toNat)
      have own : ∀ letter ∈ host ++ ':' :: decimal port.toNat, letter ∉ foreignLetters := by
        intro letter inside
        simp only [List.mem_cons, List.mem_append] at inside
        rcases inside with held | rfl | digit
        · exact solid letter held
        · decide
        · exact digits letter digit
      have read := plain_read inet4 inet6 host port other noColon opening closing named
      rw [written, parseEndpoint]
      simp only [uri, value, if_true]
      rw [if_neg (no_foreign _ own), ← read]
      cases host with
      | nil => rfl
      | cons first rest =>
          have noBracket : first ≠ '[' := fun same => opening (by rw [same]; exact List.mem_cons_self)
          exact if_neg noBracket

end

end Vscp.Datagram
