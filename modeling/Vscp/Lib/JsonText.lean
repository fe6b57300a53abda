import Vscp.Lib.NumberText

set_option autoImplicit false

-- JSON values, and a reader of the texts without escapes, fractions and exponents.
namespace JsonText

open NumberText

inductive Value where
  | null
  | boolean (value : Bool)
  | numberInteger (value : Int)
  | numberUnsigned (value : UInt64)
  | numberFloat (digits : List Char)
  | string (letters : List Char)
  | array (items : List Value)
  | object (members : List (List Char × Value))

def Value.member (value : Value) (name : List Char) : Option Value :=
  match value with
  | .object members => (members.reverse.find? fun entry => entry.1 == name).map Prod.snd
  | _ => none

inductive Token where
  | openObject
  | closeObject
  | openArray
  | closeArray
  | colon
  | comma
  | scalar (value : Value)

def isBlank (letter : Char) : Bool := letter = ' ' ∨ letter = '\t' ∨ letter = '\n' ∨ letter = '\r'

def punctuation (letter : Char) : Option Token :=
  if letter = '{' then some .openObject
  else if letter = '}' then some .closeObject
  else if letter = '[' then some .openArray
  else if letter = ']' then some .closeArray
  else if letter = ':' then some .colon
  else if letter = ',' then some .comma
  else none

def isPlain (letter : Char) : Bool := ' ' ≤ letter ∧ letter ≤ '~' ∧ letter ≠ '"' ∧ letter ≠ '\\'

def isNumber (digits : List Char) : Bool :=
  digits ≠ [] ∧ digits.all (isDigitOf 10) ∧ (digits[0]? ≠ some '0' ∨ digits.length = 1)

def wordValue (word : List Char) : Option Value :=
  if word = ['n', 'u', 'l', 'l'] then some .null
  else if word = ['t', 'r', 'u', 'e'] then some (.boolean true)
  else if word = ['f', 'a', 'l', 's', 'e'] then some (.boolean false)
  else if isNumber word ∧ digitsValue 10 word < 2 ^ 64 then some (.numberUnsigned (UInt64.ofNat (digitsValue 10 word)))
  else if word[0]? = some '-' ∧ isNumber word.tail ∧ digitsValue 10 word.tail ≤ 2 ^ 63 then
    some (.numberInteger (-(digitsValue 10 word.tail : Int)))
  else none

inductive Mode where
  | idle
  | letters (read : List Char)
  | word (read : List Char)

structure Lexer where
  mode : Mode
  tokens : List Token

def lexStep (lexer : Lexer) (letter : Char) : Option Lexer :=
  match lexer.mode with
  | .idle =>
      if isBlank letter then some lexer
      else if letter = '"' then some ⟨.letters [], lexer.tokens⟩
      else
        match punctuation letter with
        | some token => some ⟨.idle, lexer.tokens ++ [token]⟩
        | none => some ⟨.word [letter], lexer.tokens⟩
  | .letters read =>
      if letter = '"' then some ⟨.idle, lexer.tokens ++ [.scalar (.string read)]⟩
      else if isPlain letter then some ⟨.letters (read ++ [letter]), lexer.tokens⟩
      else none
  | .word read =>
      if letter = '"' then none
      else if isBlank letter then (wordValue read).map fun value => ⟨.idle, lexer.tokens ++ [.scalar value]⟩
      else
        match punctuation letter with
        | some token => (wordValue read).map fun value => ⟨.idle, lexer.tokens ++ [.scalar value, token]⟩
        | none => some ⟨.word (read ++ [letter]), lexer.tokens⟩

def lex (text : List Char) : Option (List Token) :=
  (text.foldlM lexStep ⟨.idle, []⟩).bind fun lexer =>
    match lexer.mode with
    | .idle => some lexer.tokens
    | .letters _ => none
    | .word read => (wordValue read).map fun value => lexer.tokens ++ [.scalar value]

inductive Frame where
  | array (items : List Value)
  | object (members : List (List Char × Value)) (name : List Char)

inductive Parser where
  | value (stack : List Frame)
  | firstItem (stack : List Frame)
  | afterItem (items : List Value) (stack : List Frame)
  | firstName (stack : List Frame)
  | name (members : List (List Char × Value)) (stack : List Frame)
  | colon (members : List (List Char × Value)) (name : List Char) (stack : List Frame)
  | afterMember (members : List (List Char × Value)) (stack : List Frame)
  | finished (value : Value)

def complete (value : Value) : List Frame → Parser
  | [] => .finished value
  | .array items :: stack => .afterItem (items ++ [value]) stack
  | .object members name :: stack => .afterMember (members ++ [(name, value)]) stack

def beginValue (stack : List Frame) : Token → Option Parser
  | .scalar value => some (complete value stack)
  | .openArray => some (.firstItem stack)
  | .openObject => some (.firstName stack)
  | _ => none

def parseStep : Parser → Token → Option Parser
  | .value stack, token => beginValue stack token
  | .firstItem stack, .closeArray => some (complete (.array []) stack)
  | .firstItem stack, token => beginValue (.array [] :: stack) token
  | .afterItem items stack, .comma => some (.value (.array items :: stack))
  | .afterItem items stack, .closeArray => some (complete (.array items) stack)
  | .firstName stack, .closeObject => some (complete (.object []) stack)
  | .firstName stack, .scalar (.string name) => some (.colon [] name stack)
  | .name members stack, .scalar (.string name) => some (.colon members name stack)
  | .colon members name stack, .colon => some (.value (.object members name :: stack))
  | .afterMember members stack, .comma => some (.name members stack)
  | .afterMember members stack, .closeObject => some (complete (.object members) stack)
  | _, _ => none

def parseTokens (tokens : List Token) : Option Value :=
  (tokens.foldlM parseStep (.value [])).bind fun parser =>
    match parser with
    | .finished value => some value
    | _ => none

def read (text : List Char) : Option Value := (lex text).bind parseTokens

mutual

def tokensOf : Value → List Token
  | .array items => .openArray :: itemTokens items
  | .object members => .openObject :: memberTokens members
  | value => [.scalar value]

def itemTokens : List Value → List Token
  | [] => [.closeArray]
  | item :: items => tokensOf item ++ moreItemTokens items

def moreItemTokens : List Value → List Token
  | [] => [.closeArray]
  | item :: items => .comma :: (tokensOf item ++ moreItemTokens items)

def memberTokens : List (List Char × Value) → List Token
  | [] => [.closeObject]
  | (name, value) :: members =>
      .scalar (.string name) :: .colon :: (tokensOf value ++ moreMemberTokens members)

def moreMemberTokens : List (List Char × Value) → List Token
  | [] => [.closeObject]
  | (name, value) :: members =>
      .comma :: .scalar (.string name) :: .colon :: (tokensOf value ++ moreMemberTokens members)

end

theorem first_item_begins (value : Value) (rest : List Token) (stack : List Frame) :
    (tokensOf value ++ rest).foldlM parseStep (.firstItem stack) =
      (tokensOf value ++ rest).foldlM parseStep (.value (.array [] :: stack)) := by
  cases value <;> rfl

mutual

theorem value_parses : (value : Value) → (stack : List Frame) →
    (tokensOf value).foldlM parseStep (.value stack) = some (complete value stack)
  | .null, _ => rfl
  | .boolean _, _ => rfl
  | .numberInteger _, _ => rfl
  | .numberUnsigned _, _ => rfl
  | .numberFloat _, _ => rfl
  | .string _, _ => rfl
  | .array [], _ => rfl
  | .array (item :: items), stack => by
      have opened : (tokensOf (.array (item :: items))).foldlM parseStep (.value stack) =
          (tokensOf item ++ moreItemTokens items).foldlM parseStep (.firstItem stack) := rfl
      rw [opened, first_item_begins, List.foldlM_append, value_parses item]
      exact items_parse items [item] stack
  | .object [], _ => rfl
  | .object ((name, value) :: members), stack => by
      have opened : (tokensOf (.object ((name, value) :: members))).foldlM parseStep (.value stack) =
          (tokensOf value ++ moreMemberTokens members).foldlM parseStep (.value (.object [] name :: stack)) := rfl
      rw [opened, List.foldlM_append, value_parses value]
      exact members_parse members [(name, value)] stack

theorem items_parse : (items : List Value) → (done : List Value) → (stack : List Frame) →
    (moreItemTokens items).foldlM parseStep (.afterItem done stack) = some (complete (.array (done ++ items)) stack)
  | [], done, stack => by rw [List.append_nil]; rfl
  | item :: items, done, stack => by
      have opened : (moreItemTokens (item :: items)).foldlM parseStep (.afterItem done stack) =
          (tokensOf item ++ moreItemTokens items).foldlM parseStep (.value (.array done :: stack)) := rfl
      rw [opened, List.foldlM_append, value_parses item, List.append_cons]
      exact items_parse items (done ++ [item]) stack

theorem members_parse : (members : List (List Char × Value)) → (done : List (List Char × Value)) →
    (stack : List Frame) → (moreMemberTokens members).foldlM parseStep (.afterMember done stack) =
      some (complete (.object (done ++ members)) stack)
  | [], done, stack => by rw [List.append_nil]; rfl
  | (name, value) :: members, done, stack => by
      have opened : (moreMemberTokens ((name, value) :: members)).foldlM parseStep (.afterMember done stack) =
          (tokensOf value ++ moreMemberTokens members).foldlM parseStep (.value (.object done name :: stack)) := rfl
      rw [opened, List.foldlM_append, value_parses value, List.append_cons]
      exact members_parse members (done ++ [(name, value)]) stack

end

theorem parse_tokens_of (value : Value) : parseTokens (tokensOf value) = some value := by
  rw [parseTokens, value_parses]
  rfl

def Reads (text : List Char) (tokens : List Token) : Prop :=
  ∀ done, text.foldlM lexStep ⟨.idle, done⟩ = some ⟨.idle, done ++ tokens⟩

theorem Reads.append {first second : List Char} {front back : List Token} (left : Reads first front)
    (right : Reads second back) : Reads (first ++ second) (front ++ back) := by
  intro done
  rw [List.foldlM_append, left done]
  exact (right (done ++ front)).trans (by rw [List.append_assoc])

theorem Reads.lex {text : List Char} {tokens : List Token} (reads : Reads text tokens) : lex text = some tokens := by
  rw [JsonText.lex, reads []]
  rfl

theorem Reads.read {text : List Char} {value : Value} (reads : Reads text (tokensOf value)) :
    JsonText.read text = some value := by
  rw [JsonText.read, reads.lex, Option.bind_some, parse_tokens_of]

variable (letter : Char)

theorem blank_reads (blank : isBlank letter = true) : Reads [letter] [] := by
  intro done
  simp [lexStep, blank]

theorem punctuation_reads (token : Token) (quote : letter ≠ '"') (solid : isBlank letter = false)
    (mark : punctuation letter = some token) : Reads [letter] [token] := by
  intro done
  simp [lexStep, solid, quote, mark]

theorem digit_is_plain (digit : (digitValue letter).isSome) : isPlain letter = true := by
  obtain ⟨low, high⟩ := digit_graphic letter digit
  exact decide_eq_true ⟨low, high, digit_not_mark letter '"' digit rfl, digit_not_mark letter '\\' digit rfl⟩

variable (letters : List Char)

theorem plain_letters (plain : ∀ letter ∈ letters, isPlain letter = true) (before : List Char)
    (done : List Token) :
    letters.foldlM lexStep ⟨.letters before, done⟩ = some ⟨.letters (before ++ letters), done⟩ := by
  induction letters generalizing before with
  | nil => simp
  | cons letter letters ih =>
      have own := plain letter List.mem_cons_self
      have quote : letter ≠ '"' := by
        rintro rfl
        exact Bool.noConfusion own
      have later := ih (fun other inside => plain other (List.mem_cons_of_mem letter inside)) (before ++ [letter])
      have step : lexStep ⟨.letters before, done⟩ letter = some ⟨.letters (before ++ [letter]), done⟩ := by
        simp [lexStep, quote, own]
      rw [List.foldlM_cons, step, List.append_cons before letter letters]
      exact later

theorem string_reads (plain : ∀ letter ∈ letters, isPlain letter = true) :
    Reads ('"' :: letters ++ ['"']) [.scalar (.string letters)] := by
  intro done
  have opened : lexStep ⟨.idle, done⟩ '"' = some ⟨.letters [], done⟩ := rfl
  rw [List.cons_append, List.foldlM_cons, opened]
  show (letters ++ ['"']).foldlM lexStep ⟨.letters [], done⟩ = _
  rw [List.foldlM_append, plain_letters letters plain]
  rfl

theorem digit_in_word (digit : isDigitOf 10 letter = true) :
    letter ≠ '"' ∧ isBlank letter = false ∧ punctuation letter = none := by
  have different : ∀ other, isDigitOf 10 other = false → letter ≠ other := by
    rintro other foreign rfl
    rw [digit] at foreign
    exact Bool.noConfusion foreign
  refine ⟨different '"' rfl, ?_, ?_⟩
  · simp [isBlank, different ' ' rfl, different '\t' rfl, different '\n' rfl, different '\r' rfl]
  · simp [punctuation, different '{' rfl, different '}' rfl, different '[' rfl, different ']' rfl, different ':' rfl,
      different ',' rfl]

theorem word_letters (digits : ∀ letter ∈ letters, isDigitOf 10 letter = true)
    (before : List Char) (done : List Token) :
    letters.foldlM lexStep ⟨.word before, done⟩ = some ⟨.word (before ++ letters), done⟩ := by
  induction letters generalizing before with
  | nil => simp
  | cons letter letters ih =>
      obtain ⟨quote, solid, unmarked⟩ := digit_in_word letter (digits letter List.mem_cons_self)
      have later := ih (fun other inside => digits other (List.mem_cons_of_mem letter inside)) (before ++ [letter])
      have step : lexStep ⟨.word before, done⟩ letter = some ⟨.word (before ++ [letter]), done⟩ := by
        simp [lexStep, quote, solid, unmarked]
      rw [List.foldlM_cons, step, List.append_cons before letter letters]
      exact later

theorem number_lexes (word : List Char) (nonempty : word ≠ []) (digits : ∀ letter ∈ word, isDigitOf 10 letter = true)
    (done : List Token) : word.foldlM lexStep ⟨.idle, done⟩ = some ⟨.word word, done⟩ := by
  cases word with
  | nil => exact absurd rfl nonempty
  | cons letter letters =>
      obtain ⟨quote, solid, unmarked⟩ := digit_in_word letter (digits letter List.mem_cons_self)
      have step : lexStep ⟨.idle, done⟩ letter = some ⟨.word [letter], done⟩ := by
        simp [lexStep, quote, solid, unmarked]
      rw [List.foldlM_cons, step]
      exact word_letters letters (fun other inside => digits other (List.mem_cons_of_mem letter inside)) [letter] done

variable (value : Nat)

theorem decimal_word (small : value < 2 ^ 64) :
    wordValue (decimal value) = some (.numberUnsigned (UInt64.ofNat value)) := by
  have digits := decimal_digits value
  have spelled : ∀ letter other, isDigitOf 10 letter = false → decimal value ≠ letter :: other := by
    intro letter other foreign same
    have first := digits letter (by rw [same]; exact List.mem_cons_self)
    rw [first] at foreign
    exact Bool.noConfusion foreign
  have leading : (decimal value)[0]? ≠ some '0' ∨ (decimal value).length = 1 := by
    by_cases zero : value = 0
    · rw [zero]
      exact .inr rfl
    · exact .inl (decimal_leading value zero)
  have number : isNumber (decimal value) = true :=
    decide_eq_true ⟨decimal_nonempty value, List.all_eq_true.mpr digits, leading⟩
  rw [wordValue, if_neg (spelled 'n' _ rfl), if_neg (spelled 't' _ rfl), if_neg (spelled 'f' _ rfl), decimal_value,
    if_pos ⟨number, small⟩]

structure Written (text : List Char) (value : Value) : Prop where
  beforeComma : Reads (text ++ [',']) (tokensOf value ++ [.comma])
  beforeClose : Reads (text ++ [']']) (tokensOf value ++ [.closeArray])
  beforeLine : Reads (text ++ ['\n']) (tokensOf value)

theorem Reads.written {text : List Char} {value : Value} (reads : Reads text (tokensOf value)) : Written text value where
  beforeComma := reads.append (punctuation_reads ',' .comma (by decide) rfl rfl)
  beforeClose := reads.append (punctuation_reads ']' .closeArray (by decide) rfl rfl)
  beforeLine := by
    have ended := reads.append (blank_reads '\n' rfl)
    rwa [List.append_nil] at ended

theorem number_written (small : value < 2 ^ 64) :
    Written (decimal value) (.numberUnsigned (UInt64.ofNat value)) := by
  have lexed := number_lexes (decimal value) (decimal_nonempty value) (decimal_digits value)
  have word := decimal_word value small
  constructor
  · intro done
    rw [List.foldlM_append, lexed]
    simp [lexStep, isBlank, punctuation, word, tokensOf]
  · intro done
    rw [List.foldlM_append, lexed]
    simp [lexStep, isBlank, punctuation, word, tokensOf]
  · intro done
    rw [List.foldlM_append, lexed]
    simp [lexStep, isBlank, word, tokensOf]

theorem string_written (plain : ∀ letter ∈ letters, isPlain letter = true) :
    Written ('"' :: letters ++ ['"']) (.string letters) :=
  (string_reads letters plain).written

theorem items_read (texts : List (List Char)) (values : List Value) (written : List.Forall₂ Written texts values) :
    Reads (List.intercalate [','] texts ++ [']']) (itemTokens values) := by
  have more : ∀ text value texts values, Written text value → List.Forall₂ Written texts values →
      Reads (List.intercalate [','] (text :: texts) ++ [']']) (tokensOf value ++ moreItemTokens values) := by
    intro text value texts values own others
    induction others generalizing text value with
    | nil =>
        rw [List.intercalate_singleton]
        exact own.beforeClose
    | @cons second next texts values other _ ih =>
        have front := own.beforeComma
        have back := ih second next other
        rw [List.intercalate_cons_cons, List.append_assoc]
        have whole := front.append back
        simpa [moreItemTokens, List.append_assoc] using whole
  cases written with
  | nil => exact punctuation_reads ']' .closeArray (by decide) rfl rfl
  | cons own others => exact more _ _ _ _ own others

theorem array_written (texts : List (List Char)) (values : List Value) (written : List.Forall₂ Written texts values) :
    Written ('[' :: List.intercalate [','] texts ++ [']']) (.array values) :=
  ((punctuation_reads '[' .openArray (by decide) rfl rfl).append (items_read texts values written)).written

def memberText (member : List Char × List Char) : List Char :=
  '"' :: member.1 ++ ['"', ':', ' '] ++ member.2

def objectText (members : List (List Char × List Char)) : List Char :=
  ['{', '\n'] ++ List.intercalate [',', '\n'] (members.map memberText) ++ ['\n', '}']

def WrittenMember (text : List Char × List Char) (member : List Char × Value) : Prop :=
  text.1 = member.1 ∧ member.1.all isPlain = true ∧ Written text.2 member.2

theorem name_reads (name : List Char) (plain : ∀ letter ∈ name, isPlain letter = true) :
    Reads ('"' :: name ++ ['"', ':', ' ']) [.scalar (.string name), .colon] := by
  have quoted := string_reads name plain
  have colon := punctuation_reads ':' .colon (by decide) rfl rfl
  have whole := (quoted.append colon).append (blank_reads ' ' rfl)
  simpa [List.append_assoc] using whole

variable (texts : List (List Char × List Char)) (members : List (List Char × Value))

theorem members_read (written : List.Forall₂ WrittenMember texts members) (text : List Char × List Char) (member : List Char × Value)
    (own : WrittenMember text member) :
    Reads (List.intercalate [',', '\n'] ((text :: texts).map memberText) ++ ['\n', '}'])
      (.scalar (.string member.1) :: .colon :: (tokensOf member.2 ++ moreMemberTokens members)) := by
  induction written generalizing text member with
  | nil =>
      obtain ⟨same, plain, value⟩ := own
      have closed := punctuation_reads '}' .closeObject (by decide) rfl rfl
      have whole := ((name_reads member.1 (List.all_eq_true.mp plain)).append value.beforeLine).append closed
      simpa [memberText, same, moreMemberTokens, List.append_assoc] using whole
  | @cons second next texts members other _ ih =>
      obtain ⟨same, plain, value⟩ := own
      have front := (name_reads member.1 (List.all_eq_true.mp plain)).append value.beforeComma
      have whole := (front.append (blank_reads '\n' rfl)).append (ih second next other)
      simpa [memberText, same, moreMemberTokens, List.append_assoc] using whole

theorem object_reads (some : texts ≠ []) (written : List.Forall₂ WrittenMember texts members) :
    Reads (objectText texts) (tokensOf (.object members)) := by
  cases written with
  | nil => exact absurd rfl some
  | @cons text member texts members own others =>
      have opened := (punctuation_reads '{' .openObject (by decide) rfl rfl).append (blank_reads '\n' rfl)
      have whole := opened.append (members_read texts members others text member own)
      simpa [objectText, tokensOf, memberTokens, List.append_assoc] using whole

theorem comma_before_brace (tokens : List Token) : parseTokens (tokens ++ [.comma, .closeObject]) = none := by
  rw [parseTokens, List.foldlM_append]
  cases tokens.foldlM parseStep (.value []) with
  | none => rfl
  | some parser => cases parser <;> rfl

theorem trailing_comma_refused (text : List Char) : read (text ++ [',', '\n', '}']) = none := by
  have lexed : lex (text ++ [',', '\n', '}']) = none ∨
      ∃ tokens, lex (text ++ [',', '\n', '}']) = some (tokens ++ [.comma, .closeObject]) := by
    rw [lex, List.foldlM_append]
    cases text.foldlM lexStep ⟨.idle, []⟩ with
    | none => exact .inl rfl
    | some lexer =>
        obtain ⟨mode, tokens⟩ := lexer
        cases mode with
        | idle => exact .inr ⟨tokens, by simp [lexStep, isBlank, punctuation]⟩
        | letters read =>
            left
            simp [lexStep, isPlain]
        | word read =>
            cases known : wordValue read with
            | none => exact .inl (by simp [lexStep, isBlank, punctuation, known])
            | some value => exact .inr ⟨tokens ++ [.scalar value], by simp [lexStep, isBlank, punctuation, known]⟩
  rcases lexed with none | ⟨tokens, some⟩
  · rw [read, none]
    rfl
  · rw [read, some]
    exact comma_before_brace tokens

end JsonText
