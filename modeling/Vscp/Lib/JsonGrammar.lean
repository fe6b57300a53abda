import Vscp.Lib.JsonText

set_option autoImplicit false

-- The grammar of JSON documents with all its escapes, fractions and exponents. What a document stands for is
-- left open.
namespace JsonText

open NumberText

def Blanks (text : List Char) : Prop := ∀ letter ∈ text, isBlank letter = true

def IsDigits (text : List Char) : Prop := text ≠ [] ∧ ∀ letter ∈ text, isDigitOf 10 letter = true

inductive IsFraction : List Char → Prop where
  | none : IsFraction []
  | digits (digits : List Char) (proper : IsDigits digits) : IsFraction ('.' :: digits)

inductive IsExponent : List Char → Prop where
  | none : IsExponent []
  | plain (mark : Char) (digits : List Char) (known : mark = 'e' ∨ mark = 'E') (proper : IsDigits digits) :
      IsExponent (mark :: digits)
  | signed (mark sign : Char) (digits : List Char) (known : mark = 'e' ∨ mark = 'E') (signs : sign = '+' ∨ sign = '-')
      (proper : IsDigits digits) : IsExponent (mark :: sign :: digits)

def IsNumeral (text : List Char) : Prop :=
  ∃ sign whole fraction exponent, text = sign ++ whole ++ fraction ++ exponent ∧ (sign = [] ∨ sign = ['-']) ∧
    isNumber whole = true ∧ IsFraction fraction ∧ IsExponent exponent

inductive IsCharacters : List Char → Prop where
  | none : IsCharacters []
  | plain (letter : Char) (text : List Char) (printable : 0x20 ≤ letter.toNat) (quote : letter ≠ '"')
      (escape : letter ≠ '\\') (rest : IsCharacters text) : IsCharacters (letter :: text)
  | escaped (letter : Char) (text : List Char) (known : letter ∈ ['"', '\\', '/', 'b', 'f', 'n', 'r', 't'])
      (rest : IsCharacters text) : IsCharacters ('\\' :: letter :: text)
  | unicode (digits text : List Char) (four : digits.length = 4) (hex : ∀ letter ∈ digits, isDigitOf 16 letter = true)
      (rest : IsCharacters text) : IsCharacters ('\\' :: 'u' :: digits ++ text)

inductive Symbol where
  | value
  | element
  | elements
  | member
  | members

inductive Derives : Symbol → List Char → Prop where
  | null : Derives .value ['n', 'u', 'l', 'l']
  | isTrue : Derives .value ['t', 'r', 'u', 'e']
  | isFalse : Derives .value ['f', 'a', 'l', 's', 'e']
  | number (text : List Char) (numeral : IsNumeral text) : Derives .value text
  | string (text : List Char) (characters : IsCharacters text) : Derives .value ('"' :: text ++ ['"'])
  | emptyArray (blanks : List Char) (blank : Blanks blanks) : Derives .value ('[' :: blanks ++ [']'])
  | array (items : List Char) (listed : Derives .elements items) : Derives .value ('[' :: items ++ [']'])
  | emptyObject (blanks : List Char) (blank : Blanks blanks) : Derives .value ('{' :: blanks ++ ['}'])
  | object (members : List Char) (listed : Derives .members members) : Derives .value ('{' :: members ++ ['}'])
  | padded (before value after : List Char) (front : Blanks before) (own : Derives .value value) (back : Blanks after) :
      Derives .element (before ++ value ++ after)
  | oneElement (element : List Char) (own : Derives .element element) : Derives .elements element
  | moreElements (element elements : List Char) (own : Derives .element element) (rest : Derives .elements elements) :
      Derives .elements (element ++ ',' :: elements)
  | named (before name after value : List Char) (front : Blanks before) (characters : IsCharacters name)
      (back : Blanks after) (own : Derives .element value) :
      Derives .member (before ++ ('"' :: name ++ ['"']) ++ after ++ ':' :: value)
  | oneMember (member : List Char) (own : Derives .member member) : Derives .members member
  | moreMembers (member members : List Char) (own : Derives .member member) (rest : Derives .members members) :
      Derives .members (member ++ ',' :: members)

def Document (text : List Char) : Prop := Derives .element text

def solid (text : List Char) : List Char := text.filter fun letter => !isBlank letter

theorem solid_append (front back : List Char) : solid (front ++ back) = solid front ++ solid back :=
  List.filter_append ..

theorem solid_blanks (blanks : List Char) (blank : Blanks blanks) : solid blanks = [] := by
  apply List.filter_eq_nil_iff.mpr
  intro letter inside
  rw [blank letter inside]
  decide

variable (letter : Char) (text : List Char) (tokens : List Token)

theorem solid_cons (own : isBlank letter = false) :
    solid (letter :: text) = letter :: solid text :=
  List.filter_cons_of_pos (by rw [own]; rfl)

def EndsWell (text : List Char) : Prop := ∃ front last, solid text = front ++ [last] ∧ last ≠ ','

theorem EndsWell.before {text : List Char} (ends : EndsWell text) (front : List Char) : EndsWell (front ++ text) := by
  obtain ⟨inner, last, same, solid⟩ := ends
  refine ⟨JsonText.solid front ++ inner, last, ?_, solid⟩
  rw [solid_append, same, List.append_assoc]

theorem EndsWell.after {text : List Char} (ends : EndsWell text) (blanks : List Char) (blank : Blanks blanks) :
    EndsWell (text ++ blanks) := by
  obtain ⟨inner, last, same, solid⟩ := ends
  refine ⟨inner, last, ?_, solid⟩
  rw [solid_append, solid_blanks blanks blank, List.append_nil, same]

theorem ends_with (front : List Char) (last : Char) (own : isBlank last = false) (other : last ≠ ',') :
    EndsWell (front ++ [last]) :=
  ⟨solid front, last, by rw [solid_append, solid_cons last [] own]; rfl, other⟩

def isNumeralLetter (letter : Char) : Bool := isDigitOf 10 letter ∨ letter ∈ ['-', '+', '.', 'e', 'E']

theorem numeral_letters (numeral : IsNumeral text) :
    text ≠ [] ∧ ∀ letter ∈ text, isNumeralLetter letter = true := by
  obtain ⟨sign, whole, fraction, exponent, rfl, signs, number, fractions, exponents⟩ := numeral
  obtain ⟨some, digits, _⟩ := of_decide_eq_true number
  have ofDigit : ∀ letter, isDigitOf 10 letter = true → isNumeralLetter letter = true :=
    fun letter digit => decide_eq_true (.inl digit)
  have ofDigits : ∀ part, IsDigits part → ∀ letter ∈ part, isNumeralLetter letter = true :=
    fun part proper letter inside => ofDigit letter (proper.2 letter inside)
  constructor
  · intro empty
    simp only [List.append_eq_nil_iff] at empty
    exact some empty.1.1.2
  · intro letter inside
    rcases List.mem_append.mp inside with inside | inside
    · rcases List.mem_append.mp inside with inside | inside
      · rcases List.mem_append.mp inside with inside | inside
        · rcases signs with rfl | rfl
          · cases inside
          · obtain rfl := List.mem_singleton.mp inside
            rfl
        · exact ofDigit letter (List.all_eq_true.mp digits letter inside)
      · cases fractions with
        | none => cases inside
        | digits _ proper =>
            rcases List.mem_cons.mp inside with rfl | inside
            · rfl
            · exact ofDigits _ proper letter inside
    · cases exponents with
      | none => cases inside
      | plain mark _ known proper =>
          rcases List.mem_cons.mp inside with rfl | inside
          · rcases known with rfl | rfl <;> rfl
          · exact ofDigits _ proper letter inside
      | signed mark sign _ known signs proper =>
          rcases List.mem_cons.mp inside with rfl | inside
          · rcases known with rfl | rfl <;> rfl
          · rcases List.mem_cons.mp inside with rfl | inside
            · rcases signs with rfl | rfl <;> rfl
            · exact ofDigits _ proper letter inside

theorem numeral_letter (letter other : Char) (own : isNumeralLetter letter = true)
    (foreign : isNumeralLetter other = false) : letter ≠ other := by
  rintro rfl
  rw [own] at foreign
  cases foreign

theorem numeral_ends (numeral : IsNumeral text) :
    ∃ front last, text = front ++ [last] ∧ isNumeralLetter last = true := by
  obtain ⟨some, letters⟩ := numeral_letters text numeral
  refine ⟨text.dropLast, text.getLast some, (List.dropLast_append_getLast some).symm, ?_⟩
  exact letters _ (List.getLast_mem some)

theorem numeral_letter_solid (own : isNumeralLetter letter = true) : isBlank letter = false := by
  have different := fun other foreign => numeral_letter letter other own foreign
  simp [isBlank, different ' ' rfl, different '\t' rfl, different '\n' rfl, different '\r' rfl]

theorem derived_ends (symbol : Symbol) (text : List Char) (derived : Derives symbol text) : EndsWell text := by
  induction derived with
  | null => exact ends_with ['n', 'u', 'l'] 'l' rfl (by decide)
  | isTrue => exact ends_with ['t', 'r', 'u'] 'e' rfl (by decide)
  | isFalse => exact ends_with ['f', 'a', 'l', 's'] 'e' rfl (by decide)
  | number text numeral =>
      obtain ⟨front, last, rfl, own⟩ := numeral_ends text numeral
      exact ends_with front last (numeral_letter_solid last own) (numeral_letter last ',' own rfl)
  | string text _ => exact ends_with ('"' :: text) '"' rfl (by decide)
  | emptyArray blanks _ => exact ends_with ('[' :: blanks) ']' rfl (by decide)
  | array items _ _ => exact ends_with ('[' :: items) ']' rfl (by decide)
  | emptyObject blanks _ => exact ends_with ('{' :: blanks) '}' rfl (by decide)
  | object members _ _ => exact ends_with ('{' :: members) '}' rfl (by decide)
  | padded before value after _ _ back ih => exact (ih.before before).after after back
  | oneElement _ _ ih => exact ih
  | moreElements element elements _ _ _ ih => exact (ih.before [',']).before element
  | named before name after value _ _ _ _ ih => exact (ih.before [':']).before _
  | oneMember _ _ ih => exact ih
  | moreMembers member members _ _ _ ih => exact (ih.before [',']).before member

theorem no_comma_before_brace (text front : List Char) (ends : solid text = front ++ [',', '}']) : ¬ Document text := by
  intro document
  cases document with
  | padded before value after blank own back =>
      rw [solid_append, solid_append, solid_blanks before blank, solid_blanks after back, List.nil_append,
        List.append_nil] at ends
      have otherEnd : ∀ inner last, value = inner ++ [last] → isBlank last = false → last ≠ '}' → False := by
        rintro inner last rfl own different
        rw [solid_append, solid_cons last [] own, List.append_cons front ',' ['}']] at ends
        exact different (List.cons.inj (List.append_inj_right' ends rfl)).1
      cases own with
      | null => exact otherEnd ['n', 'u', 'l'] 'l' rfl rfl (by decide)
      | isTrue => exact otherEnd ['t', 'r', 'u'] 'e' rfl rfl (by decide)
      | isFalse => exact otherEnd ['f', 'a', 'l', 's'] 'e' rfl rfl (by decide)
      | number _ numeral =>
          obtain ⟨inner, last, same, letter⟩ := numeral_ends value numeral
          exact otherEnd inner last same (numeral_letter_solid last letter) (numeral_letter last '}' letter rfl)
      | string text _ => exact otherEnd ('"' :: text) '"' rfl rfl (by decide)
      | emptyArray blanks _ => exact otherEnd ('[' :: blanks) ']' rfl rfl (by decide)
      | array items _ => exact otherEnd ('[' :: items) ']' rfl rfl (by decide)
      | emptyObject blanks blank =>
          rw [solid_append, solid_cons '{' blanks rfl, solid_blanks blanks blank, solid_cons '}' [] rfl] at ends
          have length := congrArg List.length ends
          cases front with
          | nil => cases ends
          | cons letter front => simp [solid] at length
      | object members listed =>
          obtain ⟨others, last, same, comma⟩ := derived_ends .members members listed
          rw [solid_append, solid_cons '{' members rfl, solid_cons '}' [] rfl, same, List.append_cons front ',' ['}'],
            ← List.cons_append] at ends
          have inside := List.append_inj_left' ends rfl
          exact comma (List.cons.inj (List.append_inj_right' inside rfl)).1

inductive Spells : List Char → List Token → Prop where
  | done : Spells [] []
  | blank (letter : Char) (text : List Char) (tokens : List Token) (own : isBlank letter = true)
      (rest : Spells text tokens) : Spells (letter :: text) tokens
  | mark (letter : Char) (text : List Char) (token : Token) (tokens : List Token) (own : punctuation letter = some token)
      (rest : Spells text tokens) : Spells (letter :: text) (token :: tokens)
  | word (word text : List Char) (value : Value) (tokens : List Token) (own : wordValue word = some value)
      (rest : Spells text tokens) : Spells (word ++ text) (.scalar value :: tokens)
  | string (letters text : List Char) (tokens : List Token) (plain : ∀ letter ∈ letters, isPlain letter = true)
      (rest : Spells text tokens) : Spells (('"' :: letters ++ ['"']) ++ text) (.scalar (.string letters) :: tokens)

theorem Spells.append {front back : List Char} {first second : List Token} (left : Spells front first)
    (right : Spells back second) : Spells (front ++ back) (first ++ second) := by
  induction left with
  | done => exact right
  | blank letter text tokens own _ ih => exact .blank letter _ _ own ih
  | mark letter text token tokens own _ ih => exact .mark letter _ token _ own ih
  | word word text value tokens own _ ih =>
      rw [List.append_assoc]
      exact .word word _ value _ own ih
  | string letters text tokens plain _ ih =>
      rw [List.append_assoc]
      exact .string letters _ _ plain ih

theorem Spells.split {text : List Char} {tokens : List Token} (spells : Spells text tokens) (first second : List Token)
    (parts : tokens = first ++ second) :
    ∃ front back, text = front ++ back ∧ Spells front first ∧ Spells back second := by
  induction spells generalizing first with
  | done =>
      obtain ⟨rfl, rfl⟩ := List.append_eq_nil_iff.mp parts.symm
      exact ⟨[], [], rfl, .done, .done⟩
  | blank letter text tokens own _ ih =>
      obtain ⟨front, back, rfl, left, right⟩ := ih first parts
      exact ⟨letter :: front, back, rfl, .blank letter _ _ own left, right⟩
  | mark letter text token tokens own rest ih =>
      cases first with
      | nil =>
          obtain rfl := parts
          exact ⟨[], letter :: text, rfl, .done, .mark letter _ token _ own rest⟩
      | cons head first =>
          cases parts
          obtain ⟨front, back, rfl, left, right⟩ := ih first rfl
          exact ⟨letter :: front, back, rfl, .mark letter _ _ _ own left, right⟩
  | word word text value tokens own rest ih =>
      cases first with
      | nil =>
          obtain rfl := parts
          exact ⟨[], word ++ text, rfl, .done, .word word _ value _ own rest⟩
      | cons head first =>
          cases parts
          obtain ⟨front, back, rfl, left, right⟩ := ih first rfl
          exact ⟨word ++ front, back, (List.append_assoc ..).symm, .word word _ value _ own left, right⟩
  | string letters text tokens plain rest ih =>
      cases first with
      | nil =>
          obtain rfl := parts
          exact ⟨[], _, rfl, .done, .string letters _ _ plain rest⟩
      | cons head first =>
          cases parts
          obtain ⟨front, back, rfl, left, right⟩ := ih first rfl
          exact ⟨_, back, (List.append_assoc ..).symm, .string letters _ _ plain left, right⟩

def Taken (text : List Char) (lexer : Lexer) : Prop :=
  match lexer.mode with
  | .idle => Spells text lexer.tokens
  | .letters read => ∃ front, text = front ++ '"' :: read ∧ Spells front lexer.tokens ∧
      ∀ letter ∈ read, isPlain letter = true
  | .word read => ∃ front, text = front ++ read ∧ Spells front lexer.tokens

theorem word_taken (front word : List Char) (value : Value) (tokens : List Token) (spells : Spells front tokens)
    (own : wordValue word = some value) : Spells (front ++ word) (tokens ++ [.scalar value]) := by
  have last := Spells.word word [] value [] own .done
  rw [List.append_nil] at last
  exact spells.append last

theorem lex_step_taken (lexer next : Lexer) (letter : Char) (taken : Taken text lexer)
    (step : lexStep lexer letter = some next) : Taken (text ++ [letter]) next := by
  obtain ⟨mode, tokens⟩ := lexer
  cases mode with
  | idle =>
      have spells : Spells text tokens := taken
      by_cases blank : isBlank letter = true
      · simp only [lexStep, if_pos blank, Option.some.injEq] at step
        obtain rfl := step
        have whole := spells.append (.blank letter [] [] blank .done)
        rwa [List.append_nil] at whole
      · by_cases quote : letter = '"'
        · subst quote
          simp only [lexStep, if_neg blank, if_true, Option.some.injEq] at step
          obtain rfl := step
          exact ⟨text, rfl, spells, fun _ inside => absurd inside List.not_mem_nil⟩
        · simp only [lexStep, if_neg blank, if_neg quote] at step
          cases mark : punctuation letter with
          | none =>
              simp only [mark, Option.some.injEq] at step
              obtain rfl := step
              exact ⟨text, rfl, spells⟩
          | some token =>
              simp only [mark, Option.some.injEq] at step
              obtain rfl := step
              exact spells.append (.mark letter [] token [] mark .done)
  | letters read =>
      obtain ⟨front, rfl, spells, plain⟩ := taken
      by_cases quote : letter = '"'
      · subst quote
        simp only [lexStep, if_true, Option.some.injEq] at step
        obtain rfl := step
        have whole := spells.append (.string read [] [] plain .done)
        rwa [List.append_nil, List.cons_append, ← List.cons_append, ← List.append_assoc] at whole
      · by_cases own : isPlain letter = true
        · simp only [lexStep, if_neg quote, if_pos own, Option.some.injEq] at step
          obtain rfl := step
          refine ⟨front, List.append_assoc .., spells, ?_⟩
          intro other inside
          rcases List.mem_append.mp inside with inside | inside
          · exact plain other inside
          · obtain rfl := List.mem_singleton.mp inside
            exact own
        · simp only [lexStep, if_neg quote, if_neg own] at step
          cases step
  | word read =>
      obtain ⟨front, rfl, spells⟩ := taken
      by_cases quote : letter = '"'
      · simp only [lexStep, if_pos quote] at step
        cases step
      · by_cases blank : isBlank letter = true
        · simp only [lexStep, if_neg quote, if_pos blank] at step
          obtain ⟨value, own, rfl⟩ := Option.map_eq_some_iff.mp step
          have whole := (word_taken front read value tokens spells own).append (.blank letter [] [] blank .done)
          rwa [List.append_nil] at whole
        · simp only [lexStep, if_neg quote, if_neg blank] at step
          cases mark : punctuation letter with
          | none =>
              simp only [mark, Option.some.injEq] at step
              obtain rfl := step
              exact ⟨front, List.append_assoc .., spells⟩
          | some token =>
              simp only [mark] at step
              obtain ⟨value, own, rfl⟩ := Option.map_eq_some_iff.mp step
              have whole := (word_taken front read value tokens spells own).append (.mark letter [] token [] mark .done)
              rw [List.append_assoc tokens] at whole
              exact whole

theorem lexed_taken (rest text : List Char) (lexer next : Lexer) (taken : Taken text lexer)
    (run : rest.foldlM lexStep lexer = some next) : Taken (text ++ rest) next := by
  induction rest generalizing text lexer with
  | nil =>
      obtain rfl := Option.some.inj run
      rwa [List.append_nil]
  | cons letter rest ih =>
      rw [List.foldlM_cons] at run
      obtain ⟨after, step, run⟩ := Option.bind_eq_some_iff.mp run
      rw [List.append_cons]
      exact ih _ after (lex_step_taken text lexer after letter taken step) run

theorem lexed_spells (lexed : lex text = some tokens) : Spells text tokens := by
  obtain ⟨⟨mode, read⟩, run, ended⟩ := Option.bind_eq_some_iff.mp lexed
  have taken := lexed_taken text [] ⟨.idle, []⟩ ⟨mode, read⟩ .done run
  cases mode with
  | idle =>
      obtain rfl := Option.some.inj ended
      exact taken
  | letters _ => cases ended
  | word word =>
      obtain ⟨value, own, rfl⟩ := Option.map_eq_some_iff.mp ended
      obtain ⟨front, same, spells⟩ := taken
      rw [List.nil_append] at same
      rw [same]
      exact word_taken front word value read spells own

def itemsTokens (items : List Value) : List Token := items.flatMap fun item => tokensOf item ++ [.comma]

def membersTokens (members : List (List Char × Value)) : List Token :=
  members.flatMap fun member => .scalar (.string member.1) :: .colon :: (tokensOf member.2 ++ [.comma])

def frameTokens : Frame → List Token
  | .array items => .openArray :: itemsTokens items
  | .object members name => .openObject :: (membersTokens members ++ [.scalar (.string name), .colon])

def stackTokens : List Frame → List Token
  | [] => []
  | frame :: stack => stackTokens stack ++ frameTokens frame

def Took (tokens : List Token) : Parser → Prop
  | .value stack => tokens = stackTokens stack
  | .firstItem stack => tokens = stackTokens stack ++ [.openArray]
  | .afterItem items stack => ∃ before last, items = before ++ [last] ∧
      tokens = stackTokens stack ++ .openArray :: (itemsTokens before ++ tokensOf last)
  | .firstName stack => tokens = stackTokens stack ++ [.openObject]
  | .name members stack => tokens = stackTokens stack ++ .openObject :: membersTokens members
  | .colon members name stack =>
      tokens = stackTokens stack ++ .openObject :: (membersTokens members ++ [.scalar (.string name)])
  | .afterMember members stack => ∃ before last, members = before ++ [last] ∧
      tokens = stackTokens stack ++ .openObject ::
        (membersTokens before ++ .scalar (.string last.1) :: .colon :: tokensOf last.2)
  | .finished value => tokens = tokensOf value

theorem items_tokens_closed (before : List Value) (last : Value) :
    tokensOf (.array (before ++ [last])) = .openArray :: (itemsTokens before ++ tokensOf last ++ [.closeArray]) := by
  have inner : itemTokens (before ++ [last]) = itemsTokens before ++ tokensOf last ++ [.closeArray] := by
    induction before with
    | nil => rfl
    | cons item before ih =>
        have more : moreItemTokens (before ++ [last]) = .comma :: itemTokens (before ++ [last]) := by
          cases before <;> rfl
        have split : itemTokens (item :: before ++ [last]) = tokensOf item ++ moreItemTokens (before ++ [last]) := rfl
        rw [split, more, ih]
        simp [itemsTokens]
  rw [tokensOf, inner]

theorem members_tokens_closed (before : List (List Char × Value)) (last : List Char × Value) :
    tokensOf (.object (before ++ [last])) =
      .openObject :: (membersTokens before ++ .scalar (.string last.1) :: .colon :: tokensOf last.2 ++ [.closeObject]) := by
  have inner : memberTokens (before ++ [last]) =
      membersTokens before ++ .scalar (.string last.1) :: .colon :: tokensOf last.2 ++ [.closeObject] := by
    induction before with
    | nil => rfl
    | cons member before ih =>
        have more : moreMemberTokens (before ++ [last]) = .comma :: memberTokens (before ++ [last]) := by
          cases before <;> rfl
        have split : memberTokens (member :: before ++ [last]) =
            .scalar (.string member.1) :: .colon :: (tokensOf member.2 ++ moreMemberTokens (before ++ [last])) := rfl
        rw [split, more, ih]
        simp [membersTokens]
  rw [tokensOf, inner]

variable (value : Value) (stack : List Frame)

theorem complete_took :
    Took (stackTokens stack ++ tokensOf value) (complete value stack) := by
  cases stack with
  | nil => rfl
  | cons frame stack =>
      cases frame with
      | array items => exact ⟨items, value, rfl, by simp [stackTokens, frameTokens]⟩
      | object members name => exact ⟨members, (name, value), rfl, by simp [stackTokens, frameTokens]⟩

def Proper (token : Token) : Prop := ∀ value, token = .scalar value → tokensOf value = [token]

variable (token : Token)

theorem begin_took (next : Parser) (proper : Proper token)
    (begun : beginValue stack token = some next) : Took (stackTokens stack ++ [token]) next := by
  cases token with
  | scalar value =>
      obtain rfl := Option.some.inj begun
      rw [← proper value rfl]
      exact complete_took value stack
  | openArray =>
      obtain rfl := Option.some.inj begun
      rfl
  | openObject =>
      obtain rfl := Option.some.inj begun
      rfl
  | _ => cases begun

theorem name_taken (members : List (List Char × Value)) (stack : List Frame) (token : Token) (next : Parser)
    (step : parseStep (.name members stack) token = some next) :
    ∃ name, token = .scalar (.string name) ∧ next = .colon members name stack := by
  cases token with
  | scalar value =>
      cases value with
      | string name => exact ⟨name, rfl, (Option.some.inj step).symm⟩
      | _ => cases step
  | _ => cases step

theorem parse_step_took (parser next : Parser) (token : Token) (proper : Proper token)
    (took : Took tokens parser) (step : parseStep parser token = some next) : Took (tokens ++ [token]) next := by
  cases parser with
  | value stack =>
      obtain rfl := took
      exact begin_took stack token next proper step
  | firstItem stack =>
      obtain rfl := took
      by_cases closes : token = .closeArray
      · subst closes
        obtain rfl := Option.some.inj step
        have whole := complete_took (.array []) stack
        rwa [List.append_assoc]
      · have begun : beginValue (.array [] :: stack) token = some next := by
          cases token with
          | closeArray => exact absurd rfl closes
          | scalar value => exact step
          | openObject => exact step
          | openArray => exact step
          | closeObject => exact step
          | colon => exact step
          | comma => exact step
        exact begin_took (.array [] :: stack) token next proper begun
  | afterItem items stack =>
      obtain ⟨before, last, rfl, rfl⟩ := took
      cases token with
      | comma =>
          obtain rfl := Option.some.inj step
          show _ = stackTokens stack ++ frameTokens (.array (before ++ [last]))
          simp [frameTokens, itemsTokens]
      | closeArray =>
          obtain rfl := Option.some.inj step
          have whole := complete_took (.array (before ++ [last])) stack
          rw [items_tokens_closed] at whole
          simpa using whole
      | _ => cases step
  | firstName stack =>
      obtain rfl := took
      by_cases closes : token = .closeObject
      · subst closes
        obtain rfl := Option.some.inj step
        have whole := complete_took (.object []) stack
        rwa [List.append_assoc]
      · have named : parseStep (.name [] stack) token = some next := by
          rw [← step]
          cases token with
          | closeObject => exact absurd rfl closes
          | scalar value => cases value <;> rfl
          | openObject => rfl
          | openArray => rfl
          | closeArray => rfl
          | colon => rfl
          | comma => rfl
        obtain ⟨name, rfl, rfl⟩ := name_taken [] stack token next named
        show _ = stackTokens stack ++ _
        rw [List.append_assoc]
        rfl
  | name members stack =>
      obtain rfl := took
      obtain ⟨name, rfl, rfl⟩ := name_taken members stack token next step
      show _ = stackTokens stack ++ _
      rw [List.append_assoc]
      rfl
  | colon members name stack =>
      obtain rfl := took
      cases token with
      | colon =>
          obtain rfl := Option.some.inj step
          show _ = stackTokens stack ++ frameTokens (.object members name)
          simp [frameTokens]
      | _ => cases step
  | afterMember members stack =>
      obtain ⟨before, last, rfl, rfl⟩ := took
      cases token with
      | comma =>
          obtain rfl := Option.some.inj step
          show _ = stackTokens stack ++ _
          simp [membersTokens]
      | closeObject =>
          obtain rfl := Option.some.inj step
          have whole := complete_took (.object (before ++ [last])) stack
          rw [members_tokens_closed] at whole
          simpa using whole
      | _ => cases step
  | finished value => cases step

theorem parsed_took (rest tokens : List Token) (parser next : Parser) (proper : ∀ token ∈ rest, Proper token)
    (took : Took tokens parser) (run : rest.foldlM parseStep parser = some next) : Took (tokens ++ rest) next := by
  induction rest generalizing tokens parser with
  | nil =>
      obtain rfl := Option.some.inj run
      rwa [List.append_nil]
  | cons token rest ih =>
      rw [List.foldlM_cons] at run
      obtain ⟨after, step, run⟩ := Option.bind_eq_some_iff.mp run
      have own := parse_step_took tokens parser after token (proper token List.mem_cons_self) took step
      rw [List.append_cons]
      exact ih _ after (fun other inside => proper other (List.mem_cons_of_mem token inside)) own run

theorem parsed_tokens (proper : ∀ token ∈ tokens, Proper token)
    (parsed : parseTokens tokens = some value) : tokens = tokensOf value := by
  obtain ⟨reached, run, ended⟩ := Option.bind_eq_some_iff.mp parsed
  have took := parsed_took tokens [] (.value []) reached proper rfl run
  cases reached with
  | finished own =>
      obtain rfl := Option.some.inj ended
      exact took
  | _ => cases ended

theorem word_derives (word : List Char) (value : Value) (own : wordValue word = some value) :
    Derives .value word ∧ tokensOf value = [.scalar value] ∧ ∀ letters, value ≠ .string letters := by
  have whole : ∀ sign digits, sign = [] ∨ sign = ['-'] → isNumber digits = true → Derives .value (sign ++ digits) := by
    intro sign digits signs number
    exact .number _ ⟨sign, digits, [], [], by simp, signs, number, .none, .none⟩
  unfold wordValue at own
  split at own
  · rename_i same
    obtain rfl := Option.some.inj own
    exact ⟨same ▸ .null, rfl, by intro letters other; cases other⟩
  · split at own
    · rename_i same
      obtain rfl := Option.some.inj own
      exact ⟨same ▸ .isTrue, rfl, by intro letters other; cases other⟩
    · split at own
      · rename_i same
        obtain rfl := Option.some.inj own
        exact ⟨same ▸ .isFalse, rfl, by intro letters other; cases other⟩
      · split at own
        · rename_i number
          obtain rfl := Option.some.inj own
          exact ⟨whole [] word (.inl rfl) number.1, rfl, by intro letters other; cases other⟩
        · split at own
          · rename_i negative
            obtain ⟨sign, number, _⟩ := negative
            obtain rfl := Option.some.inj own
            cases word with
            | nil => cases sign
            | cons letter digits =>
                obtain rfl := Option.some.inj sign
                exact ⟨whole ['-'] digits (.inr rfl) number, rfl, by intro letters other; cases other⟩
          · cases own

theorem plain_characters (letters : List Char) (plain : ∀ letter ∈ letters, isPlain letter = true) :
    IsCharacters letters := by
  induction letters with
  | nil => exact .none
  | cons letter letters ih =>
      obtain ⟨low, _, quote, escape⟩ := of_decide_eq_true (plain letter List.mem_cons_self)
      exact .plain letter letters low quote escape (ih fun other inside => plain other (List.mem_cons_of_mem letter inside))

def markOf : Token → Char
  | .openObject => '{'
  | .closeObject => '}'
  | .openArray => '['
  | .closeArray => ']'
  | .colon => ':'
  | .comma => ','
  | .scalar _ => ' '

theorem punctuation_mark (own : punctuation letter = some token) :
    letter = markOf token ∧ ∀ value, token ≠ .scalar value := by
  unfold punctuation at own
  split_ifs at own with first second third fourth fifth sixth
  · cases own
    exact ⟨first, by intro value same; cases same⟩
  · cases own
    exact ⟨second, by intro value same; cases same⟩
  · cases own
    exact ⟨third, by intro value same; cases same⟩
  · cases own
    exact ⟨fourth, by intro value same; cases same⟩
  · cases own
    exact ⟨fifth, by intro value same; cases same⟩
  · cases own
    exact ⟨sixth, by intro value same; cases same⟩

theorem spelled_proper (spells : Spells text tokens) :
    ∀ token ∈ tokens, Proper token := by
  induction spells with
  | done => exact fun _ inside => absurd inside List.not_mem_nil
  | blank _ _ _ _ _ ih => exact ih
  | mark letter _ token _ own _ ih =>
      refine List.forall_mem_cons.mpr ⟨?_, ih⟩
      intro value same
      exact absurd same ((punctuation_mark letter token own).2 value)
  | word word _ value _ own _ ih =>
      refine List.forall_mem_cons.mpr ⟨?_, ih⟩
      rintro _ same
      cases same
      exact (word_derives word value own).2.1
  | string letters _ _ _ _ ih =>
      refine List.forall_mem_cons.mpr ⟨?_, ih⟩
      rintro _ same
      cases same
      rfl

theorem no_blanks : Blanks [] := fun _ inside => absurd inside List.not_mem_nil

theorem blanks_append (front back : List Char) (first : Blanks front) (second : Blanks back) : Blanks (front ++ back) :=
  List.forall_mem_append.mpr ⟨first, second⟩

theorem element_padded (front text back : List Char) (before : Blanks front) (own : Derives .element text)
    (after : Blanks back) : Derives .element (front ++ text ++ back) := by
  cases own with
  | padded first value last opening derived closing =>
      have whole := Derives.padded (front ++ first) value (last ++ back) (blanks_append front first before opening)
        derived (blanks_append last back closing after)
      simpa [List.append_assoc] using whole

theorem member_padded (text back : List Char) (own : Derives .member text) (after : Blanks back) :
    Derives .member (text ++ back) := by
  cases own with
  | named before name gap value front characters middle derived =>
      have last := element_padded [] value back no_blanks derived after
      have whole := Derives.named before name gap _ front characters middle last
      simpa [List.append_assoc] using whole

theorem blanks_cons (own : isBlank letter = true) (rest : Blanks text) :
    Blanks (letter :: text) :=
  List.forall_mem_cons.mpr ⟨own, rest⟩

theorem spelled_blanks (spells : Spells text []) : Blanks text := by
  generalize empty : ([] : List Token) = tokens at spells
  induction spells with
  | done => exact no_blanks
  | blank letter text tokens own _ ih => exact blanks_cons letter text own (ih empty)
  | mark => cases empty
  | word => cases empty
  | string => cases empty

theorem spelled_mark (mark : Char) (token : Token) (known : punctuation mark = some token) (text : List Char)
    (tokens : List Token) (spells : Spells text (token :: tokens)) :
    ∃ blanks rest, text = blanks ++ mark :: rest ∧ Blanks blanks ∧ Spells rest tokens := by
  obtain ⟨only, bare⟩ := punctuation_mark mark token known
  generalize same : token :: tokens = all at spells
  induction spells with
  | done => cases same
  | blank letter text _ own _ ih =>
      obtain ⟨blanks, rest, rfl, blank, spells⟩ := ih same
      exact ⟨letter :: blanks, rest, rfl, blanks_cons letter blanks own blank, spells⟩
  | mark letter text _ _ own rest _ =>
      cases same
      obtain rfl := (punctuation_mark letter token own).1.trans only.symm
      exact ⟨[], text, rfl, no_blanks, rest⟩
  | word => exact absurd (List.cons.inj same).1 (bare _)
  | string => exact absurd (List.cons.inj same).1 (bare _)

theorem spelled_name (name : List Char) (tokens : List Token)
    (spells : Spells text (.scalar (.string name) :: tokens)) :
    ∃ blanks rest, text = blanks ++ ('"' :: name ++ ['"']) ++ rest ∧ Blanks blanks ∧ IsCharacters name ∧
      Spells rest tokens := by
  generalize same : Token.scalar (.string name) :: tokens = all at spells
  induction spells with
  | done => cases same
  | blank letter text _ own _ ih =>
      obtain ⟨blanks, rest, rfl, blank, characters, spells⟩ := ih same
      exact ⟨letter :: blanks, rest, rfl, blanks_cons letter blanks own blank, characters, spells⟩
  | mark letter _ token _ own _ _ =>
      cases same
      exact absurd rfl ((punctuation_mark letter _ own).2 _)
  | word word _ value _ own _ _ =>
      cases same
      exact absurd rfl ((word_derives word _ own).2.2 name)
  | string letters text tokens plain rest _ =>
      cases same
      exact ⟨[], text, rfl, no_blanks, plain_characters name plain, rest⟩

theorem spelled_scalar (spells : Spells text [.scalar value]) : Derives .element text := by
  generalize same : [Token.scalar value] = all at spells
  induction spells with
  | done => cases same
  | blank letter text _ own _ ih =>
      have whole := element_padded [letter] text [] (blanks_cons letter [] own no_blanks) (ih same) no_blanks
      rwa [List.append_nil] at whole
  | mark letter _ token _ own _ _ =>
      cases same
      exact absurd rfl ((punctuation_mark letter _ own).2 _)
  | word word text _ _ own rest _ =>
      cases same
      exact .padded [] word text no_blanks (word_derives word value own).1
        (spelled_blanks text rest)
  | string letters text _ plain rest _ =>
      cases same
      exact .padded [] _ text no_blanks
        (.string letters (plain_characters letters plain)) (spelled_blanks text rest)

-- The tokens of a value, and of what stands in an open container up to its end, are derived.
mutual

theorem spelled_value : (value : Value) → (text : List Char) → Spells text (tokensOf value) → Derives .element text
  | .null, text, spells => spelled_scalar text .null spells
  | .boolean truth, text, spells => spelled_scalar text (.boolean truth) spells
  | .numberInteger number, text, spells => spelled_scalar text (.numberInteger number) spells
  | .numberUnsigned number, text, spells => spelled_scalar text (.numberUnsigned number) spells
  | .numberFloat digits, text, spells => spelled_scalar text (.numberFloat digits) spells
  | .string letters, text, spells => spelled_scalar text (.string letters) spells
  | .array [], text, spells => by
      obtain ⟨before, rest, rfl, front, spells⟩ := spelled_mark '[' .openArray rfl text _ spells
      obtain ⟨inner, after, rfl, middle, spells⟩ := spelled_mark ']' .closeArray rfl rest _ spells
      have whole := Derives.padded before _ after front (.emptyArray inner middle) (spelled_blanks after spells)
      simpa using whole
  | .array (item :: items), text, spells => by
      obtain ⟨before, rest, rfl, front, spells⟩ := spelled_mark '[' .openArray rfl text _ spells
      obtain ⟨first, later, rfl, own, others⟩ := spells.split (tokensOf item) (moreItemTokens items) rfl
      obtain ⟨inner, after, same, listed, back⟩ := spelled_items items first later (spelled_value item first own) others
      have whole := Derives.padded before _ after front (.array inner listed) back
      rw [same]
      simpa using whole
  | .object [], text, spells => by
      obtain ⟨before, rest, rfl, front, spells⟩ := spelled_mark '{' .openObject rfl text _ spells
      obtain ⟨inner, after, rfl, middle, spells⟩ := spelled_mark '}' .closeObject rfl rest _ spells
      have whole := Derives.padded before _ after front (.emptyObject inner middle) (spelled_blanks after spells)
      simpa using whole
  | .object ((name, value) :: members), text, spells => by
      obtain ⟨before, rest, rfl, front, spells⟩ := spelled_mark '{' .openObject rfl text _ spells
      obtain ⟨lead, rest, rfl, leading, characters, spells⟩ := spelled_name rest name _ spells
      obtain ⟨gap, rest, rfl, middle, spells⟩ := spelled_mark ':' .colon rfl rest _ spells
      obtain ⟨first, later, rfl, own, others⟩ := spells.split (tokensOf value) (moreMemberTokens members) rfl
      have member := Derives.named lead name gap first leading characters middle (spelled_value value first own)
      obtain ⟨inner, after, same, listed, back⟩ := spelled_members members _ later member others
      have whole := Derives.padded before _ after front (.object inner listed) back
      have text : before ++ '{' :: (lead ++ ('"' :: name ++ ['"']) ++ (gap ++ ':' :: (first ++ later))) =
          before ++ '{' :: (lead ++ ('"' :: name ++ ['"']) ++ gap ++ ':' :: first ++ later) := by simp
      rw [text, same]
      simpa using whole

theorem spelled_items : (items : List Value) → (first text : List Char) → Derives .element first →
    Spells text (moreItemTokens items) →
      ∃ inner after, first ++ text = inner ++ ']' :: after ∧ Derives .elements inner ∧ Blanks after
  | [], first, text, own, spells => by
      obtain ⟨blanks, after, rfl, front, spells⟩ := spelled_mark ']' .closeArray rfl text _ spells
      have last := element_padded [] first blanks no_blanks own front
      exact ⟨first ++ blanks, after, by simp, .oneElement _ last, spelled_blanks after spells⟩
  | item :: items, first, text, own, spells => by
      obtain ⟨blanks, rest, rfl, front, spells⟩ := spelled_mark ',' .comma rfl text _ spells
      obtain ⟨second, later, rfl, next, others⟩ := spells.split (tokensOf item) (moreItemTokens items) rfl
      obtain ⟨inner, after, same, listed, back⟩ := spelled_items items second later (spelled_value item second next) others
      have padded := element_padded [] first blanks no_blanks own front
      refine ⟨first ++ blanks ++ ',' :: inner, after, ?_, .moreElements _ inner padded listed, back⟩
      rw [same]
      simp

theorem spelled_members : (members : List (List Char × Value)) → (first text : List Char) → Derives .member first →
    Spells text (moreMemberTokens members) →
      ∃ inner after, first ++ text = inner ++ '}' :: after ∧ Derives .members inner ∧ Blanks after
  | [], first, text, own, spells => by
      obtain ⟨blanks, after, rfl, front, spells⟩ := spelled_mark '}' .closeObject rfl text _ spells
      exact ⟨first ++ blanks, after, by simp, .oneMember _ (member_padded first blanks own front),
        spelled_blanks after spells⟩
  | (name, value) :: members, first, text, own, spells => by
      obtain ⟨blanks, rest, rfl, front, spells⟩ := spelled_mark ',' .comma rfl text _ spells
      obtain ⟨lead, rest, rfl, leading, characters, spells⟩ := spelled_name rest name _ spells
      obtain ⟨gap, rest, rfl, middle, spells⟩ := spelled_mark ':' .colon rfl rest _ spells
      obtain ⟨second, later, rfl, next, others⟩ := spells.split (tokensOf value) (moreMemberTokens members) rfl
      have member := Derives.named lead name gap second leading characters middle (spelled_value value second next)
      obtain ⟨inner, after, same, listed, back⟩ := spelled_members members _ later member others
      refine ⟨first ++ blanks ++ ',' :: inner, after, ?_,
        .moreMembers _ inner (member_padded first blanks own front) listed, back⟩
      have text : first ++ (blanks ++ ',' :: (lead ++ ('"' :: name ++ ['"']) ++ (gap ++ ':' :: (second ++ later)))) =
          first ++ blanks ++ ',' :: (lead ++ ('"' :: name ++ ['"']) ++ gap ++ ':' :: second ++ later) := by simp
      rw [text, same]
      simp

end

theorem read_document (text : List Char) (value : Value) (accepted : read text = some value) : Document text := by
  obtain ⟨tokens, lexed, parsed⟩ := Option.bind_eq_some_iff.mp accepted
  have spells := lexed_spells text tokens lexed
  have whole := parsed_tokens tokens value (spelled_proper text tokens spells) parsed
  rw [whole] at spells
  exact spelled_value value text spells

end JsonText
