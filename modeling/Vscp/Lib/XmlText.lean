import Vscp.Lib.NumberText

set_option autoImplicit false

-- What an XML parser reports of a text, and a reader of the texts that are tags and blanks only.
namespace XmlText

open NumberText

inductive SaxEvent where
  | start (name : List Char) (attributes : List (List Char × List Char))
  | stop (name : List Char)
deriving DecidableEq

def isBlank (letter : Char) : Bool := letter = ' ' ∨ letter = '\t' ∨ letter = '\n' ∨ letter = '\r'
def isNameLetter (letter : Char) : Bool := letter.isAlpha ∨ letter = '_'
def isPlain (letter : Char) : Bool := ' ' ≤ letter ∧ letter ≤ '~' ∧ letter ≠ '<' ∧ letter ≠ '&' ∧ letter ≠ '"'

inductive Mode where
  | content
  | tag
  | startName (name : List Char)
  | attributes (name : List Char) (done : List (List Char × List Char))
  | attributeName (name : List Char) (done : List (List Char × List Char)) (field : List Char)
  | quote (name : List Char) (done : List (List Char × List Char)) (field : List Char)
  | value (name : List Char) (done : List (List Char × List Char)) (field read : List Char)
  | afterValue (name : List Char) (done : List (List Char × List Char))
  | empty (name : List Char) (done : List (List Char × List Char))
  | stopName (name : List Char)

structure Scanner where
  mode : Mode
  opened : List (List Char)
  rooted : Bool
  events : List SaxEvent

def openElement (scanner : Scanner) (name : List Char) (attributes : List (List Char × List Char)) : Option Scanner :=
  if (attributes.map Prod.fst).Nodup ∧ ¬ (scanner.rooted ∧ scanner.opened = []) then
    some ⟨.content, name :: scanner.opened, true, scanner.events ++ [.start name attributes]⟩
  else none

def closeElement (scanner : Scanner) (name : List Char) : Option Scanner :=
  match scanner.opened with
  | innermost :: opened =>
      if innermost = name then some ⟨.content, opened, scanner.rooted, scanner.events ++ [.stop name]⟩ else none
  | [] => none

def inTag (scanner : Scanner) (name : List Char) (attributes : List (List Char × List Char)) (letter : Char) :
    Option Scanner :=
  if isBlank letter then some { scanner with mode := .attributes name attributes }
  else if letter = '/' then some { scanner with mode := .empty name attributes }
  else if letter = '>' then openElement scanner name attributes
  else none

def step (scanner : Scanner) (letter : Char) : Option Scanner :=
  match scanner.mode with
  | .content =>
      if isBlank letter then some scanner
      else if letter = '<' then some { scanner with mode := .tag }
      else none
  | .tag =>
      if letter = '/' then some { scanner with mode := .stopName [] }
      else if isNameLetter letter then some { scanner with mode := .startName [letter] }
      else none
  | .startName name =>
      if isNameLetter letter then some { scanner with mode := .startName (name ++ [letter]) }
      else inTag scanner name [] letter
  | .attributes name attributes =>
      if isNameLetter letter then some { scanner with mode := .attributeName name attributes [letter] }
      else inTag scanner name attributes letter
  | .attributeName name attributes field =>
      if isNameLetter letter then some { scanner with mode := .attributeName name attributes (field ++ [letter]) }
      else if letter = '=' then some { scanner with mode := .quote name attributes field }
      else none
  | .quote name attributes field =>
      if letter = '"' then some { scanner with mode := .value name attributes field [] } else none
  | .value name attributes field read =>
      if letter = '"' then some { scanner with mode := .afterValue name (attributes ++ [(field, read)]) }
      else if isPlain letter then some { scanner with mode := .value name attributes field (read ++ [letter]) }
      else none
  | .afterValue name attributes => inTag scanner name attributes letter
  | .empty name attributes =>
      if letter = '>' then (openElement scanner name attributes).bind fun begun => closeElement begun name else none
  | .stopName name =>
      if isNameLetter letter then some { scanner with mode := .stopName (name ++ [letter]) }
      else if letter = '>' then closeElement scanner name
      else none

def read (text : List Char) : Option (List SaxEvent) :=
  (text.foldlM step ⟨.content, [], false, []⟩).bind fun scanner =>
    match scanner.mode with
    | .content => some scanner.events
    | _ => none

def attributeText (field : List Char × List Char) : List Char :=
  field.1 ++ ['=', '"'] ++ field.2 ++ ['"', ' ']

def elementText (name : List Char) (attributes : List (List Char × List Char)) : List Char :=
  '<' :: name ++ [' '] ++ attributes.flatMap attributeText ++ ['/', '>']

def spacedElementText (gap name : List Char) (attributes : List (List Char × List Char)) : List Char :=
  '<' :: name ++ [' '] ++ List.intercalate gap (attributes.map attributeText) ++ ['/', '>']

def isName (name : List Char) : Bool := name ≠ [] ∧ name.all isNameLetter

theorem digit_is_plain (letter : Char) (digit : (digitValue letter).isSome) : isPlain letter = true := by
  obtain ⟨low, high⟩ := digit_graphic letter digit
  exact decide_eq_true ⟨low, high, digit_not_mark letter '<' digit rfl, digit_not_mark letter '&' digit rfl,
    digit_not_mark letter '"' digit rfl⟩

theorem zero_not_read (scanner : Scanner) : step scanner '\x00' = none := by
  unfold step
  split <;> rfl

theorem read_without_zero (text : List Char) (events : List SaxEvent) (found : read text = some events) :
    '\x00' ∉ text := by
  intro zero
  obtain ⟨front, back, rfl⟩ := List.append_of_mem zero
  have stuck : ∀ scanner, (front ++ '\x00' :: back).foldlM step scanner = none := by
    intro scanner
    rw [List.foldlM_append]
    cases front.foldlM step scanner with
    | none => rfl
    | some reached =>
        show ('\x00' :: back).foldlM step reached = none
        rw [List.foldlM_cons, zero_not_read]
        rfl
  rw [read, stuck] at found
  cases found

variable (word : List Char)

theorem name_letters (letters : word.all isNameLetter = true) (mode : List Char → Mode)
    (steps : ∀ scanner before letter, scanner.mode = mode before → isNameLetter letter = true →
      step scanner letter = some { scanner with mode := mode (before ++ [letter]) })
    (scanner : Scanner) (before : List Char) (here : scanner.mode = mode before) :
    word.foldlM step scanner = some { scanner with mode := mode (before ++ word) } := by
  induction word generalizing scanner before with
  | nil =>
      rw [List.append_nil, ← here]
      rfl
  | cons letter word ih =>
      rw [List.all_cons, Bool.and_eq_true] at letters
      rw [List.foldlM_cons, steps scanner before letter here letters.1, List.append_cons before letter word]
      exact ih letters.2 { scanner with mode := mode (before ++ [letter]) } (before ++ [letter]) rfl

theorem plain_letters (plain : ∀ letter ∈ word, isPlain letter = true) (scanner : Scanner)
    (name field before : List Char) (done : List (List Char × List Char))
    (here : scanner.mode = .value name done field before) :
    word.foldlM step scanner = some { scanner with mode := .value name done field (before ++ word) } := by
  induction word generalizing scanner before with
  | nil =>
      rw [List.append_nil, ← here]
      rfl
  | cons letter word ih =>
      have own := plain letter List.mem_cons_self
      have quote : letter ≠ '"' := by
        rintro rfl
        exact Bool.noConfusion own
      have stepped : step scanner letter = some { scanner with mode := .value name done field (before ++ [letter]) } := by
        simp [step, here, quote, own]
      rw [List.foldlM_cons, stepped, List.append_cons before letter word]
      exact ih (fun other inside => plain other (List.mem_cons_of_mem letter inside))
        { scanner with mode := .value name done field (before ++ [letter]) } (before ++ [letter]) rfl

variable (name : List Char)

theorem name_begins (proper : isName name = true) :
    ∃ first rest, name = first :: rest ∧ isNameLetter first = true ∧ rest.all isNameLetter = true := by
  obtain ⟨nonempty, letters⟩ := of_decide_eq_true proper
  obtain ⟨first, rest, rfl⟩ := List.exists_cons_of_ne_nil nonempty
  rw [List.all_cons, Bool.and_eq_true] at letters
  exact ⟨first, rest, rfl, letters.1, letters.2⟩

theorem attribute_reads (field : List Char × List Char) (proper : isName field.1 = true)
    (plain : ∀ letter ∈ field.2, isPlain letter = true) (scanner : Scanner) (name : List Char)
    (done : List (List Char × List Char)) (here : scanner.mode = .attributes name done) :
    (attributeText field).foldlM step scanner =
      some { scanner with mode := .attributes name (done ++ [field]) } := by
  obtain ⟨word, value⟩ := field
  obtain ⟨first, rest, rfl, letter, letters⟩ := name_begins word proper
  have opened : step scanner first = some { scanner with mode := .attributeName name done [first] } := by
    simp [step, here, letter]
  have named := name_letters rest letters (.attributeName name done)
    (by
      intro other before next there own
      simp [step, there, own])
    { scanner with mode := .attributeName name done [first] } [first] rfl
  have read := plain_letters value plain { scanner with mode := .value name done (first :: rest) [] } name (first :: rest) []
    done rfl
  have text : attributeText (first :: rest, value) = first :: (rest ++ (['=', '"'] ++ (value ++ ['"', ' ']))) := by
    simp [attributeText]
  rw [text, List.foldlM_cons, opened]
  show (rest ++ (['=', '"'] ++ (value ++ ['"', ' ']))).foldlM step _ = _
  rw [List.foldlM_append, named]
  show (['=', '"'] ++ (value ++ ['"', ' '])).foldlM step
    { scanner with mode := .attributeName name done (first :: rest) } = _
  rw [List.foldlM_append]
  show (value ++ ['"', ' ']).foldlM step { scanner with mode := .value name done (first :: rest) [] } = _
  rw [List.foldlM_append, read]
  rfl

variable (gap : List Char)

theorem blanks_read (blank : ∀ letter ∈ gap, isBlank letter = true) (scanner : Scanner)
    (name : List Char) (done : List (List Char × List Char)) (here : scanner.mode = .attributes name done) :
    gap.foldlM step scanner = some scanner := by
  induction gap with
  | nil => rfl
  | cons letter gap ih =>
      have own := blank letter List.mem_cons_self
      have letterless : isNameLetter letter = false := by
        have known := of_decide_eq_true own
        rcases known with rfl | rfl | rfl | rfl <;> rfl
      have stepped : step scanner letter = some scanner := by
        obtain ⟨mode, opened, rooted, events⟩ := scanner
        obtain rfl : mode = .attributes name done := here
        simp [step, inTag, letterless, own]
      rw [List.foldlM_cons, stepped]
      exact ih fun other inside => blank other (List.mem_cons_of_mem letter inside)

theorem attributes_read (blank : ∀ letter ∈ gap, isBlank letter = true)
    (attributes : List (List Char × List Char)) (proper : ∀ field ∈ attributes, isName field.1 = true)
    (plain : ∀ field ∈ attributes, ∀ letter ∈ field.2, isPlain letter = true) (scanner : Scanner)
    (name : List Char) (done : List (List Char × List Char)) (here : scanner.mode = .attributes name done) :
    (List.intercalate gap (attributes.map attributeText)).foldlM step scanner =
      some { scanner with mode := .attributes name (done ++ attributes) } := by
  induction attributes generalizing scanner done with
  | nil =>
      rw [List.append_nil, ← here]
      rfl
  | cons field attributes ih =>
      have own := attribute_reads field (proper field List.mem_cons_self) (plain field List.mem_cons_self)
        scanner name done here
      have later := ih (fun other inside => proper other (List.mem_cons_of_mem field inside))
        (fun other inside => plain other (List.mem_cons_of_mem field inside))
        { scanner with mode := .attributes name (done ++ [field]) } (done ++ [field]) rfl
      rw [List.append_cons done field attributes]
      cases attributes with
      | nil =>
          rw [List.append_nil, List.map_cons, List.map_nil, List.intercalate_singleton]
          exact own
      | cons second attributes =>
          rw [List.map_cons, List.map_cons, List.intercalate_cons_cons, List.append_assoc, List.foldlM_append, own]
          change (gap ++ List.intercalate gap ((second :: attributes).map attributeText)).foldlM step _ = _
          rw [List.foldlM_append, blanks_read gap blank { scanner with mode := .attributes name (done ++ [field]) } name
            (done ++ [field]) rfl]
          exact later

theorem spaced_element_reads (gap name : List Char) (blank : ∀ letter ∈ gap, isBlank letter = true)
    (attributes : List (List Char × List Char)) (named : isName name = true)
    (proper : ∀ field ∈ attributes, isName field.1 = true)
    (plain : ∀ field ∈ attributes, ∀ letter ∈ field.2, isPlain letter = true)
    (distinct : (attributes.map Prod.fst).Nodup) :
    read (spacedElementText gap name attributes) = some [.start name attributes, .stop name] := by
  obtain ⟨first, rest, rfl, letter, letters⟩ := name_begins name named
  have solid : first ≠ '/' := by
    rintro rfl
    exact Bool.noConfusion letter
  have begun : step ⟨.tag, [], false, []⟩ first = some ⟨.startName [first], [], false, []⟩ := by
    simp [step, solid, letter]
  have word := name_letters rest letters .startName
    (by
      intro other before next there own
      simp [step, there, own])
    ⟨.startName [first], [], false, []⟩ [first] rfl
  have list := attributes_read gap blank attributes proper plain ⟨.attributes (first :: rest) [], [], false, []⟩
    (first :: rest) [] rfl
  have closed : ['/', '>'].foldlM step ⟨.attributes (first :: rest) attributes, [], false, []⟩ =
      some ⟨.content, [], true, [.start (first :: rest) attributes, .stop (first :: rest)]⟩ := by
    have slash : step ⟨.attributes (first :: rest) attributes, [], false, []⟩ '/' =
        some ⟨.empty (first :: rest) attributes, [], false, []⟩ := rfl
    rw [List.foldlM_cons, slash]
    simp [step, openElement, closeElement, distinct]
  generalize fields : List.intercalate gap (attributes.map attributeText) = inner at list
  have text : spacedElementText gap (first :: rest) attributes =
      ['<'] ++ (first :: (rest ++ ([' '] ++ (inner ++ ['/', '>'])))) := by
    simp [spacedElementText, fields]
  have whole : (spacedElementText gap (first :: rest) attributes).foldlM step ⟨.content, [], false, []⟩ =
      some ⟨.content, [], true, [.start (first :: rest) attributes, .stop (first :: rest)]⟩ := by
    rw [text, List.foldlM_append]
    change (first :: (rest ++ ([' '] ++ (inner ++ ['/', '>'])))).foldlM step ⟨.tag, [], false, []⟩ = _
    rw [List.foldlM_cons, begun]
    change (rest ++ ([' '] ++ (inner ++ ['/', '>']))).foldlM step ⟨.startName [first], [], false, []⟩ = _
    rw [List.foldlM_append, word]
    change ([' '] ++ (inner ++ ['/', '>'])).foldlM step ⟨.startName (first :: rest), [], false, []⟩ = _
    rw [List.foldlM_append]
    change (inner ++ ['/', '>']).foldlM step ⟨.attributes (first :: rest) [], [], false, []⟩ = _
    rw [List.foldlM_append, list]
    exact closed
  rw [read, whole]
  rfl

theorem without_gap (texts : List (List Char)) : List.intercalate [] texts = texts.flatten := by
  induction texts with
  | nil => rfl
  | cons text texts ih =>
      cases texts with
      | nil => simp
      | cons second texts =>
          rw [List.intercalate_cons_cons, List.append_nil, ih]
          rfl

theorem element_reads (attributes : List (List Char × List Char)) (named : isName name = true)
    (proper : ∀ field ∈ attributes, isName field.1 = true)
    (plain : ∀ field ∈ attributes, ∀ letter ∈ field.2, isPlain letter = true)
    (distinct : (attributes.map Prod.fst).Nodup) :
    read (elementText name attributes) = some [.start name attributes, .stop name] := by
  have text : elementText name attributes = spacedElementText [] name attributes := by
    rw [elementText, spacedElementText, List.flatMap, without_gap]
  rw [text]
  exact spaced_element_reads [] name (fun _ inside => absurd inside List.not_mem_nil) attributes named proper plain distinct

end XmlText
