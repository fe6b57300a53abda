import Vscp.GuidGroups

set_option autoImplicit false

namespace Vscp

open NumberText
open RemoteTcp (Text)

def Blank (text : Text) : Prop := ∀ letter ∈ text, letter = ' ' ∨ letter = '\t'

-- What stands before a GUID and behind it; a brace that is opened may be left open.
inductive Opening : Bool → Text → Prop
  | bare (blanks : Text) (blank : Blank blanks) : Opening false blanks
  | brace (before inside : Text) (blank : Blank before) (blankInside : Blank inside) :
      Opening true (before ++ '{' :: inside)

inductive Closing : Bool → Text → Prop
  | bare : Closing false []
  | leftOpen (blanks : Text) (blank : Blank blanks) : Closing true blanks
  | brace (blanks : Text) (blank : Blank blanks) : Closing true (blanks ++ ['}'])

def FillMark (mark : Char) (fill : UInt8) : Prop :=
  (mark = '-' ∧ fill = 0) ∨ ((mark = ':' ∨ mark = '*') ∧ fill = 0xff)

def outer (left right : Bytes) : Guid := Vector.ofFn fun i =>
  if i.val < left.length then left.getD i.val 0
  else if i.val < 16 - right.length then 0
  else right.getD (i.val - (16 - right.length)) 0

-- Hex groups with at most one fill, and the GUID they stand for; every digit counts.
inductive Denotes : Text → Guid → Prop
  | whole (text : Text) (bytes : Bytes) (groups : Groups text bytes) (full : bytes.length = 16) :
      Denotes text (leading bytes)
  | filled (mark : Char) (fill : UInt8) (text : Text) (bytes : Bytes) (known : FillMark mark fill)
      (groups : Groups text bytes) (few : bytes.length ≤ 16) : Denotes (mark :: ':' :: text) (trailing fill bytes)
  | between (front back : Text) (left right : Bytes) (first : Groups front left) (second : Groups back right)
      (someLeft : left ≠ []) (someRight : right ≠ []) (few : left.length + right.length ≤ 16) :
      Denotes (front ++ ':' :: ':' :: back) (outer left right)
  | nil : Denotes ['-'] (Vector.replicate 16 0)

-- A text without a GUID is read as the zero GUID, but only when it has been read to its end.
def Reads (consumed rest : Text) (guid : Guid) : Prop :=
  ∃ braces opening body closing, Opening braces opening ∧ Closing braces closing ∧
    consumed = opening ++ (body ++ closing) ∧
    (Denotes body guid ∨ (body = [] ∧ rest = [] ∧ guid = Vector.replicate 16 0))

structure ExactlyConsumed (consumed rest : Text) (guid : Guid) : Prop where
  reads : Reads consumed rest guid
  -- A "::" behind a group is not cut in two.
  uncut : ¬ ∃ front digit after, consumed = front ++ [digit, ':'] ∧ isHexDigit digit = true ∧ rest = ':' :: after
  again : ∃ endptr, vscpGuidParse consumed = ⟨true, guid, endptr⟩

def ReportsConsumed (strguid : Text) : Prop :=
  ∀ guid rest, vscpGuidParse strguid = ⟨true, guid, some rest⟩ →
    ∃ consumed, strguid.takeWhile (· ≠ '\x00') = consumed ++ rest ∧ ExactlyConsumed consumed rest guid

def braced (text : Text) : Bool := decide ((skipBlanks text).head? = some '{')

def opened (text : Text) : Text := if braced text then skipBlanks ((skipBlanks text).drop 1) else skipBlanks text

def Lone (body : Text) : Prop := body.head? = some '-' ∧ ¬ nextIsHex (body.drop 1) = true

def Marked (body : Text) : Prop := (body.head? = some ':' ∨ body.head? = some '*') ∧ (body.drop 1).head? = some ':'

def FillBetween (body : Text) : Prop :=
  (∃ before behind, body = before ++ ':' :: ':' :: behind) ∧ ¬ Lone body ∧ ¬ Marked body

structure Clear (body : Text) : Prop where
  single : ¬ FillBetween body
  narrow : ¬ WideLast 16 body
  filled : ∀ mark fill input, FillMark mark fill → body = mark :: ':' :: input →
    ¬ WideLast 16 input ∧ ¬ FillBehind 16 input

def betweenGuid (depth : Nat) (before behind : Text) : Guid :=
  let beforeCount := min (countParsedBytes before) 16
  let behindCount := min (countParsedBytes behind) (16 - beforeCount)
  Vector.ofFn fun i =>
    if i.val < beforeCount then (guidParse depth before).guid.get i
    else if i.val < 16 - behindCount then 0
    else (guidParse depth behind).guid.toList.getD (i.val - (16 - behindCount)) 0

variable (braces : Bool) (depth : Nat) (text : Text)

theorem guid_parse_choice (text body : Text) (same : opened text = body) :
    guidParse (depth + 1) text =
      if body = [] then finish (braced text) (Vector.replicate 16 0) body
      else if body.head? = some '-' ∧ (body.drop 1).head? = some ':' then
        finish (braced text) (trailing 0 (parseGroups (body.drop 2)).1) (parseGroups (body.drop 2)).2
      else if body.head? = some '-' ∧ ¬ nextIsHex (body.drop 1) then
        finish (braced text) (Vector.replicate 16 0) (body.drop 1)
      else if (body.head? = some ':' ∨ body.head? = some '*') ∧ (body.drop 1).head? = some ':' then
        if ¬ nextIsHex (body.drop 2) then finish (braced text) (Vector.replicate 16 0xff) (body.drop 2)
        else finish (braced text) (trailing 0xff (parseGroups (body.drop 2)).1) (parseGroups (body.drop 2)).2
      else
        match splitAtFill body with
        | some (before, behind) => finish (braced text) (betweenGuid depth before behind) body
        | none =>
            if (readGroups UInt8.ofNat 16 16 body).1.length ≠ 16 then
              ⟨false, leading (readGroups UInt8.ofNat 16 16 body).1, none⟩
            else finish (braced text) (leading (readGroups UInt8.ofNat 16 16 body).1)
              (readGroups UInt8.ofNat 16 16 body).2 := by
  rw [← same]
  rfl

theorem parse_empty (body : opened text = []) :
    guidParse (depth + 1) text = finish (braced text) (Vector.replicate 16 0) [] := by
  rw [guid_parse_choice depth text [] body, if_pos rfl]

theorem not_hex_stops (input : Text) (foreign : ¬ nextIsHex input = true) : input.takeWhile isHexDigit = [] := by
  cases input with
  | nil => rfl
  | cons letter input => exact List.takeWhile_cons_of_neg foreign

theorem parse_filled (text input : Text) (mark : Char) (fill : UInt8) (known : FillMark mark fill)
    (body : opened text = mark :: ':' :: input) :
    guidParse (depth + 1) text = finish (braced text) (trailing fill (parseGroups input).1) (parseGroups input).2 := by
  rw [guid_parse_choice depth text _ body, if_neg (List.cons_ne_nil _ _)]
  rcases known with ⟨rfl, rfl⟩ | ⟨star, rfl⟩
  · rw [if_pos ⟨rfl, rfl⟩]
    rfl
  · have dash : mark ≠ '-' := by
      rcases star with rfl | rfl <;> decide
    simp only [List.head?_cons, Option.some.injEq, dash, false_and, if_false, star, List.drop_succ_cons, List.drop_zero,
      and_self, if_true]
    by_cases hex : nextIsHex input = true
    · rw [if_neg (not_not.mpr hex)]
    · have none : parseGroups input = ([], input) :=
        read_groups_ended _ 16 16 input (.inr (not_hex_stops input hex))
      rw [if_pos hex, none]
      rfl

theorem parse_lone (text input : Text) (body : opened text = '-' :: input)
    (colon : input.head? ≠ some ':') (foreign : ¬ nextIsHex input = true) :
    guidParse (depth + 1) text = finish (braced text) (Vector.replicate 16 0) input := by
  rw [guid_parse_choice depth text _ body, if_neg (List.cons_ne_nil _ _), if_neg (fun fill => colon fill.2),
    if_pos ⟨rfl, foreign⟩]
  rfl

theorem split_some (before behind : Text) : splitAtFill (before ++ ':' :: ':' :: behind) ≠ none := by
  induction before with
  | nil => simp [splitAtFill]
  | cons letter before ih =>
      intro none
      rw [List.cons_append, splitAtFill] at none
      split at none
      · cases none
      · exact ih (Option.map_eq_none_iff.mp none)

theorem split_parts (text before behind : Text) (split : splitAtFill text = some (before, behind)) :
    text = before ++ ':' :: ':' :: behind := by
  induction text generalizing before behind with
  | nil => cases split
  | cons letter text ih =>
      rw [splitAtFill] at split
      by_cases fill : letter = ':' ∧ text.head? = some ':'
      · rw [if_pos fill] at split
        cases split
        cases text with
        | nil => cases fill.2
        | cons second text =>
            cases fill.2
            rw [fill.1]
            rfl
      · rw [if_neg fill] at split
        obtain ⟨parts, inner, same⟩ := Option.map_eq_some_iff.mp split
        cases same
        rw [ih parts.1 parts.2 inner]
        rfl

theorem split_whole (text closing : Text) (none : splitAtFill text = .none) (quiet : ':' ∉ closing) :
    splitAtFill (text ++ closing) = .none := by
  induction text with
  | nil =>
      rw [List.nil_append]
      cases split : splitAtFill closing with
      | none => rfl
      | some parts =>
          have text := split_parts closing parts.1 parts.2 split
          exact absurd (by rw [text]; simp) quiet
  | cons letter text ih =>
      rw [splitAtFill] at none
      by_cases fill : letter = ':' ∧ text.head? = some ':'
      · rw [if_pos fill] at none
        cases none
      · rw [if_neg fill] at none
        have later := ih (Option.map_eq_none_iff.mp none)
        have still : ¬ (letter = ':' ∧ (text ++ closing).head? = some ':') := by
          rintro ⟨colon, next⟩
          cases text with
          | nil => exact quiet (List.mem_of_head? next)
          | cons second text => exact fill ⟨colon, next⟩
        rw [List.cons_append, splitAtFill, if_neg still, later]
        rfl

theorem split_front (text more : Text) (none : splitAtFill (text ++ more) = .none) : splitAtFill text = .none := by
  cases split : splitAtFill text with
  | none => rfl
  | some parts =>
      have same := split_parts text parts.1 parts.2 split
      rw [same, List.append_assoc] at none
      exact absurd none (split_some parts.1 _)

theorem not_lone_dash (body : Text) (lone : ¬ Lone body) : ¬ (body.head? = some '-' ∧ (body.drop 1).head? = some ':') := by
  rintro ⟨head, next⟩
  refine lone ⟨head, ?_⟩
  rw [nextIsHex, next]
  decide

theorem parse_between (fill : FillBetween (opened text)) :
    ∃ guid, guidParse (depth + 1) text = finish (braced text) guid (opened text) := by
  obtain ⟨⟨before, behind, body⟩, lone, marked⟩ := fill
  have some : opened text ≠ [] := by
    rw [body]
    simp
  have dash := not_lone_dash (opened text) lone
  have split : splitAtFill (opened text) ≠ none := by
    rw [body]
    exact split_some before behind
  obtain ⟨parts, found⟩ := Option.ne_none_iff_exists'.mp split
  refine ⟨betweenGuid depth parts.1 parts.2, ?_⟩
  unfold Lone at lone
  unfold Marked at marked
  rw [guid_parse_choice depth text _ rfl, if_neg some, if_neg dash, if_neg lone, if_neg marked, found]

theorem parse_whole (some : opened text ≠ []) (lone : ¬ Lone (opened text))
    (marked : ¬ Marked (opened text)) (none : splitAtFill (opened text) = .none) :
    guidParse (depth + 1) text =
      if (readGroups UInt8.ofNat 16 16 (opened text)).1.length ≠ 16 then
        ⟨false, leading (readGroups UInt8.ofNat 16 16 (opened text)).1, .none⟩
      else finish (braced text) (leading (readGroups UInt8.ofNat 16 16 (opened text)).1)
        (readGroups UInt8.ofNat 16 16 (opened text)).2 := by
  have dash := not_lone_dash (opened text) lone
  unfold Lone at lone
  unfold Marked at marked
  rw [guid_parse_choice depth text _ rfl, if_neg some, if_neg dash, if_neg lone, if_neg marked, none]

theorem skip_blanks_parts :
    ∃ blanks, Blank blanks ∧ text = blanks ++ skipBlanks text ∧
      ∀ letter, (skipBlanks text).head? = some letter → ¬ (letter = ' ' ∨ letter = '\t') := by
  refine ⟨text.takeWhile fun letter => letter = ' ' ∨ letter = '\t', ?_, List.takeWhile_append_dropWhile.symm, ?_⟩
  · intro letter member
    have kept := List.mem_takeWhile_imp member
    simpa using kept
  · intro letter head blank
    have stays := List.head?_dropWhile_not (fun letter => decide (letter = ' ' ∨ letter = '\t')) text
    have same : (text.dropWhile fun letter => decide (letter = ' ' ∨ letter = '\t')).head? = some letter := head
    rw [same] at stays
    simp [blank] at stays

theorem skip_blanks_again (blanks text : Text) (blank : Blank blanks)
    (stays : ∀ letter, text.head? = some letter → ¬ (letter = ' ' ∨ letter = '\t')) :
    skipBlanks (blanks ++ text) = text := by
  rw [skipBlanks, List.dropWhile_append_of_pos fun letter member => decide_eq_true (blank letter member)]
  cases text with
  | nil => rfl
  | cons letter text =>
      rw [List.dropWhile_cons_of_neg]
      simpa using stays letter rfl

theorem opening_parts : ∃ opening, Opening (braced text) opening ∧ text = opening ++ opened text := by
  obtain ⟨before, blank, parts, _⟩ := skip_blanks_parts text
  unfold opened
  by_cases brace : braced text = true
  · obtain ⟨inside, blankInside, further, _⟩ := skip_blanks_parts ((skipBlanks text).drop 1)
    refine ⟨before ++ '{' :: inside, ?_, ?_⟩
    · rw [brace]
      exact .brace before inside blank blankInside
    · rw [if_pos brace, List.append_assoc, List.cons_append, ← further]
      have head : (skipBlanks text).head? = some '{' := of_decide_eq_true brace
      obtain ⟨rest, same⟩ := List.head?_eq_some_iff.mp head
      rw [same] at parts ⊢
      exact parts
  · refine ⟨before, ?_, ?_⟩
    · rw [Bool.eq_false_of_not_eq_true brace]
      exact .bare before blank
    · rw [if_neg brace]
      exact parts

def bodyLetter (letter : Char) : Bool := isHexDigit letter || [':', '-', ',', '*'].contains letter

variable (letter : Char)

theorem body_not_blank (own : bodyLetter letter = true) :
    ¬ (letter = ' ' ∨ letter = '\t') ∧ letter ≠ '{' ∧ letter ≠ '}' := by
  refine ⟨?_, ?_, ?_⟩
  · rintro (rfl | rfl) <;> exact Bool.noConfusion own
  · rintro rfl
    exact Bool.noConfusion own
  · rintro rfl
    exact Bool.noConfusion own

theorem opening_again (opening body : Text) (letter : Char) (around : Opening braces opening)
    (head : body.head? = some letter) (own : bodyLetter letter = true) :
    braced (opening ++ body) = braces ∧ opened (opening ++ body) = body := by
  have stays : ∀ other, body.head? = some other → ¬ (other = ' ' ∨ other = '\t') := by
    intro other same
    cases head.symm.trans same
    exact (body_not_blank letter own).1
  cases around with
  | bare blanks blank =>
      have skipped := skip_blanks_again opening body blank stays
      have bare : braced (opening ++ body) = false := by
        rw [braced, skipped, head]
        exact decide_eq_false fun same => (body_not_blank letter own).2.1 (Option.some.inj same)
      rw [opened, bare, skipped]
      exact ⟨rfl, rfl⟩
  | brace before inside blank blankInside =>
      have skipped := skip_blanks_again before ('{' :: (inside ++ body)) blank (by
        intro other same
        cases same
        decide)
      have brace : braced (before ++ '{' :: inside ++ body) = true := by
        rw [braced, List.append_assoc, List.cons_append, skipped]
        rfl
      rw [opened, if_pos brace, brace, List.append_assoc, List.cons_append, skipped]
      exact ⟨rfl, skip_blanks_again inside body blankInside stays⟩

theorem finish_parts (guid : Guid) (p : Text) :
    ∃ closing rest, finish braces guid p = ⟨true, guid, some rest⟩ ∧ Closing braces closing ∧ p = closing ++ rest := by
  cases braces with
  | false => exact ⟨[], p, rfl, .bare, rfl⟩
  | true =>
      obtain ⟨blanks, blank, parts, _⟩ := skip_blanks_parts p
      by_cases brace : (skipBlanks p).head? = some '}'
      · obtain ⟨rest, same⟩ := List.head?_eq_some_iff.mp brace
        refine ⟨blanks ++ ['}'], rest, ?_, .brace blanks blank, ?_⟩
        · simp [finish, same]
        · rw [List.append_assoc, List.singleton_append, ← same]
          exact parts
      · exact ⟨blanks, skipBlanks p, by simp [finish, brace], .leftOpen blanks blank, parts⟩

theorem around_letters (opening closing : Text) (before : Opening braces opening)
    (behind : Closing braces closing) : ∀ letter ∈ opening ++ closing, bodyLetter letter = false := by
  have blanks : ∀ text, Blank text → ∀ letter ∈ text, bodyLetter letter = false := by
    intro text blank letter member
    rcases blank letter member with rfl | rfl <;> rfl
  intro letter member
  rcases List.mem_append.mp member with first | last
  · cases before with
    | bare blanks' blank => exact blanks opening blank letter first
    | brace outside inside blank blankInside =>
        rcases List.mem_append.mp first with left | right
        · exact blanks outside blank letter left
        · rcases List.mem_cons.mp right with rfl | right
          · rfl
          · exact blanks inside blankInside letter right
  · cases behind with
    | bare => cases last
    | leftOpen blanks' blank => exact blanks closing blank letter last
    | brace blanks' blank =>
        rcases List.mem_append.mp last with left | right
        · exact blanks blanks' blank letter left
        · cases List.mem_singleton.mp right
          rfl

variable (closing : Text)

theorem closing_letters (behind : Closing braces closing) :
    ∀ letter ∈ closing, bodyLetter letter = false := by
  intro letter member
  cases braces with
  | false => exact around_letters false [] closing (.bare [] (List.forall_mem_nil _)) behind letter member
  | true =>
      exact around_letters true ['{'] closing (.brace [] [] (List.forall_mem_nil _) (List.forall_mem_nil _)) behind letter
        (List.mem_append_right _ member)

variable (mark : Char)

theorem separator_body (separates : Separator mark) : bodyLetter mark = true := by
  rcases separates with rfl | rfl | rfl <;> rfl

theorem digit_body (digit : isHexDigit letter = true) : bodyLetter letter = true := by
  rw [bodyLetter, digit, Bool.true_or]

theorem closing_stops (behind : Closing braces closing) :
    closing.takeWhile isHexDigit = [] ∧ (∀ mark, closing.head? = some mark → ¬ Separator mark) ∧ ':' ∉ closing := by
  have letters := closing_letters braces closing behind
  refine ⟨?_, ?_, ?_⟩
  · cases closing with
    | nil => rfl
    | cons letter closing =>
        rw [List.takeWhile_cons_of_neg]
        intro digit
        have own := letters letter List.mem_cons_self
        rw [digit_body letter digit] at own
        cases own
  · intro mark head separates
    have own := letters mark (List.mem_of_head? head)
    rw [separator_body mark separates] at own
    cases own
  · intro member
    exact Bool.noConfusion (letters ':' member)

variable (front : Text) (left : Bytes)

theorem led_letters (led : Led front left) : ∀ letter ∈ front, bodyLetter letter = true := by
  induction led with
  | none => exact List.forall_mem_nil _
  | more run rest mark bytes some digits separates later ih =>
      intro letter member
      rcases List.mem_append.mp member with first | behind
      · exact digit_body letter (digits letter first)
      · rcases List.mem_cons.mp behind with rfl | behind
        · exact separator_body letter separates
        · exact ih letter behind

theorem led_end (led : Led front left) :
    front = [] ∨ ∃ start digit mark, front = start ++ [digit, mark] ∧ isHexDigit digit = true ∧ Separator mark := by
  induction led with
  | none => exact .inl rfl
  | more run rest mark bytes some digits separates later ih =>
      rcases ih with rfl | ⟨start, digit, last, rfl, hex, other⟩
      · refine .inr ⟨run.dropLast, run.getLast some, mark, ?_, digits _ (List.getLast_mem some), separates⟩
        have split := List.dropLast_append_getLast some
        calc run ++ [mark] = (run.dropLast ++ [run.getLast some]) ++ [mark] := by rw [split]
          _ = run.dropLast ++ [run.getLast some, mark] := by rw [List.append_assoc]; rfl
      · exact .inr ⟨run ++ mark :: start, digit, last, by simp, hex, other⟩

theorem groups_head (front run : Text) (left : Bytes) (led : Led front left) (digits : Digits run)
    (some : front ++ run ≠ []) : ∃ letter tail, front ++ run = letter :: tail ∧ isHexDigit letter = true := by
  cases led with
  | none =>
      rw [List.nil_append] at some ⊢
      obtain ⟨letter, tail, rfl⟩ := List.exists_cons_of_ne_nil some
      exact ⟨letter, tail, rfl, digits letter List.mem_cons_self⟩
  | more first rest mark bytes some' digits' separates later =>
      obtain ⟨letter, tail, rfl⟩ := List.exists_cons_of_ne_nil some'
      exact ⟨letter, _, rfl, digits' letter List.mem_cons_self⟩

theorem last_letter (front back : Text) (letter : Char) (ends : (front ++ back).getLast? = some letter) :
    back = [] ∨ letter ∈ back := by
  rcases List.eq_nil_or_concat back with none | ⟨start, last, rfl⟩
  · exact .inl none
  · rw [List.concat_eq_append, ← List.append_assoc, List.getLast?_concat] at ends
    cases ends
    exact .inr (by simp)

theorem parse_solid (consumed : Text) (solid : '\x00' ∉ consumed) :
    vscpGuidParse consumed = guidParse (consumed.length + 1) consumed := by
  have whole : consumed.takeWhile (· ≠ '\x00') = consumed := by
    apply List.takeWhile_eq_self_iff.mpr
    intro letter member
    apply decide_eq_true
    rintro rfl
    exact solid member
  rw [vscpGuidParse, whole]

theorem fill_mark_body (fill : UInt8) (known : FillMark mark fill) :
    bodyLetter mark = true ∧ isHexDigit mark = false := by
  rcases known with ⟨rfl, _⟩ | ⟨rfl | rfl, _⟩ <;> exact ⟨rfl, rfl⟩

theorem solid_front (text front rest : Text) (solid : '\x00' ∉ text) (whole : text = front ++ rest) : '\x00' ∉ front := by
  intro member
  rw [whole] at solid
  exact solid (List.mem_append_left rest member)

theorem filled_reports (text input : Text) (mark : Char) (fill : UInt8) (known : FillMark mark fill)
    (body : opened text = mark :: ':' :: input) (solid : '\x00' ∉ text) (narrow : ¬ WideLast 16 input)
    (unfilled : ¬ FillBehind 16 input) (guid : Guid) (rest : Text)
    (parsed : guidParse (depth + 1) text = ⟨true, guid, some rest⟩) :
    ∃ consumed, text = consumed ++ rest ∧ ExactlyConsumed consumed rest guid := by
  obtain ⟨opening, before, parts⟩ := opening_parts text
  obtain ⟨front, left, run, led, digits, inside, bytes, within, taken⟩ :=
    read_groups_parts (fun value => UInt8.ofNat (value / 256)) 16 16 input (Nat.le_refl 16) narrow
  rw [parse_filled depth text input mark fill known body, parseGroups, bytes] at parsed
  generalize (readGroups (fun value => UInt8.ofNat (value / 256)) 16 16 input).2 = remaining at taken parsed
  obtain ⟨closing, other, finished, behind, rfl⟩ :=
    finish_parts (braced text) (trailing fill (left ++ lastBytes run)) remaining
  rw [finished] at parsed
  cases parsed
  obtain ⟨stops, quiet, _⟩ := closing_stops (braced text) closing behind
  have room : left.length < 16 := by
    rcases Nat.eq_zero_or_pos left.length with none | more
    · omega
    · exact inside more
  have whole : text = opening ++ ((mark :: ':' :: (front ++ run)) ++ closing) ++ rest := by
    rw [parts, body, taken]
    simp only [List.append_assoc, List.cons_append]
  refine ⟨_, whole, ?_, ?_, ?_⟩
  · refine ⟨braced text, opening, _, closing, before, behind, rfl, .inl ?_⟩
    apply Denotes.filled mark fill _ _ known ⟨front, left, run, led, digits, rfl, rfl⟩
    rw [List.length_append]
    exact within
  · rintro ⟨start, digit, after, cut, hex, rfl⟩
    have last := congrArg List.getLast? cut
    rw [List.getLast?_append_cons, ← List.append_assoc] at last
    have closed : closing = [] := (last_letter _ closing ':' last).resolve_right fun member =>
      Bool.noConfusion (closing_letters _ closing behind ':' member)
    subst closed
    have unfinished : run = [] := by
      have same : opening ++ (mark :: ':' :: (front ++ run)) ++ [] = (opening ++ (mark :: ':' :: front)) ++ run := by
        simp only [List.append_nil, List.append_assoc, List.cons_append]
      rw [same] at last
      exact (last_letter _ run ':' last).resolve_right fun member => Bool.noConfusion (digits ':' member)
    subst unfinished
    rcases led_end front left led with rfl | ⟨start', digit', mark', rfl, hex', separates⟩
    · have ends : opening ++ [mark, ':'] = start ++ [digit, ':'] := by simpa using cut
      have same := (List.append_inj' ends rfl).2
      cases same
      rw [(fill_mark_body mark fill known).2] at hex
      cases hex
    · have shape : opening ++ mark :: ':' :: (start' ++ [digit', mark'] ++ []) =
          (opening ++ mark :: ':' :: (start' ++ [digit'])) ++ [mark'] := by
        simp only [List.append_nil, List.append_assoc, List.cons_append, List.nil_append]
      rw [List.append_nil, shape, List.getLast?_concat] at last
      cases last
      apply unfilled
      refine ⟨start' ++ [digit'], left, after, ?_, room, ?_⟩
      · simpa using led
      · rw [taken]
        simp
  · have prefixSolid := solid_front text _ rest solid whole
    have reopened := opening_again (braced text) opening ((mark :: ':' :: (front ++ run)) ++ closing) mark before rfl
      (fill_mark_body mark fill known).1
    have shape : opened (opening ++ ((mark :: ':' :: (front ++ run)) ++ closing)) =
        mark :: ':' :: (front ++ (run ++ closing)) := by
      rw [reopened.2]
      simp only [List.append_assoc, List.cons_append]
    have again := groups_read (fun value => UInt8.ofNat (value / 256)) front run closing left led digits 16 stops quiet
      room within
    obtain ⟨_, endptr, refinished, _⟩ := finish_parts (braced text) (trailing fill (left ++ lastBytes run)) closing
    refine ⟨some endptr, ?_⟩
    rw [parse_solid _ prefixSolid, parse_filled _ _ _ mark fill known shape, reopened.1, parseGroups, again]
    exact refinished

theorem lone_reports (text input : Text) (body : opened text = '-' :: input)
    (colon : input.head? ≠ some ':') (foreign : ¬ nextIsHex input = true) (solid : '\x00' ∉ text) (guid : Guid)
    (rest : Text) (parsed : guidParse (depth + 1) text = ⟨true, guid, some rest⟩) :
    ∃ consumed, text = consumed ++ rest ∧ ExactlyConsumed consumed rest guid := by
  obtain ⟨opening, before, parts⟩ := opening_parts text
  rw [parse_lone depth text input body colon foreign] at parsed
  obtain ⟨closing, other, finished, behind, rfl⟩ := finish_parts (braced text) (Vector.replicate 16 0) input
  rw [finished] at parsed
  cases parsed
  have whole : text = opening ++ (['-'] ++ closing) ++ rest := by
    rw [parts, body]
    simp only [List.append_assoc, List.cons_append, List.nil_append]
  refine ⟨_, whole, ?_, ?_, ?_⟩
  · exact ⟨braced text, opening, ['-'], closing, before, behind, rfl, .inl .nil⟩
  · rintro ⟨start, digit, after, cut, hex, rfl⟩
    have last := congrArg List.getLast? cut
    rw [← List.append_assoc] at last
    rcases last_letter _ closing ':' (last.trans (by simp)) with rfl | member
    · rw [List.append_nil, List.getLast?_concat] at last
      simp at last
    · exact Bool.noConfusion (closing_letters _ closing behind ':' member)
  · have front := solid_front text _ rest solid whole
    obtain ⟨same, shape⟩ := opening_again (braced text) opening (['-'] ++ closing) '-' before rfl rfl
    have letters := closing_letters (braced text) closing behind
    have stays : closing.head? ≠ some ':' := fun head => Bool.noConfusion (letters ':' (List.mem_of_head? head))
    have still : ¬ nextIsHex closing = true := by
      intro hex
      rw [nextIsHex, Option.any_eq_true] at hex
      obtain ⟨letter, head, digit⟩ := hex
      have own := letters letter (List.mem_of_head? head)
      rw [digit_body letter digit] at own
      cases own
    obtain ⟨_, endptr, refinished, _⟩ := finish_parts (braced text) (Vector.replicate 16 0) closing
    refine ⟨some endptr, ?_⟩
    rw [parse_solid _ front, parse_lone _ _ closing shape stays still, same]
    exact refinished

theorem empty_reports (body : opened text = []) (solid : '\x00' ∉ text) (guid : Guid)
    (rest : Text) (parsed : guidParse (depth + 1) text = ⟨true, guid, some rest⟩) :
    ∃ consumed, text = consumed ++ rest ∧ ExactlyConsumed consumed rest guid := by
  obtain ⟨opening, before, parts⟩ := opening_parts text
  have parse := parsed
  rw [parse_empty depth text body] at parsed
  obtain ⟨closing, other, finished, behind, none⟩ := finish_parts (braced text) (Vector.replicate 16 0) []
  obtain ⟨rfl, rfl⟩ := List.append_eq_nil_iff.mp none.symm
  rw [finished] at parsed
  cases parsed
  refine ⟨text, (List.append_nil text).symm, ?_, ?_, ?_⟩
  · refine ⟨braced text, opening, [], [], before, behind, ?_, .inr ⟨rfl, rfl, rfl⟩⟩
    rw [body] at parts
    exact parts
  · rintro ⟨_, _, _, _, _, none⟩
    cases none
  · refine ⟨some [], ?_⟩
    rw [parse_solid text solid, parse_empty _ text body, finished]

theorem hex_head_plain (tail : Text) (digit : isHexDigit letter = true) :
    ¬ Lone (letter :: tail) ∧ ¬ Marked (letter :: tail) := by
  have other : ∀ mark, isHexDigit mark = false → letter ≠ mark := by
    rintro mark foreign rfl
    rw [digit] at foreign
    cases foreign
  constructor
  · rintro ⟨head, _⟩
    exact other '-' rfl (Option.some.inj head)
  · rintro ⟨head | head, _⟩
    · exact other ':' rfl (Option.some.inj head)
    · exact other '*' rfl (Option.some.inj head)

theorem led_nothing (led : Led front left) (none : front = []) : left = [] := by
  cases led with
  | none => rfl
  | more => simp at none

theorem groups_some (front run : Text) (left : Bytes) (led : Led front left) (some : left ++ lastBytes run ≠ []) :
    front ++ run ≠ [] := by
  intro none
  obtain ⟨bare, rfl⟩ := List.append_eq_nil_iff.mp none
  rw [led_nothing front left led bare] at some
  exact some rfl

theorem whole_reports (some : opened text ≠ []) (lone : ¬ Lone (opened text))
    (marked : ¬ Marked (opened text)) (single : splitAtFill (opened text) = none) (solid : '\x00' ∉ text)
    (narrow : ¬ WideLast 16 (opened text)) (guid : Guid) (rest : Text)
    (parsed : guidParse (depth + 1) text = ⟨true, guid, .some rest⟩) :
    ∃ consumed, text = consumed ++ rest ∧ ExactlyConsumed consumed rest guid := by
  obtain ⟨opening, before, parts⟩ := opening_parts text
  obtain ⟨front, left, run, led, digits, inside, bytes, within, taken⟩ :=
    read_groups_parts UInt8.ofNat 16 16 (opened text) (Nat.le_refl 16) narrow
  rw [parse_whole depth text some lone marked single, bytes] at parsed
  generalize (readGroups UInt8.ofNat 16 16 (opened text)).2 = remaining at taken parsed
  by_cases full : (left ++ lastBytes run).length ≠ 16
  · rw [if_pos full] at parsed
    cases parsed
  rw [if_neg full] at parsed
  have sixteen := not_not.mp full
  obtain ⟨closing, other, finished, behind, rfl⟩ := finish_parts (braced text) (leading (left ++ lastBytes run)) remaining
  rw [finished] at parsed
  cases parsed
  obtain ⟨stops, quiet, colonless⟩ := closing_stops (braced text) closing behind
  have room : left.length < 16 := by
    rcases Nat.eq_zero_or_pos left.length with none | more
    · omega
    · exact inside more
  obtain ⟨letter, tail, text', digit⟩ := groups_head front run left led digits (groups_some front run left led (by
    intro none
    rw [none] at sixteen
    cases sixteen))
  have whole : text = opening ++ ((front ++ run) ++ closing) ++ rest := by
    rw [parts, taken]
    simp only [List.append_assoc]
  refine ⟨_, whole, ?_, ?_, ?_⟩
  · refine ⟨braced text, opening, _, closing, before, behind, rfl, .inl ?_⟩
    exact Denotes.whole _ _ ⟨front, left, run, led, digits, rfl, rfl⟩ sixteen
  · rintro ⟨start, first, after, cut, hex, rfl⟩
    have last := congrArg List.getLast? cut
    rw [← List.append_assoc] at last
    have closed : closing = [] := (last_letter _ closing ':' (last.trans (by simp))).resolve_right colonless
    subst closed
    have ending : (front ++ run).getLast? = .some ':' := by
      rw [List.append_nil, text', List.getLast?_append_cons, ← text'] at last
      exact last.trans (by simp)
    obtain ⟨body, colon⟩ := List.getLast?_eq_some_iff.mp ending
    apply split_some body after
    rw [taken, List.nil_append, ← List.append_assoc, colon, List.append_assoc] at single
    exact single
  · have solidFront := solid_front text _ rest solid whole
    have headed : front ++ run ++ closing = letter :: (tail ++ closing) := by rw [text', List.cons_append]
    obtain ⟨same, shape⟩ := opening_again (braced text) opening ((front ++ run) ++ closing) letter before
      (by rw [headed]; rfl) (digit_body letter digit)
    obtain ⟨notLone, notMarked⟩ := hex_head_plain letter (tail ++ closing) digit
    have again := groups_read UInt8.ofNat front run closing left led digits 16 stops quiet room within
    rw [← List.append_assoc] at again
    have still : splitAtFill (front ++ run ++ closing) = none := by
      apply split_whole _ _ _ colonless
      apply split_front _ (closing ++ rest)
      rw [List.append_assoc, ← taken]
      exact single
    obtain ⟨_, endptr, refinished, _⟩ := finish_parts (braced text) (leading (left ++ lastBytes run)) closing
    refine ⟨.some endptr, ?_⟩
    rw [parse_solid _ solidFront, parse_whole _ _ (by rw [shape, headed]; exact List.cons_ne_nil _ _)
      (by rw [shape, headed]; exact notLone) (by rw [shape, headed]; exact notMarked) (by rw [shape]; exact still),
      shape, again, if_neg full, same]
    exact refinished

theorem clear_reports (clear : Clear (opened text)) (solid : '\x00' ∉ text) (guid : Guid)
    (rest : Text) (parsed : guidParse (depth + 1) text = ⟨true, guid, some rest⟩) :
    ∃ consumed, text = consumed ++ rest ∧ ExactlyConsumed consumed rest guid := by
  by_cases none : opened text = []
  · exact empty_reports depth text none solid guid rest parsed
  by_cases filled : ∃ mark fill input, FillMark mark fill ∧ opened text = mark :: ':' :: input
  · obtain ⟨mark, fill, input, known, body⟩ := filled
    obtain ⟨narrow, unfilled⟩ := clear.filled mark fill input known body
    exact filled_reports depth text input mark fill known body solid narrow unfilled guid rest parsed
  have marked : ¬ Marked (opened text) := by
    rintro ⟨star, colon⟩
    obtain ⟨letter, tail, body⟩ := List.exists_cons_of_ne_nil none
    rw [body] at star colon
    obtain ⟨input, rfl⟩ := List.head?_eq_some_iff.mp colon
    exact filled ⟨letter, 0xff, input, .inr ⟨by simpa using star, rfl⟩, body⟩
  by_cases lone : Lone (opened text)
  · obtain ⟨input, body⟩ := List.head?_eq_some_iff.mp lone.1
    have foreign := lone.2
    rw [body] at foreign
    refine lone_reports depth text input body ?_ foreign solid guid rest parsed
    intro colon
    obtain ⟨tail, rfl⟩ := List.head?_eq_some_iff.mp colon
    exact filled ⟨'-', 0, tail, .inl ⟨rfl, rfl⟩, body⟩
  · have single : splitAtFill (opened text) = .none := by
      cases split : splitAtFill (opened text) with
      | none => rfl
      | some parts =>
          exact absurd ⟨⟨parts.1, parts.2, split_parts _ _ _ split⟩, lone, marked⟩ clear.single
    exact whole_reports depth text none lone marked single solid clear.narrow guid rest parsed

end Vscp
