import Vscp.GuidConsumed

set_option autoImplicit false

namespace Vscp

open NumberText
open RemoteTcp (Text)

variable (body : Text) (braces : Bool) (depth : Nat) (text : Text) (bytes : Bytes)

theorem groups_letters (groups : Groups text bytes) :
    ∀ letter ∈ text, bodyLetter letter = true := by
  obtain ⟨front, left, run, led, digits, rfl, _⟩ := groups
  intro letter member
  rcases List.mem_append.mp member with first | last
  · exact led_letters front left led letter first
  · exact digit_body letter (digits letter last)

theorem groups_hex_head (groups : Groups text bytes) (some : bytes ≠ []) :
    ∃ letter tail, text = letter :: tail ∧ isHexDigit letter = true := by
  obtain ⟨front, left, run, led, digits, rfl, rfl⟩ := groups
  exact groups_head front run left led digits (groups_some front run left led some)

variable (guid : Guid)

theorem denotes_letters (denotes : Denotes body guid) :
    ∀ letter ∈ body, bodyLetter letter = true := by
  cases denotes with
  | whole text bytes groups full => exact groups_letters body bytes groups
  | filled mark fill text bytes known groups few =>
      intro letter member
      rcases List.mem_cons.mp member with rfl | later
      · exact (fill_mark_body letter fill known).1
      · rcases List.mem_cons.mp later with rfl | later
        · rfl
        · exact groups_letters text bytes groups letter later
  | between front back left right first second someLeft someRight few =>
      intro letter member
      rcases List.mem_append.mp member with inFront | later
      · exact groups_letters front left first letter inFront
      · rcases List.mem_cons.mp later with rfl | later
        · rfl
        · rcases List.mem_cons.mp later with rfl | later
          · rfl
          · exact groups_letters back right second letter later
  | nil =>
      intro letter member
      cases List.mem_singleton.mp member
      rfl

theorem denotes_some (denotes : Denotes body guid) : body ≠ [] := by
  cases denotes with
  | whole text bytes groups full =>
      have some : bytes ≠ [] := by
        rintro rfl
        cases full
      obtain ⟨letter, tail, rfl, _⟩ := groups_hex_head body bytes groups some
      exact List.cons_ne_nil _ _
  | filled mark fill text bytes known groups few => exact List.cons_ne_nil _ _
  | between front back left right first second someLeft someRight few => simp
  | nil => exact List.cons_ne_nil _ _

theorem body_filter (opening body closing : Text) (before : Opening braces opening)
    (behind : Closing braces closing) (own : ∀ letter ∈ body, bodyLetter letter = true) :
    (opening ++ (body ++ closing)).filter bodyLetter = body := by
  have outside := around_letters braces opening closing before behind
  have first : opening.filter bodyLetter = [] := by
    apply List.filter_eq_nil_iff.mpr
    intro letter member
    rw [outside letter (List.mem_append_left _ member)]
    exact Bool.false_ne_true
  have last : closing.filter bodyLetter = [] := by
    apply List.filter_eq_nil_iff.mpr
    intro letter member
    rw [outside letter (List.mem_append_right _ member)]
    exact Bool.false_ne_true
  rw [List.filter_append, List.filter_append, first, last, List.filter_eq_self.mpr own, List.append_nil, List.nil_append]

theorem reads_body (opening body closing rest : Text) (guid : Guid) (before : Opening braces opening)
    (behind : Closing braces closing) (own : ∀ letter ∈ body, bodyLetter letter = true)
    (reads : Reads (opening ++ (body ++ closing)) rest guid) : Denotes body guid ∨ (body = [] ∧ rest = []) := by
  obtain ⟨other, opening', body', closing', before', behind', same, found⟩ := reads
  have mine := body_filter braces opening body closing before behind own
  rcases found with denotes | ⟨rfl, ended, _⟩
  · have theirs := body_filter other opening' body' closing' before' behind' (denotes_letters body' guid denotes)
    rw [← same, mine] at theirs
    rw [theirs]
    exact .inl denotes
  · have theirs := body_filter other opening' [] closing' before' behind' (List.forall_mem_nil _)
    rw [← same, mine] at theirs
    exact .inr ⟨theirs, ended⟩

-- The text is accepted, but what is reported is not what the GUID was read from.
def Misreported (depth : Nat) (text : Text) : Prop :=
  ∃ guid rest, guidParse (depth + 1) text = ⟨true, guid, some rest⟩ ∧
    ∀ consumed, text = consumed ++ rest → ¬ ExactlyConsumed consumed rest guid

theorem between_misreported (fill : FillBetween (opened text)) : Misreported depth text := by
  obtain ⟨opening, before, parts⟩ := opening_parts text
  obtain ⟨guid, parsed⟩ := parse_between depth text fill
  obtain ⟨closing, rest, finished, behind, body⟩ := finish_parts (braced text) guid (opened text)
  refine ⟨guid, rest, parsed.trans finished, ?_⟩
  intro consumed whole exactly
  rw [parts, body, ← List.append_assoc] at whole
  have same := List.append_cancel_right whole
  have reads := exactly.reads
  rw [← same, ← List.nil_append closing] at reads
  rcases reads_body _ opening [] closing rest guid before behind (List.forall_mem_nil _) reads with denotes | ⟨_, rfl⟩
  · exact denotes_some [] guid denotes rfl
  · obtain ⟨⟨front, back, colons⟩, _⟩ := fill
    rw [List.append_nil] at body
    apply (closing_stops (braced text) closing behind).2.2
    rw [← body, colons]
    simp

theorem wide_read (lastByte : Nat → UInt8) (front run rest : Text) (left : Bytes) (led : Led front left)
    (full : left.length + 1 = 16) (digits : Digits run) (three : 3 ≤ run.length) (four : run.length ≤ 4)
    (ends : rest.takeWhile isHexDigit = []) :
    readGroups lastByte 16 16 (front ++ (run ++ rest)) = (left ++ [lastByte (digitsValue 16 run)], rest) := by
  have one : 16 - left.length = 1 := by omega
  have parts := run_parts run rest digits ends
  have some : run ≠ [] := by
    rintro rfl
    cases three
  have group : readGroup lastByte 1 (run ++ rest) = ([lastByte (digitsValue 16 run)], rest) := by
    simp only [readGroup, parts.1, parts.2, if_neg (show ¬ run.length ≤ 2 by omega), if_pos four, Nat.lt_irrefl, if_false]
  have single : readGroups lastByte 1 1 (run ++ rest) = ([lastByte (digitsValue 16 run)], rest) := by
    rw [readGroups, if_neg (by rw [parts.1]; simp [some]), group]
    rfl
  rw [led_read lastByte front left led 16 _ (by omega), one, single]

theorem wide_not_denoted (front run : Text) (left bytes : Bytes) (led : Led front left) (full : left.length + 1 = 16)
    (digits : Digits run) (three : 3 ≤ run.length) (groups : Groups (front ++ run) bytes) : 16 < bytes.length := by
  have own : Groups (front ++ run) (left ++ lastBytes run) := ⟨front, left, run, led, digits, rfl, rfl⟩
  have some : run ≠ [] := by
    rintro rfl
    cases three
  rw [groups_unique _ _ _ groups own, lastBytes, if_neg some, List.length_append, run_bytes_length run some]
  omega

theorem hex_body (denotes : Denotes text guid) (letter : Char) (tail : Text)
    (headed : text = letter :: tail) (digit : isHexDigit letter = true) (single : splitAtFill text = none) :
    ∃ bytes, Groups text bytes ∧ bytes.length = 16 := by
  cases denotes with
  | whole _ bytes groups full => exact ⟨bytes, groups, full⟩
  | filled mark fill _ bytes known groups few =>
      cases headed
      rw [(fill_mark_body letter fill known).2] at digit
      cases digit
  | between front back => exact absurd single (split_some front back)
  | nil =>
      cases headed
      cases digit

theorem wide_misreported (wide : WideLast 16 (opened text))
    (unfilled : ¬ FillBetween (opened text)) : Misreported depth text := by
  obtain ⟨opening, before, parts⟩ := opening_parts text
  obtain ⟨front, left, run, remaining, led, full, digits, three, four, ends, body⟩ := wide
  have some : front ++ run ≠ [] := by
    intro none
    rw [(List.append_eq_nil_iff.mp none).2] at three
    cases three
  obtain ⟨letter, tail, headed, digit⟩ := groups_head front run left led digits some
  have shape : opened text = letter :: (tail ++ remaining) := by
    rw [body, ← List.append_assoc, headed, List.cons_append]
  obtain ⟨lone, marked⟩ := hex_head_plain letter (tail ++ remaining) digit
  rw [← shape] at lone marked
  have single : splitAtFill (opened text) = none := by
    cases split : splitAtFill (opened text) with
    | none => rfl
    | some parts => exact absurd ⟨⟨parts.1, parts.2, split_parts _ _ _ split⟩, lone, marked⟩ unfilled
  have sixteen : ¬ (left ++ [UInt8.ofNat (digitsValue 16 run)]).length ≠ 16 := by
    rw [List.length_append, List.length_singleton, full]
    exact not_not.mpr rfl
  obtain ⟨closing, rest, finished, behind, rfl⟩ :=
    finish_parts (braced text) (leading (left ++ [UInt8.ofNat (digitsValue 16 run)])) remaining
  refine ⟨leading (left ++ [UInt8.ofNat (digitsValue 16 run)]), rest, ?_, ?_⟩
  · rw [parse_whole depth text (by rw [shape]; exact List.cons_ne_nil _ _) lone marked single, body,
      wide_read UInt8.ofNat front run _ left led full digits three four ends, if_neg sixteen]
    exact finished
  intro consumed whole exactly
  have arranged : text = opening ++ ((front ++ run) ++ closing) ++ rest := by
    rw [parts, body]
    simp only [List.append_assoc]
  rw [arranged] at whole
  have reads := exactly.reads
  rw [← List.append_cancel_right whole] at reads
  have letters : ∀ letter ∈ front ++ run, bodyLetter letter = true :=
    groups_letters (front ++ run) _ ⟨front, left, run, led, digits, rfl, rfl⟩
  rcases reads_body _ opening (front ++ run) closing rest _ before behind letters reads with denotes | ⟨none, _⟩
  · have closed : splitAtFill (front ++ run) = none := by
      apply split_front _ (closing ++ rest)
      rw [List.append_assoc, ← body]
      exact single
    obtain ⟨bytes, others, few⟩ := hex_body _ _ denotes letter tail headed digit closed
    have more := wide_not_denoted front run left bytes led full digits three others
    omega
  · exact some none

theorem filled_body (mark : Char) (fill : UInt8) (known : FillMark mark fill) (text : Text) (guid : Guid)
    (denotes : Denotes (mark :: ':' :: text) guid) : ∃ bytes, Groups text bytes ∧ bytes.length ≤ 16 := by
  have foreign := (fill_mark_body mark fill known).2
  have headless : ∀ front bytes rest, Groups front bytes → bytes ≠ [] → mark :: ':' :: text ≠ front ++ rest := by
    intro front bytes rest groups some same
    obtain ⟨letter, tail, rfl, digit⟩ := groups_hex_head front bytes groups some
    rw [(List.cons.inj same).1, digit] at foreign
    cases foreign
  generalize inner : mark :: ':' :: text = read at denotes
  cases denotes with
  | whole _ bytes groups full =>
      have some : bytes ≠ [] := by
        rintro rfl
        cases full
      exact absurd (inner.trans (List.append_nil _).symm) (headless _ bytes [] groups some)
  | filled mark' fill' text' bytes known' groups few =>
      cases inner
      exact ⟨bytes, groups, few⟩
  | between first back left right groups _ some _ _ => exact absurd inner (headless first left _ groups some)
  | nil => cases inner

theorem filled_wide_misreported (text input : Text) (mark : Char) (fill : UInt8)
    (known : FillMark mark fill) (body : opened text = mark :: ':' :: input) (wide : WideLast 16 input) :
    Misreported depth text := by
  obtain ⟨opening, before, parts⟩ := opening_parts text
  obtain ⟨front, left, run, remaining, led, full, digits, three, four, ends, rfl⟩ := wide
  have read := wide_read (fun value => UInt8.ofNat (value / 256)) front run remaining left led full digits three four ends
  obtain ⟨closing, rest, finished, behind, rfl⟩ := finish_parts (braced text)
    (trailing fill (left ++ [UInt8.ofNat (digitsValue 16 run / 256)])) remaining
  refine ⟨trailing fill (left ++ [UInt8.ofNat (digitsValue 16 run / 256)]), rest, ?_, ?_⟩
  · rw [parse_filled depth text _ mark fill known body, parseGroups, read]
    exact finished
  intro consumed whole exactly
  have arranged : text = opening ++ ((mark :: ':' :: (front ++ run)) ++ closing) ++ rest := by
    rw [parts, body]
    simp only [List.append_assoc, List.cons_append]
  rw [arranged] at whole
  have reads := exactly.reads
  rw [← List.append_cancel_right whole] at reads
  have groups : Groups (front ++ run) (left ++ lastBytes run) := ⟨front, left, run, led, digits, rfl, rfl⟩
  have letters : ∀ letter ∈ mark :: ':' :: (front ++ run), bodyLetter letter = true := by
    intro letter member
    rcases List.mem_cons.mp member with rfl | later
    · exact (fill_mark_body letter fill known).1
    · rcases List.mem_cons.mp later with rfl | later
      · rfl
      · exact groups_letters _ _ groups letter later
  rcases reads_body _ opening _ closing rest _ before behind letters reads with denotes | ⟨none, _⟩
  · obtain ⟨bytes, others, few⟩ := filled_body mark fill known _ _ denotes
    have more := wide_not_denoted front run left bytes led full digits three others
    omega
  · cases none

theorem filled_again_misreported (text input : Text) (mark : Char) (fill : UInt8)
    (known : FillMark mark fill) (body : opened text = mark :: ':' :: input) (again : FillBehind 16 input) :
    Misreported depth text := by
  obtain ⟨opening, before, parts⟩ := opening_parts text
  obtain ⟨front, left, remaining, led, room, rfl⟩ := again
  obtain ⟨start, digit, separator, ending, hex, _⟩ := (led_end _ left led).resolve_left (by simp)
  have split : start ++ [digit, separator] = (start ++ [digit]) ++ [separator] := by
    rw [List.append_assoc]
    rfl
  rw [split] at ending
  obtain ⟨rfl, colon⟩ := List.append_inj' ending rfl
  have read : parseGroups (start ++ [digit] ++ ':' :: ':' :: remaining) = (left, ':' :: remaining) := by
    have text' : start ++ [digit] ++ ':' :: ':' :: remaining = (start ++ [digit] ++ [':']) ++ (':' :: remaining) := by
      simp only [List.append_assoc, List.cons_append, List.nil_append]
    rw [parseGroups, text', led_read _ _ left led 16 _ room,
      read_groups_ended _ _ _ _ (.inr (separator_stops ':' remaining (.inl rfl))), List.append_nil]
  have finished : finish (braced text) (trailing fill left) (':' :: remaining) =
      ⟨true, trailing fill left, some (':' :: remaining)⟩ := by
    cases braced text <;> rfl
  refine ⟨trailing fill left, ':' :: remaining, ?_, ?_⟩
  · rw [parse_filled depth text _ mark fill known body, read]
    exact finished
  intro consumed whole exactly
  apply exactly.uncut
  refine ⟨opening ++ (mark :: ':' :: start), digit, remaining, ?_, hex, rfl⟩
  have arranged : text = (opening ++ (mark :: ':' :: start) ++ [digit, ':']) ++ (':' :: remaining) := by
    rw [parts, body]
    simp only [List.append_assoc, List.cons_append, List.nil_append]
  rw [arranged] at whole
  exact (List.append_cancel_right whole).symm

variable (strguid : Text)

theorem text_solid : '\x00' ∉ strguid.takeWhile (· ≠ '\x00') := by
  intro member
  have kept := List.mem_takeWhile_imp member
  simp at kept

theorem reports_clear (reports : ReportsConsumed strguid) :
    Clear (opened (strguid.takeWhile (· ≠ '\x00'))) := by
  have exact' : ¬ Misreported (strguid.takeWhile (· ≠ '\x00')).length (strguid.takeWhile (· ≠ '\x00')) := by
    rintro ⟨guid, rest, parsed, wrong⟩
    obtain ⟨consumed, parts, exactly⟩ := reports guid rest parsed
    exact wrong consumed parts exactly
  have single : ¬ FillBetween (opened (strguid.takeWhile (· ≠ '\x00'))) :=
    fun fill => exact' (between_misreported _ _ fill)
  refine ⟨single, fun wide => exact' (wide_misreported _ _ wide single), ?_⟩
  intro mark fill input known body
  exact ⟨fun wide => exact' (filled_wide_misreported _ _ input mark fill known body wide),
    fun again => exact' (filled_again_misreported _ _ input mark fill known body again)⟩

theorem consumed_reported_iff (strguid : Text) :
    ReportsConsumed strguid ↔ Clear (opened (strguid.takeWhile (· ≠ '\x00'))) := by
  constructor
  · exact reports_clear strguid
  · intro clear guid rest parsed
    exact clear_reports _ _ clear (text_solid strguid) guid rest parsed

-- With a "::" in the middle nothing is reported as consumed.
theorem middle_fill_not_reported : ¬ ∀ strguid, ReportsConsumed strguid := by
  intro every
  have clear := reports_clear ['0', '1', ':', ':', '0', '2'] (every _)
  apply clear.single
  refine ⟨⟨['0', '1'], ['0', '2'], rfl⟩, ?_, ?_⟩
  · rintro ⟨dash, _⟩
    cases dash
  · rintro ⟨colon | star, _⟩
    · cases colon
    · cases star

end Vscp
