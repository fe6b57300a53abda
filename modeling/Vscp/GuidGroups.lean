import Vscp.GuidText

set_option autoImplicit false

namespace Vscp

open NumberText
open RemoteTcp (Text)

def Digits (text : Text) : Prop := ∀ letter ∈ text, isHexDigit letter = true

def Separator (letter : Char) : Prop := letter = ':' ∨ letter = '-' ∨ letter = ','

inductive Led : Text → Bytes → Prop
  | none : Led [] []
  | more (run rest : Text) (mark : Char) (bytes : Bytes) (some : run ≠ []) (digits : Digits run)
      (separates : Separator mark) (later : Led rest bytes) : Led (run ++ mark :: rest) (runBytes run ++ bytes)

def lastBytes (run : Text) : Bytes := if run = [] then [] else runBytes run

def Groups (text : Text) (bytes : Bytes) : Prop :=
  ∃ front left run, Led front left ∧ Digits run ∧ text = front ++ run ∧ bytes = left ++ lastBytes run

def WideLast (room : Nat) (text : Text) : Prop :=
  ∃ front left run rest, Led front left ∧ left.length + 1 = room ∧ Digits run ∧ 3 ≤ run.length ∧ run.length ≤ 4 ∧
    rest.takeWhile isHexDigit = [] ∧ text = front ++ (run ++ rest)

def FillBehind (room : Nat) (text : Text) : Prop :=
  ∃ front left rest, Led (front ++ [':']) left ∧ left.length < room ∧ text = front ++ ':' :: ':' :: rest

variable (mark : Char)

theorem separator_no_digit (separates : Separator mark) : isHexDigit mark = false := by
  rcases separates with rfl | rfl | rfl <;> rfl

theorem separator_stops (rest : Text) (separates : Separator mark) :
    (mark :: rest).takeWhile isHexDigit = [] := by
  rw [List.takeWhile_cons_of_neg]
  rw [separator_no_digit mark separates]
  exact Bool.false_ne_true

theorem hex_pairs_some (count : Nat) (input : Text) (positive : 0 < count) (some : input ≠ []) :
    (hexPairs count input).1 ≠ [] := by
  obtain ⟨rest, rfl⟩ := Nat.exists_eq_add_of_lt positive
  rw [Nat.zero_add]
  cases input with
  | nil => exact absurd rfl some
  | cons high input => exact List.cons_ne_nil _ _

variable (lastByte : Nat → UInt8)

theorem read_group_some (room : Nat) (input : Text) (positive : 0 < room)
    (some : input.takeWhile isHexDigit ≠ []) : (readGroup lastByte room input).1 ≠ [] := by
  have digits := List.length_pos_iff.mpr some
  have text : input ≠ [] := by
    rintro rfl
    exact some rfl
  simp only [readGroup]
  split
  · exact List.cons_ne_nil _ _
  · split
    · split <;> exact List.cons_ne_nil _ _
    · exact hex_pairs_some _ _ (by omega) text

theorem read_groups_rounds (rounds more room : Nat) (input : Text) (enough : room ≤ rounds)
    (also : room ≤ more) : readGroups lastByte rounds room input = readGroups lastByte more room input := by
  induction rounds generalizing more room input with
  | zero =>
      rw [Nat.le_zero.mp enough]
      cases more <;> simp [readGroups]
  | succ rounds ih =>
      by_cases ended : room = 0 ∨ input.takeWhile isHexDigit = []
      · cases more with
        | zero => rw [readGroups, readGroups, if_pos ended]
        | succ more => rw [readGroups, readGroups, if_pos ended, if_pos ended]
      · obtain ⟨open_, some⟩ := not_or.mp ended
        cases more with
        | zero => exact absurd (Nat.le_zero.mp also) open_
        | succ more =>
            have taken := List.length_pos_iff.mpr
              (read_group_some lastByte room input (Nat.pos_of_ne_zero open_) some)
            rw [readGroups, readGroups, if_neg ended, if_neg ended]
            simp only
            rw [ih more _ _ (by omega) (by omega)]

variable (run : Text)

theorem run_needs_room (some : run ≠ []) : 0 < (runBytes run).length := by
  have positive := List.length_pos_iff.mpr some
  rw [run_bytes_length run some]
  omega

theorem led_read (front : Text) (left : Bytes) (led : Led front left) (room : Nat)
    (input : Text) (inside : left.length < room) :
    readGroups lastByte room room (front ++ input) =
      (left ++ (readGroups lastByte (room - left.length) (room - left.length) input).1,
        (readGroups lastByte (room - left.length) (room - left.length) input).2) := by
  induction led generalizing room with
  | none => rfl
  | more run rest mark bytes some digits separates later ih =>
      rw [List.length_append] at inside
      have positive := run_needs_room run some
      have length := run_bytes_length run some
      have stops := separator_stops mark (rest ++ input) separates
      obtain ⟨room, rfl⟩ : ∃ fewer, room = fewer + 1 := ⟨room - 1, by omega⟩
      have group := read_group_whole lastByte (room + 1) run (mark :: (rest ++ input)) digits stops (by omega)
      have parts := run_parts run (mark :: (rest ++ input)) digits stops
      have deeper := ih (room + 1 - (runBytes run).length) (by omega)
      have same : room + 1 - (runBytes run).length - bytes.length = room + 1 - (runBytes run ++ bytes).length := by
        rw [List.length_append]
        omega
      rw [same] at deeper
      rw [List.append_assoc, List.cons_append, readGroups, if_neg (by rw [parts.1]; simp [some]), group]
      have space : 0 < room + 1 - (runBytes run).length := by omega
      have marked : mark = ':' ∨ mark = '-' ∨ mark = ',' := separates
      simp only [List.head?_cons, Option.some.injEq, space, marked, and_self, if_true, List.drop_one, List.tail_cons]
      rw [read_groups_rounds lastByte room (room + 1 - (runBytes run).length) _ _ (by omega) (by omega), deeper]
      simp only [List.append_assoc]

theorem last_read (digits : Digits run) (room : Nat) (input : Text)
    (ends : input.takeWhile isHexDigit = []) (fits : (lastBytes run).length ≤ room)
    (quiet : ∀ mark, input.head? = some mark → ¬ Separator mark) :
    readGroups lastByte room room (run ++ input) = (lastBytes run, input) := by
  have stopped : ∀ rounds room, readGroups lastByte rounds room input = ([], input) := by
    intro rounds room
    cases rounds with
    | zero => rfl
    | succ rounds => rw [readGroups, if_pos (.inr ends)]
  by_cases none : run = []
  · rw [none, List.nil_append, stopped]
    rfl
  · have length := run_bytes_length run none
    have positive := run_needs_room run none
    rw [lastBytes, if_neg none] at fits ⊢
    obtain ⟨room, rfl⟩ : ∃ fewer, room = fewer + 1 := ⟨room - 1, by omega⟩
    have group := read_group_whole lastByte (room + 1) run input digits ends (by omega)
    rw [readGroups, if_neg (by rw [(run_parts run input digits ends).1]; simp [none]), group]
    have unseparated : ¬ (0 < room + 1 - (runBytes run).length ∧
        (input.head? = some ':' ∨ input.head? = some '-' ∨ input.head? = some ',')) := by
      rintro ⟨_, colon | dash | comma⟩
      · exact quiet ':' colon (.inl rfl)
      · exact quiet '-' dash (.inr (.inl rfl))
      · exact quiet ',' comma (.inr (.inr rfl))
    simp only [if_neg unseparated, stopped, List.append_nil]

theorem groups_read (front run input : Text) (left : Bytes) (led : Led front left)
    (digits : Digits run) (room : Nat) (ends : input.takeWhile isHexDigit = [])
    (quiet : ∀ mark, input.head? = some mark → ¬ Separator mark) (inside : left.length < room)
    (fits : left.length + (lastBytes run).length ≤ room) :
    readGroups lastByte room room (front ++ (run ++ input)) = (left ++ lastBytes run, input) := by
  rw [led_read lastByte front left led room _ inside,
    last_read lastByte run digits (room - left.length) input ends (by omega) quiet]

theorem groups_unique (text : Text) (bytes others : Bytes) (first : Groups text bytes) (second : Groups text others) :
    bytes = others := by
  obtain ⟨front, left, run, led, digits, text1, rfl⟩ := first
  obtain ⟨front', left', run', led', digits', text2, rfl⟩ := second
  have ends : ([] : Text).takeWhile isHexDigit = [] := rfl
  have quiet : ∀ mark, ([] : Text).head? = some mark → ¬ Separator mark := by
    intro mark none
    cases none
  have read := groups_read UInt8.ofNat front run [] left led digits
    ((left ++ lastBytes run).length + (left' ++ lastBytes run').length + 1) ends quiet
    (by simp only [List.length_append]; omega) (by simp only [List.length_append]; omega)
  have again := groups_read UInt8.ofNat front' run' [] left' led' digits'
    ((left ++ lastBytes run).length + (left' ++ lastBytes run').length + 1) ends quiet
    (by simp only [List.length_append]; omega) (by simp only [List.length_append]; omega)
  rw [List.append_nil, ← text1] at read
  rw [List.append_nil, ← text2, read] at again
  exact (Prod.mk.inj again).1

theorem hex_value_bound (letter : Char) (digit : isHexDigit letter = true) :
    ∃ value < 16, digitValue letter = some value ∧ hexToVal letter = UInt8.ofNat value := by
  have known := digit
  rw [isHexDigit, isDigitOf, Option.any_eq_true] at known
  obtain ⟨value, same, small⟩ := known
  refine ⟨value, of_decide_eq_true small, same, ?_⟩
  rw [hexToVal, if_pos digit, same, Option.getD_some]

theorem two_digit_byte (high low : Char) (first : isHexDigit high = true) (second : isHexDigit low = true) (upper : Nat) :
    UInt8.ofNat ((upper * 16 + (digitValue high).getD 0) * 16 + (digitValue low).getD 0) =
      (hexToVal high <<< 4) ||| hexToVal low := by
  have each : ∀ high < 16, ∀ low < 16,
      UInt8.ofNat (high * 16 + low) = (UInt8.ofNat high <<< 4) ||| UInt8.ofNat low := by decide
  obtain ⟨left, small, same, value⟩ := hex_value_bound high first
  obtain ⟨right, few, also, other⟩ := hex_value_bound low second
  rw [value, other, ← each left small right few, same, also, Option.getD_some, Option.getD_some]
  apply UInt8.toNat_inj.mp
  simp only [UInt8.toNat_ofNat']
  omega

theorem run_bytes_even (digits : Digits run) (some : run ≠ []) (even : run.length % 2 = 0) :
    runBytes run = pairBytes run := by
  match run with
  | [] => exact absurd rfl some
  | [_] => simp at even
  | [high, low] =>
      have byte := two_digit_byte high low (digits high (by simp)) (digits low (by simp)) 0
      rw [Nat.zero_mul, Nat.zero_add] at byte
      simpa [runBytes, pairBytes, digitsValue] using byte
  | [_, _, _] => simp at even
  | [first, second, third, fourth] =>
      have left := two_digit_byte first second (digits first (by simp)) (digits second (by simp)) 0
      have right := two_digit_byte third fourth (digits third (by simp)) (digits fourth (by simp))
        ((digitValue first).getD 0 * 16 + (digitValue second).getD 0)
      obtain ⟨value, small, same, _⟩ := hex_value_bound third (digits third (by simp))
      obtain ⟨other, few, also, _⟩ := hex_value_bound fourth (digits fourth (by simp))
      have upper : digitsValue 16 [first, second, third, fourth] / 256 =
          (0 * 16 + (digitValue first).getD 0) * 16 + (digitValue second).getD 0 := by
        simp only [digitsValue, List.foldl_cons, List.foldl_nil, same, also, Option.getD_some]
        omega
      have whole : digitsValue 16 [first, second, third, fourth] =
          (((digitValue first).getD 0 * 16 + (digitValue second).getD 0) * 16 + (digitValue third).getD 0) * 16 +
            (digitValue fourth).getD 0 := by
        simp only [digitsValue, List.foldl_cons, List.foldl_nil, Nat.zero_mul, Nat.zero_add]
      rw [runBytes, if_neg (by simp), if_pos (by simp), upper, left, whole, right]
      rfl
  | first :: second :: third :: fourth :: fifth :: rest =>
      rw [runBytes, if_neg (by simp), if_neg (by simp)]

theorem even_part (digits : Digits run) (room : Nat) (positive : 0 < room)
    (long : 2 * room ≤ run.length) :
    lastBytes (run.take (2 * room)) = pairBytes (run.take (2 * room)) ∧ (pairBytes (run.take (2 * room))).length = room := by
  have length : (run.take (2 * room)).length = 2 * room := List.length_take_of_le long
  have some : run.take (2 * room) ≠ [] := by
    intro none
    rw [none, List.length_nil] at length
    omega
  rw [lastBytes, if_neg some, run_bytes_even _ (fun letter member => digits letter (List.mem_of_mem_take member)) some
    (by omega)]
  refine ⟨rfl, ?_⟩
  rw [pair_bytes_length, length]
  omega

variable (rounds room : Nat) (input : Text)

theorem run_ends : (input.dropWhile isHexDigit).takeWhile isHexDigit = [] := by
  induction input with
  | nil => rfl
  | cons letter input ih =>
      by_cases digit : isHexDigit letter = true
      · rw [List.dropWhile_cons_of_pos digit]
        exact ih
      · rw [List.dropWhile_cons_of_neg digit, List.takeWhile_cons_of_neg digit]

theorem read_groups_ended (ended : room = 0 ∨ input.takeWhile isHexDigit = []) : readGroups lastByte rounds room input = ([], input) := by
  cases rounds with
  | zero => rfl
  | succ rounds => rw [readGroups, if_pos ended]

theorem read_group_part (room : Nat) (run rest : Text) (digits : Digits run)
    (ends : rest.takeWhile isHexDigit = []) (long : 4 < run.length) (short : room < (run.length + 1) / 2) :
    readGroup lastByte room (run ++ rest) = (pairBytes (run.take (2 * room)), run.drop (2 * room) ++ rest) := by
  have least : min ((run.length + 1) / 2) room = room := Nat.min_eq_right (Nat.le_of_lt short)
  rw [readGroup, (run_parts run rest digits ends).1]
  simp only [if_neg (show ¬ run.length ≤ 2 by omega), if_neg (show ¬ run.length ≤ 4 by omega), least]
  exact hex_pairs_run room run rest digits ends (by omega)

theorem read_groups_parts (enough : room ≤ rounds)
    (narrow : ¬ WideLast room input) :
    ∃ front left run, Led front left ∧ Digits run ∧ (0 < left.length → left.length < room) ∧
      (readGroups lastByte rounds room input).1 = left ++ lastBytes run ∧
      left.length + (lastBytes run).length ≤ room ∧
      input = front ++ (run ++ (readGroups lastByte rounds room input).2) := by
  induction rounds generalizing room input with
  | zero => exact ⟨[], [], [], .none, List.forall_mem_nil _, fun some => absurd some (Nat.lt_irrefl 0), rfl, Nat.zero_le _, rfl⟩
  | succ rounds ih =>
      by_cases ended : room = 0 ∨ input.takeWhile isHexDigit = []
      · rw [read_groups_ended lastByte _ room input ended]
        exact ⟨[], [], [], .none, List.forall_mem_nil _, fun some => absurd some (Nat.lt_irrefl 0), rfl, Nat.zero_le _, rfl⟩
      obtain ⟨space, some⟩ := not_or.mp ended
      have digits : Digits (input.takeWhile isHexDigit) := fun letter member => List.mem_takeWhile_imp member
      have ends := run_ends input
      have text : input.takeWhile isHexDigit ++ input.dropWhile isHexDigit = input := List.takeWhile_append_dropWhile
      generalize input.takeWhile isHexDigit = run at some digits text ended
      generalize input.dropWhile isHexDigit = rest at ends text
      have positive := List.length_pos_iff.mpr some
      have length := run_bytes_length run some
      have whole : lastBytes run = runBytes run := if_neg some
      rw [readGroups, if_neg (by rw [← text, (run_parts run rest digits ends).1]; exact ended), ← text]
      by_cases fits : (run.length + 1) / 2 ≤ room
      · rw [read_group_whole lastByte room run rest digits ends fits]
        by_cases separated : 0 < room - (runBytes run).length ∧
            (rest.head? = .some ':' ∨ rest.head? = .some '-' ∨ rest.head? = .some ',')
        · obtain ⟨mark, behind, rfl, separates⟩ : ∃ mark behind, rest = mark :: behind ∧ Separator mark := by
            cases rest with
            | nil => rcases separated.2 with none | none | none <;> cases none
            | cons mark behind => exact ⟨mark, behind, rfl, by simpa [Separator] using separated.2⟩
          have further : ¬ WideLast (room - (runBytes run).length) behind := by
            rintro ⟨front, left, wide, after, led, full, hex, three, four, stops, same⟩
            refine narrow ⟨run ++ mark :: front, runBytes run ++ left, wide, after,
              .more run front mark left some digits separates led, ?_, hex, three, four, stops, ?_⟩
            · rw [List.length_append]
              omega
            · rw [← text, same, List.append_assoc, List.cons_append]
          obtain ⟨front, left, last, led, hex, inside, bytes, within, parts⟩ := ih _ behind (by omega) further
          simp only [if_pos separated, List.drop_one, List.tail_cons]
          refine ⟨run ++ mark :: front, runBytes run ++ left, last,
            .more run front mark left some digits separates led, hex, ?_, ?_, ?_, ?_⟩
          · intro _
            rw [List.length_append]
            have own := separated.1
            rcases Nat.eq_zero_or_pos left.length with none | more
            · omega
            · have deeper := inside more
              omega
          · rw [bytes, List.append_assoc]
          · rw [List.length_append]
            omega
          · rw [List.append_assoc, List.cons_append, ← parts]
        · simp only [if_neg separated]
          rw [read_groups_ended lastByte rounds _ rest (.inr ends)]
          refine ⟨[], [], run, .none, digits, fun some => absurd some (Nat.lt_irrefl 0), ?_, ?_, rfl⟩
          · rw [List.append_nil, List.nil_append, whole]
          · rw [whole, List.length_nil]
            omega
      · have long : 4 < run.length := by
          by_contra short
          apply narrow
          exact ⟨[], [], run, rest, .none, by rw [List.length_nil]; omega, digits, by omega, by omega, ends, text.symm⟩
        obtain ⟨same, full⟩ := even_part run digits room (Nat.pos_of_ne_zero space) (by omega)
        have nothing : room - (pairBytes (run.take (2 * room))).length = 0 := by omega
        rw [read_group_part lastByte room run rest digits ends long (by omega)]
        simp only [nothing, Nat.lt_irrefl, false_and, if_false]
        rw [read_groups_ended lastByte rounds 0 _ (.inl rfl)]
        refine ⟨[], [], run.take (2 * room), .none, fun letter member => digits letter (List.mem_of_mem_take member),
          fun some => absurd some (Nat.lt_irrefl 0), ?_, ?_, ?_⟩
        · rw [List.append_nil, List.nil_append, same]
        · rw [same, full, List.length_nil, Nat.zero_add]
        · rw [List.nil_append, ← List.append_assoc, List.take_append_drop]

end Vscp
