import Vscp.GuidEndptr

set_option autoImplicit false

namespace Vscp.NodeGuid

open NumberText
open RemoteTcp (Text)

def isSeparator (letter : Option Char) : Bool := letter = some ':' || letter = some '-' || letter = some ','

def skipSeparator (text : Text) : Text := if isSeparator text.head? then text.drop 1 else text

@[grind =] def numberBytes : Nat → Nat → Bytes
  | 0, _ => []
  | byteCount + 1, parsed => numberBytes byteCount (parsed / 256) ++ [UInt8.ofNat parsed]

def roundLength (hexLength : Nat) : Nat :=
  if hexLength ≤ 4 then hexLength else min hexLength (2 * min ((hexLength + 1) / 2) 4)

def roundBytes (hexLength : Nat) (parsed : Nat) : Bytes :=
  if hexLength ≤ 2 then [UInt8.ofNat parsed]
  else if hexLength ≤ 4 then [UInt8.ofNat (parsed / 256), UInt8.ofNat parsed]
  else numberBytes (min ((hexLength + 1) / 2) 4) parsed

-- Every round adds a byte at least, so sixteen are enough.
@[grind =] def prefixedGroups : Nat → Bytes → Text → Bytes
  | 0, bytes, _ => bytes
  | rounds + 1, bytes, text =>
      let hexLength := (text.takeWhile isHexDigit).length
      if 16 ≤ bytes.length ∨ hexLength = 0 then bytes
      else
        let own := roundBytes hexLength (digitsValue 16 (text.take (roundLength hexLength)))
        -- Only a group of more than four digits stops in its middle when the bytes are full.
        let kept := if hexLength ≤ 4 then own else own.take (16 - bytes.length)
        prefixedGroups rounds (bytes ++ kept) (skipSeparator (text.drop (roundLength hexLength)))

def parsePrefixedGroups (text : Text) (padding : UInt8) : Guid :=
  trailing padding ((prefixedGroups 16 [] text).take 16)

-- The loop over the groups of a whole GUID is written like the one of the C++ parser.
def wholeGroups (text : Text) : Bytes := (readGroups UInt8.ofNat 16 16 text).1

def getFromString (value : Text) : Guid :=
  let start := skipBlanks value
  let text := if start.head? = some '{' then skipBlanks (start.drop 1) else start
  if text = [] then Vector.replicate 16 0
  else if text.head? = some '-' ∧ (text.drop 1).head? = some ':' then parsePrefixedGroups (text.drop 2) 0
  else if text.head? = some '-' ∧ ¬ nextIsHex (text.drop 1) then Vector.replicate 16 0
  else if text.head? = some ':' ∧ (text.drop 1).head? = some ':' then
    if ¬ nextIsHex (text.drop 2) then Vector.replicate 16 0xff else parsePrefixedGroups (text.drop 2) 0xff
  else leading (wholeGroups text)

-- getFromString refuses no text; the C++ parser takes a text with all its letters, or not.
def ConsumedAs (text : Text) (guid : Guid) : Prop := '\x00' ∉ text ∧ vscpGuidParse text = ⟨true, guid, some []⟩

def ReadAlike (text : Text) : Prop := ∀ guid, getFromString text = guid ↔ ConsumedAs text guid

-- Groups for `room` bytes; a group of three or four digits may stand on the last byte.
def Fitting (lastByte : Nat → UInt8) (room : Nat) (text : Text) (bytes : Bytes) : Prop :=
  ∃ front left run, Led front left ∧ Digits run ∧ left.length < room ∧ text = front ++ run ∧
    ((left.length + (lastBytes run).length ≤ room ∧ bytes = left ++ lastBytes run) ∨
      (left.length + 1 = room ∧ 3 ≤ run.length ∧ run.length ≤ 4 ∧ bytes = left ++ [lastByte (digitsValue 16 run)]))

-- A long group of an odd number of digits is not read alike, unless what is left of it behind its last eight digits
-- is zero.
def PairedRun (run : Text) : Prop :=
  run.length ≤ 4 ∨ run.length % 2 = 0 ∨ ∀ letter ∈ run.drop (8 * (run.length / 8)), letter = '0'

def Paired (text : Text) : Prop := ∀ run ∈ text.splitOnP fun letter => !isHexDigit letter, PairedRun run

def highByte (value : Nat) : UInt8 := UInt8.ofNat (value / 256)

inductive SharedBody : Text → Prop
  | lone : SharedBody ['-']
  | whole (text : Text) (bytes : Bytes) (groups : Fitting UInt8.ofNat 16 text bytes) (full : bytes.length = 16) :
      SharedBody text
  | filled (mark : Char) (text : Text) (bytes : Bytes) (known : mark = '-' ∨ mark = ':')
      (groups : Fitting highByte 16 text bytes) (paired : Paired text) : SharedBody (mark :: ':' :: text)
  -- The star is no mark of getFromString, and only sixteen zero bytes behind it do not show that.
  | starred (text : Text) (groups : Fitting highByte 16 text (List.replicate 16 0)) : SharedBody ('*' :: ':' :: text)

def SharedText (text : Text) : Prop :=
  (∃ braces, Opening braces text) ∨
    ∃ braces opening body closing, Opening braces opening ∧ Closing braces closing ∧
      text = opening ++ (body ++ closing) ∧ SharedBody body

theorem pair_bytes_append (first second : Text) (even : first.length % 2 = 0) :
    pairBytes (first ++ second) = pairBytes first ++ pairBytes second := by
  induction first using pairBytes.induct with
  | case1 => rfl
  | case2 high => simp at even
  | case3 high low digits ih =>
      have fewer : digits.length % 2 = 0 := by
        simp only [List.length_cons] at even
        omega
      simp only [List.cons_append, pairBytes, ih fewer]

theorem number_bytes_length (byteCount parsed : Nat) : (numberBytes byteCount parsed).length = byteCount := by
  induction byteCount generalizing parsed with
  | zero => rfl
  | succ byteCount ih => rw [numberBytes, List.length_append, ih, List.length_singleton]

theorem number_bytes_pairs (byteCount : Nat) (digits : Text) (all : Digits digits)
    (even : digits.length = 2 * byteCount) : numberBytes byteCount (digitsValue 16 digits) = pairBytes digits := by
  induction byteCount generalizing digits with
  | zero =>
      obtain rfl := List.length_eq_zero_iff.mp even
      rfl
  | succ byteCount ih =>
      obtain ⟨front, low, rfl⟩ := (List.eq_nil_or_concat digits).resolve_left (by rintro rfl; rw [List.length_nil] at even; omega)
      obtain ⟨front, high, rfl⟩ := (List.eq_nil_or_concat front).resolve_left (by rintro rfl; simp at even; omega)
      simp only [List.concat_eq_append] at all even ⊢
      have fewer : front.length = 2 * byteCount := by
        simp only [List.length_append, List.length_singleton] at even
        omega
      have own : Digits front := fun letter member => all letter (by simp [member])
      have first := all high (by simp)
      have second := all low (by simp)
      obtain ⟨value, small, same, _⟩ := hex_value_bound high first
      obtain ⟨other, few, also, _⟩ := hex_value_bound low second
      have value : digitsValue 16 (front ++ [high] ++ [low]) =
          (digitsValue 16 front * 16 + (digitValue high).getD 0) * 16 + (digitValue low).getD 0 := by
        simp [digitsValue]
      have upper : digitsValue 16 (front ++ [high] ++ [low]) / 256 = digitsValue 16 front := by
        rw [value, same, also, Option.getD_some, Option.getD_some]
        omega
      rw [numberBytes, upper, ih front own fewer, value, two_digit_byte high low first second, List.append_assoc,
        pair_bytes_append front _ (by omega)]
      rfl

theorem zero_in_front (digits : Text) : digitsValue 16 ('0' :: digits) = digitsValue 16 digits := rfl

theorem round_length_min (hexLength : Nat) : roundLength hexLength = min hexLength 8 := by
  unfold roundLength
  split <;> omega

theorem round_bytes_number (hexLength parsed : Nat) (some : 0 < hexLength) :
    roundBytes hexLength parsed = numberBytes (min ((hexLength + 1) / 2) 4) parsed := by
  unfold roundBytes
  split
  · have one : min ((hexLength + 1) / 2) 4 = 1 := by omega
    rw [one]
    rfl
  · split
    · have two : min ((hexLength + 1) / 2) 4 = 2 := by omega
      rw [two]
      rfl
    · rfl

-- The digits that getFromString reads in pairs: what is left behind eights of them is filled up in front.
def padded (run : Text) : Text :=
  if run.length % 2 = 0 then run else run.take (8 * (run.length / 8)) ++ '0' :: run.drop (8 * (run.length / 8))

variable (letter : Char) (run : Text) (braces : Bool) (text : Text)

theorem padded_short (short : run.length ≤ 8) :
    padded run = if run.length % 2 = 0 then run else '0' :: run := by
  unfold padded
  split
  · rfl
  · have none : 8 * (run.length / 8) = 0 := by omega
    rw [none, List.take_zero, List.drop_zero, List.nil_append]

theorem padded_long (long : 8 < run.length) : padded run = run.take 8 ++ padded (run.drop 8) := by
  have length : (run.drop 8).length = run.length - 8 := List.length_drop
  have steps : 8 * (run.length / 8) = 8 + 8 * ((run.length - 8) / 8) := by omega
  unfold padded
  rw [length]
  by_cases even : run.length % 2 = 0
  · rw [if_pos even, if_pos (by omega), List.take_append_drop]
  · rw [if_neg even, if_neg (by omega), steps, List.take_add, List.drop_drop, List.append_assoc]

theorem padded_pairs_length : (pairBytes (padded run)).length = (run.length + 1) / 2 := by
  rw [pair_bytes_length]
  unfold padded
  split
  · rfl
  · simp only [List.length_append, List.length_cons, List.length_take, List.length_drop]
    omega

theorem short_round_bytes (digits : Digits run) (some : run ≠ []) (short : run.length ≤ 8) :
    roundBytes run.length (digitsValue 16 run) = pairBytes (padded run) := by
  have positive := List.length_pos_iff.mpr some
  have least : min ((run.length + 1) / 2) 4 = (run.length + 1) / 2 := by omega
  rw [round_bytes_number _ _ positive, least, padded_short run short]
  by_cases even : run.length % 2 = 0
  · rw [if_pos even]
    exact number_bytes_pairs _ run digits (by omega)
  · rw [if_neg even, ← zero_in_front]
    apply number_bytes_pairs
    · intro letter member
      rcases List.mem_cons.mp member with rfl | inside
      · rfl
      · exact digits letter inside
    · rw [List.length_cons]
      omega

theorem zero_digit (zero : digitValue letter = some 0) : letter = '0' := by
  have code : letter.toNat = 48 := by
    unfold digitValue at zero
    split at zero
    · next own =>
        have upper := Option.some.inj zero
        simp only [Char.isDigit, Bool.and_eq_true, decide_eq_true_eq, ge_iff_le, UInt32.le_iff_toNat_le] at own
        have lower : 48 ≤ letter.toNat := own.1
        omega
    · split at zero
      · next own =>
          have value := Option.some.inj zero
          have lower : 97 ≤ letter.toNat := UInt32.le_iff_toNat_le.mp (Char.le_def.mp own.1)
          omega
      · split at zero
        · next own =>
            have value := Option.some.inj zero
            have lower : 65 ≤ letter.toNat := UInt32.le_iff_toNat_le.mp (Char.le_def.mp own.1)
            omega
        · cases zero
  exact Char.toNat_inj.mp code

theorem hex_zero (digit : isHexDigit letter = true) : hexToVal letter = 0 ↔ letter = '0' := by
  constructor
  · intro zero
    obtain ⟨value, small, same, read⟩ := hex_value_bound letter digit
    have both := UInt8.toNat_inj.mpr (read.symm.trans zero)
    rw [UInt8.toNat_ofNat'] at both
    have whole : value % 256 = 0 := both
    obtain rfl : value = 0 := by omega
    exact zero_digit letter same
  · rintro rfl
    rfl

theorem shifted_pair (first second third : Char) (one : isHexDigit first = true) (two : isHexDigit second = true)
    (three : isHexDigit third = true) :
    ((hexToVal first <<< 4) ||| hexToVal second = (hexToVal second <<< 4) ||| hexToVal third) ↔
      hexToVal first = hexToVal second ∧ hexToVal second = hexToVal third := by
  have each : ∀ first < 16, ∀ second < 16, ∀ third < 16,
      ((UInt8.ofNat first <<< 4) ||| UInt8.ofNat second = (UInt8.ofNat second <<< 4) ||| UInt8.ofNat third) ↔
        UInt8.ofNat first = UInt8.ofNat second ∧ UInt8.ofNat second = UInt8.ofNat third := by decide
  obtain ⟨left, small, _, value⟩ := hex_value_bound first one
  obtain ⟨middle, few, _, other⟩ := hex_value_bound second two
  obtain ⟨right, low, _, last⟩ := hex_value_bound third three
  rw [value, other, last]
  exact each left small middle few right low

theorem shifted_pairs (digits : Text) (all : Digits digits) (odd : digits.length % 2 = 1) (carried : Char)
    (own : isHexDigit carried = true) :
    pairBytes (carried :: digits) = pairBytes digits ↔ carried = '0' ∧ ∀ letter ∈ digits, letter = '0' := by
  induction digits using pairBytes.induct generalizing carried with
  | case1 => cases odd
  | case2 last =>
      have digit := all last List.mem_cons_self
      have pair := shifted_pair carried last '0' own digit rfl
      have none : (hexToVal last <<< 4) ||| hexToVal '0' = hexToVal last <<< 4 := UInt8.or_zero
      rw [none] at pair
      simp only [pairBytes, List.cons.injEq, and_true, pair, List.mem_singleton, forall_eq]
      have zero : hexToVal '0' = 0 := rfl
      rw [zero, hex_zero last digit]
      constructor
      · rintro ⟨same, rfl⟩
        exact ⟨(hex_zero carried own).mp same, rfl⟩
      · rintro ⟨rfl, rfl⟩
        exact ⟨rfl, rfl⟩
  | case3 high low digits ih =>
      have first := all high (by simp)
      have second := all low (by simp)
      have later : Digits digits := fun letter member => all letter (by simp [member])
      have fewer : digits.length % 2 = 1 := by
        simp only [List.length_cons] at odd
        omega
      have deeper := ih later fewer low second
      simp only [pairBytes, List.cons.injEq] at deeper ⊢
      rw [shifted_pair carried high low own first second, deeper]
      simp only [List.mem_cons, forall_eq_or_imp]
      constructor
      · rintro ⟨⟨left, right⟩, rfl, zeros⟩
        have zero := (hex_zero high first).mp right
        exact ⟨(hex_zero carried own).mp (left.trans right), zero, rfl, zeros⟩
      · rintro ⟨rfl, rfl, rfl, zeros⟩
        exact ⟨⟨rfl, rfl⟩, rfl, zeros⟩

theorem run_read_alike (digits : Digits run) (some : run ≠ []) :
    pairBytes (padded run) = runBytes run ↔ PairedRun run := by
  by_cases short : run.length ≤ 4
  · have own : roundBytes run.length (digitsValue 16 run) = runBytes run := by
      unfold roundBytes runBytes
      split
      · rfl
      · rfl
    rw [← short_round_bytes run digits some (by omega), own]
    exact ⟨fun _ => .inl short, fun _ => rfl⟩
  · have pairs : runBytes run = pairBytes run := by
      unfold runBytes
      rw [if_neg (by omega), if_neg short]
    rw [pairs]
    unfold padded PairedRun
    by_cases even : run.length % 2 = 0
    · rw [if_pos even]
      exact ⟨fun _ => .inr (.inl even), fun _ => rfl⟩
    · have whole : (run.take (8 * (run.length / 8))).length = 8 * (run.length / 8) :=
        List.length_take_of_le (by omega)
      have later : Digits (run.drop (8 * (run.length / 8))) :=
        fun letter member => digits letter (List.mem_of_mem_drop member)
      have rest := shifted_pairs (run.drop (8 * (run.length / 8))) later (by rw [List.length_drop]; omega) '0' rfl
      have parts := List.take_append_drop (8 * (run.length / 8)) run
      rw [if_neg even, pair_bytes_append _ _ (by omega)]
      conv_lhs => rhs; rw [← parts]
      rw [pair_bytes_append _ _ (by omega), List.append_cancel_left_eq, rest]
      simp [short, even]

theorem round_bytes_some (hexLength parsed : Nat) (some : 0 < hexLength) : 0 < (roundBytes hexLength parsed).length := by
  rw [round_bytes_number hexLength parsed some, number_bytes_length]
  omega

theorem prefixed_ended (rounds : Nat) (bytes : Bytes) (text : Text)
    (ended : 16 ≤ bytes.length ∨ text.takeWhile isHexDigit = []) : prefixedGroups rounds bytes text = bytes := by
  cases rounds with
  | zero => rfl
  | succ rounds => exact if_pos (ended.imp_right List.length_eq_zero_iff.mpr)

theorem prefixed_rounds (rounds more : Nat) (bytes : Bytes) (text : Text) (enough : 16 ≤ bytes.length + rounds)
    (also : 16 ≤ bytes.length + more) : prefixedGroups rounds bytes text = prefixedGroups more bytes text := by
  induction rounds generalizing more bytes text with
  | zero => rw [prefixed_ended 0 bytes text (.inl enough), prefixed_ended more bytes text (.inl enough)]
  | succ rounds ih =>
      by_cases ended : 16 ≤ bytes.length ∨ (text.takeWhile isHexDigit).length = 0
      · have stopped := ended.imp_right List.length_eq_zero_iff.mp
        rw [prefixed_ended _ bytes text stopped, prefixed_ended more bytes text stopped]
      · obtain ⟨few, some⟩ := not_or.mp ended
        obtain ⟨more, rfl⟩ : ∃ fewer, more = fewer + 1 := ⟨more - 1, by omega⟩
        have added := round_bytes_some (text.takeWhile isHexDigit).length
          (digitsValue 16 (text.take (roundLength (text.takeWhile isHexDigit).length))) (Nat.pos_of_ne_zero some)
        simp only [prefixedGroups, if_neg ended]
        apply ih
        all_goals
          rw [List.length_append]
          split
          · omega
          · rw [List.length_take]
            omega

theorem skip_no_separator (digit : isHexDigit letter = true) :
    skipSeparator (letter :: text) = letter :: text := by
  apply if_neg
  intro separates
  simp only [isSeparator, List.head?_cons, Option.some.injEq, Bool.or_eq_true, decide_eq_true_eq] at separates
  rcases separates with (rfl | rfl) | rfl <;> exact Bool.noConfusion digit

theorem prefixed_run (run input : Text) (digits : Digits run) (some : run ≠ []) (ends : input.takeWhile isHexDigit = [])
    (bytes : Bytes) (room : bytes.length + (run.length + 1) / 2 ≤ 16) :
    prefixedGroups 16 bytes (run ++ input) =
      prefixedGroups 16 (bytes ++ pairBytes (padded run)) (skipSeparator input) := by
  induction count : run.length using Nat.strongRecOn generalizing run bytes with
  | ind count ih =>
      have positive := List.length_pos_iff.mpr some
      have length := padded_pairs_length run
      have goes : ¬ (16 ≤ bytes.length ∨ run.length = 0) := by omega
      conv_lhs => rw [prefixedGroups]
      simp only [(run_parts run input digits ends).1, if_neg goes, round_length_min]
      by_cases short : run.length ≤ 8
      · have whole : min run.length 8 = run.length := Nat.min_eq_left short
        have kept : (if run.length ≤ 4 then pairBytes (padded run)
            else (pairBytes (padded run)).take (16 - bytes.length)) = pairBytes (padded run) := by
          split
          · rfl
          · exact List.take_of_length_le (by omega)
        rw [whole, List.take_left, List.drop_left, short_round_bytes run digits some short, kept]
        apply prefixed_rounds
        all_goals
          rw [List.length_append]
          omega
      · have eight : min run.length 8 = 8 := Nat.min_eq_right (by omega)
        have taken : (run.take 8).length = 8 := List.length_take_of_le (by omega)
        have four : min ((run.length + 1) / 2) 4 = 4 := by omega
        have own : roundBytes run.length (digitsValue 16 (run.take 8)) = pairBytes (run.take 8) := by
          rw [round_bytes_number _ _ positive, four]
          exact number_bytes_pairs 4 _ (fun letter member => digits letter (List.mem_of_mem_take member)) taken
        have bytesTaken : (pairBytes (run.take 8)).length = 4 := by rw [pair_bytes_length, taken]
        have kept : (pairBytes (run.take 8)).take (16 - bytes.length) = pairBytes (run.take 8) :=
          List.take_of_length_le (by omega)
        have dropped : (run.drop 8).length = run.length - 8 := List.length_drop
        have rest : Digits (run.drop 8) := fun letter member => digits letter (List.mem_of_mem_drop member)
        obtain ⟨letter, behind, next⟩ := List.exists_cons_of_ne_nil
          (show run.drop 8 ≠ [] by intro none; rw [none, List.length_nil] at dropped; omega)
        have unskipped : skipSeparator (run.drop 8 ++ input) = run.drop 8 ++ input := by
          rw [next]
          exact skip_no_separator letter _ (rest letter (by rw [next]; exact List.mem_cons_self))
        rw [eight, List.take_append_of_le_length (by omega), List.drop_append_of_le_length (by omega), own,
          if_neg (by omega), kept, unskipped, prefixed_rounds 15 16 _ _ (by rw [List.length_append]; omega)
          (by rw [List.length_append]; omega), ih (run.drop 8).length (by omega) (run.drop 8) rest (by simp [next]) _
          (by rw [List.length_append]; omega) rfl, padded_long run (by omega), pair_bytes_append _ _ (by omega),
          List.append_assoc]

theorem not_digits (digits : Digits run) : ∀ letter ∈ run, (!isHexDigit letter) = false := by
  intro letter member
  rw [digits letter member]
  rfl

theorem paired_more (run rest : Text) (mark : Char) (digits : Digits run) (separates : Separator mark) :
    Paired (run ++ mark :: rest) ↔ PairedRun run ∧ Paired rest := by
  have foreign : (!isHexDigit mark) = true := by rw [separator_no_digit mark separates]; rfl
  unfold Paired
  rw [List.splitOnP_append_cons_of_forall_mem (not_digits run digits) mark foreign, List.forall_mem_cons]

theorem paired_last (digits : Digits run) : Paired run ↔ PairedRun run := by
  unfold Paired
  rw [List.splitOnP_eq_singleton (not_digits run digits)]
  exact List.forall_mem_singleton

theorem led_prefixed (front : Text) (left : Bytes) (led : Led front left) (bytes : Bytes)
    (room : bytes.length + left.length < 16) :
    ∃ others : Bytes, others.length = left.length ∧
      (∀ input, prefixedGroups 16 bytes (front ++ input) = prefixedGroups 16 (bytes ++ others) input) ∧
      ∀ rest, Paired (front ++ rest) ↔ others = left ∧ Paired rest := by
  induction led generalizing bytes with
  | none =>
      refine ⟨[], rfl, fun input => by rw [List.nil_append, List.append_nil], fun rest => ?_⟩
      rw [List.nil_append]
      exact (and_iff_right rfl).symm
  | more run rest mark later some digits separates led ih =>
      have length := run_bytes_length run some
      have pairs := padded_pairs_length run
      rw [List.length_append] at room
      obtain ⟨others, same, read, paired⟩ := ih (bytes ++ pairBytes (padded run)) (by rw [List.length_append]; omega)
      refine ⟨pairBytes (padded run) ++ others, by simp only [List.length_append]; omega, ?_, ?_⟩
      · intro input
        have skipped : skipSeparator (mark :: (rest ++ input)) = rest ++ input := by
          apply if_pos
          rcases separates with rfl | rfl | rfl <;> rfl
        rw [List.append_assoc, List.cons_append,
          prefixed_run run _ digits some (separator_stops mark _ separates) bytes (by omega), skipped, read,
          List.append_assoc]
      · intro behind
        rw [List.append_assoc, List.cons_append, paired_more run _ mark digits separates, paired behind,
          ← run_read_alike run digits some, ← and_assoc]
        apply and_congr_left'
        constructor
        · rintro ⟨first, second⟩
          rw [first, second]
        · intro both
          exact List.append_inj both (by omega)

variable (lastByte : Nat → UInt8) (input : Text)

theorem quiet_kept (quiet : ∀ mark, input.head? = some mark → ¬ Separator mark) :
    skipSeparator input = input := by
  apply if_neg
  intro separates
  simp only [isSeparator, Bool.or_eq_true, decide_eq_true_eq] at separates
  rcases separates with (colon | dash) | comma
  · exact quiet ':' colon (.inl rfl)
  · exact quiet '-' dash (.inr (.inl rfl))
  · exact quiet ',' comma (.inr (.inr rfl))

theorem fitting_prefixed (text input : Text) (bytes : Bytes) (groups : Fitting highByte 16 text bytes)
    (ends : input.takeWhile isHexDigit = []) (quiet : ∀ mark, input.head? = some mark → ¬ Separator mark) :
    ((prefixedGroups 16 [] (text ++ input)).take 16).length = bytes.length ∧
      ((prefixedGroups 16 [] (text ++ input)).take 16 = bytes ↔ Paired text) := by
  obtain ⟨front, left, run, led, digits, inside, rfl, ending⟩ := groups
  obtain ⟨others, same, read, paired⟩ := led_prefixed front left led [] (by rw [List.length_nil]; omega)
  rw [List.append_assoc, read, List.nil_append, paired, paired_last run digits]
  rcases ending with ⟨fits, rfl⟩ | ⟨full, three, four, rfl⟩
  · by_cases none : run = []
    · subst none
      rw [List.nil_append, prefixed_ended 16 others input (.inr ends), List.take_of_length_le (by omega), lastBytes,
        if_pos rfl, List.append_nil]
      exact ⟨same, (and_iff_left (.inl (Nat.zero_le 4))).symm⟩
    · have length := run_bytes_length run none
      have pairs := padded_pairs_length run
      rw [lastBytes, if_neg none] at fits ⊢
      rw [prefixed_run run input digits none ends others (by omega), quiet_kept input quiet,
        prefixed_ended 16 _ input (.inr ends), List.take_of_length_le (by rw [List.length_append]; omega),
        ← run_read_alike run digits none]
      refine ⟨by simp only [List.length_append]; omega, ?_⟩
      constructor
      · intro both
        exact List.append_inj both same
      · rintro ⟨rfl, last⟩
        rw [last]
  · have goes : ¬ (16 ≤ others.length ∨ run.length = 0) := by omega
    have own : roundBytes run.length (digitsValue 16 (run.take run.length)) =
        [highByte (digitsValue 16 run), UInt8.ofNat (digitsValue 16 run)] := by
      unfold roundBytes
      rw [List.take_length, if_neg (by omega), if_pos four]
      rfl
    have whole : roundLength run.length = run.length := if_pos four
    have short : PairedRun run := .inl four
    rw [prefixedGroups]
    simp only [(run_parts run input digits ends).1, if_neg goes, whole, List.take_left, List.drop_left, if_pos four]
    rw [List.take_length] at own
    rw [own, prefixed_ended 15 _ _ (.inl (by rw [List.length_append]; simp; omega))]
    have cut : (others ++ [highByte (digitsValue 16 run), UInt8.ofNat (digitsValue 16 run)]).take 16 =
        others ++ [highByte (digitsValue 16 run)] := by
      have one : 16 = others.length + 1 := by omega
      rw [one, List.take_length_add_append]
      rfl
    rw [cut]
    refine ⟨by simp only [List.length_append, same, List.length_singleton], ?_⟩
    rw [and_iff_left short, List.append_left_inj]

theorem fitting_read (text input : Text) (bytes : Bytes)
    (groups : Fitting lastByte 16 text bytes) (ends : input.takeWhile isHexDigit = [])
    (quiet : ∀ mark, input.head? = some mark → ¬ Separator mark) :
    readGroups lastByte 16 16 (text ++ input) = (bytes, input) := by
  obtain ⟨front, left, run, led, digits, inside, rfl, ⟨fits, rfl⟩ | ⟨full, three, four, rfl⟩⟩ := groups
  · rw [List.append_assoc]
    exact groups_read lastByte front run input left led digits 16 ends quiet inside fits
  · rw [List.append_assoc]
    exact wide_read lastByte front run input left led full digits three four ends

theorem read_fitting (ends : (readGroups lastByte 16 16 input).2.takeWhile isHexDigit = []) :
    ∃ text, input = text ++ (readGroups lastByte 16 16 input).2 ∧
      Fitting lastByte 16 text (readGroups lastByte 16 16 input).1 := by
  by_cases wide : WideLast 16 input
  · obtain ⟨front, left, run, rest, led, full, digits, three, four, stops, rfl⟩ := wide
    rw [wide_read lastByte front run rest left led full digits three four stops]
    refine ⟨front ++ run, (List.append_assoc front run rest).symm, front, left, run, led, digits, by omega, rfl, .inr ?_⟩
    exact ⟨full, three, four, rfl⟩
  · obtain ⟨front, left, run, led, digits, inside, bytes, fits, parts⟩ :=
      read_groups_parts lastByte 16 16 input (Nat.le_refl 16) wide
    refine ⟨front ++ run, by rw [List.append_assoc]; exact parts, front, left, run, led, digits, ?_, rfl, .inl ⟨fits, bytes⟩⟩
    rcases Nat.eq_zero_or_pos left.length with none | some
    · omega
    · exact inside some

inductive WholeBody : Text → Guid → Prop
  | lone : WholeBody ['-'] (Vector.replicate 16 0)
  | whole (text : Text) (bytes : Bytes) (groups : Fitting UInt8.ofNat 16 text bytes) (full : bytes.length = 16) :
      WholeBody text (leading bytes)
  | filled (mark : Char) (fill : UInt8) (text : Text) (bytes : Bytes) (known : FillMark mark fill)
      (groups : Fitting highByte 16 text bytes) : WholeBody (mark :: ':' :: text) (trailing fill bytes)

def WholeText (text : Text) (guid : Guid) : Prop :=
  (∃ braces, Opening braces text ∧ guid = Vector.replicate 16 0) ∨
    ∃ braces opening body closing, Opening braces opening ∧ Closing braces closing ∧
      text = opening ++ (body ++ closing) ∧ WholeBody body guid

variable (depth : Nat) (body : Text) (guid : Guid)

theorem finish_whole (closing : Text) (behind : Closing braces closing) :
    finish braces guid closing = ⟨true, guid, some []⟩ := by
  cases behind with
  | bare => rfl
  | leftOpen _ blank =>
      have none : skipBlanks closing = [] := by
        simpa using skip_blanks_again closing [] blank (by intro letter head; cases head)
      simp [finish, none]
  | brace blanks blank =>
      have none : skipBlanks (blanks ++ ['}']) = ['}'] := by
        apply skip_blanks_again blanks ['}'] blank
        rintro letter head (rfl | rfl) <;> cases head
      simp [finish, none]

theorem finish_closing (guid other : Guid) (p : Text)
    (finished : finish braces guid p = ⟨true, other, some []⟩) : Closing braces p ∧ guid = other := by
  obtain ⟨closing, rest, own, behind, parts⟩ := finish_parts braces guid p
  rw [own] at finished
  injection finished with _ same left
  rw [Option.some.inj left, List.append_nil] at parts
  rw [parts]
  exact ⟨behind, same⟩

theorem whole_parsed (text : Text) (guid : Guid)
    (parsed : guidParse (depth + 1) text = ⟨true, guid, some []⟩) : WholeText text guid := by
  obtain ⟨opening, before, parts⟩ := opening_parts text
  have found : ∀ body closing, opened text = body ++ closing → Closing (braced text) closing → WholeBody body guid →
      WholeText text guid := by
    intro body closing same behind whole
    exact .inr ⟨braced text, opening, body, closing, before, behind, by rw [← same]; exact parts, whole⟩
  by_cases none : opened text = []
  · rw [parse_empty depth text none] at parsed
    obtain ⟨_, rfl⟩ := finish_closing _ _ _ _ parsed
    rw [none, List.append_nil] at parts
    rw [← parts] at before
    exact .inl ⟨braced text, before, rfl⟩
  by_cases filled : ∃ mark fill input, FillMark mark fill ∧ opened text = mark :: ':' :: input
  · obtain ⟨mark, fill, input, known, body⟩ := filled
    rw [parse_filled depth text input mark fill known body] at parsed
    obtain ⟨behind, rfl⟩ := finish_closing _ _ _ _ parsed
    obtain ⟨groups, same, fitting⟩ := read_fitting highByte input (closing_stops _ _ behind).1
    apply found (mark :: ':' :: groups) _ _ behind (.filled mark fill groups _ known fitting)
    rw [body, List.cons_append, List.cons_append, parseGroups]
    exact congrArg (fun rest => mark :: ':' :: rest) same
  by_cases lone : Lone (opened text)
  · obtain ⟨head, foreign⟩ := lone
    obtain ⟨input, body⟩ := List.head?_eq_some_iff.mp head
    rw [body, List.drop_succ_cons, List.drop_zero] at foreign
    have colon : input.head? ≠ some ':' := by
      intro colon
      obtain ⟨rest, rfl⟩ := List.head?_eq_some_iff.mp colon
      exact filled ⟨'-', 0, rest, .inl ⟨rfl, rfl⟩, body⟩
    rw [parse_lone depth text input body colon foreign] at parsed
    obtain ⟨behind, rfl⟩ := finish_closing _ _ _ _ parsed
    exact found ['-'] input body behind .lone
  have marked : ¬ Marked (opened text) := by
    rintro ⟨mark, next⟩
    obtain ⟨letter, body⟩ : ∃ letter, opened text = letter :: (opened text).drop 1 := by
      cases same : opened text with
      | nil => exact absurd same none
      | cons letter rest => exact ⟨letter, rfl⟩
    obtain ⟨rest, behind⟩ := List.head?_eq_some_iff.mp next
    rw [behind] at body
    rw [body] at mark
    refine filled ⟨letter, 0xff, rest, .inr ⟨?_, rfl⟩, body⟩
    exact mark.imp Option.some.inj Option.some.inj
  by_cases between : FillBetween (opened text)
  · obtain ⟨other, same⟩ := parse_between depth text between
    rw [same] at parsed
    obtain ⟨behind, _⟩ := finish_closing _ _ _ _ parsed
    obtain ⟨⟨front, back, colons⟩, _⟩ := between
    exact absurd (by rw [colons]; simp) (closing_stops _ _ behind).2.2
  · have single : splitAtFill (opened text) = .none := by
      cases split : splitAtFill (opened text) with
      | none => rfl
      | some halves => exact absurd ⟨⟨halves.1, halves.2, split_parts _ _ _ split⟩, lone, marked⟩ between
    rw [parse_whole depth text none lone marked single] at parsed
    split at parsed
    · cases parsed
    · next full =>
        obtain ⟨behind, rfl⟩ := finish_closing _ _ _ _ parsed
        obtain ⟨groups, same, fitting⟩ := read_fitting UInt8.ofNat (opened text) (closing_stops _ _ behind).1
        exact found groups _ same behind (.whole groups _ fitting (not_not.mp full))

theorem digit_not_colon (digit : isHexDigit letter = true) : letter ≠ ':' := by
  rintro rfl
  exact Bool.noConfusion digit

theorem led_no_fill (front run : Text) (left : Bytes) (led : Led front left) (digits : Digits run) :
    splitAtFill (front ++ run) = none ∧ (front ++ run).head? ≠ some ':' := by
  induction led with
  | none =>
      rw [List.nil_append]
      constructor
      · have plain := no_fill_in_digits run [] digits rfl
        rwa [List.append_nil] at plain
      · intro colon
        obtain ⟨rest, rfl⟩ := List.head?_eq_some_iff.mp colon
        exact digit_not_colon ':' (digits ':' List.mem_cons_self) rfl
  | more first rest mark bytes some all separates later ih =>
      rw [List.append_assoc, List.cons_append]
      obtain ⟨letter, tail, rfl⟩ := List.exists_cons_of_ne_nil some
      constructor
      · apply no_fill_in_digits _ _ all
        rw [splitAtFill, if_neg (fun colons => ih.2 colons.2), ih.1]
        rfl
      · intro colon
        exact digit_not_colon letter (all letter List.mem_cons_self) (Option.some.inj colon)

theorem fitting_head (text : Text) (bytes : Bytes) (groups : Fitting lastByte 16 text bytes)
    (some : bytes ≠ []) : ∃ letter tail, text = letter :: tail ∧ isHexDigit letter = true := by
  obtain ⟨front, left, run, led, digits, _, rfl, ending⟩ := groups
  apply groups_head front run left led digits
  intro none
  obtain ⟨rfl, rfl⟩ := List.append_eq_nil_iff.mp none
  rcases ending with ⟨_, rfl⟩ | ⟨_, three, _⟩
  · rw [led_nothing [] left led rfl] at some
    exact some rfl
  · cases three

theorem fitting_letters (text : Text) (bytes : Bytes)
    (groups : Fitting lastByte 16 text bytes) : ∀ letter ∈ text, bodyLetter letter = true := by
  obtain ⟨front, left, run, led, digits, _, rfl, _⟩ := groups
  intro letter member
  rcases List.mem_append.mp member with inside | inside
  · exact led_letters front left led letter inside
  · exact digit_body letter (digits letter inside)

theorem whole_body_head (whole : WholeBody body guid) :
    ∃ letter, body.head? = some letter ∧ bodyLetter letter = true := by
  cases whole with
  | lone => exact ⟨'-', rfl, rfl⟩
  | whole _ bytes groups full =>
      obtain ⟨letter, tail, rfl, digit⟩ := fitting_head _ body bytes groups (by rintro rfl; cases full)
      exact ⟨letter, rfl, digit_body letter digit⟩
  | filled mark fill text bytes known groups => exact ⟨mark, rfl, (fill_mark_body mark fill known).1⟩

theorem whole_body_letters (whole : WholeBody body guid) :
    ∀ letter ∈ body, bodyLetter letter = true := by
  cases whole with
  | lone => exact List.forall_mem_singleton.mpr rfl
  | whole _ bytes groups full => exact fitting_letters _ body bytes groups
  | filled mark fill text bytes known groups =>
      have behind := fitting_letters _ text bytes groups
      exact List.forall_mem_cons.mpr ⟨(fill_mark_body mark fill known).1, List.forall_mem_cons.mpr ⟨rfl, behind⟩⟩

theorem blank_solid (blank : Blank text) : '\x00' ∉ text := by
  intro member
  rcases blank '\x00' member with same | same <;> cases same

theorem opening_solid (opening : Opening braces text) : '\x00' ∉ text := by
  cases opening with
  | bare _ blank => exact blank_solid text blank
  | brace before inside blank blankInside =>
      simp [blank_solid before blank, blank_solid inside blankInside]

theorem closing_solid (closing : Closing braces text) : '\x00' ∉ text := by
  cases closing with
  | bare => simp
  | leftOpen _ blank => exact blank_solid text blank
  | brace blanks blank => simp [blank_solid blanks blank]

theorem opening_opened (opening : Opening braces text) : opened text = [] := by
  have none : ∀ blanks, Blank blanks → skipBlanks blanks = [] := by
    intro blanks blank
    simpa using skip_blanks_again blanks [] blank (by intro letter head; cases head)
  cases opening with
  | bare _ blank => simp [opened, braced, none text blank]
  | brace before inside blank blankInside =>
      have brace : skipBlanks (before ++ '{' :: inside) = '{' :: inside := by
        apply skip_blanks_again before _ blank
        rintro letter head (rfl | rfl) <;> cases head
      simp [opened, braced, brace, none inside blankInside]

theorem stops_not_hex (ends : input.takeWhile isHexDigit = []) : ¬ nextIsHex input = true := by
  intro hex
  cases input with
  | nil => cases hex
  | cons letter rest =>
      have digit : isHexDigit letter = true := hex
      rw [List.takeWhile_cons_of_pos digit] at ends
      cases ends

theorem parsed_whole (text : Text) (guid : Guid) (whole : WholeText text guid) :
    guidParse (depth + 1) text = ⟨true, guid, some []⟩ ∧ '\x00' ∉ text := by
  rcases whole with ⟨braces, opening, rfl⟩ | ⟨braces, opening, body, closing, before, behind, rfl, whole⟩
  · refine ⟨?_, opening_solid braces text opening⟩
    rw [parse_empty depth text (opening_opened braces text opening)]
    cases braced text <;> rfl
  · have foreign : '\x00' ∉ body := by
      intro member
      have own := whole_body_letters body guid whole '\x00' member
      cases own
    obtain ⟨letter, head, own⟩ := whole_body_head body guid whole
    have again := opening_again braces opening (body ++ closing) letter before (by rw [List.head?_append, head]; rfl) own
    obtain ⟨ends, quiet, colons⟩ := closing_stops braces closing behind
    refine ⟨?_, by simp [opening_solid braces opening before, foreign, closing_solid braces closing behind]⟩
    cases whole with
    | lone =>
        rw [parse_lone depth _ closing again.2, again.1]
        · exact finish_whole braces _ closing behind
        · intro colon
          exact quiet ':' colon (.inl rfl)
        · exact stops_not_hex closing ends
    | filled mark fill text bytes known groups =>
        have read : parseGroups (text ++ closing) = (bytes, closing) :=
          fitting_read highByte text closing bytes groups ends quiet
        rw [parse_filled depth _ (text ++ closing) mark fill known again.2, read, again.1]
        exact finish_whole braces _ closing behind
    | whole _ bytes groups full =>
        obtain ⟨letter, tail, headed, digit⟩ := fitting_head _ body bytes groups (by rintro rfl; cases full)
        have plain := hex_head_plain letter (tail ++ closing) digit
        rw [← List.cons_append, ← headed, ← again.2] at plain
        have single : splitAtFill (opened (opening ++ (body ++ closing))) = none := by
          rw [again.2]
          obtain ⟨front, left, run, led, digits, _, rfl, _⟩ := groups
          exact split_whole _ closing (led_no_fill front run left led digits).1 colons
        rw [parse_whole depth _ (by rw [again.2, headed]; exact List.cons_ne_nil _ _) plain.1 plain.2 single, again.2,
          fitting_read UInt8.ofNat body closing bytes groups ends quiet, if_neg (not_not.mpr full), again.1]
        exact finish_whole braces _ closing behind

theorem consumed_as_iff : ConsumedAs text guid ↔ WholeText text guid := by
  constructor
  · rintro ⟨solid, parsed⟩
    rw [parse_solid text solid] at parsed
    exact whole_parsed _ text guid parsed
  · intro whole
    obtain ⟨parsed, solid⟩ := parsed_whole text.length text guid whole
    refine ⟨solid, ?_⟩
    rw [parse_solid text solid]
    exact parsed

theorem script_choice (value text : Text) (same : opened value = text) :
    getFromString value =
      if text = [] then Vector.replicate 16 0
      else if text.head? = some '-' ∧ (text.drop 1).head? = some ':' then parsePrefixedGroups (text.drop 2) 0
      else if text.head? = some '-' ∧ ¬ nextIsHex (text.drop 1) then Vector.replicate 16 0
      else if text.head? = some ':' ∧ (text.drop 1).head? = some ':' then
        if ¬ nextIsHex (text.drop 2) then Vector.replicate 16 0xff else parsePrefixedGroups (text.drop 2) 0xff
      else leading (wholeGroups text) := by
  rw [← same]
  simp only [getFromString, opened, braced, decide_eq_true_eq]

variable (value : Text)

theorem script_empty (none : opened value = []) : getFromString value = Vector.replicate 16 0 := by
  rw [script_choice value [] none, if_pos rfl]

theorem script_lone (value closing : Text) (text : opened value = '-' :: closing) (colon : closing.head? ≠ some ':')
    (foreign : ¬ nextIsHex closing = true) : getFromString value = Vector.replicate 16 0 := by
  rw [script_choice value _ text, if_neg (List.cons_ne_nil _ _), if_neg (fun fill => colon fill.2), if_pos ⟨rfl, foreign⟩]

theorem script_filled (value input : Text) (mark : Char) (fill : UInt8) (known : FillMark mark fill) (star : mark ≠ '*')
    (text : opened value = mark :: ':' :: input) : getFromString value = parsePrefixedGroups input fill := by
  rw [script_choice value _ text, if_neg (List.cons_ne_nil _ _)]
  rcases known with ⟨rfl, rfl⟩ | ⟨rfl | rfl, rfl⟩
  · exact if_pos ⟨rfl, rfl⟩
  · rw [if_neg (by simp), if_neg (by simp), if_pos ⟨rfl, rfl⟩, List.drop_succ_cons, List.drop_succ_cons, List.drop_zero]
    by_cases hex : nextIsHex input = true
    · rw [if_neg (not_not.mpr hex)]
    · rw [if_pos hex, parsePrefixedGroups, prefixed_ended 16 [] input (.inr (not_hex_stops input hex))]
      rfl
  · exact absurd rfl star

theorem script_groups (letter : Char) (text : Text) (same : opened value = letter :: text)
    (dash : letter ≠ '-') (colon : letter ≠ ':') : getFromString value = leading (wholeGroups (letter :: text)) := by
  rw [script_choice value _ same, if_neg (List.cons_ne_nil _ _)]
  simp [dash, colon]

theorem trailing_bytes (fill : UInt8) (bytes others : Bytes) (length : others.length = bytes.length)
    (few : bytes.length ≤ 16) (same : trailing fill others = trailing fill bytes) : others = bytes := by
  apply List.ext_getElem?
  intro i
  by_cases inside : i < bytes.length
  · have place : 16 - bytes.length + i < 16 := by omega
    have at_ := congrArg (fun guid => guid[16 - bytes.length + i]) same
    simp only [trailing, Vector.getElem_ofFn, length] at at_
    rw [if_neg (by omega), if_neg (by omega)] at at_
    have back : 16 - bytes.length + i - (16 - bytes.length) = i := by omega
    rw [back, List.getD_eq_getElem _ _ (by omega), List.getD_eq_getElem _ _ inside] at at_
    rw [List.getElem?_eq_getElem (by omega), List.getElem?_eq_getElem inside, at_]
  · rw [List.getElem?_eq_none (by omega), List.getElem?_eq_none (by omega)]

variable (bytes : Bytes)

theorem fitting_few (groups : Fitting highByte 16 text bytes) : bytes.length ≤ 16 := by
  obtain ⟨front, left, run, led, digits, inside, _, ⟨fits, rfl⟩ | ⟨full, _, _, rfl⟩⟩ := groups
  · rw [List.length_append]
    exact fits
  · rw [List.length_append, List.length_singleton]
    omega

theorem trailing_zero (few : bytes.length ≤ 16) :
    Vector.replicate 16 0 = trailing 0xff bytes ↔ bytes = List.replicate 16 0 := by
  have zero : trailing 0xff (List.replicate 16 0) = Vector.replicate 16 0 := by decide
  constructor
  · intro same
    by_cases full : bytes.length = 16
    · refine (trailing_bytes 0xff bytes (List.replicate 16 0) ?_ few (zero.trans same)).symm
      rw [List.length_replicate, full]
    · have first := congrArg (fun guid => guid[0]) same
      simp only [trailing, Vector.getElem_ofFn, Vector.getElem_replicate] at first
      rw [if_pos (by omega)] at first
      cases first
  · rintro rfl
    exact zero.symm

theorem fitting_unique (text : Text) (bytes others : Bytes)
    (groups : Fitting lastByte 16 text bytes) (also : Fitting lastByte 16 text others) : bytes = others := by
  have quiet : ∀ mark, ([] : Text).head? = some mark → ¬ Separator mark := by
    intro mark none
    cases none
  have read := fitting_read lastByte text [] bytes groups rfl quiet
  rw [fitting_read lastByte text [] others also rfl quiet] at read
  exact (Prod.mk.inj read).1.symm

theorem mark_not_groups (mark : Char) (fill : UInt8) (text : Text) (bytes : Bytes)
    (known : FillMark mark fill) (groups : Fitting lastByte 16 (mark :: text) bytes) (some : bytes ≠ []) : False := by
  obtain ⟨letter, tail, headed, digit⟩ := fitting_head lastByte _ bytes groups some
  obtain rfl := (List.cons.inj headed).1
  rw [(fill_mark_body mark fill known).2] at digit
  cases digit

theorem body_read_alike (opening body closing : Text) (guid : Guid) (before : Opening braces opening)
    (behind : Closing braces closing) (whole : WholeBody body guid) :
    getFromString (opening ++ (body ++ closing)) = guid ↔ SharedBody body := by
  obtain ⟨letter, head, own⟩ := whole_body_head body guid whole
  have again := opening_again braces opening (body ++ closing) letter before (by rw [List.head?_append, head]; rfl) own
  obtain ⟨ends, quiet, _⟩ := closing_stops braces closing behind
  cases whole with
  | lone =>
      have colon : closing.head? ≠ some ':' := fun colon => quiet ':' colon (.inl rfl)
      exact ⟨fun _ => .lone, fun _ => script_lone _ closing again.2 colon (stops_not_hex closing ends)⟩
  | whole _ bytes groups full =>
      refine ⟨fun _ => .whole body bytes groups full, fun _ => ?_⟩
      obtain ⟨letter, tail, rfl, digit⟩ := fitting_head _ body bytes groups (by rintro rfl; cases full)
      have plain : ∀ mark, isHexDigit mark = false → letter ≠ mark := by
        rintro mark foreign rfl
        exact Bool.noConfusion (digit.symm.trans foreign)
      rw [script_groups _ letter (tail ++ closing) again.2 (plain '-' rfl) (plain ':' rfl), wholeGroups,
        ← List.cons_append, fitting_read UInt8.ofNat _ closing bytes groups ends quiet]
  | filled mark fill text bytes known groups =>
      have few := fitting_few text bytes groups
      by_cases star : mark = '*'
      · subst star
        obtain rfl : fill = 0xff := by
          rcases known with ⟨dash, _⟩ | ⟨_, same⟩
          · cases dash
          · exact same
        rw [script_groups _ '*' (':' :: text ++ closing) again.2 (by decide) (by decide)]
        have nothing : leading (wholeGroups ('*' :: (':' :: text ++ closing))) = Vector.replicate 16 0 := by
          have none : leading [] = Vector.replicate 16 0 := by decide
          rw [wholeGroups, read_groups_ended UInt8.ofNat 16 16 _ (.inr (List.takeWhile_cons_of_neg (by decide)))]
          exact none
        rw [nothing, trailing_zero bytes few]
        constructor
        · rintro rfl
          exact .starred text groups
        · intro shared
          cases shared with
          | whole _ others wholly full =>
              exact (mark_not_groups _ '*' 0xff _ others known wholly (by rintro rfl; cases full)).elim
          | filled _ _ _ other => rcases other with dash | colon <;> simp_all
          | starred _ zero => exact fitting_unique highByte text _ _ groups zero
      · rw [script_filled _ (text ++ closing) mark fill known star again.2, parsePrefixedGroups]
        obtain ⟨length, paired⟩ := fitting_prefixed text closing bytes groups ends quiet
        constructor
        · intro same
          have plain : mark = '-' ∨ mark = ':' := by
            rcases known with ⟨dash, _⟩ | ⟨colon | asterisk, _⟩
            · exact .inl dash
            · exact .inr colon
            · exact absurd asterisk star
          exact .filled mark text bytes plain groups (paired.mp (trailing_bytes fill bytes _ length few same))
        · intro shared
          cases shared with
          | whole _ others wholly full =>
              exact (mark_not_groups _ mark fill _ others known wholly (by rintro rfl; cases full)).elim
          | filled _ _ _ _ _ paired' => rw [paired.mpr paired']
          | starred _ _ => exact absurd rfl star

theorem shared_body_whole (shared : SharedBody body) : ∃ guid, WholeBody body guid := by
  cases shared with
  | lone => exact ⟨_, .lone⟩
  | whole _ bytes groups full => exact ⟨_, .whole body bytes groups full⟩
  | filled mark text bytes known groups paired =>
      rcases known with rfl | rfl
      · exact ⟨_, .filled '-' 0 text bytes (.inl ⟨rfl, rfl⟩) groups⟩
      · exact ⟨_, .filled ':' 0xff text bytes (.inr ⟨.inl rfl, rfl⟩) groups⟩
  | starred text groups => exact ⟨_, .filled '*' 0xff text _ (.inr ⟨.inr rfl, rfl⟩) groups⟩

theorem read_alike_consumed : ReadAlike text ↔ ConsumedAs text (getFromString text) := by
  constructor
  · intro alike
    exact (alike _).mp rfl
  · intro consumed guid
    constructor
    · rintro rfl
      exact consumed
    · intro other
      have same := consumed.2.symm.trans other.2
      injection same

theorem guid_parsers_agree_iff (text : Text) : ReadAlike text ↔ SharedText text := by
  rw [read_alike_consumed, consumed_as_iff]
  constructor
  · rintro (⟨braces, opening, _⟩ | ⟨braces, opening, body, closing, before, behind, rfl, whole⟩)
    · exact .inl ⟨braces, opening⟩
    · exact .inr ⟨braces, opening, body, closing, before, behind, rfl,
        (body_read_alike braces opening body closing _ before behind whole).mp rfl⟩
  · rintro (⟨braces, opening⟩ | ⟨braces, opening, body, closing, before, behind, rfl, shared⟩)
    · exact .inl ⟨braces, opening, script_empty text (opening_opened braces text opening)⟩
    · obtain ⟨guid, whole⟩ := shared_body_whole body shared
      refine .inr ⟨braces, opening, body, closing, before, behind, rfl, ?_⟩
      rw [(body_read_alike braces opening body closing guid before behind whole).mpr shared]
      exact whole

-- "::12345" is 12:34:50 behind its fill, or 01:23:45; "12" is refused by the C++ parser only.
theorem odd_group_read_otherwise :
    (∃ guid, ConsumedAs [':', ':', '1', '2', '3', '4', '5'] guid ∧
      getFromString [':', ':', '1', '2', '3', '4', '5'] ≠ guid) ∧
      ¬ ∀ text guid, getFromString text = guid → ConsumedAs text guid := by
  refine ⟨⟨trailing 0xff [0x12, 0x34, 0x50], ⟨by decide, by decide⟩, by decide⟩, ?_⟩
  intro every
  have refused : vscpGuidParse ['1', '2'] = ⟨false, leading [0x12], none⟩ := by decide
  have accepted := (every ['1', '2'] _ rfl).2
  rw [refused] at accepted
  cases accepted

end Vscp.NodeGuid
