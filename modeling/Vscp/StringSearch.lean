import Vscp.Event
import Vscp.Lib.SubstringSearch

set_option autoImplicit false

namespace Vscp.Helper

open SubstringSearch

structure CString where
  bytes : Bytes
  plain : 0 ∉ bytes

def tolower (letter : UInt8) : UInt8 := if 65 ≤ letter ∧ letter ≤ 90 then letter + 32 else letter

def compareLetters (change : UInt8 → UInt8) : Nat → Bytes → Bytes → Int
  | 0, _, _ => 0
  | len + 1, s1, s2 =>
      let diff : Int := (change (s1.headD 0)).toNat - (change (s2.headD 0)).toNat
      if diff = 0 ∧ s1.headD 0 ≠ 0 then compareLetters change len s1.tail s2.tail else diff

def strncasecmp (s1 s2 : Bytes) (len : Nat) : Int := compareLetters tolower len s1 s2
def strncmp (s1 s2 : Bytes) (len : Nat) : Int := compareLetters id len s1 s2

def strcasestrLoop (bigStr smallStr : Bytes) : Nat → Nat → Option Nat
  | 0, _ => none
  | more + 1, i =>
      if strncasecmp (bigStr.drop i) smallStr smallStr.length = 0 then some i
      else strcasestrLoop bigStr smallStr more (i + 1)

def strcasestr (bigStr smallStr : CString) : Option Nat :=
  if bigStr.bytes.length ≥ smallStr.bytes.length then
    strcasestrLoop bigStr.bytes smallStr.bytes (bigStr.bytes.length - smallStr.bytes.length + 1) 0
  else none

-- What p1 and p2 still have in front of them; `at'` is p1 as a place in str1.
def stristrLoop (str2 : Bytes) : Bytes → Nat → Bytes → Option Nat → Option Nat
  | [], _, p2, r => if p2 = [] then r else none
  | _ :: _, _, [], r => r
  | a :: p1, at', b :: p2, r =>
      if tolower a = tolower b then stristrLoop str2 p1 (at' + 1) p2 (r.or (some at'))
      -- The letter that differs is compared with the first one, but the place behind `r` is never taken up again.
      else if tolower a = tolower (str2.headD 0) then stristrLoop str2 p1 (at' + 1) str2.tail (some at')
      else stristrLoop str2 p1 (at' + 1) str2 none

def stristr (str1 str2 : CString) : Option Nat :=
  stristrLoop str2.bytes str1.bytes 0 str2.bytes (if str2.bytes = [] then some 0 else none)

def rstrstrLoop (s1 s2 : Bytes) : Nat → Option Nat
  | 0 => if strncmp s1 s2 s2.length = 0 then some 0 else none
  | s + 1 => if strncmp (s1.drop (s + 1)) s2 s2.length = 0 then some (s + 1) else rstrstrLoop s1 s2 s

def rstrstr (s1 s2 : CString) : Option Nat :=
  if s2.bytes.length > s1.bytes.length then none
  else rstrstrLoop s1.bytes s2.bytes (s1.bytes.length - s2.bytes.length)

def lowered (text : CString) : Bytes := text.bytes.map tolower

structure Searches (hay needle : CString) : Prop where
  same : stristr hay needle = strcasestr hay needle
  first : FirstPlace (lowered needle) (lowered hay) (strcasestr hay needle)
  last : LastPlace needle.bytes hay.bytes (rstrstr hay needle)

variable (letter : UInt8)

theorem tolower_zero (zero : tolower letter = 0) : letter = 0 := by
  revert letter
  decide +kernel

variable (change : UInt8 → UInt8)

theorem compare_letters_cons (len : Nat) (a b : UInt8) (s1 s2 : Bytes) :
    compareLetters change (len + 1) (a :: s1) (b :: s2) =
      if ((change a).toNat : Int) - (change b).toNat = 0 ∧ a ≠ 0 then compareLetters change len s1 s2
      else ((change a).toNat : Int) - (change b).toNat :=
  rfl

theorem compare_letters_zero_iff (apart : ∀ letter, change letter = change 0 → letter = 0)
    (s1 s2 : Bytes) (plain : 0 ∉ s2) :
    compareLetters change s2.length s1 s2 = 0 ↔ s2.map change <+: s1.map change := by
  induction s2 generalizing s1 with
  | nil => exact iff_of_true rfl List.nil_prefix
  | cons b s2 ih =>
      obtain ⟨letter, later⟩ := not_or.mp (mt List.mem_cons.mpr plain)
      cases s1 with
      | nil =>
          have differ : change 0 ≠ change b := fun same => letter (apart b same.symm).symm
          have value : ((change 0).toNat : Int) - (change b).toNat ≠ 0 := by
            intro zero
            exact differ (UInt8.toNat_inj.mp (by omega))
          rw [List.length_cons, compareLetters, if_neg fun both => value both.1]
          exact iff_of_false value fun begins => List.cons_ne_nil _ _ (List.prefix_nil.mp begins)
      | cons a s1 =>
          rw [List.length_cons, compare_letters_cons, List.map_cons, List.map_cons, List.cons_prefix_cons]
          by_cases same : change a = change b
          · have zero : ((change a).toNat : Int) - (change b).toNat = 0 := by
              rw [same]
              omega
            have solid : a ≠ 0 := by
              intro isZero
              rw [isZero] at same
              exact letter (apart b same.symm).symm
            rw [if_pos ⟨zero, solid⟩, ih s1 later]
            exact (and_iff_right same.symm).symm
          · have value : ((change a).toNat : Int) - (change b).toNat ≠ 0 := by
              intro zero
              exact same (UInt8.toNat_inj.mp (by omega))
            rw [if_neg fun both => value both.1]
            exact iff_of_false value fun both => same both.1.symm

theorem compare_occurs (apart : ∀ letter, change letter = change 0 → letter = 0)
    (hay needle : Bytes) (plain : 0 ∉ needle) (i : Nat) (within : i ≤ hay.length) :
    compareLetters change needle.length (hay.drop i) needle = 0 ↔
      OccursAt (needle.map change) (hay.map change) i := by
  rw [compare_letters_zero_iff change apart (hay.drop i) needle plain, List.map_drop, OccursAt, List.length_map]
  exact (and_iff_right within).symm

theorem tolower_apart (same : tolower letter = tolower 0) : letter = 0 := tolower_zero letter same

theorem strcasestr_loop_first (hay needle : Bytes) (plain : 0 ∉ needle) (more i : Nat)
    (fits : needle.length ≤ hay.length) (places : i + more = hay.length - needle.length + 1)
    (failed : ∀ j < i, ¬ OccursAt (needle.map tolower) (hay.map tolower) j) :
    FirstPlace (needle.map tolower) (hay.map tolower) (strcasestrLoop hay needle more i) := by
  induction more generalizing i with
  | zero =>
      intro j occurs
      have room := occurs_fits _ _ j occurs
      rw [List.length_map, List.length_map] at room
      exact failed j (by omega) occurs
  | succ more ih =>
      have here := compare_occurs tolower tolower_apart hay needle plain i (by omega)
      rw [strcasestrLoop, strncasecmp]
      by_cases found : compareLetters tolower needle.length (hay.drop i) needle = 0
      · rw [if_pos found]
        exact ⟨here.mp found, failed⟩
      · rw [if_neg found]
        refine ih (i + 1) (by omega) fun j before => ?_
        by_cases earlier : j < i
        · exact failed j earlier
        · have now : j = i := by omega
          rw [now]
          exact mt here.mpr found

variable (hay needle : CString)

theorem strcasestr_first :
    FirstPlace (lowered needle) (lowered hay) (strcasestr hay needle) := by
  unfold strcasestr
  by_cases fits : needle.bytes.length ≤ hay.bytes.length
  · rw [if_pos fits]
    exact strcasestr_loop_first hay.bytes needle.bytes needle.plain _ 0 fits (by omega)
      fun j before => absurd before (Nat.not_lt_zero j)
  · rw [if_neg fits]
    intro i occurs
    have room := occurs_fits _ _ i occurs
    rw [lowered, lowered, List.length_map, List.length_map] at room
    omega

theorem rstrstr_loop_last (hay needle : Bytes) (plain : 0 ∉ needle) (s : Nat) (within : s ≤ hay.length)
    (failed : ∀ j, s < j → ¬ OccursAt needle hay j) : LastPlace needle hay (rstrstrLoop hay needle s) := by
  have compared (i : Nat) (inside : i ≤ hay.length) :
      compareLetters id needle.length (hay.drop i) needle = 0 ↔ OccursAt needle hay i := by
    have here := compare_occurs id (fun letter same => same) hay needle plain i inside
    rw [List.map_id, List.map_id] at here
    exact here
  induction s with
  | zero =>
      have here := compared 0 within
      rw [rstrstrLoop, strncmp]
      by_cases found : compareLetters id needle.length hay needle = 0
      · rw [if_pos found]
        exact ⟨here.mp found, failed⟩
      · rw [if_neg found]
        intro i
        cases i with
        | zero => exact mt here.mpr found
        | succ i => exact failed (i + 1) (Nat.succ_pos i)
  | succ s ih =>
      have here := compared (s + 1) within
      rw [rstrstrLoop, strncmp]
      by_cases found : compareLetters id needle.length (hay.drop (s + 1)) needle = 0
      · rw [if_pos found]
        exact ⟨here.mp found, failed⟩
      · rw [if_neg found]
        refine ih (by omega) fun j behind => ?_
        by_cases later : s + 1 < j
        · exact failed j later
        · have now : j = s + 1 := by omega
          rw [now]
          exact mt here.mpr found

theorem rstrstr_last : LastPlace needle.bytes hay.bytes (rstrstr hay needle) := by
  have beyond (j : Nat) (occurs : OccursAt needle.bytes hay.bytes j) :
      j + needle.bytes.length ≤ hay.bytes.length := occurs_fits _ _ j occurs
  unfold rstrstr
  by_cases long : needle.bytes.length > hay.bytes.length
  · rw [if_pos long]
    intro i occurs
    have room := beyond i occurs
    omega
  · rw [if_neg long]
    refine rstrstr_loop_last hay.bytes needle.bytes needle.plain _ (by omega) fun j behind occurs => ?_
    have room := beyond j occurs
    omega

theorem stristr_loop_scan (str2 p1 : Bytes) (at' : Nat) (p2 : Bytes) (r : Option Nat) (plain : 0 ∉ p1) :
    stristrLoop str2 p1 at' p2 r = scan (str2.map tolower) (p1.map tolower) at' (p2.map tolower) r := by
  induction p1 generalizing at' p2 r with
  | nil =>
      rw [stristrLoop, List.map_nil, scan]
      exact if_congr List.map_eq_nil_iff.symm rfl rfl
  | cons a p1 ih =>
      obtain ⟨letter, later⟩ := not_or.mp (mt List.mem_cons.mpr plain)
      cases p2 with
      | nil => rfl
      | cons b p2 =>
          have head : tolower a = tolower (str2.headD 0) ↔ (str2.map tolower).head? = some (tolower a) := by
            cases str2 with
            | nil =>
                refine iff_of_false (fun same => letter (tolower_apart a same).symm) ?_
                exact Option.some_ne_none _ ∘ Eq.symm
            | cons c str2 => exact eq_comm.trans (Option.some_inj).symm
          rw [stristrLoop, List.map_cons, List.map_cons, scan, ih _ _ _ later, ih _ _ _ later, ih _ _ _ later,
            List.map_tail]
          exact if_congr Iff.rfl rfl (if_congr head rfl rfl)

theorem stristr_search : stristr hay needle = search (lowered needle) (lowered hay) := by
  rw [stristr, stristr_loop_scan _ _ _ _ _ hay.plain]
  exact congrArg (scan _ _ 0 _) (if_congr List.map_eq_nil_iff.symm rfl rfl)

-- The three searches are right exactly where stristr does not pass by the first place.
theorem searches_iff (hay needle : CString) :
    Searches hay needle ↔ ∀ i, FirstPlace (lowered needle) (lowered hay) (some i) →
      ∃ n, startPlace (lowered needle) (lowered hay) n = i := by
  have first := strcasestr_first hay needle
  rw [← search_first_iff, ← stristr_search]
  constructor
  · intro right
    rw [right.same]
    exact right.first
  · intro right
    refine ⟨?_, first, rstrstr_last hay needle⟩
    cases place : strcasestr hay needle with
    | some i =>
        rw [place] at first
        exact first_place_unique _ _ i first _ right
    | none =>
        rw [place] at first
        cases other : stristr hay needle with
        | none => rfl
        | some j =>
            rw [other] at right
            exact absurd right.1 (first j)

-- "aaab" holds "aab" from its second letter on.
theorem stristr_passes_by :
    let hay : CString := ⟨[97, 97, 97, 98], by decide⟩
    let needle : CString := ⟨[97, 97, 98], by decide⟩
    stristr hay needle = none ∧ strcasestr hay needle = some 1 ∧ ¬ Searches hay needle := by
  intro hay needle
  have passed : stristr hay needle = none := by decide
  have found : strcasestr hay needle = some 1 := by decide
  refine ⟨passed, found, fun right => ?_⟩
  rw [right.same, found] at passed
  cases passed

end Vscp.Helper
