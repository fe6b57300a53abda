import Mathlib

set_option autoImplicit false

namespace SubstringSearch

variable {α : Type}

def OccursAt (needle hay : List α) (i : Nat) : Prop := i ≤ hay.length ∧ needle <+: hay.drop i

def FirstPlace (needle hay : List α) : Option Nat → Prop
  | some i => OccursAt needle hay i ∧ ∀ j < i, ¬ OccursAt needle hay j
  | none => ∀ i, ¬ OccursAt needle hay i

def LastPlace (needle hay : List α) : Option Nat → Prop
  | some i => OccursAt needle hay i ∧ ∀ j, i < j → ¬ OccursAt needle hay j
  | none => ∀ i, ¬ OccursAt needle hay i

theorem occurs_at_iff (needle hay : List α) (i : Nat) :
    OccursAt needle hay i ↔ ∃ front back, hay = front ++ (needle ++ back) ∧ front.length = i := by
  constructor
  · rintro ⟨within, back, same⟩
    exact ⟨hay.take i, back, by rw [same, List.take_append_drop], List.length_take_of_le within⟩
  · rintro ⟨front, back, rfl, rfl⟩
    refine ⟨by simp, ?_⟩
    rw [List.drop_left]
    exact List.prefix_append needle back

theorem occurs_fits (needle hay : List α) (i : Nat) (occurs : OccursAt needle hay i) :
    i + needle.length ≤ hay.length := by
  obtain ⟨front, back, rfl, rfl⟩ := (occurs_at_iff needle hay i).mp occurs
  simp only [List.length_append]
  omega

theorem no_match_here (front agreed rest todo : List α) (a b : α) (differ : a ≠ b) :
    ¬ OccursAt (agreed ++ b :: todo) (front ++ (agreed ++ a :: rest)) front.length := by
  rintro ⟨_, begins⟩
  rw [List.drop_left, List.prefix_append_right_inj, List.cons_prefix_cons] at begins
  exact differ begins.1.symm

theorem first_place_unique (needle hay : List α) (i : Nat) (first : FirstPlace needle hay (some i))
    (place : Option Nat) (is : FirstPlace needle hay place) : place = some i := by
  cases place with
  | none => exact absurd first.1 (is i)
  | some j =>
      have upper : j ≤ i := Nat.not_lt.mp fun later => is.2 i later first.1
      have lower : i ≤ j := Nat.not_lt.mp fun earlier => first.2 j earlier is.1
      rw [Nat.le_antisymm upper lower]

variable [DecidableEq α]

instance (needle hay : List α) (i : Nat) : Decidable (OccursAt needle hay i) :=
  inferInstanceAs (Decidable (i ≤ hay.length ∧ needle <+: hay.drop i))

@[grind =] def matched : List α → List α → Nat
  | a :: needle, b :: hay => if a = b then matched needle hay + 1 else 0
  | _, _ => 0

-- A search that goes through the hay once: after a place that fails it goes on behind the letters that agreed there.
-- `todo` is what is left of the needle and `place` where its first letter was.
@[grind =] def scan (needle : List α) : List α → Nat → List α → Option Nat → Option Nat
  | [], _, todo, place => if todo = [] then place else none
  | _ :: _, _, [], place => place
  | a :: rest, at', b :: todo, place =>
      if a = b then scan needle rest (at' + 1) todo (place.or (some at'))
      else if needle.head? = some a then scan needle rest (at' + 1) needle.tail (some at')
      else scan needle rest (at' + 1) needle none

@[grind =] def startPlace (needle hay : List α) : Nat → Nat
  | 0 => 0
  | n + 1 => startPlace needle hay n + max 1 (matched needle (hay.drop (startPlace needle hay n)))

theorem matched_agreed (agreed rest todo : List α) (a b : α) (differ : a ≠ b) :
    matched (agreed ++ b :: todo) (agreed ++ a :: rest) = agreed.length := by
  induction agreed with
  | nil => exact if_neg differ.symm
  | cons c agreed ih =>
      rw [List.cons_append, List.cons_append, matched, if_pos rfl, ih]
      rfl

theorem start_place_next (needle hay : List α) (n : Nat) :
    startPlace needle hay n < startPlace needle hay (n + 1) := by
  rw [startPlace]
  omega

theorem start_place_mono (needle hay : List α) : StrictMono (startPlace needle hay) :=
  strictMono_nat_of_lt_succ (start_place_next needle hay)

theorem start_place_after (front agreed rest todo : List α) (a b : α) (n : Nat) (differ : a ≠ b)
    (here : startPlace (agreed ++ b :: todo) (front ++ (agreed ++ a :: rest)) n = front.length) :
    startPlace (agreed ++ b :: todo) (front ++ (agreed ++ a :: rest)) (n + 1) =
      front.length + max 1 agreed.length := by
  rw [startPlace, here, List.drop_left, matched_agreed agreed rest todo a b differ]

def FirstTried (needle hay : List α) : Option Nat → Prop
  | some i => OccursAt needle hay i ∧
      ∃ n, startPlace needle hay n = i ∧ ∀ m < n, ¬ OccursAt needle hay (startPlace needle hay m)
  | none => ∀ n, ¬ OccursAt needle hay (startPlace needle hay n)

-- What holds while the letters `agreed` are found at the place, which is the n-th that is tried.
structure Agreed (needle hay front agreed rest todo : List α) (n : Nat) : Prop where
  some : needle ≠ []
  parts : needle = agreed ++ todo
  seen : hay = front ++ (agreed ++ rest)
  here : startPlace needle hay n = front.length
  failed : ∀ m < n, ¬ OccursAt needle hay (startPlace needle hay m)

section

variable {needle hay front agreed rest todo : List α} {n : Nat}

theorem agreed_whole (now : Agreed needle hay front agreed rest [] n) : FirstTried needle hay (some front.length) := by
  refine ⟨(occurs_at_iff needle hay _).mpr ⟨front, rest, ?_, rfl⟩, n, now.here, now.failed⟩
  rw [now.parts, now.seen, List.append_nil]

theorem agreed_at_end (now : Agreed needle hay front agreed [] todo n) (left : todo ≠ []) :
    FirstTried needle hay none := by
  intro m occurs
  by_cases earlier : m < n
  · exact now.failed m earlier occurs
  · have beyond := (start_place_mono needle hay).monotone (Nat.not_lt.mp earlier)
    have place := now.here
    have fits := occurs_fits needle hay _ occurs
    have some := List.length_pos_of_ne_nil left
    have size := congrArg List.length now.parts
    have total := congrArg List.length now.seen
    simp only [List.length_append, List.length_nil] at size total
    omega

theorem agreed_next {a : α} (now : Agreed needle hay front agreed (a :: rest) (a :: todo) n) :
    Agreed needle hay front (agreed ++ [a]) rest todo n := by
  refine ⟨now.some, ?_, ?_, now.here, now.failed⟩
  · rw [now.parts, List.append_assoc, List.singleton_append]
  · rw [now.seen, List.append_assoc, List.singleton_append]

theorem differs_behind {a b : α} (differ : a ≠ b) (some : agreed ≠ [])
    (now : Agreed needle hay front agreed (a :: rest) (b :: todo) n) :
    Agreed needle hay (front ++ agreed) [] (a :: rest) needle (n + 1) := by
  have place := now.here
  have size := List.length_pos_of_ne_nil some
  refine ⟨now.some, rfl, ?_, ?_, ?_⟩
  · rw [now.seen, List.nil_append, List.append_assoc]
  · have next := start_place_after front agreed rest todo a b n differ (by rw [← now.parts, ← now.seen, place])
    rw [← now.parts, ← now.seen] at next
    rw [next, List.length_append]
    omega
  · intro m before
    by_cases earlier : m < n
    · exact now.failed m earlier
    · have last : m = n := by omega
      rw [last, place, now.parts, now.seen]
      exact no_match_here front agreed rest todo a b differ

theorem differs_first {a : α} (differ : needle.head? ≠ some a) (now : Agreed needle hay front [] (a :: rest) needle n) :
    Agreed needle hay (front ++ [a]) [] rest needle (n + 1) := by
  obtain ⟨b, after, whole⟩ := List.exists_cons_of_ne_nil now.some
  have other : a ≠ b := fun same => differ (by rw [whole, same]; rfl)
  have place := now.here
  have seen := now.seen
  rw [List.nil_append] at seen
  refine ⟨now.some, rfl, ?_, ?_, ?_⟩
  · rw [seen, List.nil_append, List.append_assoc, List.singleton_append]
  · have next := start_place_after front [] rest after a b n other
    rw [List.nil_append, List.nil_append, ← whole, ← seen] at next
    rw [next place, List.length_append]
    rfl
  · intro m before
    by_cases earlier : m < n
    · exact now.failed m earlier
    · have last : m = n := by omega
      rw [last, place, seen, whole]
      exact no_match_here front [] rest after a b other

end

theorem scan_first_tried (needle hay front agreed rest todo : List α) (n : Nat)
    (now : Agreed needle hay front agreed rest todo n) :
    FirstTried needle hay
      (scan needle rest (front.length + agreed.length) todo (if agreed = [] then none else some front.length)) := by
  induction rest generalizing front agreed todo n with
  | nil =>
      rw [scan]
      cases todo with
      | nil =>
          have whole : agreed ≠ [] := fun empty => now.some (by rw [now.parts, empty]; rfl)
          rw [if_pos rfl, if_neg whole]
          exact agreed_whole now
      | cons b todo =>
          rw [if_neg (List.cons_ne_nil b todo)]
          exact agreed_at_end now (List.cons_ne_nil b todo)
  | cons a rest ih =>
      cases todo with
      | nil =>
          have whole : agreed ≠ [] := fun empty => now.some (by rw [now.parts, empty]; rfl)
          rw [scan, if_neg whole]
          exact agreed_whole now
      | cons b todo =>
          rw [scan]
          by_cases same : a = b
          · subst same
            have next := ih front (agreed ++ [a]) todo n (agreed_next now)
            rw [if_neg (List.append_ne_nil_of_right_ne_nil agreed (List.cons_ne_nil a [])), List.length_append,
              List.length_singleton, ← Nat.add_assoc] at next
            rw [if_pos rfl]
            cases agreed with
            | nil => exact next
            | cons c agreed => exact next
          · rw [if_neg same]
            by_cases empty : agreed = []
            · subst empty
              have whole : needle = b :: todo := now.parts
              have differ : needle.head? ≠ some a := by
                rw [whole]
                exact fun is => same (Option.some.inj is).symm
              rw [if_neg differ]
              have next := ih (front ++ [a]) [] needle (n + 1) (differs_first differ (whole ▸ now))
              rw [if_pos rfl, List.length_append, List.length_singleton] at next
              exact next
            · have behind := differs_behind same empty now
              by_cases again : needle.head? = some a
              · rw [if_pos again]
                obtain ⟨after, whole⟩ : ∃ after, needle = a :: after := by
                  cases needle with
                  | nil => cases again
                  | cons c after => exact ⟨after, by rw [Option.some.inj again]⟩
                have shaped : Agreed needle hay (front ++ agreed) [] (a :: rest) (a :: after) (n + 1) := by
                  rw [← whole]
                  exact behind
                have next := ih (front ++ agreed) [a] after (n + 1) (agreed_next shaped)
                rw [if_neg (List.cons_ne_nil a []), List.length_append, List.length_singleton] at next
                have tail : needle.tail = after := congrArg List.tail whole
                rw [tail]
                exact next
              · rw [if_neg again]
                have next := ih (front ++ agreed ++ [a]) [] needle (n + 2) (differs_first again behind)
                rw [if_pos rfl, List.length_append, List.length_append, List.length_singleton] at next
                exact next

theorem first_place_exists (needle hay : List α) (i : Nat) (occurs : OccursAt needle hay i) :
    ∃ j, FirstPlace needle hay (some j) := by
  have some : ∃ j, OccursAt needle hay j := ⟨i, occurs⟩
  exact ⟨Nat.find some, Nat.find_spec some, fun j earlier => Nat.find_min some earlier⟩

def search (needle hay : List α) : Option Nat :=
  scan needle hay 0 needle (if needle = [] then some 0 else none)

theorem search_first_tried (needle hay : List α) (some : needle ≠ []) :
    FirstTried needle hay (search needle hay) := by
  have start : Agreed needle hay [] [] hay needle 0 :=
    ⟨some, rfl, rfl, rfl, fun m before => absurd before (Nat.not_lt_zero m)⟩
  rw [search, if_neg some]
  exact scan_first_tried needle hay [] [] hay needle 0 start

theorem search_empty (hay : List α) : search [] hay = some 0 := by
  cases hay <;> rfl

theorem search_first_iff (needle hay : List α) :
    FirstPlace needle hay (search needle hay) ↔
      ∀ i, FirstPlace needle hay (some i) → ∃ n, startPlace needle hay n = i := by
  by_cases empty : needle = []
  · subst empty
    have first : FirstPlace [] hay (some 0) :=
      ⟨⟨Nat.zero_le _, List.nil_prefix⟩, fun j before => absurd before (Nat.not_lt_zero j)⟩
    rw [search_empty]
    exact iff_of_true first fun i is => ⟨0, Option.some.inj (first_place_unique [] hay i is _ first)⟩
  · have tried := search_first_tried needle hay empty
    constructor
    · intro right i first
      rw [first_place_unique needle hay i first _ right] at tried
      obtain ⟨_, n, here, _⟩ := tried
      exact ⟨n, here⟩
    · intro starts
      cases place : search needle hay with
      | none =>
          rw [place] at tried
          intro i occurs
          obtain ⟨j, first⟩ := first_place_exists needle hay i occurs
          obtain ⟨n, here⟩ := starts j first
          exact tried n (here ▸ first.1)
      | some i =>
          rw [place] at tried
          obtain ⟨occurs, n, here, failed⟩ := tried
          obtain ⟨j, first⟩ := first_place_exists needle hay i occurs
          obtain ⟨k, there⟩ := starts j first
          have upper : j ≤ i := Nat.not_lt.mp fun later => first.2 i later occurs
          have lower : n ≤ k := Nat.not_lt.mp fun earlier => failed k earlier (there ▸ first.1)
          have order := (start_place_mono needle hay).monotone lower
          have same : i = j := by omega
          rw [same]
          exact first

end SubstringSearch
