import Mathlib

set_option autoImplicit false

-- A file stream that is read line by line into an array, and the loop that reads until the end of the file is seen.
namespace LineStream

variable {Letter : Type} [DecidableEq Letter]

-- `fault` is a read that fails behind the content, where the end of the file would be.
structure File (Letter : Type) where
  content : List Letter
  fault : Bool

structure Stream (Letter : Type) where
  rest : List Letter
  fault : Bool
  eofbit : Bool
  failbit : Bool
  badbit : Bool

def opened : Option (File Letter) → Stream Letter
  | none => ⟨[], false, false, true, false⟩
  | some file => ⟨file.content, file.fault, false, false, false⟩

def Stream.Good (stream : Stream Letter) : Prop :=
  stream.eofbit = false ∧ stream.failbit = false ∧ stream.badbit = false

instance (stream : Stream Letter) : Decidable stream.Good :=
  inferInstanceAs (Decidable (stream.eofbit = false ∧ stream.failbit = false ∧ stream.badbit = false))

-- The array has room for `size - 1` letters and the zero. The end of a line is taken off the stream and not stored; a
-- line without room fails the stream, with the rest of the line still in it. From a stream that is not good nothing is
-- taken, and the array holds no letter.
def getline (delim : Letter) (size : Nat) (stream : Stream Letter) : List Letter × Stream Letter :=
  if stream.Good then
    let line := stream.rest.takeWhile (· ≠ delim)
    if line.length < size then
      match stream.rest.drop line.length with
      | [] => (line, ⟨[], stream.fault, !stream.fault, line = [], stream.fault⟩)
      | _ :: later => (line, { stream with rest := later })
    else (line.take (size - 1), { stream with rest := stream.rest.drop (size - 1), failbit := true })
  else ([], { stream with failbit := true })

section loop

variable {State Result : Type} (delim : Letter) (size : Nat) (body : State → List Letter → Except Result State)
  (done : State → Result)

-- The loop body breaks off with a result or goes on. `none` is a loop that has not ended in so many turns.
@[grind =] def readLines : Nat → Stream Letter → State → Option Result
  | 0, _, _ => none
  | fuel + 1, stream, state =>
      if stream.eofbit then some (done state)
      else
        let taken := getline delim size stream
        match body state taken.1 with
        | .error result => some result
        | .ok next => readLines fuel taken.2 next

@[grind =] def Settles (fault : Bool) (state : State) : List (List Letter) → Prop
  | [] => fault = false
  | line :: later =>
      match body state (line.take (size - 1)) with
      | .error _ => True
      | .ok next => line.length < size ∧ Settles fault next later

end loop

section getline

variable (delim : Letter) (size : Nat) (stream : Stream Letter) (line later : List Letter)

theorem line_taken (single : delim ∉ line) : (line ++ delim :: later).takeWhile (· ≠ delim) = line := by
  rw [List.takeWhile_append_of_pos]
  · simp
  · intro letter member
    rw [decide_eq_true_eq]
    rintro rfl
    exact single member

theorem last_taken (single : delim ∉ line) : line.takeWhile (· ≠ delim) = line := by
  apply List.takeWhile_eq_self_iff.mpr
  intro letter member
  rw [decide_eq_true_eq]
  rintro rfl
  exact single member

theorem getline_line (good : stream.Good) (rest : stream.rest = line ++ delim :: later) (single : delim ∉ line)
    (room : line.length < size) : getline delim size stream = (line, { stream with rest := later }) := by
  rw [getline, if_pos good, rest, line_taken delim line later single]
  dsimp only
  rw [if_pos room, List.drop_left]

theorem getline_last (good : stream.Good) (single : delim ∉ stream.rest) (room : stream.rest.length < size) :
    getline delim size stream =
      (stream.rest, ⟨[], stream.fault, !stream.fault, stream.rest = [], stream.fault⟩) := by
  rw [getline, if_pos good, last_taken delim stream.rest single]
  dsimp only
  rw [if_pos room, List.drop_length]

theorem getline_long (good : stream.Good) (taken : stream.rest.takeWhile (· ≠ delim) = line)
    (long : ¬ line.length < size) :
    getline delim size stream =
      (line.take (size - 1), { stream with rest := stream.rest.drop (size - 1), failbit := true }) := by
  rw [getline, if_pos good, taken]
  dsimp only
  rw [if_neg long]

end getline

section stuck

variable {State Result : Type} (delim : Letter) (size : Nat) (body : State → List Letter → Except Result State)
  (done : State → Result) (idle : ∀ state, ∃ next, body state [] = .ok next)
include idle

theorem read_stuck (fuel : Nat) (stream : Stream Letter) (state : State) (short : stream.eofbit = false)
    (failed : ¬ stream.Good) : readLines delim size body done fuel stream state = none := by
  induction fuel generalizing stream state with
  | zero => rfl
  | succ fuel ih =>
      obtain ⟨next, goes⟩ := idle state
      have still : ¬ ({ stream with failbit := true } : Stream Letter).Good := fun good => Bool.noConfusion good.2.1
      have goesOn : ¬ stream.eofbit = true := fun eof => Bool.noConfusion (short.symm.trans eof)
      rw [readLines, if_neg goesOn, getline, if_neg failed]
      dsimp only
      rw [goes]
      exact ih _ next short still

end stuck

section ends

variable {State Result : Type} (delim : Letter) (size : Nat) (body : State → List Letter → Except Result State)
  (done : State → Result)

def Ends (stream : Stream Letter) (state : State) : Prop :=
  ∃ fuel, (readLines delim size body done fuel stream state).isSome

theorem ends_eof (stream : Stream Letter) (state : State) (eof : stream.eofbit = true) :
    Ends delim size body done stream state := by
  refine ⟨1, ?_⟩
  rw [readLines, if_pos eof]
  rfl

theorem ends_turn (stream : Stream Letter) (state : State) (short : stream.eofbit = false) :
    Ends delim size body done stream state ↔
      match body state (getline delim size stream).1 with
      | .error _ => True
      | .ok next => Ends delim size body done (getline delim size stream).2 next := by
  have turn (fuel : Nat) : readLines delim size body done (fuel + 1) stream state =
      match body state (getline delim size stream).1 with
      | .error result => some result
      | .ok next => readLines delim size body done fuel (getline delim size stream).2 next := by
    rw [readLines, short]
    rfl
  cases turned : body state (getline delim size stream).1 with
  | error result =>
      refine iff_of_true ⟨1, ?_⟩ trivial
      rw [turn, turned]
      rfl
  | ok next =>
      constructor
      · rintro ⟨fuel, ends⟩
        cases fuel with
        | zero => cases ends
        | succ fuel =>
            rw [turn, turned] at ends
            exact ⟨fuel, ends⟩
      · rintro ⟨fuel, ends⟩
        refine ⟨fuel + 1, ?_⟩
        rw [turn, turned]
        exact ends

theorem stuck_never_ends (idle : ∀ state, ∃ next, body state [] = .ok next) (stream : Stream Letter) (state : State)
    (short : stream.eofbit = false) (failed : ¬ stream.Good) : ¬ Ends delim size body done stream state := by
  rintro ⟨fuel, ends⟩
  rw [read_stuck delim size body done idle fuel stream state short failed] at ends
  cases ends

theorem first_line (rest line : List Letter) (later : List (List Letter)) (split : rest.splitOn delim = line :: later) :
    delim ∉ line ∧
      ((∃ tail, rest = line ++ delim :: tail ∧ tail.splitOn delim = later) ∨ (rest = line ∧ later = [])) := by
  by_cases ended : delim ∈ rest
  · obtain ⟨front, tail, rfl, single⟩ := List.eq_append_cons_of_mem ended
    rw [List.splitOn_append_cons_self_of_not_mem single] at split
    obtain ⟨rfl, rfl⟩ := List.cons.inj split
    exact ⟨single, .inl ⟨tail, rfl, rfl⟩⟩
  · rw [List.splitOn_eq_singleton ended] at split
    obtain ⟨rfl, rfl⟩ := List.cons.inj split
    exact ⟨ended, .inr ⟨rfl, rfl⟩⟩

theorem ends_iff_settles (idle : ∀ state, ∃ next, body state [] = .ok next) (lines : List (List Letter))
    (stream : Stream Letter) (state : State) (good : stream.Good) (split : stream.rest.splitOn delim = lines) :
    Ends delim size body done stream state ↔ Settles size body stream.fault state lines := by
  induction lines generalizing stream state with
  | nil => exact absurd split (List.splitOn_ne_nil delim stream.rest)
  | cons line later ih =>
      obtain ⟨single, shape⟩ := first_line delim stream.rest line later split
      rw [ends_turn delim size body done stream state good.1, Settles]
      by_cases room : line.length < size
      · have whole : line.take (size - 1) = line := List.take_of_length_le (by omega)
        rw [whole]
        rcases shape with ⟨tail, rest, tailSplit⟩ | ⟨rest, rfl⟩
        · rw [getline_line delim size stream line tail good rest single room]
          cases body state line with
          | error result => exact Iff.rfl
          | ok next =>
              dsimp only
              rw [and_iff_right room]
              exact ih { stream with rest := tail } next good tailSplit
        · rw [← rest] at single room
          rw [getline_last delim size stream good single room, rest]
          cases body state line with
          | error result => exact Iff.rfl
          | ok next =>
              rw [rest] at room
              dsimp only
              rw [and_iff_right room]
              cases faulty : stream.fault with
              | false => exact iff_of_true (ends_eof delim size body done _ next rfl) rfl
              | true =>
                  exact iff_of_false (stuck_never_ends delim size body done idle _ next rfl
                    fun fine => Bool.noConfusion fine.2.2) (fun fine => Bool.noConfusion fine)
      · have taken : stream.rest.takeWhile (· ≠ delim) = line := by
          rcases shape with ⟨tail, rest, -⟩ | ⟨rest, -⟩
          · rw [rest, line_taken delim line tail single]
          · rw [rest, last_taken delim line single]
        rw [getline_long delim size stream line good taken room]
        cases body state (line.take (size - 1)) with
        | error result => exact Iff.rfl
        | ok next =>
            exact iff_of_false (stuck_never_ends delim size body done idle _ next good.1
              fun fine => Bool.noConfusion fine.2.1) (fun both => room both.1)

end ends

end LineStream
