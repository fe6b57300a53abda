import Mathlib

set_option autoImplicit false

-- A system that takes one input at a time, answers it, and may fail for good.
namespace PartialRun

variable {State Input Output Fault : Type} (step : State → Input → Except Fault (Output × State))

def run (state : State) : List Input → Except Fault (List Output × State)
  | [] => .ok ([], state)
  | input :: later => (step state input).bind fun taken =>
      (run taken.2 later).map fun rest => (taken.1 :: rest.1, rest.2)

def Reaches (start : State) (inputs : List Input) (state : State) : Prop := ∃ outputs, run step start inputs = .ok (outputs, state)

def Along (allowed : State → Input → Prop) (state : State) : List Input → Prop
  | [] => True
  | input :: later => allowed state input ∧
      ∀ output next, step state input = .ok (output, next) → Along allowed next later

theorem run_cons (state next : State) (input : Input) (later : List Input) (output : Output)
    (taken : step state input = .ok (output, next)) :
    run step state (input :: later) = (run step next later).map fun rest => (output :: rest.1, rest.2) := by
  rw [run, taken]
  rfl

theorem run_fault (state : State) (input : Input) (later : List Input) (fault : Fault)
    (failed : step state input = .error fault) : run step state (input :: later) = .error fault := by
  rw [run, failed]
  rfl

theorem reaches_cons (start state next : State) (input : Input) (later : List Input) (output : Output)
    (taken : step start input = .ok (output, next)) :
    Reaches step start (input :: later) state ↔ Reaches step next later state := by
  constructor
  · rintro ⟨outputs, done⟩
    rw [run_cons step start next input later output taken] at done
    cases rest : run step next later with
    | error fault =>
        rw [rest] at done
        cases done
    | ok taken =>
        rw [rest] at done
        cases done
        exact ⟨taken.1, rest⟩
  · rintro ⟨outputs, done⟩
    refine ⟨output :: outputs, ?_⟩
    rw [run_cons step start next input later output taken, done]
    rfl

theorem reaches_first (start state : State) (input : Input) (later : List Input)
    (reached : Reaches step start (input :: later) state) :
    ∃ output next, step start input = .ok (output, next) ∧ Reaches step next later state := by
  cases taken : step start input with
  | error fault =>
      obtain ⟨outputs, done⟩ := reached
      rw [run_fault step start input later fault taken] at done
      cases done
  | ok pair => exact ⟨pair.1, pair.2, rfl, (reaches_cons step start state pair.2 input later pair.1 taken).mp reached⟩

theorem along_iff_reached (allowed : State → Input → Prop) (start : State) (inputs : List Input) :
    Along step allowed start inputs ↔
      ∀ before input later state, inputs = before ++ input :: later → Reaches step start before state →
        allowed state input := by
  induction inputs generalizing start with
  | nil =>
      refine iff_of_true trivial ?_
      intro before input later state parts _
      cases before <;> cases parts
  | cons first rest ih =>
      constructor
      · rintro ⟨now, next⟩ before input later state parts reached
        cases before with
        | nil =>
            cases parts
            obtain ⟨outputs, done⟩ := reached
            cases done
            exact now
        | cons head before =>
            cases parts
            obtain ⟨output, after, taken, reached⟩ := reaches_first step start state first before reached
            exact (ih after).mp (next output after taken) before input later state rfl reached
      · intro all
        refine ⟨all [] first rest start rfl ⟨[], rfl⟩, fun output next taken => (ih next).mpr ?_⟩
        rintro before input later state rfl reached
        exact all (first :: before) input later state rfl
          ((reaches_cons step start state next first before output taken).mpr reached)

theorem reached_keeps (allowed : State → Input → Prop) (Inv : State → Prop)
    (keeps : ∀ state input output next, Inv state → allowed state input → step state input = .ok (output, next) → Inv next)
    (start : State) (inputs before : List Input) (state : State) (initial : before <+: inputs) (inv : Inv start)
    (along : Along step allowed start inputs) (reached : Reaches step start before state) : Inv state := by
  induction before generalizing start inputs with
  | nil =>
      obtain ⟨outputs, done⟩ := reached
      cases done
      exact inv
  | cons first before ih =>
      obtain ⟨rest, parts⟩ := initial
      cases parts
      obtain ⟨output, next, taken, reached⟩ := reaches_first step start state first before reached
      exact ih next (before ++ rest) (List.prefix_append before rest)
        (keeps start first output next inv along.1 taken) (along.2 output next taken) reached

theorem run_never_fails (allowed : State → Input → Prop) (Inv : State → Prop) (bad : Fault)
    (keeps : ∀ state input output next, Inv state → allowed state input → step state input = .ok (output, next) → Inv next)
    (safe : ∀ state input, Inv state → allowed state input → step state input ≠ .error bad)
    (start : State) (inputs : List Input) (inv : Inv start) (along : Along step allowed start inputs) :
    run step start inputs ≠ .error bad := by
  induction inputs generalizing start with
  | nil =>
      intro failed
      cases failed
  | cons input later ih =>
      cases taken : step start input with
      | error fault =>
          rw [run_fault step start input later fault taken]
          intro failed
          cases failed
          exact safe start input inv along.1 taken
      | ok pair =>
          have rest := ih pair.2 (keeps start input pair.1 pair.2 inv along.1 taken) (along.2 pair.1 pair.2 taken)
          rw [run_cons step start pair.2 input later pair.1 taken]
          cases done : run step pair.2 later with
          | error fault =>
              rw [done] at rest
              intro failed
              cases failed
              exact rest rfl
          | ok result =>
              intro failed
              cases failed

theorem fails_at (bad : Fault) (start state : State) (before later : List Input) (input : Input)
    (reached : Reaches step start before state) (failed : step state input = .error bad) :
    run step start (before ++ input :: later) = .error bad := by
  induction before generalizing start with
  | nil =>
      obtain ⟨outputs, done⟩ := reached
      cases done
      exact run_fault step state input later bad failed
  | cons first before ih =>
      obtain ⟨output, next, taken, reached⟩ := reaches_first step start state first before reached
      rw [List.cons_append, run_cons step start next first _ output taken, ih next reached]
      rfl

theorem reaches_append (start state next : State) (before : List Input) (input : Input) (output : Output)
    (reached : Reaches step start before state) (taken : step state input = .ok (output, next)) :
    Reaches step start (before ++ [input]) next := by
  induction before generalizing start with
  | nil =>
      obtain ⟨outputs, done⟩ := reached
      cases done
      exact (reaches_cons step state next next input [] output taken).mpr ⟨[], rfl⟩
  | cons first before ih =>
      obtain ⟨early, after, here, reached⟩ := reaches_first step start state first before reached
      exact (reaches_cons step start next after first _ early here).mpr (ih after reached)

end PartialRun
