import Mathlib

set_option autoImplicit false

-- A loop that takes one turn at a time until a turn ends it, or breaks it off.
namespace WaitLoop

inductive Turned (State Fault : Type)
  | goes (state : State)
  | ends (state : State)
  | fails (fault : Fault)

inductive Outcome (State Turn Fault : Type)
  | waiting
  | ended (state : State) (made : List Turn)
  | failed (fault : Fault)

variable {State Turn Fault : Type} (step : State → Turn → Turned State Fault)

def loop (state : State) (made : List Turn) : List Turn → Outcome State Turn Fault
  | [] => .waiting
  | turn :: later =>
      match step state turn with
      | .goes next => loop next (made ++ [turn]) later
      | .ends last => .ended last (made ++ [turn])
      | .fails fault => .failed fault

theorem loop_ends (Inv Post : State → List Turn → Prop)
    (keeps : ∀ state made turn next, Inv state made → step state turn = .goes next → Inv next (made ++ [turn]))
    (gives : ∀ state made turn last, Inv state made → step state turn = .ends last → Post last (made ++ [turn]))
    (state last : State) (made all turns : List Turn) (held : Inv state made)
    (ended : loop step state made turns = .ended last all) : Post last all := by
  induction turns generalizing state made with
  | nil => cases ended
  | cons turn later ih =>
      rw [loop] at ended
      cases taken : step state turn with
      | goes next =>
          rw [taken] at ended
          exact ih next (made ++ [turn]) (keeps state made turn next held taken) ended
      | ends final =>
          rw [taken] at ended
          cases ended
          exact gives state made turn last held taken
      | fails fault =>
          rw [taken] at ended
          cases ended

theorem loop_never_fails (safe : ∀ state turn fault, step state turn ≠ .fails fault) (state : State)
    (made turns : List Turn) (fault : Fault) : loop step state made turns ≠ .failed fault := by
  induction turns generalizing state made with
  | nil =>
      intro failed
      cases failed
  | cons turn later ih =>
      rw [loop]
      cases taken : step state turn with
      | goes next => exact ih next (made ++ [turn])
      | ends final =>
          intro failed
          cases failed
      | fails fault => exact absurd taken (safe state turn fault)

end WaitLoop
