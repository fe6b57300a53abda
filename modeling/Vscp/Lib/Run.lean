import Mathlib

set_option autoImplicit false

namespace Run

variable {State Input Output : Type}

def run (step : State → Input → State × List Output) (state : State) : List Input → State × List Output
  | [] => (state, [])
  | input :: rest =>
      let taken := step state input
      let later := run step taken.1 rest
      (later.1, taken.2 ++ later.2)

-- Every input is one the system may get in the state it then is in.
def Meets (step : State → Input → State × List Output) (allowed : State → Input → Prop) (state : State) :
    List Input → Prop
  | [] => True
  | input :: rest => allowed state input ∧ Meets step allowed (step state input).1 rest

-- Every output is right, seen after the outputs before it.
def Sound (fair : List Output → Output → Prop) (past : List Output) : List Output → Prop
  | [] => True
  | output :: later => fair past output ∧ Sound fair (past ++ [output]) later

theorem sound_append_iff (fair : List Output → Output → Prop) (past first second : List Output) :
    Sound fair past (first ++ second) ↔ Sound fair past first ∧ Sound fair (past ++ first) second := by
  induction first generalizing past with
  | nil =>
      rw [List.append_nil]
      exact ⟨fun sound => ⟨trivial, sound⟩, And.right⟩
  | cons output later ih =>
      have rest := ih (past ++ [output])
      rw [List.append_assoc, List.singleton_append] at rest
      exact (and_congr_right fun _ => rest).trans and_assoc.symm

theorem sound_append (fair : List Output → Output → Prop) (past first second : List Output)
    (left : Sound fair past first) (right : Sound fair (past ++ first) second) : Sound fair past (first ++ second) :=
  (sound_append_iff fair past first second).mpr ⟨left, right⟩

variable (step : State → Input → State × List Output)

theorem run_keeps (allowed : State → Input → Prop)
    (fair : List Output → Output → Prop) (Inv : State → List Output → Prop)
    (keeps : ∀ state past input, Inv state past → allowed state input →
      Sound fair past (step state input).2 ∧ Inv (step state input).1 (past ++ (step state input).2))
    (state : State) (past : List Output) (inputs : List Input) (start : Inv state past)
    (meets : Meets step allowed state inputs) :
    Sound fair past (run step state inputs).2 ∧
      Inv (run step state inputs).1 (past ++ (run step state inputs).2) := by
  induction inputs generalizing state past with
  | nil => exact ⟨trivial, by rw [run, List.append_nil]; exact start⟩
  | cons input rest ih =>
      obtain ⟨now, next⟩ := keeps state past input start meets.1
      obtain ⟨later, final⟩ := ih (step state input).1 (past ++ (step state input).2) next meets.2
      refine ⟨sound_append fair past _ _ now later, ?_⟩
      rw [run, ← List.append_assoc]
      exact final

def Throughout (step : State → Input → State × List Output) (right : State → List Output → Prop) (state : State)
    (past : List Output) : List Input → Prop
  | [] => True
  | input :: rest =>
      right (step state input).1 (past ++ (step state input).2) ∧
        Throughout step right (step state input).1 (past ++ (step state input).2) rest

theorem throughout_iff_prefixes (right : State → List Output → Prop)
    (state : State) (past : List Output) (inputs : List Input) (start : right state past) :
    Throughout step right state past inputs ↔
      ∀ n, right (run step state (inputs.take n)).1 (past ++ (run step state (inputs.take n)).2) := by
  induction inputs generalizing state past with
  | nil =>
      refine iff_of_true trivial fun n => ?_
      rw [List.take_nil, run, List.append_nil]
      exact start
  | cons input rest ih =>
      constructor
      · rintro ⟨now, later⟩ n
        cases n with
        | zero =>
            rw [List.take_zero, run, List.append_nil]
            exact start
        | succ n =>
            rw [List.take_succ_cons, run, ← List.append_assoc]
            exact (ih _ _ now).mp later n
      · intro all
        have now := all 1
        rw [List.take_succ_cons, List.take_zero, run, run, List.append_nil] at now
        refine ⟨now, (ih _ _ now).mpr fun n => ?_⟩
        have later := all (n + 1)
        rw [List.take_succ_cons, run, ← List.append_assoc] at later
        exact later

theorem throughout_iff_meets (right : State → List Output → Prop)
    (allowed : State → Input → Prop) (Inv : State → List Output → Prop)
    (keeps : ∀ state past input, Inv state past → Inv (step state input).1 (past ++ (step state input).2))
    (exact' : ∀ state past input, Inv state past → right state past →
      (right (step state input).1 (past ++ (step state input).2) ↔ allowed state input))
    (state : State) (past : List Output) (inputs : List Input) (held : Inv state past) (start : right state past) :
    Throughout step right state past inputs ↔ Meets step allowed state inputs := by
  induction inputs generalizing state past with
  | nil => exact Iff.rfl
  | cons input rest ih =>
      have now := exact' state past input held start
      constructor
      · intro through
        exact ⟨now.mp through.1, (ih _ _ (keeps state past input held) through.1).mp through.2⟩
      · intro meets
        have next := now.mpr meets.1
        exact ⟨next, (ih _ _ (keeps state past input held) next).mpr meets.2⟩

theorem run_right_iff_meets (right : State → List Output → Prop)
    (allowed : State → Input → Prop) (Inv : State → List Output → Prop)
    (keeps : ∀ state past input, Inv state past → Inv (step state input).1 (past ++ (step state input).2))
    (exact' : ∀ state past input, Inv state past → right state past →
      (right (step state input).1 (past ++ (step state input).2) ↔ allowed state input))
    (lost : ∀ state past input, Inv state past → right (step state input).1 (past ++ (step state input).2) →
      right state past)
    (state : State) (past : List Output) (inputs : List Input) (held : Inv state past) (start : right state past) :
    right (run step state inputs).1 (past ++ (run step state inputs).2) ↔ Meets step allowed state inputs := by
  have back : ∀ (inputs : List Input) (state : State) (past : List Output), Inv state past →
      right (run step state inputs).1 (past ++ (run step state inputs).2) → right state past := by
    intro inputs
    induction inputs with
    | nil =>
        intro state past held final
        rw [run, List.append_nil] at final
        exact final
    | cons input rest ih =>
        intro state past held final
        rw [run, ← List.append_assoc] at final
        exact lost state past input held (ih _ _ (keeps state past input held) final)
  induction inputs generalizing state past with
  | nil =>
      rw [run, List.append_nil]
      exact iff_of_true start trivial
  | cons input rest ih =>
      have now := exact' state past input held start
      have next := keeps state past input held
      rw [run, ← List.append_assoc]
      constructor
      · intro final
        have first := back rest _ _ next final
        exact ⟨now.mp first, (ih _ _ next first).mp final⟩
      · intro meets
        exact (ih _ _ next (now.mpr meets.1)).mpr meets.2

theorem meets_iff_meets (first second : State → Input → Prop)
    (Inv : State → Prop) (agree : ∀ state input, Inv state → (first state input ↔ second state input))
    (keeps : ∀ state input, Inv state → first state input → Inv (step state input).1) (state : State)
    (inputs : List Input) (start : Inv state) : Meets step first state inputs ↔ Meets step second state inputs := by
  induction inputs generalizing state with
  | nil => exact Iff.rfl
  | cons input rest ih =>
      have now := agree state input start
      constructor
      · intro meets
        exact ⟨now.mp meets.1, (ih _ (keeps state input start meets.1)).mp meets.2⟩
      · intro meets
        have held := now.mpr meets.1
        exact ⟨held, (ih _ (keeps state input start held)).mpr meets.2⟩

theorem meets_and (first second : State → Input → Prop) (state : State)
    (inputs : List Input) (left : Meets step first state inputs) (right : Meets step second state inputs) :
    Meets step (fun state input => first state input ∧ second state input) state inputs := by
  induction inputs generalizing state with
  | nil => exact trivial
  | cons input rest ih => exact ⟨⟨left.1, right.1⟩, ih _ left.2 right.2⟩

theorem meets_always (state : State) (inputs : List Input) :
    Meets step (fun _ _ => True) state inputs := by
  induction inputs generalizing state with
  | nil => exact trivial
  | cons input rest ih => exact ⟨trivial, ih (step state input).1⟩

theorem run_meets_invariant (allowed : State → Input → Prop)
    (Inv : State → Prop) (keeps : ∀ state input, Inv state → allowed state input → Inv (step state input).1)
    (state : State) (inputs : List Input) (start : Inv state) (meets : Meets step allowed state inputs) :
    Inv (run step state inputs).1 := by
  induction inputs generalizing state with
  | nil => exact start
  | cons input rest ih => exact ih (step state input).1 (keeps state input start meets.1) meets.2

theorem run_outputs (good : Output → Prop) (inputs : List Input)
    (keeps : ∀ state, ∀ input ∈ inputs, ∀ output ∈ (step state input).2, good output) (state : State) :
    ∀ output ∈ (run step state inputs).2, good output := by
  induction inputs generalizing state with
  | nil =>
      intro output member
      cases member
  | cons input rest ih =>
      intro output member
      rcases List.mem_append.mp member with now | later
      · exact keeps state input List.mem_cons_self output now
      · exact ih (fun state input member => keeps state input (List.mem_cons_of_mem _ member)) _ output later

theorem outputs_iff_meets (good : Output → Prop)
    (allowed : State → Input → Prop)
    (exact' : ∀ state input, (∀ output ∈ (step state input).2, good output) ↔ allowed state input) (state : State)
    (inputs : List Input) :
    (∀ output ∈ (run step state inputs).2, good output) ↔ Meets step allowed state inputs := by
  induction inputs generalizing state with
  | nil => exact iff_of_true (fun output member => by cases member) trivial
  | cons input rest ih =>
      rw [run, List.forall_mem_append]
      exact and_congr (exact' state input) (ih (step state input).1)

theorem run_simulates {Other : Type} (step : State → Input → State × List Output)
    (otherStep : Other → Input → Other × List Output) (Related : State → Other → Prop)
    (simulates : ∀ state other input, Related state other →
      (step state input).2 = (otherStep other input).2 ∧ Related (step state input).1 (otherStep other input).1)
    (state : State) (other : Other) (inputs : List Input) (start : Related state other) :
    (run step state inputs).2 = (run otherStep other inputs).2 ∧
      Related (run step state inputs).1 (run otherStep other inputs).1 := by
  induction inputs generalizing state other with
  | nil => exact ⟨rfl, start⟩
  | cons input rest ih =>
      obtain ⟨now, next⟩ := simulates state other input start
      obtain ⟨later, final⟩ := ih (step state input).1 (otherStep other input).1 next
      rw [run, run, now, later]
      exact ⟨rfl, final⟩

end Run
