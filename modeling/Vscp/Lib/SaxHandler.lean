import Mathlib.Data.List.Perm.Basic

set_option autoImplicit false

namespace SaxHandler

-- What a streaming parser reports of a document: the tags, and between two of them the pieces of
-- character data in the order of the handler calls that deliver them.
inductive Node where
  | start (name : List Char) (attributes : List (List Char × List Char))
  | text (pieces : List (List Char))
  | stop (name : List Char)

-- One document delivered twice: attributes in any order, character data cut anywhere.
inductive Node.Same : Node → Node → Prop where
  | start (name : List Char) {attributes others : List (List Char × List Char)} (reordered : attributes.Perm others) :
      Node.Same (.start name attributes) (.start name others)
  | text {pieces others : List (List Char)} (joined : pieces.flatten = others.flatten) :
      Node.Same (.text pieces) (.text others)
  | stop (name : List Char) : Node.Same (.stop name) (.stop name)

theorem Node.Same.refl : ∀ node : Node, node.Same node
  | .start name attributes => .start name (List.Perm.refl attributes)
  | .text _ => .text rfl
  | .stop name => .stop name

theorem same_refl (nodes : List Node) : List.Forall₂ Node.Same nodes nodes :=
  List.forall₂_same.mpr fun node _ => Node.Same.refl node

section

variable {State : Type} (start : State → List Char → List (List Char × List Char) → Option State)
  (text : State → List Char → Option State) (stop : State → List Char → Option State)

def handle (state : State) : Node → Option State
  | .start name attributes => start state name attributes
  | .text pieces => pieces.foldlM text state
  | .stop name => stop state name

def handleAll (state : State) (nodes : List Node) : Option State := nodes.foldlM (handle start text stop) state

variable (orderFree : State → List Char → List (List Char × List Char) → Prop)
  (cutFree : State → List (List Char) → Prop)

def NodeSettled (state : State) : Node → Prop
  | .start name attributes => orderFree state name attributes
  | .text pieces => cutFree state pieces
  | .stop _ => True

-- No tag on the way has attributes whose order matters, and no text pieces whose cuts do.
def Settled (state : State) : List Node → Prop
  | [] => True
  | node :: nodes =>
      NodeSettled orderFree cutFree state node ∧
      match handle start text stop state node with
      | none => True
      | some next => Settled next nodes

instance decidableNodeSettled [∀ state name attributes, Decidable (orderFree state name attributes)]
    [∀ state pieces, Decidable (cutFree state pieces)] (state : State) :
    ∀ node : Node, Decidable (NodeSettled orderFree cutFree state node)
  | .start name attributes => inferInstanceAs (Decidable (orderFree state name attributes))
  | .text pieces => inferInstanceAs (Decidable (cutFree state pieces))
  | .stop _ => isTrue trivial

instance decidableSettled [∀ state name attributes, Decidable (orderFree state name attributes)]
    [∀ state pieces, Decidable (cutFree state pieces)] :
    ∀ (nodes : List Node) (state : State), Decidable (Settled start text stop orderFree cutFree state nodes)
  | [], _ => isTrue trivial
  | node :: nodes, state =>
      @instDecidableAnd _ _ (decidableNodeSettled orderFree cutFree state node)
        (match handle start text stop state node with
        | none => isTrue trivial
        | some next => decidableSettled nodes next)

variable {start text stop orderFree cutFree}

theorem handle_same
    (reorder : ∀ state name attributes others, attributes.Perm others → orderFree state name attributes →
      start state name attributes = start state name others)
    (recut : ∀ state pieces others, pieces.flatten = others.flatten → cutFree state pieces → cutFree state others →
      pieces.foldlM text state = others.foldlM text state)
    (state : State) (nodes others : List Node) (same : List.Forall₂ Node.Same nodes others)
    (settled : Settled start text stop orderFree cutFree state nodes)
    (otherSettled : Settled start text stop orderFree cutFree state others) :
    handleAll start text stop state nodes = handleAll start text stop state others := by
  induction same generalizing state with
  | nil => rfl
  | @cons node other rest otherRest first _ ih =>
      have alike : handle start text stop state node = handle start text stop state other := by
        cases first with
        | start name reordered => exact reorder state name _ _ reordered settled.1
        | text joined => exact recut state _ _ joined settled.1 otherSettled.1
        | stop name => rfl
      have goes := settled.2
      have otherGoes := otherSettled.2
      rw [← alike] at otherGoes
      cases step : handle start text stop state node with
      | none =>
          have otherStep := alike.symm.trans step
          simp only [handleAll, List.foldlM_cons, step, otherStep, Option.bind_eq_bind, Option.bind_none]
      | some next =>
          have otherStep := alike.symm.trans step
          rw [step] at goes otherGoes
          have later := ih next goes otherGoes
          simpa only [handleAll, List.foldlM_cons, step, otherStep, Option.bind_eq_bind, Option.bind_some] using later

theorem foldlM_related {Input : Type} (step : State → Input → Option State) (Related : State → State → Prop)
    (keeps : ∀ state other input, Related state other → Option.Rel Related (step state input) (step other input))
    (inputs : List Input) (state other : State) (related : Related state other) :
    Option.Rel Related (inputs.foldlM step state) (inputs.foldlM step other) := by
  induction inputs generalizing state other with
  | nil => exact Option.Rel.some related
  | cons input later ih =>
      have next := keeps state other input related
      rw [List.foldlM_cons, List.foldlM_cons]
      generalize step state input = taken at next
      generalize step other input = otherTaken at next
      cases next with
      | none => exact Option.Rel.none
      | some after => exact ih _ _ after

theorem handle_related (Related : State → State → Prop)
    (starts : ∀ state other name attributes, Related state other →
      Option.Rel Related (start state name attributes) (start other name attributes))
    (texts : ∀ state other piece, Related state other → Option.Rel Related (text state piece) (text other piece))
    (stops : ∀ state other name, Related state other → Option.Rel Related (stop state name) (stop other name))
    (nodes : List Node) (state other : State) (related : Related state other) :
    Option.Rel Related (handleAll start text stop state nodes) (handleAll start text stop other nodes) := by
  refine foldlM_related (handle start text stop) Related ?_ nodes state other related
  intro state other node related
  cases node with
  | start name attributes => exact starts state other name attributes related
  | text pieces => exact foldlM_related text Related texts pieces state other related
  | stop name => exact stops state other name related

end

theorem foldl_perm {α β : Type} (step : β → α → β) (Kept : β → Prop) {entries others : List α}
    (reordered : entries.Perm others) (keep : ∀ entry ∈ entries, ∀ state, Kept state → Kept (step state entry))
    (swap : ∀ first ∈ entries, ∀ second ∈ entries, ∀ state, Kept state →
      step (step state first) second = step (step state second) first)
    (state : β) (kept : Kept state) : entries.foldl step state = others.foldl step state := by
  induction reordered generalizing state with
  | nil => rfl
  | cons entry _ ih =>
      exact ih (fun other member => keep other (List.mem_cons_of_mem _ member))
        (fun first m second n => swap first (List.mem_cons_of_mem _ m) second (List.mem_cons_of_mem _ n)) _
        (keep entry List.mem_cons_self state kept)
  | swap first second rest =>
      have swapped := swap second (by simp) first (by simp) state kept
      simp only [List.foldl_cons, swapped]
  | trans before _ ihBefore ihAfter =>
      rw [ihBefore keep swap state kept]
      exact ihAfter (fun entry member => keep entry (before.mem_iff.mpr member))
        (fun first m second n => swap first (before.mem_iff.mpr m) second (before.mem_iff.mpr n)) state kept

end SaxHandler
