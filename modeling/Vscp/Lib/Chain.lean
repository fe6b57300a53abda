import Mathlib

set_option autoImplicit false

-- Doubly linked chains in a memory that gives each address in use its two links.
namespace Chain

abbrev Addr := Nat

structure Links where
  next : Option Addr
  prev : Option Addr
deriving DecidableEq

abbrev Memory := Addr → Option Links

-- The nodes follow one another; `before` and `behind` are what the outer links of the ends hold.
@[grind =] def Segment (memory : Memory) : Option Addr → List Addr → Option Addr → Prop
  | _, [], _ => True
  | before, address :: rest, behind =>
      memory address = some ⟨rest.head?.or behind, before⟩ ∧ Segment memory (some address) rest behind

def setNext (memory : Memory) (target next : Option Addr) : Memory := fun address =>
  if target = some address then (memory address).map fun links => { links with next := next } else memory address

def setPrev (memory : Memory) (target prev : Option Addr) : Memory := fun address =>
  if target = some address then (memory address).map fun links => { links with prev := prev } else memory address

@[grind =] def walk (link : Links → Option Addr) (memory : Memory) : Nat → Option Addr → Option (List Addr)
  | _, none => some []
  | 0, some _ => none
  | bound + 1, some address =>
      (memory address).bind fun links => (walk link memory bound (link links)).map (address :: ·)

variable (memory : Memory)

variable (before behind : Option Addr) (front back : List Addr)

theorem segment_append :
    Segment memory before (front ++ back) behind ↔
      Segment memory before front (back.head?.or behind) ∧ Segment memory (front.getLast?.or before) back behind := by
  induction front generalizing before with
  | nil => simp [Segment]
  | cons address front ih =>
      have last : ((address :: front).getLast?.or before) = front.getLast?.or (some address) := by
        cases front <;> simp [List.getLast?_cons]
      have first : (front ++ back).head?.or behind = front.head?.or (back.head?.or behind) := by
        cases front <;> simp
      rw [List.cons_append, Segment, Segment, ih, last, first, and_assoc]

theorem segment_frame (memory changed : Memory) (before behind : Option Addr) (nodes : List Addr)
    (same : ∀ address ∈ nodes, changed address = memory address) (linked : Segment memory before nodes behind) :
    Segment changed before nodes behind := by
  induction nodes generalizing before with
  | nil => exact trivial
  | cons address nodes ih =>
      refine ⟨(same address List.mem_cons_self).trans linked.1, ?_⟩
      exact ih (some address) (fun other member => same other (List.mem_cons_of_mem address member)) linked.2

theorem segment_readable (nodes : List Addr)
    (linked : Segment memory before nodes behind) : ∀ address ∈ nodes, (memory address).isSome := by
  induction nodes generalizing before with
  | nil =>
      intro address member
      cases member
  | cons first nodes ih =>
      intro address member
      rcases List.mem_cons.mp member with rfl | later
      · rw [linked.1]
        rfl
      · exact ih (some first) linked.2 address later

theorem set_next_other (target next : Option Addr) (address : Addr) (other : target ≠ some address) :
    setNext memory target next address = memory address := if_neg other

theorem set_prev_other (target prev : Option Addr) (address : Addr) (other : target ≠ some address) :
    setPrev memory target prev address = memory address := if_neg other

theorem segment_set_next (before behind next : Option Addr) (nodes : List Addr) (distinct : nodes.Nodup)
    (linked : Segment memory before nodes behind) : Segment (setNext memory nodes.getLast? next) before nodes next := by
  induction nodes generalizing before with
  | nil => exact trivial
  | cons address nodes ih =>
      obtain ⟨absent, others⟩ := List.nodup_cons.mp distinct
      cases nodes with
      | nil =>
          refine ⟨?_, trivial⟩
          simp [setNext, linked.1]
      | cons second nodes =>
          have last : (address :: second :: nodes).getLast? = (second :: nodes).getLast? := by
            simp [List.getLast?_cons]
          have far : (second :: nodes).getLast? ≠ some address :=
            fun same => absent (List.mem_of_getLast? same)
          rw [last]
          refine ⟨?_, ih (some address) others linked.2⟩
          rw [set_next_other memory _ next address far, linked.1]
          rfl

theorem segment_set_prev (before behind prev : Option Addr) (nodes : List Addr) (distinct : nodes.Nodup)
    (linked : Segment memory before nodes behind) : Segment (setPrev memory nodes.head? prev) prev nodes behind := by
  cases nodes with
  | nil => exact trivial
  | cons address nodes =>
      have absent := (List.nodup_cons.mp distinct).1
      refine ⟨?_, ?_⟩
      · simp [setPrev, linked.1]
      · apply segment_frame memory _ _ _ nodes _ linked.2
        intro other member
        apply set_prev_other
        rintro same
        cases Option.some.inj same
        exact absent member

theorem splice (fresh : Addr) (distinct : (front ++ fresh :: back).Nodup)
    (linked : Segment memory none (front ++ back) none) (own : memory fresh = some ⟨back.head?, front.getLast?⟩) :
    Segment (setPrev (setNext memory front.getLast? (some fresh)) back.head? (some fresh)) none
      (front ++ fresh :: back) none := by
  obtain ⟨distinctFront, distinctRest, apart⟩ := List.nodup_append.mp distinct
  obtain ⟨absent, distinctBack⟩ := List.nodup_cons.mp distinctRest
  obtain ⟨linkedFront, linkedBack⟩ := (segment_append memory none none front back).mp linked
  have notFront : front.getLast? ≠ some fresh :=
    fun same => apart fresh (List.mem_of_getLast? same) fresh List.mem_cons_self rfl
  have notBack : back.head? ≠ some fresh := fun same => absent (List.mem_of_head? same)
  rw [segment_append]
  constructor
  · apply segment_frame (setNext memory front.getLast? (some fresh))
    · intro address member
      apply set_prev_other
      intro same
      exact apart address member address (List.mem_cons_of_mem fresh (List.mem_of_head? same)) rfl
    · exact segment_set_next memory none _ _ front distinctFront linkedFront
  · refine ⟨?_, ?_⟩
    · rw [set_prev_other _ _ _ _ notBack, set_next_other _ _ _ _ notFront, own]
      simp
    · apply segment_set_prev _ (front.getLast?.or none) none _ back distinctBack
      apply segment_frame memory _ _ _ back _ linkedBack
      intro address member
      apply set_next_other
      intro same
      exact apart address (List.mem_of_getLast? same) address (List.mem_cons_of_mem fresh member) rfl

theorem unsplice (removed : Addr)
    (distinct : (front ++ removed :: back).Nodup) (linked : Segment memory none (front ++ removed :: back) none) :
    Segment (setPrev (setNext memory front.getLast? back.head?) back.head? front.getLast?) none (front ++ back) none := by
  obtain ⟨distinctFront, distinctRest, apart⟩ := List.nodup_append.mp distinct
  have distinctBack := (List.nodup_cons.mp distinctRest).2
  obtain ⟨linkedFront, linkedRest⟩ := (segment_append memory none none front (removed :: back)).mp linked
  rw [segment_append]
  constructor
  · rw [Option.or_none]
    apply segment_frame (setNext memory front.getLast? back.head?)
    · intro address member
      apply set_prev_other
      intro same
      exact apart address member address (List.mem_cons_of_mem removed (List.mem_of_head? same)) rfl
    · exact segment_set_next memory none _ _ front distinctFront linkedFront
  · rw [Option.or_none]
    apply segment_set_prev _ (some removed) none _ back distinctBack
    apply segment_frame memory _ _ _ back _ linkedRest.2
    intro address member
    apply set_next_other
    intro same
    exact apart address (List.mem_of_getLast? same) address (List.mem_cons_of_mem removed member) rfl

theorem walk_forward (before : Option Addr) (nodes : List Addr) (bound : Nat)
    (linked : Segment memory before nodes none) (enough : nodes.length ≤ bound) :
    walk Links.next memory bound nodes.head? = some nodes := by
  induction nodes generalizing before bound with
  | nil => cases bound <;> rfl
  | cons address nodes ih =>
      cases bound with
      | zero => simp at enough
      | succ bound =>
          have rest := ih (some address) bound linked.2 (Nat.le_of_succ_le_succ enough)
          have own := linked.1
          rw [Option.or_none] at own
          rw [List.head?_cons, walk, own, Option.bind_some, rest, Option.map_some]

theorem walk_backward (behind : Option Addr) (nodes : List Addr) (bound : Nat)
    (linked : Segment memory none nodes behind) (enough : nodes.length ≤ bound) :
    walk Links.prev memory bound nodes.getLast? = some nodes.reverse := by
  induction nodes using List.reverseRecOn generalizing behind bound with
  | nil => cases bound <;> rfl
  | append_singleton nodes address ih =>
      rw [List.length_append, List.length_singleton] at enough
      cases bound with
      | zero => omega
      | succ bound =>
          obtain ⟨front, own, _⟩ := (segment_append memory none behind nodes [address]).mp linked
          have rest := ih _ bound front (by omega)
          rw [Option.or_none] at own
          rw [List.getLast?_concat, walk, own, Option.bind_some, rest, Option.map_some, List.reverse_concat]

variable (link : Links → Option Addr)

theorem walk_looping (memory : Memory) (address : Addr) (links : Links)
    (own : memory address = some links) (loop : link links = some address) (bound : Nat) :
    walk link memory bound (some address) = none := by
  induction bound with
  | zero => rfl
  | succ bound ih => rw [walk, own, Option.bind_some, loop, ih, Option.map_none]

theorem walk_meets_no_loop (memory : Memory) (address : Addr) (links : Links)
    (own : memory address = some links) (loop : link links = some address) (bound : Nat) (start : Option Addr)
    (nodes : List Addr) (visited : walk link memory bound start = some nodes) : address ∉ nodes := by
  induction bound generalizing start nodes with
  | zero =>
      cases start with
      | none =>
          cases visited
          exact List.not_mem_nil
      | some first => cases visited
  | succ bound ih =>
      cases start with
      | none =>
          cases visited
          exact List.not_mem_nil
      | some first =>
          have apart : address ≠ first := by
            rintro rfl
            rw [walk_looping link memory address links own loop] at visited
            cases visited
          rw [walk] at visited
          obtain ⟨held, _, further⟩ := Option.bind_eq_some_iff.mp visited
          obtain ⟨rest, later, rfl⟩ := Option.map_eq_some_iff.mp further
          exact List.not_mem_cons_of_ne_of_not_mem apart (ih _ rest later)

end Chain
