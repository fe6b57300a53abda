import Vscp.HexFile
import Vscp.Lib.LineStream

set_option autoImplicit false

namespace Vscp.Boot

open IntelHex LineStream

def szlineSize : Nat := 2048

def loadTurn (stale : Nat → Nat → UInt8) (turn : Nat × LoadState) (szline : Bytes) :
    Except (LoadResult × List CBootMemSegment) (Nat × LoadState) :=
  match loadLine (stale turn.1) turn.2 szline with
  | .thrown => .error (.thrown, turn.2.memSegList)
  | .failed code => .error (.failed code, turn.2.memSegList)
  | .ended => .error (.success, turn.2.memSegList)
  | .next state => .ok (turn.1 + 1, state)

def loadDone (turn : Nat × LoadState) : LoadResult × List CBootMemSegment := (.success, turn.2.memSegList)

def loadPath (stale : Nat → Nat → UInt8) (fuel : Nat) (memSegList : List CBootMemSegment)
    (hexfile : Option (File UInt8)) : Option (LoadResult × List CBootMemSegment) :=
  readLines lineFeed szlineSize (loadTurn stale) loadDone fuel (opened hexfile) (0, ⟨0, 0, memSegList⟩)

def LoadEnds (stale : Nat → Nat → UInt8) (memSegList : List CBootMemSegment) (hexfile : Option (File UInt8)) : Prop :=
  ∃ fuel, (loadPath stale fuel memSegList hexfile).isSome

def BreaksOff (szline : Bytes) : Prop :=
  Refused (szline.take (szlineSize - 1)) ∨ EndsFile (szline.take (szlineSize - 1))

def Fits (szline : Bytes) : Prop := szline.length < szlineSize

def Readable (hexfile : Option (File UInt8)) : Prop :=
  ∃ file, hexfile = some file ∧
    ((∃ before szline after, lines file.content = before ++ szline :: after ∧ (∀ earlier ∈ before, Fits earlier) ∧
        BreaksOff szline) ∨
      ((∀ szline ∈ lines file.content, Fits szline) ∧ file.fault = false))

variable (stale : Nat → Nat → UInt8) (turn : Nat × LoadState)

theorem load_turn_cases (szline : Bytes) :
    ((Refused szline ∨ EndsFile szline) ∧ ∃ result, loadTurn stale turn szline = .error result) ∨
      (¬ (Refused szline ∨ EndsFile szline) ∧ ∃ next, loadTurn stale turn szline = .ok next) := by
  rw [loadTurn]
  rcases load_line_outcome (stale turn.1) turn.2 szline with ⟨refused, thrown | failed⟩ | ⟨_, ends, ended⟩ |
    ⟨fine, goesOn, after, next⟩
  · rw [thrown]
    exact .inl ⟨.inl refused, _, rfl⟩
  · rw [failed]
    exact .inl ⟨.inl refused, _, rfl⟩
  · rw [ended]
    exact .inl ⟨.inr ends, _, rfl⟩
  · rw [next]
    exact .inr ⟨not_or.mpr ⟨fine, goesOn⟩, _, rfl⟩

theorem load_turn_idle :
    ∃ next, loadTurn stale turn [] = .ok next := ⟨_, rfl⟩

theorem settles_iff (fault : Bool) (turn : Nat × LoadState) (szlines : List Bytes) :
    Settles szlineSize (loadTurn stale) fault turn szlines ↔
      (∃ before szline after, szlines = before ++ szline :: after ∧ (∀ earlier ∈ before, Fits earlier) ∧
          BreaksOff szline) ∨
        ((∀ szline ∈ szlines, Fits szline) ∧ fault = false) := by
  induction szlines generalizing turn with
  | nil =>
      rw [Settles]
      constructor
      · intro readable
        exact .inr ⟨fun szline member => absurd member List.not_mem_nil, readable⟩
      · rintro (⟨before, szline, after, split, -⟩ | ⟨-, readable⟩)
        · exact absurd split.symm (List.append_ne_nil_of_right_ne_nil _ (List.cons_ne_nil _ _))
        · exact readable
  | cons szline rest ih =>
      rw [Settles]
      rcases load_turn_cases stale turn (szline.take (szlineSize - 1)) with ⟨breaks, result, turned⟩ |
        ⟨goesOn, next, turned⟩ <;> rw [turned]
      · refine iff_of_true trivial (.inl ⟨[], szline, rest, rfl, ?_, breaks⟩)
        exact fun earlier member => absurd member List.not_mem_nil
      · dsimp only
        rw [ih next]
        constructor
        · rintro ⟨fits, ⟨before, found, after, rfl, short, breaks⟩ | ⟨short, readable⟩⟩
          · refine .inl ⟨szline :: before, found, after, rfl, ?_, breaks⟩
            exact List.forall_mem_cons.mpr ⟨fits, short⟩
          · exact .inr ⟨List.forall_mem_cons.mpr ⟨fits, short⟩, readable⟩
        · rintro (⟨before, found, after, split, short, breaks⟩ | ⟨short, readable⟩)
          · cases before with
            | nil => exact absurd ((List.cons.inj split).1 ▸ breaks) goesOn
            | cons first others =>
                obtain ⟨rfl, rfl⟩ := List.cons.inj split
                obtain ⟨fits, later⟩ := List.forall_mem_cons.mp short
                exact ⟨fits, .inl ⟨others, found, after, rfl, later, breaks⟩⟩
          · obtain ⟨fits, later⟩ := List.forall_mem_cons.mp short
            exact ⟨fits, .inr ⟨later, readable⟩⟩

theorem missing_never_ends (memSegList : List CBootMemSegment) :
    ¬ LoadEnds stale memSegList none :=
  stuck_never_ends lineFeed szlineSize (loadTurn stale) loadDone (load_turn_idle stale) (opened none) _ rfl
    fun good => Bool.noConfusion good.2.1

-- The loop ends after finitely many turns exactly for a file that opens and whose lines fit and can be read until one
-- of them ends the loading.
theorem loading_ends_iff (stale : Nat → Nat → UInt8) (memSegList : List CBootMemSegment)
    (hexfile : Option (File UInt8)) : LoadEnds stale memSegList hexfile ↔ Readable hexfile := by
  cases hexfile with
  | none =>
      refine iff_of_false (missing_never_ends stale memSegList) ?_
      rintro ⟨file, present, -⟩
      cases present
  | some file =>
      have ends := ends_iff_settles lineFeed szlineSize (loadTurn stale) loadDone (load_turn_idle stale)
        (lines file.content) (opened (some file)) (0, ⟨0, 0, memSegList⟩) ⟨rfl, rfl, rfl⟩ rfl
      rw [settles_iff] at ends
      refine ends.trans ?_
      constructor
      · exact fun holds => ⟨file, rfl, holds⟩
      · rintro ⟨other, same, holds⟩
        obtain rfl := Option.some.inj same
        exact holds

def longLine : Bytes := List.replicate 2048 48

-- A file that is not there, and one with a line of 2048 digits.
theorem endless_loading :
    ¬ LoadEnds (fun _ _ => 0) [] none ∧ ¬ LoadEnds (fun _ _ => 0) [] (some ⟨longLine, false⟩) := by
  refine ⟨missing_never_ends _ [], ?_⟩
  intro ends
  have settled := (ends_iff_settles lineFeed szlineSize (loadTurn fun _ _ => 0) loadDone (load_turn_idle _)
    [longLine] (opened (some ⟨longLine, false⟩)) (0, ⟨0, 0, []⟩) ⟨rfl, rfl, rfl⟩ (by decide +kernel)).mp ends
  have unmarked : longLine.take (szlineSize - 1) = 48 :: List.replicate 2046 48 := by decide +kernel
  rw [Settles, unmarked] at settled
  exact absurd settled.1 (by decide +kernel)

end Vscp.Boot
