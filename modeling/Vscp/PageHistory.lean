import Vscp.RegisterPage
import Vscp.Lib.Run

set_option autoImplicit false

namespace Vscp.Registers

open Run

inductive PageCall
  | putReg (reg : UInt32) (value : UInt8)
  | putLevel1Registers (registers : RegisterMap)
  | getReg (offset : UInt32)
  | isChanged (offset : UInt32)
  | hasWrittenChange (offset : UInt32)
  | clearChanges
  | clearHistory

def PageCall.reads : PageCall → Bool
  | .getReg _ | .isChanged _ | .hasWrittenChange _ => true
  | .putReg _ _ | .putLevel1Registers _ | .clearChanges | .clearHistory => false

def PageCall.run (page : RegisterPage) : PageCall → RegisterPage
  | .putReg reg value => (page.putReg reg value).2
  | .putLevel1Registers registers => page.putLevel1Registers registers
  | .getReg offset => (page.getReg offset).2
  | .isChanged offset => (page.isChanged offset).2
  | .hasWrittenChange offset => (page.hasWrittenChange offset).2
  | .clearChanges => page.clearChanges
  | .clearHistory => page.clearHistory

structure PageRecord where
  call : PageCall
  before : RegisterPage

def pageStep (page : RegisterPage) (call : PageCall) : RegisterPage × List PageRecord :=
  (call.run page, [⟨call, page⟩])

inductive Edit
  | put (reg : UInt32) (value : UInt8)
  | clearChanges
  | clearHistory

def lastPut : List Edit → UInt32 → Option UInt8
  | [], _ => none
  | .put other value :: earlier, reg => if reg = other then some value else lastPut earlier reg
  | .clearChanges :: earlier, reg => lastPut earlier reg
  | .clearHistory :: earlier, reg => lastPut earlier reg

-- A register that nothing was put into has the value zero.
def heldBefore (edits : List Edit) (reg : UInt32) : UInt8 := (lastPut edits reg).getD 0

def changedSince : List Edit → UInt32 → Bool
  | [], _ => false
  | .put other value :: earlier, reg => (reg = other ∧ heldBefore earlier reg ≠ value) ∨ changedSince earlier reg
  | .clearChanges :: _, _ => false
  | .clearHistory :: earlier, reg => changedSince earlier reg

def undoSince : List Edit → UInt32 → Bytes
  | [], _ => []
  | .put other value :: earlier, reg =>
      if reg = other ∧ heldBefore earlier reg ≠ value then undoSince earlier reg ++ [heldBefore earlier reg]
      else undoSince earlier reg
  | .clearChanges :: earlier, reg => undoSince earlier reg
  | .clearHistory :: _, _ => []

def accepts (level : UInt8) (reg : UInt32) : Bool := ¬ (level = level1 ∧ 128 < reg)

def level1Puts (registers : RegisterMap) : List (UInt32 × UInt8) :=
  (List.range 256).filterMap fun reg => (registers (UInt8.ofNat reg)).map fun value => (UInt32.ofNat reg, value)

def putEdits (level : UInt8) (pairs : List (UInt32 × UInt8)) : List Edit :=
  (pairs.filter fun pair => accepts level pair.1).map fun pair => .put pair.1 pair.2

def editsOf (record : PageRecord) : List Edit :=
  match record.call with
  | .putReg reg value => putEdits record.before.level [(reg, value)]
  | .putLevel1Registers registers => putEdits record.before.level (level1Puts registers)
  | .getReg _ | .isChanged _ | .hasWrittenChange _ => []
  | .clearChanges => [.clearChanges]
  | .clearHistory => [.clearHistory]

def historyOf (past : List PageRecord) : List Edit := (past.flatMap editsOf).reverse

structure Unaltered (before after : RegisterPage) : Prop where
  values : ∀ reg, (after.getReg reg).1 = (before.getReg reg).1
  changed : ∀ reg, (after.isChanged reg).1 = (before.isChanged reg).1
  undo : ∀ reg, after.undoValue.getD reg [] = before.undoValue.getD reg []
  written : ∀ reg, (after.hasWrittenChange reg).1 = (before.hasWrittenChange reg).1
  registers : ∀ reg, reg ∈ after.registers ↔ reg ∈ before.registers

structure PageRight (page : RegisterPage) (past : List PageRecord) : Prop where
  value : ∀ reg byte, lastPut (historyOf past) reg = some byte → (page.getReg reg).1 = byte.toNat
  changed : ∀ reg, (page.isChanged reg).1 = changedSince (historyOf past) reg
  undo : ∀ reg, page.undoValue.getD reg [] = undoSince (historyOf past) reg
  written : ∀ reg, (page.hasWrittenChange reg).1 ↔ undoSince (historyOf past) reg ≠ []
  reading : ∀ record, past.getLast? = some record → record.call.reads → Unaltered record.before page

-- Nothing is put into register 128 of a Level I page, and what is read is there or refused.
def PageAllowed (page : RegisterPage) : PageCall → Prop
  | .putReg reg _ => page.level = level1 → reg ≠ 128
  | .putLevel1Registers registers => page.level = level1 → registers 128 = none
  | .getReg offset => (page.level = level1 ∧ 127 < offset) ∨ offset ∈ page.registers
  | .isChanged _ | .hasWrittenChange _ | .clearChanges | .clearHistory => True

structure Keeps (page : RegisterPage) (edits : List Edit) : Prop where
  value : ∀ reg, page.value reg = heldBefore edits reg
  changed : ∀ reg, page.change.getD reg false = changedSince edits reg
  undo : ∀ reg, page.undoValue.getD reg [] = undoSince edits reg
  accepted : ∀ reg, lastPut edits reg ≠ none → accepts page.level reg

section maps

variable {Value : Type} (map : Std.TreeMap UInt32 Value) (key query : UInt32) (value fallback : Value)

theorem get_after_insert :
    (map.insert key value).getD query fallback = if query = key then value else map.getD query fallback := by
  rw [Std.TreeMap.getD_eq_getD_getElem?, found_after_insert, apply_ite (Option.getD · fallback), Option.getD_some,
    ← Std.TreeMap.getD_eq_getD_getElem?]

theorem get_after_fetch : (map.insertIfNew key fallback).getD query fallback = map.getD query fallback := by
  rw [Std.TreeMap.getD_eq_getD_getElem?, found_after_fetch]
  by_cases same : query = key
  · rw [if_pos same, Option.getD_some, same]
  · rw [if_neg same, ← Std.TreeMap.getD_eq_getD_getElem?]

theorem member_after_fetch : query ∈ map.insertIfNew key fallback ↔ query = key ∨ query ∈ map := by
  rw [Std.TreeMap.mem_insertIfNew, Std.LawfulEqOrd.compare_eq_iff_eq, eq_comm]

end maps

section keeps

variable (page : RegisterPage) (edits : List Edit)

variable (level : UInt8) (reg : UInt32)

theorem accepts_iff : accepts level reg ↔ ¬ (level = level1 ∧ 128 < reg) :=
  decide_eq_true_iff

theorem put_refused (value : UInt8) (refused : ¬ accepts page.level reg) :
    (page.putReg reg value).2 = page := by
  rw [accepts_iff, not_not] at refused
  rw [RegisterPage.putReg, if_pos refused]

theorem put_accepted (value : UInt8) (accepted : accepts page.level reg) :
    (page.putReg reg value).2 =
      { page with
        registers := page.registers.insert reg value
        change := if page.value reg ≠ value then page.change.insert reg true else page.change
        undoValue :=
          if page.value reg ≠ value then page.undoValue.insert reg (page.undoValue.getD reg [] ++ [page.value reg])
          else page.undoValue } := by
  rw [RegisterPage.putReg, if_neg ((accepts_iff _ _).mp accepted)]
  by_cases other : page.value reg ≠ value
  · rw [if_pos other, if_pos other]
    simp only [RegisterPage.value] at other
    simp only [if_pos other, RegisterPage.value]
  · rw [if_neg other, if_neg other]
    simp only [RegisterPage.value] at other
    simp only [if_neg other]

theorem put_kept (value : UInt8) (accepted : accepts page.level reg) (kept : Keeps page edits) :
    Keeps (page.putReg reg value).2 (.put reg value :: edits) := by
  have held := kept.value reg
  rw [put_accepted page reg value accepted]
  refine ⟨fun other => ?_, fun other => ?_, fun other => ?_, fun other known => ?_⟩
  · rw [RegisterPage.value, get_after_insert, heldBefore, lastPut, apply_ite (Option.getD · 0), Option.getD_some]
    exact if_congr Iff.rfl rfl (kept.value other)
  · rw [changedSince, ← kept.changed other]
    by_cases changes : page.value reg ≠ value
    · simp only [if_pos changes, get_after_insert]
      by_cases same : other = reg
      · subst same
        simp [← held, changes]
      · simp [same]
    · simp only [if_neg changes]
      by_cases same : other = reg
      · subst same
        simp [← held, not_not.mp changes]
      · simp [same]
  · rw [undoSince, ← kept.undo other]
    by_cases changes : page.value reg ≠ value
    · simp only [if_pos changes, get_after_insert]
      by_cases same : other = reg
      · subst same
        rw [if_pos rfl, if_pos ⟨rfl, held ▸ changes⟩, held]
      · rw [if_neg same, if_neg (fun both => same both.1)]
    · simp only [if_neg changes]
      rw [if_neg]
      rintro ⟨same, differs⟩
      subst same
      exact changes (held ▸ differs)
  · rw [lastPut] at known
    split at known
    · rename_i same
      rw [same]
      exact accepted
    · exact kept.accepted other known

def putAll (pairs : List (UInt32 × UInt8)) : RegisterPage :=
  pairs.foldl (fun page pair => (page.putReg pair.1 pair.2).2) page

theorem put_edits_cons (pair : UInt32 × UInt8) (pairs : List (UInt32 × UInt8)) :
    putEdits level (pair :: pairs) =
      (if accepts level pair.1 then [.put pair.1 pair.2] else []) ++ putEdits level pairs := by
  by_cases accepted : accepts level pair.1
  · simp [putEdits, accepted]
  · simp [putEdits, accepted]

theorem put_all_kept (pairs : List (UInt32 × UInt8)) (kept : Keeps page edits) :
    Keeps (putAll page pairs) ((putEdits page.level pairs).reverse ++ edits) ∧
      (putAll page pairs).level = page.level := by
  induction pairs generalizing page edits with
  | nil => exact ⟨kept, rfl⟩
  | cons pair pairs ih =>
      have level := RegisterPage.put_reg_level page pair.1 pair.2
      rw [put_edits_cons, putAll, List.foldl_cons]
      by_cases accepted : accepts page.level pair.1
      · have next := ih _ _ (put_kept page edits pair.1 pair.2 accepted kept)
        rw [level] at next
        rw [if_pos accepted, List.singleton_append, List.reverse_cons, List.append_assoc]
        exact next
      · have next := ih page edits kept
        rw [if_neg accepted, List.nil_append, put_refused page pair.1 pair.2 accepted]
        exact next

theorem level1_puts (registers : RegisterMap) :
    page.putLevel1Registers registers = putAll page (level1Puts registers) := by
  rw [RegisterPage.putLevel1Registers, putAll, level1Puts, List.foldl_filterMap]
  congr 1
  funext page reg
  cases registers (UInt8.ofNat reg) <;> rfl

variable (offset : UInt32)

theorem get_kept (kept : Keeps page edits) :
    Keeps (page.getReg offset).2 edits ∧ (page.getReg offset).2.level = page.level := by
  refine ⟨?_, RegisterPage.get_reg_level page offset⟩
  rw [RegisterPage.getReg]
  split
  · exact kept
  · exact ⟨fun reg => (get_after_fetch _ _ _ _).trans (kept.value reg), kept.changed, kept.undo, kept.accepted⟩

theorem changed_kept (kept : Keeps page edits) : Keeps (page.isChanged offset).2 edits :=
  ⟨kept.value, fun reg => (get_after_fetch _ _ _ _).trans (kept.changed reg), kept.undo, kept.accepted⟩

theorem written_kept (kept : Keeps page edits) : Keeps (page.hasWrittenChange offset).2 edits :=
  ⟨kept.value, kept.changed, fun reg => (get_after_fetch _ _ _ _).trans (kept.undo reg), kept.accepted⟩

theorem clear_changes_kept (kept : Keeps page edits) : Keeps page.clearChanges (.clearChanges :: edits) :=
  ⟨kept.value, fun _ => Std.TreeMap.getD_emptyc, kept.undo, kept.accepted⟩

theorem clear_history_kept (kept : Keeps page edits) : Keeps page.clearHistory (.clearHistory :: edits) :=
  ⟨kept.value, kept.changed, fun _ => Std.TreeMap.getD_emptyc, kept.accepted⟩

theorem call_kept (call : PageCall) (kept : Keeps page edits) :
    Keeps (call.run page) ((editsOf ⟨call, page⟩).reverse ++ edits) ∧ (call.run page).level = page.level := by
  cases call with
  | putReg reg value => exact put_all_kept page edits [(reg, value)] kept
  | putLevel1Registers registers =>
      have all := put_all_kept page edits (level1Puts registers) kept
      rw [← level1_puts] at all
      exact all
  | getReg offset => exact get_kept page edits offset kept
  | isChanged offset => exact ⟨changed_kept page edits offset kept, rfl⟩
  | hasWrittenChange offset => exact ⟨written_kept page edits offset kept, rfl⟩
  | clearChanges => exact ⟨clear_changes_kept page edits kept, rfl⟩
  | clearHistory => exact ⟨clear_history_kept page edits kept, rfl⟩

end keeps

theorem history_more (past : List PageRecord) (record : PageRecord) :
    historyOf (past ++ [record]) = (editsOf record).reverse ++ historyOf past := by
  rw [historyOf, List.flatMap_append, List.flatMap_singleton, List.reverse_append, historyOf]

theorem last_put_append (front edits : List Edit) (reg : UInt32) :
    lastPut (front ++ edits) reg = none ↔ (∀ value, Edit.put reg value ∉ front) ∧ lastPut edits reg = none := by
  induction front with
  | nil => simp
  | cons edit front ih =>
      cases edit with
      | put other value =>
          rw [List.cons_append, lastPut]
          by_cases same : reg = other
          · rw [if_pos same, same]
            exact iff_of_false (Option.some_ne_none value) (fun both => both.1 value List.mem_cons_self)
          · rw [if_neg same, ih]
            simp [same]
      | clearChanges => rw [List.cons_append, lastPut, ih]; simp
      | clearHistory => rw [List.cons_append, lastPut, ih]; simp

theorem put_edit_iff (level : UInt8) (pairs : List (UInt32 × UInt8)) (reg : UInt32) (value : UInt8) :
    Edit.put reg value ∈ putEdits level pairs ↔ (reg, value) ∈ pairs ∧ accepts level reg := by
  constructor
  · intro member
    obtain ⟨⟨other, byte⟩, kept, same⟩ := List.mem_map.mp member
    cases same
    exact List.mem_filter.mp kept
  · rintro ⟨member, accepted⟩
    exact List.mem_map.mpr ⟨(reg, value), List.mem_filter.mpr ⟨member, accepted⟩, rfl⟩

theorem level1_put_iff (registers : RegisterMap) (value : UInt8) :
    (128, value) ∈ level1Puts registers ↔ registers 128 = some value := by
  rw [level1Puts, List.mem_filterMap]
  constructor
  · rintro ⟨reg, inside, found⟩
    obtain ⟨byte, held, same⟩ := Option.map_eq_some_iff.mp found
    have small : reg < 2 ^ 32 := Nat.lt_trans (List.mem_range.mp inside) (by decide)
    have here : reg = 128 := by
      have number := congrArg (fun pair : UInt32 × UInt8 => pair.1.toNat) same
      change (UInt32.ofNat reg).toNat = 128 at number
      rwa [UInt32.toNat_ofNat_of_lt' small] at number
    rw [here] at held
    exact (Prod.mk.inj same).2 ▸ held
  · intro held
    exact ⟨128, List.mem_range.mpr (by decide), Option.map_eq_some_iff.mpr ⟨value, held, rfl⟩⟩

theorem unread_put_iff (page : RegisterPage) (call : PageCall) (writes : call.reads = false) :
    (page.level = level1 → ∀ value, Edit.put 128 value ∉ (editsOf ⟨call, page⟩).reverse) ↔ PageAllowed page call := by
  have taken : accepts page.level 128 := (accepts_iff _ _).mpr fun refused => absurd refused.2 (by decide)
  cases call with
  | putReg reg byte =>
      have only (value : UInt8) : (128, value) ∈ [(reg, byte)] ↔ reg = 128 ∧ byte = value := by
        rw [List.mem_singleton, Prod.mk.injEq, eq_comm, eq_comm (a := value)]
      simp only [editsOf, List.mem_reverse, put_edit_iff, taken, and_true, only, PageAllowed]
      exact imp_congr_right fun _ => ⟨fun none same => none byte ⟨same, rfl⟩, fun other value same => other same.1⟩
  | putLevel1Registers registers =>
      simp only [editsOf, List.mem_reverse, put_edit_iff, taken, and_true, level1_put_iff, PageAllowed]
      exact imp_congr_right fun _ => Option.eq_none_iff_forall_ne_some.symm
  | clearChanges => exact iff_of_true (fun _ _ member => by cases List.mem_singleton.mp member) trivial
  | clearHistory => exact iff_of_true (fun _ _ member => by cases List.mem_singleton.mp member) trivial
  | getReg offset => cases writes
  | isChanged offset => cases writes
  | hasWrittenChange offset => cases writes

theorem reading_edits (call : PageCall) (page : RegisterPage) (reading : call.reads) : editsOf ⟨call, page⟩ = [] := by
  cases call with
  | getReg offset => rfl
  | isChanged offset => rfl
  | hasWrittenChange offset => rfl
  | putReg reg value => cases reading
  | putLevel1Registers registers => cases reading
  | clearChanges => cases reading
  | clearHistory => cases reading

theorem get_reg_value (page : RegisterPage) (reg : UInt32) :
    (page.getReg reg).1 = if page.level = level1 ∧ 127 < reg then -1 else ((page.value reg).toNat : Int) := by
  rw [RegisterPage.getReg]
  split <;> rfl

theorem unaltered_self (page : RegisterPage) : Unaltered page page :=
  ⟨fun _ => rfl, fun _ => rfl, fun _ => rfl, fun _ => rfl, fun _ => Iff.rfl⟩

theorem reading_unaltered_iff (page : RegisterPage) (call : PageCall) (reading : call.reads) :
    Unaltered page (call.run page) ↔ PageAllowed page call := by
  cases call with
  | getReg offset =>
      by_cases refused : page.level = level1 ∧ 127 < offset
      · have same : (page.getReg offset).2 = page := by rw [RegisterPage.getReg, if_pos refused]
        rw [PageCall.run, same]
        exact iff_of_true (unaltered_self page) (.inl refused)
      · have fetched : (page.getReg offset).2 = { page with registers := page.registers.insertIfNew offset 0 } := by
          rw [RegisterPage.getReg, if_neg refused]
        rw [PageCall.run, fetched, PageAllowed, or_iff_right refused]
        constructor
        · exact fun kept => (kept.registers offset).mp ((member_after_fetch _ _ _ _).mpr (.inl rfl))
        · intro present
          refine ⟨fun reg => ?_, fun _ => rfl, fun _ => rfl, fun _ => rfl, fun reg => ?_⟩
          · rw [get_reg_value, get_reg_value, RegisterPage.value, get_after_fetch, RegisterPage.value]
          · rw [member_after_fetch]
            exact ⟨fun either => either.elim (fun same => same ▸ present) id, .inr⟩
  | isChanged offset =>
      refine iff_of_true ⟨fun reg => ?_, fun _ => get_after_fetch _ _ _ _, fun _ => rfl, fun _ => rfl,
        fun _ => Iff.rfl⟩ trivial
      rw [get_reg_value, get_reg_value]
      rfl
  | hasWrittenChange offset =>
      have undo (reg : UInt32) := get_after_fetch page.undoValue offset reg []
      refine iff_of_true ⟨fun reg => ?_, fun _ => rfl, undo, fun reg => ?_, fun _ => Iff.rfl⟩ trivial
      · rw [get_reg_value, get_reg_value]
        rfl
      change decide ((page.undoValue.insertIfNew offset []).getD reg [] ≠ []) = _
      rw [undo]
      rfl
  | putReg reg value => cases reading
  | putLevel1Registers registers => cases reading
  | clearChanges => cases reading
  | clearHistory => cases reading

theorem page_right_iff (page : RegisterPage) (past : List PageRecord) (kept : Keeps page (historyOf past)) :
    PageRight page past ↔ (page.level = level1 → lastPut (historyOf past) 128 = none) ∧
      ∀ record, past.getLast? = some record → record.call.reads → Unaltered record.before page := by
  constructor
  · intro right
    refine ⟨fun first => ?_, right.reading⟩
    by_contra known
    obtain ⟨byte, held⟩ := Option.ne_none_iff_exists'.mp known
    have got := right.value 128 byte held
    rw [get_reg_value, if_pos ⟨first, by decide⟩] at got
    omega
  · rintro ⟨unread, reading⟩
    refine ⟨fun reg byte held => ?_, kept.changed, kept.undo, fun reg => ?_, reading⟩
    · have inside : ¬ (page.level = level1 ∧ 127 < reg) := by
        rintro ⟨first, above⟩
        have accepted := (accepts_iff _ _).mp (kept.accepted reg (by rw [held]; exact Option.some_ne_none byte))
        have large := UInt32.lt_iff_toNat_lt.mp above
        have small := UInt32.lt_iff_toNat_lt.not.mp fun more => accepted ⟨first, more⟩
        have here : reg = 128 := UInt32.toNat_inj.mp (show reg.toNat = 128 by
          change 127 < _ at large
          change ¬ 128 < _ at small
          omega)
        rw [here, unread first] at held
        cases held
      rw [get_reg_value, if_neg inside, kept.value, heldBefore, held, Option.getD_some]
    · rw [RegisterPage.hasWrittenChange, kept.undo, decide_eq_true_iff]

-- Every run on a new page: what is claimed of the page holds after each call just when each call is allowed.
theorem page_history_iff (level : UInt8) (number : UInt16) (calls : List PageCall) :
    Throughout pageStep PageRight (RegisterPage.new level number) [] calls ↔
      Meets pageStep PageAllowed (RegisterPage.new level number) calls := by
  have steps (page : RegisterPage) (past : List PageRecord) (call : PageCall) (kept : Keeps page (historyOf past)) :
      Keeps (call.run page) (historyOf (past ++ [⟨call, page⟩])) ∧ (call.run page).level = page.level := by
    rw [history_more]
    exact call_kept page (historyOf past) call kept
  have fresh : Keeps (RegisterPage.new level number) (historyOf []) :=
    ⟨fun _ => Std.TreeMap.getD_emptyc, fun _ => Std.TreeMap.getD_emptyc, fun _ => Std.TreeMap.getD_emptyc,
      fun _ known => absurd rfl known⟩
  refine throughout_iff_meets pageStep PageRight PageAllowed (fun page past => Keeps page (historyOf past))
    (fun page past call kept => (steps page past call kept).1) ?_ _ [] calls fresh
    ((page_right_iff _ [] fresh).mpr ⟨fun _ => rfl, fun record last => by cases last⟩)
  intro page past call kept right
  obtain ⟨next, level⟩ := steps page past call kept
  have before := ((page_right_iff page past kept).mp right).1
  change PageRight (call.run page) (past ++ [⟨call, page⟩]) ↔ _
  rw [page_right_iff _ _ next, level, history_more, last_put_append, List.getLast?_concat]
  cases reading : call.reads with
  | false =>
      rw [← unread_put_iff page call reading]
      constructor
      · exact fun both first => (both.1 first).1
      · refine fun unread => ⟨fun first => ⟨unread first, before first⟩, fun record last reads => ?_⟩
        rw [← Option.some_inj.mp last, reading] at reads
        cases reads
  | true =>
      rw [reading_edits call page reading, ← reading_unaltered_iff page call reading]
      constructor
      · exact fun both => both.2 ⟨call, page⟩ rfl reading
      · refine fun kept' => ⟨fun first => ⟨fun value => List.not_mem_nil, before first⟩, fun record last _ => ?_⟩
        rw [← Option.some_inj.mp last]
        exact kept'

-- Register 128 of a Level I page is taken and not given back, and a register is there once it has been read.
theorem register_128_lost :
    ¬ Throughout pageStep PageRight (RegisterPage.new level1 0) [] [.putReg 128 7] ∧
      ¬ Throughout pageStep PageRight (RegisterPage.new level2 0) [] [.getReg 5] := by
  constructor
  · rintro ⟨right, -⟩
    have got := right.value 128 7 rfl
    rw [get_reg_value, if_pos ⟨rfl, by decide⟩] at got
    omega
  · rintro ⟨right, -⟩
    have same := (right.reading ⟨.getReg 5, RegisterPage.new level2 0⟩ rfl rfl).registers 5
    exact Std.TreeMap.not_mem_emptyc (same.mp ((member_after_fetch _ _ _ _).mpr (.inl rfl)))

end Vscp.Registers
