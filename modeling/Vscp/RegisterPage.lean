import Vscp.RegisterBlock
import Vscp.EventText

set_option autoImplicit false

namespace Vscp.Registers

def level1 : UInt8 := 0
def level2 : UInt8 := 1

-- CRegisterPage. Its redo lists are only ever cleared.
structure RegisterPage where
  level : UInt8
  page : UInt16
  registers : Std.TreeMap UInt32 UInt8
  change : Std.TreeMap UInt32 Bool
  undoValue : Std.TreeMap UInt32 Bytes

namespace RegisterPage

def new (level : UInt8) (page : UInt16) : RegisterPage := ⟨level, page, ∅, ∅, ∅⟩

def getReg (page : RegisterPage) (offset : UInt32) : Int × RegisterPage :=
  if page.level = level1 ∧ 127 < offset then (-1, page)
  else ((page.registers.getD offset 0).toNat, { page with registers := page.registers.insertIfNew offset 0 })

def putReg (page : RegisterPage) (reg : UInt32) (value : UInt8) : Int × RegisterPage :=
  if page.level = level1 ∧ 128 < reg then (-1, page)
  else
    let old := page.registers.getD reg 0
    let marked :=
      if old ≠ value then
        { page with
          change := page.change.insert reg true
          undoValue := page.undoValue.insert reg (page.undoValue.getD reg [] ++ [old]) }
      else page
    (value.toNat, { marked with registers := page.registers.insert reg value })

def putLevel1Registers (page : RegisterPage) (registers : RegisterMap) : RegisterPage :=
  (List.range 256).foldl (fun page reg =>
    match registers (UInt8.ofNat reg) with
    | some value => (page.putReg (UInt32.ofNat reg) value).2
    | none => page) page

def hasChanges (page : RegisterPage) : Bool := page.change.toList.any fun reg => reg.2
def clearChanges (page : RegisterPage) : RegisterPage := { page with change := ∅ }
def clearHistory (page : RegisterPage) : RegisterPage := { page with undoValue := ∅ }

def setChangedState (page : RegisterPage) (offset : UInt32) (state : Bool) : RegisterPage :=
  { page with change := page.change.insert offset state }

def isChanged (page : RegisterPage) (offset : UInt32) : Bool × RegisterPage :=
  (page.change.getD offset false, { page with change := page.change.insertIfNew offset false })

def hasWrittenChange (page : RegisterPage) (offset : UInt32) : Bool × RegisterPage :=
  (decide (page.undoValue.getD offset [] ≠ []), { page with undoValue := page.undoValue.insertIfNew offset [] })

def readBytes (page : RegisterPage) (offset : UInt32) : Nat → Bytes × RegisterPage
  | 0 => ([], page)
  | count + 1 =>
      let first := page.getReg offset
      let rest := readBytes first.2 (offset + 1) count
      (UInt8.ofInt first.1 :: rest.1, rest.2)

def writeBytes (page : RegisterPage) (offset : UInt32) : Bytes → RegisterPage
  | [] => page
  | byte :: bytes => writeBytes (page.putReg offset byte).2 (offset + 1) bytes

def value (page : RegisterPage) (reg : UInt32) : UInt8 := page.registers.getD reg 0

def Holds (page : RegisterPage) (offset : UInt32) (count : Nat) : Prop :=
  offset.toNat + count ≤ 2 ^ 32 ∧ (page.level = level1 → offset.toNat + count ≤ 128)

end RegisterPage

structure UserRegisters where
  level : UInt8
  pages : Std.TreeSet UInt32
  registerPageMap : Std.TreeMap UInt16 (Option RegisterPage)

namespace UserRegisters

def new (level : UInt8) : UserRegisters := ⟨level, ∅, ∅⟩

def getRegisterPage (user : UserRegisters) (page : UInt16) : Option RegisterPage × UserRegisters :=
  (user.registerPageMap.getD page none,
    { user with registerPageMap := user.registerPageMap.insertIfNew page none })

def withPage (user : UserRegisters) (page : UInt16) (content : RegisterPage) : UserRegisters :=
  { user with registerPageMap := user.registerPageMap.insert page (some content) }

def regAt (user : UserRegisters) (page : UInt16) (reg : UInt32) : Option UInt8 :=
  (user.registerPageMap[page]?).join.bind fun content => content.registers[reg]?

end UserRegisters

section

variable {Key Value : Type} [Ord Key] [DecidableEq Key] [Std.TransOrd Key] [Std.LawfulEqOrd Key]

theorem found_after_insert (map : Std.TreeMap Key Value) (key query : Key) (value : Value) :
    (map.insert key value)[query]? = if query = key then some value else map[query]? := by
  rw [Std.TreeMap.getElem?_insert]
  by_cases same : query = key
  · rw [if_pos same, if_pos (Std.LawfulEqOrd.compare_eq_iff_eq.mpr same.symm)]
  · rw [if_neg same, if_neg (fun equal => same (Std.LawfulEqOrd.compare_eq_iff_eq.mp equal).symm)]

theorem found_after_fetch (map : Std.TreeMap Key Value) (key query : Key) (fallback : Value) :
    (map.insertIfNew key fallback)[query]? =
      if query = key then some (map.getD key fallback) else map[query]? := by
  rw [Std.TreeMap.getElem?_insertIfNew, Std.TreeMap.getD_eq_getD_getElem?]
  by_cases same : query = key
  · rw [if_pos same, same]
    by_cases present : key ∈ map
    · rw [if_neg (fun absent => absent.2 present), Std.TreeMap.getElem?_eq_some_getElem present, Option.getD_some]
    · rw [if_pos ⟨Std.LawfulEqOrd.compare_eq_iff_eq.mpr rfl, present⟩, Std.TreeMap.getElem?_eq_none present,
        Option.getD_none]
  · rw [if_neg same, if_neg (fun both => same (Std.LawfulEqOrd.compare_eq_iff_eq.mp both.1).symm)]

end

theorem address_behind (offset reg : UInt32) (other : reg ≠ offset) :
    (reg - offset).toNat = (reg - (offset + 1)).toNat + 1 := by
  have apart : reg.toNat ≠ offset.toNat := fun same => other (UInt32.toNat_inj.mp same)
  have low := reg.toNat_lt
  have start := offset.toNat_lt
  have one : (1 : UInt32).toNat = 1 := rfl
  rw [UInt32.toNat_sub, UInt32.toNat_sub, UInt32.toNat_add, one]
  omega

theorem address_before (offset : UInt32) : (offset - (offset + 1)).toNat = 2 ^ 32 - 1 := by
  have start := offset.toNat_lt
  have one : (1 : UInt32).toNat = 1 := rfl
  rw [UInt32.toNat_sub, UInt32.toNat_add, one]
  omega

theorem next_address (offset : UInt32) (count : Nat) (room : offset.toNat + (count + 1) ≤ 2 ^ 32) (some : 0 < count) :
    (offset + 1).toNat = offset.toNat + 1 := by
  rw [UInt32.toNat_add]
  exact Nat.mod_eq_of_lt (by show offset.toNat + 1 < 2 ^ 32; omega)

namespace RegisterPage

variable (page : RegisterPage) (offset : UInt32) (bytes : Bytes) (count : Nat)

theorem value_of_found (reg : UInt32) : page.value reg = (page.registers[reg]?).getD 0 :=
  Std.TreeMap.getD_eq_getD_getElem?

theorem get_reg_level : (page.getReg offset).2.level = page.level := by
  unfold getReg
  split <;> rfl

theorem put_reg_level (reg : UInt32) (value : UInt8) :
    (page.putReg reg value).2.level = page.level := by
  unfold putReg
  split
  · rfl
  · dsimp only
    split <;> rfl

theorem held_first (held : page.Holds offset count)
    (some : 0 < count) : page.Holds offset 1 :=
  ⟨Nat.le_trans (by omega) held.1, fun first => Nat.le_trans (by omega) (held.2 first)⟩

theorem held_rest (page rest : RegisterPage) (offset : UInt32) (count : Nat) (held : page.Holds offset (count + 1))
    (level : rest.level = page.level) : rest.Holds (offset + 1) count ∨ count = 0 := by
  rcases Nat.eq_zero_or_pos count with zero | some
  · exact .inr zero
  · have next := next_address offset count held.1 some
    refine .inl ⟨by have := held.1; omega, fun first => ?_⟩
    have := held.2 (level ▸ first)
    omega

theorem get_reg_held (held : page.Holds offset 1) :
    page.getReg offset =
      (((page.value offset).toNat : Int), { page with registers := page.registers.insertIfNew offset 0 }) := by
  have inRange : ¬ (page.level = level1 ∧ 127 < offset) := by
    rintro ⟨first, above⟩
    have bound := held.2 first
    have large : 127 < offset.toNat := UInt32.lt_iff_toNat_lt.mp above
    omega
  rw [getReg, if_neg inRange, value]

theorem get_reg_registers (offset reg : UInt32) (held : page.Holds offset 1) :
    (page.getReg offset).2.registers[reg]? = if reg = offset then some (page.value offset) else page.registers[reg]? := by
  rw [get_reg_held page offset held]
  exact found_after_fetch page.registers offset reg 0

theorem put_reg_registers (offset reg : UInt32) (value : UInt8) (held : page.Holds offset 1) :
    (page.putReg offset value).2.registers[reg]? = if reg = offset then some value else page.registers[reg]? := by
  have inRange : ¬ (page.level = level1 ∧ 128 < offset) := by
    rintro ⟨first, above⟩
    have bound := held.2 first
    have large : 128 < offset.toNat := UInt32.lt_iff_toNat_lt.mp above
    omega
  rw [putReg, if_neg inRange]
  exact found_after_insert page.registers offset reg value

theorem read_bytes_held (held : page.Holds offset count) :
    (page.readBytes offset count).1 = (List.range count).map (fun i => page.value (offset + UInt32.ofNat i)) ∧
      ∀ reg, (page.readBytes offset count).2.registers[reg]? =
        if (reg - offset).toNat < count then some (page.value reg) else page.registers[reg]? := by
  induction count generalizing page offset with
  | zero => exact ⟨rfl, fun reg => rfl⟩
  | succ count ih =>
      have first := held_first page offset (count + 1) held (by omega)
      have later : ∀ reg, (page.getReg offset).2.value reg = page.value reg := by
        intro reg
        rw [value_of_found, get_reg_registers page offset reg first]
        by_cases here : reg = offset
        · rw [if_pos here, here, Option.getD_some]
        · rw [if_neg here, value_of_found]
      have rest : (((page.getReg offset).2.readBytes (offset + 1) count).1 =
            (List.range count).map (fun i => (page.getReg offset).2.value (offset + 1 + UInt32.ofNat i))) ∧
          ∀ reg, ((page.getReg offset).2.readBytes (offset + 1) count).2.registers[reg]? =
            if (reg - (offset + 1)).toNat < count then some ((page.getReg offset).2.value reg)
            else (page.getReg offset).2.registers[reg]? := by
        rcases held_rest page _ offset count held (get_reg_level page offset) with holds | zero
        · exact ih _ _ holds
        · subst zero
          exact ⟨rfl, fun reg => rfl⟩
      constructor
      · rw [readBytes, rest.1, get_reg_held page offset first, List.range_succ_eq_map, List.map_cons, List.map_map]
        have zero : offset + UInt32.ofNat 0 = offset := by simp
        rw [zero]
        refine congrArg₂ List.cons ?_ ?_
        · exact (NumberText.word8_of_cast _).trans UInt8.ofNat_toNat
        · apply List.map_congr_left
          intro i _
          rw [← get_reg_held page offset first, later, Function.comp_apply, Nat.succ_eq_add_one, UInt32.ofNat_add,
            UInt32.add_assoc, UInt32.add_comm 1]
          rfl
      · intro reg
        rw [readBytes, rest.2 reg, later, get_reg_registers page offset reg first]
        by_cases here : reg = offset
        · have start : (reg - offset).toNat = 0 := by rw [here, UInt32.sub_self]; rfl
          rw [if_pos here, start, if_pos (Nat.succ_pos count), here]
          split <;> rfl
        · rw [if_neg here, address_behind offset reg here]
          simp only [Nat.add_lt_add_iff_right]

theorem read_bytes_level :
    (page.readBytes offset count).2.level = page.level := by
  induction count generalizing page offset with
  | zero => rfl
  | succ count ih => rw [readBytes, ih, get_reg_level]

theorem write_bytes_level :
    (page.writeBytes offset bytes).level = page.level := by
  induction bytes generalizing page offset with
  | nil => rfl
  | cons byte bytes ih => rw [writeBytes, ih, put_reg_level]

theorem write_bytes_held (held : page.Holds offset bytes.length) (reg : UInt32) :
    (page.writeBytes offset bytes).registers[reg]? =
      if (reg - offset).toNat < bytes.length then some (bytes.getD (reg - offset).toNat 0) else page.registers[reg]? := by
  induction bytes generalizing page offset with
  | nil => rfl
  | cons byte bytes ih =>
      have first := held_first page offset _ held (Nat.succ_pos bytes.length)
      have rest : ((page.putReg offset byte).2.writeBytes (offset + 1) bytes).registers[reg]? =
          if (reg - (offset + 1)).toNat < bytes.length then some (bytes.getD (reg - (offset + 1)).toNat 0)
          else (page.putReg offset byte).2.registers[reg]? := by
        rcases held_rest page _ offset bytes.length held (put_reg_level page offset byte) with holds | zero
        · exact ih _ _ holds
        · rw [List.eq_nil_of_length_eq_zero zero]
          rfl
      rw [writeBytes, rest, put_reg_registers page offset reg byte first, List.length_cons]
      by_cases here : reg = offset
      · have start : (reg - offset).toNat = 0 := by rw [here, UInt32.sub_self]; rfl
        have before : ¬ (reg - (offset + 1)).toNat < bytes.length := by
          have bound := held.1
          rw [List.length_cons] at bound
          rw [here, address_before]
          omega
        rw [if_neg before, if_pos here, start, if_pos (Nat.succ_pos _), List.getD_cons_zero]
      · rw [if_neg here, address_behind offset reg here, List.getD_cons_succ]
        simp only [Nat.add_lt_add_iff_right]

theorem holds_after (page other : RegisterPage) (offset : UInt32) (count : Nat) (held : page.Holds offset count)
    (level : other.level = page.level) : other.Holds offset count :=
  ⟨held.1, fun first => held.2 (level ▸ first)⟩

theorem address_inside (i count : Nat) (room : count ≤ 2 ^ 32) (inside : i < count) :
    (offset + UInt32.ofNat i - offset).toNat = i := by
  have start := offset.toNat_lt
  have own : (UInt32.ofNat i).toNat = i := UInt32.toNat_ofNat_of_lt' (Nat.lt_of_lt_of_le inside room)
  rw [UInt32.toNat_sub, UInt32.toNat_add, own]
  omega

theorem written_value (held : page.Holds offset bytes.length)
    (reg : UInt32) (inside : (reg - offset).toNat < bytes.length) :
    (page.writeBytes offset bytes).value reg = bytes.getD (reg - offset).toNat 0 := by
  rw [value_of_found, write_bytes_held page offset bytes held, if_pos inside, Option.getD_some]

theorem read_written (held : page.Holds offset bytes.length) :
    ((page.writeBytes offset bytes).readBytes offset bytes.length).1 = bytes := by
  have written := holds_after page _ offset _ held (write_bytes_level page offset bytes)
  rw [(read_bytes_held _ offset _ written).1]
  apply List.ext_getElem
  · simp
  · intro i left right
    have room : bytes.length ≤ 2 ^ 32 := Nat.le_trans (Nat.le_add_left _ _) held.1
    have here := address_inside offset i bytes.length room right
    rw [List.getElem_map, List.getElem_range, written_value page offset bytes held _ (by rw [here]; exact right), here,
      List.getD_eq_getElem _ _ right]

theorem run_settled (held : page.Holds offset bytes.length) (heldRead : page.Holds offset count) :
    let read : RegisterPage := ((page.writeBytes offset bytes).readBytes offset count).2
    (∀ reg : UInt32, ¬ (reg - offset).toNat < bytes.length → ¬ (reg - offset).toNat < count →
      read.registers[reg]? = page.registers[reg]?) ∧
      ∀ reg : UInt32, (read.writeBytes offset bytes).registers[reg]? = read.registers[reg]? := by
  intro read
  have level := write_bytes_level page offset bytes
  have found := (read_bytes_held _ offset count (holds_after page _ offset _ heldRead level)).2
  have again : read.Holds offset bytes.length :=
    holds_after page read offset _ held ((read_bytes_level _ offset count).trans level)
  constructor
  · intro reg outside unread
    rw [found reg, if_neg unread, write_bytes_held page offset bytes held, if_neg outside]
  · intro reg
    rw [write_bytes_held read offset bytes again]
    by_cases inside : (reg - offset).toNat < bytes.length
    · rw [if_pos inside, found reg, written_value page offset bytes held reg inside,
        write_bytes_held page offset bytes held, if_pos inside]
      split <;> rfl
    · rw [if_neg inside]

end RegisterPage

end Vscp.Registers
