import Vscp.PageHistory

set_option autoImplicit false

namespace Vscp.Registers

-- CMDF_DecisionMatrix. The start offset is kept in sixteen bits.
structure DecisionMatrix where
  startPage : UInt16
  startOffset : UInt16
  rowCount : UInt16
  rowSize : UInt16

def rowAddress (dm : DecisionMatrix) (row : UInt16) : UInt32 := UInt32.ofNat (dm.rowSize.toNat * row.toNat)

namespace UserRegisters

def getGetDmRegisterContent (user : UserRegisters) (dm : DecisionMatrix) (row : UInt16) (pos : UInt8) :
    Int × UserRegisters :=
  match user.getRegisterPage dm.startPage with
  | (none, user) => (VscpError.error.code, user)
  | (some ppage, user) =>
      if row ≥ dm.rowCount then (VscpError.error.code, user)
      else if pos.toUInt16 ≥ dm.rowSize then (VscpError.error.code, user)
      else
        let read := ppage.getReg (rowAddress dm row)
        (read.1, user.withPage dm.startPage read.2)

def readDmRow (user : UserRegisters) (dm : DecisionMatrix) (row : UInt16) : Option ((Int × Bytes) × UserRegisters) :=
  match user.getRegisterPage dm.startPage with
  | (none, user) => some ((VscpError.error.code, []), user)
  | (some ppage, user) =>
      if row ≥ dm.rowCount then some ((VscpError.error.code, []), user)
      else if 256 ≤ dm.rowSize then none
      else
        let buf := ppage.readBytes (rowAddress dm row) dm.rowSize.toNat
        some ((0, buf.1), user.withPage dm.startPage buf.2)

def writeDmRow (user : UserRegisters) (dm : DecisionMatrix) (row : UInt16) (buf : Bytes) :
    Option (Int × UserRegisters) :=
  match user.getRegisterPage dm.startPage with
  | (none, user) => some (VscpError.error.code, user)
  | (some ppage, user) =>
      if row ≥ dm.rowCount then some (VscpError.error.code, user)
      else if 256 ≤ dm.rowSize then none
      else
        let bytes := (List.range dm.rowSize.toNat).map fun i => buf.getD i 0
        some (0, user.withPage dm.startPage (ppage.writeBytes (rowAddress dm row) bytes))

end UserRegisters

def matrixPage (user : UserRegisters) (dm : DecisionMatrix) : Option RegisterPage :=
  (user.getRegisterPage dm.startPage).1

section rows

variable (user : UserRegisters) (dm : DecisionMatrix) (row : UInt16)

def RowsKept : Prop :=
  ∀ content : Bytes, content.length = dm.rowSize.toNat → ∃ written after,
    user.writeDmRow dm row content = some (0, written) ∧ written.readDmRow dm row = some ((0, content), after)

def OthersKept : Prop :=
  ∀ content rv written, user.writeDmRow dm row content = some (rv, written) → ∀ other, other ≠ row →
    (written.readDmRow dm other).map Prod.fst = (user.readDmRow dm other).map Prod.fst

def BytesAgree : Prop :=
  ∃ bytes after, user.readDmRow dm row = some ((0, bytes), after) ∧
    ∀ pos : UInt8, pos.toUInt16 < dm.rowSize →
      (user.getGetDmRegisterContent dm row pos).1 = (bytes.getD pos.toNat 0).toNat

def StartsAtOffset : Prop :=
  ∀ content : Bytes, content.length = dm.rowSize.toNat → ∃ written page,
    user.writeDmRow dm row content = some (0, written) ∧ matrixPage written dm = some page ∧
      ∀ i < dm.rowSize.toNat,
        (page.getReg (dm.startOffset.toUInt32 + rowAddress dm row + UInt32.ofNat i)).1 = (content.getD i 0).toNat

-- The page is there, the matrix has the row, and the row has no more bytes than the counter of the loop can count.
def RowReached (page : RegisterPage) : Prop :=
  matrixPage user dm = some page ∧ row < dm.rowCount ∧ dm.rowSize < 256

def RowInRange (page : RegisterPage) : Prop :=
  page.level = level1 → dm.rowSize.toNat * row.toNat + dm.rowSize.toNat ≤ 128

def FirstByteRepeats (page : RegisterPage) : Prop :=
  dm.rowSize = 0 ∨ ((page.level = level1 → dm.rowSize.toNat * row.toNat ≤ 127) ∧
    ∀ i < dm.rowSize.toNat, (page.readBytes (rowAddress dm row) dm.rowSize.toNat).1.getD i 0 =
      page.value (rowAddress dm row))

theorem row_address : (rowAddress dm row).toNat = dm.rowSize.toNat * row.toNat := by
  have size := dm.rowSize.toNat_lt
  have number := row.toNat_lt
  refine UInt32.toNat_ofNat_of_lt' ?_
  calc dm.rowSize.toNat * row.toNat
    _ ≤ 65535 * 65535 := Nat.mul_le_mul (by omega) (by omega)
    _ < 2 ^ 32 := by decide

theorem page_after_fetch : matrixPage (user.getRegisterPage dm.startPage).2 dm = matrixPage user dm := by
  rw [matrixPage, UserRegisters.getRegisterPage, Std.TreeMap.getD_eq_getD_getElem?, UserRegisters.getRegisterPage,
    found_after_fetch, if_pos rfl, Option.getD_some]
  rfl

theorem page_after_with (content : RegisterPage) : matrixPage (user.withPage dm.startPage content) dm = some content :=
  Std.TreeMap.getD_insert_self

end rows

section bytes

variable (page : RegisterPage) (offset : UInt32)

theorem put_reg_value (value : UInt8) (other : UInt32) :
    (page.putReg offset value).2.value other =
      if other = offset ∧ accepts page.level offset then value else page.value other := by
  by_cases accepted : accepts page.level offset
  · rw [put_accepted page offset value accepted, RegisterPage.value, get_after_insert]
    exact if_congr (and_iff_left accepted).symm rfl rfl
  · rw [put_refused page offset value accepted, if_neg (fun both => accepted both.2)]

theorem write_bytes_value (bytes : Bytes) (room : offset.toNat + bytes.length ≤ 2 ^ 32) (other : UInt32) :
    (page.writeBytes offset bytes).value other =
      if (other - offset).toNat < bytes.length ∧ accepts page.level other then bytes.getD (other - offset).toNat 0
      else page.value other := by
  induction bytes generalizing page offset with
  | nil => exact (if_neg (fun both => Nat.not_lt_zero _ both.1)).symm
  | cons byte bytes ih =>
      have start := offset.toNat_lt
      have one : (1 : UInt32).toNat = 1 := rfl
      rw [List.length_cons] at room
      have rest := ih (page.putReg offset byte).2 (offset + 1) (by
        rw [UInt32.toNat_add, one]
        omega)
      rw [RegisterPage.writeBytes, rest, put_reg_value, RegisterPage.put_reg_level, List.length_cons]
      by_cases here : other = offset
      · have zero : (other - offset).toNat = 0 := by
          rw [here, UInt32.sub_self]
          rfl
        have behind : ¬ ((other - (offset + 1)).toNat < bytes.length ∧ accepts page.level other) := by
          rw [here, address_before]
          omega
        rw [if_neg behind, zero, List.getD_cons_zero, here]
        exact if_congr (and_congr_left fun _ => iff_of_true rfl (Nat.succ_pos _)) rfl rfl
      · have elsewhere : ¬ (other = offset ∧ accepts page.level offset) := fun both => here both.1
        rw [if_neg elsewhere, address_behind offset other here, List.getD_cons_succ]
        exact if_congr (and_congr_left fun _ => Nat.add_lt_add_iff_right.symm) rfl rfl

theorem read_bytes_shown (count : Nat) :
    (page.readBytes offset count).1 =
      (List.range count).map fun i => UInt8.ofInt (page.getReg (offset + UInt32.ofNat i)).1 := by
  induction count generalizing page offset with
  | zero => rfl
  | succ count ih =>
      have same (reg : UInt32) : ((page.getReg offset).2.getReg reg).1 = (page.getReg reg).1 := by
        have value : (page.getReg offset).2.value reg = page.value reg := by
          rw [RegisterPage.getReg]
          split
          · rfl
          · exact get_after_fetch _ _ _ _
        rw [get_reg_value, get_reg_value, RegisterPage.get_reg_level, value]
      rw [RegisterPage.readBytes, ih, List.range_succ_eq_map, List.map_cons, List.map_map]
      refine congrArg₂ List.cons (by simp) (List.map_congr_left fun i _ => ?_)
      rw [same, Function.comp_apply, Nat.succ_eq_add_one, UInt32.ofNat_add, UInt32.add_assoc, UInt32.add_comm 1]
      rfl

theorem not_refused_iff : ¬ (page.level = level1 ∧ 127 < offset) ↔ (page.level = level1 → offset.toNat ≤ 127) := by
  rw [not_and, UInt32.not_lt, UInt32.le_iff_toNat_le]
  rfl

end bytes

section reached

variable (user : UserRegisters) (dm : DecisionMatrix) (row : UInt16) (page : RegisterPage)

theorem write_row (reached : RowReached user dm row page) (content : Bytes)
    (length : content.length = dm.rowSize.toNat) :
    ∃ written, user.writeDmRow dm row content = some (0, written) ∧
      matrixPage written dm = some (page.writeBytes (rowAddress dm row) content) := by
  obtain ⟨here, counted, small⟩ := reached
  have whole : (List.range dm.rowSize.toNat).map (fun i => content.getD i 0) = content := by
    apply List.ext_getElem
    · rw [List.length_map, List.length_range, length]
    · intro i left right
      rw [List.getElem_map, List.getElem_range, List.getD_eq_getElem _ _ right]
  rw [matrixPage] at here
  unfold UserRegisters.writeDmRow
  generalize user.getRegisterPage dm.startPage = asked at here ⊢
  obtain ⟨found, after⟩ := asked
  cases here
  simp only [if_neg (UInt16.not_le.mpr counted), if_neg (UInt16.not_le.mpr small), whole]
  exact ⟨_, rfl, page_after_with after dm _⟩

theorem write_row_cases (content : Bytes) (rv : Int) (written : UserRegisters)
    (done : user.writeDmRow dm row content = some (rv, written)) :
    (rv = VscpError.error.code ∧ matrixPage written dm = matrixPage user dm) ∨
      ∃ page bytes, RowReached user dm row page ∧ bytes.length = dm.rowSize.toNat ∧
        matrixPage written dm = some (page.writeBytes (rowAddress dm row) bytes) := by
  have fetched := page_after_fetch user dm
  have found : user.getRegisterPage dm.startPage = (matrixPage user dm, (user.getRegisterPage dm.startPage).2) := rfl
  rw [UserRegisters.writeDmRow, found] at done
  cases here : matrixPage user dm with
  | none =>
      rw [here] at done fetched
      cases done
      exact .inl ⟨rfl, fetched⟩
  | some page =>
      rw [here] at done fetched
      simp only at done
      split at done
      · cases done
        exact .inl ⟨rfl, fetched⟩
      · rename_i counted
        split at done
        · cases done
        · rename_i small
          cases done
          refine .inr ⟨page, _, ⟨here, UInt16.not_le.mp counted, UInt16.not_le.mp small⟩, ?_, page_after_with _ dm _⟩
          rw [List.length_map, List.length_range]

theorem row_written (content : Bytes) (written : UserRegisters)
    (done : user.writeDmRow dm row content = some (0, written)) : ∃ page, RowReached user dm row page := by
  obtain ⟨failed, -⟩ | ⟨page, -, reached, -⟩ := write_row_cases user dm row content 0 written done
  · exact absurd failed (by decide)
  · exact ⟨page, reached⟩

def rowShown (found : Option RegisterPage) : Option (Int × Bytes) :=
  match found with
  | none => some (VscpError.error.code, [])
  | some page =>
      if row ≥ dm.rowCount then some (VscpError.error.code, [])
      else if 256 ≤ dm.rowSize then none
      else some (0, (page.readBytes (rowAddress dm row) dm.rowSize.toNat).1)

theorem read_row : (user.readDmRow dm row).map Prod.fst = rowShown dm row (matrixPage user dm) := by
  unfold UserRegisters.readDmRow rowShown matrixPage
  rcases user.getRegisterPage dm.startPage with ⟨found, after⟩
  cases found with
  | none => rfl
  | some page =>
      simp only
      split
      · rfl
      · split <;> rfl

theorem row_shown (reached : RowReached user dm row page) :
    rowShown dm row (matrixPage user dm) = some (0, (page.readBytes (rowAddress dm row) dm.rowSize.toNat).1) := by
  obtain ⟨here, counted, small⟩ := reached
  rw [here, rowShown, if_neg (UInt16.not_le.mpr counted), if_neg (UInt16.not_le.mpr small)]

theorem row_read_iff (bytes : Bytes) :
    (∃ after, user.readDmRow dm row = some ((0, bytes), after)) ↔
      ∃ page, RowReached user dm row page ∧ (page.readBytes (rowAddress dm row) dm.rowSize.toNat).1 = bytes := by
  have shown := read_row user dm row
  constructor
  · rintro ⟨after, read⟩
    rw [read, Option.map_some] at shown
    cases here : matrixPage user dm with
    | none =>
        rw [here] at shown
        cases shown
    | some page =>
        rw [here, rowShown] at shown
        split at shown
        · cases shown
        · rename_i counted
          split at shown
          · cases shown
          · rename_i small
            exact ⟨page, ⟨here, UInt16.not_le.mp counted, UInt16.not_le.mp small⟩,
              (congrArg Prod.snd (Option.some_inj.mp shown)).symm⟩
  · rintro ⟨page, reached, rfl⟩
    rw [row_shown user dm row page reached] at shown
    obtain ⟨⟨first, after⟩, read, same⟩ := Option.map_eq_some_iff.mp shown
    exact ⟨after, by rw [read, ← same]⟩

theorem row_content (reached : RowReached user dm row page) (pos : UInt8) (inside : pos.toUInt16 < dm.rowSize) :
    (user.getGetDmRegisterContent dm row pos).1 = (page.getReg (rowAddress dm row)).1 := by
  obtain ⟨here, counted, small⟩ := reached
  rw [matrixPage] at here
  unfold UserRegisters.getGetDmRegisterContent
  generalize user.getRegisterPage dm.startPage = asked at here ⊢
  obtain ⟨found, after⟩ := asked
  cases here
  simp only [if_neg (UInt16.not_le.mpr counted), if_neg (UInt16.not_le.mpr inside)]

end reached

section places

variable (dm : DecisionMatrix) (row : UInt16)

theorem row_room (small : dm.rowSize < 256) : dm.rowSize.toNat * row.toNat + dm.rowSize.toNat + 65535 < 2 ^ 32 := by
  have size : dm.rowSize.toNat < 256 := UInt16.lt_iff_toNat_lt.mp small
  have number := row.toNat_lt
  have base : dm.rowSize.toNat * row.toNat ≤ 255 * 65535 := Nat.mul_le_mul (by omega) (by omega)
  omega

theorem byte_address (small : dm.rowSize < 256) (i : Nat) (inside : i < dm.rowSize.toNat) :
    (rowAddress dm row + UInt32.ofNat i).toNat = dm.rowSize.toNat * row.toNat + i := by
  have room := row_room dm row small
  have own : (UInt32.ofNat i).toNat = i := UInt32.toNat_ofNat_of_lt' (show i < 2 ^ 32 by omega)
  rw [UInt32.toNat_add, row_address, own]
  exact Nat.mod_eq_of_lt (by omega)

theorem other_row_apart (small : dm.rowSize < 256) (other : UInt16) (apart : other ≠ row) (i : Nat)
    (inside : i < dm.rowSize.toNat) :
    ¬ (rowAddress dm other + UInt32.ofNat i - rowAddress dm row).toNat < dm.rowSize.toNat := by
  have room := row_room dm row small
  have otherRoom := row_room dm other small
  have different : other.toNat ≠ row.toNat := fun same => apart (UInt16.toNat_inj.mp same)
  rw [UInt32.toNat_sub, byte_address dm other small i inside, row_address]
  rcases Nat.lt_or_gt_of_ne different with below | above
  · have gap := Nat.mul_le_mul_left dm.rowSize.toNat (Nat.succ_le_of_lt below)
    rw [Nat.mul_succ] at gap
    omega
  · have gap := Nat.mul_le_mul_left dm.rowSize.toNat (Nat.succ_le_of_lt above)
    rw [Nat.mul_succ] at gap
    omega

end places

section parts

variable (user : UserRegisters) (dm : DecisionMatrix) (row : UInt16)

theorem range_holds (page : RegisterPage) (small : dm.rowSize < 256) :
    page.Holds (rowAddress dm row) dm.rowSize.toNat ↔ RowInRange dm row page := by
  have room := row_room dm row small
  rw [RegisterPage.Holds, row_address, RowInRange]
  exact and_iff_right (by omega)

theorem rows_kept_iff : RowsKept user dm row ↔ ∃ page, RowReached user dm row page ∧ RowInRange dm row page := by
  constructor
  · intro kept
    obtain ⟨written, after, done, read⟩ := kept (List.replicate dm.rowSize.toNat 0) List.length_replicate
    obtain ⟨page, reached⟩ := row_written user dm row _ written done
    refine ⟨page, reached, fun first => ?_⟩
    by_contra beyond
    obtain ⟨same, again, here⟩ := write_row user dm row page reached _ List.length_replicate
    rw [done] at again
    cases again
    obtain ⟨other, othersReached, bytes⟩ := (row_read_iff written dm row _).mp ⟨after, read⟩
    cases othersReached.1.symm.trans here
    have some : 0 < dm.rowSize.toNat := Nat.pos_of_ne_zero fun zero => beyond (by rw [zero]; omega)
    have place := byte_address dm row reached.2.2 (dm.rowSize.toNat - 1) (by omega)
    have last := congrArg (fun bytes => List.getD bytes (dm.rowSize.toNat - 1) 0) bytes
    have above : 127 < rowAddress dm row + UInt32.ofNat (dm.rowSize.toNat - 1) := by
      rw [UInt32.lt_iff_toNat_lt, place]
      change 127 < _
      omega
    rw [read_bytes_shown, List.getD_eq_getElem _ _ (by simpa using some), List.getElem_map, List.getElem_range,
      get_reg_value, RegisterPage.write_bytes_level, if_pos ⟨first, above⟩,
      List.getD_eq_getElem _ _ (by simpa using some), List.getElem_replicate] at last
    exact absurd last (by decide)
  · rintro ⟨page, reached, inside⟩ content length
    obtain ⟨written, done, here⟩ := write_row user dm row page reached content length
    have held := (range_holds dm row page reached.2.2).mpr inside
    obtain ⟨after, read⟩ := (row_read_iff written dm row content).mpr
      ⟨page.writeBytes (rowAddress dm row) content, ⟨here, reached.2⟩, by
        rw [← length] at held ⊢
        exact RegisterPage.read_written page (rowAddress dm row) content held⟩
    exact ⟨written, after, done, read⟩

theorem others_kept : OthersKept user dm row := by
  intro content rv written done other apart
  rw [read_row, read_row]
  obtain ⟨-, same⟩ | ⟨page, bytes, ⟨here, -, small⟩, length, after⟩ :=
    write_row_cases user dm row content rv written done
  · rw [same]
  · have unchanged : ((page.writeBytes (rowAddress dm row) bytes).readBytes (rowAddress dm other) dm.rowSize.toNat).1 =
        (page.readBytes (rowAddress dm other) dm.rowSize.toNat).1 := by
      rw [read_bytes_shown, read_bytes_shown]
      refine List.map_congr_left fun i member => ?_
      have outside := other_row_apart dm row small other apart i (List.mem_range.mp member)
      have room := row_room dm row small
      have value := write_bytes_value page (rowAddress dm row) bytes (by rw [row_address, length]; omega)
        (rowAddress dm other + UInt32.ofNat i)
      rw [length, if_neg (fun both => outside both.1)] at value
      rw [get_reg_value, get_reg_value, RegisterPage.write_bytes_level, value]
    rw [here, after, rowShown, rowShown]
    simp only [unchanged]

theorem bytes_agree_iff :
    BytesAgree user dm row ↔ ∃ page, RowReached user dm row page ∧ FirstByteRepeats dm row page := by
  constructor
  · rintro ⟨bytes, after, read, agree⟩
    obtain ⟨page, reached, shown⟩ := (row_read_iff user dm row bytes).mp ⟨after, read⟩
    refine ⟨page, reached, ?_⟩
    have small : dm.rowSize.toNat < 256 := UInt16.lt_iff_toNat_lt.mp reached.2.2
    by_cases none : dm.rowSize = 0
    · exact .inl none
    have each (i : Nat) (inside : i < dm.rowSize.toNat) :
        (page.getReg (rowAddress dm row)).1 = (bytes.getD i 0).toNat := by
      have own : (UInt8.ofNat i).toNat = i := UInt8.toNat_ofNat_of_lt' (show i < 256 by omega)
      have below : (UInt8.ofNat i).toUInt16 < dm.rowSize := by
        rw [UInt16.lt_iff_toNat_lt, UInt8.toNat_toUInt16, own]
        exact inside
      have got := agree (UInt8.ofNat i) below
      rw [row_content user dm row page reached _ below, own] at got
      exact got
    have some : 0 < dm.rowSize.toNat := Nat.pos_of_ne_zero fun zero => none (UInt16.toNat_inj.mp zero)
    have inside : ¬ (page.level = level1 ∧ 127 < rowAddress dm row) := by
      intro refused
      have first := each 0 some
      rw [get_reg_value, if_pos refused] at first
      omega
    refine .inr ⟨fun first => ?_, fun i below => ?_⟩
    · rw [← row_address]
      exact (not_refused_iff page _).mp inside first
    · have got := each i below
      rw [get_reg_value, if_neg inside, Int.natCast_inj] at got
      rw [shown]
      exact (UInt8.toNat_inj.mp got).symm
  · rintro ⟨page, reached, repeats⟩
    obtain ⟨after, read⟩ := (row_read_iff user dm row _).mpr ⟨page, reached, rfl⟩
    refine ⟨_, after, read, fun pos below => ?_⟩
    have inside : pos.toNat < dm.rowSize.toNat := by
      rw [UInt16.lt_iff_toNat_lt, UInt8.toNat_toUInt16] at below
      exact below
    obtain none | ⟨first, same⟩ := repeats
    · rw [none] at inside
      exact absurd inside (Nat.not_lt_zero _)
    · rw [← row_address] at first
      have low := (not_refused_iff page _).mpr first
      rw [row_content user dm row page reached pos below, get_reg_value, if_neg low, same pos.toNat inside]

theorem written_byte (page : RegisterPage) (small : dm.rowSize < 256) (content : Bytes)
    (length : content.length = dm.rowSize.toNat) (i : Nat) (inside : i < dm.rowSize.toNat) :
    ((page.writeBytes (rowAddress dm row) content).getReg (rowAddress dm row + UInt32.ofNat i)).1 =
      if page.level = level1 ∧ 127 < rowAddress dm row + UInt32.ofNat i then -1
      else ((content.getD i 0).toNat : Int) := by
  have room := row_room dm row small
  have behind := RegisterPage.address_inside (rowAddress dm row) i dm.rowSize.toNat (by omega) inside
  have value := write_bytes_value page (rowAddress dm row) content (by rw [row_address, length]; omega)
    (rowAddress dm row + UInt32.ofNat i)
  rw [get_reg_value, RegisterPage.write_bytes_level]
  by_cases refused : page.level = level1 ∧ 127 < rowAddress dm row + UInt32.ofNat i
  · rw [if_pos refused, if_pos refused]
  · have accepted : accepts page.level (rowAddress dm row + UInt32.ofNat i) :=
      (accepts_iff _ _).mpr fun above => refused ⟨above.1, UInt32.lt_trans (by decide) above.2⟩
    rw [behind, length, if_pos ⟨inside, accepted⟩] at value
    rw [if_neg refused, if_neg refused, value]

theorem offset_missed (page : RegisterPage) (small : dm.rowSize < 256) (some : 0 < dm.rowSize.toNat)
    (far : dm.startOffset ≠ 0) : ∃ content : Bytes, content.length = dm.rowSize.toNat ∧
      ((page.writeBytes (rowAddress dm row) content).getReg (dm.startOffset.toUInt32 + rowAddress dm row)).1 ≠
        (content.getD 0 0).toNat := by
  let old := page.value (dm.startOffset.toUInt32 + rowAddress dm row)
  have length : ((old + 1) :: List.replicate (dm.rowSize.toNat - 1) old).length = dm.rowSize.toNat := by
    rw [List.length_cons, List.length_replicate]
    omega
  refine ⟨(old + 1) :: List.replicate (dm.rowSize.toNat - 1) old, length, ?_⟩
  have room := row_room dm row small
  have value := write_bytes_value page (rowAddress dm row) _ (by rw [row_address, length]; omega)
    (dm.startOffset.toUInt32 + rowAddress dm row)
  have kept : (page.writeBytes (rowAddress dm row) ((old + 1) :: List.replicate (dm.rowSize.toNat - 1) old)).value
      (dm.startOffset.toUInt32 + rowAddress dm row) = old := by
    rw [value, UInt32.add_sub_cancel, UInt16.toNat_toUInt32, length]
    split
    · rename_i inside
      obtain ⟨place, next⟩ := Nat.exists_eq_succ_of_ne_zero fun zero => far (UInt16.toNat_inj.mp zero)
      rw [next, List.getD_cons_succ, List.getD_eq_getElem _ _ (by rw [List.length_replicate]; omega),
        List.getElem_replicate]
    · rfl
  rw [get_reg_value, kept, List.getD_cons_zero]
  intro same
  split at same
  · omega
  · have byte := old.toNat_lt
    have one : (1 : UInt8).toNat = 1 := rfl
    rw [Int.natCast_inj, UInt8.toNat_add, one] at same
    omega

theorem starts_at_offset_iff :
    StartsAtOffset user dm row ↔ ∃ page, RowReached user dm row page ∧
      (dm.rowSize = 0 ∨ (dm.startOffset = 0 ∧ RowInRange dm row page)) := by
  constructor
  · intro starts
    obtain ⟨written, -, done, -⟩ := starts (List.replicate dm.rowSize.toNat 0) List.length_replicate
    obtain ⟨page, reached⟩ := row_written user dm row _ written done
    refine ⟨page, reached, ?_⟩
    by_cases none : dm.rowSize = 0
    · exact .inl none
    have some : 0 < dm.rowSize.toNat := Nat.pos_of_ne_zero fun zero => none (UInt16.toNat_inj.mp zero)
    have bytes (content : Bytes) (length : content.length = dm.rowSize.toNat) (i : Nat)
        (inside : i < dm.rowSize.toNat) :
        ((page.writeBytes (rowAddress dm row) content).getReg
          (dm.startOffset.toUInt32 + rowAddress dm row + UInt32.ofNat i)).1 = (content.getD i 0).toNat := by
      obtain ⟨one, after, put, here, shown⟩ := starts content length
      obtain ⟨other, again, there⟩ := write_row user dm row page reached content length
      cases put.symm.trans again
      cases here.symm.trans there
      exact shown i inside
    have zero : dm.startOffset = 0 := by
      by_contra far
      obtain ⟨content, length, missed⟩ := offset_missed dm row page reached.2.2 some far
      have first := bytes content length 0 some
      rw [show UInt32.ofNat 0 = 0 from rfl, UInt32.add_zero] at first
      exact missed first
    refine .inr ⟨zero, fun first => ?_⟩
    have last := bytes (List.replicate dm.rowSize.toNat 0) List.length_replicate (dm.rowSize.toNat - 1) (by omega)
    rw [zero, show (0 : UInt16).toUInt32 = 0 from rfl, UInt32.zero_add,
      written_byte dm row page reached.2.2 _ List.length_replicate _ (by omega)] at last
    split at last
    · omega
    · rename_i inside
      have low := (not_refused_iff page _).mp inside first
      rw [byte_address dm row reached.2.2 _ (by omega)] at low
      omega
  · rintro ⟨page, reached, placed⟩ content length
    obtain ⟨written, done, here⟩ := write_row user dm row page reached content length
    refine ⟨written, _, done, here, fun i inside => ?_⟩
    obtain none | ⟨zero, inRange⟩ := placed
    · rw [none] at inside
      exact absurd inside (Nat.not_lt_zero i)
    · have low : ¬ (page.level = level1 ∧ 127 < rowAddress dm row + UInt32.ofNat i) := by
        rw [not_refused_iff, byte_address dm row reached.2.2 i inside]
        intro first
        have bound := inRange first
        omega
      rw [zero, show (0 : UInt16).toUInt32 = 0 from rfl, UInt32.zero_add,
        written_byte dm row page reached.2.2 content length i inside, if_neg low]

theorem matrix_rows_iff :
    (RowsKept user dm row ↔ ∃ page, RowReached user dm row page ∧ RowInRange dm row page) ∧ OthersKept user dm row ∧
      (BytesAgree user dm row ↔ ∃ page, RowReached user dm row page ∧ FirstByteRepeats dm row page) ∧
      (StartsAtOffset user dm row ↔ ∃ page, RowReached user dm row page ∧
        (dm.rowSize = 0 ∨ (dm.startOffset = 0 ∧ RowInRange dm row page))) :=
  ⟨rows_kept_iff user dm row, others_kept user dm row, bytes_agree_iff user dm row, starts_at_offset_iff user dm row⟩

end parts

def twoBytes : DecisionMatrix := ⟨0, 0, 2, 2⟩
def rowPage : RegisterPage := (RegisterPage.new level2 0).writeBytes 0 [5, 7]
def rowUser : UserRegisters := (UserRegisters.new level2).withPage 0 rowPage

theorem row_page_holds : (RegisterPage.new level2 0).Holds 0 2 :=
  ⟨by decide, fun first => absurd first (show level2 ≠ level1 by decide)⟩

theorem matrix_rows_wrong :
    ¬ BytesAgree rowUser twoBytes 0 ∧ ¬ StartsAtOffset rowUser { twoBytes with startOffset := 8 } 0 := by
  have here : matrixPage rowUser twoBytes = some rowPage := page_after_with _ twoBytes rowPage
  constructor
  · intro agree
    obtain ⟨page, reached, none | ⟨-, repeats⟩⟩ := (bytes_agree_iff rowUser twoBytes 0).mp agree
    · exact absurd none (by decide)
    · cases reached.1.symm.trans here
      have row : (rowPage.readBytes 0 2).1 = [5, 7] := RegisterPage.read_written _ 0 [5, 7] row_page_holds
      have first : rowPage.value 0 = 5 := RegisterPage.written_value _ 0 [5, 7] row_page_holds 0 (by decide)
      have second := repeats 1 (by decide)
      change (rowPage.readBytes 0 2).1.getD 1 0 = rowPage.value 0 at second
      rw [row, first] at second
      exact absurd second (by decide)
  · intro starts
    obtain ⟨page, -, none | ⟨zero, -⟩⟩ := (starts_at_offset_iff rowUser _ 0).mp starts
    · exact absurd none (by decide)
    · exact absurd zero (by decide)

end Vscp.Registers
