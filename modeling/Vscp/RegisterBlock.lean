import Vscp.Event

set_option autoImplicit false

namespace Vscp.Registers

abbrev RegisterMap := UInt8 → Option UInt8

def insert (map : RegisterMap) (pair : UInt8 × UInt8) : RegisterMap :=
  fun reg => if reg = pair.1 then some pair.2 else map reg

def store (map : RegisterMap) (pairs : List (UInt8 × UInt8)) : RegisterMap := pairs.foldl insert map

def class1Protocol : UInt16 := 0
def class2Level1Protocol : UInt16 := 512
def typeExtendedPageRead : UInt16 := 37
def typeExtendedPageWrite : UInt16 := 38
def typeExtendedPageResponse : UInt16 := 39
def priorityNormal : UInt16 := 0x60

structure Delivered where
  ex : VscpEventEx
  fits : ex.sizeData.toNat ≤ maxData

def dataAt (ex : VscpEventEx) (index : Nat) : UInt8 := ex.data.toList.getD index 0

def interfaceBytes (guidInterface : Guid) : Bytes :=
  if guidInterface = Vector.replicate 16 0 then [] else guidInterface.toList

-- The fields that the source does not set are left as they are.
def extendedPage (ex : VscpEventEx) (nickname : UInt8) (guidInterface : Guid) (page vscpType : UInt16) (reg : UInt8)
    (tail : Bytes) : VscpEventEx :=
  let data := interfaceBytes guidInterface ++ (nickname :: (page >>> 8).toUInt8 :: page.toUInt8 :: reg :: tail)
  { ex with
    head := priorityNormal
    vscpClass := if guidInterface = Vector.replicate 16 0 then class1Protocol else class2Level1Protocol
    vscpType := vscpType
    sizeData := UInt16.ofNat data.length
    data := overlay data data.length ex.data }

-- ex.GUID[15] = nickname is an assignment, so all that counts is that the nickname is not zero.
def answersPage (nickname : UInt8) (page : UInt16) (ex : VscpEventEx) : Bool :=
  ex.vscpClass = class1Protocol ∧ ex.vscpType = typeExtendedPageResponse ∧ nickname ≠ 0 ∧ 5 ≤ ex.sizeData ∧
    dataAt ex 1 = (page >>> 8).toUInt8 ∧ dataAt ex 2 = page.toUInt8

theorem last_guid_byte : 15 < 16 := by decide

def nicknameIndex : Fin 16 := ⟨15, last_guid_byte⟩

def Matches (nickname : UInt8) (page : UInt16) (ex : VscpEventEx) : Prop :=
  ex.vscpClass = class1Protocol ∧ ex.vscpType = typeExtendedPageResponse ∧ ex.guid.get nicknameIndex = nickname ∧
    5 ≤ ex.sizeData ∧ dataAt ex 1 = (page >>> 8).toUInt8 ∧ dataAt ex 2 = page.toUInt8

def carried (ex : VscpEventEx) : List (UInt8 × UInt8) :=
  (List.range (ex.sizeData.toNat - 4)).map fun i => (dataAt ex 3 + UInt8.ofNat i, dataAt ex (4 + i))

def registersOf (ex : VscpEventEx) : List UInt8 := (carried ex).map Prod.fst

theorem data_at_overlay (ex : VscpEventEx) (bytes : Bytes) (old : Vector UInt8 512)
    (written : ex.data = overlay bytes bytes.length old) (room : bytes.length ≤ maxData) (index : Nat)
    (inside : index < bytes.length) : dataAt ex index = bytes.getD index 0 := by
  have bound : index < ex.data.toList.length := by
    rw [Vector.length_toList]
    exact Nat.lt_of_lt_of_le inside room
  rw [dataAt, List.getD_eq_getElem _ _ bound, Vector.getElem_toList]
  simp only [written, overlay, Vector.getElem_ofFn, if_pos inside]

def responseOf (node : UInt8) (data : Bytes) : VscpEventEx :=
  { emptyEventEx with
    vscpType := typeExtendedPageResponse
    guid := (Vector.replicate 16 0).set 15 node last_guid_byte
    sizeData := UInt16.ofNat data.length
    data := overlay data data.length emptyEventEx.data }

theorem response_data (node : UInt8) (data : Bytes) (room : data.length ≤ maxData) (index : Nat)
    (inside : index < data.length) : dataAt (responseOf node data) index = data.getD index 0 :=
  data_at_overlay (responseOf node data) data emptyEventEx.data rfl room index inside

theorem short_response_fits (node byte : UInt8) : (responseOf node [0, 0, 0, 0, byte]).sizeData.toNat ≤ maxData :=
  show 5 ≤ 512 by decide

def shortResponse (node byte : UInt8) : Delivered := ⟨responseOf node [0, 0, 0, 0, byte], short_response_fits node byte⟩

theorem answers_match (nickname : UInt8) (page : UInt16) (ex : VscpEventEx)
    (answers : answersPage nickname page ex = true) (own : ex.guid.get nicknameIndex = nickname) : Matches nickname page ex := by
  obtain ⟨class1, response, _, long, high, low⟩ := of_decide_eq_true answers
  exact ⟨class1, response, own, long, high, low⟩

variable (map : RegisterMap) (pairs : List (UInt8 × UInt8))

theorem store_known (reg : UInt8) :
    (store map pairs reg).isSome ↔ (map reg).isSome ∨ reg ∈ pairs.map Prod.fst := by
  induction pairs generalizing map with
  | nil => simp [store]
  | cons pair pairs ih =>
      rw [store, List.foldl_cons, ← store, ih, List.map_cons, List.mem_cons]
      by_cases same : reg = pair.1
      · simp [insert, same]
      · simp [insert, same]

theorem store_value (reg byte : UInt8)
    (found : store map pairs reg = some byte) :
    (reg, byte) ∈ pairs ∨ (map reg = some byte ∧ reg ∉ pairs.map Prod.fst) := by
  induction pairs generalizing map with
  | nil => exact .inr ⟨found, List.not_mem_nil⟩
  | cons pair pairs ih =>
      rcases ih (insert map pair) found with later | ⟨before, absent⟩
      · exact .inl (List.mem_cons_of_mem pair later)
      · by_cases same : reg = pair.1
        · rw [insert, if_pos same] at before
          cases before
          rw [same]
          exact .inl List.mem_cons_self
        · rw [insert, if_neg same] at before
          refine .inr ⟨before, ?_⟩
          rw [List.map_cons, List.mem_cons]
          rintro (here | there)
          · exact same here
          · exact absent there

theorem distance_injective (offset first second : UInt8) (same : (first - offset).toNat = (second - offset).toNat) :
    first = second := by
  have equal := UInt8.toNat_inj.mp same
  have back := congrArg (· + offset) equal
  simpa using back

variable (offset : UInt8) (size : Nat) (regs : List UInt8)

theorem block_bound (once : regs.Nodup)
    (inside : ∀ reg ∈ regs, (reg - offset).toNat < size) : regs.length ≤ size := by
  have distances : (regs.map fun reg => (reg - offset).toNat).Nodup :=
    once.map fun first second same => distance_injective offset first second same
  have range : (regs.map fun reg => (reg - offset).toNat) ⊆ List.range size := by
    intro distance member
    obtain ⟨reg, own, rfl⟩ := List.mem_map.mp member
    exact List.mem_range.mpr (inside reg own)
  have fewer := (List.subperm_of_subset distances range).length_le
  rwa [List.length_map, List.length_range] at fewer

theorem block_covered (once : regs.Nodup)
    (inside : ∀ reg ∈ regs, (reg - offset).toNat < size) (full : size ≤ regs.length) (reg : UInt8)
    (asked : (reg - offset).toNat < size) : reg ∈ regs := by
  by_contra absent
  have more := block_bound offset size (reg :: regs) (List.nodup_cons.mpr ⟨absent, once⟩) (by
    intro other member
    rcases List.mem_cons.mp member with rfl | member
    · exact asked
    · exact inside other member)
  rw [List.length_cons] at more
  omega

end Vscp.Registers
