import Vscp.MdfFormats

set_option autoImplicit false

namespace Vscp.ModuleDescription

open RemoteTcp (Text isSpace)
open NumberText (readInteger)

-- `long` has 64 bits here, and strtol stays within it.
def strtol (base : Nat) (text : Text) : Int :=
  match readInteger isSpace base text with
  | none => 0
  | some (number, _) => max (-2 ^ 63) (min number (2 ^ 63 - 1))

-- None where the reference is not written to.
def Register.getDefault (reg : Register) : Option UInt8 :=
  if reg.strDefault = "UNDEF".toList then none else some (UInt8.ofInt (strtol 0 reg.strDefault))

def Access.bits : Access → UInt8
  | .none => 0
  | .readOnly => 1
  | .writeOnly => 2
  | .readWrite => 3

section

variable (mdf : Mdf)

def getRegisterCount (page : UInt32) : Nat := mdf.listRegister.countP fun reg => decide (page = reg.page.toUInt32)

-- The set is the caller's, whatever it has in it.
def getPages (pages : Finset UInt16) : UInt32 × Finset UInt16 :=
  let pages := mdf.listRegister.foldl (fun pages reg => if reg.page ∈ pages then pages else insert reg.page pages) pages
  (UInt32.ofNat pages.card, pages)

def getRegister (reg : UInt32) (page : UInt16) : Option Register :=
  mdf.listRegister.find? fun preg => decide (reg = preg.offset ∧ page = preg.page)

def isRegisterWriteable (reg : UInt32) (page : UInt16) : Bool :=
  match getRegister mdf reg page with
  | none => false
  | some preg => !(preg.access.bits = 0 || preg.access.bits &&& Access.readOnly.bits ≠ 0)

-- `val` is what lies on the stack; the test for a default is turned round.
def getDefaultRegisterValue (val : UInt8) (reg : UInt32) (page : UInt16) : Int :=
  match getRegister mdf reg page with
  | none => -1
  | some preg =>
      match preg.getDefault with
      | some _ => -1
      | none => val.toNat

def createRegisterSortedSet (set : Finset UInt32) (page : UInt16) : Finset UInt32 :=
  mdf.listRegister.foldl (fun set reg => if page = reg.page then insert reg.offset set else set) set

-- The map is the caller's, too; none stands for a null pointer in it.
def getRegisterMap (page : UInt16) (mapRegs : UInt32 → Option (Option Register)) : UInt32 → Option (Option Register) :=
  fun reg => if reg ∈ createRegisterSortedSet mdf ∅ page then some (getRegister mdf reg page) else mapRegs reg

end

def place (reg : Register) : UInt16 × UInt32 := (reg.page, reg.offset)

theorem register_of_found (mdf : Mdf) (reg : Register) (offset : UInt32) (page : UInt16)
    (found : getRegister mdf offset page = some reg) : reg ∈ mdf.listRegister ∧ place reg = (page, offset) := by
  rw [getRegister] at found
  have here := List.find?_some found
  rw [decide_eq_true_eq] at here
  obtain ⟨rfl, rfl⟩ := here
  exact ⟨List.mem_of_find?_eq_some found, rfl⟩

theorem register_present (mdf : Mdf) (reg : Register) (offset : UInt32) (page : UInt16)
    (member : reg ∈ mdf.listRegister) (here : place reg = (page, offset)) :
    ∃ other, getRegister mdf offset page = some other := by
  obtain ⟨samePage, sameOffset⟩ := Prod.mk.inj here
  refine Option.isSome_iff_exists.mp ?_
  rw [getRegister, List.find?_isSome]
  exact ⟨reg, member, decide_eq_true ⟨sameOffset.symm, samePage.symm⟩⟩

theorem register_found_iff (mdf : Mdf) (distinct : (mdf.listRegister.map place).Nodup) (reg : Register)
    (offset : UInt32) (page : UInt16) :
    getRegister mdf offset page = some reg ↔ reg ∈ mdf.listRegister ∧ place reg = (page, offset) := by
  constructor
  · exact register_of_found mdf reg offset page
  · rintro ⟨member, here⟩
    obtain ⟨other, found⟩ := register_present mdf reg offset page member here
    obtain ⟨listed, there⟩ := register_of_found mdf other offset page found
    rw [found, List.inj_on_of_nodup_map distinct listed member (there.trans here.symm)]

variable (registers : List Register)

theorem sorted_set_mem (set : Finset UInt32) (page : UInt16) (offset : UInt32) :
    offset ∈ registers.foldl (fun set reg => if page = reg.page then insert reg.offset set else set) set ↔
      offset ∈ set ∨ ∃ reg ∈ registers, place reg = (page, offset) := by
  induction registers generalizing set with
  | nil => simp
  | cons reg rest ih =>
      rw [List.foldl_cons, ih]
      by_cases own : page = reg.page
      · rw [if_pos own, Finset.mem_insert, List.exists_mem_cons_iff]
        have head : place reg = (page, offset) ↔ offset = reg.offset := by
          rw [place, own, Prod.mk.injEq, and_iff_right rfl, eq_comm]
        rw [head]
        tauto
      · rw [if_neg own, List.exists_mem_cons_iff]
        have head : ¬place reg = (page, offset) := fun same => own (congrArg Prod.fst same).symm
        tauto

variable (pages : Finset UInt16)

theorem pages_mem (page : UInt16) :
    page ∈ registers.foldl (fun pages reg => if reg.page ∈ pages then pages else insert reg.page pages) pages ↔
      page ∈ pages ∨ ∃ reg ∈ registers, reg.page = page := by
  induction registers generalizing pages with
  | nil => simp
  | cons reg rest ih =>
      rw [List.foldl_cons, ih, List.exists_mem_cons_iff]
      by_cases old : reg.page ∈ pages
      · rw [if_pos old]
        constructor
        · rintro (there | later)
          · exact Or.inl there
          · exact Or.inr (Or.inr later)
        · rintro (there | rfl | later)
          · exact Or.inl there
          · exact Or.inl old
          · exact Or.inr later
      · rw [if_neg old, Finset.mem_insert]
        constructor
        · rintro ((new | there) | later)
          · exact Or.inr (Or.inl new.symm)
          · exact Or.inl there
          · exact Or.inr (Or.inr later)
        · rintro (there | new | later)
          · exact Or.inl (Or.inr there)
          · exact Or.inl (Or.inl new.symm)
          · exact Or.inr later

theorem set_iff_found (mdf : Mdf) (offset : UInt32) (page : UInt16) :
    offset ∈ createRegisterSortedSet mdf ∅ page ↔ ∃ reg, getRegister mdf offset page = some reg := by
  rw [createRegisterSortedSet, sorted_set_mem]
  constructor
  · rintro (nowhere | ⟨reg, member, here⟩)
    · exact absurd nowhere (Finset.notMem_empty offset)
    · exact register_present mdf reg offset page member here
  · rintro ⟨reg, found⟩
    exact Or.inr ⟨reg, register_of_found mdf reg offset page found⟩

theorem page_count (mdf : Mdf) (distinct : (mdf.listRegister.map place).Nodup) (page : UInt16) :
    (createRegisterSortedSet mdf ∅ page).card = getRegisterCount mdf page.toUInt32 := by
  have offsets : createRegisterSortedSet mdf ∅ page =
      ((mdf.listRegister.filter fun reg => decide (page.toUInt32 = reg.page.toUInt32)).map Register.offset).toFinset := by
    ext offset
    rw [createRegisterSortedSet, sorted_set_mem, List.mem_toFinset, List.mem_map]
    simp only [Finset.notMem_empty, false_or, List.mem_filter, decide_eq_true_eq, UInt16.toUInt32_inj, place,
      Prod.mk.injEq]
    constructor
    · rintro ⟨reg, member, rfl, rfl⟩
      exact ⟨reg, ⟨member, rfl⟩, rfl⟩
    · rintro ⟨reg, ⟨member, rfl⟩, rfl⟩
      exact ⟨reg, member, rfl, rfl⟩
  have apart : ((mdf.listRegister.filter fun reg => decide (page.toUInt32 = reg.page.toUInt32)).map
      Register.offset).Nodup := by
    refine List.Nodup.of_map (fun offset => (page, offset)) ?_
    rw [List.map_map]
    have same : (mdf.listRegister.filter fun reg => decide (page.toUInt32 = reg.page.toUInt32)).map
        ((fun offset => (page, offset)) ∘ Register.offset) =
          (mdf.listRegister.filter fun reg => decide (page.toUInt32 = reg.page.toUInt32)).map place := by
      refine List.map_congr_left fun reg member => ?_
      have own := UInt16.toUInt32_inj.mp (of_decide_eq_true (List.mem_filter.mp member).2)
      rw [Function.comp_apply, place, own]
    rw [same]
    exact distinct.sublist (List.filter_sublist.map place)
  rw [offsets, List.toFinset_card_of_nodup apart, List.length_map, getRegisterCount, List.countP_eq_length_filter]

theorem count_positive_iff (mdf : Mdf) (page : UInt16) :
    0 < getRegisterCount mdf page.toUInt32 ↔ page ∈ (getPages mdf ∅).2 := by
  rw [getRegisterCount, List.countP_pos_iff, getPages, pages_mem]
  simp only [decide_eq_true_eq, UInt16.toUInt32_inj, Finset.notMem_empty, false_or]
  exact exists_congr fun reg => and_congr_right fun _ => eq_comm

theorem counts_sum (all : ∀ reg ∈ registers, reg.page ∈ pages) :
    pages.sum (fun page => registers.countP fun reg => decide (page.toUInt32 = reg.page.toUInt32)) =
      registers.length := by
  induction registers with
  | nil => simp
  | cons reg rest ih =>
      obtain ⟨own, others⟩ := List.forall_mem_cons.mp all
      have one : pages.sum (fun page => if page.toUInt32 = reg.page.toUInt32 then 1 else 0) = 1 := by
        simp only [UInt16.toUInt32_inj]
        rw [Finset.sum_ite_eq' pages reg.page fun _ => 1, if_pos own]
      simp only [List.countP_cons, decide_eq_true_eq, Finset.sum_add_distrib, List.length_cons]
      rw [ih others, one]

-- The five ways of asking for registers tell of the same ones, once each.
theorem lookups_agree (mdf : Mdf) (distinct : (mdf.listRegister.map place).Nodup) :
    (∀ reg offset page, getRegister mdf offset page = some reg ↔
      reg ∈ mdf.listRegister ∧ reg.page = page ∧ reg.offset = offset) ∧
      (∀ offset page, offset ∈ createRegisterSortedSet mdf ∅ page ↔ (getRegister mdf offset page).isSome = true) ∧
      (∀ offset page, getRegisterMap mdf page (fun _ => none) offset = (getRegister mdf offset page).map some) ∧
      (∀ page, getRegisterCount mdf page.toUInt32 = (createRegisterSortedSet mdf ∅ page).card) ∧
      (∀ page, page ∈ (getPages mdf ∅).2 ↔ 0 < getRegisterCount mdf page.toUInt32) ∧
      (getPages mdf ∅).2.sum (fun page => getRegisterCount mdf page.toUInt32) = mdf.listRegister.length := by
  refine ⟨fun reg offset page => ?_, fun offset page => ?_, fun offset page => ?_,
    fun page => (page_count mdf distinct page).symm, fun page => (count_positive_iff mdf page).symm, ?_⟩
  · rw [register_found_iff mdf distinct, place, Prod.mk.injEq]
  · rw [set_iff_found, Option.isSome_iff_exists]
  · rw [getRegisterMap]
    by_cases there : offset ∈ createRegisterSortedSet mdf ∅ page
    · obtain ⟨reg, found⟩ := (set_iff_found mdf offset page).mp there
      rw [if_pos there, found, Option.map_some]
    · have missing : getRegister mdf offset page = none := by
        rw [Option.eq_none_iff_forall_ne_some]
        intro reg found
        exact there ((set_iff_found mdf offset page).mpr ⟨reg, found⟩)
      rw [if_neg there, missing, Option.map_none]
  · refine counts_sum mdf.listRegister _ fun reg member => ?_
    rw [getPages, pages_mem]
    exact Or.inr ⟨reg, member, rfl⟩

def twoPages : Mdf := { listRegister := [{ page := 0, offset := 0 }, { page := 1, offset := 0 }] }

theorem lookups_agree_two_pages :
    getRegisterCount twoPages (1 : UInt16).toUInt32 = (createRegisterSortedSet twoPages ∅ 1).card :=
  (lookups_agree twoPages (by decide)).2.2.2.1 1

structure Declared where
  name : Text
  index : Option Nat
  page : UInt16
  offset : UInt32
  width : UInt16
  min : UInt32
  max : UInt32
  access : Access
  default : Option UInt8

def RegisterDescription.first (reg : RegisterDescription) (index : Option Nat) : Declared where
  name := lowered reg.name
  index := index
  page := numberOr UInt16.ofInt reg.page 0
  offset := numberOr UInt32.ofInt reg.offset 0 + UInt32.ofNat (index.getD 0)
  width := numberOr UInt16.ofInt reg.width 8
  min := numberOr UInt32.ofInt reg.min 0
  max := numberOr UInt32.ofInt reg.max 255
  access := accessOr reg.access
  default := reg.default.map fun own => UInt8.ofInt own.value

def RegisterDescription.declared (reg : RegisterDescription) : List Declared :=
  if inRows reg.type then
    (List.range (Nat.max 1 (numberOr UInt16.ofInt reg.span 1).toNat)).map fun index => reg.first (some index)
  else [reg.first none]

def Description.declared (description : Description) : List Declared :=
  description.registers.flatMap RegisterDescription.declared

def Declared.named (declared : Declared) (name : Text) : Prop :=
  match declared.index with
  | none => name = declared.name
  | some index => ∃ separator, name = declared.name ++ separator ++ NumberText.decimal index

def Declared.at' (declared : Declared) (offset : UInt32) (page : UInt16) : Prop :=
  declared.offset = offset ∧ declared.page = page

structure ReportsDeclared (registers : List Declared) (mdf : Mdf) : Prop where
  found : ∀ declared ∈ registers, ∃ reg, getRegister mdf declared.offset declared.page = some reg ∧
    reg.width = declared.width ∧ reg.min = declared.min ∧ reg.max = declared.max ∧ reg.access = declared.access ∧
    declared.named reg.name
  missing : ∀ offset page, (∀ declared ∈ registers, ¬declared.at' offset page) → getRegister mdf offset page = none
  map : ∀ offset page, getRegisterMap mdf page (fun _ => none) offset = (getRegister mdf offset page).map some
  set : ∀ offset page, offset ∈ createRegisterSortedSet mdf ∅ page ↔ ∃ declared ∈ registers, declared.at' offset page
  count : ∀ page : UInt16, getRegisterCount mdf page.toUInt32 = registers.countP fun declared => declared.page = page
  pages : ∀ page, page ∈ (getPages mdf ∅).2 ↔ ∃ declared ∈ registers, declared.page = page
  default : ∀ val, ∀ declared ∈ registers, getDefaultRegisterValue mdf val declared.offset declared.page =
    (declared.default.map fun own => (own.toNat : Int)).getD (-1)
  noDefault : ∀ val offset page, (∀ declared ∈ registers, ¬declared.at' offset page) →
    getDefaultRegisterValue mdf val offset page = -1
  writeable : ∀ offset page, isRegisterWriteable mdf offset page = true ↔
    ∃ declared ∈ registers, declared.at' offset page ∧ declared.access ∈ [Access.writeOnly, Access.readWrite]

theorem head_place (reg : Register) (name : Text) :
    place (reg.row name 0) = (reg.page, reg.offset) ∧ (reg.row name 0).strDefault = reg.strDefault := by
  refine ⟨?_, rfl⟩
  rw [place, Register.row]
  exact congrArg (Prod.mk reg.page) (UInt32.add_zero reg.offset)

def Heads (rows : List Register) (reg : RegisterDescription) : Prop :=
  ∃ first later, rows = first :: later ∧ place first = ((reg.first none).page, (reg.first none).offset) ∧
    (reg.default = none → first.strDefault = "UNDEF".toList)

variable (own : Register) (library : JsonLibrary) (reg : RegisterDescription)

theorem heads_of_rows (first later : Text)
    (here : place own = ((reg.first none).page, (reg.first none).offset))
    (undefined : reg.default = none → own.strDefault = "UNDEF".toList) : Heads (own.rows first later) reg :=
  ⟨_, _, rfl, (head_place own _).1.trans here, undefined⟩

theorem heads_of_copies (here : place own = ((reg.first none).page, (reg.first none).offset))
    (undefined : reg.default = none → own.strDefault = "UNDEF".toList) :
    Heads own.copies reg ∧ Heads (jsonRegisterRows own) reg := by
  rw [Register.copies, jsonRegisterRows]
  cases own.type with
  | dmatrix1 => exact ⟨heads_of_rows own reg _ _ here undefined, heads_of_rows own reg _ _ here undefined⟩
  | block => exact ⟨heads_of_rows own reg _ _ here undefined, heads_of_rows own reg _ _ here undefined⟩
  | standard => exact ⟨⟨own, [], rfl, here, undefined⟩, ⟨own, [], rfl, here, undefined⟩⟩
  | other code => exact ⟨⟨own, [], rfl, here, undefined⟩, ⟨own, [], rfl, here, undefined⟩⟩

theorem first_place : (reg.first none).offset = numberOr UInt32.ofInt reg.offset 0 :=
  UInt32.add_zero _

theorem xml_heads : Heads reg.fromXml.copies reg := by
  refine (heads_of_copies reg.fromXml reg ?_ fun none => ?_).1
  · rw [register_from_xml, first_place]
    rfl
  · rw [register_from_xml, none]
    rfl

theorem json_heads :
    Heads (jsonRegisterRows (jsonRegister library reg.json)) reg := by
  refine (heads_of_copies (jsonRegister library reg.json) reg ?_ fun none => ?_).2
  · rw [register_from_json, first_place]
    rfl
  · rw [register_from_json, none]
    rfl

theorem first_declared :
    ∃ declared ∈ reg.declared, declared.offset = (reg.first none).offset ∧ declared.page = (reg.first none).page ∧
      declared.default = (reg.first none).default := by
  rw [RegisterDescription.declared]
  by_cases rows : inRows reg.type = true
  · rw [if_pos rows]
    exact ⟨reg.first (some 0), List.mem_map.mpr ⟨0, List.mem_range.mpr (Nat.le_max_left 1 _), rfl⟩, rfl, rfl, rfl⟩
  · rw [if_neg rows]
    exact ⟨reg.first none, List.mem_singleton.mpr rfl, rfl, rfl, rfl⟩

theorem first_default_wrong (mdf : Mdf) (rest : List Register) (rows : List Register)
    (heads : Heads rows reg) (list : mdf.listRegister = rows ++ rest) :
    ∃ val, getDefaultRegisterValue mdf val (reg.first none).offset (reg.first none).page ≠
      ((reg.first none).default.map fun own => (own.toNat : Int)).getD (-1) := by
  obtain ⟨first, later, rfl, here, undefined⟩ := heads
  obtain ⟨samePage, sameOffset⟩ := Prod.mk.inj here
  have found : getRegister mdf (reg.first none).offset (reg.first none).page = some first := by
    rw [getRegister, list, List.cons_append, List.find?_cons_of_pos]
    exact decide_eq_true ⟨sameOffset.symm, samePage.symm⟩
  cases given : reg.default with
  | none =>
      have noDefault : first.getDefault = none := if_pos (undefined given)
      refine ⟨0, ?_⟩
      rw [getDefaultRegisterValue, found]
      simp only [noDefault, RegisterDescription.first, given, Option.map_none, Option.getD_none]
      decide
  | some own =>
      cases recorded : first.getDefault with
      | some value =>
          refine ⟨0, ?_⟩
          rw [getDefaultRegisterValue, found]
          simp only [recorded, RegisterDescription.first, given, Option.map_some, Option.getD_some]
          omega
      | none =>
          refine ⟨UInt8.ofInt own.value + 1, ?_⟩
          rw [getDefaultRegisterValue, found]
          simp only [recorded, RegisterDescription.first, given, Option.map_some, Option.getD_some]
          intro same
          have next := UInt8.toNat_inj.mp (Int.ofNat_inj.mp same)
          exact absurd next (by simp)

theorem reports_nothing (mdf : Mdf) (empty : mdf.listRegister = []) : ReportsDeclared [] mdf := by
  have nothing : ∀ offset page, getRegister mdf offset page = none := by
    intro offset page
    rw [getRegister, empty]
    rfl
  have noSet : ∀ page, createRegisterSortedSet mdf ∅ page = ∅ := by
    intro page
    rw [createRegisterSortedSet, empty]
    rfl
  refine ⟨fun _ member => (List.not_mem_nil member).elim, fun offset page _ => nothing offset page, fun offset page => ?_,
    fun offset page => ?_, fun page => ?_, fun page => ?_, fun _ _ member => (List.not_mem_nil member).elim,
    fun val offset page _ => ?_, fun offset page => ?_⟩
  · rw [getRegisterMap, noSet, if_neg (Finset.notMem_empty offset), nothing, Option.map_none]
  · rw [noSet]
    simp
  · rw [getRegisterCount, empty]
    rfl
  · rw [getPages, empty]
    simp
  · rw [getDefaultRegisterValue, nothing]
  · rw [isRegisterWriteable, nothing]
    simp

theorem reports_iff (registers : List RegisterDescription) (rowsOf : RegisterDescription → List Register) (mdf : Mdf)
    (heads : ∀ reg, Heads (rowsOf reg) reg) (list : mdf.listRegister = registers.flatMap rowsOf) :
    ReportsDeclared (registers.flatMap RegisterDescription.declared) mdf ↔ registers = [] := by
  cases registers with
  | nil => exact iff_of_true (reports_nothing mdf list) rfl
  | cons reg rest =>
      refine iff_of_false (fun reports => ?_) (List.cons_ne_nil reg rest)
      obtain ⟨val, wrong⟩ := first_default_wrong reg mdf _ _ (heads reg) list
      obtain ⟨declared, member, offset, page, default⟩ := first_declared reg
      have right := reports.default val declared (List.mem_append_left _ member)
      rw [offset, page, default] at right
      exact wrong right

theorem json_registers (description : Description) (mdf : Mdf)
    (read : parseJsonValue library {} description.json = (vscpErrorSuccess, mdf)) :
    mdf.listRegister = description.registers.flatMap fun reg => jsonRegisterRows (jsonRegister library reg.json) := by
  cases inner : jsonModule library description.json description.inner {} with
  | error half =>
      rw [json_module_failed library description half inner] at read
      have code : vscpErrorParsing = vscpErrorSuccess := congrArg Prod.fst read
      exact absurd code (by decide)
  | ok whole =>
      rw [json_module_read library description whole inner] at read
      obtain rfl := congrArg Prod.snd read
      cases named : description.name with
      | none =>
          have own := quoted_member description.inner "name".toList description.name (inner_member description _)
          rw [jsonModule, own, named] at inner
          cases inner
      | some name =>
          obtain ⟨_, _, _, _, _, _, rfl⟩ := (module_from_json library description name named whole).mp inner
          rfl

theorem register_lookups_iff (libraries : Libraries) (description : Description) (xml json : Text)
    (files : Delivered libraries description xml json) :
    (∀ mdf, outcome libraries freshProcess ⟨0, some xml⟩ = .ok (vscpErrorSuccess, mdf) →
      (ReportsDeclared description.declared mdf ↔ description.registers = [])) ∧
      ∀ mdf, outcome libraries freshProcess ⟨0, some json⟩ = .ok (vscpErrorSuccess, mdf) →
        (ReportsDeclared description.declared mdf ↔ description.registers = []) := by
  rw [xml_file_outcome libraries description xml json files, json_file_outcome libraries description xml json files]
  constructor
  · rintro mdf ⟨⟩
    exact reports_iff description.registers (fun reg => reg.fromXml.copies) _ xml_heads rfl
  · intro mdf read
    exact reports_iff description.registers _ mdf (json_heads libraries.json)
      (json_registers libraries.json description mdf (Except.ok.inj read))

theorem register_lookups_iff_control :
    (∀ mdf, outcome (librariesFor (controlDescription none) (controlBody []) (controlJson [])) freshProcess
        ⟨0, some (xmlFile (controlBody []))⟩ = .ok (vscpErrorSuccess, mdf) →
      (ReportsDeclared (controlDescription none).declared mdf ↔ (controlDescription none).registers = [])) ∧
      ∀ mdf, outcome (librariesFor (controlDescription none) (controlBody []) (controlJson [])) freshProcess
          ⟨0, some (controlJson [])⟩ = .ok (vscpErrorSuccess, mdf) →
        (ReportsDeclared (controlDescription none).declared mdf ↔ (controlDescription none).registers = []) :=
  register_lookups_iff _ (controlDescription none) _ _
    (delivered_for (controlDescription none) (controlBody []) (controlJson []) (by decide) (by decide))

-- The register of the control description has no default, and what lies on the stack is returned for it.
theorem control_default_wrong :
    ∃ mdf, outcome (librariesFor (controlDescription none) (controlBody []) (controlJson [])) freshProcess
        ⟨0, some (xmlFile (controlBody []))⟩ = .ok (vscpErrorSuccess, mdf) ∧
      ¬ReportsDeclared (controlDescription none).declared mdf := by
  have files := delivered_for (controlDescription none) (controlBody []) (controlJson []) (by decide) (by decide)
  refine ⟨_, xml_file_outcome _ _ _ _ files, fun reports => ?_⟩
  exact absurd ((reports_iff (controlDescription none).registers (fun reg => reg.fromXml.copies) _ xml_heads rfl).mp
    reports) (List.cons_ne_nil _ _)

end Vscp.ModuleDescription
