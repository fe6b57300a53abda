import Vscp.MdfAgreement

set_option autoImplicit false

namespace Vscp.ModuleDescription

open RemoteTcp (Text trim)
open SaxHandler (Node)

section matrix

variable (library : JsonLibrary)

def blank : Option Numeral → Bool
  | none => false
  | some own => trim own.spelled = []

-- A number that stands between two tags; where it is blank the old one stays.
def leafNumber {Number : Type} (ofInt : Int → Number) (numeral : Option Numeral) (missing : Number) : Number :=
  if blank numeral then missing else numberOr ofInt numeral missing

theorem number_of_blank {Number : Type} (ofInt : Int → Number) (numeral : Option Numeral) (missing : Number)
    (empty : blank numeral = true) : numberOr ofInt numeral missing = ofInt 0 := by
  cases numeral with
  | none => cases empty
  | some own =>
      have nothing : trim own.spelled = [] := of_decide_eq_true empty
      rw [numberOr, Option.map_some, Option.getD_some, ← read_spelled, ← read_trim, nothing]
      rfl

theorem leaf_number_agrees_iff {Number : Type} (ofInt : Int → Number) (numeral : Option Numeral) (missing : Number)
    (other : missing ≠ ofInt 0) :
    leafNumber ofInt numeral missing = numberOr ofInt numeral missing ↔ blank numeral = false := by
  rw [leafNumber]
  cases empty : blank numeral with
  | true =>
      rw [if_pos rfl, number_of_blank ofInt numeral missing empty]
      exact iff_of_false other Bool.noConfusion
  | false => exact iff_of_true rfl rfl

theorem leaf_number_zero {Number : Type} (ofInt : Int → Number) (numeral : Option Numeral) :
    leafNumber ofInt numeral (ofInt 0) = numberOr ofInt numeral (ofInt 0) := by
  rw [leafNumber]
  cases empty : blank numeral with
  | true => rw [if_pos rfl, number_of_blank ofInt numeral _ empty]
  | false => rfl

theorem leaf_change {Number : Type} (ofInt : Int → Number) (put : Number → Mdf → Mdf) (change : Text → Mdf → Mdf)
    (get : Mdf → Number) (changes : ∀ text mdf, change text mdf = put (ofInt (readStringValue text)) mdf)
    (keeps : ∀ mdf, put (get mdf) mdf = mdf) (numeral : Option Numeral) (mdf : Mdf) :
    leafChange change (spelled numeral) mdf = put (leafNumber ofInt numeral (get mdf)) mdf := by
  cases numeral with
  | none => exact (keeps mdf).symm
  | some own =>
      simp only [leafChange, spelled, Option.map_some, leafNumber, blank, decide_eq_true_eq]
      by_cases empty : trim own.spelled = []
      · rw [if_pos empty, if_pos empty, keeps]
      · rw [if_neg empty, if_neg empty, changes, read_trim, read_spelled]
        rfl

theorem fold_adds {Item Record Whole : Type} (put : List Record → Whole → Whole) (records : Item → List Record)
    (none : ∀ whole, put [] whole = whole)
    (twice : ∀ first second whole, put second (put first whole) = put (first ++ second) whole)
    (items : List Item) (whole : Whole) :
    items.foldl (fun old item => put (records item) old) whole = put (items.flatMap records) whole := by
  induction items generalizing whole with
  | nil => exact (none whole).symm
  | cons item items ih => rw [List.foldl_cons, ih, twice, List.flatMap_cons]

def MatrixDescription.fromXml (matrix : MatrixDescription) : DecisionMatrix where
  level := leafNumber UInt8.ofInt matrix.level 1
  startPage := numberOr UInt16.ofInt matrix.page 0
  startOffset := numberOr UInt16.ofInt matrix.offset 0
  rowCount := numberOr UInt16.ofInt matrix.rowCount 0
  rowSize := leafNumber UInt16.ofInt matrix.rowSize 8
  listAction := matrix.actions.map ActionDescription.fromXml

variable (matrix : MatrixDescription)

theorem start_change (mdf : Mdf) (new : mdf.dmInfo = {}) :
    startMatrix matrix mdf = { mdf with dmInfo :=
      { startPage := numberOr UInt16.ofInt matrix.page 0, startOffset := numberOr UInt16.ofInt matrix.offset 0 } } := by
  have folded : setAttributes startNames setStart lowerTrim (given matrix.startAttributes) {} =
      setOptional setStart .offset (spelled matrix.offset) (setOptional setStart .page (spelled matrix.page) {}) :=
    set_given _ _ _ _
  rw [startMatrix, new, folded, ← spelled_number, ← spelled_number]
  cases spelled matrix.offset <;> cases spelled matrix.page <;> rfl

theorem matrix_change (mdf : Mdf) (new : mdf.dmInfo = {}) :
    matrixChange matrix mdf = { mdf with dmInfo := matrix.fromXml } := by
  have actions (whole : Mdf) := fold_adds
    (fun records (old : Mdf) => { old with dmInfo.listAction := old.dmInfo.listAction ++ records })
    (fun action : ActionDescription => [action.fromXml]) (fun whole => by rw [List.append_nil])
    (fun first second whole => by rw [List.append_assoc]) matrix.actions whole
  have level := leaf_change UInt8.ofInt (fun number mdf => { mdf with dmInfo.level := number })
    (setModuleText .matrixLevel) (fun mdf => mdf.dmInfo.level) (fun _ _ => rfl) (fun _ => rfl) matrix.level
  have rowCount := leaf_change UInt16.ofInt (fun number mdf => { mdf with dmInfo.rowCount := number })
    (setModuleText .rowCount) (fun mdf => mdf.dmInfo.rowCount) (fun _ _ => rfl) (fun _ => rfl) matrix.rowCount
  have rowSize := leaf_change UInt16.ofInt (fun number mdf => { mdf with dmInfo.rowSize := number })
    (setModuleText .rowSize) (fun mdf => mdf.dmInfo.rowSize) (fun _ _ => rfl) (fun _ => rfl) matrix.rowSize
  have rows : leafNumber UInt16.ofInt matrix.rowCount 0 = numberOr UInt16.ofInt matrix.rowCount 0 :=
    leaf_number_zero UInt16.ofInt matrix.rowCount
  rw [matrixChange, actions, start_change matrix mdf new, level, rowCount, rowSize, ← List.map_eq_flatMap]
  simp only [MatrixDescription.fromXml, ← rows, List.nil_append]

theorem matrix_from_json : jsonMatrix library matrix.json {} =
    attach (fun actions => { matrix.fromXml with
        level := numberOr UInt8.ofInt matrix.level 1
        rowSize := numberOr UInt16.ofInt matrix.rowSize 8
        listAction := actions })
      (readRecords (jsonAction library) (matrix.actions.map ActionDescription.json)) := by
  have member := member_with matrix.members (of_decide_eq_true rfl)
  have level := member_number library UInt8.ofInt matrix.json "level".toList matrix.level 1 (member _)
  have page := member_number library UInt16.ofInt matrix.json "start-page".toList matrix.page 0 (member _)
  have offset := member_number library UInt16.ofInt matrix.json "start-offset".toList matrix.offset 0 (member _)
  have rowCount := member_number library UInt16.ofInt matrix.json "rowcount".toList matrix.rowCount 0 (member _)
  have rowSize := member_number library UInt16.ofInt matrix.json "rowsize".toList matrix.rowSize 8 (member _)
  have actions := listed_members ActionDescription.json matrix.json "action".toList matrix.actions (member _)
  simp only [jsonMatrix, level, page, offset, rowCount, rowSize, actions, Option.getD_some, List.nil_append,
    objects_listed ActionDescription.json fun _ => rfl]
  rfl

structure MatrixDescription.Agrees (matrix : MatrixDescription) : Prop where
  level : blank matrix.level = false
  rowSize : blank matrix.rowSize = false
  actions : ∀ action ∈ matrix.actions, action.Agrees

theorem attach_ok_iff {Part Whole : Type} (put : Part → Whole) (outcome : Except Part Part) (whole : Whole) :
    attach put outcome = .ok whole ↔ ∃ part, outcome = .ok part ∧ put part = whole := by
  cases outcome with
  | error part => exact iff_of_false (fun same => by cases same) fun ⟨_, same, _⟩ => by cases same
  | ok part =>
      constructor
      · intro same
        exact ⟨part, rfl, Except.ok.inj same⟩
      · rintro ⟨own, same, rfl⟩
        cases same
        rfl

theorem matrix_agrees_iff :
    jsonMatrix library matrix.json {} = .ok matrix.fromXml ↔ matrix.Agrees := by
  have actions := (read_records_iff (jsonAction library) ActionDescription.json ActionDescription.fromXml
    matrix.actions).trans (forall₂_congr fun action _ => action_agrees_iff library action)
  have level := leaf_number_agrees_iff UInt8.ofInt matrix.level 1 (by decide)
  have rowSize := leaf_number_agrees_iff UInt16.ofInt matrix.rowSize 8 (by decide)
  rw [matrix_from_json, attach_ok_iff]
  constructor
  · rintro ⟨read, ok, same⟩
    obtain ⟨sameLevel, -, -, -, sameSize, sameActions⟩ := (DecisionMatrix.mk.injEq ..).mp same
    exact ⟨level.mp sameLevel.symm, rowSize.mp sameSize.symm, actions.mp (sameActions ▸ ok)⟩
  · intro agrees
    refine ⟨_, actions.mpr agrees.actions, ?_⟩
    rw [← level.mpr agrees.level, ← rowSize.mpr agrees.rowSize]
    rfl

end matrix

section document

variable (library : JsonLibrary)

theorem name_change (name : Option Text) : leafChange nameChange name {} = { name := lowered name } := by
  cases name with
  | none => rfl
  | some text =>
      simp only [leafChange]
      by_cases empty : trim text = []
      · have low : lowerTrim text = [] := by rw [lowerTrim, empty]; rfl
        rw [if_pos empty, lowered, Option.map_some, Option.getD_some, low]
      · have low : lowerTrim (trim text) = lowerTrim text := by rw [lowerTrim, trim_trim, lowerTrim]
        rw [if_neg empty, nameChange, low]
        rfl

def Description.fromXml (description : Description) : Mdf where
  name := lowered description.name
  bufferSize := numberOr UInt16.ofInt description.bufferSize 0
  dmInfo := description.matrix.fromXml
  listRegister := description.registers.flatMap fun reg => reg.fromXml.copies
  listRemotevar := description.remotes.map RemoteDescription.fromXml
  listEvent := description.events.map EventDescription.fromXml

variable (j : Json) (description : Description) (name : Text) (mdf : Mdf)

theorem document_change : documentChange description {} = description.fromXml := by
  have size : leafNumber UInt16.ofInt description.bufferSize 0 = numberOr UInt16.ofInt description.bufferSize 0 :=
    leaf_number_zero UInt16.ofInt description.bufferSize
  have named := name_change description.name
  have sized : leafChange (setModuleText .buffersize) (spelled description.bufferSize)
      { name := lowered description.name } =
        { name := lowered description.name, bufferSize := numberOr UInt16.ofInt description.bufferSize 0 } := by
    rw [← size]
    exact leaf_change UInt16.ofInt (fun number mdf => { mdf with bufferSize := number })
      (setModuleText .buffersize) (fun mdf => mdf.bufferSize) (fun _ _ => rfl) (fun _ => rfl) description.bufferSize _
  have registers (whole : Mdf) (new : whole.listRegister = []) : description.registers.foldl
      (fun old reg => { old with listRegister := old.listRegister ++ reg.fromXml.copies }) whole =
        { whole with listRegister := description.fromXml.listRegister } := by
    have added := fold_adds (fun records (old : Mdf) => { old with listRegister := old.listRegister ++ records })
      (fun reg : RegisterDescription => reg.fromXml.copies) (fun old => by rw [List.append_nil])
      (fun first second old => by rw [List.append_assoc]) description.registers whole
    rw [new] at added
    exact added
  have remotes (whole : Mdf) (new : whole.listRemotevar = []) : description.remotes.foldl
      (fun old rvar => { old with listRemotevar := old.listRemotevar ++ [rvar.fromXml] }) whole =
        { whole with listRemotevar := description.fromXml.listRemotevar } := by
    have added := fold_adds (fun records (old : Mdf) => { old with listRemotevar := old.listRemotevar ++ records })
      (fun rvar : RemoteDescription => [rvar.fromXml]) (fun old => by rw [List.append_nil])
      (fun first second old => by rw [List.append_assoc]) description.remotes whole
    rw [new, ← List.map_eq_flatMap] at added
    exact added
  have events (whole : Mdf) (new : whole.listEvent = []) : description.events.foldl
      (fun old event => { old with listEvent := old.listEvent ++ [event.fromXml] }) whole =
        { whole with listEvent := description.fromXml.listEvent } := by
    have added := fold_adds (fun records (old : Mdf) => { old with listEvent := old.listEvent ++ records })
      (fun event : EventDescription => [event.fromXml]) (fun old => by rw [List.append_nil])
      (fun first second old => by rw [List.append_assoc]) description.events whole
    rw [new, ← List.map_eq_flatMap] at added
    exact added
  rw [documentChange, named, sized, registers _ rfl, remotes _ rfl, matrix_change description.matrix _ rfl, events _ rfl]
  rfl

def bufferInJson : Option Numeral → UInt16
  | some (.number whole) => UInt16.ofInt whole.toInt
  | _ => 8

theorem buffer_from_json (bufferSize : Option Numeral)
    (found : j.member "buffersize".toList = written bufferSize) : jsonBufferSize j = bufferInJson bufferSize := by
  rw [jsonBufferSize, found]
  cases bufferSize with
  | none => rfl
  | some own =>
      cases own with
      | text letters => rfl
      | number whole =>
          have bound := whole.toInt_lt
          simp only [written, Option.map_some, Numeral.json, bufferInJson]
          by_cases positive : 0 ≤ whole.toInt
          · have small : (whole.toInt % 2 ^ 16).toNat = whole.toInt.toNat % 2 ^ 16 := by omega
            simp only [if_pos positive, UInt64.toUInt16_ofNat', UInt16.ofInt, small]
            exact UInt16.toNat_inj.mp (by simp)
          · simp only [if_neg positive]

def bufferAgrees : Option Numeral → Prop
  | none => False
  | some (.number _) => True
  | some (.text letters) => UInt16.ofInt (readStringValue letters) = 8

theorem buffer_agrees_iff (bufferSize : Option Numeral) :
    bufferInJson bufferSize = numberOr UInt16.ofInt bufferSize 0 ↔ bufferAgrees bufferSize := by
  cases bufferSize with
  | none => exact iff_of_false (by decide) id
  | some own =>
      cases own with
      | text letters => exact eq_comm
      | number whole => exact iff_of_true rfl trivial

def Description.head (description : Description) (name : Text) : Mdf where
  name := lowerTrim name
  bufferSize := bufferInJson description.bufferSize
  listRegister := description.registers.flatMap fun reg => jsonRegisterRows (jsonRegister library reg.json)

theorem absent_text (absent : j.member name = none) : stringMember j name = none := by
  rw [stringMember, absent]

theorem absent_array (absent : j.member name = none) : arrayMember j name = none := by
  rw [arrayMember, absent]

theorem absent_object (absent : j.member name = none) : objectMember j name = none := by
  rw [objectMember, absent]

def Description.inner (description : Description) : Json := withMembers description.moduleMembers

theorem inner_member :
    description.inner.member name = (description.moduleMembers.lookup name).join :=
  member_with description.moduleMembers (of_decide_eq_true rfl) name

theorem head_from_json :
    addRegisters library description.inner (addBoot library description.inner
      (jsonHead library {} name description.inner)) = description.head library name := by
  have member := inner_member description
  have buffer := buffer_from_json description.inner description.bufferSize (member _)
  have registers := listed_members RegisterDescription.json description.inner "registers".toList description.registers
    (member _)
  have noBoot := absent_object description.inner "boot".toList (member _)
  have noRegister := absent_array description.inner "register".toList (member _)
  have model := absent_text description.inner "model".toList (member _)
  have copyright := absent_text description.inner "copyright".toList (member _)
  have version := absent_text description.inner "version".toList (member _)
  have changed := absent_text description.inner "changed".toList (member _)
  have description_ : getDescriptionList library description.inner [] = [] := by
    rw [getDescriptionList, textsMember, show description.inner.member "description".toList = none from member _]
  have infoUrl : getInfoUrlList library description.inner [] = [] := by
    rw [getInfoUrlList, textsMember, show description.inner.member "infourl".toList = none from member _]
  simp only [addRegisters, addBoot, jsonHead, noBoot, firstArray, noRegister, registers, buffer, model, copyright,
    version, changed, description_, infoUrl, Option.getD_none, Option.getD_some, List.nil_append,
    objects_listed RegisterDescription.json fun _ => rfl, List.flatMap_map]
  rfl

theorem manufacturer_from_json :
    addManufacturer library description.inner mdf = .ok mdf := by
  have none := absent_object description.inner "manufacturer".toList (inner_member description _)
  rw [addManufacturer, none]
  rfl

theorem tail_from_json (noAlarm : mdf.listAlarm = []) :
    addFiles library description.inner (addAlarm library description.json description.inner mdf) = mdf := by
  have noFiles := absent_object description.inner "files".toList (inner_member description _)
  have alarm : description.inner.member "alarm".toList = none := inner_member description _
  have alarms : description.inner.member "alarms".toList = none := inner_member description _
  have outer : description.json.member "alarm".toList = none := rfl
  have outers : description.json.member "alarms".toList = none := rfl
  rw [addFiles, noFiles, addAlarm, jsonAlarm, alarm, alarms, outer, outers]
  simp only [alarmEntry, noAlarm, List.append_nil]
  rw [← noAlarm]

theorem remotes_from_json (new : mdf.listRemotevar = []) :
    addRemotes library description.inner mdf = attach (fun rvars => { mdf with listRemotevar := rvars })
      (readRecords (jsonRemote library) (description.remotes.map RemoteDescription.json)) := by
  have noRemote := absent_array description.inner "remotevar".toList (inner_member description _)
  have remotes := listed_members RemoteDescription.json description.inner "remotevars".toList description.remotes
    (inner_member description _)
  simp only [addRemotes, firstArray, noRemote, remotes, Option.getD_some, new, List.nil_append,
    objects_listed RemoteDescription.json fun _ => rfl]

theorem events_from_json (new : mdf.listEvent = []) :
    addEvents library description.inner mdf = attach (fun events => { mdf with listEvent := events })
      (readRecords (jsonEvent library) (description.events.map EventDescription.json)) := by
  have events := listed_members EventDescription.json description.inner "events".toList description.events
    (inner_member description _)
  simp only [addEvents, events, Option.getD_some, new, List.nil_append,
    objects_listed EventDescription.json fun _ => rfl]

theorem add_matrix_from_json (new : mdf.dmInfo = {}) :
    addMatrix library description.inner mdf = attach (fun dm => { mdf with dmInfo := dm })
      (jsonMatrix library description.matrix.json {}) := by
  have dmatrix : objectMember description.inner "dmatrix".toList = some description.matrix.json := by
    rw [objectMember, show description.inner.member "dmatrix".toList = some description.matrix.json from
      inner_member description _]
    rfl
  simp only [addMatrix, dmatrix, new]

theorem module_from_json (named : description.name = some name) (mdf : Mdf) :
    jsonModule library description.json description.inner {} = .ok mdf ↔
      ∃ remotes matrix events,
        readRecords (jsonRemote library) (description.remotes.map RemoteDescription.json) = .ok remotes ∧
        jsonMatrix library description.matrix.json {} = .ok matrix ∧
        readRecords (jsonEvent library) (description.events.map EventDescription.json) = .ok events ∧
        { description.head library name with
          listRemotevar := remotes, dmInfo := matrix, listEvent := events } = mdf := by
  have own := quoted_member description.inner "name".toList description.name (inner_member description _)
  have made := manufacturer_from_json library description (jsonHead library {} name description.inner)
  have head := head_from_json library description name
  rw [jsonModule, own, named]
  show (addManufacturer library description.inner (jsonHead library {} name description.inner)).bind _ = _ ↔ _
  rw [made]
  show (addRemotes library description.inner _).bind _ = _ ↔ _
  rw [head, remotes_from_json library description _ rfl]
  cases readRecords (jsonRemote library) (description.remotes.map RemoteDescription.json) with
  | error _ => exact iff_of_false (fun same => by cases same) fun ⟨_, _, _, wrong, _⟩ => by cases wrong
  | ok remotes =>
      show (addMatrix library description.inner { description.head library name with listRemotevar := remotes }).bind _ =
        _ ↔ _
      rw [add_matrix_from_json library description _ rfl]
      cases jsonMatrix library description.matrix.json {} with
      | error _ => exact iff_of_false (fun same => by cases same) fun ⟨_, _, _, _, wrong, _⟩ => by cases wrong
      | ok matrix =>
          show (addEvents library description.inner
            { description.head library name with listRemotevar := remotes, dmInfo := matrix }).map _ = _ ↔ _
          rw [events_from_json library description _ rfl]
          cases readRecords (jsonEvent library) (description.events.map EventDescription.json) with
          | error _ => exact iff_of_false (fun same => by cases same) fun ⟨_, _, _, _, _, wrong, _⟩ => by cases wrong
          | ok events =>
              have rest := tail_from_json library description
                { description.head library name with
                  listRemotevar := remotes, dmInfo := matrix, listEvent := events } rfl
              show Except.ok (addFiles library description.inner (addAlarm library description.json description.inner
                { description.head library name with
                  listRemotevar := remotes, dmInfo := matrix, listEvent := events })) = _ ↔ _
              rw [rest]
              constructor
              · intro same
                exact ⟨remotes, matrix, events, rfl, rfl, rfl, Except.ok.inj same⟩
              · rintro ⟨_, _, _, ⟨⟩, ⟨⟩, ⟨⟩, rfl⟩
                rfl

structure Description.Agrees (description : Description) : Prop where
  name : description.name.isSome
  bufferSize : bufferAgrees description.bufferSize
  registers : ∀ reg ∈ description.registers, reg.Agrees
  remotes : ∀ rvar ∈ description.remotes, rvar.Agrees
  matrix : description.matrix.Agrees
  events : ∀ event ∈ description.events, event.Agrees

theorem module_agrees_iff :
    jsonModule library description.json description.inner {} = .ok description.fromXml ↔ description.Agrees := by
  have buffer := buffer_agrees_iff description.bufferSize
  have registers := registers_agree_iff library description.registers
  have remotes := (read_records_iff (jsonRemote library) RemoteDescription.json RemoteDescription.fromXml
    description.remotes).trans (forall₂_congr fun rvar _ => remote_agrees_iff library rvar)
  have matrix := matrix_agrees_iff library description.matrix
  have events := (read_records_iff (jsonEvent library) EventDescription.json EventDescription.fromXml
    description.events).trans (forall₂_congr fun event _ => event_agrees_iff library event)
  cases named : description.name with
  | none =>
      have own := quoted_member description.inner "name".toList description.name (inner_member description _)
      rw [jsonModule, own, named]
      refine iff_of_false (fun same => by cases same) fun agrees => ?_
      have given := agrees.name
      rw [named] at given
      cases given
  | some name =>
      rw [module_from_json library description name named]
      constructor
      · rintro ⟨remotesRead, matrixRead, eventsRead, remotesOk, matrixOk, eventsOk, same⟩
        have sameBuffer := congrArg Mdf.bufferSize same
        have sameRegisters := congrArg Mdf.listRegister same
        have sameRemotes : remotesRead = _ := congrArg Mdf.listRemotevar same
        have sameMatrix : matrixRead = _ := congrArg Mdf.dmInfo same
        have sameEvents : eventsRead = _ := congrArg Mdf.listEvent same
        rw [sameRemotes] at remotesOk
        rw [sameMatrix] at matrixOk
        rw [sameEvents] at eventsOk
        exact ⟨by rw [named]; rfl, buffer.mp sameBuffer, registers.mp sameRegisters.symm, remotes.mp remotesOk,
          matrix.mp matrixOk, events.mp eventsOk⟩
      · intro agrees
        refine ⟨_, _, _, remotes.mpr agrees.remotes, matrix.mpr agrees.matrix, events.mpr agrees.events, ?_⟩
        rw [Description.head, buffer.mpr agrees.bufferSize, ← registers.mpr agrees.registers, Description.fromXml, named]
        rfl

end document

section files

structure Delivered (libraries : Libraries) (description : Description) (xml json : Text) : Prop where
  xmlFormat : fileFormat (some xml) = .xml
  jsonFormat : fileFormat (some json) = .json
  nodes : delivered libraries xml = (description.nodes, true)
  value : libraries.json.parse json = some description.json

theorem xml_file_outcome (libraries : Libraries) (description : Description) (xml json : Text)
    (files : Delivered libraries description xml json) :
    outcome libraries freshProcess ⟨0, some xml⟩ = .ok (vscpErrorSuccess, description.fromXml) := by
  obtain ⟨parser, run, mdf⟩ := document_run description
  rw [outcome_result, parseMDF, files.xmlFormat]
  show resultOf (parseMDF_XML libraries freshGlobals {} xml) = _
  rw [parseMDF_XML, files.nodes, run, ← document_change, ← mdf]
  rfl

theorem json_file_outcome (libraries : Libraries) (description : Description) (xml json : Text)
    (files : Delivered libraries description xml json) :
    outcome libraries freshProcess ⟨0, some json⟩ = .ok (parseJsonValue libraries.json {} description.json) := by
  rw [outcome_result, parseMDF, files.jsonFormat]
  show resultOf (some (freshGlobals, parseMDF_JSON libraries.json {} json)) = _
  rw [parseMDF_JSON, files.value]
  rfl

theorem json_module_failed (library : JsonLibrary) (description : Description) (half : Mdf)
    (read : jsonModule library description.json description.inner {} = .error half) :
    parseJsonValue library {} description.json = (vscpErrorParsing, half) := by
  have redirect : stringMember description.json "redirect".toList = none := rfl
  have inner : objectMember description.json "module".toList = some description.inner := rfl
  rw [parseJsonValue, redirect, inner]
  simp only [read]

theorem json_module_read (library : JsonLibrary) (description : Description) (whole : Mdf)
    (read : jsonModule library description.json description.inner {} = .ok whole) :
    parseJsonValue library {} description.json = (vscpErrorSuccess, whole) := by
  have redirect : stringMember description.json "redirect".toList = none := rfl
  have inner : objectMember description.json "module".toList = some description.inner := rfl
  rw [parseJsonValue, redirect, inner]
  simp only [read]

theorem formats_agree_iff (libraries : Libraries) (description : Description) (xml json : Text)
    (files : Delivered libraries description xml json) :
    (∃ mdf, outcome libraries freshProcess ⟨0, some xml⟩ = .ok (vscpErrorSuccess, mdf) ∧
        outcome libraries freshProcess ⟨0, some json⟩ = .ok (vscpErrorSuccess, mdf)) ↔ description.Agrees := by
  rw [xml_file_outcome libraries description xml json files, json_file_outcome libraries description xml json files,
    ← module_agrees_iff libraries.json]
  constructor
  · rintro ⟨mdf, ⟨⟩, same⟩
    cases read : jsonModule libraries.json description.json description.inner {} with
    | error half =>
        rw [json_module_failed libraries.json description half read] at same
        have code : vscpErrorParsing = vscpErrorSuccess := congrArg Prod.fst (Except.ok.inj same)
        exact absurd code (by decide)
    | ok whole =>
        rw [json_module_read libraries.json description whole read] at same
        exact congrArg Except.ok (congrArg Prod.snd (Except.ok.inj same))
  · intro read
    rw [json_module_read libraries.json description description.fromXml read]
    exact ⟨_, rfl, rfl⟩

def librariesFor (description : Description) (body json : Text) : Libraries where
  expat content := if content = body then (description.nodes, true) else ([], false)
  json :=
    { parse := fun content => if content = json then some description.json else none
      truncate := fun _ => 0
      floatText := fun digits => digits
      dump := fun _ => [] }

theorem delivered_for (description : Description) (body json : Text) (nonempty : body ≠ [])
    (object : fileFormat (some json) = .json) :
    Delivered (librariesFor description body json) description (xmlFile body) json := by
  have line : afterLine (xmlFile body) = body := rfl
  have nodes : (librariesFor description body json).expat body = (description.nodes, true) := if_pos rfl
  refine ⟨rfl, object, ?_, if_pos rfl⟩
  rw [delivered, line, if_neg nonempty, nodes]

def controlDescription (max : Option Numeral) : Description where
  name := "demo".toList
  bufferSize := some (.number 16)
  registers := [{ name := "control".toList, offset := some (.number 7), max := max, bgcolor := some (.text "0xff".toList) }]
  events := [{ vscpClass := some (.number 20), type := some (.number 3), priority := some (.text "low".toList) }]

def controlBody (max : Text) : Text :=
  "<vscp><module><name>demo</name><buffersize>16</buffersize><registers><reg name='control' offset='7'".toList ++
    max ++ " bgcolor='0xff'><valuelist/></reg></registers><remotevars/><dmatrix><start/></dmatrix>".toList ++
    "<events><event class='20' type='3' priority='low'/></events></module></vscp>".toList

def controlJson (max : Text) : Text :=
  "\x7b\"module\":\x7b\"name\":\"demo\",\"buffersize\":16,\"registers\":[\x7b\"name\":\"control\",\"offset\":7".toList ++
    max ++ ",\"bgcolor\":\"0xff\",\"bit\":[],\"valuelist\":[]\x7d],\"remotevars\":[],\"dmatrix\":\x7b\"action\":[]\x7d".toList ++
    ",\"events\":[\x7b\"class\":20,\"type\":3,\"priority\":\"low\",\"data\":[]\x7d]\x7d\x7d".toList

theorem formats_agree_iff_zero_max :
    (∃ mdf, outcome (librariesFor (controlDescription (some (.number 0))) (controlBody " max='0'".toList)
            (controlJson ",\"max\":0".toList)) freshProcess ⟨0, some (xmlFile (controlBody " max='0'".toList))⟩ =
          .ok (vscpErrorSuccess, mdf) ∧
        outcome (librariesFor (controlDescription (some (.number 0))) (controlBody " max='0'".toList)
            (controlJson ",\"max\":0".toList)) freshProcess ⟨0, some (controlJson ",\"max\":0".toList)⟩ =
          .ok (vscpErrorSuccess, mdf)) ↔ (controlDescription (some (.number 0))).Agrees :=
  formats_agree_iff _ (controlDescription (some (.number 0))) _ _
    (delivered_for (controlDescription (some (.number 0))) (controlBody " max='0'".toList)
      (controlJson ",\"max\":0".toList) (by decide) (by decide))

-- A register without a max goes up to 255 in the one format and up to 0 in the other.
theorem formats_differ_without_max :
    Delivered (librariesFor (controlDescription none) (controlBody []) (controlJson [])) (controlDescription none)
        (xmlFile (controlBody [])) (controlJson []) ∧
      ¬ ∃ mdf, outcome (librariesFor (controlDescription none) (controlBody []) (controlJson [])) freshProcess
            ⟨0, some (xmlFile (controlBody []))⟩ = .ok (vscpErrorSuccess, mdf) ∧
          outcome (librariesFor (controlDescription none) (controlBody []) (controlJson [])) freshProcess
            ⟨0, some (controlJson [])⟩ = .ok (vscpErrorSuccess, mdf) := by
  have files := delivered_for (controlDescription none) (controlBody []) (controlJson []) (by decide) (by decide)
  refine ⟨files, ?_⟩
  rw [xml_file_outcome _ _ _ _ files, json_file_outcome _ _ _ _ files]
  rintro ⟨mdf, ⟨⟩, same⟩
  have registers := congrArg (fun read : Int × Mdf => read.2.listRegister.map Register.max) (Except.ok.inj same)
  have wrong : ([0] : List UInt32) = [255] := registers
  exact absurd wrong (by decide)

end files

end Vscp.ModuleDescription
