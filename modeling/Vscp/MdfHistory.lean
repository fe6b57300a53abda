import Vscp.MdfXml
import Vscp.MdfJson
import Vscp.Lib.PartialRun

set_option autoImplicit false

namespace Vscp.ModuleDescription

open RemoteTcp (Text trim)
open SaxHandler (Node)
open PartialRun (Along Reaches)

def vscpErrorError : Int := -1
def vscpErrorInvalidPath : Int := 50
def vscpErrorInvalidSyntax : Int := 58

-- The parsers behind parseMDF: the calls that expat makes for the rest of a file, with whether
-- it met no error, and the JSON library.
structure Libraries where
  expat : Text → List Node × Bool
  json : JsonLibrary

inductive Format where
  | missing
  | empty
  | json
  | xml
  | unknown
deriving DecidableEq

-- The first line decides; no path means that there is no such file.
def fileFormat : Option Text → Format
  | none => .missing
  | some [] => .empty
  | some content =>
      let line := content.takeWhile (· ≠ '\n')
      if '\x7b' ∈ line then .json
      else if '<' ∈ line then .xml
      else .unknown

def afterLine (content : Text) : Text := (content.dropWhile (· ≠ '\n')).tail

section

variable (libraries : Libraries)

-- expat is not called when nothing is left to read.
def delivered (content : Text) : List Node × Bool :=
  if afterLine content = [] then ([], true) else libraries.expat (afterLine content)

def parseMDF_XML (globals : Globals) (mdf : Mdf) (content : Text) : Option (Globals × Int × Mdf) :=
  (parseNodes globals mdf (delivered libraries content).1).map fun parser =>
    (parser.toGlobals, if (delivered libraries content).2 then vscpErrorSuccess else vscpErrorParsing, parser.mdf)

def parseMDF (globals : Globals) (mdf : Mdf) (file : Option Text) : Option (Globals × Int × Mdf) :=
  match fileFormat file with
  | .missing => some (globals, vscpErrorInvalidPath, mdf)
  | .empty => some (globals, vscpErrorError, mdf)
  | .json => some (globals, parseMDF_JSON libraries.json mdf (file.getD []))
  | .xml => parseMDF_XML libraries globals mdf (file.getD [])
  | .unknown => some (globals, vscpErrorInvalidSyntax, mdf)

end

structure Process where
  globals : Globals
  objects : Nat → Mdf

def freshProcess : Process := ⟨freshGlobals, fun _ => {}⟩

structure Call where
  object : Nat
  file : Option Text

-- A process that follows a null pointer is gone.
def parse (libraries : Libraries) (process : Process) (call : Call) : Except Unit ((Int × Mdf) × Process) :=
  match parseMDF libraries process.globals (process.objects call.object) call.file with
  | none => .error ()
  | some (globals, code, mdf) => .ok ((code, mdf), ⟨globals, Function.update process.objects call.object mdf⟩)

-- An XML file clears most of the object, any other file nothing; and the list of open elements
-- has to be empty.
def MayParse (process : Process) (call : Call) : Prop :=
  if fileFormat call.file = .xml then
    process.globals.tokenList = [] ∧ (process.objects call.object).clearStorage = {}
  else process.objects call.object = {}

def outcome (libraries : Libraries) (process : Process) (call : Call) : Except Unit (Int × Mdf) :=
  (parse libraries process call).map Prod.fst

section relation

-- The two pointers that no reset touches.
def Parser.keeping (parser : Parser) (rvar setup : Option Nat) : Parser := { parser with rvar := rvar, setup := setup }

-- The record that is open at the depth of records; its token is the fourth below the depth.
def Globals.openRecord (globals : Globals) : Text := globals.token (globals.depth - 4).toNat

def InModule (globals : Globals) : Prop :=
  2 ≤ globals.tokenList.length ∧ globals.token (globals.tokenList.length - 2) = "module".toList ∧
    globals.tokenList.getLast? = some "vscp".toList

structure Consistent (globals : Globals) : Prop where
  bounded : globals.depth ≤ globals.tokenList.length
  inside : 3 ≤ globals.depth → InModule globals

-- Two parsers that differ in the pointers that were not reset, unless a record is open that set them.
structure Alike (parser other : Parser) : Prop where
  consistent : Consistent other.toGlobals
  same : parser = other.keeping parser.rvar parser.setup
  rvar : 4 ≤ other.depth → isRemote other.openRecord = true → parser.rvar = other.rvar
  setup : 4 ≤ other.depth → other.openRecord = "setup".toList → parser.setup = other.setup

end relation

theorem consistent_reset (globals : Globals) : Consistent (resetGlobals globals) :=
  ⟨Int.natCast_nonneg _, fun deep => absurd deep (of_decide_eq_false rfl)⟩

theorem token_after_push (globals : Globals) (token : Text) (index : Nat) :
    { globals with tokenList := token :: globals.tokenList }.token (index + 1) = globals.token index := rfl

theorem token_after_pop (globals : Globals) (index : Nat) :
    { globals with tokenList := globals.tokenList.tail }.token index = globals.token (index + 1) := by
  cases globals with
  | mk lastLanguage tokenList =>
      cases tokenList <;> rfl

theorem in_module_push (globals : Globals) (token : Text) (inside : InModule globals) :
    InModule { globals with tokenList := token :: globals.tokenList } := by
  obtain ⟨long, second, root⟩ := inside
  refine ⟨Nat.le_succ_of_le long, ?_, ?_⟩
  · have place : (token :: globals.tokenList).length - 2 = globals.tokenList.length - 2 + 1 := by
      rw [List.length_cons]
      omega
    show Globals.token _ ((token :: globals.tokenList).length - 2) = _
    rw [place, token_after_push, second]
  · have filled : globals.tokenList ≠ [] := by
      intro empty
      rw [empty] at long
      exact absurd long (by decide)
    show (token :: globals.tokenList).getLast? = _
    rw [List.getLast?_cons_of_ne_nil filled, root]

theorem in_module_pop (globals : Globals) (inside : InModule globals) (deep : 3 ≤ globals.tokenList.length) :
    InModule { globals with tokenList := globals.tokenList.tail } := by
  obtain ⟨_, second, root⟩ := inside
  have length : globals.tokenList.tail.length = globals.tokenList.length - 1 := List.length_tail
  refine ⟨?_, ?_, ?_⟩
  · show 2 ≤ globals.tokenList.tail.length
    omega
  · show Globals.token _ (globals.tokenList.tail.length - 2) = _
    have place : globals.tokenList.tail.length - 2 + 1 = globals.tokenList.length - 2 := by omega
    rw [token_after_pop, place, second]
  · show globals.tokenList.tail.getLast? = _
    rw [List.getLast?_tail, if_neg (by omega), root]

theorem in_module_tokens (globals next : Globals) (same : next.tokenList = globals.tokenList)
    (inside : InModule globals) : InModule next := by
  simpa only [InModule, Globals.token, same] using inside

theorem in_module_valid (globals : Globals) (inside : InModule globals) : invalidStructure globals = false := by
  obtain ⟨_, second, root⟩ := inside
  simp only [invalidStructure, second, root, ne_eq, not_true_eq_false, and_false, or_self, decide_false]

theorem valid_in_module (globals : Globals) (valid : invalidStructure globals = false) (deep : 2 ≤ globals.depth)
    (long : 2 ≤ globals.tokenList.length) : InModule globals := by
  simp only [invalidStructure, decide_eq_false_iff_not, not_or, not_and, ne_eq, not_not] at valid
  exact ⟨long, valid.1 deep, valid.2⟩

theorem open_tokens (globals : Globals) (index : Nat) (deep : globals.depth = (index : Int) + 4) :
    globals.openRecord = globals.token index := by
  rw [Globals.openRecord, deep]
  congr 1
  omega

theorem entered_tokens (parser : Parser) (name : Text) (attributes : Attributes) (index : Nat)
    (deep : parser.depth = (index : Int) + 4) :
    (entered parser name attributes).token (index + 1) = parser.openRecord := by
  rw [open_tokens parser.toGlobals index deep]
  rfl

section alike

variable (globals : Globals) (rvar setup : Option Nat)

theorem opened_alike
    (remote : ∀ index : Nat, index < 3 → globals.depth = (index : Int) + 4 →
      isRemote (globals.token (index + 1)) = true → rvar = globals.rvar) :
    opened { globals with rvar := rvar, setup := setup } = opened globals := by
  have record : globals.depth = 4 →
      openedInRecord { globals with rvar := rvar, setup := setup } = openedInRecord globals := by
    intro deep
    unfold openedInRecord
    refine ite_congr rfl (fun _ => rfl) fun _ => ite_congr rfl ?_ fun _ => rfl
    intro bit
    rw [remote 0 (by decide) deep bit.2]
  have part : globals.depth = 5 →
      openedInPart { globals with rvar := rvar, setup := setup } = openedInPart globals := by
    intro deep
    unfold openedInPart
    refine ite_congr rfl (fun _ => rfl) fun _ => ite_congr rfl ?_ fun _ => rfl
    intro item
    rw [remote 1 (by decide) deep item.2.2]
  have valueList : globals.depth = 6 →
      openedInValueList { globals with rvar := rvar, setup := setup } = openedInValueList globals := by
    intro deep
    unfold openedInValueList
    refine ite_congr rfl (fun _ => ite_congr rfl (fun _ => rfl) fun _ => ite_congr rfl ?_ fun _ => rfl) fun _ => rfl
    intro bit
    rw [remote 2 (by decide) deep bit.2]
  exact ite_congr rfl (fun _ => rfl) fun _ => ite_congr rfl (fun _ => rfl) fun _ =>
    ite_congr rfl record fun _ => ite_congr rfl part fun _ => ite_congr rfl valueList fun _ => rfl

theorem place_alike
    (remote : globals.depth = 5 → isRemote (globals.token 1) = true → rvar = globals.rvar)
    (file : globals.depth = 5 → globals.token 1 = "setup".toList → setup = globals.setup) :
    textPlace { globals with rvar := rvar, setup := setup } = textPlace globals := by
  have record : globals.depth = 5 →
      placeInRecord { globals with rvar := rvar, setup := setup } = placeInRecord globals := by
    intro deep
    unfold placeInRecord
    iterate 11 refine ite_congr rfl (fun _ => rfl) fun _ => ?_
    refine ite_congr rfl ?_ fun _ => ite_congr rfl (fun _ => rfl) fun _ => ite_congr rfl ?_ fun _ => rfl
    · intro inSetup
      rw [file deep inSetup]
      rfl
    · intro inRemote
      rw [remote deep inRemote]
      rfl
  refine ite_congr rfl (fun _ => rfl) fun _ => ?_
  iterate 3 refine ite_congr rfl (fun _ => rfl) fun _ => ?_
  exact ite_congr rfl record fun _ => rfl

end alike

structure Framed (parser next : Parser) : Prop where
  tokens : next.tokenList = parser.tokenList
  depth : next.depth = parser.depth

section keeping

variable (parser : Parser) (rvar setup : Option Nat)

variable (change : Described → Described) (owner : Owner)

theorem modify_owner_keeping :
    (parser.keeping rvar setup).modifyOwner change owner = (parser.modifyOwner change owner).keeping rvar setup := by
  cases owner <;> rfl

theorem modify_owner_pointers :
    Framed parser (parser.modifyOwner change owner) ∧ (parser.modifyOwner change owner).rvar = parser.rvar ∧
      (parser.modifyOwner change owner).setup = parser.setup := by
  cases owner <;> exact ⟨⟨rfl, rfl⟩, rfl, rfl⟩

variable (next : Parser) (text : Text) (place : TextPlace)

theorem store_keeping :
    storeText (parser.keeping rvar setup) text place =
      (storeText parser text place).map fun next => next.keeping rvar setup := by
  cases place with
  | nameOfDataBit bit value =>
      simp only [storeText, modify_owner_keeping, Option.map_some]
  | rawName owner | name owner =>
      simp only [storeText, modify_owner_keeping, Option.map_some]
  | description owner | infoURL owner =>
      simp only [storeText, modify_owner_keeping, Option.map_some]
      rfl
  | _ => rfl

theorem store_pointers (stored : storeText parser text place = some next) :
    Framed parser next ∧ next.rvar = parser.rvar ∧ next.setup = parser.setup := by
  cases place with
  | nullPointer => cases stored
  | nameOfDataBit bit value =>
      cases stored
      obtain ⟨⟨tokens, depth⟩, pointers⟩ := modify_owner_pointers parser (Described.named text) (.bit bit)
      exact ⟨⟨tokens, depth⟩, pointers⟩
  | rawName owner | name owner | description owner | infoURL owner =>
      cases stored
      exact modify_owner_pointers parser _ owner
  | _ =>
      cases stored
      exact ⟨⟨rfl, rfl⟩, rfl, rfl⟩

variable (attributes : Attributes) (kind : Opened)

theorem start_keeping :
    startRecord (parser.keeping rvar setup) attributes kind =
      (startRecord parser attributes kind).map fun next =>
        next.keeping (if kind = .remotevar then next.rvar else rvar) (if kind = .setup then next.setup else setup) := by
  cases kind with
  | eventData =>
      simp only [startRecord]
      cases event : parser.event with
      | none =>
          have same : (parser.keeping rvar setup).event = none := event
          rw [same]
          rfl
      | some index =>
          have same : (parser.keeping rvar setup).event = some index := event
          rw [same]
          rfl
  | _ => rfl

theorem start_pointers (started : startRecord parser attributes kind = some next) :
    Framed parser next ∧ (kind ≠ .remotevar → next.rvar = parser.rvar) ∧ (kind ≠ .setup → next.setup = parser.setup) := by
  cases kind with
  | eventData =>
      simp only [startRecord] at started
      cases event : parser.event with
      | none =>
          rw [event] at started
          cases started
      | some index =>
          rw [event] at started
          cases started
          exact ⟨⟨rfl, rfl⟩, fun _ => rfl, fun _ => rfl⟩
  | remotevar =>
      cases started
      exact ⟨⟨rfl, rfl⟩, fun other => absurd rfl other, fun _ => rfl⟩
  | setup =>
      cases started
      exact ⟨⟨rfl, rfl⟩, fun _ => rfl, fun other => absurd rfl other⟩
  | _ =>
      cases started
      exact ⟨⟨rfl, rfl⟩, fun _ => rfl, fun _ => rfl⟩

-- What an end tag does inside of a record: the two pointers stay, and it does not look at them.
structure Blind (parser : Parser) (rvar setup : Option Nat) (changed : Parser → Parser) : Prop where
  same : changed (parser.keeping rvar setup) = (changed parser).keeping rvar setup
  rvar : (changed parser).rvar = parser.rvar
  setup : (changed parser).setup = parser.setup

theorem blind_ite (condition : Parser → Prop) [DecidablePred condition] (yes no : Parser → Parser)
    (unseen : condition (parser.keeping rvar setup) = condition parser)
    (blindYes : Blind parser rvar setup yes) (blindNo : Blind parser rvar setup no) :
    Blind parser rvar setup fun parser => if condition parser then yes parser else no parser := by
  by_cases holds : condition parser
  · have other : condition (parser.keeping rvar setup) := unseen ▸ holds
    refine ⟨?_, ?_, ?_⟩
    · rw [if_pos holds, if_pos other, blindYes.same]
    · rw [if_pos holds, blindYes.rvar]
    · rw [if_pos holds, blindYes.setup]
  · have other : ¬ condition (parser.keeping rvar setup) := unseen ▸ holds
    refine ⟨?_, ?_, ?_⟩
    · rw [if_neg holds, if_neg other, blindNo.same]
    · rw [if_neg holds, blindNo.rvar]
    · rw [if_neg holds, blindNo.setup]

theorem blind_self : Blind parser rvar setup fun parser => parser := ⟨rfl, rfl, rfl⟩

variable (token : Text)

theorem closed_blind (deep : 5 ≤ parser.depth) :
    Blind parser rvar setup fun parser => closed parser token := by
  have record : parser.depth ≠ 3 := by omega
  have inSection : parser.depth ≠ 4 := by omega
  have noBit : Blind parser rvar setup fun parser => { parser with bit := none } := ⟨rfl, rfl, rfl⟩
  have noValue : Blind parser rvar setup fun parser => { parser with value := none } := ⟨rfl, rfl, rfl⟩
  have noItem : Blind parser rvar setup fun parser => { parser with item := none } := ⟨rfl, rfl, rfl⟩
  have rest : Blind parser rvar setup fun parser =>
      if parser.depth = 5 then closedInRecord parser token
      else if parser.depth = 6 then closedInPart parser token
      else if parser.depth = 7 then closedInValueList parser token
      else if parser.depth = 8 then closedInBitList parser token
      else parser := by
    refine blind_ite parser rvar setup _ _ _ rfl ?_ ?_
    · exact blind_ite parser rvar setup _ _ _ rfl noBit (blind_self parser rvar setup)
    refine blind_ite parser rvar setup _ _ _ rfl ?_ ?_
    · exact blind_ite parser rvar setup _ _ _ rfl noValue (blind_self parser rvar setup)
    refine blind_ite parser rvar setup _ _ _ rfl ?_ ?_
    · exact blind_ite parser rvar setup _ _ _ rfl noItem
        (blind_ite parser rvar setup _ _ _ rfl noValue (blind_self parser rvar setup))
    refine blind_ite parser rvar setup _ _ _ rfl ?_ (blind_self parser rvar setup)
    exact blind_ite parser rvar setup _ _ _ rfl noValue
      (blind_ite parser rvar setup _ _ _ rfl noValue (blind_self parser rvar setup))
  have skipped : ∀ parser : Parser, parser.depth ≠ 3 → parser.depth ≠ 4 → closed parser token =
      if parser.depth = 5 then closedInRecord parser token
      else if parser.depth = 6 then closedInPart parser token
      else if parser.depth = 7 then closedInValueList parser token
      else if parser.depth = 8 then closedInBitList parser token
      else parser := by
    intro parser notRecord notSection
    rw [closed, if_neg notRecord, if_neg notSection]
  refine ⟨?_, ?_, ?_⟩
  · rw [skipped parser record inSection, skipped (parser.keeping rvar setup) record inSection, rest.same]
  · rw [skipped parser record inSection, rest.rvar]
  · rw [skipped parser record inSection, rest.setup]

structure Forgets (token : Text) (next : Parser) : Prop extends Framed parser next where
  mdf : token ∉ contactNames → next.mdf = parser.mdf

theorem forgets_self : Forgets parser token parser := ⟨⟨rfl, rfl⟩, fun _ => rfl⟩

theorem closed_record_forgets : Forgets parser token (closedRecord parser token) := by
  unfold closedRecord
  split_ifs <;> exact ⟨⟨rfl, rfl⟩, fun _ => rfl⟩

theorem closed_in_section_forgets : Forgets parser token (closedInSection parser token) := by
  unfold closedInSection
  split_ifs with alarm action contact
  · exact ⟨⟨rfl, rfl⟩, fun _ => rfl⟩
  · exact ⟨⟨rfl, rfl⟩, fun _ => rfl⟩
  · cases parser.item with
    | none => exact forgets_self parser token
    | some item => exact ⟨⟨rfl, rfl⟩, fun other => absurd contact other⟩
  · exact ⟨⟨rfl, rfl⟩, fun _ => rfl⟩
  · exact ⟨⟨rfl, rfl⟩, fun _ => rfl⟩
  · exact forgets_self parser token

theorem closed_forgets : Forgets parser token (closed parser token) := by
  unfold closed
  split
  · exact closed_record_forgets parser token
  split
  · exact closed_in_section_forgets parser token
  split
  · unfold closedInRecord
    split <;> exact ⟨⟨rfl, rfl⟩, fun _ => rfl⟩
  split
  · unfold closedInPart
    split <;> exact ⟨⟨rfl, rfl⟩, fun _ => rfl⟩
  split
  · unfold closedInValueList
    split_ifs <;> exact ⟨⟨rfl, rfl⟩, fun _ => rfl⟩
  split
  · unfold closedInBitList
    split_ifs <;> exact ⟨⟨rfl, rfl⟩, fun _ => rfl⟩
  · exact forgets_self parser token

theorem closed_framed : Framed parser (closed parser token) :=
  (closed_forgets parser token).toFramed

def Steady (parser : Parser) (rvar setup : Option Nat) (changed : Parser → Parser) : Prop :=
  ∃ nextRvar nextSetup : Option Nat,
    changed (parser.keeping rvar setup) = (changed parser).keeping nextRvar nextSetup

theorem steady_ite (condition : Parser → Prop) [DecidablePred condition] (yes no : Parser → Parser)
    (unseen : condition (parser.keeping rvar setup) = condition parser)
    (steadyYes : Steady parser rvar setup yes) (steadyNo : Steady parser rvar setup no) :
    Steady parser rvar setup fun parser => if condition parser then yes parser else no parser := by
  by_cases holds : condition parser
  · have other : condition (parser.keeping rvar setup) := unseen ▸ holds
    simpa only [Steady, if_pos holds, if_pos other] using steadyYes
  · have other : ¬ condition (parser.keeping rvar setup) := unseen ▸ holds
    simpa only [Steady, if_neg holds, if_neg other] using steadyNo

theorem closed_record_steady : Steady parser rvar setup fun parser => closedRecord parser token := by
  have same : Steady parser rvar setup fun parser => parser := ⟨rvar, setup, rfl⟩
  refine steady_ite parser rvar setup _ _ _ rfl ⟨rvar, setup, rfl⟩ ?_
  refine steady_ite parser rvar setup _ _ _ rfl ⟨rvar, setup, rfl⟩ ?_
  refine steady_ite parser rvar setup _ _ _ rfl ⟨rvar, setup, rfl⟩ ?_
  refine steady_ite parser rvar setup _ _ _ rfl ⟨rvar, setup, rfl⟩ ?_
  refine steady_ite parser rvar setup _ _ _ rfl ⟨rvar, none, rfl⟩ ?_
  refine steady_ite parser rvar setup _ _ _ rfl ⟨rvar, setup, rfl⟩ ?_
  exact steady_ite parser rvar setup _ _ _ rfl ⟨rvar, setup, rfl⟩ same

theorem closed_in_section_steady :
    Steady parser rvar setup fun parser => closedInSection parser token := by
  have same : Steady parser rvar setup fun parser => parser := ⟨rvar, setup, rfl⟩
  refine steady_ite parser rvar setup _ _ _ rfl ⟨rvar, setup, rfl⟩ ?_
  refine steady_ite parser rvar setup _ _ _ rfl ⟨rvar, setup, rfl⟩ ?_
  refine steady_ite parser rvar setup _ _ _ rfl ?_ ?_
  · cases item : parser.item with
    | none =>
        refine ⟨rvar, setup, ?_⟩
        have other : (parser.keeping rvar setup).item = none := item
        simp only [item, other]
    | some contact =>
        refine ⟨rvar, setup, ?_⟩
        have other : (parser.keeping rvar setup).item = some contact := item
        simp only [item, other]
        rfl
  refine steady_ite parser rvar setup _ _ _ rfl ⟨rvar, setup, rfl⟩ ?_
  exact steady_ite parser rvar setup _ _ _ rfl ⟨none, setup, rfl⟩ same

theorem closed_steady : Steady parser rvar setup fun parser => closed parser token := by
  by_cases deep : 5 ≤ parser.depth
  · exact ⟨rvar, setup, (closed_blind parser rvar setup token deep).same⟩
  by_cases record : parser.depth = 3
  · have other : (parser.keeping rvar setup).depth = 3 := record
    simpa only [Steady, closed, if_pos record, if_pos other] using closed_record_steady parser rvar setup token
  by_cases inSection : parser.depth = 4
  · have other : (parser.keeping rvar setup).depth = 4 := inSection
    have notRecord : (parser.keeping rvar setup).depth ≠ 3 := record
    simpa only [Steady, closed, if_neg record, if_neg notRecord, if_pos inSection, if_pos other] using
      closed_in_section_steady parser rvar setup token
  have unchanged : ∀ other : Parser, other.depth = parser.depth → closed other token = other := by
    intro other same
    unfold closed
    rw [same, if_neg record, if_neg inSection, if_neg (by omega), if_neg (by omega), if_neg (by omega),
      if_neg (by omega)]
  refine ⟨rvar, setup, ?_⟩
  show closed (parser.keeping rvar setup) token = (closed parser token).keeping rvar setup
  rw [unchanged parser rfl, unchanged (parser.keeping rvar setup) rfl]

end keeping

theorem opened_remote (globals : Globals) (deep : globals.depth = 3) (remote : isRemote (globals.token 0) = true) :
    opened globals = .remotevar := by
  have tag : globals.token 0 = "remotevar".toList ∨ globals.token 0 = "abstraction".toList := of_decide_eq_true remote
  unfold opened openedInSection
  rw [deep]
  cases tag with
  | inl tag =>
      rw [tag]
      rfl
  | inr tag =>
      rw [tag]
      rfl

theorem opened_setup (globals : Globals) (deep : globals.depth = 3) (tag : globals.token 0 = "setup".toList) :
    opened globals = .setup := by
  unfold opened openedInSection
  rw [deep, tag]
  rfl

theorem consistent_entered (parser : Parser) (name : Text) (attributes : Attributes)
    (consistent : Consistent parser.toGlobals) : Consistent (entered parser name attributes).toGlobals := by
  have grown : parser.depth ≤ (lowerTrim name :: parser.tokenList).length :=
    le_trans consistent.bounded (Int.ofNat_le.mpr (Nat.le_succ _))
  exact ⟨grown, fun deep => in_module_push parser.toGlobals (lowerTrim name) (consistent.inside deep)⟩

theorem invalid_shallow (parser : Parser) (name : Text) (attributes : Attributes)
    (consistent : Consistent parser.toGlobals)
    (invalid : invalidStructure (entered parser name attributes).toGlobals = true) : parser.depth < 3 := by
  by_contra deep
  have inside := (consistent_entered parser name attributes consistent).inside (not_lt.mp deep)
  rw [in_module_valid _ inside] at invalid
  cases invalid

theorem consistent_deeper (parser next : Parser) (name : Text) (attributes : Attributes)
    (consistent : Consistent parser.toGlobals) (framed : Framed (entered parser name attributes) next)
    (valid : invalidStructure (entered parser name attributes).toGlobals = false) :
    Consistent { next with depth := next.depth + 1 }.toGlobals := by
  have bounded : parser.depth + 1 ≤ (lowerTrim name :: parser.tokenList).length := by
    rw [List.length_cons]
    push_cast
    linarith only [consistent.bounded]
  have tokens : next.tokenList = lowerTrim name :: parser.tokenList := framed.tokens
  have depth : next.depth = parser.depth := framed.depth
  refine ⟨?_, fun deep => ?_⟩
  · show next.depth + 1 ≤ next.tokenList.length
    rw [tokens, depth]
    exact bounded
  · have below : 2 ≤ parser.depth := by
      change 3 ≤ next.depth + 1 at deep
      omega
    have inside := valid_in_module (entered parser name attributes).toGlobals valid below (by
      change 2 ≤ (lowerTrim name :: parser.tokenList).length
      omega)
    exact in_module_tokens _ _ framed.tokens inside

theorem consistent_stop (parser next : Parser) (consistent : Consistent parser.toGlobals) (framed : Framed parser next)
    (lastLanguage : Text) :
    Consistent { next with
      lastLanguage := lastLanguage
      tokenList := next.tokenList.tail
      depth := next.depth - 1 }.toGlobals := by
  have length : parser.tokenList.tail.length = parser.tokenList.length - 1 := List.length_tail
  have bounded := consistent.bounded
  refine ⟨?_, fun deep => ?_⟩
  · show next.depth - 1 ≤ next.tokenList.tail.length
    rw [framed.tokens, framed.depth, length]
    omega
  · change 3 ≤ next.depth - 1 at deep
    rw [framed.depth] at deep
    have inside := in_module_pop parser.toGlobals (consistent.inside (by omega)) (by omega)
    exact in_module_tokens _ _ (congrArg List.tail framed.tokens) inside

theorem open_record_first (parser next : Parser) (name : Text) (attributes : Attributes)
    (framed : Framed (entered parser name attributes) next) (deep : parser.depth = 3) :
    { next with depth := next.depth + 1 }.openRecord = (entered parser name attributes).token 0 := by
  have depth : next.depth = parser.depth := framed.depth
  show next.tokenList.getD (next.depth + 1 - 4).toNat [] = _
  rw [framed.tokens, depth, deep]
  rfl

theorem open_record_kept (parser next : Parser) (name : Text) (attributes : Attributes)
    (framed : Framed (entered parser name attributes) next) (deep : 4 ≤ parser.depth) :
    { next with depth := next.depth + 1 }.openRecord = parser.openRecord := by
  have depth : next.depth = parser.depth := framed.depth
  have index : (parser.depth + 1 - 4).toNat = (parser.depth - 4).toNat + 1 := by omega
  show next.tokenList.getD (next.depth + 1 - 4).toNat [] = _
  rw [framed.tokens, depth, index]
  rfl

theorem record_open_before (parser next : Parser) (name : Text) (attributes : Attributes)
    (framed : Framed (entered parser name attributes) next) (Tag : Text → Prop)
    (notFirst : parser.depth = 3 → ¬ Tag ((entered parser name attributes).token 0))
    (deep : 4 ≤ next.depth + 1) (tag : Tag { next with depth := next.depth + 1 }.openRecord) :
    4 ≤ parser.depth ∧ Tag parser.openRecord := by
  have depth : next.depth = parser.depth := framed.depth
  by_cases first : parser.depth = 3
  · rw [open_record_first parser next name attributes framed first] at tag
    exact absurd tag (notFirst first)
  · have below : 4 ≤ parser.depth := by omega
    rw [open_record_kept parser next name attributes framed below] at tag
    exact ⟨below, tag⟩

theorem alike_shallow (parser : Parser) (rvar setup : Option Nat) (consistent : Consistent parser.toGlobals)
    (shallow : parser.depth < 4) : Alike (parser.keeping rvar setup) parser :=
  ⟨consistent, rfl, fun deep => absurd deep (not_le.mpr shallow), fun deep => absurd deep (not_le.mpr shallow)⟩

theorem start_alike (parser other : Parser) (name : Text) (attributes : Attributes) (alike : Alike parser other) :
    Option.Rel Alike (startSetupMDFParser parser name attributes) (startSetupMDFParser other name attributes) := by
  have consistent := consistent_entered other name attributes alike.consistent
  generalize rvarIs : parser.rvar = rvar
  generalize setupIs : parser.setup = setup
  have same : parser = other.keeping rvar setup := by
    rw [← rvarIs, ← setupIs]
    exact alike.same
  have enteredSame : entered parser name attributes = (entered other name attributes).keeping rvar setup := by
    rw [same]
    rfl
  have invalidSame : invalidStructure ((entered other name attributes).keeping rvar setup).toGlobals =
      invalidStructure (entered other name attributes).toGlobals := rfl
  have openedSame : opened ((entered other name attributes).keeping rvar setup).toGlobals =
      opened (entered other name attributes).toGlobals := by
    refine opened_alike (entered other name attributes).toGlobals rvar setup ?_
    intro index _ deep remote
    rw [entered_tokens other name attributes index deep] at remote
    rw [← rvarIs]
    have deeper : 4 ≤ other.depth := by
      change other.depth = (index : Int) + 4 at deep
      omega
    exact alike.rvar deeper remote
  simp only [startSetupMDFParser, enteredSame, invalidSame, openedSame, start_keeping]
  cases valid : invalidStructure (entered other name attributes).toGlobals with
  | true =>
      have shallow := invalid_shallow other name attributes alike.consistent valid
      refine Option.Rel.some (alike_shallow _ rvar setup consistent ?_)
      change other.depth < 4
      omega
  | false =>
      simp only [Bool.false_eq_true, if_false]
      cases started : startRecord (entered other name attributes) attributes
          (opened (entered other name attributes).toGlobals) with
      | none => exact Option.Rel.none
      | some next =>
          obtain ⟨framed, rvarKept, setupKept⟩ := start_pointers _ next attributes _ started
          refine Option.Rel.some ⟨?_, rfl, ?_, ?_⟩
          · exact consistent_deeper other next name attributes alike.consistent framed valid
          · intro deep remote
            by_cases sets : opened (entered other name attributes).toGlobals = .remotevar
            · exact if_pos sets
            · obtain ⟨below, tag⟩ := record_open_before other next name attributes framed
                (fun token => isRemote token = true)
                (fun first tag => sets (opened_remote _ first tag)) deep remote
              refine (if_neg sets).trans ?_
              rw [← rvarIs]
              exact (alike.rvar below tag).trans (rvarKept sets).symm
          · intro deep file
            by_cases sets : opened (entered other name attributes).toGlobals = .setup
            · exact if_pos sets
            · obtain ⟨below, tag⟩ := record_open_before other next name attributes framed
                (fun token => token = "setup".toList)
                (fun first tag => sets (opened_setup _ first tag)) deep file
              refine (if_neg sets).trans ?_
              rw [← setupIs]
              exact (alike.setup below tag).trans (setupKept sets).symm

theorem text_alike (parser other : Parser) (piece : Text) (alike : Alike parser other) :
    Option.Rel Alike (handleMDFParserData parser piece) (handleMDFParserData other piece) := by
  generalize rvarIs : parser.rvar = rvar
  generalize setupIs : parser.setup = setup
  have same : parser = other.keeping rvar setup := by
    rw [← rvarIs, ← setupIs]
    exact alike.same
  have placeSame : textPlace parser.toGlobals = textPlace other.toGlobals := by
    rw [same]
    refine place_alike other.toGlobals rvar setup ?_ ?_
    · intro deep remote
      rw [← rvarIs]
      refine alike.rvar (by omega) ?_
      rw [open_tokens other.toGlobals 1 deep]
      exact remote
    · intro deep file
      rw [← setupIs]
      refine alike.setup (by omega) ?_
      rw [open_tokens other.toGlobals 1 deep]
      exact file
  unfold handleMDFParserData
  by_cases empty : trim piece = []
  · simp only [if_pos empty]
    exact Option.Rel.some alike
  · simp only [if_neg empty, placeSame]
    rw [same, store_keeping]
    cases stored : storeText other (trim piece) (textPlace other.toGlobals) with
    | none => exact Option.Rel.none
    | some next =>
        obtain ⟨⟨tokens, depth⟩, rvarKept, setupKept⟩ := store_pointers other next _ _ stored
        have recordKept : next.openRecord = other.openRecord := by
          rw [Globals.openRecord, Globals.openRecord, Globals.token, Globals.token, tokens, depth]
        refine Option.Rel.some ⟨?_, rfl, ?_, ?_⟩
        · refine ⟨?_, fun deep => ?_⟩
          · rw [tokens, depth]
            exact alike.consistent.bounded
          · rw [depth] at deep
            exact in_module_tokens _ _ tokens (alike.consistent.inside deep)
        · intro deep remote
          rw [depth] at deep
          rw [recordKept] at remote
          exact rvarIs.symm.trans ((alike.rvar deep remote).trans rvarKept.symm)
        · intro deep file
          rw [depth] at deep
          rw [recordKept] at file
          exact setupIs.symm.trans ((alike.setup deep file).trans setupKept.symm)

theorem open_record_after (parser next : Parser) (framed : Framed parser next) (lastLanguage : Text)
    (deep : 5 ≤ parser.depth) :
    { next with lastLanguage := lastLanguage, tokenList := next.tokenList.tail, depth := next.depth - 1 }.openRecord =
      parser.openRecord := by
  have index : (parser.depth - 4).toNat = (parser.depth - 1 - 4).toNat + 1 := by omega
  show Globals.token { next.toGlobals with tokenList := next.tokenList.tail } (next.depth - 1 - 4).toNat = _
  rw [token_after_pop, framed.depth, ← index]
  exact congrArg (fun tokens => tokens.getD (parser.depth - 4).toNat []) framed.tokens

theorem stop_alike (parser other : Parser) (name : Text) (alike : Alike parser other) :
    Option.Rel Alike (endSetupMDFParser parser name) (endSetupMDFParser other name) := by
  have framed := closed_framed other (lowerTrim name)
  obtain ⟨nextRvar, nextSetup, steady⟩ := closed_steady other parser.rvar parser.setup (lowerTrim name)
  have same : closed parser (lowerTrim name) = (closed other (lowerTrim name)).keeping nextRvar nextSetup := by
    rw [← steady, ← alike.same]
  -- Inside of a record nothing touches the two pointers.
  have inside : 4 ≤ (closed other (lowerTrim name)).depth - 1 → 5 ≤ other.depth ∧
      Blind other parser.rvar parser.setup fun parser => closed parser (lowerTrim name) := by
    intro deep
    rw [framed.depth] at deep
    exact ⟨by omega, closed_blind other parser.rvar parser.setup (lowerTrim name) (by omega)⟩
  refine Option.Rel.some ⟨consistent_stop other _ alike.consistent framed _, ?_, ?_, ?_⟩
  · simp only [same]
    rfl
  · intro deep remote
    obtain ⟨below, blind⟩ := inside deep
    rw [open_record_after other _ framed _ below] at remote
    have kept : (closed parser (lowerTrim name)).rvar = parser.rvar := by
      refine (congrArg (fun next : Parser => (closed next (lowerTrim name)).rvar) alike.same).trans ?_
      simp only [blind.same]
      rfl
    exact kept.trans ((alike.rvar (by omega) remote).trans blind.rvar.symm)
  · intro deep file
    obtain ⟨below, blind⟩ := inside deep
    rw [open_record_after other _ framed _ below] at file
    have kept : (closed parser (lowerTrim name)).setup = parser.setup := by
      refine (congrArg (fun next : Parser => (closed next (lowerTrim name)).setup) alike.same).trans ?_
      simp only [blind.same]
      rfl
    exact kept.trans ((alike.setup (by omega) file).trans blind.setup.symm)

theorem nodes_alike (globals : Globals) (mdf : Mdf) (nodes : List Node) (noneOpen : globals.tokenList = [])
    (cleared : mdf.clearStorage = {}) :
    Option.Rel Alike (parseNodes globals mdf nodes) (parseNodes freshGlobals {} nodes) := by
  refine SaxHandler.handle_related Alike start_alike text_alike stop_alike nodes _ _ ?_
  have reset : ({ toGlobals := resetGlobals globals, mdf := mdf.clearStorage } : Parser) =
      ({ toGlobals := resetGlobals freshGlobals, mdf := Mdf.clearStorage {} } : Parser).keeping
        globals.rvar globals.setup := by
    rw [cleared]
    simp only [resetGlobals, noneOpen, Parser.keeping]
    rfl
  rw [reset]
  exact alike_shallow _ _ _ (consistent_reset freshGlobals) (by decide)

theorem alike_mdf (parser other : Parser) (alike : Alike parser other) : parser.mdf = other.mdf := by
  rw [alike.same]
  rfl

theorem xml_outcome (libraries : Libraries) (globals : Globals) (mdf : Mdf) (content : Text)
    (noneOpen : globals.tokenList = []) (cleared : mdf.clearStorage = {}) :
    (parseMDF_XML libraries globals mdf content).map Prod.snd =
      (parseMDF_XML libraries freshGlobals {} content).map Prod.snd := by
  have nodes := nodes_alike globals mdf (delivered libraries content).1 noneOpen cleared
  unfold parseMDF_XML
  generalize parseNodes globals mdf (delivered libraries content).1 = done at nodes
  generalize parseNodes freshGlobals {} (delivered libraries content).1 = freshDone at nodes
  cases nodes with
  | none => rfl
  | some alike => simp only [Option.map_some, alike_mdf _ _ alike]

def resultOf (done : Option (Globals × Int × Mdf)) : Except Unit (Int × Mdf) :=
  match done.map Prod.snd with
  | none => .error ()
  | some result => .ok result

theorem outcome_result (libraries : Libraries) (process : Process) (call : Call) :
    outcome libraries process call =
      resultOf (parseMDF libraries process.globals (process.objects call.object) call.file) := by
  unfold outcome parse
  cases parseMDF libraries process.globals (process.objects call.object) call.file <;> rfl

theorem outcome_of_allowed (libraries : Libraries) (process : Process) (call : Call) (may : MayParse process call) :
    outcome libraries process call = outcome libraries freshProcess call := by
  rw [outcome_result, outcome_result]
  unfold MayParse at may
  by_cases xml : fileFormat call.file = .xml
  · rw [if_pos xml] at may
    simp only [parseMDF, xml, resultOf]
    rw [xml_outcome libraries process.globals _ _ may.1 may.2]
    rfl
  · rw [if_neg xml] at may
    rw [may]
    cases format : fileFormat call.file with
    | xml => exact absurd format xml
    | _ =>
        simp only [parseMDF, format]
        rfl

section complete

def tokensAfter (tokens : List Text) : Node → List Text
  | .start name _ => lowerTrim name :: tokens
  | .text _ => tokens
  | .stop _ => tokens.tail

-- A file whose tags are all closed, as far as expat reports it.
def Complete (libraries : Libraries) (call : Call) : Prop :=
  fileFormat call.file = .xml → ((delivered libraries (call.file.getD [])).1.foldl tokensAfter []) = []

instance (libraries : Libraries) (call : Call) : Decidable (Complete libraries call) :=
  inferInstanceAs (Decidable (_ → _))

theorem pieces_tokens (pieces : List Text) (parser next : Parser)
    (stored : pieces.foldlM handleMDFParserData parser = some next) : next.tokenList = parser.tokenList := by
  induction pieces generalizing parser with
  | nil =>
      cases stored
      rfl
  | cons piece later ih =>
      obtain ⟨middle, first, rest⟩ := Option.bind_eq_some_iff.mp stored
      have kept : middle.tokenList = parser.tokenList := by
        unfold handleMDFParserData at first
        by_cases empty : trim piece = []
        · simp only [if_pos empty] at first
          cases first
          rfl
        · simp only [if_neg empty] at first
          exact (store_pointers parser middle _ _ first).1.tokens
      rw [ih middle rest, kept]

theorem node_tokens (parser next : Parser) (node : Node)
    (handled : SaxHandler.handle startSetupMDFParser handleMDFParserData endSetupMDFParser parser node = some next) :
    next.tokenList = tokensAfter parser.tokenList node := by
  cases node with
  | text pieces => exact pieces_tokens pieces parser next handled
  | stop name =>
      cases handled
      exact congrArg List.tail (closed_framed parser (lowerTrim name)).tokens
  | start name attributes =>
      change startSetupMDFParser parser name attributes = some next at handled
      unfold startSetupMDFParser at handled
      cases invalid : invalidStructure (entered parser name attributes).toGlobals with
      | true =>
          simp only [invalid, if_true] at handled
          cases handled
          rfl
      | false =>
          simp only [invalid, Bool.false_eq_true, if_false] at handled
          obtain ⟨started, first, rest⟩ := Option.map_eq_some_iff.mp handled
          cases rest
          exact (start_pointers _ started attributes _ first).1.tokens

theorem nodes_tokens (nodes : List Node) (parser next : Parser)
    (handled : SaxHandler.handleAll startSetupMDFParser handleMDFParserData endSetupMDFParser parser nodes =
      some next) : next.tokenList = nodes.foldl tokensAfter parser.tokenList := by
  induction nodes generalizing parser with
  | nil =>
      cases handled
      rfl
  | cons node later ih =>
      obtain ⟨middle, first, rest⟩ := Option.bind_eq_some_iff.mp handled
      rw [ih middle rest, node_tokens parser middle node first]
      rfl

theorem tokens_of_complete (libraries : Libraries) (process next : Process) (call : Call) (result : Int × Mdf)
    (complete : Complete libraries call) (noneOpen : process.globals.tokenList = [])
    (done : parse libraries process call = .ok (result, next)) :
    next.globals.tokenList = [] ∧ ∀ object, object ≠ call.object → next.objects object = process.objects object := by
  unfold parse at done
  cases parsed : parseMDF libraries process.globals (process.objects call.object) call.file with
  | none =>
      rw [parsed] at done
      cases done
  | some triple =>
      rw [parsed] at done
      cases done
      refine ⟨?_, fun object other => Function.update_of_ne other _ _⟩
      cases format : fileFormat call.file with
      | xml =>
          simp only [parseMDF, format, parseMDF_XML] at parsed
          obtain ⟨parser, handled, same⟩ := Option.map_eq_some_iff.mp parsed
          cases same
          have tokens := nodes_tokens _ _ _ handled
          have start : (resetGlobals process.globals).tokenList = [] := noneOpen
          rw [start] at tokens
          exact tokens.trans (complete format)
      | _ =>
          simp only [parseMDF, format, Option.some.injEq] at parsed
          cases parsed
          exact noneOpen

theorem separate_objects_allowed (libraries : Libraries) (calls : List Call) (process : Process)
    (noneOpen : process.globals.tokenList = []) (unused : ∀ call ∈ calls, process.objects call.object = {})
    (distinct : (calls.map Call.object).Nodup) (complete : ∀ call ∈ calls, Complete libraries call) :
    Along (parse libraries) MayParse process calls := by
  induction calls generalizing process with
  | nil => trivial
  | cons call later ih =>
      have empty := unused call List.mem_cons_self
      refine ⟨?_, fun result next done => ?_⟩
      · unfold MayParse
        rw [empty]
        by_cases xml : fileFormat call.file = .xml
        · rw [if_pos xml]
          exact ⟨noneOpen, rfl⟩
        · rw [if_neg xml]
      · rw [List.map_cons, List.nodup_cons] at distinct
        obtain ⟨tokens, kept⟩ := tokens_of_complete libraries process next call result
          (complete call List.mem_cons_self) noneOpen done
        refine ih next tokens ?_ distinct.2 fun other member => complete other (List.mem_cons_of_mem _ member)
        intro other member
        have differs : other.object ≠ call.object := by
          intro same
          exact distinct.1 (same ▸ List.mem_map_of_mem member)
        rw [kept other.object differs]
        exact unused other (List.mem_cons_of_mem _ member)

end complete

def xmlFile (body : Text) : Text := "<?xml version='1.0'?>\n".toList ++ body

def nodesOf (tag content : Text) : List Node :=
  [.start "vscp".toList [], .start "module".toList [], .start tag [], .text [content], .stop tag,
    .stop "module".toList, .stop "vscp".toList]

def nameBody : Text := "<vscp><module><name>demo</name></module></vscp>".toList
def copyrightBody : Text := "<vscp><module><copyright>all rights</copyright></module></vscp>".toList
def openBody : Text := "<vscp>".toList

def registerFile : Text := "\x7b\"module\":\x7b\"name\":\"demo\",\"registers\":[\x7b\"offset\":7\x7d]\x7d\x7d".toList

def registerJson : Json :=
  .object [("module".toList, .object [("name".toList, .string "demo".toList),
    ("registers".toList, .array [.object [("offset".toList, .numberUnsigned 7)]])])]

def fileLibraries : Libraries where
  expat content :=
    if content = nameBody then (nodesOf "name".toList "demo".toList, true)
    else if content = copyrightBody then (nodesOf "copyright".toList "all rights".toList, true)
    else if content = openBody then ([.start "vscp".toList []], true)
    else ([], false)
  json :=
    { parse := fun content => if content = registerFile then some registerJson else none
      truncate := fun _ => 0
      floatText := fun digits => digits
      dump := fun _ => [] }

def processAfter (calls : List Call) : Process :=
  match PartialRun.run (parse fileLibraries) freshProcess calls with
  | .ok (_, process) => process
  | .error _ => freshProcess

def resultMatches (check : Int × Mdf → Bool) (result : Except Unit (Int × Mdf)) : Bool :=
  match result with
  | .ok found => check found
  | .error _ => false

theorem outcome_differs (check : Int × Mdf → Bool) (process : Process) (call : Call)
    (fresh : resultMatches check (outcome fileLibraries freshProcess call) = true)
    (later : resultMatches check (outcome fileLibraries process call) = false) :
    outcome fileLibraries process call ≠ outcome fileLibraries freshProcess call := by
  intro same
  rw [same, fresh] at later
  cases later

end Vscp.ModuleDescription
