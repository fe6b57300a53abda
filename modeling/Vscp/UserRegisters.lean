import Vscp.RemoteVariable
import Vscp.Lib.PartialRun

set_option autoImplicit false

namespace Vscp.Registers

open RemoteTcp (Text)

-- A page that init reads, with what vscp_readLevel1RegisterBlock gives for it.
structure PageRead where
  page : UInt16
  rv : Int
  registers : RegisterMap

-- undefined is a remote variable that is read in a way C++ gives no meaning to.
inductive Fault
  | nullPage
  | undefined

namespace UserRegisters

def initPages (user : UserRegisters) : List PageRead → Int × UserRegisters
  | [] => (0, user)
  | read :: later =>
      let created := user.withPage read.page (RegisterPage.new user.level read.page)
      if read.rv ≠ 0 then (read.rv, created)
      else
        let content := ((RegisterPage.new user.level read.page).putLevel1Registers read.registers).clearChanges
        let filled := created.withPage read.page content
        initPages { filled with pages := filled.pages.insert read.page.toUInt32 } later

def init (user : UserRegisters) (reads : List PageRead) : Int × UserRegisters :=
  initPages { user with pages := ∅ } reads

-- Look the page up, and call one of its methods unless the pointer is null.
def onPage {Result : Type} (user : UserRegisters) (page : UInt16) (absent : Result)
    (method : RegisterPage → Result × RegisterPage) : Result × UserRegisters :=
  match user.getRegisterPage page with
  | (none, user) => (absent, user)
  | (some ppage, user) => ((method ppage).1, user.withPage page (method ppage).2)

def getRegisterMap (user : UserRegisters) (page : UInt16) : Option (Std.TreeMap UInt32 UInt8) × UserRegisters :=
  user.onPage page none fun ppage => (some ppage.registers, ppage)

-- The map is asked with find, so nothing is created on the page.
def getReg (user : UserRegisters) (offset : UInt32) (page : UInt16) : Int × UserRegisters :=
  user.onPage page (-1) fun ppage => ((ppage.registers[offset]?).elim (-1) fun value => value.toNat, ppage)

def setChangedState (user : UserRegisters) (offset : UInt32) (page : UInt16) (state : Bool) : Bool × UserRegisters :=
  user.onPage page false fun ppage => (true, ppage.setChangedState offset state)

def isChanged (user : UserRegisters) (offset : UInt32) (page : UInt16) : Bool × UserRegisters :=
  user.onPage page false fun ppage => ppage.isChanged offset

def hasWrittenChange (user : UserRegisters) (offset : UInt32) (page : UInt16) : Bool × UserRegisters :=
  user.onPage page false fun ppage => ppage.hasWrittenChange offset

def accepts (user : UserRegisters) (reg page : UInt32) : Bool :=
  if user.level = level1 then reg ≤ 127
  else if user.level = level2 then page ≤ 0xffffff80
  else false

-- The pointer is not looked at before it is followed. The number of the page is cut to 16 bits for the map.
def putReg (user : UserRegisters) (reg page : UInt32) (value : UInt8) : Except Fault (Bool × UserRegisters) :=
  if user.accepts reg page then
    match user.getRegisterPage page.toUInt16 with
    | (none, _) => .error .nullPage
    | (some ppage, user) =>
        let written := user.withPage page.toUInt16 (ppage.putReg reg value).2
        .ok (true, { written with pages := written.pages.insert page })
  else .ok (false, user)

def onEveryPage (user : UserRegisters) (method : RegisterPage → RegisterPage) : Except Fault UserRegisters :=
  if user.registerPageMap.toList.all fun entry => entry.2.isSome then
    .ok { user with registerPageMap := user.registerPageMap.map fun _ entry => entry.map method }
  else .error .nullPage

def clearChanges (user : UserRegisters) : Except Fault UserRegisters := user.onEveryPage RegisterPage.clearChanges
def clearHistory (user : UserRegisters) : Except Fault UserRegisters := user.onEveryPage RegisterPage.clearHistory

def anyChanges : List (UInt16 × Option RegisterPage) → Except Fault Bool
  | [] => .ok false
  | (_, none) :: _ => .error .nullPage
  | (_, some page) :: later => if page.hasChanges then .ok true else anyChanges later

def hasChanges (user : UserRegisters) : Except Fault Bool := anyChanges user.registerPageMap.toList

end UserRegisters

inductive Operation
  | init (reads : List PageRead)
  | getReg (offset : UInt32) (page : UInt16)
  | putReg (reg page : UInt32) (value : UInt8)
  | getRegisterMap (page : UInt16)
  | getRegisterPage (page : UInt16)
  | remoteVarFromRegToString (longBits : Nat) (remoteVar : RemoteVariable) (strValue : Text) (format : UInt8)
  | remoteVarFromStringToReg (remoteVar : RemoteVariable) (strValue : Text)
  | setChangedState (offset : UInt32) (page : UInt16) (state : Bool)
  | isChanged (offset : UInt32) (page : UInt16)
  | hasWrittenChange (offset : UInt32) (page : UInt16)
  | hasChanges
  | clearChanges
  | clearHistory

inductive Answer
  | code (rv : Int)
  | flag (answer : Bool)
  | text (rv : Int) (strValue : Text)
  | registers (map : Option (Std.TreeMap UInt32 UInt8))
  | page (ppage : Option RegisterPage)
  | nothing

def operate (user : UserRegisters) : Operation → Except Fault (Answer × UserRegisters)
  | .init reads => .ok ((user.init reads).map .code id)
  | .getReg offset page => .ok ((user.getReg offset page).map .code id)
  | .putReg reg page value => (user.putReg reg page value).map (Prod.map .flag id)
  | .getRegisterMap page => .ok ((user.getRegisterMap page).map .registers id)
  | .getRegisterPage page => .ok ((user.getRegisterPage page).map .page id)
  | .remoteVarFromRegToString longBits remoteVar strValue format =>
      match user.remoteVarFromRegToString longBits remoteVar strValue format with
      | none => .error .undefined
      | some (rv, shown, next) => .ok (.text rv shown, next)
  | .remoteVarFromStringToReg remoteVar strValue => .ok ((user.remoteVarFromStringToReg remoteVar strValue).map .code id)
  | .setChangedState offset page state => .ok ((user.setChangedState offset page state).map .flag id)
  | .isChanged offset page => .ok ((user.isChanged offset page).map .flag id)
  | .hasWrittenChange offset page => .ok ((user.hasWrittenChange offset page).map .flag id)
  | .hasChanges => user.hasChanges.map fun answer => (.flag answer, user)
  | .clearChanges => user.clearChanges.map fun next => (.nothing, next)
  | .clearHistory => user.clearHistory.map fun next => (.nothing, next)

def lookedUp (user : UserRegisters) : Operation → Option UInt16
  | .getReg _ page | .getRegisterMap page | .getRegisterPage page | .setChangedState _ page _ | .isChanged _ page
  | .hasWrittenChange _ page => some page
  | .remoteVarFromRegToString _ remoteVar _ _ | .remoteVarFromStringToReg remoteVar _ => some remoteVar.page
  | .putReg reg page _ => if user.accepts reg page then some page.toUInt16 else none
  | .init _ | .hasChanges | .clearChanges | .clearHistory => none

def Bound (user : UserRegisters) (page : UInt16) : Prop := ∃ content, user.registerPageMap[page]? = some (some content)

def OnBoundPage (user : UserRegisters) (operation : Operation) : Prop :=
  ∀ page, lookedUp user operation = some page → Bound user page

def AllBound (user : UserRegisters) : Prop :=
  ∀ (page : UInt16) (entry : Option RegisterPage), user.registerPageMap[page]? = some entry →
    ∃ content, entry = some content ∧ content.level = user.level

variable (longBits : Nat) (var : RemoteVariable)

theorem write_variable_level (strValue : Text) (page : RegisterPage) :
    (writeVariable var strValue page).level = page.level := by
  have parts : ∀ offset, (writeParts page offset strValue).level = page.level := by
    intro offset
    unfold writeParts
    split
    · exact RegisterPage.write_bytes_level page offset _
    · rfl
  unfold writeVariable
  split
  case h_2 => exact (RegisterPage.put_reg_level _ _ _).trans (RegisterPage.get_reg_level page var.offset)
  case h_11 => exact parts var.offset
  case h_12 => exact parts var.offset
  case h_13 => rfl
  all_goals exact RegisterPage.write_bytes_level page var.offset _

variable (fstr : Text)

theorem printed_page (bits : Nat) (number : Int) (page read : RegisterPage) (shown : Text)
    (result : printed longBits fstr bits number page = some (shown, read)) : read = page := by
  rw [printed, Option.map_eq_some_iff] at result
  obtain ⟨text, _, same⟩ := result
  cases same
  rfl

theorem printed_parts_page (buf : Bytes × RegisterPage) (shown : Text) (read : RegisterPage)
    (result : printedParts longBits fstr buf = some (shown, read)) : read = buf.2 := by
  unfold printedParts at result
  split at result
  · rw [Option.map_eq_some_iff] at result
    obtain ⟨text, _, same⟩ := result
    cases same
    rfl
  · cases result

theorem read_variable_level (format : UInt8) (page read : RegisterPage) (shown : Text)
    (result : readVariable longBits var format page = some (shown, read)) : read.level = page.level := by
  have bytes := RegisterPage.read_bytes_level page var.offset
  unfold readVariable at result
  dsimp only at result
  split at result
  case h_1 =>
    rw [Option.map_eq_some_iff] at result
    obtain ⟨pstr, _, same⟩ := result
    cases same
    exact bytes _
  case h_2 =>
    cases result
    exact RegisterPage.get_reg_level page _
  case h_3 | h_4 =>
    rw [printed_page _ _ _ _ _ _ _ result]
    exact RegisterPage.get_reg_level page _
  case h_11 | h_12 =>
    rw [printed_parts_page _ _ _ _ _ result]
    exact bytes _
  case h_13 =>
    cases result
    rfl
  all_goals
    rw [printed_page _ _ _ _ _ _ _ result]
    exact bytes _

theorem put_level1_level (page : RegisterPage) (registers : RegisterMap) :
    (page.putLevel1Registers registers).level = page.level := by
  rw [RegisterPage.putLevel1Registers]
  generalize List.range 256 = regs
  induction regs generalizing page with
  | nil => rfl
  | cons reg regs ih =>
      rw [List.foldl_cons, ih]
      split
      · exact RegisterPage.put_reg_level page _ _
      · rfl

structure Replaces (user after : UserRegisters) (page : UInt16) (content : RegisterPage) : Prop where
  level : after.level = user.level
  found : ∀ query : UInt16, after.registerPageMap[query]? =
    if query = page then some (some content) else user.registerPageMap[query]?

variable (user : UserRegisters) (operation : Operation) (page : UInt16)

theorem fetched_pointer :
    user.registerPageMap.getD page none = (user.registerPageMap[page]?).join := by
  rw [Std.TreeMap.getD_eq_getD_getElem?]
  cases user.registerPageMap[page]? with
  | none => rfl
  | some entry => rfl

theorem fetch_found (page query : UInt16) :
    (user.getRegisterPage page).2.registerPageMap[query]? =
      if query = page then some (user.registerPageMap[page]?).join else user.registerPageMap[query]? := by
  rw [UserRegisters.getRegisterPage, found_after_fetch, fetched_pointer]

theorem with_page_replaces (user after : UserRegisters) (page : UInt16) (content : RegisterPage)
    (level : after.level = user.level)
    (others : ∀ query : UInt16, query ≠ page → after.registerPageMap[query]? = user.registerPageMap[query]?) :
    Replaces user (after.withPage page content) page content where
  level := level
  found query := by
    rw [UserRegisters.withPage, found_after_insert]
    by_cases same : query = page
    · rw [if_pos same, if_pos same]
    · rw [if_neg same, if_neg same, others query same]

theorem fetched_replaces (content : RegisterPage) :
    Replaces user ((user.getRegisterPage page).2.withPage page content) page content :=
  with_page_replaces user _ page content rfl fun query other => by rw [fetch_found, if_neg other]

theorem replaces_all_bound (user after : UserRegisters) (page : UInt16) (content : RegisterPage)
    (replaces : Replaces user after page content) (level : content.level = user.level) (all : AllBound user) :
    AllBound after := by
  intro query entry found
  rw [replaces.found] at found
  by_cases same : query = page
  · rw [if_pos same] at found
    exact ⟨content, (Option.some.inj found).symm, level.trans replaces.level.symm⟩
  · rw [if_neg same] at found
    obtain ⟨other, here, own⟩ := all query entry found
    exact ⟨other, here, own.trans replaces.level.symm⟩

theorem bound_level (content : RegisterPage) (all : AllBound user)
    (here : user.registerPageMap[page]? = some (some content)) : content.level = user.level := by
  obtain ⟨other, same, level⟩ := all page _ here
  cases same
  exact level

theorem on_bound_page {Result : Type} (user : UserRegisters) (page : UInt16) (absent : Result)
    (method : RegisterPage → Result × RegisterPage) (content : RegisterPage)
    (here : user.registerPageMap[page]? = some (some content)) :
    user.onPage page absent method =
      ((method content).1, (user.getRegisterPage page).2.withPage page (method content).2) := by
  have pointer : (user.getRegisterPage page).1 = some content := (fetched_pointer user page).trans (by rw [here]; rfl)
  rw [UserRegisters.onPage, show user.getRegisterPage page = (some content, (user.getRegisterPage page).2) from
    Prod.ext pointer rfl]

theorem on_unread_page {Result : Type} (user : UserRegisters) (page : UInt16) (absent : Result)
    (method : RegisterPage → Result × RegisterPage) (missing : user.registerPageMap[page]? = none) :
    user.onPage page absent method = (absent, (user.getRegisterPage page).2) ∧
      (user.getRegisterPage page).2.registerPageMap[page]? = some none := by
  have pointer : (user.getRegisterPage page).1 = none := (fetched_pointer user page).trans (by rw [missing]; rfl)
  refine ⟨?_, by rw [fetch_found, if_pos rfl, missing]; rfl⟩
  rw [UserRegisters.onPage, show user.getRegisterPage page = (none, (user.getRegisterPage page).2) from
    Prod.ext pointer rfl]

theorem on_page_keeps {Result : Type} (user : UserRegisters) (page : UInt16) (absent : Result)
    (method : RegisterPage → Result × RegisterPage) (level : ∀ content, (method content).2.level = content.level)
    (bound : Bound user page) (all : AllBound user) : AllBound (user.onPage page absent method).2 := by
  obtain ⟨content, here⟩ := bound
  rw [on_bound_page user page absent method content here]
  exact replaces_all_bound user _ page _ (fetched_replaces user page _)
    ((level content).trans (bound_level user page content all here)) all

theorem init_pages_keeps (reads : List PageRead) (all : AllBound user) :
    AllBound (user.initPages reads).2 := by
  induction reads generalizing user with
  | nil => exact all
  | cons read later ih =>
      have created : AllBound (user.withPage read.page (RegisterPage.new user.level read.page)) :=
        replaces_all_bound user _ read.page _ (with_page_replaces user user read.page _ rfl fun _ _ => rfl) rfl all
      rw [UserRegisters.initPages]
      by_cases failed : read.rv ≠ 0
      · rw [if_pos failed]
        exact created
      · rw [if_neg failed]
        refine ih _ ?_
        have filled := replaces_all_bound _ _ read.page _
          (with_page_replaces _ (user.withPage read.page (RegisterPage.new user.level read.page)) read.page
            ((RegisterPage.new user.level read.page).putLevel1Registers read.registers).clearChanges rfl fun _ _ => rfl)
          (put_level1_level (RegisterPage.new user.level read.page) read.registers) created
        exact filled

theorem every_page_some (all : AllBound user) :
    ∀ entry ∈ user.registerPageMap.toList, ∃ content, entry.2 = some content := by
  intro entry member
  obtain ⟨content, here, _⟩ := all entry.1 entry.2 (Std.TreeMap.mem_toList_iff_getElem?_eq_some.mp member)
  exact ⟨content, here⟩

theorem every_page_called (method : RegisterPage → RegisterPage)
    (level : ∀ content, (method content).level = content.level) (all : AllBound user) :
    ∃ next, user.onEveryPage method = .ok next ∧ AllBound next := by
  have bound : (user.registerPageMap.toList.all fun entry => entry.2.isSome) = true := by
    refine List.all_eq_true.mpr fun entry member => ?_
    obtain ⟨content, here⟩ := every_page_some user all entry member
    rw [here, Option.isSome_some]
  refine ⟨_, by rw [UserRegisters.onEveryPage, if_pos bound], ?_⟩
  intro page entry found
  rw [Std.TreeMap.getElem?_map, Option.map_eq_some_iff] at found
  obtain ⟨old, before, rfl⟩ := found
  obtain ⟨content, rfl, own⟩ := all page old before
  exact ⟨method content, rfl, (level content).trans own⟩

theorem any_changes_answers (entries : List (UInt16 × Option RegisterPage))
    (bound : ∀ entry ∈ entries, ∃ content, entry.2 = some content) : ∃ answer, UserRegisters.anyChanges entries = .ok answer := by
  induction entries with
  | nil => exact ⟨false, rfl⟩
  | cons entry later ih =>
      obtain ⟨page, pointer⟩ := entry
      obtain ⟨content, rfl⟩ := bound _ List.mem_cons_self
      rw [UserRegisters.anyChanges]
      split
      · exact ⟨true, rfl⟩
      · exact ih fun other member => bound other (List.mem_cons_of_mem _ member)

theorem bound_put_reg (reg page : UInt32) (value : UInt8) (content : RegisterPage)
    (accepted : user.accepts reg page = true) (here : user.registerPageMap[page.toUInt16]? = some (some content)) :
    ∃ next, user.putReg reg page value = .ok (true, next) ∧
      Replaces user next page.toUInt16 (content.putReg reg value).2 := by
  have pointer : (user.getRegisterPage page.toUInt16).1 = some content :=
    (fetched_pointer user page.toUInt16).trans (by rw [here]; rfl)
  have replaces := fetched_replaces user page.toUInt16 (content.putReg reg value).2
  refine ⟨{ (user.getRegisterPage page.toUInt16).2.withPage page.toUInt16 (content.putReg reg value).2 with
    pages := user.pages.insert page }, ?_, replaces.level, replaces.found⟩
  rw [UserRegisters.putReg, if_pos accepted, show user.getRegisterPage page.toUInt16 =
    (some content, (user.getRegisterPage page.toUInt16).2) from Prod.ext pointer rfl]
  rfl

theorem string_to_reg_on_page (remoteVar : RemoteVariable) (strValue : Text) :
    user.remoteVarFromStringToReg remoteVar strValue =
      user.onPage remoteVar.page VscpError.error.code fun ppage => (0, writeVariable remoteVar strValue ppage) := by
  unfold UserRegisters.remoteVarFromStringToReg UserRegisters.onPage
  rcases user.getRegisterPage remoteVar.page with ⟨_ | ppage, after⟩
  · rfl
  · rfl

theorem operate_keeps (all : AllBound user)
    (onBound : OnBoundPage user operation) :
    operate user operation = .error .undefined ∨
      ∃ answer next, operate user operation = .ok (answer, next) ∧ AllBound next := by
  cases operation with
  | init reads =>
      exact .inr ⟨_, _, rfl, init_pages_keeps { user with pages := ∅ } reads all⟩
  | getReg offset page => exact .inr ⟨_, _, rfl, on_page_keeps user page _ _ (fun _ => rfl) (onBound page rfl) all⟩
  | getRegisterMap page => exact .inr ⟨_, _, rfl, on_page_keeps user page _ _ (fun _ => rfl) (onBound page rfl) all⟩
  | setChangedState offset page state =>
      exact .inr ⟨_, _, rfl, on_page_keeps user page _ _ (fun _ => rfl) (onBound page rfl) all⟩
  | isChanged offset page => exact .inr ⟨_, _, rfl, on_page_keeps user page _ _ (fun _ => rfl) (onBound page rfl) all⟩
  | hasWrittenChange offset page =>
      exact .inr ⟨_, _, rfl, on_page_keeps user page _ _ (fun _ => rfl) (onBound page rfl) all⟩
  | putReg reg page value =>
      by_cases accepted : user.accepts reg page = true
      · obtain ⟨content, here⟩ := onBound page.toUInt16 (if_pos accepted)
        obtain ⟨next, done, replaces⟩ := bound_put_reg user reg page value content accepted here
        refine .inr ⟨.flag true, next, by rw [operate, done]; rfl, ?_⟩
        exact replaces_all_bound user next _ _ replaces
          ((RegisterPage.put_reg_level content reg value).trans (bound_level user _ content all here)) all
      · exact .inr ⟨.flag false, user, by rw [operate, UserRegisters.putReg, if_neg accepted]; rfl, all⟩
  | getRegisterPage page =>
      obtain ⟨content, here⟩ := onBound page rfl
      refine .inr ⟨_, _, rfl, fun query entry found => ?_⟩
      have same : (user.getRegisterPage page).2.registerPageMap[query]? = some entry := found
      rw [fetch_found, here] at same
      by_cases own : query = page
      · rw [if_pos own] at same
        exact ⟨content, (Option.some.inj same).symm, bound_level user page content all here⟩
      · rw [if_neg own] at same
        exact all query entry same
  | remoteVarFromRegToString longBits remoteVar strValue format =>
      obtain ⟨content, here⟩ := onBound remoteVar.page rfl
      have pointer : (user.getRegisterPage remoteVar.page).1 = some content :=
        (fetched_pointer user remoteVar.page).trans (by rw [here]; rfl)
      rw [operate, UserRegisters.remoteVarFromRegToString, show user.getRegisterPage remoteVar.page =
        (some content, (user.getRegisterPage remoteVar.page).2) from Prod.ext pointer rfl]
      dsimp only
      cases result : readVariable longBits remoteVar format content with
      | none => exact .inl rfl
      | some read =>
          refine .inr ⟨_, _, rfl, ?_⟩
          exact replaces_all_bound user _ remoteVar.page _ (fetched_replaces user remoteVar.page read.2)
            ((read_variable_level longBits remoteVar format content read.2 read.1 result).trans
              (bound_level user _ content all here)) all
  | remoteVarFromStringToReg remoteVar strValue =>
      have kept : AllBound (user.remoteVarFromStringToReg remoteVar strValue).2 := by
        rw [string_to_reg_on_page]
        exact on_page_keeps user remoteVar.page _ _ (fun content => write_variable_level remoteVar strValue content)
          (onBound remoteVar.page rfl) all
      exact .inr ⟨_, _, rfl, kept⟩
  | hasChanges =>
      obtain ⟨answer, found⟩ := any_changes_answers _ (every_page_some user all)
      exact .inr ⟨.flag answer, user, by rw [operate, UserRegisters.hasChanges, found]; rfl, all⟩
  | clearChanges =>
      obtain ⟨next, done, kept⟩ := every_page_called user RegisterPage.clearChanges (fun _ => rfl) all
      exact .inr ⟨.nothing, next, by rw [operate, UserRegisters.clearChanges, done]; rfl, kept⟩
  | clearHistory =>
      obtain ⟨next, done, kept⟩ := every_page_called user RegisterPage.clearHistory (fun _ => rfl) all
      exact .inr ⟨.nothing, next, by rw [operate, UserRegisters.clearHistory, done]; rfl, kept⟩

def asksFor : Operation → Option UInt16
  | .getReg _ page | .getRegisterMap page | .getRegisterPage page | .setChangedState _ page _ | .isChanged _ page
  | .hasWrittenChange _ page => some page
  | .remoteVarFromRegToString _ remoteVar _ _ | .remoteVarFromStringToReg remoteVar _ => some remoteVar.page
  | .init _ | .putReg .. | .hasChanges | .clearChanges | .clearHistory => none

theorem asked_looked_up (asked : asksFor operation = some page) : lookedUp user operation = some page := by
  cases operation <;> first | exact asked | cases asked

-- What a user of the class counts on, over a run from a new object.
structure Safe (level : UInt8) (operations : List Operation) : Prop where
  defined : PartialRun.run operate (UserRegisters.new level) operations ≠ .error .nullPage
  bound : ∀ before user, before <+: operations → PartialRun.Reaches operate (UserRegisters.new level) before user →
    ∀ (page : UInt16) (entry : Option RegisterPage), user.registerPageMap[page]? = some entry → entry ≠ none
  seen : ∀ before reg page value later user next, operations = before ++ .putReg reg page value :: later →
    PartialRun.Reaches operate (UserRegisters.new level) before user →
      operate user (.putReg reg page value) = .ok (.flag true, next) → (next.getReg reg page.toUInt16).1 = value.toNat
  silent : ∀ before question later user page answer next, operations = before ++ question :: later →
    PartialRun.Reaches operate (UserRegisters.new level) before user → asksFor question = some page → ¬ Bound user page →
      operate user question = .ok (answer, next) →
        (PartialRun.run operate next later).map Prod.fst = (PartialRun.run operate user later).map Prod.fst

theorem accepted_held (reg page : UInt32) (content : RegisterPage)
    (level : content.level = user.level) (accepted : user.accepts reg page = true) : content.Holds reg 1 := by
  have small := reg.toNat_lt
  refine ⟨by omega, fun first => ?_⟩
  rw [UserRegisters.accepts, if_pos (level.symm.trans first)] at accepted
  have bound : reg.toNat ≤ 127 := UInt32.le_iff_toNat_le.mp (of_decide_eq_true accepted)
  omega

theorem put_reg_seen (user next : UserRegisters) (reg page : UInt32) (value : UInt8) (all : AllBound user)
    (onBound : OnBoundPage user (.putReg reg page value))
    (done : operate user (.putReg reg page value) = .ok (.flag true, next)) :
    (next.getReg reg page.toUInt16).1 = value.toNat := by
  by_cases accepted : user.accepts reg page = true
  · obtain ⟨content, here⟩ := onBound page.toUInt16 (if_pos accepted)
    obtain ⟨after, put, replaces⟩ := bound_put_reg user reg page value content accepted here
    have held := accepted_held user reg page content (bound_level user _ content all here) accepted
    rw [operate, put] at done
    cases done
    have there := replaces.found page.toUInt16
    rw [if_pos rfl] at there
    show (after.getReg reg page.toUInt16).1 = value.toNat
    rw [UserRegisters.getReg, on_bound_page after _ _ _ _ there]
    dsimp only
    rw [RegisterPage.put_reg_registers content reg reg value held, if_pos rfl]
    rfl
  · rw [operate, UserRegisters.putReg, if_neg accepted] at done
    cases done

-- A page that is looked up before it has been created stays behind as a null pointer, if it is not followed at once.
theorem unread_left_null (looked : lookedUp user operation = some page) (missing : user.registerPageMap[page]? = none) :
    operate user operation = .error .nullPage ∨
      ∃ answer next, operate user operation = .ok (answer, next) ∧ next.registerPageMap[page]? = some none := by
  have onPage : ∀ {Result : Type} (absent : Result) (method : RegisterPage → Result × RegisterPage),
      (user.onPage page absent method).2.registerPageMap[page]? = some none := by
    intro Result absent method
    obtain ⟨same, null⟩ := on_unread_page user page absent method missing
    rw [same]
    exact null
  cases operation with
  | init reads => cases looked
  | getReg offset own => cases looked; exact .inr ⟨_, _, rfl, onPage _ _⟩
  | getRegisterMap own => cases looked; exact .inr ⟨_, _, rfl, onPage _ _⟩
  | setChangedState offset own state => cases looked; exact .inr ⟨_, _, rfl, onPage _ _⟩
  | isChanged offset own => cases looked; exact .inr ⟨_, _, rfl, onPage _ _⟩
  | hasWrittenChange offset own => cases looked; exact .inr ⟨_, _, rfl, onPage _ _⟩
  | getRegisterPage own =>
      cases looked
      exact .inr ⟨_, _, rfl, (on_unread_page user page () (fun content => ((), content)) missing).2⟩
  | putReg reg own value =>
      rw [lookedUp] at looked
      split at looked
      · rename_i accepted
        cases looked
        have pointer : (user.getRegisterPage own.toUInt16).1 = none :=
          (fetched_pointer user own.toUInt16).trans (by rw [missing]; rfl)
        refine .inl ?_
        rw [operate, UserRegisters.putReg, if_pos accepted, show user.getRegisterPage own.toUInt16 =
          (none, (user.getRegisterPage own.toUInt16).2) from Prod.ext pointer rfl]
        rfl
      · cases looked
  | remoteVarFromRegToString longBits remoteVar strValue format =>
      cases looked
      have pointer : (user.getRegisterPage remoteVar.page).1 = none :=
        (fetched_pointer user remoteVar.page).trans (by rw [missing]; rfl)
      refine .inr ⟨.text VscpError.error.code strValue, _, ?_,
        (on_unread_page user remoteVar.page () (fun content => ((), content)) missing).2⟩
      rw [operate, UserRegisters.remoteVarFromRegToString, show user.getRegisterPage remoteVar.page =
        (none, (user.getRegisterPage remoteVar.page).2) from Prod.ext pointer rfl]
  | remoteVarFromStringToReg remoteVar strValue =>
      cases looked
      have null : (user.remoteVarFromStringToReg remoteVar strValue).2.registerPageMap[remoteVar.page]? = some none := by
        rw [string_to_reg_on_page]
        exact onPage _ _
      exact .inr ⟨_, _, rfl, null⟩
  | hasChanges => cases looked
  | clearChanges => cases looked
  | clearHistory => cases looked

theorem new_all_bound (level : UInt8) : AllBound (UserRegisters.new level) := by
  intro page entry found
  cases found

theorem operate_all_bound (answer : Answer) (next : UserRegisters)
    (all : AllBound user) (onBound : OnBoundPage user operation) (done : operate user operation = .ok (answer, next)) :
    AllBound next := by
  rcases operate_keeps user operation all onBound with undefined | ⟨_, _, kept, bound⟩
  · rw [undefined] at done
    cases done
  · rw [kept] at done
    cases done
    exact bound

theorem operate_not_null (all : AllBound user)
    (onBound : OnBoundPage user operation) : operate user operation ≠ .error .nullPage := by
  intro failed
  rcases operate_keeps user operation all onBound with undefined | ⟨_, _, kept, _⟩
  · rw [undefined] at failed
    cases failed
  · rw [kept] at failed
    cases failed

theorem runs_safe_iff_bound (level : UInt8) (operations : List Operation) :
    Safe level operations ↔ PartialRun.Along operate OnBoundPage (UserRegisters.new level) operations := by
  constructor
  · intro safe
    rw [PartialRun.along_iff_reached]
    intro before operation later user parts reached page looked
    by_contra unbound
    have missing : user.registerPageMap[page]? = none := by
      cases found : user.registerPageMap[page]? with
      | none => rfl
      | some entry =>
          have pointer := safe.bound before user (parts ▸ List.prefix_append _ _) reached page entry found
          obtain ⟨content, rfl⟩ := Option.ne_none_iff_exists'.mp pointer
          exact absurd ⟨content, found⟩ unbound
    rcases unread_left_null user operation page looked missing with null | ⟨answer, next, done, left⟩
    · exact safe.defined (parts ▸ PartialRun.fails_at operate .nullPage _ user before later operation reached null)
    · have further := PartialRun.reaches_append operate _ user next before operation answer reached done
      have initial : before ++ [operation] <+: operations := ⟨later, by rw [parts, List.append_assoc]; rfl⟩
      exact safe.bound _ next initial further page none left rfl
  · intro along
    have reached := (PartialRun.along_iff_reached operate OnBoundPage _ operations).mp along
    have all := fun before user initial there =>
      PartialRun.reached_keeps operate OnBoundPage AllBound operate_all_bound (UserRegisters.new level) operations before user
        initial (new_all_bound level) along there
    constructor
    · exact PartialRun.run_never_fails operate OnBoundPage AllBound .nullPage operate_all_bound operate_not_null _ operations
        (new_all_bound level) along
    · intro before user initial there page entry found null
      obtain ⟨content, own, _⟩ := all before user initial there page entry found
      rw [null] at own
      cases own
    · intro before reg page value later user next parts there done
      exact put_reg_seen user next reg page value (all before user (parts ▸ List.prefix_append _ _) there)
        (reached before _ later user parts there) done
    · intro before question later user page answer next parts there asked unbound _
      exact absurd (reached before question later user parts there page (asked_looked_up user question page asked)) unbound

-- Asking for a register of a page that was never read breaks clearing the changes.
theorem asking_breaks_clearing : ¬ Safe level1 [.getReg 0 0, .clearChanges] := by
  intro safe
  exact safe.defined rfl

end Vscp.Registers
