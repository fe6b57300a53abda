import Vscp.MdfDescription

set_option autoImplicit false

namespace Vscp.ModuleDescription

open RemoteTcp (Text trim)
open SaxHandler (Node)

abbrev handled (parser : Parser) (nodes : List Node) : Option Parser :=
  SaxHandler.handleAll startSetupMDFParser handleMDFParserData endSetupMDFParser parser nodes

structure Owners where
  register : Option Nat
  rvar : Option Nat
  actionParam : Option (Nat × Nat)
  action : Option Nat
  event : Option Nat
  eventData : Option (Nat × Nat)

def Globals.owners (globals : Globals) : Owners :=
  ⟨globals.register, globals.rvar, globals.actionParam, globals.action, globals.event, globals.eventData⟩

structure Stays (parser next : Globals) : Prop where
  tokens : next.tokenList = parser.tokenList
  depth : next.depth = parser.depth
  owners : next.owners = parser.owners

theorem Stays.trans {first second third : Globals} (before : Stays first second) (after : Stays second third) :
    Stays first third :=
  ⟨after.tokens.trans before.tokens, after.depth.trans before.depth, after.owners.trans before.owners⟩

section lists

variable {Item : Type}

theorem modify_congr (items : List Item) (index : Nat) (first second : Item → Item)
    (same : ∀ item, items[index]? = some item → first item = second item) :
    items.modify index first = items.modify index second := by
  refine List.ext_getElem? fun place => ?_
  rw [List.getElem?_modify, List.getElem?_modify]
  by_cases here : index = place
  · subst here
    cases found : items[index]? with
    | none => rfl
    | some item => simp only [if_true, Option.map_eq_map, Option.map_some, same item found]
  · simp only [if_neg here]

theorem modify_same (items : List Item) (index : Nat) (change : Item → Item) (same : ∀ item, change item = item) :
    items.modify index change = items := by
  rw [funext same]
  exact List.modify_id index items

theorem modify_end (items later : List Item) (item : Item) (change : Item → Item) :
    (items ++ item :: later).modify items.length change = items ++ change item :: later := by
  induction items with
  | nil => rfl
  | cons first items ih => exact congrArg (List.cons first) ih

end lists

section places

variable (mdf : Mdf)

variable (first second : List Bit → List Bit) (bits : BitList)

theorem modify_bits_twice :
    (mdf.modifyBits first bits).modifyBits second bits = mdf.modifyBits (fun old => second (first old)) bits := by
  cases bits <;>
    simp only [Mdf.modifyBits, Mdf.modifyActionParam, Mdf.modifyEventData, List.modify_modify_eq, Function.comp_def]

theorem modify_bits_congr (same : first (mdf.bits bits) = second (mdf.bits bits)) : mdf.modifyBits first bits = mdf.modifyBits second bits := by
  cases bits with
  | alarm => exact congrArg (fun listAlarm => { mdf with listAlarm := listAlarm }) same
  | register index =>
      refine congrArg (fun listRegister => { mdf with listRegister := listRegister }) (modify_congr _ _ _ _ ?_)
      intro reg found
      simp only [Mdf.bits, List.getD_eq_getElem?_getD, found, Option.getD_some] at same
      rw [same]
  | remotevar index =>
      refine congrArg (fun listRemotevar => { mdf with listRemotevar := listRemotevar }) (modify_congr _ _ _ _ ?_)
      intro rvar found
      simp only [Mdf.bits, List.getD_eq_getElem?_getD, found, Option.getD_some] at same
      rw [same]
  | actionParam action param =>
      refine congrArg (fun listAction => { mdf with dmInfo.listAction := listAction }) (modify_congr _ _ _ _ ?_)
      intro owner found
      refine congrArg (fun params => { owner with listActionParameter := params }) (modify_congr _ _ _ _ ?_)
      intro own place
      simp only [Mdf.bits, Mdf.actionParam, List.getD_eq_getElem?_getD, found, Option.getD_some, place] at same
      rw [same]
  | eventData event data =>
      refine congrArg (fun listEvent => { mdf with listEvent := listEvent }) (modify_congr _ _ _ _ ?_)
      intro owner found
      refine congrArg (fun data => { owner with listEventData := data }) (modify_congr _ _ _ _ ?_)
      intro own place
      simp only [Mdf.bits, Mdf.eventData, List.getD_eq_getElem?_getD, found, Option.getD_some, place] at same
      rw [same]

theorem modify_values_twice (first second : List Value → List Value) (values : ValueList) :
    (mdf.modifyValues first values).modifyValues second values =
      mdf.modifyValues (fun old => second (first old)) values := by
  cases values with
  | bit place =>
      simp only [Mdf.modifyValues, Mdf.modifyBit, modify_bits_twice, List.modify_modify_eq, Function.comp_def]
  | _ =>
      simp only [Mdf.modifyValues, Mdf.modifyActionParam, Mdf.modifyEventData, List.modify_modify_eq,
        Function.comp_def]

theorem modify_bits_same (change : List Bit → List Bit) (same : ∀ old, change old = old) (bits : BitList) :
    mdf.modifyBits change bits = mdf := by
  cases bits <;> simp only [Mdf.modifyBits, Mdf.modifyActionParam, Mdf.modifyEventData, same, modify_same, implies_true]

theorem modify_values_same (change : List Value → List Value) (same : ∀ old, change old = old) (values : ValueList) :
    mdf.modifyValues change values = mdf := by
  cases values with
  | bit place =>
      refine modify_bits_same mdf _ (fun old => modify_same old _ _ fun bit => ?_) place.bits
      rw [same]
  | _ => simp only [Mdf.modifyValues, Mdf.modifyActionParam, Mdf.modifyEventData, same, modify_same, implies_true]

theorem new_bit_values (bit : Bit) (values : List Value) (none : bit.listValue = []) :
    (mdf.modifyBits (fun old => old ++ [bit]) bits).modifyValues (fun old => old ++ values)
        (.bit ⟨bits, (mdf.bits bits).length⟩) =
      mdf.modifyBits (fun old => old ++ [{ bit with listValue := values }]) bits := by
  simp only [Mdf.modifyValues, Mdf.modifyBit, modify_bits_twice]
  refine modify_bits_congr mdf _ _ bits ?_
  simp only [modify_end, none, List.nil_append]

end places

theorem handled_append (parser next : Parser) (nodes later : List Node) (before : handled parser nodes = some next) :
    handled parser (nodes ++ later) = handled next later := by
  simp only [handled, SaxHandler.handleAll, List.foldlM_append] at before ⊢
  rw [before]
  rfl

theorem handled_cons (parser next : Parser) (node : Node) (later : List Node)
    (first : SaxHandler.handle startSetupMDFParser handleMDFParserData endSetupMDFParser parser node = some next) :
    handled parser (node :: later) = handled next later := by
  simp only [handled, SaxHandler.handleAll, List.foldlM_cons, first]
  rfl

theorem start_in_module (parser next : Parser) (name : Text) (attributes : Attributes) (inside : InModule parser.toGlobals)
    (started : startRecord (entered parser name attributes) attributes (opened (entered parser name attributes).toGlobals) =
      some next) : startSetupMDFParser parser name attributes = some { next with depth := next.depth + 1 } := by
  have valid : invalidStructure (entered parser name attributes).toGlobals = false :=
    in_module_valid _ (in_module_push parser.toGlobals (lowerTrim name) inside)
  simp only [startSetupMDFParser, valid, Bool.false_eq_true, if_false, started, Option.map_some]

def quietTags : List Text :=
  ["item".toList, "valuelist".toList, "bit".toList, "param".toList, "data".toList, "start".toList, "level".toList,
    "rowcnt".toList, "rowsize".toList]

structure Quiet (parser next : Parser) (tag : Text) : Prop where
  stays : Stays parser.toGlobals next.toGlobals
  mdf : next.mdf = parser.mdf
  bit : tag ≠ "bit".toList → next.bit = parser.bit

variable (place : ValueList) (values : List ValueDescription) (parser : Parser) (tag : Text)

theorem closed_quiet (quiet : tag ∈ quietTags) : Quiet parser (closed parser tag) tag := by
  simp only [quietTags, List.mem_cons, List.not_mem_nil, or_false] at quiet
  have self : Quiet parser parser tag := ⟨⟨rfl, rfl, rfl⟩, rfl, fun _ => rfl⟩
  have noValue : Quiet parser { parser with value := none } tag := ⟨⟨rfl, rfl, rfl⟩, rfl, fun _ => rfl⟩
  have noItem : Quiet parser { parser with item := none } tag := ⟨⟨rfl, rfl, rfl⟩, rfl, fun _ => rfl⟩
  have record : closedRecord parser tag = parser := by
    rcases quiet with rfl | rfl | rfl | rfl | rfl | rfl | rfl | rfl | rfl <;> rfl
  have inSection : Quiet parser (closedInSection parser tag) tag := by
    rcases quiet with rfl | rfl | rfl | rfl | rfl | rfl | rfl | rfl | rfl
    case inr.inr.inl =>
      by_cases alarm : parser.token 1 = "alarm".toList
      · have closes : closedInSection parser "bit".toList = { parser with bit := none } := if_pos ⟨rfl, alarm⟩
        rw [closes]
        exact ⟨⟨rfl, rfl, rfl⟩, rfl, fun other => absurd rfl other⟩
      · have closes : closedInSection parser "bit".toList = parser := if_neg fun both => alarm both.2
        rw [closes]
        exact self
    all_goals exact self
  have inRecord : Quiet parser (closedInRecord parser tag) tag := by
    unfold closedInRecord
    split_ifs with bit
    · exact ⟨⟨rfl, rfl, rfl⟩, rfl, fun other => absurd bit.1 other⟩
    · exact self
  have inPart : Quiet parser (closedInPart parser tag) tag := by
    unfold closedInPart
    split_ifs
    · exact noValue
    · exact self
  have inValueList : Quiet parser (closedInValueList parser tag) tag := by
    unfold closedInValueList
    split_ifs
    · exact noItem
    · exact noValue
    · exact self
  have inBitList : Quiet parser (closedInBitList parser tag) tag := by
    unfold closedInBitList
    split_ifs
    · exact noValue
    · exact noValue
    · exact self
  unfold closed
  rw [record]
  split_ifs <;> assumption

theorem stop_run (lower : lowerTrim tag = tag) :
    ∃ next, endSetupMDFParser parser tag = some next ∧ next.tokenList = parser.tokenList.tail ∧
      next.depth = parser.depth - 1 ∧ (tag ∉ contactNames → next.mdf = parser.mdf) ∧
        (tag ∈ quietTags → next.owners = parser.owners ∧ (tag ≠ "bit".toList → next.bit = parser.bit)) := by
  refine ⟨_, rfl, ?_⟩
  rw [lower]
  exact ⟨congrArg List.tail (closed_framed parser tag).tokens,
    congrArg (fun depth => depth - 1) (closed_framed parser tag).depth, (closed_forgets parser tag).mdf,
    fun quiet => ⟨(closed_quiet parser tag quiet).stays.owners, (closed_quiet parser tag quiet).bit⟩⟩

theorem Framed.trans {first second third : Parser} (before : Framed first second) (after : Framed second third) :
    Framed first third :=
  ⟨after.tokens.trans before.tokens, after.depth.trans before.depth⟩

theorem handled_element (parser middle next : Parser) (tag : Text) (attributes : Attributes) (children : List Node)
    (run : handled parser (.start tag attributes :: children) = some middle)
    (stops : endSetupMDFParser middle tag = some next) : handled parser (element tag attributes children) = some next :=
  (handled_append parser middle (.start tag attributes :: children) [.stop tag] run).trans
    (handled_cons middle next (.stop tag) [] stops)

-- What the start tag, the run below it and the stop tag leave together.
theorem record_run (parser started middle : Parser) (tag : Text) (attributes : Attributes) (children : List Node)
    (lower : lowerTrim tag = tag) (noContact : tag ∉ contactNames) (inside : InModule parser.toGlobals)
    (starts : startRecord (entered parser tag attributes) attributes (opened (entered parser tag attributes).toGlobals) =
      some started)
    (tokens : started.tokenList = lowerTrim tag :: parser.tokenList) (depth : started.depth = parser.depth)
    (run : handled { started with depth := started.depth + 1 } children = some middle)
    (framed : Framed { started with depth := started.depth + 1 } middle) :
    ∃ next, handled parser (element tag attributes children) = some next ∧ Framed parser next ∧ next.mdf = middle.mdf ∧
      (tag ∈ quietTags → next.owners = middle.owners ∧ (tag ≠ "bit".toList → next.bit = middle.bit)) := by
  have first := handled_cons parser _ (.start tag attributes) children
    (start_in_module parser started tag attributes inside starts)
  obtain ⟨next, stops, nextTokens, nextDepth, mdf, quiet⟩ := stop_run middle tag lower
  refine ⟨next, handled_element parser middle next _ _ _ (first.trans run) stops, ⟨?_, ?_⟩, mdf noContact, quiet⟩
  · rw [nextTokens, framed.tokens]
    exact congrArg List.tail tokens
  · rw [nextDepth, framed.depth, ← depth]
    exact add_sub_cancel_right started.depth 1

def ValueDescription.fromXml (value : ValueDescription) : Value :=
  setAttributes valueNames setValue lowerTrim (given value.attributes) {}

theorem value_run (value : ValueDescription) (values : ValueList) (parser : Parser) (inside : InModule parser.toGlobals)
    (opens : opened (entered parser "item".toList (given value.attributes)).toGlobals = .value values) :
    ∃ next, handled parser value.nodes = some next ∧ Stays parser.toGlobals next.toGlobals ∧ next.bit = parser.bit ∧
      next.mdf = parser.mdf.modifyValues (fun old => old ++ [value.fromXml]) values := by
  obtain ⟨next, run, framed, mdf, quiet⟩ := record_run parser
    { (entered parser "item".toList (given value.attributes)) with
      value := some ⟨values, (parser.mdf.values values).length⟩
      mdf := parser.mdf.modifyValues (fun old => getValueAttributes old (given value.attributes)) values }
    _ "item".toList (given value.attributes) [] (by decide) (by decide) inside (by rw [opens]; rfl) rfl rfl rfl ⟨rfl, rfl⟩
  exact ⟨next, run, ⟨framed.tokens, framed.depth, (quiet (by decide)).1⟩, (quiet (by decide)).2 (by decide), mdf⟩

structure Beneath (parser globals : Globals) (tags : List Text) : Prop where
  tokens : globals.tokenList = tags ++ parser.tokenList
  depth : globals.depth + 1 = parser.depth + tags.length
  owners : globals.owners = parser.owners

theorem beneath_stays (parser next globals : Globals) (tags : List Text) (stays : Stays parser next)
    (beneath : Beneath next globals tags) : Beneath parser globals tags :=
  ⟨beneath.tokens.trans (by rw [stays.tokens]), beneath.depth.trans (by rw [stays.depth]),
    beneath.owners.trans stays.owners⟩

theorem beneath_at (parser globals : Globals) (tags base : List Text) (above level : Int)
    (beneath : Beneath parser globals tags) (tokens : parser.tokenList = base) (depth : parser.depth = above)
    (counted : level + 1 = above + tags.length) : globals.tokenList = tags ++ base ∧ globals.depth = level := by
  have counts := beneath.depth
  rw [depth, ← counted] at counts
  exact ⟨tokens ▸ beneath.tokens, add_right_cancel counts⟩

theorem in_module_stays (parser next : Globals) (stays : Stays parser next) (inside : InModule parser) : InModule next :=
  in_module_tokens parser next stays.tokens inside

theorem values_run (inside : InModule parser.toGlobals)
    (opens : ∀ globals : Globals, Beneath parser.toGlobals globals ["item".toList] → globals.bit = parser.bit →
      opened globals = .value place) :
    ∃ next, handled parser (values.flatMap ValueDescription.nodes) = some next ∧
      Stays parser.toGlobals next.toGlobals ∧ next.bit = parser.bit ∧
      next.mdf = parser.mdf.modifyValues (fun old => old ++ values.map ValueDescription.fromXml) place := by
  induction values generalizing parser with
  | nil => exact ⟨parser, rfl, ⟨rfl, rfl, rfl⟩, rfl, (modify_values_same parser.mdf _ List.append_nil place).symm⟩
  | cons value values ih =>
      obtain ⟨middle, first, stays, bit, mdf⟩ := value_run value place parser inside (opens _ ⟨rfl, rfl, rfl⟩ rfl)
      obtain ⟨next, later, moreStays, moreBit, moreMdf⟩ := ih middle (in_module_stays _ _ stays inside)
        (fun globals beneath same => opens globals (beneath_stays _ _ _ _ stays beneath) (same.trans bit))
      refine ⟨next, ?_, stays.trans moreStays, moreBit.trans bit, ?_⟩
      · exact (handled_append parser middle _ _ first).trans later
      · rw [moreMdf, mdf, modify_values_twice]
        simp only [List.append_assoc, List.map_cons, List.singleton_append]

theorem value_list_opens_nothing (globals : Globals) (rest : List Text)
    (tokens : globals.tokenList = "valuelist".toList :: rest) : opened globals = .nothing := by
  cases globals with
  | mk lastLanguage tokenList =>
      cases tokens
      unfold opened
      split_ifs <;> rfl

theorem value_list_run (inside : InModule parser.toGlobals)
    (opens : ∀ globals : Globals, Beneath parser.toGlobals globals ["item".toList, "valuelist".toList] →
      globals.bit = parser.bit → opened globals = .value place) :
    ∃ next, handled parser (valueListNodes values) = some next ∧
      Stays parser.toGlobals next.toGlobals ∧ next.bit = parser.bit ∧
      next.mdf = parser.mdf.modifyValues (fun old => old ++ values.map ValueDescription.fromXml) place := by
  obtain ⟨middle, run, stays, bit, mdf⟩ := values_run place values
    { (entered parser "valuelist".toList []) with depth := parser.depth + 1 }
    (in_module_push parser.toGlobals "valuelist".toList inside)
    (fun globals beneath same => opens globals ⟨beneath.tokens, by
      rw [beneath.depth]
      exact add_assoc parser.depth 1 1, beneath.owners⟩ same)
  obtain ⟨next, whole, framed, sameMdf, quiet⟩ := record_run parser (entered parser "valuelist".toList []) middle _ [] _
    (by decide) (by decide) inside (by rw [value_list_opens_nothing _ parser.tokenList rfl]; rfl) rfl rfl run
    ⟨stays.tokens, stays.depth⟩
  obtain ⟨owners, sameBit⟩ := quiet (by decide)
  exact ⟨next, whole, ⟨framed.tokens, framed.depth, owners.trans stays.owners⟩, (sameBit (by decide)).trans bit,
    sameMdf.trans mdf⟩

def BitDescription.fromXml (bit : BitDescription) : Bit :=
  { setAttributes bitNames setBit lowerTrim (given bit.attributes) {} with
    listValue := bit.values.map ValueDescription.fromXml }

theorem set_bit_values (member : BitMember) (text : Text) (bit : Bit) : (setBit member text bit).listValue = bit.listValue := by
  cases member <;> rfl

theorem set_attributes_keeps {Member Record Part : Type} (names : List (Text × Member))
    (set : Member → Text → Record → Record) (clean : Text → Text) (part : Record → Part)
    (keeps : ∀ member text record, part (set member text record) = part record) (attributes : Attributes)
    (record : Record) : part (setAttributes names set clean attributes record) = part record := by
  induction attributes generalizing record with
  | nil => rfl
  | cons entry attributes ih =>
      refine (ih _).trans ?_
      unfold setAttribute
      cases memberOf names entry.1 with
      | none => rfl
      | some member => exact keeps member (clean entry.2) record

structure BitsOpen (parser : Globals) (bits : BitList) : Prop where
  bit : ∀ globals : Globals, Beneath parser globals ["bit".toList] → opened globals = .bit bits
  item : ∀ (globals : Globals) (index : Nat),
    Beneath parser globals ["item".toList, "valuelist".toList, "bit".toList] → globals.bit = some ⟨bits, index⟩ →
      opened globals = .value (.bit ⟨bits, index⟩)

def ValuesOpen (parser : Globals) (values : ValueList) : Prop :=
  ∀ globals : Globals, Beneath parser globals ["item".toList, "valuelist".toList] → opened globals = .value values

theorem bits_open_stays (parser next : Globals) (bits : BitList) (stays : Stays parser next) (here : BitsOpen parser bits) :
    BitsOpen next bits :=
  ⟨fun globals beneath => here.bit globals (beneath_stays _ _ _ _ stays beneath),
    fun globals index beneath => here.item globals index (beneath_stays _ _ _ _ stays beneath)⟩

theorem bit_run (bits : BitList) (bit : BitDescription) (parser : Parser) (inside : InModule parser.toGlobals)
    (here : BitsOpen parser.toGlobals bits) :
    ∃ next, handled parser bit.nodes = some next ∧ Stays parser.toGlobals next.toGlobals ∧
      next.mdf = parser.mdf.modifyBits (fun old => old ++ [bit.fromXml]) bits := by
  have opens := here.bit (entered parser "bit".toList (given bit.attributes)).toGlobals ⟨rfl, rfl, rfl⟩
  obtain ⟨middle, run, stays, _, mdf⟩ := value_list_run (.bit ⟨bits, (parser.mdf.bits bits).length⟩) bit.values
    { (entered parser "bit".toList (given bit.attributes)) with
      bit := some ⟨bits, (parser.mdf.bits bits).length⟩
      mdf := parser.mdf.modifyBits (fun old => getBitAttributes old (given bit.attributes)) bits
      depth := parser.depth + 1 }
    (in_module_push parser.toGlobals "bit".toList inside)
    (fun globals beneath same => here.item globals _ ⟨beneath.tokens, by
      rw [beneath.depth]
      exact add_assoc parser.depth 1 2, beneath.owners⟩ same)
  obtain ⟨next, whole, framed, sameMdf, quiet⟩ := record_run parser
    { (entered parser "bit".toList (given bit.attributes)) with
      bit := some ⟨bits, (parser.mdf.bits bits).length⟩
      mdf := parser.mdf.modifyBits (fun old => getBitAttributes old (given bit.attributes)) bits }
    middle "bit".toList (given bit.attributes) _ (by decide) (by decide) inside (by rw [opens]; rfl) rfl rfl run
    ⟨stays.tokens, stays.depth⟩
  refine ⟨next, whole, ⟨framed.tokens, framed.depth, (quiet (by decide)).1.trans stays.owners⟩, ?_⟩
  rw [sameMdf, mdf]
  refine new_bit_values parser.mdf bits _ _ ?_
  exact set_attributes_keeps bitNames setBit lowerTrim Bit.listValue set_bit_values _ {}

theorem bits_run (place : BitList) (bits : List BitDescription) (parser : Parser) (inside : InModule parser.toGlobals)
    (here : BitsOpen parser.toGlobals place) :
    ∃ next, handled parser (bits.flatMap BitDescription.nodes) = some next ∧
      Stays parser.toGlobals next.toGlobals ∧
      next.mdf = parser.mdf.modifyBits (fun old => old ++ bits.map BitDescription.fromXml) place := by
  induction bits generalizing parser with
  | nil => exact ⟨parser, rfl, ⟨rfl, rfl, rfl⟩, (modify_bits_same parser.mdf _ List.append_nil place).symm⟩
  | cons bit bits ih =>
      obtain ⟨middle, first, stays, mdf⟩ := bit_run place bit parser inside here
      obtain ⟨next, later, moreStays, moreMdf⟩ := ih middle (in_module_stays _ _ stays inside)
        (bits_open_stays _ _ _ stays here)
      refine ⟨next, (handled_append parser middle _ _ first).trans later, stays.trans moreStays, ?_⟩
      rw [moreMdf, mdf, modify_bits_twice]
      simp only [List.append_assoc, List.map_cons, List.singleton_append]

theorem parts_run (place : BitList) (values : ValueList) (bits : List BitDescription) (items : List ValueDescription)
    (parser : Parser) (inside : InModule parser.toGlobals) (bitsHere : BitsOpen parser.toGlobals place)
    (valuesHere : ValuesOpen parser.toGlobals values) :
    ∃ next, handled parser (bits.flatMap BitDescription.nodes ++ valueListNodes items) = some next ∧
      Stays parser.toGlobals next.toGlobals ∧
      next.mdf = (parser.mdf.modifyBits (fun old => old ++ bits.map BitDescription.fromXml) place).modifyValues
        (fun old => old ++ items.map ValueDescription.fromXml) values := by
  obtain ⟨middle, first, stays, mdf⟩ := bits_run place bits parser inside bitsHere
  obtain ⟨next, later, moreStays, _, moreMdf⟩ := value_list_run values items middle (in_module_stays _ _ stays inside)
    (fun globals beneath _ => valuesHere globals (beneath_stays _ _ _ _ stays beneath))
  refine ⟨next, (handled_append parser middle _ _ first).trans later, stays.trans moreStays, ?_⟩
  rw [moreMdf, mdf]

theorem elements_run {Item : Type} (nodesOf : Item → List Node) (add : Mdf → Item → Mdf)
    (Keeps : Parser → Parser → Prop) (keepsSelf : ∀ parser, Keeps parser parser)
    (keepsTrans : ∀ first second third, Keeps first second → Keeps second third → Keeps first third)
    (Here : Parser → Prop) (stays : ∀ parser next, Keeps parser next → Here parser → Here next)
    (one : ∀ parser item, Here parser → ∃ next, handled parser (nodesOf item) = some next ∧ Keeps parser next ∧
      next.mdf = add parser.mdf item)
    (items : List Item) (parser : Parser) (here : Here parser) :
    ∃ next, handled parser (items.flatMap nodesOf) = some next ∧ Keeps parser next ∧
      next.mdf = items.foldl add parser.mdf := by
  induction items generalizing parser with
  | nil => exact ⟨parser, rfl, keepsSelf parser, rfl⟩
  | cons item items ih =>
      obtain ⟨middle, first, keeps, mdf⟩ := one parser item here
      obtain ⟨next, later, moreKeeps, moreMdf⟩ := ih middle (stays parser middle keeps here)
      refine ⟨next, (handled_append parser middle _ _ first).trans later, keepsTrans _ _ _ keeps moreKeeps, ?_⟩
      rw [moreMdf, mdf]
      rfl

structure InSection (parser : Parser) (section_ : Text) : Prop where
  tokens : parser.tokenList = [section_, "module".toList, "vscp".toList]
  depth : parser.depth = 3

variable (section_ : Text)

theorem in_section_module (here : InSection parser section_) :
    InModule parser.toGlobals := by
  rw [InModule, Globals.token, here.tokens]
  exact ⟨Nat.le_add_left 2 1, rfl, rfl⟩

theorem in_section_framed (parser next : Parser) (framed : Framed parser next)
    (here : InSection parser section_) : InSection next section_ :=
  ⟨framed.tokens.trans here.tokens, framed.depth.trans here.depth⟩

theorem parted_run (parser started : Parser) (tag : Text) (attributes : Attributes) (place : BitList)
    (values : ValueList) (bits : List BitDescription) (items : List ValueDescription) (lower : lowerTrim tag = tag)
    (noContact : tag ∉ contactNames) (inside : InModule parser.toGlobals)
    (starts : startRecord (entered parser tag attributes) attributes (opened (entered parser tag attributes).toGlobals) =
      some started)
    (tokens : started.tokenList = lowerTrim tag :: parser.tokenList) (depth : started.depth = parser.depth)
    (here : BitsOpen { started with depth := started.depth + 1 }.toGlobals place ∧
      ValuesOpen { started with depth := started.depth + 1 }.toGlobals values) :
    ∃ next, handled parser (element tag attributes (bits.flatMap BitDescription.nodes ++ valueListNodes items)) =
        some next ∧ Framed parser next ∧ (tag ∈ quietTags → next.owners = started.owners) ∧
      next.mdf = (started.mdf.modifyBits (fun old => old ++ bits.map BitDescription.fromXml) place).modifyValues
        (fun old => old ++ items.map ValueDescription.fromXml) values := by
  have below : InModule { started with depth := started.depth + 1 }.toGlobals :=
    in_module_tokens _ _ tokens (in_module_push parser.toGlobals (lowerTrim tag) inside)
  obtain ⟨middle, run, stays, mdf⟩ := parts_run place values bits items
    { started with depth := started.depth + 1 } below here.1 here.2
  obtain ⟨next, whole, framed, sameMdf, quiet⟩ := record_run parser started middle tag attributes _ lower noContact inside
    starts tokens depth run ⟨stays.tokens, stays.depth⟩
  exact ⟨next, whole, framed, fun isQuiet => (quiet isQuiet).1.trans stays.owners, sameMdf.trans mdf⟩

-- Where the parts of a record go is read off the open tags, the depth and the owners.
theorem parts_open (parser : Globals) (bits : BitList) (values : ValueList) (base : List Text) (level : Int)
    (tokens : parser.tokenList = base) (depth : parser.depth = level)
    (bit : ∀ globals : Globals, globals.tokenList = "bit".toList :: base → globals.depth = level →
      globals.owners = parser.owners → opened globals = .bit bits)
    (item : ∀ (globals : Globals) (index : Nat),
      globals.tokenList = "item".toList :: "valuelist".toList :: "bit".toList :: base → globals.depth = level + 2 →
      globals.owners = parser.owners → globals.bit = some ⟨bits, index⟩ → opened globals = .value (.bit ⟨bits, index⟩))
    (value : ∀ globals : Globals, globals.tokenList = "item".toList :: "valuelist".toList :: base →
      globals.depth = level + 1 → globals.owners = parser.owners → opened globals = .value values) :
    BitsOpen parser bits ∧ ValuesOpen parser values := by
  refine ⟨⟨fun globals beneath => ?_, fun globals index beneath => ?_⟩, fun globals beneath => ?_⟩
  · obtain ⟨list, at'⟩ := beneath_at parser globals _ _ level level beneath tokens depth rfl
    exact bit globals list at' beneath.owners
  · obtain ⟨list, at'⟩ := beneath_at parser globals _ _ level (level + 2) beneath tokens depth (add_assoc level 2 1)
    exact item globals index list at' beneath.owners
  · obtain ⟨list, at'⟩ := beneath_at parser globals _ _ level (level + 1) beneath tokens depth (add_assoc level 1 1)
    exact value globals list at' beneath.owners

section registers

def RegisterDescription.fromXml (reg : RegisterDescription) : Register :=
  { setAttributes registerNames setRegister lowerTrim (given reg.attributes) {} with
    listBit := reg.bits.map BitDescription.fromXml
    listValue := reg.values.map ValueDescription.fromXml }

variable (member : RegisterMember) (text : Text) (reg : Register)

theorem set_register_bits :
    (setRegister member text reg).listBit = reg.listBit := by
  cases member <;> rfl

theorem set_register_values :
    (setRegister member text reg).listValue = reg.listValue := by
  cases member <;> rfl

theorem copies_with_parts (bits : List Bit) (values : List Value) (noBits : reg.listBit = [])
    (noValues : reg.listValue = []) :
    ∃ first later, reg.copies = first :: later ∧ first.listBit = [] ∧ first.listValue = [] ∧
      { reg with listBit := bits, listValue := values }.copies =
        { first with listBit := bits, listValue := values } :: later := by
  obtain ⟨described, page, offset, span, width, type, min, max, strDefault, access, listBit, listValue, fgcolor,
    bgcolor, fgeven, fgodd, bgeven, bgodd⟩ := reg
  cases noBits
  cases noValues
  cases type <;> exact ⟨_, _, rfl, rfl, rfl, rfl⟩

theorem register_bits_open (parser : Globals) (index : Nat)
    (tokens : parser.tokenList = ["reg".toList, "registers".toList, "module".toList, "vscp".toList])
    (depth : parser.depth = 4) (register : parser.register = some index) :
    BitsOpen parser (.register index) ∧ ValuesOpen parser (.register index) := by
  refine parts_open parser _ _ _ 4 tokens depth (fun globals list level owners => ?_)
    (fun globals place list level owners bit => ?_) fun globals list level owners => ?_
  all_goals
    have own : globals.register = some index := (congrArg Owners.register owners).trans register
    simp only [opened, openedInRecord, openedInValueList, openedInPart, Globals.token, *]
    rfl

theorem register_run (reg : RegisterDescription) (parser : Parser) (here : InSection parser "registers".toList) :
    ∃ next, handled parser reg.nodes = some next ∧ Framed parser next ∧
      next.mdf = { parser.mdf with listRegister := parser.mdf.listRegister ++ reg.fromXml.copies } := by
  have opens : opened (entered parser "reg".toList (given reg.attributes)).toGlobals = .register := by
    simp only [opened, openedInSection, Globals.token, entered, here.tokens, here.depth]
    rfl
  have tokens : (entered parser "reg".toList (given reg.attributes)).tokenList =
      ["reg".toList, "registers".toList, "module".toList, "vscp".toList] := congrArg (List.cons "reg".toList) here.tokens
  have starts : startRecord (entered parser "reg".toList (given reg.attributes)) (given reg.attributes)
      (opened (entered parser "reg".toList (given reg.attributes)).toGlobals) =
        some { (entered parser "reg".toList (given reg.attributes)) with
          register := some parser.mdf.listRegister.length
          mdf.listRegister := parser.mdf.listRegister ++
            (setAttributes registerNames setRegister lowerTrim (given reg.attributes) {}).copies } := by
    rw [opens]
    rfl
  obtain ⟨next, run, framed, _, mdf⟩ := parted_run parser _ "reg".toList (given reg.attributes)
    (.register parser.mdf.listRegister.length) (.register parser.mdf.listRegister.length) reg.bits reg.values
    (by decide) (by decide) (in_section_module parser _ here) starts rfl rfl
    (register_bits_open _ parser.mdf.listRegister.length tokens (congrArg (fun depth => depth + 1) here.depth) rfl)
  refine ⟨next, run, framed, ?_⟩
  rw [mdf]
  obtain ⟨first, later, rows, noBits, noValues, parts⟩ := copies_with_parts
    (setAttributes registerNames setRegister lowerTrim (given reg.attributes) {})
    (reg.bits.map BitDescription.fromXml) (reg.values.map ValueDescription.fromXml)
    (set_attributes_keeps registerNames setRegister lowerTrim Register.listBit set_register_bits _ {})
    (set_attributes_keeps registerNames setRegister lowerTrim Register.listValue set_register_values _ {})
  simp only [Mdf.modifyBits, Mdf.modifyValues, rows, modify_end, noBits, noValues, List.nil_append,
    RegisterDescription.fromXml, parts]
  rfl

end registers

section remotes

def RemoteDescription.fromXml (rvar : RemoteDescription) : RemoteVariable :=
  { setAttributes remoteNames setRemote lowerTrim (given rvar.attributes) {} with
    listBit := rvar.bits.map BitDescription.fromXml
    listValue := rvar.values.map ValueDescription.fromXml }

theorem set_remote_bits (member : RemoteMember) (text : Text) (rvar : RemoteVariable) :
    (setRemote member text rvar).listBit = rvar.listBit := by
  cases member <;> rfl

theorem set_remote_values (member : RemoteMember) (text : Text) (rvar : RemoteVariable) :
    (setRemote member text rvar).listValue = rvar.listValue := by
  cases member <;> rfl

theorem remote_bits_open (parser : Globals) (index : Nat)
    (tokens : parser.tokenList = ["remotevar".toList, "remotevars".toList, "module".toList, "vscp".toList])
    (depth : parser.depth = 4) (rvar : parser.rvar = some index) :
    BitsOpen parser (.remotevar index) ∧ ValuesOpen parser (.remotevar index) := by
  refine parts_open parser _ _ _ 4 tokens depth (fun globals list level owners => ?_)
    (fun globals place list level owners bit => ?_) fun globals list level owners => ?_
  all_goals
    have own : globals.rvar = some index := (congrArg Owners.rvar owners).trans rvar
    simp only [opened, openedInRecord, openedInValueList, openedInPart, Globals.token, *]
    rfl

theorem remote_run (rvar : RemoteDescription) (parser : Parser) (here : InSection parser "remotevars".toList) :
    ∃ next, handled parser rvar.nodes = some next ∧ Framed parser next ∧
      next.mdf = { parser.mdf with listRemotevar := parser.mdf.listRemotevar ++ [rvar.fromXml] } := by
  have opens : opened (entered parser "remotevar".toList (given rvar.attributes)).toGlobals = .remotevar := by
    simp only [opened, openedInSection, Globals.token, entered, here.tokens, here.depth]
    rfl
  have tokens : (entered parser "remotevar".toList (given rvar.attributes)).tokenList =
      ["remotevar".toList, "remotevars".toList, "module".toList, "vscp".toList] :=
    congrArg (List.cons "remotevar".toList) here.tokens
  have starts : startRecord (entered parser "remotevar".toList (given rvar.attributes)) (given rvar.attributes)
      (opened (entered parser "remotevar".toList (given rvar.attributes)).toGlobals) =
        some { (entered parser "remotevar".toList (given rvar.attributes)) with
          rvar := some parser.mdf.listRemotevar.length
          mdf.listRemotevar := parser.mdf.listRemotevar ++
            [setAttributes remoteNames setRemote lowerTrim (given rvar.attributes) {}] } := by
    rw [opens]
    rfl
  obtain ⟨next, run, framed, _, mdf⟩ := parted_run parser _ "remotevar".toList (given rvar.attributes)
    (.remotevar parser.mdf.listRemotevar.length) (.remotevar parser.mdf.listRemotevar.length) rvar.bits rvar.values
    (by decide) (by decide) (in_section_module parser _ here) starts rfl rfl
    (remote_bits_open _ parser.mdf.listRemotevar.length tokens (congrArg (fun depth => depth + 1) here.depth) rfl)
  refine ⟨next, run, framed, ?_⟩
  rw [mdf]
  have noBits := set_attributes_keeps remoteNames setRemote lowerTrim RemoteVariable.listBit set_remote_bits
    (given rvar.attributes) {}
  have noValues := set_attributes_keeps remoteNames setRemote lowerTrim RemoteVariable.listValue set_remote_values
    (given rvar.attributes) {}
  simp only [Mdf.modifyBits, Mdf.modifyValues, modify_end, noBits, noValues, List.nil_append]
  rfl

end remotes

section actions

def ParameterDescription.fromXml (param : ParameterDescription) : ActionParameter :=
  { setAttributes parameterNames setParameter lowerTrim (given param.attributes) {} with
    listBit := param.bits.map BitDescription.fromXml
    listValue := param.values.map ValueDescription.fromXml }

def ActionDescription.fromXml (action : ActionDescription) : Action :=
  { setAttributes actionNames setAction lowerTrim (given action.attributes) {} with
    listActionParameter := action.params.map ParameterDescription.fromXml }

theorem set_parameter_bits (member : ParameterMember) (text : Text) (param : ActionParameter) :
    (setParameter member text param).listBit = param.listBit := by
  cases member <;> rfl

theorem set_parameter_values (member : ParameterMember) (text : Text) (param : ActionParameter) :
    (setParameter member text param).listValue = param.listValue := by
  cases member <;> rfl

theorem set_action_params (member : ActionMember) (text : Text) (action : Action) :
    (setAction member text action).listActionParameter = action.listActionParameter := by
  cases member <;> rfl

structure InAction (parser : Parser) (action : Nat) : Prop where
  tokens : parser.tokenList = ["action".toList, "dmatrix".toList, "module".toList, "vscp".toList]
  depth : parser.depth = 4
  action : parser.action = some action

structure KeepsAction (parser next : Parser) : Prop where
  framed : Framed parser next
  action : next.action = parser.action

theorem parameter_bits_open (parser : Globals) (action param : Nat)
    (tokens : parser.tokenList = ["param".toList, "action".toList, "dmatrix".toList, "module".toList, "vscp".toList])
    (depth : parser.depth = 5) (inAction : parser.action = some action)
    (inParam : parser.actionParam = some (action, param)) :
    BitsOpen parser (.actionParam action param) ∧ ValuesOpen parser (.actionParam action param) := by
  refine parts_open parser _ _ _ 5 tokens depth (fun globals list level owners => ?_)
    (fun globals place list level owners bit => ?_) fun globals list level owners => ?_
  all_goals
    have first : globals.action = some action := (congrArg Owners.action owners).trans inAction
    have second : globals.actionParam = some (action, param) := (congrArg Owners.actionParam owners).trans inParam
    simp only [opened, openedInPart, openedInBitList, openedInValueList, Globals.token, *]
    rfl

def Mdf.addParameter (mdf : Mdf) (action : Nat) (param : ActionParameter) : Mdf :=
  { mdf with dmInfo.listAction := mdf.dmInfo.listAction.modify action fun owner =>
      { owner with listActionParameter := owner.listActionParameter ++ [param] } }

theorem new_parameter_parts (mdf : Mdf) (action : Nat) (param : ActionParameter) (bits : List Bit)
    (values : List Value) (noBits : param.listBit = []) (noValues : param.listValue = []) :
    ((mdf.addParameter action param).modifyBits (fun old => old ++ bits)
        (.actionParam action (mdf.dmInfo.listAction.getD action {}).listActionParameter.length)).modifyValues
        (fun old => old ++ values)
        (.actionParam action (mdf.dmInfo.listAction.getD action {}).listActionParameter.length) =
      mdf.addParameter action { param with listBit := bits, listValue := values } := by
  simp only [Mdf.addParameter, Mdf.modifyBits, Mdf.modifyValues, Mdf.modifyActionParam, List.modify_modify_eq]
  refine congrArg (fun listAction => { mdf with dmInfo.listAction := listAction }) (modify_congr _ _ _ _ ?_)
  intro owner found
  simp only [Function.comp_apply, List.getD_eq_getElem?_getD, found, Option.getD_some, modify_end, noBits, noValues,
    List.nil_append]

theorem parameter_run (action : Nat) (param : ParameterDescription) (parser : Parser) (here : InAction parser action) :
    ∃ next, handled parser param.nodes = some next ∧ KeepsAction parser next ∧
      next.mdf = parser.mdf.addParameter action param.fromXml := by
  have inside : InModule parser.toGlobals := by
    rw [InModule, Globals.token, here.tokens]
    exact ⟨Nat.le_add_left 2 2, rfl, rfl⟩
  have inAction : (entered parser "param".toList (given param.attributes)).action = some action := here.action
  have opens : opened (entered parser "param".toList (given param.attributes)).toGlobals = .actionParam action := by
    simp only [opened, openedInRecord, Globals.token, inAction]
    simp only [entered, here.tokens, here.depth]
    rfl
  have tokens : (entered parser "param".toList (given param.attributes)).tokenList =
      ["param".toList, "action".toList, "dmatrix".toList, "module".toList, "vscp".toList] :=
    congrArg (List.cons "param".toList) here.tokens
  have starts : startRecord (entered parser "param".toList (given param.attributes)) (given param.attributes)
      (opened (entered parser "param".toList (given param.attributes)).toGlobals) =
        some { (entered parser "param".toList (given param.attributes)) with
          actionParam := some (action, (parser.mdf.dmInfo.listAction.getD action {}).listActionParameter.length)
          mdf := parser.mdf.addParameter action
            (setAttributes parameterNames setParameter lowerTrim (given param.attributes) {}) } := by
    rw [opens]
    rfl
  obtain ⟨next, run, framed, owners, mdf⟩ := parted_run parser _ "param".toList (given param.attributes)
    (.actionParam action (parser.mdf.dmInfo.listAction.getD action {}).listActionParameter.length)
    (.actionParam action (parser.mdf.dmInfo.listAction.getD action {}).listActionParameter.length)
    param.bits param.values (by decide) (by decide) inside starts rfl rfl
    (parameter_bits_open _ action _ tokens (congrArg (fun depth => depth + 1) here.depth) here.action rfl)
  refine ⟨next, run, ⟨framed, congrArg Owners.action (owners (by decide))⟩, ?_⟩
  rw [mdf]
  exact new_parameter_parts parser.mdf action _ _ _
    (set_attributes_keeps parameterNames setParameter lowerTrim ActionParameter.listBit set_parameter_bits _ {})
    (set_attributes_keeps parameterNames setParameter lowerTrim ActionParameter.listValue set_parameter_values _ {})

theorem add_parameters (action : Nat) (params : List ParameterDescription) (mdf : Mdf) :
    params.foldl (fun old param => old.addParameter action param.fromXml) mdf =
      { mdf with dmInfo.listAction := mdf.dmInfo.listAction.modify action fun owner =>
          { owner with
            listActionParameter := owner.listActionParameter ++ params.map ParameterDescription.fromXml } } := by
  induction params generalizing mdf with
  | nil =>
      have same : ∀ owner : Action,
          { owner with listActionParameter := owner.listActionParameter ++ [] } = owner := by
        intro owner
        rw [List.append_nil]
      simp only [List.foldl_nil, List.map_nil, modify_same _ _ _ same]
  | cons param params ih =>
      rw [List.foldl_cons, ih]
      simp only [Mdf.addParameter, List.modify_modify_eq, Function.comp_def, List.append_assoc, List.map_cons,
        List.singleton_append]

theorem action_run (action : ActionDescription) (parser : Parser) (here : InSection parser "dmatrix".toList) :
    ∃ next, handled parser action.nodes = some next ∧ Framed parser next ∧
      next.mdf = { parser.mdf with dmInfo.listAction := parser.mdf.dmInfo.listAction ++ [action.fromXml] } := by
  have opens : opened (entered parser "action".toList (given action.attributes)).toGlobals = .action := by
    simp only [opened, openedInSection, Globals.token, entered, here.tokens, here.depth]
    rfl
  have starts : startRecord (entered parser "action".toList (given action.attributes)) (given action.attributes)
      (opened (entered parser "action".toList (given action.attributes)).toGlobals) =
        some { (entered parser "action".toList (given action.attributes)) with
          action := some parser.mdf.dmInfo.listAction.length
          mdf.dmInfo.listAction := parser.mdf.dmInfo.listAction ++
            [setAttributes actionNames setAction lowerTrim (given action.attributes) {}] } := by
    rw [opens]
    rfl
  obtain ⟨middle, run, keeps, mdf⟩ := elements_run ParameterDescription.nodes
    (fun old param => old.addParameter parser.mdf.dmInfo.listAction.length param.fromXml) KeepsAction
    (fun _ => ⟨⟨rfl, rfl⟩, rfl⟩)
    (fun _ _ _ before after => ⟨before.framed.trans after.framed, after.action.trans before.action⟩)
    (fun parser' => InAction parser' parser.mdf.dmInfo.listAction.length)
    (fun _ _ keeps old => ⟨keeps.framed.tokens.trans old.tokens, keeps.framed.depth.trans old.depth,
      keeps.action.trans old.action⟩)
    (fun parser' param here' => parameter_run parser.mdf.dmInfo.listAction.length param parser' here')
    action.params
    { (entered parser "action".toList (given action.attributes)) with
      action := some parser.mdf.dmInfo.listAction.length
      mdf.dmInfo.listAction := parser.mdf.dmInfo.listAction ++
        [setAttributes actionNames setAction lowerTrim (given action.attributes) {}]
      depth := parser.depth + 1 }
    ⟨congrArg (List.cons "action".toList) here.tokens, congrArg (fun depth => depth + 1) here.depth, rfl⟩
  obtain ⟨next, whole, framed, nextMdf, _⟩ := record_run parser _ middle "action".toList (given action.attributes) _
    (by decide) (by decide) (in_section_module parser _ here) starts rfl rfl run keeps.framed
  refine ⟨next, whole, framed, ?_⟩
  rw [nextMdf, mdf, add_parameters]
  have noParams := set_attributes_keeps actionNames setAction lowerTrim Action.listActionParameter
    set_action_params (given action.attributes) {}
  simp only [modify_end, noParams, List.nil_append]
  rfl

end actions

section events

def DataDescription.fromXml (data : DataDescription) : EventData :=
  { setAttributes dataNames setEventData lowerTrim (given data.attributes) {} with
    listBit := data.bits.map BitDescription.fromXml
    listValue := data.values.map ValueDescription.fromXml }

def EventDescription.fromXml (event : EventDescription) : Event :=
  { setAttributes eventNames setEvent lowerTrim (given event.attributes) {} with
    listEventData := event.data.map DataDescription.fromXml }

theorem set_data_bits (member : DataMember) (text : Text) (data : EventData) :
    (setEventData member text data).listBit = data.listBit := by
  cases member <;> rfl

theorem set_data_values (member : DataMember) (text : Text) (data : EventData) :
    (setEventData member text data).listValue = data.listValue := by
  cases member <;> rfl

theorem set_event_data (member : EventMember) (text : Text) (event : Event) :
    (setEvent member text event).listEventData = event.listEventData := by
  cases member <;> rfl

structure InEvent (parser : Parser) (event : Nat) : Prop where
  tokens : parser.tokenList = ["event".toList, "events".toList, "module".toList, "vscp".toList]
  depth : parser.depth = 4
  event : parser.event = some event

structure KeepsEvent (parser next : Parser) : Prop where
  framed : Framed parser next
  event : next.event = parser.event

theorem data_bits_open (parser : Globals) (event data : Nat)
    (tokens : parser.tokenList = ["data".toList, "event".toList, "events".toList, "module".toList, "vscp".toList])
    (depth : parser.depth = 5) (inEvent : parser.event = some event) (inData : parser.eventData = some (event, data)) :
    BitsOpen parser (.eventData event data) ∧ ValuesOpen parser (.eventData event data) := by
  refine parts_open parser _ _ _ 5 tokens depth (fun globals list level owners => ?_)
    (fun globals place list level owners bit => ?_) fun globals list level owners => ?_
  all_goals
    have first : globals.event = some event := (congrArg Owners.event owners).trans inEvent
    have second : globals.eventData = some (event, data) := (congrArg Owners.eventData owners).trans inData
    simp only [opened, openedInPart, openedInBitList, openedInValueList, Globals.token, *]
    rfl

def Mdf.addData (mdf : Mdf) (event : Nat) (data : EventData) : Mdf :=
  { mdf with listEvent := mdf.listEvent.modify event fun owner =>
      { owner with listEventData := owner.listEventData ++ [data] } }

theorem new_data_parts (mdf : Mdf) (event : Nat) (data : EventData) (bits : List Bit) (values : List Value)
    (noBits : data.listBit = []) (noValues : data.listValue = []) :
    ((mdf.addData event data).modifyBits (fun old => old ++ bits)
        (.eventData event (mdf.listEvent.getD event {}).listEventData.length)).modifyValues (fun old => old ++ values)
        (.eventData event (mdf.listEvent.getD event {}).listEventData.length) =
      mdf.addData event { data with listBit := bits, listValue := values } := by
  simp only [Mdf.addData, Mdf.modifyBits, Mdf.modifyValues, Mdf.modifyEventData, List.modify_modify_eq]
  refine congrArg (fun listEvent => { mdf with listEvent := listEvent }) (modify_congr _ _ _ _ ?_)
  intro owner found
  simp only [Function.comp_apply, List.getD_eq_getElem?_getD, found, Option.getD_some, modify_end, noBits, noValues,
    List.nil_append]

theorem data_run (event : Nat) (data : DataDescription) (parser : Parser) (here : InEvent parser event) :
    ∃ next, handled parser data.nodes = some next ∧ KeepsEvent parser next ∧
      next.mdf = parser.mdf.addData event data.fromXml := by
  have inside : InModule parser.toGlobals := by
    rw [InModule, Globals.token, here.tokens]
    exact ⟨Nat.le_add_left 2 2, rfl, rfl⟩
  have opens : opened (entered parser "data".toList (given data.attributes)).toGlobals = .eventData := by
    simp only [opened, openedInRecord, Globals.token]
    simp only [entered, here.tokens, here.depth]
    rfl
  have tokens : (entered parser "data".toList (given data.attributes)).tokenList =
      ["data".toList, "event".toList, "events".toList, "module".toList, "vscp".toList] :=
    congrArg (List.cons "data".toList) here.tokens
  have starts : startRecord (entered parser "data".toList (given data.attributes)) (given data.attributes)
      (opened (entered parser "data".toList (given data.attributes)).toGlobals) =
        some { (entered parser "data".toList (given data.attributes)) with
          eventData := some (event, (parser.mdf.listEvent.getD event {}).listEventData.length)
          mdf := parser.mdf.addData event
            (setAttributes dataNames setEventData lowerTrim (given data.attributes) {}) } := by
    have own : (entered parser "data".toList (given data.attributes)).event = some event := here.event
    rw [opens]
    simp only [startRecord, own]
    rfl
  obtain ⟨next, run, framed, owners, mdf⟩ := parted_run parser _ "data".toList (given data.attributes)
    (.eventData event (parser.mdf.listEvent.getD event {}).listEventData.length)
    (.eventData event (parser.mdf.listEvent.getD event {}).listEventData.length)
    data.bits data.values (by decide) (by decide) inside starts rfl rfl
    (data_bits_open _ event _ tokens (congrArg (fun depth => depth + 1) here.depth) here.event rfl)
  refine ⟨next, run, ⟨framed, congrArg Owners.event (owners (by decide))⟩, ?_⟩
  rw [mdf]
  exact new_data_parts parser.mdf event _ _ _
    (set_attributes_keeps dataNames setEventData lowerTrim EventData.listBit set_data_bits _ {})
    (set_attributes_keeps dataNames setEventData lowerTrim EventData.listValue set_data_values _ {})

theorem add_data (event : Nat) (data : List DataDescription) (mdf : Mdf) :
    data.foldl (fun old item => old.addData event item.fromXml) mdf =
      { mdf with listEvent := mdf.listEvent.modify event fun owner =>
          { owner with listEventData := owner.listEventData ++ data.map DataDescription.fromXml } } := by
  induction data generalizing mdf with
  | nil =>
      have same : ∀ owner : Event, { owner with listEventData := owner.listEventData ++ [] } = owner := by
        intro owner
        rw [List.append_nil]
      simp only [List.foldl_nil, List.map_nil, modify_same _ _ _ same]
  | cons item data ih =>
      rw [List.foldl_cons, ih]
      simp only [Mdf.addData, List.modify_modify_eq, Function.comp_def, List.append_assoc, List.map_cons,
        List.singleton_append]

theorem event_run (event : EventDescription) (parser : Parser) (here : InSection parser "events".toList) :
    ∃ next, handled parser event.nodes = some next ∧ Framed parser next ∧
      next.mdf = { parser.mdf with listEvent := parser.mdf.listEvent ++ [event.fromXml] } := by
  have opens : opened (entered parser "event".toList (given event.attributes)).toGlobals = .event := by
    simp only [opened, openedInSection, Globals.token, entered, here.tokens, here.depth]
    rfl
  have starts : startRecord (entered parser "event".toList (given event.attributes)) (given event.attributes)
      (opened (entered parser "event".toList (given event.attributes)).toGlobals) =
        some { (entered parser "event".toList (given event.attributes)) with
          event := some parser.mdf.listEvent.length
          mdf.listEvent := parser.mdf.listEvent ++
            [setAttributes eventNames setEvent lowerTrim (given event.attributes) {}] } := by
    rw [opens]
    rfl
  obtain ⟨middle, run, keeps, mdf⟩ := elements_run DataDescription.nodes
    (fun old data => old.addData parser.mdf.listEvent.length data.fromXml) KeepsEvent
    (fun _ => ⟨⟨rfl, rfl⟩, rfl⟩)
    (fun _ _ _ before after => ⟨before.framed.trans after.framed, after.event.trans before.event⟩)
    (fun parser' => InEvent parser' parser.mdf.listEvent.length)
    (fun _ _ keeps old => ⟨keeps.framed.tokens.trans old.tokens, keeps.framed.depth.trans old.depth,
      keeps.event.trans old.event⟩)
    (fun parser' data here' => data_run parser.mdf.listEvent.length data parser' here')
    event.data
    { (entered parser "event".toList (given event.attributes)) with
      event := some parser.mdf.listEvent.length
      mdf.listEvent := parser.mdf.listEvent ++
        [setAttributes eventNames setEvent lowerTrim (given event.attributes) {}]
      depth := parser.depth + 1 }
    ⟨congrArg (List.cons "event".toList) here.tokens, congrArg (fun depth => depth + 1) here.depth, rfl⟩
  obtain ⟨next, whole, framed, nextMdf, _⟩ := record_run parser _ middle "event".toList (given event.attributes) _
    (by decide) (by decide) (in_section_module parser _ here) starts rfl rfl run keeps.framed
  refine ⟨next, whole, framed, ?_⟩
  rw [nextMdf, mdf, add_data]
  have noData := set_attributes_keeps eventNames setEvent lowerTrim Event.listEventData set_event_data
    (given event.attributes) {}
  simp only [modify_end, noData, List.nil_append]
  rfl

end events

section document

def Runs (Here : Parser → Prop) (nodes : List Node) (change : Mdf → Mdf) : Prop :=
  ∀ parser, Here parser → ∃ next, handled parser nodes = some next ∧ Framed parser next ∧ next.mdf = change parser.mdf

theorem runs_append (Here : Parser → Prop) (stays : ∀ parser next, Framed parser next → Here parser → Here next)
    (nodes later : List Node) (first second : Mdf → Mdf) (before : Runs Here nodes first)
    (after : Runs Here later second) : Runs Here (nodes ++ later) fun mdf => second (first mdf) := by
  intro parser here
  obtain ⟨middle, run, framed, mdf⟩ := before parser here
  obtain ⟨next, moreRun, moreFramed, moreMdf⟩ := after middle (stays parser middle framed here)
  refine ⟨next, (handled_append parser middle _ _ run).trans moreRun, framed.trans moreFramed, ?_⟩
  rw [moreMdf, mdf]

theorem runs_elements {Item : Type} (Here : Parser → Prop)
    (stays : ∀ parser next, Framed parser next → Here parser → Here next) (nodesOf : Item → List Node)
    (add : Mdf → Item → Mdf) (one : ∀ item, Runs Here (nodesOf item) fun mdf => add mdf item) (items : List Item) :
    Runs Here (items.flatMap nodesOf) fun mdf => items.foldl add mdf :=
  fun parser here => elements_run nodesOf add Framed (fun _ => ⟨rfl, rfl⟩) (fun _ _ _ => Framed.trans) Here stays
    (fun parser item here => one item parser here) items parser here

structure InModuleElement (parser : Parser) : Prop where
  tokens : parser.tokenList = ["module".toList, "vscp".toList]
  depth : parser.depth = 2

theorem in_module_element (parser : Parser) (here : InModuleElement parser) : InModule parser.toGlobals := by
  rw [InModule, Globals.token, here.tokens]
  exact ⟨Nat.le_refl 2, rfl, rfl⟩

theorem in_module_element_framed (parser next : Parser) (framed : Framed parser next) (here : InModuleElement parser) :
    InModuleElement next :=
  ⟨framed.tokens.trans here.tokens, framed.depth.trans here.depth⟩

-- A blank text is not looked at.
def leafChange (change : Text → Mdf → Mdf) (content : Option Text) (mdf : Mdf) : Mdf :=
  match content with
  | none => mdf
  | some text => if trim text = [] then mdf else change (trim text) mdf

theorem leaf_run (Here : Parser → Prop) (tag : Text) (place : TextPlace) (change : Text → Mdf → Mdf)
    (content : Option Text) (lower : lowerTrim tag = tag) (noContact : tag ∉ contactNames)
    (module_ : ∀ parser, Here parser → InModule parser.toGlobals)
    (opens : ∀ parser, Here parser → opened (entered parser tag []).toGlobals = .nothing)
    (placed : ∀ parser, Here parser →
      textPlace { (entered parser tag []) with depth := parser.depth + 1 }.toGlobals = place)
    (stores : ∀ parser text, storeText parser text place = some { parser with mdf := change text parser.mdf }) :
    Runs Here (leaf tag content) (leafChange change content) := by
  intro parser here
  cases content with
  | none => exact ⟨parser, rfl, ⟨rfl, rfl⟩, rfl⟩
  | some text =>
      have told : handled { (entered parser tag []) with depth := parser.depth + 1 } [.text [text]] =
          some { (entered parser tag []) with
            depth := parser.depth + 1
            mdf := leafChange change (some text) parser.mdf } := by
        have once : handled { (entered parser tag []) with depth := parser.depth + 1 } [.text [text]] =
            handleMDFParserData { (entered parser tag []) with depth := parser.depth + 1 } text := by
          simp only [handled, SaxHandler.handleAll, SaxHandler.handle, List.foldlM_cons, List.foldlM_nil, bind_pure]
        rw [once]
        unfold handleMDFParserData leafChange
        by_cases blank : trim text = []
        · simp only [if_pos blank]
          rfl
        · simp only [if_neg blank, placed parser here, stores]
          rfl
      obtain ⟨next, whole, framed, mdf, _⟩ := record_run parser (entered parser tag []) _ tag [] _ lower noContact
        (module_ parser here) (by rw [opens parser here]; rfl) rfl rfl told ⟨rfl, rfl⟩
      exact ⟨next, whole, framed, mdf⟩

theorem section_run (tag : Text) (children : List Node) (change : Mdf → Mdf) (lower : lowerTrim tag = tag)
    (noContact : tag ∉ contactNames)
    (opens : ∀ parser, InModuleElement parser → opened (entered parser tag []).toGlobals = .nothing)
    (run : Runs (fun parser => InSection parser tag) children change) :
    Runs InModuleElement (element tag [] children) change := by
  intro parser here
  have below : InSection { (entered parser tag []) with depth := parser.depth + 1 } tag := by
    refine ⟨?_, congrArg (fun depth => depth + 1) here.depth⟩
    show lowerTrim tag :: parser.tokenList = _
    rw [lower, here.tokens]
  obtain ⟨middle, inner, framed, mdf⟩ := run _ below
  obtain ⟨next, whole, nextFramed, nextMdf, _⟩ := record_run parser (entered parser tag []) middle tag [] _ lower noContact
    (in_module_element parser here) (by rw [opens parser here]; rfl) rfl rfl inner framed
  exact ⟨next, whole, nextFramed, nextMdf.trans mdf⟩

theorem section_opens_nothing (parser : Parser) (tag : Text) (here : InModuleElement parser)
    (known : lowerTrim tag ∉ ["picture".toList, "firmware".toList, "manual".toList]) :
    opened (entered parser tag []).toGlobals = .nothing := by
  simp only [List.mem_cons, List.not_mem_nil, or_false, not_or] at known
  obtain ⟨picture, firmware, manual⟩ := known
  have level : (entered parser tag []).depth = 2 := here.depth
  have token : (entered parser tag []).token 0 = lowerTrim tag := rfl
  rw [opened, if_pos level, openedInModule, token, if_neg picture, if_neg firmware, if_neg manual]

def startMatrix (matrix : MatrixDescription) (mdf : Mdf) : Mdf :=
  { mdf with dmInfo := setAttributes startNames setStart lowerTrim (given matrix.startAttributes) mdf.dmInfo }

theorem start_run (matrix : MatrixDescription) :
    Runs (fun parser => InSection parser "dmatrix".toList)
      (element "start".toList (given matrix.startAttributes) []) (startMatrix matrix) := by
  intro parser here
  have opens : opened (entered parser "start".toList (given matrix.startAttributes)).toGlobals = .matrixStart := by
    simp only [opened, openedInSection, Globals.token, entered, here.tokens, here.depth]
    rfl
  have starts : startRecord (entered parser "start".toList (given matrix.startAttributes))
      (given matrix.startAttributes) (opened (entered parser "start".toList (given matrix.startAttributes)).toGlobals) =
        some { (entered parser "start".toList (given matrix.startAttributes)) with
          mdf := startMatrix matrix parser.mdf } := by
    rw [opens]
    rfl
  obtain ⟨next, whole, framed, mdf, _⟩ := record_run parser _ _ "start".toList (given matrix.startAttributes) []
    (by decide) (by decide) (in_section_module parser _ here) starts rfl rfl rfl ⟨rfl, rfl⟩
  exact ⟨next, whole, framed, mdf⟩

theorem matrix_leaf_run (tag : Text) (member : ModuleText) (content : Option Text) (lower : lowerTrim tag = tag)
    (noContact : tag ∉ contactNames)
    (opens : ∀ parser, InSection parser "dmatrix".toList → opened (entered parser tag []).toGlobals = .nothing)
    (placed : ∀ parser, InSection parser "dmatrix".toList →
      textPlace { (entered parser tag []) with depth := parser.depth + 1 }.toGlobals = .moduleText member) :
    Runs (fun parser => InSection parser "dmatrix".toList) (leaf tag content)
      (leafChange (setModuleText member) content) :=
  leaf_run (fun parser => InSection parser "dmatrix".toList) tag (.moduleText member) (setModuleText member) content
    lower noContact (fun parser here => in_section_module parser _ here) opens placed (fun _ _ => rfl)

def matrixChange (matrix : MatrixDescription) (mdf : Mdf) : Mdf :=
  matrix.actions.foldl
    (fun old action => { old with dmInfo.listAction := old.dmInfo.listAction ++ [action.fromXml] })
    (leafChange (setModuleText .rowSize) (spelled matrix.rowSize)
      (leafChange (setModuleText .rowCount) (spelled matrix.rowCount)
        (leafChange (setModuleText .matrixLevel) (spelled matrix.level) (startMatrix matrix mdf))))

theorem matrix_run (matrix : MatrixDescription) : Runs InModuleElement matrix.nodes (matrixChange matrix) := by
  have stays := in_section_framed "dmatrix".toList
  have level : Runs (fun parser => InSection parser "dmatrix".toList) (leaf "level".toList (spelled matrix.level))
      (leafChange (setModuleText .matrixLevel) (spelled matrix.level)) := by
    refine matrix_leaf_run "level".toList .matrixLevel _ (by decide) (by decide) ?_ ?_ <;> intro parser here
    · simp only [opened, openedInSection, Globals.token, entered, here.tokens, here.depth]
      rfl
    · simp only [textPlace, placeInSection, Globals.token, entered, here.tokens, here.depth]
      rfl
  have rowCount : Runs (fun parser => InSection parser "dmatrix".toList)
      (leaf "rowcnt".toList (spelled matrix.rowCount)) (leafChange (setModuleText .rowCount) (spelled matrix.rowCount)) := by
    refine matrix_leaf_run "rowcnt".toList .rowCount _ (by decide) (by decide) ?_ ?_ <;> intro parser here
    · simp only [opened, openedInSection, Globals.token, entered, here.tokens, here.depth]
      rfl
    · simp only [textPlace, placeInSection, Globals.token, entered, here.tokens, here.depth]
      rfl
  have rowSize : Runs (fun parser => InSection parser "dmatrix".toList)
      (leaf "rowsize".toList (spelled matrix.rowSize)) (leafChange (setModuleText .rowSize) (spelled matrix.rowSize)) := by
    refine matrix_leaf_run "rowsize".toList .rowSize _ (by decide) (by decide) ?_ ?_ <;> intro parser here
    · simp only [opened, openedInSection, Globals.token, entered, here.tokens, here.depth]
      rfl
    · simp only [textPlace, placeInSection, Globals.token, entered, here.tokens, here.depth]
      rfl
  have actions := runs_elements _ stays ActionDescription.nodes
    (fun old action => { old with dmInfo.listAction := old.dmInfo.listAction ++ [action.fromXml] })
    (fun action parser here => action_run action parser here) matrix.actions
  have start := runs_append _ stays _ _ _ _ (start_run matrix) level
  have counts := runs_append _ stays _ _ _ _ (runs_append _ stays _ _ _ _ start rowCount) rowSize
  have children := runs_append _ stays _ _ _ _ counts actions
  exact section_run "dmatrix".toList _ _ (by decide) (by decide)
    (fun parser here => section_opens_nothing parser _ here (by decide)) children

def nameChange (text : Text) (mdf : Mdf) : Mdf := { mdf with toDescribed := mdf.toDescribed.named (lowerTrim text) }

def documentChange (description : Description) (mdf : Mdf) : Mdf :=
  description.events.foldl (fun old event => { old with listEvent := old.listEvent ++ [event.fromXml] })
    (matrixChange description.matrix
      (description.remotes.foldl (fun old rvar => { old with listRemotevar := old.listRemotevar ++ [rvar.fromXml] })
        (description.registers.foldl
          (fun old reg => { old with listRegister := old.listRegister ++ reg.fromXml.copies })
          (leafChange (setModuleText .buffersize) (spelled description.bufferSize)
            (leafChange nameChange description.name mdf)))))

theorem document_run (description : Description) :
    ∃ parser, parseNodes freshGlobals {} description.nodes = some parser ∧
      parser.mdf = documentChange description {} := by
  have stays := in_module_element_framed
  have name : Runs InModuleElement (leaf "name".toList description.name)
      (leafChange nameChange description.name) := by
    refine leaf_run InModuleElement "name".toList (.name .mdf) nameChange description.name (by decide) (by decide)
      in_module_element (fun parser here => section_opens_nothing parser _ here (by decide)) ?_ (fun _ _ => rfl)
    intro parser here
    simp only [textPlace, placeInModule, Globals.token, entered, here.tokens, here.depth]
    rfl
  have buffer : Runs InModuleElement (leaf "buffersize".toList (spelled description.bufferSize))
      (leafChange (setModuleText .buffersize) (spelled description.bufferSize)) := by
    refine leaf_run InModuleElement "buffersize".toList (.moduleText .buffersize) (setModuleText .buffersize) _
      (by decide) (by decide) in_module_element (fun parser here => section_opens_nothing parser _ here (by decide))
      ?_ (fun _ _ => rfl)
    intro parser here
    simp only [textPlace, placeInModule, Globals.token, entered, here.tokens, here.depth]
    rfl
  have registers := section_run "registers".toList _ _ (by decide) (by decide)
    (fun parser here => section_opens_nothing parser _ here (by decide))
    (runs_elements _ (in_section_framed _) RegisterDescription.nodes
      (fun old reg => { old with listRegister := old.listRegister ++ reg.fromXml.copies })
      (fun reg parser here => register_run reg parser here) description.registers)
  have remotes := section_run "remotevars".toList _ _ (by decide) (by decide)
    (fun parser here => section_opens_nothing parser _ here (by decide))
    (runs_elements _ (in_section_framed _) RemoteDescription.nodes
      (fun old rvar => { old with listRemotevar := old.listRemotevar ++ [rvar.fromXml] })
      (fun rvar parser here => remote_run rvar parser here) description.remotes)
  have events := section_run "events".toList _ _ (by decide) (by decide)
    (fun parser here => section_opens_nothing parser _ here (by decide))
    (runs_elements _ (in_section_framed _) EventDescription.nodes
      (fun old event => { old with listEvent := old.listEvent ++ [event.fromXml] })
      (fun event parser here => event_run event parser here) description.events)
  have head := runs_append _ stays _ _ _ _ (runs_append _ stays _ _ _ _ name buffer) registers
  have body := runs_append _ stays _ _ _ _ (runs_append _ stays _ _ _ _ (runs_append _ stays _ _ _ _ head remotes)
    (matrix_run description.matrix)) events
  -- The two outer elements open nothing.
  obtain ⟨root, rootIs⟩ : ∃ root, startSetupMDFParser
      { toGlobals := resetGlobals freshGlobals, mdf := Mdf.clearStorage {} } "vscp".toList [] = some root := ⟨_, rfl⟩
  obtain ⟨top, topIs⟩ : ∃ top, startSetupMDFParser root "module".toList [] = some top := by
    cases rootIs
    exact ⟨_, rfl⟩
  have here : InModuleElement top ∧ top.mdf = {} := by
    cases rootIs
    cases topIs
    exact ⟨⟨rfl, rfl⟩, rfl⟩
  obtain ⟨inner, run, framed, mdf⟩ := body top here.1
  obtain ⟨outer, stops, _, _, outerMdf, _⟩ := stop_run inner "module".toList (by decide)
  obtain ⟨last, lastStops, _, _, lastMdf, _⟩ := stop_run outer "vscp".toList (by decide)
  refine ⟨last, ?_, ?_⟩
  · have moduleRun := handled_element root inner outer "module".toList [] _
      ((handled_cons root top (.start "module".toList []) _ topIs).trans run) stops
    exact handled_element _ outer last "vscp".toList [] _
      ((handled_cons ⟨resetGlobals freshGlobals, Mdf.clearStorage {}⟩ root (.start "vscp".toList []) _ rootIs).trans
        moduleRun) lastStops
  · rw [lastMdf (by decide), outerMdf (by decide), mdf, here.2]
    rfl

end document

end Vscp.ModuleDescription
