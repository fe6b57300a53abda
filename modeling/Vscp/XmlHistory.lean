import Vscp.EventXml

set_option autoImplicit false

namespace Vscp

open XmlText
open RemoteTcp (Text)

def filterName : Text := ['f', 'i', 'l', 't', 'e', 'r']

def filterField (pFilter : VscpEventFilter) (entry : Text × Text) : VscpEventFilter :=
  if entry.1 = ['m', 'a', 's', 'k', '_', 'p', 'r', 'i', 'o', 'r', 'i', 't', 'y'] then
    { pFilter with maskPriority := UInt8.ofInt (readStringValue entry.2) }
  else if entry.1 = ['m', 'a', 's', 'k', '_', 'c', 'l', 'a', 's', 's'] then
    { pFilter with maskClass := UInt16.ofInt (readStringValue entry.2) }
  else if entry.1 = ['m', 'a', 's', 'k', '_', 't', 'y', 'p', 'e'] then
    { pFilter with maskType := UInt16.ofInt (readStringValue entry.2) }
  else if entry.1 = ['m', 'a', 's', 'k', '_', 'g', 'u', 'i', 'd'] then
    { pFilter with maskGuid := guidFromString entry.2 }
  else if entry.1 = ['f', 'i', 'l', 't', 'e', 'r', '_', 'p', 'r', 'i', 'o', 'r', 'i', 't', 'y'] then
    { pFilter with filterPriority := UInt8.ofInt (readStringValue entry.2) }
  else if entry.1 = ['f', 'i', 'l', 't', 'e', 'r', '_', 'c', 'l', 'a', 's', 's'] then
    { pFilter with filterClass := UInt16.ofInt (readStringValue entry.2) }
  else if entry.1 = ['f', 'i', 'l', 't', 'e', 'r', '_', 't', 'y', 'p', 'e'] then
    { pFilter with filterType := UInt16.ofInt (readStringValue entry.2) }
  else if entry.1 = ['f', 'i', 'l', 't', 'e', 'r', '_', 'g', 'u', 'i', 'd'] then
    { pFilter with filterGuid := guidFromString entry.2 }
  else pFilter

-- Unlike an event, a filter keeps what no attribute sets.
def startFilterMaskXmlParser (depth : Int) (pFilter : VscpEventFilter) (name : Text)
    (attributes : List (Text × Text)) : Option VscpEventFilter :=
  if name = filterName ∧ depth = 0 then some (attributes.foldl filterField pFilter) else some pFilter

structure Depths where
  event : Int
  eventEx : Int
  filterMask : Int
deriving DecidableEq

def freshDepths : Depths := ⟨0, 0, 0⟩

-- A call of one of the decoders: what the clock says meanwhile, what the result pointer points at, and the text.
inductive XmlCall where
  | toEvent (clock : Clock) (rawtime : UInt64) (pev : VscpEvent) (strXml : Text)
  | toEventEx (clock : Clock) (rawtime : UInt64) (pex : VscpEventEx) (strXml : Text)
  | toFilterMask (pFilter : VscpEventFilter) (strFilter : Text)

inductive XmlResult where
  | event (ok : Bool) (pev : VscpEvent)
  | eventEx (ok : Bool) (pex : VscpEventEx)
  | filterMask (ok : Bool) (pFilter : VscpEventFilter)
deriving DecidableEq

def XmlCall.text : XmlCall → Text
  | .toEvent _ _ _ strXml => strXml
  | .toEventEx _ _ _ strXml => strXml
  | .toFilterMask _ strFilter => strFilter

def weight : SaxEvent → Int
  | .start _ _ => 1
  | .stop _ => -1

def leftOpen (events : List SaxEvent) : Int := (events.map weight).sum

section

variable (sax : Text → List SaxEvent × Bool)

def readFilterMaskFromXml (depth : Int) (pFilter : VscpEventFilter) (strFilter : Text) :
    Option (Int × Bool × VscpEventFilter) :=
  decodeXml sax startFilterMaskXmlParser depth pFilter strFilter

def perform (depths : Depths) : XmlCall → Option (Depths × XmlResult)
  | .toEvent clock rawtime pev strXml =>
      (convertXmlToEvent sax clock rawtime depths.event pev strXml).map fun result =>
        ({ depths with event := result.1 }, .event result.2.1 result.2.2)
  | .toEventEx clock rawtime pex strXml =>
      (convertXmlToEventEx sax clock rawtime depths.eventEx pex strXml).map fun result =>
        ({ depths with eventEx := result.1 }, .eventEx result.2.1 result.2.2)
  | .toFilterMask pFilter strFilter =>
      (readFilterMaskFromXml sax depths.filterMask pFilter strFilter).map fun result =>
        ({ depths with filterMask := result.1 }, .filterMask result.2.1 result.2.2)

-- The process behind all these calls; none where one of them does not come back.
def performAll (depths : Depths) (calls : List XmlCall) : Option Depths :=
  calls.foldlM (fun depths call => (perform sax depths call).map Prod.fst) depths

-- What the parser reports of the text of a call closes every element that it opens.
def ClosesAll (call : XmlCall) : Prop := call.text ≠ [] → leftOpen (sax (parserBuffer call.text)).1 = 0

theorem callbacks_depth {α : Type} (start : Int → α → Text → List (Text × Text) → Option α) (events : List SaxEvent)
    (state ended : Int × α) (run : events.foldlM (callback start) state = some ended) :
    ended.1 = state.1 + leftOpen events := by
  induction events generalizing state with
  | nil =>
      obtain rfl : state = ended := Option.some.inj run
      simp [leftOpen]
  | cons event events ih =>
      rw [List.foldlM_cons] at run
      obtain ⟨next, step, rest⟩ := Option.bind_eq_some_iff.mp run
      have later := ih next rest
      have moved : next.1 = state.1 + weight event := by
        cases event with
        | start name attributes =>
            obtain ⟨value, _, rfl⟩ := Option.map_eq_some_iff.mp step
            rfl
        | stop name =>
            obtain rfl := Option.some.inj step
            rfl
      simp only [leftOpen, List.map_cons, List.sum_cons] at later ⊢
      omega

theorem decode_depth {α : Type} (start : Int → α → Text → List (Text × Text) → Option α) (depth left : Int)
    (old value : α) (strXml : Text) (ok : Bool) (closes : strXml ≠ [] → leftOpen (sax (parserBuffer strXml)).1 = 0)
    (decoded : decodeXml sax start depth old strXml = some (left, ok, value)) : left = depth := by
  unfold decodeXml at decoded
  by_cases empty : strXml = []
  · rw [if_pos empty] at decoded
    exact (congrArg Prod.fst (Option.some.inj decoded)).symm
  · rw [if_neg empty] at decoded
    by_cases long : xmlBuffSize < strXml.length
    · rw [if_pos long] at decoded
      cases decoded
    · rw [if_neg long] at decoded
      obtain ⟨ended, run, result⟩ := Option.map_eq_some_iff.mp decoded
      have reached := callbacks_depth start _ _ _ run
      have here : ended.1 = left := congrArg Prod.fst result
      rw [closes empty, Int.add_zero] at reached
      rw [← here, reached]

theorem perform_closed (depths after : Depths) (call : XmlCall) (result : XmlResult) (closes : ClosesAll sax call)
    (performed : perform sax depths call = some (after, result)) : after = depths := by
  cases call with
  | toEvent clock rawtime pev strXml =>
      obtain ⟨⟨left, ok, value⟩, decoded, same⟩ := Option.map_eq_some_iff.mp performed
      obtain rfl := decode_depth sax _ depths.event left pev value strXml ok closes decoded
      exact (congrArg Prod.fst same).symm
  | toEventEx clock rawtime pex strXml =>
      obtain ⟨⟨left, ok, value⟩, decoded, same⟩ := Option.map_eq_some_iff.mp performed
      obtain rfl := decode_depth sax _ depths.eventEx left pex value strXml ok closes decoded
      exact (congrArg Prod.fst same).symm
  | toFilterMask pFilter strFilter =>
      obtain ⟨⟨left, ok, value⟩, decoded, same⟩ := Option.map_eq_some_iff.mp performed
      obtain rfl := decode_depth sax _ depths.filterMask left pFilter value strFilter ok closes decoded
      exact (congrArg Prod.fst same).symm

theorem history_closed (depths reached : Depths) (calls : List XmlCall) (closes : ∀ call ∈ calls, ClosesAll sax call)
    (run : performAll sax depths calls = some reached) : reached = depths := by
  induction calls generalizing depths with
  | nil => exact (Option.some.inj run).symm
  | cons call calls ih =>
      rw [performAll, List.foldlM_cons] at run
      obtain ⟨after, performed, rest⟩ := Option.bind_eq_some_iff.mp run
      obtain ⟨⟨after, result⟩, own, rfl⟩ := Option.map_eq_some_iff.mp performed
      have here := perform_closed sax depths after call result (closes call List.mem_cons_self) own
      have later := ih after (fun other inside => closes other (List.mem_cons_of_mem call inside)) rest
      rw [later, here]

-- Behind any number of earlier texts that close what they open, a text is decoded as in a fresh process.
theorem earlier_texts_forgotten (earlier : List XmlCall) (last : XmlCall) (reached : Depths)
    (closes : ∀ call ∈ earlier, ClosesAll sax call) (run : performAll sax freshDepths earlier = some reached) :
    reached = freshDepths ∧ perform sax reached last = perform sax freshDepths last := by
  have fresh := history_closed sax freshDepths reached earlier closes run
  exact ⟨fresh, by rw [fresh]⟩

end

def classText : Text :=
  ['<', 'e', 'v', 'e', 'n', 't', ' ', 'c', 'l', 'a', 's', 's', '=', '"', '1', '0', '"', '/', '>']
def openText : Text := ['<', 'e', 'v', 'e', 'n', 't', '>']

theorem earlier_texts_forgotten_example :
    freshDepths = freshDepths ∧
      perform plainSax freshDepths (.toEvent exampleClock 0 emptyEvent classText) =
        perform plainSax freshDepths (.toEvent exampleClock 0 emptyEvent classText) :=
  earlier_texts_forgotten plainSax
    [.toEventEx exampleClock 0 emptyEventEx classText, .toFilterMask ⟨0, 0, 0, 0, 0, 0, leading [], leading []⟩ classText]
    (.toEvent exampleClock 0 emptyEvent classText) freshDepths
    (by
      intro call inside
      simp only [List.mem_cons, List.not_mem_nil, or_false] at inside
      rcases inside with rfl | rfl
      · exact fun _ => by decide
      · exact fun _ => by decide)
    (by decide)

-- The root that was left open hides the next text.
theorem open_element_remembered :
    performAll plainSax freshDepths [.toEvent exampleClock 0 emptyEvent openText] = some ⟨1, 0, 0⟩ ∧
      perform plainSax ⟨1, 0, 0⟩ (.toEvent exampleClock 0 emptyEvent classText) =
        some (⟨1, 0, 0⟩, .event true (startedEvent exampleClock 0)) ∧
      (perform plainSax freshDepths (.toEvent exampleClock 0 emptyEvent classText)).map Prod.snd ≠
        (perform plainSax ⟨1, 0, 0⟩ (.toEvent exampleClock 0 emptyEvent classText)).map Prod.snd := by
  refine ⟨by decide, by decide, by decide⟩

end Vscp
