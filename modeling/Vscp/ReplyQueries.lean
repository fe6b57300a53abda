import Vscp.GuidText

set_option autoImplicit false

namespace Vscp.RemoteTcp

open NumberText

-- The ways in which a query does not return: an element of an empty list is used, a number of the standard library
-- or a part of a string is not there, or a copy runs past the end of its field.
inductive Escape
  | emptyList
  | invalidArgument
  | outOfRange
  | pastEnd
deriving DecidableEq

structure Answer (Result : Type) where
  rv : Int
  result : Result

abbrev Query (Result : Type) := Except Escape (Answer Result)

def errorGeneric : Int := 12

def frontOf (lines : List Text) : Except Escape Text :=
  match lines with
  | [] => .error .emptyList
  | line :: _ => .ok line

-- m_inputStrArray[m_inputStrArray.size() - 2], where there are two lines at least.
def lineBeforeLast (lines : List Text) : Option Text :=
  if lines.length < 2 then none else lines[lines.length - 2]?

def stoul (base : Nat) (text : Text) : Except Escape (UInt64 × Text) :=
  match readInteger isSpace base text with
  | none => .error .invalidArgument
  | some (number, rest) => if number.natAbs < 2 ^ 64 then .ok (UInt64.ofInt number, rest) else .error .outOfRange

structure Server where
  other : OtherCommands
  written : Except VscpError Unit
  stream : Text
  polls : List Poll

-- What a query has before it looks at the reply: a connection, no receive loop where that is asked for, and the lines
-- of a command that succeeded. The pointers to the results are given.
inductive Reached
  | refused (rv : Int)
  | lines (lines : List Text)

def reach (outsideLoop : Bool) (session : TextSession) (cmd : Text) (server : Server) : Reached :=
  if ¬ session.connected then .refused VscpError.connection.code
  else if outsideLoop ∧ session.modeReceiveLoop then .refused VscpError.parameter.code
  else
    let command := doCommand server.other session cmd server.written server.stream server.polls
    match command.result with
    | .error _ => .refused VscpError.error.code
    | .ok _ => .lines command.session.inputStrArray

def info : Text := ['I', 'N', 'F', 'O', '\r', '\n']
def vers : Text := ['V', 'E', 'R', 'S', '\r', '\n']
def ggid : Text := ['G', 'G', 'I', 'D', '\r', '\n']
def chid : Text := ['C', 'H', 'I', 'D', '\r', '\n']
def wcydCommand : Text := ['w', 'c', 'y', 'd', '\r', '\n']

structure CanalStatus where
  channelStatus : UInt64
  lasterrorcode : UInt64
  lasterrorsubcode : UInt64
  lasterrorstr : Vector Char 80

def strncpy (field : Vector Char 80) (source : Text) (count : Nat) : Except Escape (Vector Char 80) :=
  if 80 < count then .error .pastEnd
  else .ok (Vector.ofFn fun i =>
    if i.val < count then (source.takeWhile (· ≠ '\x00')).getD i.val '\x00' else field.get i)

def statusOfTokens (pStatus : CanalStatus) (tokens : List Text) : Query CanalStatus :=
  match tokens with
  | [] => .ok ⟨errorGeneric, pStatus⟩
  | code :: tokens =>
      let pStatus := { pStatus with lasterrorcode := UInt64.ofInt (readStringValue code) }
      match tokens with
      | [] => .ok ⟨errorGeneric, pStatus⟩
      | subcode :: tokens =>
          let pStatus := { pStatus with lasterrorsubcode := UInt64.ofInt (readStringValue subcode) }
          match tokens with
          | [] => .ok ⟨errorGeneric, pStatus⟩
          | strWrk :: _ =>
              (strncpy pStatus.lasterrorstr strWrk strWrk.length).map fun text =>
                ⟨0, { pStatus with lasterrorstr := text }⟩

def doCmdStatus (session : TextSession) (server : Server) (pStatus : CanalStatus) : Query CanalStatus :=
  match reach true session info server with
  | .refused rv => .ok ⟨rv, pStatus⟩
  | .lines lines => (frontOf lines).bind fun line => statusOfTokens pStatus (split line ',')

-- The version for a vscp_status_t copies what the first one leaves in its local structure, also where that failed.
def doCmdStatusVscp (session : TextSession) (server : Server) (status : CanalStatus) : Query CanalStatus :=
  (doCmdStatus session server status).bind fun done =>
    (strncpy done.result.lasterrorstr done.result.lasterrorstr.toList 80).map fun text =>
      ⟨done.rv, { done.result with lasterrorstr := text }⟩

structure Version where
  major : UInt8
  minor : UInt8
  subMinor : UInt8
  year : UInt8
  month : UInt8
  patch : UInt8

def versionOfTokens (version : Version) (tokens : List Text) : Answer Version :=
  let version := { version with major := 0 }
  match tokens with
  | [] => ⟨VscpError.error.code, version⟩
  | major :: tokens =>
      let number := UInt8.ofInt (readStringValue major)
      let version := { version with major := number, year := number, minor := 0 }
      match tokens with
      | [] => ⟨VscpError.error.code, version⟩
      | minor :: tokens =>
          let number := UInt8.ofInt (readStringValue minor)
          let version := { version with minor := number, month := number, subMinor := 0 }
          match tokens with
          | [] => ⟨VscpError.error.code, version⟩
          | subMinor :: _ =>
              let number := UInt8.ofInt (readStringValue subMinor)
              ⟨0, { version with subMinor := number, patch := number }⟩

def doCmdVersion (session : TextSession) (server : Server) (version : Version) : Query Version :=
  match reach true session vers server with
  | .refused rv => .ok ⟨rv, version⟩
  | .lines lines => (frontOf lines).bind fun line => .ok (versionOfTokens version (split line ','))

-- The version for an array takes the first field of the line, the one for a cguid the whole line.
def doCmdGetGUID (session : TextSession) (server : Server) (guid : Guid) : Query Guid :=
  match reach true session ggid server with
  | .refused rv => .ok ⟨rv, guid⟩
  | .lines lines =>
      match lineBeforeLast lines with
      | none => .ok ⟨VscpError.error.code, guid⟩
      | some strLine =>
          match split strLine ',' with
          | [] => .ok ⟨errorGeneric, guid⟩
          | str :: _ => .ok ⟨0, guidFromString str⟩

def doCmdGetCguid (session : TextSession) (server : Server) (guid : Guid) : Query Guid :=
  match reach true session ggid server with
  | .refused rv => .ok ⟨rv, guid⟩
  | .lines lines =>
      match lineBeforeLast lines with
      | none => .ok ⟨VscpError.error.code, guid⟩
      | some strLine => .ok ⟨0, guidFromString strLine⟩

def doCmdGetChannelID (session : TextSession) (server : Server) (channelID : UInt32) : Query UInt32 :=
  match reach false session chid server with
  | .refused rv => .ok ⟨rv, channelID⟩
  | .lines lines =>
      match lineBeforeLast lines with
      | none => .ok ⟨VscpError.error.code, channelID⟩
      | some strLine => (stoul 10 strLine).map fun number => ⟨0, number.1.toUInt32⟩

def readWcyd : Nat → Text → UInt64 → Except Escape UInt64
  | 0, _, wcyd => .ok wcyd
  | left + 1, strLine, wcyd =>
      (stoul 16 strLine).bind fun number =>
        let wcyd := (wcyd <<< 8) + number.1
        if left = 0 then .ok wcyd
        else
          match number.2 with
          | [] => .error .outOfRange
          | _ :: strLine => readWcyd left strLine wcyd

def doCmdWcyd (session : TextSession) (server : Server) (wcyd : UInt64) : Query UInt64 :=
  match reach false session wcydCommand server with
  | .refused rv => .ok ⟨rv, wcyd⟩
  | .lines lines =>
      match lineBeforeLast lines with
      | none => .ok ⟨VscpError.error.code, wcyd⟩
      | some strLine =>
          if strLine.length < 23 then .ok ⟨VscpError.error.code, wcyd⟩
          else (readWcyd 8 strLine 0).map fun number => ⟨0, number⟩

def Returns {Result : Type} (query : Query Result) : Prop := ∃ answer, query = .ok answer

def Numeral (base : Nat) (text rest : Text) : Prop :=
  ∃ number, readInteger isSpace base text = some (number, rest) ∧ number.natAbs < 2 ^ 64

def NumeralList : Nat → Text → Prop
  | 0, _ => True
  | left + 1, text => ∃ rest, Numeral 16 text rest ∧ (left = 0 ∨ ∃ mark later, rest = mark :: later ∧ NumeralList left later)

section

variable (session : TextSession)

structure Servers where
  status : Server
  version : Server
  guid : Server
  channelID : Server
  wcyd : Server

structure QueriesReturn (servers : Servers) : Prop where
  status : ∀ pStatus, Returns (doCmdStatus session servers.status pStatus)
  statusVscp : ∀ pStatus, Returns (doCmdStatusVscp session servers.status pStatus)
  version : ∀ old, Returns (doCmdVersion session servers.version old)
  guid : ∀ old, Returns (doCmdGetGUID session servers.guid old)
  cguid : ∀ old, Returns (doCmdGetCguid session servers.guid old)
  channelID : ∀ old, Returns (doCmdGetChannelID session servers.channelID old)
  wcyd : ∀ old, Returns (doCmdWcyd session servers.wcyd old)

def ReachesLine (outsideLoop : Bool) (cmd : Text) (server : Server) (line : Text) : Prop :=
  ∃ lines, reach outsideLoop session cmd server = .lines lines ∧ lineBeforeLast lines = some line

-- The replies that are safe: a line at all for the status and the version, an error text of at most 80 characters, a
-- number for the channel, and eight of them for the capabilities where their line is long enough to be looked at.
structure SafeReplies (servers : Servers) : Prop where
  status : ∀ lines, reach true session info servers.status = .lines lines → ∃ line later, lines = line :: later ∧
    ∀ text, (split line ',')[2]? = some text → text.length ≤ 80
  version : ∀ lines, reach true session vers servers.version = .lines lines → lines ≠ []
  channelID : ∀ line, ReachesLine session false chid servers.channelID line → ∃ rest, Numeral 10 line rest
  wcyd : ∀ line, ReachesLine session false wcydCommand servers.wcyd line → 23 ≤ line.length → NumeralList 8 line

end

theorem map_returns_iff {Value Result : Type} (value : Except Escape Value) (f : Value → Answer Result) :
    Returns (value.map f) ↔ ∃ read, value = .ok read := by
  cases value with
  | error escape =>
      refine iff_of_false ?_ ?_
      · rintro ⟨answer, same⟩
        cases same
      · rintro ⟨read, same⟩
        cases same
  | ok read => exact iff_of_true ⟨f read, rfl⟩ ⟨read, rfl⟩

theorem stoul_returns_iff (base : Nat) (text rest : Text) :
    (∃ number, stoul base text = .ok (number, rest)) ↔ Numeral base text rest := by
  rw [stoul, Numeral]
  cases found : readInteger isSpace base text with
  | none =>
      refine iff_of_false ?_ ?_
      · rintro ⟨number, same⟩
        cases same
      · rintro ⟨number, same, -⟩
        cases same
  | some read =>
      change (∃ number, ite (read.1.natAbs < 2 ^ 64) _ _ = Except.ok (number, rest)) ↔ _
      by_cases small : read.1.natAbs < 2 ^ 64
      · rw [if_pos small]
        constructor
        · rintro ⟨number, same⟩
          cases same
          exact ⟨read.1, rfl, small⟩
        · rintro ⟨number, same, -⟩
          cases same
          exact ⟨_, rfl⟩
      · rw [if_neg small]
        refine iff_of_false ?_ ?_
        · rintro ⟨number, same⟩
          cases same
        · rintro ⟨number, same, fits⟩
          cases same
          exact small fits

theorem strncpy_returns_iff (field : Vector Char 80) (source : Text) (count : Nat) :
    (∃ text, strncpy field source count = .ok text) ↔ count ≤ 80 := by
  rw [strncpy]
  by_cases long : 80 < count
  · rw [if_pos long]
    refine iff_of_false ?_ (Nat.not_le.mpr long)
    rintro ⟨text, same⟩
    cases same
  · rw [if_neg long]
    exact iff_of_true ⟨_, rfl⟩ (Nat.not_lt.mp long)

theorem status_tokens_return_iff (pStatus : CanalStatus) (tokens : List Text) :
    Returns (statusOfTokens pStatus tokens) ↔ ∀ text, tokens[2]? = some text → text.length ≤ 80 := by
  have short (none : tokens[2]? = none) (query : Query CanalStatus) (returns : Returns query) :
      Returns query ↔ ∀ text, tokens[2]? = some text → text.length ≤ 80 := by
    refine iff_of_true returns fun text some => ?_
    rw [none] at some
    cases some
  cases tokens with
  | nil => exact short rfl _ ⟨_, rfl⟩
  | cons code tokens =>
      cases tokens with
      | nil => exact short rfl _ ⟨_, rfl⟩
      | cons subcode tokens =>
          cases tokens with
          | nil => exact short rfl _ ⟨_, rfl⟩
          | cons strWrk tokens =>
              refine (map_returns_iff _ _).trans ((strncpy_returns_iff _ _ _).trans ?_)
              constructor
              · intro fits text same
                cases same
                exact fits
              · exact fun all => all strWrk rfl

theorem read_wcyd_returns_iff (left : Nat) (strLine : Text) (wcyd : UInt64) :
    (∃ number, readWcyd left strLine wcyd = .ok number) ↔ NumeralList left strLine := by
  induction left generalizing strLine wcyd with
  | zero => exact iff_of_true ⟨wcyd, rfl⟩ trivial
  | succ left ih =>
      rw [readWcyd, NumeralList]
      cases read : stoul 16 strLine with
      | error escape =>
          refine iff_of_false ?_ ?_
          · rintro ⟨number, same⟩
            cases same
          · rintro ⟨rest, numeral, -⟩
            obtain ⟨number, same⟩ := (stoul_returns_iff 16 strLine rest).mpr numeral
            rw [read] at same
            cases same
      | ok number =>
          have one (rest : Text) : Numeral 16 strLine rest ↔ number.2 = rest := by
            rw [← stoul_returns_iff, read]
            constructor
            · rintro ⟨value, same⟩
              cases same
              rfl
            · rintro rfl
              exact ⟨number.1, rfl⟩
          rw [Except.bind]
          by_cases last : left = 0
          · rw [if_pos last]
            exact iff_of_true ⟨_, rfl⟩ ⟨number.2, (one number.2).mpr rfl, .inl last⟩
          · rw [if_neg last]
            cases behind : number.2 with
            | nil =>
                refine iff_of_false ?_ ?_
                · rintro ⟨value, same⟩
                  cases same
                · rintro ⟨rest, numeral, none | ⟨mark, later, same, -⟩⟩
                  · exact last none
                  · rw [← (one rest).mp numeral, behind] at same
                    cases same
            | cons mark later =>
                refine (ih later _).trans ?_
                constructor
                · intro rest
                  exact ⟨number.2, (one number.2).mpr rfl, .inr ⟨mark, later, behind, rest⟩⟩
                · rintro ⟨rest, numeral, none | ⟨other, again, same, list⟩⟩
                  · exact absurd none last
                  · rw [← (one rest).mp numeral, behind] at same
                    cases same
                    exact list

section

variable (session : TextSession) (server : Server)

theorem status_returns_iff (pStatus : CanalStatus) :
    Returns (doCmdStatus session server pStatus) ↔
      ∀ lines, reach true session info server = .lines lines → ∃ line later, lines = line :: later ∧
        ∀ text, (split line ',')[2]? = some text → text.length ≤ 80 := by
  rw [doCmdStatus]
  cases reach true session info server with
  | refused rv =>
      refine iff_of_true ⟨_, rfl⟩ ?_
      intro lines same
      cases same
  | lines lines =>
      cases lines with
      | nil =>
          refine iff_of_false ?_ ?_
          · rintro ⟨answer, same⟩
            cases same
          · intro all
            obtain ⟨line, later, same, -⟩ := all [] rfl
            cases same
      | cons line later =>
          refine (status_tokens_return_iff pStatus (split line ',')).trans ?_
          constructor
          · intro fits lines same
            cases same
            exact ⟨line, later, rfl, fits⟩
          · intro all
            obtain ⟨first, rest, same, fits⟩ := all (line :: later) rfl
            cases same
            exact fits

theorem status_vscp_returns_iff (pStatus : CanalStatus) :
    Returns (doCmdStatusVscp session server pStatus) ↔ Returns (doCmdStatus session server pStatus) := by
  rw [doCmdStatusVscp]
  cases doCmdStatus session server pStatus with
  | error escape =>
      refine iff_of_false ?_ ?_
      · rintro ⟨answer, same⟩
        cases same
      · rintro ⟨answer, same⟩
        cases same
  | ok done =>
      refine iff_of_true ?_ ⟨done, rfl⟩
      rw [Except.bind]
      exact (map_returns_iff _ _).mpr ((strncpy_returns_iff _ _ 80).mpr (le_refl 80))

theorem version_returns_iff (old : Version) :
    Returns (doCmdVersion session server old) ↔
      ∀ lines, reach true session vers server = .lines lines → lines ≠ [] := by
  rw [doCmdVersion]
  cases reach true session vers server with
  | refused rv =>
      refine iff_of_true ⟨_, rfl⟩ ?_
      intro lines same
      cases same
  | lines lines =>
      cases lines with
      | nil =>
          refine iff_of_false ?_ (fun all => all [] rfl rfl)
          rintro ⟨answer, same⟩
          cases same
      | cons line later =>
          refine iff_of_true ⟨_, rfl⟩ ?_
          intro lines same none
          cases same
          cases none

theorem guid_returns (old : Guid) :
    Returns (doCmdGetGUID session server old) ∧ Returns (doCmdGetCguid session server old) := by
  rw [doCmdGetGUID, doCmdGetCguid]
  cases reach true session ggid server with
  | refused rv => exact ⟨⟨_, rfl⟩, ⟨_, rfl⟩⟩
  | lines lines =>
      dsimp only
      cases lineBeforeLast lines with
      | none => exact ⟨⟨_, rfl⟩, ⟨_, rfl⟩⟩
      | some strLine =>
          refine ⟨?_, ⟨_, rfl⟩⟩
          dsimp only
          cases split strLine ',' with
          | nil => exact ⟨_, rfl⟩
          | cons str tokens => exact ⟨_, rfl⟩

theorem line_query_returns_iff {Result : Type} (outsideLoop : Bool) (cmd : Text) (query : Query Result)
    (refused : Int → Query Result) (parse : Text → Query Result) (short : Query Result)
    (split : query = match reach outsideLoop session cmd server with
      | .refused rv => refused rv
      | .lines lines => (lineBeforeLast lines).elim short parse)
    (refusedReturns : ∀ rv, Returns (refused rv)) (shortReturns : Returns short) :
    Returns query ↔ ∀ line, ReachesLine session outsideLoop cmd server line → Returns (parse line) := by
  rw [split]
  cases reached : reach outsideLoop session cmd server with
  | refused rv =>
      refine iff_of_true (refusedReturns rv) ?_
      rintro line ⟨lines, same, -⟩
      rw [reached] at same
      cases same
  | lines lines =>
      dsimp only
      cases found : lineBeforeLast lines with
      | none =>
          refine iff_of_true shortReturns ?_
          rintro line ⟨others, same, line'⟩
          rw [reached] at same
          cases same
          rw [found] at line'
          cases line'
      | some strLine =>
          constructor
          · rintro returns line ⟨others, same, own⟩
            rw [reached] at same
            cases same
            rw [found] at own
            cases own
            exact returns
          · exact fun all => all strLine ⟨lines, reached, found⟩

theorem channel_id_returns_iff (old : UInt32) :
    Returns (doCmdGetChannelID session server old) ↔
      ∀ line, ReachesLine session false chid server line → ∃ rest, Numeral 10 line rest := by
  refine (line_query_returns_iff session server false chid _ (fun rv => .ok ⟨rv, old⟩)
    (fun strLine => (stoul 10 strLine).map fun number => ⟨0, number.1.toUInt32⟩)
    (.ok ⟨VscpError.error.code, old⟩) ?_ (fun _ => ⟨_, rfl⟩) ⟨_, rfl⟩).trans ?_
  · rw [doCmdGetChannelID]
    cases reach false session chid server with
    | refused rv => rfl
    | lines lines => cases found : lineBeforeLast lines <;> simp only [found, Option.elim]
  · refine forall_congr' fun line => forall_congr' fun _ => (map_returns_iff _ _).trans ?_
    constructor
    · rintro ⟨read, same⟩
      exact ⟨read.2, (stoul_returns_iff 10 line read.2).mp ⟨read.1, same⟩⟩
    · rintro ⟨rest, numeral⟩
      obtain ⟨number, same⟩ := (stoul_returns_iff 10 line rest).mpr numeral
      exact ⟨_, same⟩

theorem wcyd_returns_iff (old : UInt64) :
    Returns (doCmdWcyd session server old) ↔
      ∀ line, ReachesLine session false wcydCommand server line → 23 ≤ line.length → NumeralList 8 line := by
  refine (line_query_returns_iff session server false wcydCommand _ (fun rv => .ok ⟨rv, old⟩)
    (fun strLine => if strLine.length < 23 then .ok ⟨VscpError.error.code, old⟩
      else (readWcyd 8 strLine 0).map fun number => ⟨0, number⟩)
    (.ok ⟨VscpError.error.code, old⟩) ?_ (fun _ => ⟨_, rfl⟩) ⟨_, rfl⟩).trans ?_
  · rw [doCmdWcyd]
    cases reach false session wcydCommand server with
    | refused rv => rfl
    | lines lines => cases found : lineBeforeLast lines <;> simp only [found, Option.elim]
  · refine forall_congr' fun line => forall_congr' fun _ => ?_
    by_cases short : line.length < 23
    · rw [if_pos short]
      exact iff_of_true ⟨_, rfl⟩ fun long => absurd short (Nat.not_lt.mpr long)
    · rw [if_neg short]
      have long := Nat.not_lt.mp short
      exact (map_returns_iff _ _).trans ((read_wcyd_returns_iff 8 line 0).trans ⟨fun list _ => list, fun all => all long⟩)

end

theorem queries_return_iff (session : TextSession) (servers : Servers) :
    QueriesReturn session servers ↔ SafeReplies session servers := by
  have someStatus : CanalStatus := ⟨0, 0, 0, Vector.replicate 80 '\x00'⟩
  have someVersion : Version := ⟨0, 0, 0, 0, 0, 0⟩
  constructor
  · intro returns
    exact ⟨(status_returns_iff session servers.status someStatus).mp (returns.status someStatus),
      (version_returns_iff session servers.version someVersion).mp (returns.version someVersion),
      (channel_id_returns_iff session servers.channelID 0).mp (returns.channelID 0),
      (wcyd_returns_iff session servers.wcyd 0).mp (returns.wcyd 0)⟩
  · intro safe
    have status (pStatus : CanalStatus) := (status_returns_iff session servers.status pStatus).mpr safe.status
    exact ⟨status, fun pStatus => (status_vscp_returns_iff session servers.status pStatus).mpr (status pStatus),
      fun old => (version_returns_iff session servers.version old).mpr safe.version,
      fun old => (guid_returns session servers.guid old).1, fun old => (guid_returns session servers.guid old).2,
      fun old => (channel_id_returns_iff session servers.channelID old).mpr safe.channelID,
      fun old => (wcyd_returns_iff session servers.wcyd old).mpr safe.wcyd⟩

def wordServer : Server := ⟨noOthers, .ok (), replyText [['n', 'o'], ['+', 'O', 'K']], [.arrived 7]⟩

theorem word_reached :
    reach false freshSession chid wordServer = .lines [['n', 'o'], ['+', 'O', 'K']] := rfl

-- The exception of std::stoul leaves the query.
theorem word_escapes : ¬ QueriesReturn freshSession ⟨wordServer, wordServer, wordServer, wordServer, wordServer⟩ := by
  intro returns
  obtain ⟨answer, same⟩ := returns.channelID 0
  have thrown : doCmdGetChannelID freshSession wordServer 0 = .error .invalidArgument := by
    rw [doCmdGetChannelID, word_reached]
    rfl
  rw [thrown] at same
  cases same

end Vscp.RemoteTcp
