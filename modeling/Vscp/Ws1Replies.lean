import Vscp.CanalReceive
import Vscp.Ws1Credentials

set_option autoImplicit false

namespace Vscp.Ws1

open NumberText
open RemoteTcp (Text split)

def vscpErrorUser : Int := 38

-- The index of args.at is checked: behind the last field it throws.
inductive Result (α : Type) where
  | threw
  | returned (code : Int) (value : α)
deriving DecidableEq

def Result.Sound {α : Type} (result : Result α) (good : α → Prop) : Prop :=
  match result with
  | .threw => False
  | .returned code value => code = vscpErrorSuccess → good value

-- `conn` is that m_conn is not NULL. Both fields are public, and nothing in the class sets them.
structure Client where
  bConnected : Bool
  conn : Bool

def plus : Text := ['+']

def replyArgs (reply : Text) : List Text := split reply ';'

-- `("+" != args.at(0)) || (name != args.at(1))`; none is what throws.
def refusedByEither (args : List Text) (name : Text) : Option Bool :=
  match args with
  | [] => none
  | first :: rest =>
      if first ≠ plus then some true
      else
        match rest with
        | [] => none
        | second :: _ => some (second ≠ name)

-- `("+" != args.at(0)) && (name != args.at(1))`.
def refusedByBoth (args : List Text) (name : Text) : Option Bool :=
  match args with
  | [] => none
  | first :: rest =>
      if first = plus then some false
      else
        match rest with
        | [] => none
        | second :: _ => some (second ≠ name)

def nameAuth0 : Text := "AUTH0".toList
def nameAuth1 : Text := "AUTH1".toList
def nameOpen : Text := "OPEN".toList
def nameE : Text := "E".toList
def nameSetfilter : Text := "SETFILTER".toList
def nameInterfaces : Text := "INTERFACES".toList
def nameWcyd : Text := "WCYD".toList

-- Each wait gives the reply at the front of the queue, or none where it fails. The value is what m_conn is then;
-- disconnect sets it to NULL.
def connect (client : Client) (hello auth opened : Option Text) : Result Bool :=
  if ¬ client.conn then .returned VscpError.connection.code client.conn
  else
    match hello with
    | none => .returned VscpError.timeout.code false
    | some reply =>
        if (replyArgs reply).length ≠ 3 ∨ refusedByEither (replyArgs reply) nameAuth0 ≠ some false then
          .returned VscpError.timeout.code false
        else
          match auth with
          | none => .returned vscpErrorUser false
          | some reply =>
              if (replyArgs reply).length ≥ 2 ∧ refusedByEither (replyArgs reply) nameAuth1 ≠ some false then
                .returned VscpError.timeout.code false
              else
                match opened with
                | none => .returned VscpError.operationFailed.code false
                | some reply =>
                    match refusedByEither (replyArgs reply) nameOpen with
                    | none => .threw
                    | some true => .returned VscpError.timeout.code false
                    | some false => .returned vscpErrorSuccess client.conn

-- What follows the request in send and setfilter; the write of the request itself is commented out.
def answered (name : Text) (answer : Option Text) : Result Unit :=
  match answer with
  | none => .returned VscpError.timeout.code ()
  | some reply =>
      match refusedByBoth (replyArgs reply) name with
      | none => .threw
      | some true => .returned VscpError.operationFailed.code ()
      | some false => .returned vscpErrorSuccess ()

def send (client : Client) (answer : Option Text) : Result Unit :=
  if ¬ client.bConnected then .returned VscpError.notConnected.code () else answered nameE answer

-- The canalMsg version takes the true of the converter for an error, and sends what lay on the stack otherwise.
def sendMessage (client : Client) (clock : Clock) (rawtime : UInt64) (stack : VscpEventEx) (msg : CanalMsg)
    (answer : Option Text) : Result Unit :=
  match convertCanalToEventEx clock rawtime stack msg CanalClient.zeroGuid with
  | some _ => .returned VscpError.invalidFrame.code ()
  | none => send client answer

def setfilter (client : Client) (answer : Option Text) : Result Unit :=
  if ¬ client.bConnected then .returned VscpError.notConnected.code () else answered nameSetfilter answer

-- `for (i = 3; i < args.size(); i++)`, and a field is taken off the front in each turn.
def interfaceLoop : Nat → List Text → List Text → List Text
  | _, [], iflist => iflist
  | i, front :: args, iflist =>
      if i < args.length + 1 then interfaceLoop (i + 1) args (iflist ++ [front]) else iflist

def getinterfaces (client : Client) (iflist : List Text) (answer : Option Text) : Result (List Text) :=
  if ¬ client.bConnected then .returned VscpError.notConnected.code iflist
  else
    match answer with
    | none => .returned VscpError.timeout.code iflist
    | some reply =>
        if (replyArgs reply).length ≥ 2 ∧ refusedByBoth (replyArgs reply) nameInterfaces ≠ some false then
          .returned VscpError.operationFailed.code iflist
        else .returned vscpErrorSuccess (interfaceLoop 3 (replyArgs reply) iflist)

def capability (value : Text) (shift : UInt64) : UInt64 := UInt64.ofInt (readStringValue value) <<< shift

def capabilities (args : List Text) : Option UInt64 :=
  match args with
  | _ :: _ :: v2 :: v3 :: v4 :: v5 :: v6 :: v7 :: v8 :: v9 :: _ =>
      some (capability v2 56 + capability v3 48 + capability v4 40 + capability v5 32 + capability v6 24 +
        capability v7 16 + capability v8 8 + capability v9 0)
  | _ => none

def getwcyd (client : Client) (wcyd : UInt64) (answer : Option Text) : Result UInt64 :=
  if ¬ client.bConnected then .returned VscpError.notConnected.code wcyd
  else
    match answer with
    | none => .returned VscpError.timeout.code wcyd
    | some reply =>
        if (replyArgs reply).length ≥ 10 ∧ refusedByBoth (replyArgs reply) nameWcyd ≠ some false then
          .returned VscpError.operationFailed.code wcyd
        else
          match capabilities (replyArgs reply) with
          | none => .threw
          | some value => .returned vscpErrorSuccess value

def Positive (name : Text) (reply : Option Text) : Prop :=
  ∃ text rest, reply = some text ∧ replyArgs text = plus :: name :: rest

def interfacesOf (args : List Text) : List Text :=
  match args with
  | first :: second :: _ :: items => if first = plus ∧ second = nameInterfaces then items else []
  | _ => []

def wordBytes (word : UInt64) : List Nat :=
  [56, 48, 40, 32, 24, 16, 8, 0].map fun shift => word.toNat / 2 ^ shift % 2 ^ 8

inductive Operation where
  | connect (hello auth opened : Option Text)
  | send (answer : Option Text)
  | sendMessage (clock : Clock) (rawtime : UInt64) (stack : VscpEventEx) (msg : CanalMsg) (answer : Option Text)
  | setfilter (answer : Option Text)
  | getinterfaces (iflist : List Text) (answer : Option Text)
  | getwcyd (wcyd : UInt64) (answer : Option Text)

def Right (client : Client) : Operation → Prop
  | .connect hello auth opened =>
      (connect client hello auth opened).Sound fun _ =>
        Positive nameAuth0 hello ∧ Positive nameAuth1 auth ∧ Positive nameOpen opened
  | .send answer => (send client answer).Sound fun _ => Positive nameE answer
  | .sendMessage clock rawtime stack msg answer =>
      (sendMessage client clock rawtime stack msg answer).Sound fun _ => Positive nameE answer
  | .setfilter answer => (setfilter client answer).Sound fun _ => Positive nameSetfilter answer
  | .getinterfaces iflist answer =>
      (getinterfaces client iflist answer).Sound fun after =>
        ∃ reply, answer = some reply ∧ after = iflist ++ interfacesOf (replyArgs reply)
  | .getwcyd wcyd answer =>
      (getwcyd client wcyd answer).Sound fun after =>
        ∃ reply values, answer = some reply ∧ replyArgs reply = plus :: nameWcyd :: values ∧
          values.map readStringValue = (wordBytes after).map Int.ofNat

def Told (name : Text) (args : List Text) : Prop :=
  ∃ first second rest, args = first :: second :: rest ∧ (first = plus ↔ second = name)

def Readable (args : List Text) : Prop := args ≠ [] ∧ (args.head? = some plus → 2 ≤ args.length)

def Begins (name : Text) (args : List Text) : Prop := [plus, name] <+: args

def Fits (client : Client) : Operation → Prop
  | .connect hello auth opened =>
      client.conn = true → ∀ first, hello = some first → ∀ second, auth = some second → ∀ third, opened = some third →
        (replyArgs first).length = 3 → Begins nameAuth0 (replyArgs first) →
        ((replyArgs second).length < 2 ∨ Begins nameAuth1 (replyArgs second)) →
        Readable (replyArgs third) ∧ ((replyArgs second).length < 2 → ¬ Begins nameOpen (replyArgs third))
  | .send answer => client.bConnected = true → ∀ reply, answer = some reply → Told nameE (replyArgs reply)
  | .sendMessage _ _ _ msg answer =>
      msg.sizeData > 8 → client.bConnected = true → ∀ reply, answer = some reply → Told nameE (replyArgs reply)
  | .setfilter answer => client.bConnected = true → ∀ reply, answer = some reply → Told nameSetfilter (replyArgs reply)
  | .getinterfaces _ answer =>
      client.bConnected = true → ∀ reply, answer = some reply →
        (replyArgs reply).length ≤ 3 ∨ (∃ count, replyArgs reply = [plus, nameInterfaces, count, plus]) ∨
          ∃ first second rest, replyArgs reply = first :: second :: rest ∧ first ≠ plus ∧ second ≠ nameInterfaces
  | .getwcyd _ answer =>
      client.bConnected = true → ∀ reply, answer = some reply →
        (∃ values, replyArgs reply = plus :: nameWcyd :: values ∧ values.length = 8 ∧
          ∀ value ∈ values, 0 ≤ readStringValue value ∧ readStringValue value < 2 ^ 8) ∨
          (10 ≤ (replyArgs reply).length ∧
            ∃ first second rest, replyArgs reply = first :: second :: rest ∧ first ≠ plus ∧ second ≠ nameWcyd)

variable (client : Client) (args : List Text) (name : Text)

theorem begins_iff (args : List Text) : Begins name args ↔ ∃ rest, args = plus :: name :: rest := by
  constructor
  · rintro ⟨rest, rfl⟩
    exact ⟨rest, rfl⟩
  · rintro ⟨rest, rfl⟩
    exact ⟨rest, rfl⟩

theorem positive_iff (name text : Text) : Positive name (some text) ↔ Begins name (replyArgs text) := by
  rw [begins_iff]
  constructor
  · rintro ⟨other, rest, same, parts⟩
    rw [Option.some.inj same]
    exact ⟨rest, parts⟩
  · rintro ⟨rest, parts⟩
    exact ⟨text, rest, rfl, parts⟩

theorem either_accepts_iff :
    refusedByEither args name = some false ↔ Begins name args := by
  rw [begins_iff]
  rcases args with _ | ⟨first, _ | ⟨second, rest⟩⟩
  · exact iff_of_false (by rintro ⟨⟩) (by rintro ⟨rest, ⟨⟩⟩)
  · refine iff_of_false ?_ (by rintro ⟨rest, ⟨⟩⟩)
    by_cases same : first = plus <;> simp [refusedByEither, same]
  · by_cases same : first = plus <;> simp [refusedByEither, same]

theorem either_throws_iff : refusedByEither args name = none ↔ ¬ Readable args := by
  rcases args with _ | ⟨first, _ | ⟨second, rest⟩⟩
  · exact iff_of_true rfl fun readable => readable.1 rfl
  · by_cases same : first = plus <;> simp [refusedByEither, Readable, same]
  · by_cases same : first = plus <;> simp [refusedByEither, Readable, same]

-- The two tests joined by `&&` refuse only where both fields are wrong.
theorem both_refuses_iff (first second name : Text) (rest : List Text) :
    refusedByBoth (first :: second :: rest) name ≠ some false ↔ first ≠ plus ∧ second ≠ name := by
  by_cases same : first = plus <;> simp [refusedByBoth, same]

theorem answered_sound_iff (answer : Option Text) :
    (answered name answer).Sound (fun _ => Positive name answer) ↔
      ∀ reply, answer = some reply → Told name (replyArgs reply) := by
  cases answer with
  | none => exact iff_of_true (fun success => absurd success (by decide)) fun reply none => by cases none
  | some text =>
      rw [positive_iff, begins_iff]
      simp only [answered, Option.some.injEq, forall_eq']
      generalize replyArgs text = args
      have failed : VscpError.operationFailed.code ≠ vscpErrorSuccess := by decide
      rcases args with _ | ⟨first, _ | ⟨second, rest⟩⟩
      · exact iff_of_false id (by rintro ⟨first, second, rest, ⟨⟩, _⟩)
      · refine iff_of_false ?_ (by rintro ⟨first, second, rest, ⟨⟩, _⟩)
        by_cases same : first = plus
        · rw [refusedByBoth, if_pos same]
          intro sound
          obtain ⟨rest, more⟩ := sound rfl
          cases more
        · rw [refusedByBoth, if_neg same]
          exact id
      · have told : Told name (first :: second :: rest) ↔ (first = plus ↔ second = name) := by
          constructor
          · rintro ⟨_, _, _, ⟨⟩, both⟩
            exact both
          · exact fun both => ⟨first, second, rest, rfl, both⟩
        rw [told]
        by_cases same : first = plus
        · rw [refusedByBoth, if_pos same]
          simp [Result.Sound, same]
        · rw [refusedByBoth, if_neg same]
          by_cases named : second = name
          · simp [Result.Sound, same, named]
          · simp [Result.Sound, same, named, failed]

theorem send_right_iff (answer : Option Text) (name : Text) :
    (if ¬ client.bConnected then Result.returned VscpError.notConnected.code () else answered name answer).Sound
        (fun _ => Positive name answer) ↔
      (client.bConnected = true → ∀ reply, answer = some reply → Told name (replyArgs reply)) := by
  by_cases connected : client.bConnected = true
  · rw [if_neg (not_not.mpr connected), answered_sound_iff]
    exact (imp_iff_right connected).symm
  · rw [if_pos connected]
    exact iff_of_true (fun success => absurd success (by decide)) fun is => absurd is connected

theorem message_right_iff (clock : Clock) (rawtime : UInt64) (stack : VscpEventEx) (msg : CanalMsg)
    (answer : Option Text) :
    Right client (.sendMessage clock rawtime stack msg answer) ↔
      Fits client (.sendMessage clock rawtime stack msg answer) := by
  have taken := CanalClient.converted_iff clock rawtime emptyEvent msg
  simp only [Right, Fits, sendMessage, convertCanalToEventEx]
  by_cases fits : msg.sizeData ≤ 8
  · rw [if_pos (taken.mpr fits)]
    exact iff_of_true (fun success => absurd success (by decide)) fun large => absurd large (UInt8.not_lt.mpr fits)
  · rw [if_neg (mt taken.mp fits)]
    have large : msg.sizeData > 8 := UInt8.not_le.mp fits
    exact (send_right_iff client answer nameE).trans (imp_iff_right large).symm

theorem failure_sound {α : Type} (code : Int) (value : α) (good : α → Prop) (failed : code ≠ vscpErrorSuccess) :
    (Result.returned code value).Sound good := fun success => absurd success failed

theorem begins_long (args : List Text) (begins : Begins name args) : 2 ≤ args.length := begins.length_le

theorem hello_refused_iff :
    (args.length ≠ 3 ∨ refusedByEither args nameAuth0 ≠ some false) ↔ ¬ (args.length = 3 ∧ Begins nameAuth0 args) := by
  rw [ne_eq, ne_eq, either_accepts_iff, not_and_or]

theorem auth_refused_iff :
    (args.length ≥ 2 ∧ refusedByEither args nameAuth1 ≠ some false) ↔
      ¬ (args.length < 2 ∨ Begins nameAuth1 args) := by
  rw [ne_eq, either_accepts_iff, not_or, Nat.not_lt]

theorem opened_sound_iff (kept : Bool) (good : Prop) :
    (match refusedByEither args nameOpen with
      | none => .threw
      | some true => .returned VscpError.timeout.code false
      | some false => .returned vscpErrorSuccess kept : Result Bool).Sound (fun _ => good) ↔
      Readable args ∧ (Begins nameOpen args → good) := by
  have throws := either_throws_iff args nameOpen
  have accepts := either_accepts_iff args nameOpen
  cases looked : refusedByEither args nameOpen with
  | none => exact iff_of_false id fun both => throws.mp looked both.1
  | some refused =>
      have readable : Readable args := by
        by_contra unreadable
        rw [throws.mpr unreadable] at looked
        cases looked
      cases refused with
      | true =>
          refine iff_of_true (failure_sound _ _ _ (by decide)) ⟨readable, fun begins => ?_⟩
          rw [accepts.mpr begins] at looked
          cases looked
      | false =>
          have begins := accepts.mp looked
          exact ⟨fun sound => ⟨readable, fun _ => sound rfl⟩, fun both _ => both.2 begins⟩

theorem connect_right_iff (hello auth opened : Option Text) :
    Right client (.connect hello auth opened) ↔ Fits client (.connect hello auth opened) := by
  simp only [Right, Fits, connect]
  by_cases conn : client.conn = true
  swap
  · rw [if_pos conn]
    exact iff_of_true (failure_sound _ _ _ (by decide)) fun is => absurd is conn
  rw [if_neg (not_not.mpr conn), imp_iff_right conn]
  cases hello with
  | none => exact iff_of_true (failure_sound _ _ _ (by decide)) fun _ missing => by cases missing
  | some first =>
      cases auth with
      | none =>
          refine iff_of_true ?_ fun _ _ _ missing => by cases missing
          dsimp only
          split <;> exact failure_sound _ _ _ (by decide)
      | some second =>
          cases opened with
          | none =>
              refine iff_of_true ?_ fun _ _ _ _ _ missing => by cases missing
              dsimp only
              split <;> [skip; split] <;> exact failure_sound _ _ _ (by decide)
          | some third =>
              simp only [Option.some.injEq, forall_eq', positive_iff]
              have helloRefused := hello_refused_iff (replyArgs first)
              have authRefused := auth_refused_iff (replyArgs second)
              by_cases greeted : (replyArgs first).length = 3 ∧ Begins nameAuth0 (replyArgs first)
              swap
              · rw [if_pos (helloRefused.mpr greeted)]
                exact iff_of_true (failure_sound _ _ _ (by decide)) fun three begins => absurd ⟨three, begins⟩ greeted
              by_cases passed : (replyArgs second).length < 2 ∨ Begins nameAuth1 (replyArgs second)
              swap
              · rw [if_neg (mt helloRefused.mp (not_not.mpr greeted)), if_pos (authRefused.mpr passed)]
                exact iff_of_true (failure_sound _ _ _ (by decide)) fun _ _ passes => absurd passes passed
              rw [if_neg (mt helloRefused.mp (not_not.mpr greeted)), if_neg (mt authRefused.mp (not_not.mpr passed)),
                opened_sound_iff, imp_iff_right greeted.1, imp_iff_right greeted.2, imp_iff_right passed]
              refine and_congr_right fun _ => ?_
              constructor
              · intro positive short begins
                exact absurd (begins_long _ _ (positive begins).2.1) (Nat.not_le.mpr short)
              · intro long begins
                exact ⟨greeted.2, passed.resolve_left fun short => long short begins, begins⟩

theorem interface_loop_takes (i : Nat) (args iflist : List Text) :
    interfaceLoop i args iflist = iflist ++ args.take ((args.length - i + 1) / 2) := by
  induction args generalizing i iflist with
  | nil => rw [interfaceLoop, List.take_nil, List.append_nil]
  | cons front args ih =>
      rw [interfaceLoop, List.length_cons]
      split
      · have count : (args.length + 1 - i + 1) / 2 = (args.length - (i + 1) + 1) / 2 + 1 := by omega
        rw [ih, count, List.take_succ_cons, List.append_assoc, List.singleton_append]
      · have none : (args.length + 1 - i + 1) / 2 = 0 := by omega
        rw [none, List.take_zero, List.append_nil]

theorem short_interfaces (args iflist : List Text) (short : args.length ≤ 3) :
    interfaceLoop 3 args iflist = iflist ++ interfacesOf args := by
  have none : (args.length - 3 + 1) / 2 = 0 := by omega
  have empty : interfacesOf args = [] := by
    rcases args with _ | ⟨first, _ | ⟨second, _ | ⟨count, items⟩⟩⟩
    · rfl
    · rfl
    · rfl
    · have last : items = [] := List.length_eq_zero_iff.mp (by simp only [List.length_cons] at short; omega)
      rw [interfacesOf, last, ite_self]
  rw [interface_loop_takes, none, List.take_zero, empty]

theorem long_interfaces (first second count item : Text) (rest iflist : List Text) :
    interfaceLoop 3 (first :: second :: count :: item :: rest) iflist =
        iflist ++ interfacesOf (first :: second :: count :: item :: rest) ↔
      first = plus ∧ second = nameInterfaces ∧ item = plus ∧ rest = [] := by
  have taken : ((first :: second :: count :: item :: rest).length - 3 + 1) / 2 = rest.length / 2 + 1 := by
    simp only [List.length_cons]
    omega
  rw [interface_loop_takes, taken, List.take_succ_cons, List.append_cancel_left_eq, interfacesOf]
  constructor
  · intro same
    by_cases positive : first = plus ∧ second = nameInterfaces
    · rw [if_pos positive] at same
      obtain ⟨head, tail⟩ := List.cons.inj same
      have length := congrArg List.length tail
      rw [List.length_take] at length
      simp only [List.length_cons] at length
      have last : rest = [] := List.length_eq_zero_iff.mp (by omega)
      exact ⟨positive.1, positive.2, head ▸ positive.1, last⟩
    · rw [if_neg positive] at same
      cases same
  · rintro ⟨rfl, rfl, rfl, rfl⟩
    rfl

theorem interfaces_right_iff (iflist : List Text) (answer : Option Text) :
    Right client (.getinterfaces iflist answer) ↔ Fits client (.getinterfaces iflist answer) := by
  simp only [Right, Fits, getinterfaces]
  by_cases connected : client.bConnected = true
  swap
  · rw [if_pos connected]
    exact iff_of_true (failure_sound _ _ _ (by decide)) fun is => absurd is connected
  rw [if_neg (not_not.mpr connected), imp_iff_right connected]
  cases answer with
  | none => exact iff_of_true (failure_sound _ _ _ (by decide)) fun _ missing => by cases missing
  | some reply =>
      simp only [Option.some.injEq, forall_eq', exists_eq_left']
      generalize replyArgs reply = args
      by_cases short : args.length ≤ 3
      · refine iff_of_true ?_ (.inl short)
        split
        · exact failure_sound _ _ _ (by decide)
        · exact fun _ => short_interfaces args iflist short
      · rcases args with _ | ⟨first, _ | ⟨second, _ | ⟨count, _ | ⟨item, rest⟩⟩⟩⟩
        iterate 4 exact absurd (by simp) short
        have refused := both_refuses_iff first second nameInterfaces (count :: item :: rest)
        by_cases differ : first ≠ plus ∧ second ≠ nameInterfaces
        · rw [if_pos ⟨by simp, refused.mpr differ⟩]
          exact iff_of_true (failure_sound _ _ _ (by decide)) (.inr (.inr ⟨first, second, _, rfl, differ⟩))
        · rw [if_neg fun both => differ (refused.mp both.2)]
          have right := long_interfaces first second count item rest iflist
          constructor
          · intro sound
            obtain ⟨rfl, rfl, rfl, rfl⟩ := right.mp (sound rfl)
            exact .inr (.inl ⟨count, rfl⟩)
          · rintro (few | ⟨_, ⟨⟩⟩ | ⟨_, _, _, ⟨⟩, apart⟩)
            · exact absurd few short
            · exact fun _ => right.mpr ⟨rfl, rfl, rfl, rfl⟩
            · exact absurd apart differ

theorem capability_value (value : Text) (shift : Nat) (small : shift ≤ 56) (low : 0 ≤ readStringValue value)
    (high : readStringValue value < 2 ^ 8) :
    (capability value (UInt64.ofNat shift)).toNat = (readStringValue value).toNat * 2 ^ shift := by
  obtain ⟨count, is⟩ := Int.eq_ofNat_of_zero_le low
  have few : count < 2 ^ 8 := by omega
  have room : count * 2 ^ shift < 2 ^ 64 := by
    calc
      count * 2 ^ shift < 2 ^ 8 * 2 ^ shift := Nat.mul_lt_mul_of_pos_right few (Nat.two_pow_pos _)
      _ ≤ 2 ^ 8 * 2 ^ 56 := Nat.mul_le_mul_left _ (Nat.pow_le_pow_right (by decide) small)
      _ = 2 ^ 64 := by decide
  have shifted : (UInt64.ofNat shift).toNat = shift :=
    UInt64.toNat_ofNat_of_lt' (Nat.lt_of_le_of_lt small (by decide))
  have within : shift % 64 = shift := Nat.mod_eq_of_lt (by omega)
  rw [capability, is, word64_of_cast, UInt64.toNat_shiftLeft, UInt64.toNat_ofNat_of_lt' (Nat.lt_trans few (by decide)),
    shifted, within, Nat.shiftLeft_eq, Nat.mod_eq_of_lt room, Int.toNat_natCast]

theorem sum_fits (c2 c3 c4 c5 c6 c7 c8 c9 : UInt64)
    (fits : c2.toNat + c3.toNat + c4.toNat + c5.toNat + c6.toNat + c7.toNat + c8.toNat + c9.toNat < 2 ^ 64) :
    (c2 + c3 + c4 + c5 + c6 + c7 + c8 + c9).toNat =
      c2.toNat + c3.toNat + c4.toNat + c5.toNat + c6.toNat + c7.toNat + c8.toNat + c9.toNat := by
  simp only [UInt64.toNat_add, Nat.mod_add_mod]
  exact Nat.mod_eq_of_lt fits

theorem sum_bytes (x2 x3 x4 x5 x6 x7 x8 x9 : Nat) (b2 : x2 < 2 ^ 8) (b3 : x3 < 2 ^ 8) (b4 : x4 < 2 ^ 8) (b5 : x5 < 2 ^ 8)
    (b6 : x6 < 2 ^ 8) (b7 : x7 < 2 ^ 8) (b8 : x8 < 2 ^ 8) (b9 : x9 < 2 ^ 8) (word : UInt64)
    (is : word.toNat = x2 * 2 ^ 56 + x3 * 2 ^ 48 + x4 * 2 ^ 40 + x5 * 2 ^ 32 + x6 * 2 ^ 24 + x7 * 2 ^ 16 + x8 * 2 ^ 8 +
      x9 * 2 ^ 0) : wordBytes word = [x2, x3, x4, x5, x6, x7, x8, x9] := by
  simp only [wordBytes, List.map_cons, List.map_nil, List.cons.injEq, and_true]
  refine ⟨?_, ?_, ?_, ?_, ?_, ?_, ?_, ?_⟩ <;> omega

theorem byte_value (value : Text) (byte : 0 ≤ readStringValue value ∧ readStringValue value < 2 ^ 8) :
    (readStringValue value).toNat < 2 ^ 8 ∧ readStringValue value = Int.ofNat (readStringValue value).toNat := by
  obtain ⟨low, high⟩ := byte
  exact ⟨by omega, (Int.toNat_of_nonneg low).symm⟩

theorem capabilities_bytes (first second : Text) (values : List Text) (count : values.length = 8)
    (bytes : ∀ value ∈ values, 0 ≤ readStringValue value ∧ readStringValue value < 2 ^ 8) :
    ∃ word, capabilities (first :: second :: values) = some word ∧
      values.map readStringValue = (wordBytes word).map Int.ofNat := by
  match values, count with
  | [v2, v3, v4, v5, v6, v7, v8, v9], _ =>
      refine ⟨_, rfl, ?_⟩
      simp only [List.forall_mem_cons] at bytes
      obtain ⟨b2, b3, b4, b5, b6, b7, b8, b9, _⟩ := bytes
      have c2 : (capability v2 56).toNat = _ := capability_value v2 56 (by decide) b2.1 b2.2
      have c3 : (capability v3 48).toNat = _ := capability_value v3 48 (by decide) b3.1 b3.2
      have c4 : (capability v4 40).toNat = _ := capability_value v4 40 (by decide) b4.1 b4.2
      have c5 : (capability v5 32).toNat = _ := capability_value v5 32 (by decide) b5.1 b5.2
      have c6 : (capability v6 24).toNat = _ := capability_value v6 24 (by decide) b6.1 b6.2
      have c7 : (capability v7 16).toNat = _ := capability_value v7 16 (by decide) b7.1 b7.2
      have c8 : (capability v8 8).toNat = _ := capability_value v8 8 (by decide) b8.1 b8.2
      have c9 : (capability v9 0).toNat = _ := capability_value v9 0 (by decide) b9.1 b9.2
      obtain ⟨n2, i2⟩ := byte_value v2 b2
      obtain ⟨n3, i3⟩ := byte_value v3 b3
      obtain ⟨n4, i4⟩ := byte_value v4 b4
      obtain ⟨n5, i5⟩ := byte_value v5 b5
      obtain ⟨n6, i6⟩ := byte_value v6 b6
      obtain ⟨n7, i7⟩ := byte_value v7 b7
      obtain ⟨n8, i8⟩ := byte_value v8 b8
      obtain ⟨n9, i9⟩ := byte_value v9 b9
      have sum := sum_fits (capability v2 56) (capability v3 48) (capability v4 40) (capability v5 32) (capability v6 24)
        (capability v7 16) (capability v8 8) (capability v9 0) (by rw [c2, c3, c4, c5, c6, c7, c8, c9]; omega)
      rw [c2, c3, c4, c5, c6, c7, c8, c9] at sum
      rw [sum_bytes _ _ _ _ _ _ _ _ n2 n3 n4 n5 n6 n7 n8 n9 _ sum]
      simp only [List.map_cons, List.map_nil, ← i2, ← i3, ← i4, ← i5, ← i6, ← i7, ← i8, ← i9]

theorem word_bytes_small (word : UInt64) (byte : Nat) (member : byte ∈ wordBytes word) : byte < 2 ^ 8 := by
  obtain ⟨shift, _, rfl⟩ := List.mem_map.mp member
  exact Nat.mod_lt _ (by decide)

theorem capabilities_missing (short : args.length < 10) : capabilities args = none := by
  unfold capabilities
  split
  · simp only [List.length_cons] at short
    omega
  · rfl

theorem wcyd_right_iff (wcyd : UInt64) (answer : Option Text) :
    Right client (.getwcyd wcyd answer) ↔ Fits client (.getwcyd wcyd answer) := by
  simp only [Right, Fits, getwcyd]
  by_cases connected : client.bConnected = true
  swap
  · rw [if_pos connected]
    exact iff_of_true (failure_sound _ _ _ (by decide)) fun is => absurd is connected
  rw [if_neg (not_not.mpr connected), imp_iff_right connected]
  cases answer with
  | none => exact iff_of_true (failure_sound _ _ _ (by decide)) fun _ missing => by cases missing
  | some reply =>
      simp only [Option.some.injEq, forall_eq', exists_and_left, exists_eq_left']
      generalize replyArgs reply = args
      by_cases short : args.length < 10
      · rw [if_neg fun both => absurd both.1 (Nat.not_le.mpr short), capabilities_missing args short]
        refine iff_of_false id ?_
        rintro (⟨values, rfl, count, _⟩ | ⟨long, _⟩)
        · simp only [List.length_cons] at short
          omega
        · omega
      rcases args with _ | ⟨first, _ | ⟨second, values⟩⟩
      iterate 2 exact absurd (by simp) short
      have refused := both_refuses_iff first second nameWcyd values
      by_cases differ : first ≠ plus ∧ second ≠ nameWcyd
      · rw [if_pos ⟨Nat.not_lt.mp short, refused.mpr differ⟩]
        exact iff_of_true (failure_sound _ _ _ (by decide)) (.inr ⟨Nat.not_lt.mp short, first, second, _, rfl, differ⟩)
      · rw [if_neg fun both => differ (refused.mp both.2)]
        constructor
        · intro sound
          left
          cases given : capabilities (first :: second :: values) with
          | none =>
              rw [given] at sound
              exact sound.elim
          | some word =>
              rw [given] at sound
              obtain ⟨rest, parts, same⟩ := sound rfl
              refine ⟨rest, parts, ?_, fun value member => ?_⟩
              · have length := congrArg List.length same
                rw [List.length_map, List.length_map, wordBytes, List.length_map] at length
                exact length
              · have inside : readStringValue value ∈ (wordBytes word).map Int.ofNat :=
                  same ▸ List.mem_map_of_mem member
                obtain ⟨byte, byteMember, is⟩ := List.mem_map.mp inside
                have small := word_bytes_small word byte byteMember
                have whole : Int.ofNat byte = (byte : Int) := rfl
                rw [← is, whole]
                omega
        · rintro (⟨rest, parts, count, bytes⟩ | ⟨_, _, _, _, parts, apart⟩)
          · obtain ⟨word, given, same⟩ := capabilities_bytes first second values
              (by rw [(List.cons.inj (List.cons.inj parts).2).2]; exact count)
              (by rw [(List.cons.inj (List.cons.inj parts).2).2]; exact bytes)
            rw [given]
            exact fun _ => ⟨values, by rw [(List.cons.inj parts).1, (List.cons.inj (List.cons.inj parts).2).1], same⟩
          · obtain ⟨rfl, tail⟩ := List.cons.inj parts
            obtain ⟨rfl, _⟩ := List.cons.inj tail
            exact absurd apart differ

-- Every request treats the replies it gets right exactly where they are among those its tests are right for.
theorem replies_right_iff (client : Client) (operation : Operation) : Right client operation ↔ Fits client operation := by
  cases operation with
  | connect hello auth opened => exact connect_right_iff client hello auth opened
  | send answer => exact send_right_iff client answer nameE
  | sendMessage clock rawtime stack msg answer => exact message_right_iff client clock rawtime stack msg answer
  | setfilter answer => exact send_right_iff client answer nameSetfilter
  | getinterfaces iflist answer => exact interfaces_right_iff client iflist answer
  | getwcyd wcyd answer => exact wcyd_right_iff client wcyd answer

-- A negative reply to the event is a success, an empty one throws, and of one interface the plus is taken.
theorem negative_reply_is_success :
    let client : Client := ⟨true, true⟩
    send client (some "-;E".toList) = .returned vscpErrorSuccess () ∧ send client (some []) = .threw ∧
      getinterfaces client [] (some "+;INTERFACES;1;first".toList) = .returned vscpErrorSuccess [plus] ∧
      getwcyd client 0 (some "+;WCYD;1,2,3,4,5,6,7,8".toList) = .threw ∧
      ¬ Right client (.send (some "-;E".toList)) := by
  intro client
  refine ⟨by decide, by decide, by decide, by decide, fun right => ?_⟩
  obtain ⟨text, rest, same, parts⟩ := right (by decide)
  rw [← Option.some.inj same] at parts
  exact absurd (List.cons.inj parts).1 (by decide)

end Vscp.Ws1
