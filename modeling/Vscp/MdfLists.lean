import Vscp.Lib.OwnedList

set_option autoImplicit false

namespace Vscp.ModuleDescription

open OwnedList

section

variable {Object : Type} [DecidableEq Object]

def leave (store : Store Object) (value : Bool) : Edit Object := ⟨store.entries, .returned value, []⟩

-- The object was freed before, and is read or freed once more.
def misuse (entries : List Object) : Edit Object := ⟨entries, .undefined, []⟩

-- The place of the first entry that is wanted; none when an entry that is freed is read on the way.
@[grind =] def scan (freed : List Object) (wanted : Object → Bool) : List Object → Option (Option Nat)
  | [] => some none
  | entry :: rest =>
      if entry ∈ freed then none
      else if wanted entry then some (some 0)
      else (scan freed wanted rest).map (Option.map Nat.succ)

section

variable (key : Object → UInt16)

def getKeyed (store : Store Object) (wanted : UInt16) : Option (Option Nat) :=
  scan store.freed (fun entry => decide (key entry = wanted)) store.entries

-- The key of a new object must be unique.
def addKeyed (store : Store Object) : Option Object → Edit Object
  | none => leave store false
  | some object =>
      if object ∈ store.freed then misuse store.entries
      else
        match getKeyed key store (key object) with
        | none => misuse store.entries
        | some (some _) => leave store false
        | some none => ⟨store.entries ++ [object], .returned true, []⟩

-- What is erased is the first entry with the key of the object; what is freed is the object. An empty list reads no
-- key.
def deleteKeyed (store : Store Object) : Option Object → Edit Object
  | none => leave store false
  | some object =>
      if store.entries = [] then leave store false
      else if object ∈ store.freed then misuse store.entries
      else
        match getKeyed key store (key object) with
        | none => misuse store.entries
        | some none => leave store false
        | some (some place) => ⟨store.entries.eraseIdx place, .returned true, [object]⟩

-- What is freed is read through the iterator that erase took: `stale` is what that is in a list and place.
def deleteByKey (stale : List Object → Nat → Object) (store : Store Object) (wanted : UInt8) : Edit Object :=
  match getKeyed key store wanted.toUInt16 with
  | none => misuse store.entries
  | some none => leave store false
  | some (some place) =>
      let object := stale store.entries place
      if object ∈ store.freed then misuse (store.entries.eraseIdx place)
      else ⟨store.entries.eraseIdx place, .returned true, [object]⟩

end

def addPointer (store : Store Object) : Option Object → Edit Object
  | none => leave store false
  | some object => ⟨store.entries ++ [object], .returned true, []⟩

def deletePointer (store : Store Object) : Option Object → Edit Object
  | none => leave store false
  | some object =>
      if object ∈ store.entries then
        if object ∈ store.freed then misuse (store.entries.erase object)
        else ⟨store.entries.erase object, .returned true, [object]⟩
      else leave store false

end

section

variable {Object : Type} [DecidableEq Object]

def addActionParam (getOffset : Object → UInt16) : Store Object → Option Object → Edit Object := addKeyed getOffset
def deleteActionParam (getOffset : Object → UInt16) : Store Object → Option Object → Edit Object := deleteKeyed getOffset
def deleteActionParamOffset (getOffset : Object → UInt16) (stale : List Object → Nat → Object) :
    Store Object → UInt8 → Edit Object :=
  deleteByKey getOffset stale

def addAction (getCode : Object → UInt16) : Store Object → Option Object → Edit Object := addKeyed getCode
def deleteAction (getCode : Object → UInt16) : Store Object → Option Object → Edit Object := deleteKeyed getCode
def deleteActionCode (getCode : Object → UInt16) (stale : List Object → Nat → Object) :
    Store Object → UInt8 → Edit Object :=
  deleteByKey getCode stale

def addEventData : Store Object → Option Object → Edit Object := addPointer
def deleteEventData : Store Object → Option Object → Edit Object := deletePointer

-- Registers and remote variables have no function that adds: the reader pushes what it has made.
def pushRegister : Store Object → Option Object → Edit Object := addPointer
def deleteRegister : Store Object → Option Object → Edit Object := deletePointer
def pushRemoteVariable : Store Object → Option Object → Edit Object := addPointer
def deleteRemoteVariable : Store Object → Option Object → Edit Object := deletePointer

def addEvent : Store Object → Option Object → Edit Object := addPointer
def deleteEvent : Store Object → Option Object → Edit Object := deletePointer

def editActionParams (getOffset : Object → UInt16) (stale : List Object → Nat → Object) (store : Store Object) :
    Request Object UInt8 → Edit Object
  | .add object => addActionParam getOffset store object
  | .delete object => deleteActionParam getOffset store object
  | .deleteKey offset => deleteActionParamOffset getOffset stale store offset

def editActions (getCode : Object → UInt16) (stale : List Object → Nat → Object) (store : Store Object) :
    Request Object UInt8 → Edit Object
  | .add object => addAction getCode store object
  | .delete object => deleteAction getCode store object
  | .deleteKey code => deleteActionCode getCode stale store code

def editPointers (add delete : Store Object → Option Object → Edit Object) (store : Store Object) :
    Request Object Empty → Edit Object
  | .add object => add store object
  | .delete object => delete store object

def editEventData : Store Object → Request Object Empty → Edit Object := editPointers addEventData deleteEventData
def editRegisters : Store Object → Request Object Empty → Edit Object := editPointers pushRegister deleteRegister
def editRemoteVariables : Store Object → Request Object Empty → Edit Object :=
  editPointers pushRemoteVariable deleteRemoteVariable
def editEvents : Store Object → Request Object Empty → Edit Object := editPointers addEvent deleteEvent

def hasKey (key : Object → UInt16) (wanted : UInt8) (entry : Object) : Bool := decide (key entry = wanted.toUInt16)

def noKey (wanted : Empty) (_ : Object) : Bool := nomatch wanted

-- A pointer that is deleted is in the list, or none of the list has its key; a key that is deleted is not there, or the
-- iterator still denotes what was erased.
def KeyedSafe (key : Object → UInt16) (stale : List Object → Nat → Object) (store : Store Object) :
    Request Object UInt8 → Prop
  | .add _ => True
  | .delete none => True
  | .delete (some object) =>
      object ∈ store.entries ∨ store.entries = [] ∨
        (object ∉ store.freed ∧ ∀ entry ∈ store.entries, key entry ≠ key object)
  | .deleteKey wanted =>
      ∀ place, store.entries.findIdx? (hasKey key wanted) = some place →
        store.entries[place]? = some (stale store.entries place)

theorem scan_alive (freed : List Object) (wanted : Object → Bool) (entries : List Object)
    (alive : ∀ entry ∈ entries, entry ∉ freed) : scan freed wanted entries = some (entries.findIdx? wanted) := by
  induction entries with
  | nil => rfl
  | cons entry rest ih =>
      rw [scan, if_neg (alive entry List.mem_cons_self), List.findIdx?_cons,
        ih fun other member => alive other (List.mem_cons_of_mem _ member)]
      cases wanted entry <;> rfl

theorem erase_found (entries : List Object) (nodup : entries.Nodup) (place : Nat) (object : Object)
    (found : entries[place]? = some object) : entries.eraseIdx place = entries.erase object := by
  obtain ⟨inside, same⟩ := List.getElem?_eq_some_iff.mp found
  rw [← same]
  exact (nodup.erase_getElem place inside).symm

theorem keyed_place (key : Object → UInt16) (store : Store Object) (wanted : UInt16)
    (alive : ∀ entry ∈ store.entries, entry ∉ store.freed) :
    getKeyed key store wanted = some (store.entries.findIdx? fun entry => decide (key entry = wanted)) :=
  scan_alive _ _ _ alive

theorem add_keyed_right (key : Object → UInt16) (store : Store Object) (object : Option Object)
    (alive : ∀ entry ∈ store.entries, entry ∉ store.freed)
    (fresh : ∀ new, object = some new → (addKeyed key store object).answer ≠ .returned false → new ∉ store.freed) :
    RightEdit (hasKey key) store.entries (.add object) (addKeyed key store object) := by
  refine right_add _ _ _ _ ?_
  cases object with
  | none => exact Or.inl ⟨rfl, rfl, rfl⟩
  | some new =>
      have taken := fresh new rfl
      rw [addKeyed] at taken ⊢
      by_cases freed : new ∈ store.freed
      · rw [if_pos freed] at taken
        exact absurd freed (taken fun same => by cases same)
      · rw [if_neg freed, keyed_place key store _ alive]
        cases store.entries.findIdx? fun entry => decide (key entry = key new) with
        | none => exact Or.inr ⟨new, rfl, rfl, rfl, rfl⟩
        | some place => exact Or.inl ⟨rfl, rfl, rfl⟩

theorem delete_keyed_right_iff (key : Object → UInt16) (stale : List Object → Nat → Object) (store : Store Object)
    (object : Option Object) (nodup : store.entries.Nodup)
    (unique : (store.entries.map key).Nodup)
    (alive : ∀ entry ∈ store.entries, entry ∉ store.freed) :
    RightEdit (hasKey key) store.entries (.delete object) (deleteKeyed key store object) ↔
      KeyedSafe key stale store (.delete object) := by
  have deletes : ∀ other, (Request.delete object : Request Object UInt8) ≠ .add other := fun _ same => by cases same
  cases object with
  | none => exact iff_of_true (right_delete_missing _ _ _ deletes rfl) trivial
  | some object =>
      rw [deleteKeyed, KeyedSafe]
      by_cases empty : store.entries = []
      · rw [if_pos empty]
        refine iff_of_true (right_delete_missing _ _ _ deletes ?_) (Or.inr (Or.inl empty))
        rw [asked, empty, if_neg List.not_mem_nil]
      · rw [if_neg empty]
        by_cases freed : object ∈ store.freed
        · rw [if_pos freed]
          have missing : object ∉ store.entries := fun member => alive object member freed
          refine iff_of_false (fun right => ?_) (fun safe => ?_)
          · cases (right_delete_fair _ _ _ _ deletes right).1
          · rcases safe with member | nothing | ⟨living, -⟩
            · exact missing member
            · exact empty nothing
            · exact living freed
        · rw [if_neg freed, keyed_place key store _ alive]
          cases found : store.entries.findIdx? fun entry => decide (key entry = key object) with
          | none =>
              have absent := List.findIdx?_eq_none_iff.mp found
              have other : ∀ entry ∈ store.entries, key entry ≠ key object :=
                fun entry member => of_decide_eq_false (absent entry member)
              have missing : object ∉ store.entries := fun member => other object member rfl
              refine iff_of_true (right_delete_missing _ _ _ deletes ?_) (Or.inr (Or.inr ⟨freed, other⟩))
              rw [asked, if_neg missing]
          | some place =>
              obtain ⟨inside, same, -⟩ := List.findIdx?_eq_some_iff_getElem.mp found
              have keyed := of_decide_eq_true same
              by_cases member : object ∈ store.entries
              · have entry : store.entries[place] = object :=
                  List.inj_on_of_nodup_map unique (List.getElem_mem inside) member keyed
                refine iff_of_true ?_ (Or.inl member)
                simp only
                rw [erase_found _ nodup place object (List.getElem?_eq_some_iff.mpr ⟨inside, entry⟩)]
                exact right_delete_found _ _ _ _ nodup (if_pos member)
              · refine iff_of_false (fun right => ?_) (fun safe => ?_)
                · have answer := (right_delete_fair _ _ _ _ deletes right).1
                  rw [asked, if_neg member] at answer
                  cases answer
                · rcases safe with listed | nothing | ⟨-, other⟩
                  · exact member listed
                  · exact empty nothing
                  · exact other _ (List.getElem_mem inside) keyed

theorem delete_key_right_iff (key : Object → UInt16) (stale : List Object → Nat → Object) (store : Store Object)
    (wanted : UInt8) (nodup : store.entries.Nodup) (alive : ∀ entry ∈ store.entries, entry ∉ store.freed) :
    RightEdit (hasKey key) store.entries (.deleteKey wanted) (deleteByKey key stale store wanted) ↔
      KeyedSafe key stale store (.deleteKey wanted) := by
  have deletes : ∀ other, (Request.deleteKey wanted : Request Object UInt8) ≠ .add other := fun _ same => by cases same
  have asks : asked (hasKey key) store.entries (.deleteKey wanted) =
      (store.entries.findIdx? (hasKey key wanted)).bind fun place => store.entries[place]? :=
    List.find?_eq_bind_findIdx?_getElem?
  have place := keyed_place key store wanted.toUInt16 alive
  change getKeyed key store wanted.toUInt16 = some (store.entries.findIdx? (hasKey key wanted)) at place
  rw [deleteByKey, KeyedSafe, place]
  cases found : store.entries.findIdx? (hasKey key wanted) with
  | none =>
      rw [found] at asks
      exact iff_of_true (right_delete_missing _ _ _ deletes asks) (fun _ same => by cases same)
  | some place =>
      obtain ⟨inside, -⟩ := List.findIdx?_eq_some_iff_getElem.mp found
      have entry : store.entries[place]? = some store.entries[place] := List.getElem?_eq_getElem inside
      rw [found, Option.bind_some, entry] at asks
      simp only
      by_cases same : store.entries[place] = stale store.entries place
      · have living := alive _ (List.getElem_mem inside)
        rw [same] at living entry asks
        rw [if_neg living, erase_found _ nodup place _ entry]
        refine iff_of_true (right_delete_found _ _ _ _ nodup asks) ?_
        rintro _ ⟨⟩
        exact entry
      · refine iff_of_false (fun right => ?_) (fun safe => ?_)
        · have fair := right_delete_fair _ _ _ _ deletes right
          rw [asks] at fair
          by_cases freed : stale store.entries place ∈ store.freed
          · rw [if_pos freed] at fair
            cases fair.1
          · rw [if_neg freed] at fair
            exact same (List.cons.inj fair.2).1.symm
        · have now := safe place rfl
          rw [entry] at now
          exact same (Option.some.inj now)

theorem edit_keyed_unique (key : Object → UInt16) (stale : List Object → Nat → Object) (store : Store Object)
    (request : Request Object UInt8) (unique : (store.entries.map key).Nodup)
    (alive : ∀ entry ∈ store.entries, entry ∉ store.freed) :
    ((editActions key stale store request).entries.map key).Nodup := by
  have erased : ∀ place, ((store.entries.eraseIdx place).map key).Nodup := fun place =>
    unique.sublist ((List.eraseIdx_sublist _ _).map key)
  cases request with
  | add object =>
      rw [editActions, addAction]
      cases object with
      | none => exact unique
      | some object =>
          rw [addKeyed]
          by_cases freed : object ∈ store.freed
          · rw [if_pos freed]
            exact unique
          · rw [if_neg freed, keyed_place key store _ alive]
            cases found : store.entries.findIdx? fun entry => decide (key entry = key object) with
            | some place => exact unique
            | none =>
                have absent := List.findIdx?_eq_none_iff.mp found
                simp only [List.map_append, List.map_cons, List.map_nil]
                refine List.nodup_append.mpr ⟨unique, List.nodup_singleton _, ?_⟩
                intro taken member other single
                obtain ⟨entry, listed, rfl⟩ := List.mem_map.mp member
                rw [List.mem_singleton.mp single]
                exact of_decide_eq_false (absent entry listed)
  | delete object =>
      rw [editActions, deleteAction]
      cases object with
      | none => exact unique
      | some object =>
          rw [deleteKeyed]
          by_cases empty : store.entries = []
          · rw [if_pos empty]
            exact unique
          · rw [if_neg empty]
            by_cases freed : object ∈ store.freed
            · rw [if_pos freed]
              exact unique
            · rw [if_neg freed, keyed_place key store _ alive]
              cases store.entries.findIdx? fun entry => decide (key entry = key object) with
              | none => exact unique
              | some place => exact erased place
  | deleteKey wanted =>
      rw [editActions, deleteActionCode, deleteByKey, keyed_place key store _ alive]
      cases store.entries.findIdx? fun entry => decide (key entry = wanted.toUInt16) with
      | none => exact unique
      | some place =>
          simp only
          by_cases freed : stale store.entries place ∈ store.freed
          · rw [if_pos freed]
            exact erased place
          · rw [if_neg freed]
            exact erased place

-- Every list starts empty.
def emptyStore : Store Object := ⟨[], []⟩

theorem empty_reached {Key : Type} (denotes : Key → Object → Bool) : Reached denotes emptyStore [] :=
  ⟨⟨rfl, trivial, fun _ member => by cases member⟩, rfl, fun _ member => by cases member⟩

theorem keyed_ledger_iff (key : Object → UInt16) (stale : List Object → Nat → Object)
    (requests : List (Request Object UInt8)) (once : Once (Run.run (step (editActions key stale)) emptyStore requests).2) :
    Run.Throughout (step (editActions key stale)) (Right (hasKey key)) emptyStore [] requests ↔
      Run.Meets (step (editActions key stale)) (KeyedSafe key stale) emptyStore requests := by
  refine throughout_iff_meets (hasKey key) (editActions key stale) (KeyedSafe key stale)
    (fun entries => (entries.map key).Nodup) (edit_keyed_unique key stale) ?_ emptyStore [] requests List.nodup_nil
    (empty_reached _) once
  intro store request unique nodup alive fresh
  cases request with
  | add object =>
      refine iff_of_true (add_keyed_right key store object alive ?_) trivial
      intro new same
      exact fresh new (congrArg Request.add same)
  | delete object => exact delete_keyed_right_iff key stale store object nodup unique alive
  | deleteKey wanted => exact delete_key_right_iff key stale store wanted nodup alive

theorem pointer_edit_right (store : Store Object) (request : Request Object Empty) (nodup : store.entries.Nodup)
    (alive : ∀ entry ∈ store.entries, entry ∉ store.freed) :
    RightEdit noKey store.entries request (editEvents store request) := by
  cases request with
  | add object =>
      cases object with
      | none => exact right_add _ _ _ _ (Or.inl ⟨rfl, rfl, rfl⟩)
      | some object => exact right_add _ _ _ _ (Or.inr ⟨object, rfl, rfl, rfl, rfl⟩)
  | delete object =>
      have deletes : ∀ other, (Request.delete object : Request Object Empty) ≠ .add other := fun _ same => by cases same
      cases object with
      | none => exact right_delete_missing _ _ _ deletes rfl
      | some object =>
          rw [editEvents, editPointers, deleteEvent, deletePointer]
          by_cases member : object ∈ store.entries
          · rw [if_pos member, if_neg (alive object member)]
            exact right_delete_found _ _ _ _ nodup (if_pos member)
          · rw [if_neg member]
            exact right_delete_missing _ _ _ deletes (if_neg member)
  | deleteKey wanted => cases wanted

theorem pointer_ledger (requests : List (Request Object Empty))
    (once : Once (Run.run (step editEvents) (emptyStore : Store Object) requests).2) :
    Run.Throughout (step editEvents) (Right noKey) (emptyStore : Store Object) [] requests := by
  refine (throughout_iff_meets noKey editEvents (fun _ _ => True) (fun _ => True) (fun _ _ _ _ => trivial) ?_ emptyStore []
    requests trivial (empty_reached _) once).mpr (Run.meets_always _ _ _)
  intro store request _ nodup alive _
  exact iff_of_true (pointer_edit_right store request nodup alive) trivial

-- A run of edits, where every object is added once, keeps the list what it says.
def KeepsLedger {Key : Type} (edit : Store Object → Request Object Key → Edit Object) (denotes : Key → Object → Bool)
    (requests : List (Request Object Key)) : Prop :=
  Run.Throughout (step edit) (Right denotes) emptyStore [] requests

def AddsOnce {Key : Type} (edit : Store Object → Request Object Key → Edit Object)
    (requests : List (Request Object Key)) : Prop :=
  Once (Run.run (step edit) emptyStore requests).2

end

theorem edits_keep_ledger_iff {Param Action EventData Register RemoteVariable Event : Type} [DecidableEq Param]
    [DecidableEq Action] [DecidableEq EventData] [DecidableEq Register] [DecidableEq RemoteVariable] [DecidableEq Event]
    (getOffset : Param → UInt16) (staleParam : List Param → Nat → Param) (getCode : Action → UInt16)
    (staleAction : List Action → Nat → Action) :
    (∀ requests, AddsOnce (editActionParams getOffset staleParam) requests →
      (KeepsLedger (editActionParams getOffset staleParam) (hasKey getOffset) requests ↔
        Run.Meets (step (editActionParams getOffset staleParam)) (KeyedSafe getOffset staleParam) emptyStore requests)) ∧
      (∀ requests, AddsOnce (editActions getCode staleAction) requests →
        (KeepsLedger (editActions getCode staleAction) (hasKey getCode) requests ↔
          Run.Meets (step (editActions getCode staleAction)) (KeyedSafe getCode staleAction) emptyStore requests)) ∧
      (∀ requests : List (Request EventData Empty), AddsOnce editEventData requests →
        KeepsLedger editEventData noKey requests) ∧
      (∀ requests : List (Request Register Empty), AddsOnce editRegisters requests →
        KeepsLedger editRegisters noKey requests) ∧
      (∀ requests : List (Request RemoteVariable Empty), AddsOnce editRemoteVariables requests →
        KeepsLedger editRemoteVariables noKey requests) ∧
      ∀ requests : List (Request Event Empty), AddsOnce editEvents requests →
        KeepsLedger editEvents noKey requests :=
  ⟨keyed_ledger_iff getOffset staleParam, keyed_ledger_iff getCode staleAction, pointer_ledger, pointer_ledger,
    pointer_ledger, pointer_ledger⟩

theorem edits_keep_ledger_iff_one :
    KeepsLedger (editActions UInt16.ofNat fun _ _ => 0) (hasKey UInt16.ofNat) [.add (some 1), .delete (some 1)] ∧
      KeepsLedger (editEvents : Store Nat → Request Nat Empty → Edit Nat) noKey [.add (some 1), .delete (some 1)] := by
  have all := @edits_keep_ledger_iff Nat Nat Nat Nat Nat Nat _ _ _ _ _ _ UInt16.ofNat (fun _ _ => 0) UInt16.ofNat
    fun _ _ => 0
  exact ⟨(all.2.1 [.add (some 1), .delete (some 1)] (by rw [AddsOnce, Once]; decide)).mpr
    ⟨trivial, Or.inl (by decide), trivial⟩,
    all.2.2.2.2.2 [.add (some 1), .delete (some 1)] (by rw [AddsOnce, Once]; decide)⟩

-- Of a deque, the shorter side is moved: the iterator denotes a neighbour, unless the erased entry was the first or the
-- last one.
def dequeStale (entries : List Nat) (place : Nat) : Nat :=
  if place < entries.length / 2 then entries.getD (place - 1) 0
  else entries.getD (min (place + 1) (entries.length - 1)) 0

-- A parameter that was never added frees its namesake's place; deleting the middle one of three frees the last one.
theorem namesake_deleted :
    (AddsOnce (editActionParams (fun param => UInt16.ofNat (param % 2)) dequeStale) [.add (some 1), .delete (some 3)] ∧
      ¬KeepsLedger (editActionParams (fun param => UInt16.ofNat (param % 2)) dequeStale)
        (hasKey fun param => UInt16.ofNat (param % 2)) [.add (some 1), .delete (some 3)]) ∧
      AddsOnce (editActions UInt16.ofNat dequeStale) [.add (some 1), .add (some 2), .add (some 3), .deleteKey 2] ∧
        ¬KeepsLedger (editActions UInt16.ofNat dequeStale) (hasKey UInt16.ofNat)
          [.add (some 1), .add (some 2), .add (some 3), .deleteKey 2] := by
  have first : AddsOnce (editActionParams (fun param => UInt16.ofNat (param % 2)) dequeStale)
      [.add (some 1), .delete (some 3)] := by
    rw [AddsOnce, Once]
    decide
  have second : AddsOnce (editActions UInt16.ofNat dequeStale)
      [.add (some 1), .add (some 2), .add (some 3), .deleteKey 2] := by
    rw [AddsOnce, Once]
    decide
  refine ⟨⟨first, fun keeps => ?_⟩, second, fun keeps => ?_⟩
  · have safe := ((keyed_ledger_iff _ _ _ first).mp keeps).2.1
    rcases safe with member | empty | ⟨-, other⟩
    · exact absurd member (by decide)
    · cases empty
    · exact other 1 (by decide) rfl
  · have safe := ((keyed_ledger_iff _ _ _ second).mp keeps).2.2.2.1 1 rfl
    cases safe

end Vscp.ModuleDescription
