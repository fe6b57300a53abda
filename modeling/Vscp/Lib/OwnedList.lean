import Vscp.Lib.Run

set_option autoImplicit false

namespace OwnedList

variable {Object Key : Type}

inductive Request (Object Key : Type) where
  | add (object : Option Object)
  | delete (object : Option Object)
  | deleteKey (key : Key)

inductive Answer where
  | returned (value : Bool)
  | undefined
  deriving DecidableEq

structure Report (Object Key : Type) where
  request : Request Object Key
  answer : Answer
  freed : List Object

structure Store (Object : Type) where
  entries : List Object
  freed : List Object

structure Edit (Object : Type) where
  entries : List Object
  answer : Answer
  freed : List Object

def step (edit : Store Object → Request Object Key → Edit Object) (store : Store Object)
    (request : Request Object Key) : Store Object × List (Report Object Key) :=
  let done := edit store request
  ({ entries := done.entries, freed := store.freed ++ done.freed }, [⟨request, done.answer, done.freed⟩])

def Report.added (report : Report Object Key) : Option Object :=
  match report.request with
  | .add object => if report.answer = .returned false then none else object
  | _ => none

def added (reports : List (Report Object Key)) : List Object := reports.filterMap Report.added

def Once (reports : List (Report Object Key)) : Prop := (added reports).Nodup

def freedBy (reports : List (Report Object Key)) : List Object := reports.flatMap Report.freed

theorem freed_by_snoc (past : List (Report Object Key)) (report : Report Object Key) :
    freedBy (past ++ [report]) = freedBy past ++ report.freed := by
  simp [freedBy]

theorem added_append (past later : List (Report Object Key)) : added (past ++ later) = added past ++ added later :=
  List.filterMap_append

theorem once_of_append (past later : List (Report Object Key)) (once : Once (past ++ later)) : Once past := by
  rw [Once, added_append] at once
  exact once.sublist (List.sublist_append_left _ _)

theorem added_of_taken (object : Object) (answer : Answer) (freed : List Object)
    (accepted : answer ≠ .returned false) :
    (⟨.add (some object), answer, freed⟩ : Report Object Key).added = some object :=
  if_neg accepted

theorem added_snoc (past : List (Report Object Key)) (report : Report Object Key) :
    added (past ++ [report]) = added past ++ report.added.toList := by
  cases taken : report.added <;> simp [added, taken]

section

variable [DecidableEq Object] (denotes : Key → Object → Bool)

def asked (entries : List Object) : Request Object Key → Option Object
  | .add _ => none
  | .delete none => none
  | .delete (some object) => if object ∈ entries then some object else none
  | .deleteKey key => entries.find? (denotes key)

def after (entries : List Object) (report : Report Object Key) : List Object :=
  match report.request with
  | .add none => entries
  | .add (some object) => if report.answer = .returned true then entries ++ [object] else entries
  | request => entries.filter fun entry => decide (some entry ≠ asked denotes entries request)

def ledger (reports : List (Report Object Key)) : List Object := reports.foldl (after denotes) []

-- A deletion says whether the object was there, and exactly that object is freed.
def FairOn (entries : List Object) (report : Report Object Key) : Prop :=
  (match report.request with
    | .add _ => ∃ value, report.answer = .returned value
    | request => report.answer = .returned (asked denotes entries request).isSome) ∧
    report.freed = (asked denotes entries report.request).toList

def Fair (past : List (Report Object Key)) (report : Report Object Key) : Prop :=
  FairOn denotes (ledger denotes past) report

def Right (store : Store Object) (past : List (Report Object Key)) : Prop :=
  store.entries = ledger denotes past ∧ Run.Sound (Fair denotes) [] past ∧ ∀ entry ∈ store.entries, entry ∉ freedBy past

theorem ledger_snoc (past : List (Report Object Key)) (report : Report Object Key) :
    ledger denotes (past ++ [report]) = after denotes (ledger denotes past) report := by
  rw [ledger, List.foldl_append]
  rfl

variable (entries : List Object) (request : Request Object Key)

variable (object : Object)

theorem asked_mem (found : asked denotes entries request = some object) : object ∈ entries := by
  cases request with
  | add _ => cases found
  | delete wanted =>
      cases wanted with
      | none => cases found
      | some wanted =>
          rw [asked] at found
          split at found
          · rename_i member
            cases found
            exact member
          · cases found
  | deleteKey key => exact List.mem_of_find?_eq_some found

variable (report : Report Object Key)

theorem after_sublist :
    (after denotes entries report).Sublist (entries ++ report.added.toList) := by
  rw [after, Report.added]
  cases request : report.request with
  | add object =>
      cases object with
      | none => exact List.sublist_append_left _ _
      | some object =>
          simp only
          by_cases taken : report.answer = .returned true
          · rw [if_pos taken, taken, if_neg (by decide)]
            exact List.Sublist.refl _
          · rw [if_neg taken]
            exact List.sublist_append_left _ _
  | delete object => exact List.filter_sublist.trans (List.sublist_append_left _ _)
  | deleteKey key => exact List.filter_sublist.trans (List.sublist_append_left _ _)

variable (edit : Store Object → Request Object Key → Edit Object) (store : Store Object)
    (past : List (Report Object Key))

theorem ledger_sublist : (ledger denotes past).Sublist (added past) := by
  induction past using List.reverseRecOn with
  | nil => exact List.Sublist.refl _
  | append_singleton past report ih =>
      rw [ledger_snoc, added_snoc]
      exact (after_sublist denotes _ report).trans (ih.append (List.Sublist.refl _))

theorem after_kept (entry : Object)
    (member : entry ∈ after denotes entries report) :
    (entry ∈ entries ∧ some entry ≠ asked denotes entries report.request) ∨
      (report.added = some entry ∧ asked denotes entries report.request = none) := by
  rw [after] at member
  rw [Report.added]
  cases request : report.request with
  | add object =>
      rw [request] at member
      cases object with
      | none => exact Or.inl ⟨member, fun same => by cases same⟩
      | some object =>
          simp only at member
          by_cases taken : report.answer = .returned true
          · rw [if_pos taken] at member
            rcases List.mem_append.mp member with old | new
            · exact Or.inl ⟨old, fun same => by cases same⟩
            · rw [List.mem_singleton.mp new, taken]
              exact Or.inr ⟨rfl, rfl⟩
          · rw [if_neg taken] at member
            exact Or.inl ⟨member, fun same => by cases same⟩
  | delete object =>
      rw [request] at member
      obtain ⟨old, other⟩ := List.mem_filter.mp member
      exact Or.inl ⟨old, of_decide_eq_true other⟩
  | deleteKey key =>
      rw [request] at member
      obtain ⟨old, other⟩ := List.mem_filter.mp member
      exact Or.inl ⟨old, of_decide_eq_true other⟩

structure Reached (store : Store Object) (past : List (Report Object Key)) : Prop where
  right : Right denotes store past
  freed : store.freed = freedBy past
  known : ∀ object ∈ freedBy past, object ∈ added past

def RightEdit (entries : List Object) (request : Request Object Key) (done : Edit Object) : Prop :=
  done.entries = after denotes entries ⟨request, done.answer, done.freed⟩ ∧
    FairOn denotes entries ⟨request, done.answer, done.freed⟩

theorem right_delete_found (nodup : entries.Nodup)
    (found : asked denotes entries request = some object) :
    RightEdit denotes entries request ⟨entries.erase object, .returned true, [object]⟩ := by
  have kept : entries.erase object = entries.filter fun entry => decide (some entry ≠ asked denotes entries request) := by
    rw [nodup.erase_eq_filter, found]
    refine List.filter_congr fun entry _ => ?_
    simp only [ne_eq, Option.some.injEq, bne, decide_not]
    rfl
  have answered := congrArg (fun object : Option Object => Answer.returned object.isSome) found
  have freed := congrArg Option.toList found
  have answered := congrArg (fun object : Option Object => Answer.returned object.isSome) found
  have freed := congrArg Option.toList found
  cases request with
  | add _ => cases found
  | delete wanted => exact ⟨kept, answered.symm, freed.symm⟩
  | deleteKey key => exact ⟨kept, answered.symm, freed.symm⟩

theorem right_delete_missing (deletes : ∀ object, request ≠ .add object) (missing : asked denotes entries request = none) :
    RightEdit denotes entries request ⟨entries, .returned false, []⟩ := by
  have kept : entries = entries.filter fun entry => decide (some entry ≠ asked denotes entries request) := by
    rw [missing]
    exact (List.filter_eq_self.mpr fun entry _ => decide_eq_true fun same => by cases same).symm
  have answered := congrArg (fun object : Option Object => Answer.returned object.isSome) missing
  have freed := congrArg Option.toList missing
  cases request with
  | add object => exact absurd rfl (deletes object)
  | delete wanted => exact ⟨kept, answered.symm, freed.symm⟩
  | deleteKey key => exact ⟨kept, answered.symm, freed.symm⟩

theorem right_delete_fair (done : Edit Object)
    (deletes : ∀ object, request ≠ .add object) (right : RightEdit denotes entries request done) :
    done.answer = .returned (asked denotes entries request).isSome ∧
      done.freed = (asked denotes entries request).toList := by
  cases request with
  | add object => exact absurd rfl (deletes object)
  | delete wanted => exact right.2
  | deleteKey key => exact right.2

theorem right_add (object : Option Object) (done : Edit Object)
    (right : (done.entries = entries ∧ done.answer = .returned false ∧ done.freed = []) ∨
      ∃ new, object = some new ∧ done.entries = entries ++ [new] ∧ done.answer = .returned true ∧ done.freed = []) :
    RightEdit denotes entries (.add object) done := by
  obtain ⟨kept, answer, freed⟩ := done
  rcases right with ⟨rfl, rfl, rfl⟩ | ⟨new, rfl, rfl, rfl, rfl⟩
  · cases object with
    | none => exact ⟨rfl, ⟨false, rfl⟩, rfl⟩
    | some object => exact ⟨rfl, ⟨false, rfl⟩, rfl⟩
  · exact ⟨rfl, ⟨true, rfl⟩, rfl⟩

theorem right_step_iff (request : Request Object Key) (reached : Reached denotes store past)
    (once : Once (past ++ (step edit store request).2)) :
    Right denotes (step edit store request).1 (past ++ (step edit store request).2) ↔
      RightEdit denotes store.entries request (edit store request) := by
  obtain ⟨⟨entries, sound, alive⟩, -, known⟩ := reached
  rw [step, Right, RightEdit, Run.sound_append_iff, ledger_snoc, ← entries]
  have fair : Run.Sound (Fair denotes) ([] ++ past) [⟨request, (edit store request).answer, (edit store request).freed⟩] ↔
      FairOn denotes store.entries ⟨request, (edit store request).answer, (edit store request).freed⟩ := by
    rw [Run.Sound, Run.Sound, Fair, List.nil_append, ← entries, and_true]
  rw [fair]
  constructor
  · rintro ⟨same, ⟨-, now⟩, -⟩
    exact ⟨same, now⟩
  · rintro ⟨same, now⟩
    refine ⟨same, ⟨sound, now⟩, ?_⟩
    intro entry member freed
    rw [freed_by_snoc, now.2] at freed
    rw [same] at member
    rcases after_kept denotes store.entries _ entry member with ⟨old, other⟩ | ⟨new, nothing⟩
    · rcases List.mem_append.mp freed with before | deleted
      · exact alive entry old before
      · exact other (Option.mem_toList.mp deleted).symm
    · rw [nothing] at freed
      rcases List.mem_append.mp freed with before | deleted
      · rw [step, Once, added_snoc, new] at once
        exact (List.nodup_append.mp once).2.2 entry (known entry before) entry List.mem_cons_self rfl
      · cases deleted

theorem reached_step (request : Request Object Key) (reached : Reached denotes store past)
    (right : Right denotes (step edit store request).1 (past ++ (step edit store request).2)) :
    Reached denotes (step edit store request).1 (past ++ (step edit store request).2) := by
  refine ⟨right, ?_, ?_⟩
  · rw [step, freed_by_snoc, ← reached.freed]
  · intro object freed
    have fair := (Run.sound_append_iff _ _ _ _).mp right.2.1
    rw [step, freed_by_snoc] at freed
    rw [step, added_snoc]
    rcases List.mem_append.mp freed with before | deleted
    · exact List.mem_append_left _ (reached.known object before)
    · have now := fair.2.1.2
      rw [List.nil_append] at now
      rw [now] at deleted
      have member := asked_mem denotes _ _ _ (Option.mem_toList.mp deleted)
      exact List.mem_append_left _ ((ledger_sublist denotes past).subset member)

theorem throughout_iff_meets (allowed : Store Object → Request Object Key → Prop) (Inv : List Object → Prop)
    (keeps : ∀ store request, Inv store.entries → (∀ entry ∈ store.entries, entry ∉ store.freed) →
      Inv (edit store request).entries)
    (exact' : ∀ store request, Inv store.entries → store.entries.Nodup → (∀ entry ∈ store.entries, entry ∉ store.freed) →
      (∀ object, request = .add (some object) → (edit store request).answer ≠ .returned false → object ∉ store.freed) →
      (RightEdit denotes store.entries request (edit store request) ↔ allowed store request))
    (store : Store Object) (past : List (Report Object Key)) (requests : List (Request Object Key))
    (held : Inv store.entries) (reached : Reached denotes store past)
    (once : Once (past ++ (Run.run (step edit) store requests).2)) :
    Run.Throughout (step edit) (Right denotes) store past requests ↔ Run.Meets (step edit) allowed store requests := by
  induction requests generalizing store past with
  | nil => exact Iff.rfl
  | cons request rest ih =>
      rw [Run.run, ← List.append_assoc] at once
      have first : Once (past ++ (step edit store request).2) := once_of_append _ _ once
      have fresh : ∀ object, request = .add (some object) → (edit store request).answer ≠ .returned false →
          object ∉ store.freed := by
        rintro object rfl accepted freed
        rw [reached.freed] at freed
        rw [step, Once, added_snoc, added_of_taken _ _ _ accepted] at first
        exact (List.nodup_append.mp first).2.2 object (reached.known object freed) object List.mem_cons_self rfl
      have nodup : store.entries.Nodup := by
        rw [reached.right.1]
        exact (once_of_append _ _ first).sublist (ledger_sublist denotes past)
      have alive : ∀ entry ∈ store.entries, entry ∉ store.freed := by
        rw [reached.freed]
        exact reached.right.2.2
      have now := (right_step_iff denotes edit store past request reached first).trans
        (exact' store request held nodup alive fresh)
      constructor
      · rintro ⟨right, later⟩
        exact ⟨now.mp right, (ih _ _ (keeps store request held alive)
          (reached_step denotes edit store past request reached right) once).mp later⟩
      · rintro ⟨meets, later⟩
        have right := now.mpr meets
        exact ⟨right, (ih _ _ (keeps store request held alive)
          (reached_step denotes edit store past request reached right) once).mpr later⟩

end

end OwnedList
