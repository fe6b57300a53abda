import Mathlib.Data.List.Nodup

set_option autoImplicit false

-- Records whose fields are named by an index, and a reader that sets the fields one after the other until it
-- meets one that it cannot read.
namespace FieldRecord

inductive Reading (α : Type) where
  | absent
  | refused
  | given (value : α)

section

variable {Field Record : Type} {Content : Field → Type} (content : (field : Field) → Record → Content field)
  (store : (field : Field) → Content field → Record → Record)

structure Lawful : Prop where
  stored : ∀ field value record, content field (store field value record) = value
  others : ∀ field different value record, field ≠ different →
    content field (store different value record) = content field record
  same : ∀ field record, store field (content field record) record = record

variable (reading : (field : Field) → Reading (Content field))

@[grind =] def assign : List Field → Record → Bool × Record
  | [], record => (true, record)
  | field :: fields, record =>
      match reading field with
      | .absent => assign fields record
      | .refused => (false, record)
      | .given value => assign fields (store field value record)

def FirstRefused (fields before : List Field) : Prop :=
  ∃ bad after, fields = before ++ bad :: after ∧ reading bad = .refused ∧ ∀ field ∈ before, reading field ≠ .refused

def Stands (fields : List Field) (record : Record) : Prop :=
  ∀ field ∈ fields, ∀ value, reading field = .given value → content field record = value

theorem assign_front (before rest : List Field) (record : Record)
    (readable : ∀ field ∈ before, reading field ≠ .refused) :
    assign store reading (before ++ rest) record =
      assign store reading rest (assign store reading before record).2 := by
  induction before generalizing record with
  | nil => rfl
  | cons field before ih =>
      have own := readable field List.mem_cons_self
      have later := fun next => ih next (fun other inside => readable other (List.mem_cons_of_mem field inside))
      rw [List.cons_append, assign, assign]
      cases found : reading field with
      | absent => exact later record
      | refused => exact absurd found own
      | given value => exact later (store field value record)

theorem assign_fails (fields : List Field) (record : Record) (failed : (assign store reading fields record).1 = false) :
    ∃ before, FirstRefused reading fields before := by
  induction fields generalizing record with
  | nil => cases failed
  | cons field fields ih =>
      rw [assign] at failed
      have further : ∀ next, reading field ≠ .refused → (assign store reading fields next).1 = false →
          ∃ before, FirstRefused reading (field :: fields) before := by
        intro next own failed
        obtain ⟨before, bad, after, rfl, refused, readable⟩ := ih next failed
        exact ⟨field :: before, bad, after, rfl, refused, List.forall_mem_cons.mpr ⟨own, readable⟩⟩
      cases found : reading field with
      | absent =>
          rw [found] at failed
          exact further record (by rw [found]; intro same; cases same) failed
      | refused => exact ⟨[], field, fields, rfl, found, fun _ inside => absurd inside List.not_mem_nil⟩
      | given value =>
          rw [found] at failed
          exact further (store field value record) (by rw [found]; intro same; cases same) failed

theorem assign_first_refused (fields before : List Field) (record : Record)
    (refused : FirstRefused reading fields before) :
    assign store reading fields record = (false, (assign store reading before record).2) := by
  obtain ⟨bad, after, rfl, found, readable⟩ := refused
  rw [assign_front store reading before _ record readable, assign, found]

theorem assign_append (before rest : List Field) (record : Record) :
    assign store reading (before ++ rest) record =
      if (assign store reading before record).1 then assign store reading rest (assign store reading before record).2
      else assign store reading before record := by
  induction before generalizing record with
  | nil => rfl
  | cons field before ih =>
      rw [List.cons_append, assign, assign]
      cases reading field with
      | absent => exact ih record
      | refused => rfl
      | given value => exact ih (store field value record)

theorem assign_alike (other : (field : Field) → Content field → Record → Record)
    (alike : (field : Field) → Reading (Content field)) (fields : List Field) (record : Record)
    (stores : ∀ field ∈ fields, store field = other field) (readings : ∀ field ∈ fields, reading field = alike field) :
    assign store reading fields record = assign other alike fields record := by
  induction fields generalizing record with
  | nil => rfl
  | cons field fields ih =>
      obtain ⟨own, stores⟩ := List.forall_mem_cons.mp stores
      obtain ⟨same, readings⟩ := List.forall_mem_cons.mp readings
      have later := fun next => ih next stores readings
      rw [assign, assign, own, same]
      cases alike field with
      | absent => exact later record
      | refused => rfl
      | given value => exact later (other field value record)

variable {content store}

theorem assign_outside (lawful : Lawful content store) (fields : List Field) (field : Field) (outside : field ∉ fields)
    (record : Record) : content field (assign store reading fields record).2 = content field record := by
  induction fields generalizing record with
  | nil => rfl
  | cons first fields ih =>
      obtain ⟨different, outside⟩ := List.ne_and_not_mem_of_not_mem_cons outside
      rw [assign]
      cases reading first with
      | absent => exact ih outside record
      | refused => rfl
      | given value =>
          rw [ih outside (store first value record)]
          exact lawful.others field first value record different

theorem assign_kept_iff (lawful : Lawful content store) (fields : List Field) (distinct : fields.Nodup)
    (record : Record) (readable : ∀ field ∈ fields, reading field ≠ .refused) :
    (assign store reading fields record).2 = record ↔ Stands content reading fields record := by
  induction fields generalizing record with
  | nil => exact iff_of_true rfl fun _ inside => absurd inside List.not_mem_nil
  | cons field fields ih =>
      obtain ⟨outside, distinct⟩ := List.nodup_cons.mp distinct
      obtain ⟨own, readable⟩ := List.forall_mem_cons.mp readable
      have later := fun next => ih distinct next readable
      rw [Stands, List.forall_mem_cons, assign]
      cases found : reading field with
      | absent =>
          refine (later record).trans ⟨fun stands => ⟨?_, stands⟩, fun both => both.2⟩
          intro value same
          cases same
      | refused => exact absurd found own
      | given value =>
          change (assign store reading fields (store field value record)).2 = record ↔ _
          constructor
          · intro kept
            have held : content field record = value := by
              have stored := assign_outside reading lawful fields field outside (store field value record)
              rw [kept, lawful.stored] at stored
              exact stored
            have unchanged : store field value record = record := by
              rw [← held, lawful.same]
            rw [unchanged] at kept
            refine ⟨?_, (later record).mp kept⟩
            intro other same
            cases same
            exact held
          · rintro ⟨holds, stands⟩
            have unchanged : store field value record = record := by
              rw [← holds value rfl, lawful.same]
            rw [unchanged]
            exact (later record).mpr stands

theorem assign_reads (fields : List Field) (record : Record) (readable : ∀ field ∈ fields, reading field ≠ .refused) :
    (assign store reading fields record).1 = true := by
  cases failed : (assign store reading fields record).1 with
  | true => rfl
  | false =>
      obtain ⟨before, bad, after, rfl, refused, _⟩ := assign_fails store reading fields record failed
      exact absurd refused (readable bad (by simp))

theorem assign_content (lawful : Lawful content store) (fields : List Field) (distinct : fields.Nodup) (field : Field)
    (listed : field ∈ fields) (record : Record) (success : (assign store reading fields record).1 = true) :
    content field (assign store reading fields record).2 =
      match reading field with
      | .given value => value
      | _ => content field record := by
  obtain ⟨before, after, rfl⟩ := List.append_of_mem listed
  obtain ⟨_, behind, apart⟩ := List.nodup_append.mp distinct
  have early : field ∉ before := fun inside => apart field inside field List.mem_cons_self rfl
  have late : field ∉ after := (List.nodup_cons.mp behind).1
  have held := assign_outside reading lawful before field early record
  rw [assign_append] at success ⊢
  by_cases through : (assign store reading before record).1 = true
  · rw [if_pos through] at success ⊢
    rw [assign] at success ⊢
    cases found : reading field with
    | absent => exact (assign_outside reading lawful after field late _).trans held
    | refused =>
        rw [found] at success
        cases success
    | given value => exact (assign_outside reading lawful after field late _).trans (lawful.stored field value _)
  · rw [if_neg through] at success
    exact absurd success through

theorem failure_keeps_iff (lawful : Lawful content store) (fields : List Field) (distinct : fields.Nodup)
    (record : Record) :
    ((assign store reading fields record).1 = false → (assign store reading fields record).2 = record) ↔
      ∀ before, FirstRefused reading fields before → Stands content reading before record := by
  constructor
  · intro keeps before refused
    have result := assign_first_refused store reading fields before record refused
    rw [result] at keeps
    obtain ⟨bad, after, rfl, _, readable⟩ := refused
    exact (assign_kept_iff reading lawful before (List.nodup_append.mp distinct).1 record readable).mp (keeps rfl)
  · intro stands failed
    obtain ⟨before, refused⟩ := assign_fails store reading fields record failed
    rw [assign_first_refused store reading fields before record refused]
    have holds := stands before refused
    obtain ⟨bad, after, rfl, _, readable⟩ := refused
    exact (assign_kept_iff reading lawful before (List.nodup_append.mp distinct).1 record readable).mpr holds

end

end FieldRecord
