import Mathlib.Data.List.Sort
import Vscp.Lib.JsonText

set_option autoImplicit false

-- Objects whose members are no containers, written in the order of their names without blanks.
namespace JsonText

open NumberText

variable (members : List (List Char × Value))

theorem member_iff (distinct : (members.map Prod.fst).Nodup) (name : List Char)
    (value : Value) : (Value.object members).member name = some value ↔ (name, value) ∈ members := by
  have found : (members.reverse.find? fun entry => entry.1 == name).map Prod.snd = some value ↔
      (name, value) ∈ members := by
    constructor
    · intro same
      obtain ⟨entry, hit, rfl⟩ := Option.map_eq_some_iff.mp same
      have equal := List.find?_some hit
      have named : entry.1 = name := eq_of_beq equal
      have inside := List.mem_reverse.mp (List.mem_of_find?_eq_some hit)
      rwa [← named]
    · intro inside
      cases hit : members.reverse.find? fun entry => entry.1 == name with
      | none =>
          have other := List.find?_eq_none.mp hit (name, value) (List.mem_reverse.mpr inside)
          exact absurd (beq_self_eq_true name) other
      | some entry =>
          have equal := List.find?_some hit
          have named : entry.1 = name := eq_of_beq equal
          have held := List.mem_reverse.mp (List.mem_of_find?_eq_some hit)
          have same : entry = (name, value) := List.inj_on_of_nodup_map distinct held inside named
          rw [same]
          rfl
  exact found

def flatValue : Value → Option (List Char)
  | .boolean truth => some (if truth then ['t', 'r', 'u', 'e'] else ['f', 'a', 'l', 's', 'e'])
  | .numberUnsigned number => some (decimal number.toNat)
  | .numberInteger number => if 0 ≤ number ∧ number < 2 ^ 64 then some (decimal number.toNat) else none
  | .string letters => if letters.all isPlain then some ('"' :: letters ++ ['"']) else none
  | _ => none

def unsignedValue : Value → Value
  | .numberInteger number => .numberUnsigned (UInt64.ofNat number.toNat)
  | value => value

def flatMember (member : List Char × Value) : Option (List Char) :=
  if member.1.all isPlain then (flatValue member.2).map fun text => '"' :: member.1 ++ ['"', ':'] ++ text else none

def byName (members : List (List Char × Value)) : List (List Char × Value) :=
  members.insertionSort fun left right => left.1 ≤ right.1

def flatObject (members : List (List Char × Value)) : Option (List Char) :=
  ((byName members).mapM flatMember).map fun texts => '{' :: List.intercalate [','] texts ++ ['}']

def Ends (text : List Char) (tokens : List Token) : Prop :=
  ∀ mark token, punctuation mark = some token → mark ≠ '"' → isBlank mark = false →
    Reads (text ++ [mark]) (tokens ++ [token])

theorem Reads.ends {text : List Char} {tokens : List Token} (reads : Reads text tokens) : Ends text tokens :=
  fun mark token known quote solid => reads.append (punctuation_reads mark token quote solid known)

theorem Reads.before {front text : List Char} {first tokens : List Token} (reads : Reads front first)
    (ends : Ends text tokens) : Ends (front ++ text) (first ++ tokens) := by
  intro mark token known quote solid
  rw [List.append_assoc, List.append_assoc]
  exact reads.append (ends mark token known quote solid)

theorem word_ends (word : List Char) (value : Value) (known : wordValue word = some value)
    (lexed : ∀ done, word.foldlM lexStep ⟨.idle, done⟩ = some ⟨.word word, done⟩) : Ends word [.scalar value] := by
  intro mark token marks quote solid done
  rw [List.foldlM_append, lexed]
  simp [lexStep, quote, solid, marks, known]

theorem number_ends (value : Nat) (small : value < 2 ^ 64) :
    Ends (decimal value) [.scalar (.numberUnsigned (UInt64.ofNat value))] :=
  word_ends (decimal value) _ (decimal_word value small)
    (number_lexes (decimal value) (decimal_nonempty value) (decimal_digits value))

theorem flat_value_ends (value : Value) (text : List Char) (written : flatValue value = some text) :
    Ends text (tokensOf (unsignedValue value)) := by
  cases value with
  | null => cases written
  | boolean truth =>
      cases truth with
      | false =>
          cases written
          exact word_ends ['f', 'a', 'l', 's', 'e'] (.boolean false) rfl fun _ => rfl
      | true =>
          cases written
          exact word_ends ['t', 'r', 'u', 'e'] (.boolean true) rfl fun _ => rfl
  | numberInteger number =>
      obtain ⟨⟨_, small⟩, same⟩ := Option.ite_none_right_eq_some.mp written
      cases same
      exact number_ends number.toNat (by omega)
  | numberUnsigned number =>
      cases written
      have ends := number_ends number.toNat number.toNat_lt
      rwa [UInt64.ofNat_toNat] at ends
  | numberFloat digits => cases written
  | string letters =>
      obtain ⟨plain, same⟩ := Option.ite_none_right_eq_some.mp written
      cases same
      exact (string_reads letters (List.all_eq_true.mp plain)).ends
  | array items => cases written
  | object members => cases written

theorem flat_member_ends (member : List Char × Value) (text : List Char) (written : flatMember member = some text) :
    Ends text (.scalar (.string member.1) :: .colon :: tokensOf (unsignedValue member.2)) := by
  obtain ⟨plain, whole⟩ := Option.ite_none_right_eq_some.mp written
  obtain ⟨own, value, rfl⟩ := Option.map_eq_some_iff.mp whole
  have name := string_reads member.1 (List.all_eq_true.mp plain)
  have colon := punctuation_reads ':' .colon (by decide) rfl rfl
  have ends := (name.append colon).before (flat_value_ends member.2 own value)
  simpa [List.append_assoc] using ends

def unsignedMember (member : List Char × Value) : List Char × Value := (member.1, unsignedValue member.2)

theorem flat_members_read (texts : List (List Char))
    (written : members.mapM flatMember = some texts) (member : List Char × Value) (text : List Char)
    (own : flatMember member = some text) :
    Reads (List.intercalate [','] (text :: texts) ++ ['}'])
      (.scalar (.string member.1) :: .colon ::
        (tokensOf (unsignedValue member.2) ++ moreMemberTokens (members.map unsignedMember))) := by
  induction members generalizing member text texts with
  | nil =>
      rw [List.mapM_nil] at written
      cases written
      rw [List.intercalate_singleton]
      exact flat_member_ends member text own '}' .closeObject rfl (by decide) rfl
  | cons second members ih =>
      rw [List.mapM_cons] at written
      obtain ⟨next, other, written⟩ := Option.bind_eq_some_iff.mp written
      obtain ⟨rest, later, same⟩ := Option.bind_eq_some_iff.mp written
      cases same
      have front := flat_member_ends member text own ',' .comma rfl (by decide) rfl
      have back := ih rest later second next other
      have whole := front.append back
      rw [List.intercalate_cons_cons, List.append_assoc]
      simpa [unsignedMember, moreMemberTokens, List.append_assoc] using whole

theorem flat_object_read (text : List Char)
    (written : flatObject members = some text) : read text = some (.object ((byName members).map unsignedMember)) := by
  apply Reads.read
  obtain ⟨texts, each, rfl⟩ := Option.map_eq_some_iff.mp written
  have opened := punctuation_reads '{' .openObject (by decide) rfl rfl
  cases held : byName members with
  | nil =>
      rw [held, List.mapM_nil] at each
      cases each
      exact opened.append (punctuation_reads '}' .closeObject (by decide) rfl rfl)
  | cons member others =>
      rw [held, List.mapM_cons] at each
      obtain ⟨first, own, each⟩ := Option.bind_eq_some_iff.mp each
      obtain ⟨rest, later, same⟩ := Option.bind_eq_some_iff.mp each
      cases same
      have whole := opened.append (flat_members_read others rest later member first own)
      simpa [unsignedMember, tokensOf, memberTokens, List.append_assoc] using whole

theorem flat_object_kept (distinct : (members.map Prod.fst).Nodup)
    (text : List Char) (written : flatObject members = some text) :
    ∃ others, read text = some (.object others) ∧ ∀ name,
      (Value.object others).member name = ((Value.object members).member name).map unsignedValue := by
  refine ⟨_, flat_object_read members text written, ?_⟩
  intro name
  have permuted : (byName members).Perm members := List.perm_insertionSort _ members
  have names : ((byName members).map unsignedMember).map Prod.fst = (byName members).map Prod.fst := by
    rw [List.map_map]
    rfl
  have still : (((byName members).map unsignedMember).map Prod.fst).Nodup := by
    rw [names]
    exact (permuted.map Prod.fst).nodup_iff.mpr distinct
  have kept : ∀ value, (Value.object members).member name = some value →
      (Value.object ((byName members).map unsignedMember)).member name = some (unsignedValue value) := by
    intro value held
    have inside := (member_iff members distinct name value).mp held
    exact (member_iff _ still name (unsignedValue value)).mpr
      (List.mem_map.mpr ⟨(name, value), permuted.mem_iff.mpr inside, rfl⟩)
  cases held : (Value.object members).member name with
  | some value => exact kept value held
  | none =>
      cases found : (Value.object ((byName members).map unsignedMember)).member name with
      | none => rfl
      | some value =>
          obtain ⟨⟨own, origin⟩, inside, same⟩ := List.mem_map.mp ((member_iff _ still name value).mp found)
          cases same
          have listed := (member_iff members distinct own origin).mpr (permuted.mem_iff.mp inside)
          rw [held] at listed
          cases listed

theorem flat_object_written_iff :
    (flatObject members).isSome ↔ ∀ member ∈ members, (flatMember member).isSome := by
  have each : ∀ members : List (List Char × Value),
      (members.mapM flatMember).isSome ↔ ∀ member ∈ members, (flatMember member).isSome := by
    intro members
    induction members with
    | nil => simp
    | cons member members ih =>
        rw [List.mapM_cons, List.forall_mem_cons, ← ih]
        cases flatMember member with
        | none => simp
        | some text => cases members.mapM flatMember <;> simp
  have permuted : (byName members).Perm members := List.perm_insertionSort _ members
  rw [flatObject, Option.isSome_map, each]
  exact forall_congr' fun member => imp_congr_left permuted.mem_iff

def IsFlat : Value → Prop
  | .boolean _ => True
  | .numberUnsigned _ => True
  | .numberInteger number => 0 ≤ number ∧ number < 2 ^ 64
  | .string _ => True
  | _ => False

theorem flat_member_written_iff (name : List Char) (value : Value) (flat : IsFlat value) :
    (flatMember (name, value)).isSome ↔
      name.all isPlain = true ∧ ∀ letters, value = .string letters → letters.all isPlain = true := by
  have own : (flatValue value).isSome ↔ ∀ letters, value = .string letters → letters.all isPlain = true := by
    cases value with
    | string letters => simp [flatValue]
    | boolean truth => simp [flatValue]
    | numberUnsigned number => simp [flatValue]
    | numberInteger number =>
        obtain ⟨positive, small⟩ := flat
        have written : flatValue (.numberInteger number) = some (decimal number.toNat) := if_pos ⟨positive, small⟩
        simp [written]
    | null => exact flat.elim
    | numberFloat digits => exact flat.elim
    | array items => exact flat.elim
    | object members => exact flat.elim
  rw [flatMember, ← own]
  by_cases plain : name.all isPlain = true
  · rw [if_pos plain, Option.isSome_map]
    exact ⟨fun some => ⟨plain, some⟩, fun both => both.2⟩
  · rw [if_neg plain]
    exact iff_of_false Bool.false_ne_true fun both => plain both.1

end JsonText
