import Vscp.MdfHistory

set_option autoImplicit false

namespace Vscp.ModuleDescription

open RemoteTcp (Text isSpace)
open SaxHandler (Node)

@[grind =] def sectionAt : Nat → List Node → Bool
  | _, [] => false
  | depth, .start name _ :: rest =>
      (depth = 1 && (lowerTrim name = "module".toList || lowerTrim name = "redirect".toList)) ||
        sectionAt (depth + 1) rest
  | depth, .text _ :: rest => sectionAt depth rest
  | depth, .stop _ :: rest => sectionAt (depth - 1) rest

def JsonSection (j : Json) : Prop := stringMember j "redirect".toList ≠ none ∨ objectMember j "module".toList ≠ none

def begins (content : Text) : Option Char := (content.dropWhile isSpace).head?

section

variable (libraries : Libraries) (document : Text → Option (List Node))

-- `document` is what the XML parser reports of a whole file, none where it is no complete document.
def WellFormed (content : Text) : Prop :=
  (begins content = some '\x7b' ∧ ∃ j, libraries.json.parse content = some j ∧ JsonSection j) ∨
    begins content = some '<' ∧ ∃ nodes, document content = some nodes ∧ sectionAt 0 nodes = true

def Truthful (globals : Globals) (mdf : Mdf) (content : Text) : Prop :=
  ∃ next code read, parseMDF libraries globals mdf (some content) = some (next, code, read) ∧
    (code = vscpErrorSuccess ↔ WellFormed libraries document content)

def Converts (mdf : Mdf) (j : Json) : Prop :=
  stringMember j "redirect".toList ≠ none ∨
    ∃ inner whole, objectMember j "module".toList = some inner ∧ jsonModule libraries.json j inner mdf = .ok whole

-- By the format that the first line is taken for. JSON that is not parsed is reported as a success; of XML only what
-- is behind the first line is read, and never told to be complete.
def TruthCondition (globals : Globals) (mdf : Mdf) (content : Text) : Prop :=
  match fileFormat (some content) with
  | .missing | .empty => True
  | .unknown => ¬WellFormed libraries document content
  | .json =>
      match libraries.json.parse content with
      | none => WellFormed libraries document content
      | some j =>
          if begins content = some '\x7b' then JsonSection j → Converts libraries mdf j
          else Converts libraries mdf j ↔ WellFormed libraries document content
  | .xml =>
      (∃ parser, parseNodes globals mdf (delivered libraries content).1 = some parser) ∧
        ((delivered libraries content).2 = true ↔ WellFormed libraries document content)

variable (mdf : Mdf) (content : Text) (j : Json)

theorem json_code :
    (parseJsonValue libraries.json mdf j).1 = vscpErrorSuccess ↔ Converts libraries mdf j := by
  rw [parseJsonValue, Converts]
  cases redirect : stringMember j "redirect".toList with
  | some url => exact iff_of_true rfl (Or.inl (Option.some_ne_none url))
  | none =>
      cases inside : objectMember j "module".toList with
      | none =>
          refine iff_of_false (show vscpErrorParsing ≠ vscpErrorSuccess by decide) ?_
          rintro (url | ⟨_, _, same, -⟩)
          · exact url rfl
          · cases same
      | some inner =>
          simp only
          cases read : jsonModule libraries.json j inner mdf with
          | error half =>
              refine iff_of_false (show vscpErrorParsing ≠ vscpErrorSuccess by decide) ?_
              rintro (url | ⟨other, whole, same, success⟩)
              · exact url rfl
              · cases same
                rw [read] at success
                cases success
          | ok whole => exact iff_of_true rfl (Or.inr ⟨inner, whole, rfl, read⟩)

theorem converts_section (converts : Converts libraries mdf j) : JsonSection j := by
  rcases converts with redirect | ⟨inner, _, found, -⟩
  · exact Or.inl redirect
  · refine Or.inr ?_
    rw [found]
    exact Option.some_ne_none inner

theorem well_formed_json (brace : begins content = some '\x7b')
    (parsed : libraries.json.parse content = some j) : WellFormed libraries document content ↔ JsonSection j := by
  rw [WellFormed, brace, parsed]
  constructor
  · rintro (⟨-, _, same, found⟩ | ⟨same, -⟩)
    · cases same
      exact found
    · cases same
  · intro found
    exact Or.inl ⟨rfl, j, rfl, found⟩

theorem empty_not_well_formed : ¬WellFormed libraries document [] := by
  rintro (⟨same, -⟩ | ⟨same, -⟩)
  · cases same
  · cases same

theorem truthful_of_code (globals next : Globals) (mdf read : Mdf) (content : Text) (code : Int)
    (parsed : parseMDF libraries globals mdf (some content) = some (next, code, read)) :
    Truthful libraries document globals mdf content ↔
      (code = vscpErrorSuccess ↔ WellFormed libraries document content) := by
  constructor
  · rintro ⟨_, _, _, same, truth⟩
    rw [parsed] at same
    cases same
    exact truth
  · intro truth
    exact ⟨next, code, read, parsed, truth⟩

theorem line_format (letter : Char) (rest : Text) :
    fileFormat (some (letter :: rest)) ≠ .missing ∧ fileFormat (some (letter :: rest)) ≠ .empty := by
  unfold fileFormat
  simp only
  split
  · decide
  · split
    · decide
    · decide

theorem file_present : fileFormat (some content) ≠ .missing := by
  cases content with
  | nil => decide
  | cons letter rest => exact (line_format letter rest).1

theorem file_empty (empty : fileFormat (some content) = .empty) : content = [] := by
  cases content with
  | nil => rfl
  | cons letter rest => exact absurd empty (line_format letter rest).2

end

def lineLibraries : Libraries :=
  { fileLibraries with json := { fileLibraries.json with parse := fun _ => some registerJson } }

end Vscp.ModuleDescription
