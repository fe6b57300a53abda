import Vscp.GuidWriters

set_option autoImplicit false

namespace Vscp

open NumberText
open RemoteTcp (Text split)
open GuidWriters (Cguid.getAsString)

def filterNumber (tokens : List Text) (i : Nat) : Int := (tokens[i]?.map readStringValue).getD 0
def filterGuidAt (tokens : List Text) (i : Nat) : Guid := (tokens[i]?.map guidFromString).getD (Vector.replicate 16 0)

def readFilterFromString (pFilter : VscpEventFilter) (strFilter : Text) : VscpEventFilter :=
  let tokens := split strFilter ','
  { pFilter with
    filterPriority := UInt8.ofInt (filterNumber tokens 0)
    filterClass := UInt16.ofInt (filterNumber tokens 1)
    filterType := UInt16.ofInt (filterNumber tokens 2)
    filterGuid := filterGuidAt tokens 3 }

def readMaskFromString (pFilter : VscpEventFilter) (strMask : Text) : VscpEventFilter :=
  let tokens := split strMask ','
  { pFilter with
    maskPriority := UInt8.ofInt (filterNumber tokens 0)
    maskClass := UInt16.ofInt (filterNumber tokens 1)
    maskType := UInt16.ofInt (filterNumber tokens 2)
    maskGuid := filterGuidAt tokens 3 }

-- Everything is cleared first, so nothing of the old filter is left.
def readFilterMaskFromString (strFilterMask : Text) : VscpEventFilter :=
  let tokens := split strFilterMask ','
  { filterPriority := UInt8.ofInt (filterNumber tokens 0)
    filterClass := UInt16.ofInt (filterNumber tokens 1)
    filterType := UInt16.ofInt (filterNumber tokens 2)
    filterGuid := filterGuidAt tokens 3
    maskPriority := UInt8.ofInt (filterNumber tokens 4)
    maskClass := UInt16.ofInt (filterNumber tokens 5)
    maskType := UInt16.ofInt (filterNumber tokens 6)
    maskGuid := filterGuidAt tokens 7 }

def writeParts (priority : UInt8) (vscpClass vscpType : UInt16) (guid : Guid) : Text :=
  decimal priority.toNat ++ [','] ++ decimal vscpClass.toNat ++ [','] ++ decimal vscpType.toNat ++ [','] ++
    Cguid.getAsString guid

def writeFilterToString (pFilter : VscpEventFilter) : Text :=
  writeParts pFilter.filterPriority pFilter.filterClass pFilter.filterType pFilter.filterGuid

def writeMaskToString (pFilter : VscpEventFilter) : Text :=
  writeParts pFilter.maskPriority pFilter.maskClass pFilter.maskType pFilter.maskGuid

def partTexts (priority : UInt8) (vscpClass vscpType : UInt16) (guid : Guid) : List Text :=
  [decimal priority.toNat, decimal vscpClass.toNat, decimal vscpType.toNat, Cguid.getAsString guid]

variable (priority : UInt8) (vscpClass vscpType : UInt16) (guid : Guid)

theorem part_letters :
    ∀ part ∈ partTexts priority vscpClass vscpType guid, ',' ∉ part := by
  have plain : ∀ value : Nat, ',' ∉ decimal value :=
    fun value comma => Bool.noConfusion (decimal_digits value ',' comma)
  have colons : ',' ∉ Cguid.getAsString guid := by
    intro comma
    rcases hex_groups_letters guid.toList ',' comma with digit | colon
    · exact Bool.noConfusion digit
    · exact absurd colon (by decide)
  intro part member
  simp only [partTexts, List.mem_cons, List.not_mem_nil, or_false] at member
  rcases member with rfl | rfl | rfl | rfl
  · exact plain _
  · exact plain _
  · exact plain _
  · exact colons

theorem written_parts_split :
    split (writeParts priority vscpClass vscpType guid) ',' = partTexts priority vscpClass vscpType guid := by
  have joined : writeParts priority vscpClass vscpType guid =
      List.intercalate [','] (partTexts priority vscpClass vscpType guid) := by
    simp only [writeParts, partTexts, List.intercalate_cons_cons, List.intercalate_singleton, List.append_assoc]
  rw [joined]
  exact split_joined ',' _ _ (part_letters priority vscpClass vscpType guid) (.inl (decimal_nonempty _))

theorem joined_parts_split (filter : VscpEventFilter) :
    split (writeFilterToString filter ++ [','] ++ writeMaskToString filter) ',' =
      partTexts filter.filterPriority filter.filterClass filter.filterType filter.filterGuid ++
        partTexts filter.maskPriority filter.maskClass filter.maskType filter.maskGuid := by
  have joined : writeFilterToString filter ++ [','] ++ writeMaskToString filter =
      List.intercalate [','] (partTexts filter.filterPriority filter.filterClass filter.filterType filter.filterGuid ++
        partTexts filter.maskPriority filter.maskClass filter.maskType filter.maskGuid) := by
    simp only [writeFilterToString, writeMaskToString, writeParts, partTexts, List.cons_append, List.nil_append,
      List.intercalate_cons_cons, List.intercalate_singleton, List.append_assoc]
  rw [joined]
  refine split_joined ',' _ _ ?_ (.inl (decimal_nonempty _))
  intro part member
  have either : part ∈ partTexts filter.filterPriority filter.filterClass filter.filterType filter.filterGuid ++
      partTexts filter.maskPriority filter.maskClass filter.maskType filter.maskGuid := member
  rcases List.mem_append.mp either with inFilter | inMask
  · exact part_letters _ _ _ _ part inFilter
  · exact part_letters _ _ _ _ part inMask

theorem read_word8 (value : UInt8) : UInt8.ofInt (readStringValue (decimal value.toNat)) = value := by
  rw [read_decimal_value _ (Nat.lt_trans value.toNat_lt (by decide)), word8_of_cast, UInt8.ofNat_toNat]

theorem read_guid_text : guidFromString (Cguid.getAsString guid) = guid := guid_from_written guid

variable (pFilter other : VscpEventFilter)

theorem filter_read_back :
    readFilterFromString other (writeFilterToString pFilter) =
      { other with
        filterPriority := pFilter.filterPriority, filterClass := pFilter.filterClass,
        filterType := pFilter.filterType, filterGuid := pFilter.filterGuid } := by
  rw [readFilterFromString, writeFilterToString, written_parts_split]
  simp only [partTexts, filterNumber, filterGuidAt, List.getElem?_cons_zero, List.getElem?_cons_succ, Option.map_some,
    Option.getD_some, read_word8, read_word16, read_guid_text]

theorem mask_read_back :
    readMaskFromString other (writeMaskToString pFilter) =
      { other with
        maskPriority := pFilter.maskPriority, maskClass := pFilter.maskClass,
        maskType := pFilter.maskType, maskGuid := pFilter.maskGuid } := by
  rw [readMaskFromString, writeMaskToString, written_parts_split]
  simp only [partTexts, filterNumber, filterGuidAt, List.getElem?_cons_zero, List.getElem?_cons_succ, Option.map_some,
    Option.getD_some, read_word8, read_word16, read_guid_text]

theorem whole_filter_read_back (pFilter : VscpEventFilter) :
    readFilterMaskFromString (writeFilterToString pFilter ++ [','] ++ writeMaskToString pFilter) = pFilter := by
  rw [readFilterMaskFromString, joined_parts_split]
  simp only [partTexts, filterNumber, filterGuidAt, List.cons_append, List.nil_append, List.getElem?_cons_zero,
    List.getElem?_cons_succ, Option.map_some, Option.getD_some, read_word8, read_word16, read_guid_text]

theorem filter_texts_round_trip (pFilter other : VscpEventFilter) :
    readFilterFromString other (writeFilterToString pFilter) =
      { other with
        filterPriority := pFilter.filterPriority, filterClass := pFilter.filterClass,
        filterType := pFilter.filterType, filterGuid := pFilter.filterGuid } ∧
    readMaskFromString other (writeMaskToString pFilter) =
      { other with
        maskPriority := pFilter.maskPriority, maskClass := pFilter.maskClass,
        maskType := pFilter.maskType, maskGuid := pFilter.maskGuid } ∧
    readFilterMaskFromString (writeFilterToString pFilter ++ [','] ++ writeMaskToString pFilter) = pFilter :=
  ⟨filter_read_back pFilter other, mask_read_back pFilter other, whole_filter_read_back pFilter⟩

end Vscp
