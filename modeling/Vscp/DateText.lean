import Vscp.EventText

set_option autoImplicit false

namespace Vscp

open NumberText
open RemoteTcp (Text isSpace trim)

-- What vscp_parseISOCombined answers: all six numbers are there, each of the first five with a letter behind it.
def parsesIsoCombined (dt : Text) : Bool :=
  trim dt ≠ [] ∧ (isoNumbers 6 (dt.takeWhile (· ≠ '\x00'))).length = 6

structure CivilTime where
  year : Nat
  month : Nat
  day : Nat
  hour : Nat
  minute : Nat
  second : Nat
deriving DecidableEq

-- gmtime of the C library, with the year and the month as they are written.
def gmtime (secs : Nat) : CivilTime :=
  let days := secs / 86400 + 719468
  let dayOfEra := days % 146097
  let yearOfEra := (dayOfEra - dayOfEra / 1460 + dayOfEra / 36524 - dayOfEra / 146096) / 365
  let dayOfYear := dayOfEra - (365 * yearOfEra + yearOfEra / 4 - yearOfEra / 100)
  let fromMarch := (5 * dayOfYear + 2) / 153
  let month := if fromMarch < 10 then fromMarch + 3 else fromMarch - 9
  let year := yearOfEra + days / 146097 * 400
  ⟨if month ≤ 2 then year + 1 else year, month, dayOfYear - (153 * fromMarch + 2) / 5 + 1,
    secs / 3600 % 24, secs / 60 % 60, secs % 60⟩

example : gmtime 1709251199 = ⟨2024, 2, 29, 23, 59, 59⟩ := by decide

variable (secs : Nat)

theorem gmtime_year : (gmtime secs).year ≤ secs / 86400 + 1200000 := by
  have era : (secs / 86400 + 719468) % 146097 < 146097 := Nat.mod_lt _ (by omega)
  have next : ∀ (late : Prop) [Decidable late] (year : Nat), (if late then year + 1 else year) ≤ year + 1 := by
    intro late _ year
    split <;> omega
  refine Nat.le_trans (next _ _) ?_
  generalize (secs / 86400 + 719468) % 146097 = dayOfEra at era ⊢
  have years : (dayOfEra - dayOfEra / 1460 + dayOfEra / 36524 - dayOfEra / 146096) / 365 ≤ 400 := by omega
  omega

theorem gmtime_month : (gmtime secs).month ≤ 5000 := by
  have era : (secs / 86400 + 719468) % 146097 < 146097 := Nat.mod_lt _ (by omega)
  have turn : ∀ fromMarch, fromMarch ≤ 4900 → (if fromMarch < 10 then fromMarch + 3 else fromMarch - 9) ≤ 5000 := by
    intro fromMarch small
    split <;> omega
  apply turn
  generalize (secs / 86400 + 719468) % 146097 = dayOfEra at era ⊢
  generalize (dayOfEra - dayOfEra / 1460 + dayOfEra / 36524 - dayOfEra / 146096) / 365 = yearOfEra
  omega

theorem gmtime_day : (gmtime secs).day ≤ 146097 := by
  have era : (secs / 86400 + 719468) % 146097 < 146097 := Nat.mod_lt _ (by omega)
  simp only [gmtime]
  generalize (secs / 86400 + 719468) % 146097 = dayOfEra at era ⊢
  generalize (dayOfEra - dayOfEra / 1460 + dayOfEra / 36524 - dayOfEra / 146096) / 365 = yearOfEra
  omega

def padded (width value : Nat) : Text := zeroPadded width (decimal value)

def civilText (time : CivilTime) : Text :=
  padded 4 time.year ++ ['-'] ++ padded 2 time.month ++ ['-'] ++ padded 2 time.day ++ ['T'] ++ padded 2 time.hour ++
    [':'] ++ padded 2 time.minute ++ [':'] ++ padded 2 time.second

def getDateStringFromEvent (pev : VscpEvent) : Text :=
  if frameVersion pev.head = frameVersionUnixNs then
    if 0 < pev.timestampNs then
      civilText (gmtime (pev.timestampNs.toNat / 1000000000)) ++ ['.'] ++
        padded 9 (pev.timestampNs.toNat % 1000000000) ++ ['Z']
    else []
  else if pev.year ≠ 0 ∨ pev.month ≠ 0 ∨ pev.day ≠ 0 ∨ pev.hour ≠ 0 ∨ pev.minute ≠ 0 ∨ pev.second ≠ 0 then
    civilText ⟨pev.year.toNat, pev.month.toNat, pev.day.toNat, pev.hour.toNat, pev.minute.toNat, pev.second.toNat⟩ ++
      ['Z']
  else []

-- The fields of an eventEx as those of an event with the same bytes behind its data pointer.
def VscpEventEx.fields (pex : VscpEventEx) : VscpEvent :=
  { head := pex.head
    obid := pex.obid
    year := pex.year
    month := pex.month
    timestampNs := pex.timestampNs
    vscpClass := pex.vscpClass
    vscpType := pex.vscpType
    guid := pex.guid
    sizeData := pex.sizeData
    pdata := some pex.data.toList
    crc := pex.crc }

def writtenHead (head : UInt16) : UInt16 := (head &&& ~~~frameVersionMask) ||| frameVersionUnixNs

def dataText (pev : VscpEvent) (decimalNumbers : Bool) : Text :=
  if pev.pdata = none then [] else writeDataWithSizeToString pev.dataBytes false false decimalNumbers

variable (pev : VscpEvent)

theorem data_text_joined (present : pev.sizeData ≠ 0 → pev.pdata ≠ none) (decimalNumbers : Bool) :
    dataText pev decimalNumbers = List.intercalate [','] (pev.dataBytes.map (dataLetters decimalNumbers)) := by
  by_cases missing : pev.pdata = none
  · have empty : pev.sizeData = 0 := Decidable.byContradiction fun size => present size missing
    have noData : pev.dataBytes = [] := by
      apply List.eq_nil_of_length_eq_zero
      rw [data_bytes_length, empty]
      rfl
    rw [dataText, if_pos missing, noData]
    rfl
  · rw [dataText, if_neg missing, write_data_joined]

theorem date_letters (good : Char → Prop) (digit : ∀ letter, isDigitOf 10 letter = true → good letter)
    (marks : ∀ letter ∈ ['-', 'T', ':', '.', 'Z'], good letter) (pev : VscpEvent) :
    ∀ letter ∈ getDateStringFromEvent pev, good letter := by
  have number : ∀ width value, ∀ letter ∈ padded width value, good letter := by
    intro width value letter inside
    exact digit letter (padded_in_base 10 width _ (by omega) (decimal_digits value) letter inside)
  have mark : ∀ letter ∈ ['-', 'T', ':', '.', 'Z'], ∀ own ∈ [letter], good own := by
    intro letter known own inside
    rw [List.mem_singleton.mp inside]
    exact marks letter known
  have civil : ∀ time, ∀ letter ∈ civilText time, good letter := by
    intro time
    simp only [civilText, List.forall_mem_append]
    exact ⟨⟨⟨⟨⟨⟨⟨⟨⟨⟨number _ _, mark '-' (by simp)⟩, number _ _⟩, mark '-' (by simp)⟩, number _ _⟩, mark 'T' (by simp)⟩,
      number _ _⟩, mark ':' (by simp)⟩, number _ _⟩, mark ':' (by simp)⟩, number _ _⟩
  unfold getDateStringFromEvent
  split
  · split
    · simp only [List.forall_mem_append]
      exact ⟨⟨⟨civil _, mark '.' (by simp)⟩, number _ _⟩, mark 'Z' (by simp)⟩
    · intro letter inside
      exact absurd inside List.not_mem_nil
  · split
    · simp only [List.forall_mem_append]
      exact ⟨civil _, mark 'Z' (by simp)⟩
    · intro letter inside
      exact absurd inside List.not_mem_nil

theorem iso_number (count width value : Nat) (mark : Char) (rest : Text) (small : value < 2 ^ 31)
    (stop : isDigitOf 10 mark = false) :
    isoNumbers (count + 1) (padded width value ++ mark :: rest) = (value : Int) :: isoNumbers count rest := by
  have read := read_decimal_before isSpace digit_not_space (padded width value) rest mark
    (padded_nonempty width _ (decimal_nonempty value)) (padded_in_base 10 width _ (by omega) (decimal_digits value)) stop
  have number : digitsValue 10 (padded width value) = value := by
    rw [padded, zeroPadded, digits_value_zeros, decimal_value]
  have fits : decide (-2 ^ (32 - 1) ≤ (value : Int) ∧ (value : Int) < 2 ^ (32 - 1)) = true := by
    apply decide_eq_true
    omega
  rw [number] at read
  simp only [isoNumbers, stoInteger, read, Option.filter_some, fits, if_true]

theorem iso_numbers_written (time : CivilTime) (mark : Char) (rest : Text) (stop : isDigitOf 10 mark = false)
    (year : time.year < 2 ^ 31) (month : time.month < 2 ^ 31) (day : time.day < 2 ^ 31) (hour : time.hour < 2 ^ 31)
    (minute : time.minute < 2 ^ 31) (second : time.second < 2 ^ 31) :
    isoNumbers 6 (civilText time ++ mark :: rest) =
      [(time.year : Int), time.month, time.day, time.hour, time.minute, time.second] := by
  simp only [civilText, List.append_assoc, List.cons_append, List.nil_append]
  rw [iso_number 5 4 _ '-' _ year rfl, iso_number 4 2 _ '-' _ month rfl, iso_number 3 2 _ 'T' _ day rfl,
    iso_number 2 2 _ ':' _ hour rfl, iso_number 1 2 _ ':' _ minute rfl, iso_number 0 2 _ mark _ second stop, isoNumbers]

def eventDate (pev : VscpEvent) : CivilTime :=
  if frameVersion pev.head = frameVersionUnixNs then gmtime (pev.timestampNs.toNat / 1000000000)
  else ⟨pev.year.toNat, pev.month.toNat, pev.day.toNat, pev.hour.toNat, pev.minute.toNat, pev.second.toNat⟩

-- A struct tm has its years from 1900 and its months from zero.
def BrokenTime.Stands (tm : BrokenTime) (time : CivilTime) : Prop :=
  tm.tmYear + 1900 = time.year ∧ tm.tmMon + 1 = time.month ∧ tm.tmMday = time.day ∧ tm.tmHour = time.hour ∧
    tm.tmMin = time.minute ∧ tm.tmSec = time.second

def DateKept (pev : VscpEvent) : Prop :=
  parsesIsoCombined (getDateStringFromEvent pev) = true ∧
    (parseIsoCombined (getDateStringFromEvent pev)).Stands (eventDate pev)

theorem gmtime_bounds (small : secs < 2 ^ 35) :
    (gmtime secs).year < 2 ^ 31 ∧ (gmtime secs).month < 2 ^ 31 ∧ (gmtime secs).day < 2 ^ 31 ∧
      (gmtime secs).hour < 2 ^ 31 ∧ (gmtime secs).minute < 2 ^ 31 ∧ (gmtime secs).second < 2 ^ 31 := by
  have month := gmtime_month secs
  have day := gmtime_day secs
  have year := gmtime_year secs
  have hour : (gmtime secs).hour = secs / 3600 % 24 := rfl
  have minute : (gmtime secs).minute = secs / 60 % 60 := rfl
  have second : (gmtime secs).second = secs % 60 := rfl
  exact ⟨by omega, by omega, by omega, by omega, by omega, by omega⟩

theorem event_date_bounds :
    (eventDate pev).year < 2 ^ 31 ∧ (eventDate pev).month < 2 ^ 31 ∧ (eventDate pev).day < 2 ^ 31 ∧
      (eventDate pev).hour < 2 ^ 31 ∧ (eventDate pev).minute < 2 ^ 31 ∧ (eventDate pev).second < 2 ^ 31 := by
  unfold eventDate
  split
  · have bound := pev.timestampNs.toNat_lt
    exact gmtime_bounds _ (by omega)
  · have year := pev.year.toNat_lt
    have byte (value : UInt8) : value.toNat < 2 ^ 31 := Nat.lt_trans value.toNat_lt (by decide)
    exact ⟨Nat.lt_trans year (by decide), byte _, byte _, byte _, byte _, byte _⟩

theorem date_string : getDateStringFromEvent pev = [] ∨
    ∃ mark rest, isDigitOf 10 mark = false ∧ getDateStringFromEvent pev = civilText (eventDate pev) ++ mark :: rest := by
  unfold getDateStringFromEvent eventDate
  split
  · split
    · exact .inr ⟨'.', _, rfl, by rw [List.append_assoc, List.append_assoc]; rfl⟩
    · exact .inl rfl
  · split
    · exact .inr ⟨'Z', [], rfl, rfl⟩
    · exact .inl rfl

theorem date_string_shown :
    (getDateStringFromEvent pev).takeWhile (· ≠ '\x00') = getDateStringFromEvent pev := by
  apply List.takeWhile_eq_self_iff.mpr
  apply date_letters (fun letter => decide (letter ≠ '\x00') = true)
  · intro letter digit
    apply decide_eq_true
    rintro rfl
    exact Bool.noConfusion digit
  · exact List.all_eq_true.mp rfl

theorem date_parsed (written : getDateStringFromEvent pev ≠ []) :
    parseIsoCombined (getDateStringFromEvent pev) =
      ⟨(eventDate pev).year - 1900, (eventDate pev).month, (eventDate pev).day, (eventDate pev).hour,
        (eventDate pev).minute, (eventDate pev).second⟩ := by
  obtain ⟨year, month, day, hour, minute, second⟩ := event_date_bounds pev
  obtain empty | ⟨mark, rest, stop, text⟩ := date_string pev
  · exact absurd empty written
  · rw [parseIsoCombined, date_string_shown, text,
      iso_numbers_written (eventDate pev) mark rest stop year month day hour minute second]
    rfl

theorem event_date_never_kept (pev : VscpEvent) : ¬ DateKept pev := by
  rintro ⟨parsed, stands⟩
  have written : getDateStringFromEvent pev ≠ [] := by
    intro empty
    rw [empty] at parsed
    exact absurd parsed (by decide)
  rw [date_parsed pev written] at stands
  have month : ((eventDate pev).month : Int) + 1 = (eventDate pev).month := stands.2.1
  omega
-- 2024-02-29T23:59:59Z comes back with the month that struct tm has for March.
theorem leap_day_read_in_march :
    let pev : VscpEvent :=
      { head := frameVersionUnixNs, obid := 0, year := 0xffff, month := 0xff, timestampNs := 1709251199000000000
        vscpClass := 10, vscpType := 6, guid := Vector.replicate 16 0, sizeData := 0, pdata := none, crc := 0 }
    (parseIsoCombined (getDateStringFromEvent pev)).tmMon = 2 ∧ ¬ DateKept pev := by
  intro pev
  have month : (parseIsoCombined (getDateStringFromEvent pev)).tmMon = 2 := by decide
  refine ⟨month, fun kept => ?_⟩
  have stands := kept.2.2.1
  rw [month] at stands
  exact absurd stands (by decide)

theorem date_read (version : frameVersion pev.head = frameVersionUnixNs)
    (dated : 0 < pev.timestampNs) :
    parseIsoCombined (getDateStringFromEvent pev) =
      let time := gmtime (pev.timestampNs.toNat / 1000000000)
      ⟨time.year - 1900, time.month, time.day, time.hour, time.minute, time.second⟩ := by
  have written : getDateStringFromEvent pev ≠ [] := by
    simp [getDateStringFromEvent, version, dated]
  have date : eventDate pev = gmtime (pev.timestampNs.toNat / 1000000000) := if_pos version
  rw [date_parsed pev written, date]

theorem fields_unix (pex : VscpEventEx) (unix : UnixEventEx pex) :
    frameVersion pex.fields.head = frameVersionUnixNs ∧ pex.fields.timestampNs ≠ 0 ∧
      pex.fields.dataBytes = pex.data.toList.take pex.sizeData.toNat := by
  have bound : pex.sizeData.toNat ≤ 512 := unix.size
  refine ⟨unix.version, unix.dated, ?_⟩
  apply List.ext_getElem
  · rw [data_bytes_length, List.length_take, Vector.length_toList]
    show pex.sizeData.toNat = _
    omega
  · intro i left right
    have inside : i < pex.sizeData.toNat := by
      rw [List.length_take] at right
      omega
    simp only [VscpEvent.dataBytes, VscpEventEx.fields, List.getElem_map, List.getElem_range, Option.getD_some,
      List.getElem_take]
    exact List.getD_eq_getElem _ _ (by rw [Vector.length_toList]; omega)

end Vscp
