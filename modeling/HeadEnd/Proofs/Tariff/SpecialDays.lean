import HeadEnd.Command.Catalogue
import HeadEnd.Proofs.Key.Staging
import HeadEnd.Proofs.Session.History
import HeadEnd.Proofs.Session.Operation
import Mathlib.Data.List.Basic

/-! # Numbers of special days

The entries of the table are numbered by their places, so no two of them have the same number. A list
with more days than there are numbers of sixteen bits is refused before anything is asked.
-/

namespace HeadEnd

/-! ## Arrays of one type -/

theorem Value.firstOther?_eq_none {type : ValueType} {values : List Value}
    (h : ∀ value ∈ values, value.type = type) (index : Nat) :
    firstOther? type index values = none := by
  induction values generalizing index with
  | nil => rfl
  | cons value values ih =>
      rw [firstOther?, if_pos (h value List.mem_cons_self)]
      exact ih (fun other hother => h other (List.mem_cons_of_mem value hother)) (index + 1)

theorem Value.ofElements_eq_ok {type : ValueType} {values : List Value}
    (h : ∀ value ∈ values, value.type = type) : ofElements values = .ok (.array values) := by
  cases values with
  | nil => rfl
  | cons value values =>
      have hvalue : value.type = type := h value List.mem_cons_self
      rw [ofElements, hvalue, firstOther?_eq_none h]

namespace SpecialDay

/-! ## Tables -/

/-- The entries are those of the days in their order: each has the place of its day as its number, and
the date, unspecified fields included, and the day profile as they are. -/
structure IsTableOf (entries : List Value) (days : List SpecialDay) : Prop where
  length : entries.length = days.length
  entry : ∀ place day, days[place]? = some day → ∃ number : UInt16, number.toNat = place ∧
    entries[place]? = some (.tuple [.uint16 number, .date day.date, .uint8 day.dayId])
  /-- No number is given twice. -/
  distinct : ∀ (place place' : Nat) (number : UInt16) (date id date' id' : Value),
    entries[place]? = some (.tuple [.uint16 number, date, id]) →
    entries[place']? = some (.tuple [.uint16 number, date', id']) → place = place'

/-- If every place has a number of sixteen bits, the numbers are the places. -/
theorem isTableOf_mapIdx {days : List SpecialDay} (h : days.length ≤ 65536) :
    IsTableOf (days.mapIdx entry) days := by
  have hnumber : ∀ {place : Nat}, place < days.length → (UInt16.ofNat place).toNat = place :=
    fun hplace => UInt16.toNat_ofNat_of_lt' (Nat.lt_of_lt_of_le hplace h)
  have hplace : ∀ {place : Nat} {number : UInt16} {date id : Value},
      (days.mapIdx entry)[place]? = some (.tuple [.uint16 number, date, id]) →
      number.toNat = place := by
    intro place number date id hentry
    rw [List.getElem?_mapIdx] at hentry
    obtain ⟨day, hday, hentry⟩ := Option.map_eq_some_iff.mp hentry
    cases hentry
    exact hnumber (List.getElem?_eq_some_iff.mp hday).1
  refine ⟨List.length_mapIdx, ?_, ?_⟩
  · intro place day hday
    refine ⟨_, hnumber (List.getElem?_eq_some_iff.mp hday).1, ?_⟩
    rw [List.getElem?_mapIdx, hday]
    rfl
  · intro place place' number date id date' id' hentry hentry'
    exact (hplace hentry).symm.trans (hplace hentry')

/-! ## One entry after the other -/

theorem entriesFrom_cons (count place : Nat) (day : SpecialDay) (days : List SpecialDay) :
    entriesFrom count place (day :: days) = do
      let first ← entryAt count place day
      let rest ← entriesFrom count (place + 1) days
      return first :: rest := by
  simp [entriesFrom, List.zipIdx_cons]

theorem entriesFrom_eq_ok {count : Nat} {days : List SpecialDay} {place : Nat}
    (h : place + days.length ≤ 65536) :
    entriesFrom count place days = .ok (days.mapIdx fun i => entry (i + place)) := by
  induction days generalizing place with
  | nil => rfl
  | cons day days ih =>
      rw [List.length_cons] at h
      have hfirst : entryAt count place day = .ok (entry place day) := if_pos (by omega)
      have hplaces : (fun i => entry (i + (place + 1))) = fun i => entry (i + 1 + place) := by
        funext i
        rw [Nat.add_right_comm, Nat.add_assoc]
      rw [entriesFrom_cons, hfirst, ih (by omega), hplaces, List.mapIdx_cons, Nat.zero_add]
      rfl

/-- The first place without a number is where the entries end. -/
theorem entriesFrom_eq_error {count : Nat} {days : List SpecialDay} {place : Nat}
    (hplace : place ≤ 65536) (h : 65536 < place + days.length) :
    entriesFrom count place days = .error (.configuration (.tooManySpecialDays count)) := by
  induction days generalizing place with
  | nil => exact absurd h (Nat.not_lt.mpr hplace)
  | cons day days ih =>
      rw [List.length_cons] at h
      rw [entriesFrom_cons]
      by_cases hfirst : place < 65536
      · have hentry : entryAt count place day = .ok (entry place day) := if_pos hfirst
        rw [hentry, ih hfirst (by omega)]
        rfl
      · have hentry : entryAt count place day = _ := if_neg hfirst
        rw [hentry]
        rfl

theorem table_eq_ok {days : List SpecialDay} (h : days.length ≤ 65536) :
    table days = .ok (.array (days.mapIdx entry)) := by
  have hentries : entriesFrom days.length 0 days = .ok (days.mapIdx entry) :=
    entriesFrom_eq_ok (by omega)
  have htype : ∀ value ∈ days.mapIdx entry, value.type = .tuple := by
    intro value hvalue
    obtain ⟨place, _, rfl⟩ := List.mem_mapIdx.mp hvalue
    rfl
  rw [table, hentries]
  change (Value.ofElements (days.mapIdx entry)).mapError _ = _
  rw [Value.ofElements_eq_ok htype]
  rfl

theorem table_eq_error {days : List SpecialDay} (h : 65536 < days.length) :
    table days = .error (.configuration (.tooManySpecialDays days.length)) := by
  rw [table, entriesFrom_eq_error (Nat.zero_le _) (by omega)]
  rfl

/-! ## Runs -/

/-- How a request is carried out. The table is written once, and the answer is the result; a list that
is too long is refused, and nothing is asked. -/
inductive Course (days : List SpecialDay) : Outcome AccessResult → List (Turn Answer) → Prop
  | written {entries : List Value} (answer : Outcome AccessResult) :
      days.length ≤ 65536 → IsTableOf entries days →
      Course days answer [
        ⟨.describe ("SetSpecialDays" ++ valuesText days ++ ", set attribute: " ++ address.text), ()⟩,
        ⟨.write ⟨address, .array entries⟩, answer⟩]
  | refused : 65536 < days.length →
      Course days (.error (.configuration (.tooManySpecialDays days.length))) []

theorem ensures_install_course {fair : Turn Answer → Prop} (days : List SpecialDay)
    (device : Device) :
    Task.Ensures (recording fair) (install days) device [] fun outcome d history =>
      d = device ∧ Course days outcome history := by
  rw [install, Task.ensures_bind, Operation.ensures_lift]
  by_cases h : days.length ≤ 65536
  · rw [table_eq_ok h]
    dsimp only
    rw [Task.ensures_bind, Operation.ensures_describe]
    rintro _ ⟨-, rfl⟩
    dsimp only
    rw [Operation.ensures_writeAttribute]
    rintro answer _ ⟨-, rfl⟩
    exact ⟨rfl, .written answer h (isTableOf_mapIdx h)⟩
  · rw [table_eq_error (Nat.lt_of_not_le h)]
    exact ⟨rfl, .refused (Nat.lt_of_not_le h)⟩

/-- In every run a list of at most 65536 days is written once, as an array with one entry for each day,
numbered by their places, with dates and day profiles as they are; a longer one fails as a fault of the
configuration, and nothing is asked. Either way the device record stays as it is. -/
theorem install_numbers_by_place {fair : Turn Answer → Prop} {days : List SpecialDay}
    {device d : Device} {outcome : Outcome AccessResult} {history : List (Turn Answer)}
    (hruns : Dialogue.Runs (recording fair)
      ((Command.setSpecialDays.execute days).run.run device) [] (outcome, d) history) :
    d = device ∧
      (days.length ≤ 65536 → ∃ entries, IsTableOf entries days ∧
        writes history = [⟨address, .array entries⟩] ∧
        ⟨.write ⟨address, .array entries⟩, outcome⟩ ∈ history) ∧
      (65536 < days.length →
        outcome = .error (.configuration (.tooManySpecialDays days.length)) ∧ history = []) := by
  obtain ⟨rfl, hcourse⟩ := ensures_install_course days device _ _ hruns
  refine ⟨rfl, ?_, ?_⟩
  · intro hfits
    cases hcourse with
    | written answer _ htable => exact ⟨_, htable, rfl, by simp⟩
    | refused hlong => exact absurd hlong (Nat.not_lt.mpr hfits)
  · intro hlong
    cases hcourse with
    | written answer hfits _ => exact absurd hlong (Nat.not_lt.mpr hfits)
    | refused _ => exact ⟨rfl, rfl⟩

/-- A day of every year, whatever day of the week it is, and a day of one year. -/
def holidays : List SpecialDay :=
  [⟨⟨unspecifiedYear, 12, 25, unspecified⟩, 2⟩, ⟨⟨2024, 4, 27, 6⟩, 3⟩]

/-- The request reaches a meter that accepts the table. One day more than there are numbers is
refused. -/
theorem install_numbers_by_place_of_holidays :
    (∃ history, Dialogue.Runs (recording Turn.IsFaithful)
        ((Command.setSpecialDays.execute holidays).run.run keyedDevice) []
        (.ok .success, keyedDevice) history ∧
      writes history = [⟨address, .array [
        .tuple [.uint16 0, .date ⟨0xFFFF, 12, 25, 0xFF⟩, .uint8 2],
        .tuple [.uint16 1, .date ⟨2024, 4, 27, 6⟩, .uint8 3]]⟩]) ∧
    ∀ day, Dialogue.Runs (recording Turn.IsFaithful)
        ((Command.setSpecialDays.execute (List.replicate 65537 day)).run.run keyedDevice) []
        (.error (.configuration (.tooManySpecialDays 65537)), keyedDevice) [] := by
  constructor
  · obtain ⟨history, hruns⟩ := exists_runs_obliging
      ((Command.setSpecialDays.execute holidays).run.run keyedDevice)
      (a := (.ok .success, keyedDevice)) rfl
    obtain ⟨-, hwritten, -⟩ := install_numbers_by_place hruns
    obtain ⟨entries, htable, hwrites, -⟩ := hwritten (by decide)
    obtain ⟨zero, hzero, hfirst⟩ := htable.entry 0 _ rfl
    obtain ⟨one, hone, hsecond⟩ := htable.entry 1 _ rfl
    obtain rfl : zero = 0 := UInt16.toNat_inj.mp hzero
    obtain rfl : one = 1 := UInt16.toNat_inj.mp hone
    obtain ⟨first, second, rfl⟩ := List.length_eq_two.mp htable.length
    cases hfirst
    cases hsecond
    exact ⟨history, hruns, hwrites⟩
  · intro day
    obtain ⟨⟨outcome, d⟩, history, hruns⟩ : ∃ r history, Dialogue.Runs (recording Turn.IsFaithful)
        ((Command.setSpecialDays.execute (List.replicate 65537 day)).run.run keyedDevice) [] r
          history := ⟨_, _, Dialogue.runs_recorded isFaithful_obligingAnswer _ []⟩
    obtain ⟨rfl, -, hrefused⟩ := install_numbers_by_place hruns
    obtain ⟨rfl, rfl⟩ := hrefused (by rw [List.length_replicate]; decide)
    rw [List.length_replicate] at hruns
    exact hruns

end SpecialDay

end HeadEnd
