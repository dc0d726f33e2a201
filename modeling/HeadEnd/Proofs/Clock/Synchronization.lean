import HeadEnd.Command.Catalogue
import HeadEnd.Proofs.Cosem.Deviation
import HeadEnd.Proofs.Key.Staging

/-! # What synchronizing a clock writes

The time that a meter is told is the current one. The deviation and the year each have one value that
stands for none; with these the meter is told a time that denotes no instant.
-/

namespace HeadEnd

def Turn.IsOutsideLeapSeconds : Turn Answer → Prop
  | ⟨.clock, now⟩ => ¬ now.IsLeap
  | _ => True

namespace Clock

/-! ## Telling the time -/

namespace LocalSetting

/-- The instant can be written as it is shown: the deviation is at most half a day or not specified,
and the local year has sixteen bits. -/
def CanShow (setting : LocalSetting) (now : Instant) : Prop :=
  CosemDateTime.deviationInRange setting.deviation = true ∧
    0 ≤ (now.at setting.deviation).civil.date.year ∧
    (now.at setting.deviation).civil.date.year < 65536

/-- The local year or the deviation is the one that stands for none. -/
def Obscures (setting : LocalSetting) (now : Instant) : Prop :=
  (now.at setting.deviation).civil.date.year = 65535 ∨ setting.deviation = unspecifiedDeviation

/-- The value tells the instant as it is shown, in hundredths of a second, and whether daylight saving
time is. -/
structure IsToldBy (setting : LocalSetting) (now : Instant) (value : Value) : Prop where
  daylightSaving : ∀ context, ∃ t, value.toDateTime? context = .ok (some t) ∧
    t.isDaylightSaving = setting.daylightSaving
  instant : ∀ context, value.toZoned? context =
    .ok (some ({ now with nanos := now.nanos - now.nanos % 10000000 }.at setting.deviation))

end LocalSetting

/-- How a synchronization may end that found the clock at `now`: nothing was written, or the time of
the meter and nothing else. -/
inductive Synchronizes (setting : LocalSetting) (now : Instant) :
    Outcome AccessResult → List SetParameter → Prop where
  | refused {failure} : ¬ setting.CanShow now → Synchronizes setting now (.error failure) []
  | told {result value} : setting.CanShow now → ¬ setting.Obscures now →
      setting.IsToldBy now value → Synchronizes setting now result [⟨timeAddress, value⟩]
  | obscured {result value} : setting.CanShow now → setting.Obscures now →
      (∀ context, value.toZoned? context = .ok none) →
      Synchronizes setting now result [⟨timeAddress, value⟩]

variable {setting : LocalSetting} {now : Instant} {value : Value}

theorem ofInstant_eq_ok_iff (hleap : ¬ now.IsLeap) :
    Value.ofInstant now setting.deviation setting.daylightSaving = .ok value ↔
      setting.CanShow now ∧ value = .dateTime
        (.showing (now.at setting.deviation).civil setting.deviation setting.daylightSaving) := by
  rw [Value.ofInstant_eq_ok_iff]
  simp only [CosemDateTime.ofInstant_eq_ok_iff_inRange hleap]
  constructor
  · rintro ⟨t, ⟨hdeviation, hyear, rfl⟩, rfl⟩
    exact ⟨⟨hdeviation, by omega⟩, rfl⟩
  · rintro ⟨⟨hdeviation, hyear⟩, rfl⟩
    exact ⟨_, ⟨hdeviation, by omega, rfl⟩, rfl⟩

/-- What is written for an instant is the time, unless the setting obscures it. -/
theorem synchronizes_of_ofInstant (hleap : ¬ now.IsLeap)
    (h : Value.ofInstant now setting.deviation setting.daylightSaving = .ok value)
    (result : Outcome AccessResult) :
    Synchronizes setting now result [⟨timeAddress, value⟩] := by
  obtain ⟨hshow, rfl⟩ := (ofInstant_eq_ok_iff hleap).mp h
  have hzoned := @ZonedTime.toZoned?_showing_civil (now.at setting.deviation) hleap _ hshow.1
    hshow.2 setting.daylightSaving
  by_cases hobscures : setting.Obscures now
  · have hnone := hzoned.trans (if_pos hobscures)
    exact .obscured hshow hobscures fun context => congrArg Except.ok hnone
  · have hsome := hzoned.trans (if_neg hobscures)
    refine .told hshow hobscures ⟨fun context => ?_, fun context => ?_⟩
    · exact ⟨_, rfl, CosemDateTime.isDaylightSaving_showing⟩
    · refine congrArg Except.ok (hsome.trans ?_)
      simp [Instant.at]

/-- A time that can be written and is not obscured is told. -/
theorem Synchronizes.exists_isToldBy {result : Outcome AccessResult}
    {parameters : List SetParameter} (h : Synchronizes setting now result parameters)
    (hshow : setting.CanShow now) (hspecified : ¬ setting.Obscures now) :
    ∃ value, parameters = [⟨timeAddress, value⟩] ∧ setting.IsToldBy now value := by
  cases h with
  | refused hrefused => exact absurd hshow hrefused
  | told _ _ htold => exact ⟨_, rfl, htold⟩
  | obscured _ hobscures _ => exact absurd hobscures hspecified

/-! ## Runs -/

theorem ensures_synchronize (setting : LocalSetting) (device : Device) :
    Task.Ensures (recording Turn.IsOutsideLeapSeconds) (synchronize setting) device []
      fun result d history => d = device ∧
        ∃ now, history.filterMap Turn.time? = [now] ∧
          Synchronizes setting now result (writes history) := by
  rw [synchronize, Task.ensures_bind, Operation.ensures_now]
  rintro now _ ⟨hleap, rfl⟩
  dsimp only
  rw [Task.ensures_bind, Operation.ensures_lift]
  cases hvalue : Value.ofInstant now setting.deviation setting.daylightSaving with
  | error failure =>
      have hshow : ¬ setting.CanShow now := by
        intro hshow
        rw [(ofInstant_eq_ok_iff hleap).mpr ⟨hshow, rfl⟩] at hvalue
        cases hvalue
      exact ⟨rfl, now, rfl, .refused hshow⟩
  | ok value =>
      dsimp only
      rw [Task.ensures_bind, Operation.ensures_describe]
      rintro _ ⟨_, rfl⟩
      dsimp only
      rw [Operation.ensures_writeAttribute]
      rintro result _ ⟨_, rfl⟩
      exact ⟨rfl, now, rfl, synchronizes_of_ofInstant hleap hvalue result⟩

/-- Synchronizing a clock outside leap seconds reads the clock once. It ends with a failure before
anything is written, and does so exactly if the time cannot be written, or writes one value to the
time of the meter. Unless the deviation or the local year is the one that stands for none, the value
denotes the time that was read, down to hundredths of a second, with the deviation and the daylight
saving time that were asked for. -/
theorem synchronize_tells_current_time {r : Outcome AccessResult} {device d : Device}
    {history : List (Turn Answer)}
    (hruns : Dialogue.Runs (recording Turn.IsOutsideLeapSeconds)
      ((Command.synchronizeTime.execute setting).run.run device) [] (r, d) history) :
    d = device ∧ ∃ now, history.filterMap Turn.time? = [now] ∧
      Synchronizes setting now r (writes history) :=
  ensures_synchronize setting device _ _ hruns

/-- A world in which nothing goes wrong and the clock stands half an hour before the end of 2016. -/
def newYearAnswer : (question : Question) → Answer question
  | .clock => ⟨1483227000, 123456789⟩
  | question => obligingAnswer question

theorem isOutsideLeapSeconds_newYearAnswer (question : Question) :
    Turn.IsOutsideLeapSeconds ⟨question, newYearAnswer question⟩ := by
  cases question
  case clock =>
    change ¬ Instant.IsLeap ⟨1483227000, 123456789⟩
    decide
  all_goals trivial

def newYearRun (setting : LocalSetting) :
    (Outcome AccessResult × Device) × List (Turn Answer) :=
  ((synchronize setting).run.run keyedDevice).run
    (fun question past => (newYearAnswer question, past ++ [⟨question, newYearAnswer question⟩])) []

theorem runs_newYearRun (setting : LocalSetting) :
    Dialogue.Runs (recording Turn.IsOutsideLeapSeconds)
      ((Command.synchronizeTime.execute setting).run.run keyedDevice) []
      (newYearRun setting).1 (newYearRun setting).2 :=
  Dialogue.runs_recorded isOutsideLeapSeconds_newYearAnswer _ []

/-- A clock that is an hour ahead is set to the first day of 2017. -/
theorem synchronize_tells_current_time_of_new_year :
    ∃ history value, Dialogue.Runs (recording Turn.IsOutsideLeapSeconds)
        ((Command.synchronizeTime.execute ⟨-60, true⟩).run.run keyedDevice) []
        (.ok .success, keyedDevice) history ∧
      writes history = [⟨timeAddress, value⟩] ∧
      LocalSetting.IsToldBy ⟨-60, true⟩ ⟨1483227000, 123456789⟩ value := by
  have hruns := runs_newYearRun ⟨-60, true⟩
  obtain ⟨_, now, hnow, hends⟩ := synchronize_tells_current_time hruns
  obtain rfl : ⟨1483227000, 123456789⟩ = now := List.head_eq_of_cons_eq hnow
  have hdate : (Instant.at ⟨1483227000, 123456789⟩ (-60)).civil.date = ⟨2017, 1, 1⟩ := by decide
  have hshow : LocalSetting.CanShow ⟨-60, true⟩ ⟨1483227000, 123456789⟩ := by
    simp only [LocalSetting.CanShow, hdate]
    decide
  have hspecified : ¬ LocalSetting.Obscures ⟨-60, true⟩ ⟨1483227000, 123456789⟩ := by
    simp only [LocalSetting.Obscures, hdate]
    decide
  obtain ⟨value, hwrites, htold⟩ := hends.exists_isToldBy hshow hspecified
  exact ⟨_, value, hruns, hwrites, htold⟩

/-- A deviation that stands for none is not refused: the meter is told a time that denotes no
instant. -/
theorem not_synchronize_tells_of_unspecified_deviation :
    ¬ ∀ (setting : LocalSetting) (device d : Device) (r : Outcome AccessResult)
        (history : List (Turn Answer)),
      Dialogue.Runs (recording Turn.IsOutsideLeapSeconds)
        ((Command.synchronizeTime.execute setting).run.run device) [] (r, d) history →
      ∃ now, history.filterMap Turn.time? = [now] ∧
        (((∃ failure, r = .error failure) ∧ writes history = []) ∨
          ∃ value, writes history = [⟨timeAddress, value⟩] ∧ setting.IsToldBy now value) := by
  intro h
  obtain ⟨now, _, hends⟩ := h _ _ _ _ _ (runs_newYearRun ⟨-32768, false⟩)
  obtain ⟨⟨failure, hfailure⟩, _⟩ | ⟨value, hwrites, htold⟩ := hends
  · cases hfailure
  · have hvalue := List.head_eq_of_cons_eq hwrites
    cases hvalue
    cases htold.instant "clock"

end Clock

end HeadEnd
