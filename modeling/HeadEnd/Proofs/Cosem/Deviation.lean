import HeadEnd.Proofs.Cosem.Instant

/-! # Instants shown at a deviation

An instant can be written at every deviation at which its local year has sixteen bits, and what was
written is read as the same instant, down to hundredths of a second.
-/

namespace HeadEnd

open Calendar

/-! ## Years that can be written -/

/-- A year of sixteen bits lies within the covered years by far. -/
theorem Instant.representable_of_year {t : Instant} (hfirst : 0 ≤ t.civil.date.year)
    (hlast : t.civil.date.year ≤ 65535) : t.Representable := by
  have hvalid : t.civil.date.Valid := t.isShown_civil.date
  have hday := CosemDateTime.day_le_31 hvalid
  obtain ⟨_, hmonth, _, _⟩ := hvalid
  have hdays : t.civil.date.toDays = t.seconds / (secondsPerDay : Nat) := toDays_ofDays _
  generalize t.civil.date = date at *
  have hbounds : -1000000 ≤ date.toDays ∧ date.toDays ≤ 30000000 := by
    unfold CivilDate.toDays daysBeforeMonth epochOffset
    dsimp only
    split <;> omega
  rw [hdays] at hbounds
  unfold secondsPerDay at hbounds
  unfold Representable firstSecond lastSecond
  omega

/-! ## Deviations -/

/-- The instant, told in the zone that has the deviation. -/
def Instant.at (time : Instant) (deviation : Int16) : ZonedTime :=
  ⟨time, -60 * deviation.toInt⟩

variable {time : Instant} {deviation : Int16} {daylightSaving : Bool}

theorem Instant.minutesEarlier?_eq (hleap : ¬ time.IsLeap) (minutes : Int) :
    time.minutesEarlier? minutes =
      if ({ time with seconds := time.seconds - 60 * minutes } : Instant).Representable then
        some { time with seconds := time.seconds - 60 * minutes }
      else none := by
  have hleap' : ¬ (time.IsLeap ∧ minutes ≠ 0) := fun h => hleap h.1
  unfold minutesEarlier?
  rw [if_neg hleap']

namespace CosemDateTime

/-- An instant is written at a deviation exactly if the deviation is at most half a day or not
specified and the local year has sixteen bits. -/
theorem ofInstant_eq_ok_iff_inRange (hleap : ¬ time.IsLeap) {t : CosemDateTime} :
    ofInstant time deviation daylightSaving = .ok t ↔
      deviationInRange deviation = true ∧
        (0 ≤ (time.at deviation).civil.date.year ∧ (time.at deviation).civil.date.year ≤ 65535) ∧
        t = showing (time.at deviation).civil deviation daylightSaving := by
  have hshown : ({ time with seconds := time.seconds - 60 * deviation.toInt } : Instant).civil =
      (time.at deviation).civil := by
    unfold Instant.at ZonedTime.civil
    rw [Int.neg_mul, ← Int.sub_eq_add_neg]
  have hlast : (time.at deviation).civil.date.year < 65536 ↔
      (time.at deviation).civil.date.year ≤ 65535 := by
    omega
  rw [ofInstant, Instant.minutesEarlier?_eq hleap]
  by_cases hrepresentable :
      ({ time with seconds := time.seconds - 60 * deviation.toInt } : Instant).Representable
  · rw [if_pos hrepresentable]
    dsimp only
    rw [hshown, ofLocal_eq_ok_iff (ZonedTime.isShown_civil _), hlast]
    exact and_left_comm
  · rw [if_neg hrepresentable]
    have hyear : ¬ (0 ≤ (time.at deviation).civil.date.year ∧
        (time.at deviation).civil.date.year ≤ 65535) := by
      intro hyear
      rw [← hshown] at hyear
      exact hrepresentable (Instant.representable_of_year hyear.1 hyear.2)
    simp [hyear]

theorem ofInstant_eq_ok_iff (hleap : ¬ time.IsLeap) (hlow : -720 ≤ deviation.toInt)
    (hhigh : deviation.toInt ≤ 720) {t : CosemDateTime} :
    ofInstant time deviation daylightSaving = .ok t ↔
      (0 ≤ (time.at deviation).civil.date.year ∧ (time.at deviation).civil.date.year ≤ 65535) ∧
        t = showing (time.at deviation).civil deviation daylightSaving := by
  have hdeviation : deviationInRange deviation = true :=
    deviationInRange_eq_true_iff.mpr (.inr ⟨hlow, hhigh⟩)
  rw [ofInstant_eq_ok_iff_inRange hleap, and_iff_right hdeviation]

theorem isDaylightSaving_showing {shown : LocalTime} :
    (showing shown deviation daylightSaving).isDaylightSaving = daylightSaving := by
  cases daylightSaving
  · change ClockStatus.daylightSavingActive.isIn (ClockStatus.toByte []) = false
    decide
  · change ClockStatus.daylightSavingActive.isIn (ClockStatus.toByte [.daylightSavingActive]) = true
    decide

/-- The fields of an instant that was written at a deviation tell the deviation, daylight saving time
and the day of the week. -/
theorem fields_showing (hlow : -720 ≤ deviation.toInt) :
    (showing (time.at deviation).civil deviation daylightSaving).deviation? = some deviation ∧
      (showing (time.at deviation).civil deviation daylightSaving).isDaylightSaving =
        daylightSaving ∧
      (showing (time.at deviation).civil deviation daylightSaving).weekday.toNat =
        Calendar.weekday (time.at deviation).civil.date.toDays := by
  refine ⟨?_, isDaylightSaving_showing, ?_⟩
  · have hspecified : deviation ≠ unspecifiedDeviation := by
      rintro rfl
      exact absurd hlow (by decide)
    exact if_neg hspecified
  · rw [(shows_showing (ZonedTime.isShown_civil _)).weekday]
    exact congrArg Calendar.weekday (toDays_ofDays _).symm

variable (daylightSaving) in
/-- An instant that was written at a deviation is read again, down to hundredths of a second. -/
theorem toZoned?_showing_at (hleap : ¬ time.IsLeap) (hlow : -720 ≤ deviation.toInt)
    (hhigh : deviation.toInt ≤ 720)
    (hyear : 0 ≤ (time.at deviation).civil.date.year ∧ (time.at deviation).civil.date.year < 65535) :
    (showing (time.at deviation).civil deviation daylightSaving).toZoned? =
      some ({ time with nanos := time.nanos - time.nanos % 10000000 }.at deviation) := by
  have hdeviation : deviationInRange deviation = true :=
    deviationInRange_eq_true_iff.mpr (.inr ⟨hlow, hhigh⟩)
  have hspecified : ¬ ((time.at deviation).civil.date.year = 65535 ∨
      deviation = unspecifiedDeviation) := by
    rintro (hlast | rfl)
    · omega
    · exact absurd hlow (by decide)
  rw [ZonedTime.toZoned?_showing_civil hleap hdeviation (by omega), if_neg hspecified]
  simp [Instant.at]

end CosemDateTime

/-! ## Values -/

namespace Value

theorem ofInstant_eq_ok_iff {value : Value} :
    ofInstant time deviation daylightSaving = .ok value ↔
      ∃ t, CosemDateTime.ofInstant time deviation daylightSaving = .ok t ∧ value = .dateTime t :=
  Outcome.ofData_map_eq_ok_iff

/-- An instant outside leap seconds is written at a deviation of at most half a day exactly if its
local year has sixteen bits. Unless that year is the one that stands for none, what was written tells
the deviation, daylight saving time and the day of the week, and is read as the instant down to
hundredths of a second. -/
theorem ofInstant_reads_back (hleap : ¬ time.IsLeap) (hlow : -720 ≤ deviation.toInt)
    (hhigh : deviation.toInt ≤ 720) :
    ((∃ value, ofInstant time deviation daylightSaving = .ok value) ↔
      0 ≤ (time.at deviation).civil.date.year ∧ (time.at deviation).civil.date.year ≤ 65535) ∧
    ∀ value, ofInstant time deviation daylightSaving = .ok value →
      (time.at deviation).civil.date.year ≠ 65535 → ∀ context,
      (∃ t, value.toDateTime? context = .ok (some t) ∧ t.deviation? = some deviation ∧
        t.isDaylightSaving = daylightSaving ∧
        t.weekday.toNat = Calendar.weekday (time.at deviation).civil.date.toDays) ∧
      value.toZoned? context =
        .ok (some ({ time with nanos := time.nanos - time.nanos % 10000000 }.at deviation)) := by
  simp only [ofInstant_eq_ok_iff, CosemDateTime.ofInstant_eq_ok_iff hleap hlow hhigh]
  constructor
  · constructor
    · rintro ⟨_, _, ⟨hyear, _⟩, _⟩
      exact hyear
    · intro hyear
      exact ⟨_, _, ⟨hyear, rfl⟩, rfl⟩
  · rintro _ ⟨t, ⟨hyear, rfl⟩, rfl⟩ hspecified context
    refine ⟨⟨_, rfl, CosemDateTime.fields_showing hlow⟩, ?_⟩
    have hzoned := CosemDateTime.toZoned?_showing_at daylightSaving hleap hlow hhigh
      (by omega)
    exact congrArg Except.ok hzoned

/-- Half an hour before the end of 2016 in UTC a clock that is an hour ahead shows a Sunday, the first
day of 2017. -/
theorem ofInstant_reads_back_of_new_year :
    ∃ value t, ofInstant ⟨1483227000, 123456789⟩ (-60) true = .ok value ∧
      value.toDateTime? "clock" = .ok (some t) ∧ t.deviation? = some (-60) ∧
      t.isDaylightSaving = true ∧ t.weekday = 7 ∧
      value.toZoned? "clock" = .ok (some ⟨⟨1483227000, 120000000⟩, 3600⟩) := by
  have hdate : (Instant.at ⟨1483227000, 123456789⟩ (-60)).civil.date = ⟨2017, 1, 1⟩ := by decide
  obtain ⟨hwritten, hread⟩ := @ofInstant_reads_back ⟨1483227000, 123456789⟩ (-60) true (by decide)
    (by decide) (by decide)
  obtain ⟨value, hvalue⟩ := hwritten.mpr (by rw [hdate]; decide)
  obtain ⟨⟨t, ht, hdeviation, hdaylight, hweekday⟩, hzoned⟩ :=
    hread value hvalue (by rw [hdate]; decide) "clock"
  rw [hdate] at hweekday
  exact ⟨value, t, hvalue, ht, hdeviation, hdaylight, UInt8.toNat_inj.mp hweekday, hzoned⟩

end Value

end HeadEnd
