import HeadEnd.Proofs.Cosem.Instant

/-! # Instants told in their own zone

A date-time shows the local time of a zone to the second but tells the offset of the zone in whole
minutes. What the minutes leave of the offset is lost, and the instant is off by as much.
-/

namespace HeadEnd

namespace ZonedTime

/-- The instant is outside leap seconds, and the offset is less than a day. -/
structure IsRegular (time : ZonedTime) : Prop where
  leap : ¬ time.instant.IsLeap
  offset : time.offset.natAbs < secondsPerDay

/-- The offset in minutes is at most half a day, and the local year has sixteen bits. -/
def IsWritable (time : ZonedTime) : Prop :=
  (time.offset.tdiv 60).natAbs ≤ 720 ∧ 0 ≤ time.civil.date.year ∧ time.civil.date.year < 65536

/-- The offset is a whole number of minutes, and the local year is not the one that stands for
none. -/
def IsExact (time : ZonedTime) : Prop :=
  60 ∣ time.offset ∧ time.civil.date.year ≠ 65535

def truncated (time : ZonedTime) : ZonedTime :=
  { time with instant.nanos := time.instant.nanos - time.instant.nanos % 10000000 }

/-- What a date-time in the own zone tells: the offset in whole minutes and, in hundredths of a
second, the instant that is off by the rest of it; or nothing in the year that stands for none. -/
def told? (time : ZonedTime) : Option ZonedTime :=
  if time.civil.date.year = 65535 then none
  else some ⟨⟨time.instant.seconds + time.offset.tmod 60,
    time.instant.nanos - time.instant.nanos % 10000000⟩, 60 * time.offset.tdiv 60⟩

variable {time : ZonedTime}

theorem minutes_add_rest (time : ZonedTime) :
    60 * time.offset.tdiv 60 + time.offset.tmod 60 = time.offset :=
  Int.mul_tdiv_add_tmod time.offset 60

/-- An exact time is told as it is. -/
theorem IsExact.told?_eq (h : time.IsExact) : time.told? = some time.truncated := by
  obtain ⟨hwhole, hspecified⟩ := h
  have hrest : time.offset.tmod 60 = 0 := Int.dvd_iff_tmod_eq_zero.mp hwhole
  have hminutes := time.minutes_add_rest
  rw [hrest, Int.add_zero] at hminutes
  simp [told?, hspecified, truncated, hrest, hminutes]

/-- No other time is told as the same instant. -/
theorem map_instant_told?_iff :
    time.told?.map instant = some time.truncated.instant ↔ time.IsExact := by
  rw [IsExact, Int.dvd_iff_tmod_eq_zero, told?]
  split
  case isTrue hlast => simp [hlast]
  case isFalse hspecified => simp [truncated, hspecified]

theorem IsRegular.natAbs_minutes_le (h : time.IsRegular) : (time.offset.tdiv 60).natAbs ≤ 1439 := by
  have hoffset := h.offset
  unfold secondsPerDay at hoffset
  rw [Int.natAbs_tdiv]
  change time.offset.natAbs / 60 ≤ 1439
  omega

theorem IsRegular.toInt_deviation (h : time.IsRegular) :
    (Int16.ofInt (-(time.offset.tdiv 60))).toInt = -(time.offset.tdiv 60) := by
  have hminutes := h.natAbs_minutes_le
  exact Int16.toInt_ofInt_of_le (by omega) (by omega)

theorem IsRegular.deviation_ne (h : time.IsRegular) :
    Int16.ofInt (-(time.offset.tdiv 60)) ≠ unspecifiedDeviation := by
  intro hunspecified
  have hminutes := h.natAbs_minutes_le
  have hdeviation := h.toInt_deviation
  rw [hunspecified] at hdeviation
  change -32768 = _ at hdeviation
  omega

theorem IsRegular.deviationInRange_iff (h : time.IsRegular) :
    CosemDateTime.deviationInRange (Int16.ofInt (-(time.offset.tdiv 60))) = true ↔
      (time.offset.tdiv 60).natAbs ≤ 720 := by
  rw [CosemDateTime.deviationInRange_eq_true_iff, h.toInt_deviation, or_iff_right h.deviation_ne]
  omega

/-- A time is written as the date-time of its zone, if it can be written. -/
theorem IsRegular.ofZoned_eq_ok_iff (h : time.IsRegular) {value : Value} :
    Value.ofZoned time = .ok value ↔ time.IsWritable ∧
      value = .dateTime (.showing time.civil (Int16.ofInt (-(time.offset.tdiv 60))) false) := by
  have hminutes := h.natAbs_minutes_le
  have hofZoned : CosemDateTime.ofZoned time =
      CosemDateTime.ofLocal time.civil (Int16.ofInt (-(time.offset.tdiv 60))) false :=
    if_pos (by omega)
  rw [Value.ofZoned, hofZoned, Outcome.ofData_map_eq_ok_iff]
  simp only [CosemDateTime.ofLocal_eq_ok_iff time.isShown_civil, h.deviationInRange_iff]
  constructor
  · rintro ⟨t, ⟨hyear, hhalfDay, rfl⟩, rfl⟩
    exact ⟨⟨hhalfDay, hyear⟩, rfl⟩
  · rintro ⟨⟨hhalfDay, hyear⟩, rfl⟩
    exact ⟨_, ⟨hyear, hhalfDay, rfl⟩, rfl⟩

/-- What was written of a time is read as what a date-time in its zone tells. -/
theorem IsRegular.toZoned?_of_ofZoned (h : time.IsRegular) {value : Value}
    (hvalue : Value.ofZoned time = .ok value) (context : String) :
    value.toZoned? context = .ok time.told? := by
  obtain ⟨⟨hhalfDay, hyear⟩, rfl⟩ := h.ofZoned_eq_ok_iff.mp hvalue
  have hminutes := time.minutes_add_rest
  have hshift : time.offset + 60 * -(time.offset.tdiv 60) = time.offset.tmod 60 := by omega
  have hoffset : -60 * -(time.offset.tdiv 60) = 60 * time.offset.tdiv 60 := by omega
  have hzoned := toZoned?_showing_civil h.leap (h.deviationInRange_iff.mpr hhalfDay) hyear false
  simp only [h.deviation_ne, or_false, h.toInt_deviation, hshift, hoffset] at hzoned
  exact congrArg Except.ok hzoned

end ZonedTime

end HeadEnd
