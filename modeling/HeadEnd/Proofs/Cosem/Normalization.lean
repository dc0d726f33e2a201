import HeadEnd.Proofs.Cosem.Deviation
import HeadEnd.Proofs.Cosem.Offset

/-! # Date-times in normal form

A date-time that denotes an instant tells more than the instant: it may leave open the day of the week
and the hundredths of a second, and it reports conditions of the clock. Written again, the instant
gives the same date-time with these in normal form.
-/

namespace HeadEnd

open Calendar

namespace CosemDateTime

variable {t : CosemDateTime} {time : ZonedTime}

/-- A date-time as programs come by it: read from bytes, or made of fields and conditions. -/
inductive IsObtained : CosemDateTime → Prop where
  | read {bytes : List UInt8} {t : CosemDateTime} : decode bytes = .ok t → IsObtained t
  | made {fields t : CosemDateTime} {statuses : List ClockStatus} :
      checked { fields with status := ClockStatus.toByte statuses } = .ok t → IsObtained t

theorem IsObtained.checked (h : t.IsObtained) : t.checked = .ok t := by
  cases h with
  | read hdecode => exact (checked_of_decode hdecode).2
  | made hchecked =>
      obtain ⟨hrange, rfl⟩ := checked_eq_ok_iff.mp hchecked
      exact checked_eq_ok_iff.mpr ⟨hrange, rfl⟩

def date (t : CosemDateTime) : CivilDate :=
  ⟨t.year.toNat, t.month.toNat, t.day.toNat⟩

/-- The local time that the fields tell, as if it were shown by a clock that runs in UTC. -/
def shown (t : CosemDateTime) : Instant :=
  .ofCivil t.date t.hour.toNat t.minute.toNat t.second.toNat (10000000 * t.hundredthsOrZero.toNat)

/-- The instant at which the fields are shown at the deviation. -/
def told (t : CosemDateTime) : Instant :=
  { t.shown with seconds := t.shown.seconds + 60 * t.deviation.toInt }

/-- The date-time with the day of the week that its date has, with all hundredths of a second
specified and with no condition of the clock. -/
def normalized (t : CosemDateTime) : CosemDateTime :=
  { t with
    weekday := UInt8.ofNat (Calendar.weekday t.date.toDays)
    hundredths := t.hundredthsOrZero
    status := 0 }

/-! ## The instant -/

theorem at_told (t : CosemDateTime) :
    t.told.at t.deviation =
      .ofCivil t.date t.hour.toNat t.minute.toNat t.second.toNat
        (10000000 * t.hundredthsOrZero.toNat) (-60 * t.deviation.toInt) := by
  have hseconds : t.shown.seconds + 60 * t.deviation.toInt =
      t.shown.seconds - -60 * t.deviation.toInt := by omega
  rw [Instant.at, told, hseconds]
  rfl

theorem toNat_lt_of_isTimeByte {bound field : UInt8} (h : IsTimeByte bound field)
    (hspecified : field ≠ unspecified) : field.toNat < bound.toNat :=
  UInt8.lt_iff_toNat_lt.mp (h.resolve_right hspecified)

/-- The time of day that is told by a date-time whose fields lie in their ranges exists. -/
theorem timeOfDay_lt (h : t.checked = .ok t) (hspecified : t.isFullySpecified = true) :
    t.hour.toNat < 24 ∧ t.minute.toNat < 60 ∧ t.second.toNat < 60 := by
  obtain ⟨-, hhour, hminute, hsecond, -⟩ := fieldsInRange_iff.mp (checked_eq_ok_iff.mp h).1.1
  simp only [isFullySpecified, Bool.and_eq_true, bne_iff_ne] at hspecified
  obtain ⟨⟨⟨⟨-, hhour'⟩, hminute'⟩, hsecond'⟩, -⟩ := hspecified
  exact ⟨toNat_lt_of_isTimeByte hhour hhour', toNat_lt_of_isTimeByte hminute hminute',
    toNat_lt_of_isTimeByte hsecond hsecond'⟩

/-- The deviation of a date-time that is fully specified is at most half a day. -/
theorem deviation_le (h : t.checked = .ok t) (hspecified : t.isFullySpecified = true) :
    -720 ≤ t.deviation.toInt ∧ t.deviation.toInt ≤ 720 := by
  simp only [isFullySpecified, Bool.and_eq_true, bne_iff_ne] at hspecified
  exact (deviationInRange_eq_true_iff.mp (checked_eq_ok_iff.mp h).1.2).resolve_left hspecified.2

/-- A date-time denotes an instant exactly if it is fully specified and its day exists. -/
theorem toZoned?_eq_some_iff (h : t.checked = .ok t) :
    t.toZoned? = some time ↔
      (t.isFullySpecified = true ∧ t.date.Valid) ∧ time = t.told.at t.deviation := by
  rw [at_told, toZoned?]
  cases hspecified : t.isFullySpecified with
  | false => simp
  | true =>
      obtain ⟨hhour, hminute, hsecond⟩ := timeOfDay_lt h hspecified
      have hdeviation := deviation_le h hspecified
      have hhundredths := hundredthsOrZero_lt h
      have htime : isTimeOfDay t.hour.toNat t.minute.toNat t.second.toNat
          (10000000 * t.hundredthsOrZero.toNat) = true := by
        have hnanos : 10000000 * t.hundredthsOrZero.toNat < nanosPerSecond := by
          unfold nanosPerSecond
          omega
        have hnanos' : 10000000 * t.hundredthsOrZero.toNat < 2 * nanosPerSecond := by omega
        simp [isTimeOfDay, hhour, hminute, hsecond, hnanos, hnanos']
      have hoffset : (-60 * t.deviation.toInt).natAbs < secondsPerDay := by
        unfold secondsPerDay
        omega
      have hfields : (⟨t.year.toNat, t.month.toNat, t.day.toNat⟩ : CivilDate) = t.date := rfl
      simp only [hfields, htime, hoffset]
      by_cases hdate : t.date.Valid
      · simp [hdate, eq_comm]
      · simp [hdate]

/-! ## The instant written again -/

theorem hundredthsOf_mul {hundredths : UInt8} (h : hundredths.toNat < 100) :
    hundredthsOf (10000000 * hundredths.toNat) = hundredths := by
  have hwhole : min (10000000 * hundredths.toNat / 10000000) 99 = hundredths.toNat := by omega
  rw [hundredthsOf, hwhole, UInt8.ofNat_toNat]

/-- A clock at the deviation shows the fields again. -/
theorem civil_told (h : t.checked = .ok t) (hspecified : t.isFullySpecified = true)
    (hdate : t.date.Valid) :
    (t.told.at t.deviation).civil =
      ⟨t.date, Calendar.weekday t.date.toDays, t.hour.toNat, t.minute.toNat, t.second.toNat,
        10000000 * t.hundredthsOrZero.toNat⟩ := by
  obtain ⟨hhour, hminute, hsecond⟩ := timeOfDay_lt h hspecified
  rw [at_told, ZonedTime.civil_ofCivil hdate hhour hminute hsecond]

theorem showing_told (h : t.checked = .ok t) (hspecified : t.isFullySpecified = true)
    (hdate : t.date.Valid) (daylightSaving : Bool) :
    showing (t.told.at t.deviation).civil t.deviation daylightSaving =
      { t.normalized with
        status := ClockStatus.toByte (if daylightSaving then [.daylightSavingActive] else []) } := by
  rw [civil_told h hspecified hdate]
  simp [showing, normalized, date, hundredthsOf_mul (hundredthsOrZero_lt h)]

theorem toByte_isDaylightSaving (t : CosemDateTime) :
    ClockStatus.toByte (if t.isDaylightSaving then [.daylightSavingActive] else []) =
      t.status &&& ClockStatus.daylightSavingActive.mask := by
  have hbit : t.status &&& ClockStatus.daylightSavingActive.mask = 0 ∨
      t.status &&& ClockStatus.daylightSavingActive.mask = 0x80 := by
    have hand := BitVec.and_twoPow t.status.toBitVec 7
    split at hand
    · exact .inr (UInt8.toBitVec_inj.mp hand)
    · exact .inl (UInt8.toBitVec_inj.mp hand)
  rw [isDaylightSaving, ClockStatus.isIn]
  obtain hclear | hset := hbit
  · rw [hclear]
    rfl
  · rw [hset]
    rfl

theorem isLeap_told (h : t.checked = .ok t) : ¬ t.told.IsLeap := by
  have hhundredths := hundredthsOrZero_lt h
  change ¬ nanosPerSecond ≤ 10000000 * t.hundredthsOrZero.toNat
  unfold nanosPerSecond
  omega

/-- The instant is written at its own deviation. -/
theorem ofZoned_told (h : t.checked = .ok t) (hspecified : t.isFullySpecified = true)
    (hdate : t.date.Valid) :
    Value.ofZoned (t.told.at t.deviation) = .ok (.dateTime t.normalized) := by
  have hdeviation := deviation_le h hspecified
  have hyear := t.year.toNat_lt
  have hminutes : (t.told.at t.deviation).offset.tdiv 60 = -t.deviation.toInt := by
    have hcancel := Int.mul_tdiv_cancel_left (-t.deviation.toInt) (show (60 : Int) ≠ 0 by decide)
    rwa [Int.mul_neg, ← Int.neg_mul] at hcancel
  have hregular : (t.told.at t.deviation).IsRegular := by
    refine ⟨isLeap_told h, ?_⟩
    change (-60 * t.deviation.toInt).natAbs < secondsPerDay
    unfold secondsPerDay
    omega
  refine hregular.ofZoned_eq_ok_iff.mpr ⟨⟨by omega, ?_⟩, ?_⟩
  · rw [civil_told h hspecified hdate]
    change (0 : Int) ≤ t.year.toNat ∧ (t.year.toNat : Int) < 65536
    omega
  · rw [hminutes, Int.neg_neg, Int16.ofInt_toInt, showing_told h hspecified hdate]
    rfl

/-- The instant is written at the deviation as it was told. -/
theorem ofInstant_told (h : t.checked = .ok t) (hspecified : t.isFullySpecified = true)
    (hdate : t.date.Valid) :
    Value.ofInstant t.told t.deviation t.isDaylightSaving =
      .ok (.dateTime { t.normalized with
        status := t.status &&& ClockStatus.daylightSavingActive.mask }) := by
  have hdeviation := deviation_le h hspecified
  have hyear := t.year.toNat_lt
  refine Value.ofInstant_eq_ok_iff.mpr ⟨_, ?_, rfl⟩
  refine (ofInstant_eq_ok_iff (isLeap_told h) hdeviation.1 hdeviation.2).mpr ⟨?_, ?_⟩
  · rw [civil_told h hspecified hdate]
    change (0 : Int) ≤ t.year.toNat ∧ (t.year.toNat : Int) ≤ 65535
    omega
  · rw [showing_told h hspecified hdate, toByte_isDaylightSaving]

/-! ## Normal form -/

/-- A date-time that was read or made denotes an instant exactly if it is fully specified and its day
exists. The instant in UTC is the deviation after the local time. Written in its own zone it gives the
date-time in normal form; written at the deviation and the daylight saving time of the date-time, it
gives the same with the bit for daylight saving time as it was. -/
theorem toZoned?_normalizes (h : t.IsObtained) :
    ((∃ time, t.toZoned? = some time) ↔ t.isFullySpecified = true ∧ t.date.Valid) ∧
      ∀ time, t.toZoned? = some time →
        time.instant = { t.shown with seconds := t.shown.seconds + 60 * t.deviation.toInt } ∧
        Value.ofZoned time = .ok (.dateTime t.normalized) ∧
        Value.ofInstant time.instant t.deviation t.isDaylightSaving =
          .ok (.dateTime { t.normalized with
            status := t.status &&& ClockStatus.daylightSavingActive.mask }) := by
  have hchecked := h.checked
  simp only [toZoned?_eq_some_iff hchecked]
  constructor
  · constructor
    · rintro ⟨_, hdenotes, _⟩
      exact hdenotes
    · intro hdenotes
      exact ⟨_, hdenotes, rfl⟩
  · rintro _ ⟨⟨hspecified, hdate⟩, rfl⟩
    exact ⟨rfl, ofZoned_told hchecked hspecified hdate, ofInstant_told hchecked hspecified hdate⟩

/-- A clock an hour ahead of UTC shows an instant of a leap day, without the day of the week and the
hundredths, while daylight saving time is active and the clock may be wrong. -/
theorem toZoned?_normalizes_of_leap_day :
    ∃ t time, decode [0x07, 0xE0, 2, 29, 0xFF, 0, 30, 0, 0xFF, 0xFF, 0xC4, 0x82] = .ok t ∧
      t.toZoned? = some time ∧ time.instant = ⟨1456702200, 0⟩ ∧
      Value.ofZoned time = .ok (.dateTime ⟨2016, 2, 29, 1, 0, 30, 0, 0, -60, 0⟩) ∧
      Value.ofInstant time.instant (-60) true =
        .ok (.dateTime ⟨2016, 2, 29, 1, 0, 30, 0, 0, -60, 0x80⟩) := by
  have hread : decode [0x07, 0xE0, 2, 29, 0xFF, 0, 30, 0, 0xFF, 0xFF, 0xC4, 0x82] =
      .ok ⟨2016, 2, 29, 0xFF, 0, 30, 0, 0xFF, -60, 0x82⟩ := by decide
  obtain ⟨hdenotes, hwritten⟩ := toZoned?_normalizes (.read hread)
  obtain ⟨time, htime⟩ := hdenotes.mpr (by decide)
  obtain ⟨hinstant, hzoned, hat⟩ := hwritten time htime
  exact ⟨_, time, hread, htime, hinstant.trans (by decide), hzoned, hat⟩

end CosemDateTime

end HeadEnd
