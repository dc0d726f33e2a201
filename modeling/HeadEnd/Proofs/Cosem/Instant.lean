import HeadEnd.Cosem.Instant
import HeadEnd.Proofs.Cosem.DateTime
import HeadEnd.Proofs.Time.Calendar

/-! # Instants written as date-times

A date-time that shows an instant denotes that instant, down to hundredths of a second.
-/

namespace HeadEnd

open Calendar

/-! ## Local time -/

structure LocalTime.IsShown (shown : LocalTime) : Prop where
  date : shown.date.Valid
  weekday : 1 ≤ shown.weekday ∧ shown.weekday ≤ 7
  hour : shown.hour < 24
  minute : shown.minute < 60
  second : shown.second < 60

namespace Instant

theorem isShown_civil (t : Instant) : t.civil.IsShown := by
  have hsecond : (t.seconds % (secondsPerDay : Nat)).toNat < 86400 := by
    unfold secondsPerDay
    omega
  refine ⟨valid_ofDays _, ?_, ?_, ?_, ?_⟩
  · unfold civil weekday
    dsimp only
    omega
  all_goals
    unfold civil
    dsimp only
    omega

/-- The civil time of an instant is shown at that instant. -/
theorem ofCivil_civil (t : Instant) (nanos : Nat) :
    ofCivil t.civil.date t.civil.hour t.civil.minute t.civil.second nanos =
      { t with nanos := nanos } := by
  unfold ofCivil civil
  simp only [toDays_ofDays, Instant.mk.injEq, and_true]
  unfold secondsPerDay
  omega

/-- At the instant at which a clock shows a date and a time of day, it shows them. -/
theorem civil_ofCivil {date : CivilDate} (hdate : date.Valid) {hour minute second : Nat}
    (hhour : hour < 24) (hminute : minute < 60) (hsecond : second < 60) (nanos : Nat) :
    (ofCivil date hour minute second nanos).civil =
      ⟨date, weekday date.toDays, hour, minute, second, nanos⟩ := by
  have hdays : (ofCivil date hour minute second nanos).seconds / (secondsPerDay : Nat) =
      date.toDays := by
    unfold ofCivil secondsPerDay
    dsimp only
    omega
  have hrest : ((ofCivil date hour minute second nanos).seconds % (secondsPerDay : Nat)).toNat =
      3600 * hour + 60 * minute + second := by
    unfold ofCivil secondsPerDay
    dsimp only
    omega
  unfold civil
  rw [hdays, hrest]
  dsimp only
  rw [ofDays_toDays hdate]
  simp only [LocalTime.mk.injEq, true_and]
  refine ⟨?_, ?_, ?_, rfl⟩ <;> omega

/-- The instant down to hundredths of a second; those of a leap second count as the last one. -/
def toHundredths (t : Instant) : Instant :=
  { t with nanos := 10000000 * min (t.nanos / 10000000) 99 }

theorem toHundredths_le {s t : Instant} (h : s ≤ t) : s.toHundredths ≤ t := by
  rcases h with hlt | ⟨hseconds, hnanos⟩
  · exact .inl hlt
  · refine .inr ⟨hseconds, ?_⟩
    unfold toHundredths
    dsimp only
    omega

theorem toHundredths_eq {t : Instant} (h : ¬ t.IsLeap) :
    t.toHundredths = { t with nanos := t.nanos - t.nanos % 10000000 } := by
  unfold IsLeap nanosPerSecond at h
  simp only [toHundredths, Instant.mk.injEq, true_and]
  omega

/-- Whole hundredths of a second do not come after an instant without coming after its own. -/
theorem le_toHundredths {s t : Instant} {hundredths : Nat} (hs : s.nanos = 10000000 * hundredths)
    (hlt : hundredths ≤ 99) (h : s ≤ t) : s ≤ t.toHundredths := by
  rcases h with hlt | ⟨hseconds, hnanos⟩
  · exact .inl hlt
  · refine .inr ⟨hseconds, ?_⟩
    unfold toHundredths
    dsimp only
    omega

end Instant

theorem Outcome.ofData_map_eq_ok_iff {α β : Type} {data : Except DataFault α} {f : α → β} {b : β} :
    Outcome.ofData (data.map f) = .ok b ↔ ∃ a, data = .ok a ∧ b = f a := by
  cases data with
  | error fault => simp [Outcome.ofData, Except.map]
  | ok a => simp [Outcome.ofData, Except.map, eq_comm]

/-! ## Date-times -/

namespace CosemDateTime

def showing (shown : LocalTime) (deviation : Int16) (daylightSaving : Bool) : CosemDateTime where
  year := UInt16.ofNat shown.date.year.toNat
  month := UInt8.ofNat shown.date.month
  day := UInt8.ofNat shown.date.day
  weekday := UInt8.ofNat shown.weekday
  hour := UInt8.ofNat shown.hour
  minute := UInt8.ofNat shown.minute
  second := UInt8.ofNat shown.second
  hundredths := hundredthsOf shown.nanos
  deviation := deviation
  status := ClockStatus.toByte (if daylightSaving then [.daylightSavingActive] else [])

variable {shown : LocalTime} {deviation : Int16} {daylightSaving : Bool}

theorem toNat_ofNat {n : Nat} (h : n < 256) : (UInt8.ofNat n).toNat = n :=
  UInt8.toNat_ofNat_of_lt' h

theorem toNat_hundredthsOf (nanos : Nat) :
    (hundredthsOf nanos).toNat = min (nanos / 10000000) 99 :=
  toNat_ofNat (by omega)

theorem day_le_31 {date : CivilDate} (h : date.Valid) : date.day ≤ 31 := by
  obtain ⟨_, _, _, hday⟩ := h
  unfold daysInMonth at hday
  split at hday
  · split at hday <;> omega
  · split at hday <;> omega

/-- The fields of a date-time that shows a local time. -/
structure Shows (t : CosemDateTime) (shown : LocalTime) : Prop where
  month : t.month.toNat = shown.date.month
  day : t.day.toNat = shown.date.day
  weekday : t.weekday.toNat = shown.weekday
  hour : t.hour.toNat = shown.hour
  minute : t.minute.toNat = shown.minute
  second : t.second.toNat = shown.second
  hundredths : t.hundredths.toNat = min (shown.nanos / 10000000) 99

theorem shows_showing (h : shown.IsShown) : (showing shown deviation daylightSaving).Shows shown := by
  obtain ⟨hdate, hweekday, hhour, hminute, hsecond⟩ := h
  have hday := day_le_31 hdate
  have hmonth := hdate.2.1
  exact ⟨toNat_ofNat (by omega), toNat_ofNat (by omega), toNat_ofNat (by omega),
    toNat_ofNat (by omega), toNat_ofNat (by omega), toNat_ofNat (by omega),
    toNat_hundredthsOf shown.nanos⟩

theorem Shows.fieldsInRange {t : CosemDateTime} (h : t.Shows shown) (hshown : shown.IsShown) :
    t.fieldsInRange = true := by
  obtain ⟨hdate, hweekday, hhour, hminute, hsecond⟩ := hshown
  obtain ⟨hmonthLow, hmonth, hdayLow, _⟩ := id hdate
  have hday := day_le_31 hdate
  simp only [CosemDateTime.fieldsInRange, isMonthField, isDayField, isWeekdayField, isTimeField,
    h.month, h.day, h.weekday, h.hour, h.minute, h.second, h.hundredths]
  simp
  omega

theorem encodeYear_eq_ok_iff {year : Int} {encoded : UInt16} :
    encodeYear year = .ok encoded ↔
      (0 ≤ year ∧ year < 65536) ∧ encoded = UInt16.ofNat year.toNat := by
  by_cases hyear : 0 ≤ year ∧ year < 65536
  · simp [encodeYear, hyear, eq_comm]
  · simp [encodeYear, hyear]

theorem deviationInRange_eq_true_iff :
    deviationInRange deviation = true ↔
      deviation = unspecifiedDeviation ∨ (-720 ≤ deviation.toInt ∧ deviation.toInt ≤ 720) := by
  simp [deviationInRange]

/-- A local time is written exactly if its year has sixteen bits and the deviation lies in its
range. -/
theorem ofLocal_eq_ok_iff (h : shown.IsShown) {t : CosemDateTime} :
    ofLocal shown deviation daylightSaving = .ok t ↔
      (0 ≤ shown.date.year ∧ shown.date.year < 65536) ∧ deviationInRange deviation = true ∧
        t = showing shown deviation daylightSaving := by
  have hfields : (showing shown deviation daylightSaving).fieldsInRange = true :=
    (shows_showing h).fieldsInRange h
  unfold ofLocal
  cases hyear : encodeYear shown.date.year with
  | error fault =>
      have hout : ¬ (0 ≤ shown.date.year ∧ shown.date.year < 65536) := by
        intro hin
        rw [encodeYear_eq_ok_iff.mpr ⟨hin, rfl⟩] at hyear
        cases hyear
      simp [hout, bind, Except.bind]
  | ok encoded =>
      obtain ⟨hin, rfl⟩ := encodeYear_eq_ok_iff.mp hyear
      simp only [hin, true_and, bind, Except.bind]
      rw [show CosemDateTime.mk _ _ _ _ _ _ _ _ _ _ = showing shown deviation daylightSaving from rfl]
      cases hchecked : (showing shown deviation daylightSaving).checked with
      | error fault =>
          have hdeviation : ¬ deviationInRange deviation = true := by
            intro hdeviation
            rw [checked_eq_ok_iff.mpr ⟨⟨hfields, hdeviation⟩, rfl⟩] at hchecked
            cases hchecked
          simp [hdeviation]
      | ok t' =>
          obtain ⟨⟨_, hdeviation⟩, rfl⟩ := checked_eq_ok_iff.mp hchecked
          have hdeviation' : deviationInRange deviation = true := hdeviation
          simp [hdeviation', pure, Except.pure, eq_comm]

/-- A local time can be written if its year has sixteen bits. -/
theorem ofLocal_eq_ok (h : shown.IsShown) (hyear : 0 ≤ shown.date.year ∧ shown.date.year < 65536)
    (hdeviation : deviationInRange deviation = true) :
    ofLocal shown deviation daylightSaving = .ok (showing shown deviation daylightSaving) :=
  (ofLocal_eq_ok_iff h).mpr ⟨hyear, hdeviation, rfl⟩

theorem ne_unspecified {field : UInt8} (h : field.toNat < 255) : field ≠ unspecified := by
  rintro rfl
  exact absurd h (by decide)

theorem Shows.isFullySpecified {t : CosemDateTime} (h : t.Shows shown) (hshown : shown.IsShown)
    (hyear : t.year ≠ unspecifiedYear) (hdeviation : t.deviation ≠ unspecifiedDeviation) :
    t.isFullySpecified = true := by
  obtain ⟨hdate, _, hhour, hminute, hsecond⟩ := hshown
  have hday := day_le_31 hdate
  obtain ⟨hmonthLow, hmonth, hdayLow, _⟩ := hdate
  have hhour' : t.hour ≠ unspecified := ne_unspecified (by rw [h.hour]; omega)
  have hminute' : t.minute ≠ unspecified := ne_unspecified (by rw [h.minute]; omega)
  have hsecond' : t.second ≠ unspecified := ne_unspecified (by rw [h.second]; omega)
  simp [CosemDateTime.isFullySpecified, h.month, h.day, hyear, hdeviation, hhour', hminute',
    hsecond', hmonthLow, hmonth, hdayLow, hday]

/-- The date-time that shows a local time denotes the time at which it is shown. -/
theorem Shows.toZoned?_eq {t : CosemDateTime} (h : t.Shows shown) (hshown : shown.IsShown)
    (hyear : (t.year.toNat : Int) = shown.date.year) (hspecified : t.year ≠ unspecifiedYear)
    (hdeviation : -720 ≤ t.deviation.toInt ∧ t.deviation.toInt ≤ 720) :
    t.toZoned? = some (.ofCivil shown.date shown.hour shown.minute shown.second
      (10000000 * min (shown.nanos / 10000000) 99) (-60 * t.deviation.toInt)) := by
  have hne : t.deviation ≠ unspecifiedDeviation := by
    intro hunspecified
    rw [hunspecified] at hdeviation
    exact absurd hdeviation.1 (by decide)
  have hhundredths : t.hundredthsOrZero.toNat = min (shown.nanos / 10000000) 99 := by
    have hne : t.hundredths ≠ unspecified := ne_unspecified (by rw [h.hundredths]; omega)
    rw [hundredthsOrZero, if_neg hne, h.hundredths]
  have hdate : (⟨t.year.toNat, t.month.toNat, t.day.toNat⟩ : CivilDate) = shown.date := by
    rw [hyear, h.month, h.day]
  have htime : isTimeOfDay shown.hour shown.minute shown.second
      (10000000 * min (shown.nanos / 10000000) 99) = true := by
    obtain ⟨_, _, hhour, hminute, hsecond⟩ := hshown
    have hnanos : 10000000 * min (shown.nanos / 10000000) 99 < nanosPerSecond := by
      unfold nanosPerSecond
      omega
    have hnanos' : 10000000 * min (shown.nanos / 10000000) 99 < 2 * nanosPerSecond := by omega
    simp [isTimeOfDay, hhour, hminute, hsecond, hnanos, hnanos']
  have hoffset : (-60 * t.deviation.toInt).natAbs < secondsPerDay := by
    unfold secondsPerDay
    omega
  rw [toZoned?, h.isFullySpecified hshown hspecified hne, if_neg (by decide)]
  dsimp only
  rw [hdate, hhundredths, h.hour, h.minute, h.second]
  exact if_pos ⟨hshown.date, htime, hoffset⟩

theorem toZoned?_showing (h : shown.IsShown)
    (hyear : 0 ≤ shown.date.year ∧ shown.date.year < 65535)
    (hdeviation : -720 ≤ deviation.toInt ∧ deviation.toInt ≤ 720) :
    (showing shown deviation daylightSaving).toZoned? =
      some (.ofCivil shown.date shown.hour shown.minute shown.second
        (10000000 * min (shown.nanos / 10000000) 99) (-60 * deviation.toInt)) := by
  have hlt : shown.date.year.toNat < 65536 := by omega
  have hyearNat : (showing shown deviation daylightSaving).year.toNat = shown.date.year.toNat :=
    UInt16.toNat_ofNat_of_lt' hlt
  refine (shows_showing h).toZoned?_eq h (by omega) ?_ hdeviation
  intro hunspecified
  rw [hunspecified] at hyearNat
  change 65535 = _ at hyearNat
  omega

/-- A date-time without a year or without a deviation denotes no instant. -/
theorem toZoned?_eq_none {t : CosemDateTime}
    (h : t.year = unspecifiedYear ∨ t.deviation = unspecifiedDeviation) : t.toZoned? = none := by
  have hunspecified : t.isFullySpecified = false := by
    obtain hyear | hdeviation := h
    · simp [isFullySpecified, hyear]
    · simp [isFullySpecified, hdeviation]
  simp [toZoned?, hunspecified]

theorem hundredthsOrZero_lt {t : CosemDateTime} (h : t.checked = .ok t) :
    t.hundredthsOrZero.toNat < 100 := by
  have hfields : t.fieldsInRange = true := by
    cases hfields : t.fieldsInRange with
    | true => rfl
    | false =>
        rw [checked, hfields] at h
        cases h
  have hfield : isTimeField 100 t.hundredths = true := by
    simp only [fieldsInRange, Bool.and_eq_true] at hfields
    exact hfields.2
  unfold hundredthsOrZero
  split
  · decide
  · rename_i hspecified
    simpa [isTimeField, hspecified] using hfield

/-- A date-time whose fields lie in their ranges denotes whole hundredths of a second. -/
theorem nanos_toZoned? {t : CosemDateTime} {time : ZonedTime} (h : t.checked = .ok t)
    (htime : t.toZoned? = some time) :
    ∃ hundredths ≤ 99, time.instant.nanos = 10000000 * hundredths := by
  have hlt := hundredthsOrZero_lt h
  refine ⟨t.hundredthsOrZero.toNat, by omega, ?_⟩
  unfold toZoned? at htime
  split at htime
  · cases htime
  · dsimp only at htime
    split at htime
    · cases htime
      rfl
    · cases htime

end CosemDateTime

/-! ## Instants in a time zone -/

namespace ZonedTime

/-- A date-time can tell the time: the offset is a whole number of minutes, at most half a day, and
the year of the local date is neither out of range nor the one that stands for none. -/
structure IsTellable (time : ZonedTime) : Prop where
  wholeMinutes : 60 ∣ time.offset
  halfDay : time.offset.natAbs ≤ 43200
  year : 0 ≤ time.civil.date.year ∧ time.civil.date.year ≤ 65534

variable {time : ZonedTime}

theorem isShown_civil (time : ZonedTime) : time.civil.IsShown :=
  Instant.isShown_civil _

theorem civil_ofCivil {date : CivilDate} (hdate : date.Valid) {hour minute second : Nat}
    (hhour : hour < 24) (hminute : minute < 60) (hsecond : second < 60) (nanos : Nat)
    (offset : Int) : (ofCivil date hour minute second nanos offset).civil =
      ⟨date, weekday date.toDays, hour, minute, second, nanos⟩ := by
  have hshown := Instant.civil_ofCivil hdate hhour hminute hsecond nanos
  simpa [civil, ofCivil] using hshown

/-- The civil time in a zone, told with another offset, lies as far apart as the offsets do. -/
theorem ofCivil_civil_of_offset (time : ZonedTime) (nanos : Nat) (offset : Int) :
    ofCivil time.civil.date time.civil.hour time.civil.minute time.civil.second nanos offset =
      ⟨⟨time.instant.seconds + (time.offset - offset), nanos⟩, offset⟩ := by
  have hshown := Instant.ofCivil_civil
    { time.instant with seconds := time.instant.seconds + time.offset } nanos
  rw [ofCivil, civil, hshown, ← Int.add_sub_assoc]

/-- The civil time in a zone is shown at the instant, told in the zone. -/
theorem ofCivil_civil (time : ZonedTime) (nanos : Nat) :
    ofCivil time.civil.date time.civil.hour time.civil.minute time.civil.second nanos time.offset =
      ⟨{ time.instant with nanos := nanos }, time.offset⟩ := by
  simp [ofCivil_civil_of_offset]

/-- What shows the civil time in a zone at some deviation denotes no instant if the year or the
deviation is the one that stands for none. Otherwise it is off by what the deviation is off from the
zone. -/
theorem toZoned?_showing_civil (hleap : ¬ time.instant.IsLeap) {deviation : Int16}
    (hdeviation : CosemDateTime.deviationInRange deviation = true)
    (hyear : 0 ≤ time.civil.date.year ∧ time.civil.date.year < 65536) (daylightSaving : Bool) :
    (CosemDateTime.showing time.civil deviation daylightSaving).toZoned? =
      if time.civil.date.year = 65535 ∨ deviation = unspecifiedDeviation then none
      else some ⟨⟨time.instant.seconds + (time.offset + 60 * deviation.toInt),
        time.instant.nanos - time.instant.nanos % 10000000⟩, -60 * deviation.toInt⟩ := by
  split
  case isTrue hunspecified =>
    refine CosemDateTime.toZoned?_eq_none (hunspecified.imp (fun hlast => ?_) id)
    simp [CosemDateTime.showing, hlast, unspecifiedYear]
  case isFalse hspecified =>
    obtain ⟨hlast, hunspecified⟩ := not_or.mp hspecified
    have hbounds := (CosemDateTime.deviationInRange_eq_true_iff.mp hdeviation).resolve_left
      hunspecified
    have hnanos : 10000000 * min (time.civil.nanos / 10000000) 99 =
        time.instant.nanos - time.instant.nanos % 10000000 :=
      congrArg Instant.nanos (Instant.toHundredths_eq hleap)
    have hoffset : time.offset - -60 * deviation.toInt = time.offset + 60 * deviation.toInt := by
      omega
    rw [CosemDateTime.toZoned?_showing time.isShown_civil (by omega) hbounds, hnanos,
      ofCivil_civil_of_offset, hoffset]

/-- The minutes of an offset, counted from local time. -/
theorem IsTellable.deviation (h : time.IsTellable) :
    (Int16.ofInt (-(time.offset.tdiv 60))).toInt = -(time.offset.tdiv 60) ∧
      -60 * -(time.offset.tdiv 60) = time.offset ∧
      -720 ≤ -(time.offset.tdiv 60) ∧ -(time.offset.tdiv 60) ≤ 720 := by
  have hminutes := Int.tdiv_mul_cancel h.wholeMinutes
  have hhalfDay := h.halfDay
  have hbounds : -720 ≤ -(time.offset.tdiv 60) ∧ -(time.offset.tdiv 60) ≤ 720 := by omega
  exact ⟨Int16.toInt_ofInt_of_le (by omega) (by omega), by omega, hbounds⟩

/-- The time is told down to hundredths of a second. -/
theorem IsTellable.exists_ofZoned (h : time.IsTellable) :
    ∃ t, CosemDateTime.ofZoned time = .ok t ∧
      t.toZoned? = some ⟨time.instant.toHundredths, time.offset⟩ := by
  obtain ⟨hdeviation, hoffset, hlow, hhigh⟩ := h.deviation
  have hshown := time.isShown_civil
  have hyear := h.year
  refine ⟨.showing time.civil (Int16.ofInt (-(time.offset.tdiv 60))) false, ?_, ?_⟩
  · unfold CosemDateTime.ofZoned
    dsimp only
    rw [if_pos (by omega)]
    refine CosemDateTime.ofLocal_eq_ok hshown (by omega) ?_
    unfold CosemDateTime.deviationInRange
    rw [hdeviation]
    simp [hlow, hhigh]
  · rw [CosemDateTime.toZoned?_showing hshown (by omega) (by omega), hdeviation, hoffset]
    exact congrArg some (ofCivil_civil time _)

end ZonedTime

end HeadEnd
