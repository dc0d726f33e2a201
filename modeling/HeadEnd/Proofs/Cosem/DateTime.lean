import HeadEnd.Cosem.DateTime

/-! # Bytes of dates and date-times

Which bytes are the form of a date or of a date-time. What is read from bytes is written as the same
bytes, what is written is read as it was, and the conditions of a clock are kept as a set.
-/

namespace HeadEnd

/-! ## Two bytes -/

theorem ofBigEndian16_toNat (n : UInt16) :
    ofBigEndian16 (UInt8.ofNat (n.toNat / 256)) (UInt8.ofNat (n.toNat % 256)) = n := by
  have hn := n.toNat_lt
  have hhigh : (UInt8.ofNat (n.toNat / 256)).toNat = n.toNat / 256 :=
    UInt8.toNat_ofNat_of_lt' (show _ < 256 by omega)
  have hlow : (UInt8.ofNat (n.toNat % 256)).toNat = n.toNat % 256 :=
    UInt8.toNat_ofNat_of_lt' (show _ < 256 by omega)
  rw [ofBigEndian16, hhigh, hlow, Nat.div_add_mod, UInt16.ofNat_toNat]

theorem toNat_ofBigEndian16 (high low : UInt8) :
    (ofBigEndian16 high low).toNat = 256 * high.toNat + low.toNat := by
  have hhigh := high.toNat_lt
  have hlow := low.toNat_lt
  exact UInt16.toNat_ofNat_of_lt' (show _ < 65536 by omega)

@[simp] theorem bigEndian16_ofBigEndian16 (high low : UInt8) :
    bigEndian16 (ofBigEndian16 high low) = [high, low] := by
  have hlow := low.toNat_lt
  have hdiv : (256 * high.toNat + low.toNat) / 256 = high.toNat := by omega
  have hmod : (256 * high.toNat + low.toNat) % 256 = low.toNat := by omega
  rw [bigEndian16, toNat_ofBigEndian16, hdiv, hmod, UInt8.ofNat_toNat, UInt8.ofNat_toNat]

/-- The number that two bytes denote if their first bit is the sign. -/
def signedBigEndian16 (high low : UInt8) : Int :=
  if high.toNat < 128 then 256 * high.toNat + low.toNat else 256 * high.toNat + low.toNat - 65536

theorem toInt_ofBigEndian16 (high low : UInt8) :
    (ofBigEndian16 high low).toInt16.toInt = signedBigEndian16 high low := by
  have hhigh := high.toNat_lt
  have hlow := low.toNat_lt
  have hword : (ofBigEndian16 high low).toInt16.toInt =
      ((256 * high.toNat + low.toNat : Nat) : Int).bmod 65536 := by
    rw [ofBigEndian16, UInt16.toInt16_ofNat', Int16.toInt_ofNat']
  rw [hword, signedBigEndian16, Int.bmod_def]
  split <;> omega

/-! ## Dates -/

/-- The month of a date: from 1 to 12, or 0xFD, 0xFE or 0xFF. -/
def IsMonthByte (month : UInt8) : Prop :=
  (1 ≤ month ∧ month ≤ 12) ∨ month = 0xFD ∨ month = 0xFE ∨ month = 0xFF

/-- The day of a date: from 1 to 31, or 0xFD, 0xFE or 0xFF. -/
def IsDayByte (day : UInt8) : Prop :=
  (1 ≤ day ∧ day ≤ 31) ∨ day = 0xFD ∨ day = 0xFE ∨ day = 0xFF

/-- The day of the week of a date: from 1 to 7, or 0xFF. -/
def IsWeekdayByte (weekday : UInt8) : Prop :=
  (1 ≤ weekday ∧ weekday ≤ 7) ∨ weekday = 0xFF

theorem isMonthField_iff {month : UInt8} : isMonthField month = true ↔ IsMonthByte month := by
  have hmonth := month.toNat_lt
  simp [isMonthField, IsMonthByte, UInt8.le_iff_toNat_le, ← UInt8.toNat_inj]
  omega

theorem isDayField_iff {day : UInt8} : isDayField day = true ↔ IsDayByte day := by
  have hday := day.toNat_lt
  simp [isDayField, IsDayByte, UInt8.le_iff_toNat_le, ← UInt8.toNat_inj]
  omega

theorem isWeekdayField_iff {weekday : UInt8} :
    isWeekdayField weekday = true ↔ IsWeekdayByte weekday := by
  simp [isWeekdayField, IsWeekdayByte, unspecified, UInt8.le_iff_toNat_le]

namespace CosemDate

variable {date : CosemDate} {bytes : List UInt8}

/-- The five bytes of a date: two for the year, which may be any, then month, day and day of the
week. -/
def IsForm : List UInt8 → Prop
  | [_, _, month, day, weekday] => IsMonthByte month ∧ IsDayByte day ∧ IsWeekdayByte weekday
  | _ => False

theorem checked_eq_ok_iff {date' : CosemDate} :
    date.checked = .ok date' ↔ date.inRange = true ∧ date' = date := by
  unfold checked
  by_cases hrange : date.inRange = true
  · simp [hrange, eq_comm]
  · simp [hrange]

theorem isForm_encode : IsForm date.encode ↔ date.inRange = true := by
  change IsMonthByte date.month ∧ IsDayByte date.day ∧ IsWeekdayByte date.weekday ↔ _
  simp [inRange, isMonthField_iff, isDayField_iff, isWeekdayField_iff, and_assoc]

theorem decode_encode (date : CosemDate) : decode date.encode = date.checked := by
  change checked ⟨ofBigEndian16 _ _, date.month, date.day, date.weekday⟩ = _
  rw [ofBigEndian16_toNat]

theorem exists_encode_eq (h : IsForm bytes) : ∃ date, encode date = bytes := by
  match bytes, h with
  | [high, low, month, day, weekday], _ =>
      exact ⟨⟨ofBigEndian16 high low, month, day, weekday⟩, by simp [encode]⟩

theorem encode_of_decode (h : decode bytes = .ok date) : date.encode = bytes := by
  unfold decode at h
  split at h
  · rw [(checked_eq_ok_iff.mp h).2]
    simp [encode]
  · cases h

theorem exists_decode_iff : (∃ date, decode bytes = .ok date) ↔ IsForm bytes := by
  constructor
  · rintro ⟨date, h⟩
    obtain rfl := encode_of_decode h
    rw [decode_encode] at h
    exact isForm_encode.mpr (checked_eq_ok_iff.mp h).1
  · intro h
    obtain ⟨date, rfl⟩ := exists_encode_eq h
    exact ⟨date, by rw [decode_encode, checked_eq_ok_iff]; exact ⟨isForm_encode.mp h, rfl⟩⟩

end CosemDate

/-! ## Conditions of a clock -/

namespace ClockStatus

variable {status other : ClockStatus}

theorem isIn_or (status : ClockStatus) (a b : UInt8) :
    status.isIn (a ||| b) = (status.isIn a || status.isIn b) := by
  have hbits : (a ||| b) &&& status.mask = (a &&& status.mask) ||| (b &&& status.mask) := by
    rw [← UInt8.toBitVec_inj]
    exact BitVec.and_or_distrib_right
  rw [Bool.eq_iff_iff]
  simp only [isIn, hbits, bne_iff_ne, ne_eq, UInt8.or_eq_zero_iff, Bool.or_eq_true,
    Decidable.not_and_iff_or_not]

/-- Each condition has a bit of its own. -/
theorem isIn_mask (status other : ClockStatus) : status.isIn other.mask = (status == other) := by
  cases status <;> cases other <;> decide

theorem isIn_foldl (status : ClockStatus) (statuses : List ClockStatus) (byte : UInt8) :
    status.isIn (statuses.foldl (fun byte other => byte ||| other.mask) byte) =
      (status.isIn byte || statuses.contains status) := by
  induction statuses generalizing byte with
  | nil => simp
  | cons other rest ih =>
      rw [List.foldl_cons, ih, isIn_or, isIn_mask, List.contains_cons, Bool.or_assoc]

/-- A byte reports the conditions that it was made of, each once and in their order. -/
theorem ofByte_toByte (statuses : List ClockStatus) :
    ofByte (toByte statuses) = all.filter fun status => status ∈ statuses := by
  refine List.filter_congr fun status _ => ?_
  have hzero : status.isIn 0 = false := by cases status <;> decide
  rw [toByte, isIn_foldl, hzero, Bool.false_or, List.contains_eq_mem]

end ClockStatus

/-! ## Date-times -/

/-- A part of the time of day: below the bound, or 0xFF. -/
def IsTimeByte (bound field : UInt8) : Prop :=
  field < bound ∨ field = 0xFF

namespace CosemDateTime

variable {t : CosemDateTime} {bytes : List UInt8}

/-- The twelve bytes of a date-time: two for the year, which may be any, then month, day, day of the
week, the time of day to hundredths of a second, the deviation, which is at most half a day or
0x8000, and the conditions of the clock, which may be any. -/
def IsForm : List UInt8 → Prop
  | [_, _, month, day, weekday, hour, minute, second, hundredths, high, low, _] =>
    (IsMonthByte month ∧ IsDayByte day ∧ IsWeekdayByte weekday) ∧
      (IsTimeByte 24 hour ∧ IsTimeByte 60 minute ∧ IsTimeByte 60 second ∧
        IsTimeByte 100 hundredths) ∧
      ((-720 ≤ signedBigEndian16 high low ∧ signedBigEndian16 high low ≤ 720) ∨
        (high = 0x80 ∧ low = 0x00))
  | _ => False

theorem isTimeField_iff {bound field : UInt8} :
    isTimeField bound.toNat field = true ↔ IsTimeByte bound field := by
  simp [isTimeField, IsTimeByte, unspecified, UInt8.lt_iff_toNat_lt]

theorem fieldsInRange_iff : t.fieldsInRange = true ↔
    (IsMonthByte t.month ∧ IsDayByte t.day ∧ IsWeekdayByte t.weekday) ∧
      IsTimeByte 24 t.hour ∧ IsTimeByte 60 t.minute ∧ IsTimeByte 60 t.second ∧
        IsTimeByte 100 t.hundredths := by
  simp only [fieldsInRange, Bool.and_eq_true, isMonthField_iff, isDayField_iff, isWeekdayField_iff,
    ← isTimeField_iff, and_assoc]
  rfl

theorem checked_eq_ok_iff {t' : CosemDateTime} : t.checked = .ok t' ↔
    (t.fieldsInRange = true ∧ deviationInRange t.deviation = true) ∧ t' = t := by
  unfold checked
  by_cases hfields : t.fieldsInRange = true
  · by_cases hdeviation : deviationInRange t.deviation = true
    · simp [hfields, hdeviation, eq_comm]
    · simp [hfields, hdeviation]
  · simp [hfields]

theorem deviationInRange_iff (high low : UInt8) :
    deviationInRange (ofBigEndian16 high low).toInt16 = true ↔
      (-720 ≤ signedBigEndian16 high low ∧ signedBigEndian16 high low ≤ 720) ∨
        (high = 0x80 ∧ low = 0x00) := by
  have hhigh := high.toNat_lt
  have hlow := low.toNat_lt
  have hunspecified : signedBigEndian16 high low = -32768 ↔ high = 0x80 ∧ low = 0x00 := by
    rw [← UInt8.toNat_inj, ← UInt8.toNat_inj]
    change (if high.toNat < 128 then _ else _) = (-32768 : Int) ↔ high.toNat = 128 ∧ low.toNat = 0
    split <;> omega
  simp only [deviationInRange, Bool.or_eq_true, beq_iff_eq, Bool.and_eq_true, decide_eq_true_eq]
  rw [← Int16.toInt_inj, toInt_ofBigEndian16, ← hunspecified]
  exact or_comm

theorem isForm_encode : IsForm t.encode ↔
    t.fieldsInRange = true ∧ deviationInRange t.deviation = true := by
  have hdeviation := deviationInRange_iff (UInt8.ofNat (t.deviation.toUInt16.toNat / 256))
    (UInt8.ofNat (t.deviation.toUInt16.toNat % 256))
  rw [ofBigEndian16_toNat, Int16.toInt16_toUInt16] at hdeviation
  rw [hdeviation, fieldsInRange_iff, and_assoc]
  rfl

theorem decode_encode (t : CosemDateTime) : decode t.encode = t.checked := by
  change checked ⟨ofBigEndian16 _ _, t.month, t.day, t.weekday, t.hour, t.minute, t.second,
    t.hundredths, (ofBigEndian16 _ _).toInt16, t.status⟩ = _
  rw [ofBigEndian16_toNat, ofBigEndian16_toNat, Int16.toInt16_toUInt16]

theorem exists_encode_eq (h : IsForm bytes) : ∃ t, encode t = bytes := by
  match bytes, h with
  | [yearHigh, yearLow, month, day, weekday, hour, minute, second, hundredths, high, low, status],
    _ =>
      exact ⟨⟨ofBigEndian16 yearHigh yearLow, month, day, weekday, hour, minute, second,
        hundredths, (ofBigEndian16 high low).toInt16, status⟩, by simp [encode]⟩

theorem encode_of_decode (h : decode bytes = .ok t) : t.encode = bytes := by
  unfold decode at h
  split at h
  · rw [(checked_eq_ok_iff.mp h).2]
    simp [encode]
  · cases h

/-- Twelve bytes denote a date-time whose fields lie in their ranges. -/
theorem checked_of_decode (h : decode bytes = .ok t) :
    bytes.length = 12 ∧ t.checked = .ok t := by
  unfold decode at h
  split at h
  · obtain ⟨-, rfl⟩ := checked_eq_ok_iff.mp h
    exact ⟨rfl, h⟩
  · cases h

theorem exists_decode_iff : (∃ t, decode bytes = .ok t) ↔ IsForm bytes := by
  constructor
  · rintro ⟨t, h⟩
    obtain rfl := encode_of_decode h
    rw [decode_encode] at h
    exact isForm_encode.mpr (checked_eq_ok_iff.mp h).1
  · intro h
    obtain ⟨t, rfl⟩ := exists_encode_eq h
    exact ⟨t, by rw [decode_encode, checked_eq_ok_iff]; exact ⟨isForm_encode.mp h, rfl⟩⟩

end CosemDateTime

/-! ## Both forms -/

/-- Bytes denote a date-time exactly if they are the form of one, and it is written as these bytes.
A date-time made of fields and conditions is read again as it was written, and reports the
conditions as a set. The same holds of dates. -/
theorem dateForms_exact :
    (∀ bytes, ((∃ t, CosemDateTime.decode bytes = .ok t) ↔ CosemDateTime.IsForm bytes) ∧
      ∀ t, CosemDateTime.decode bytes = .ok t → t.encode = bytes) ∧
    (∀ (fields : CosemDateTime) (statuses : List ClockStatus) (t : CosemDateTime),
      CosemDateTime.checked { fields with status := ClockStatus.toByte statuses } = .ok t →
      CosemDateTime.decode t.encode = .ok t ∧
        t.conditions = ClockStatus.all.filter fun status => status ∈ statuses) ∧
    (∀ bytes, ((∃ date, CosemDate.decode bytes = .ok date) ↔ CosemDate.IsForm bytes) ∧
      ∀ date, CosemDate.decode bytes = .ok date → date.encode = bytes) ∧
    ∀ fields date : CosemDate, fields.checked = .ok date →
      CosemDate.decode date.encode = .ok date := by
  refine ⟨fun bytes => ⟨CosemDateTime.exists_decode_iff, fun t => CosemDateTime.encode_of_decode⟩,
    ?_, fun bytes => ⟨CosemDate.exists_decode_iff, fun date => CosemDate.encode_of_decode⟩, ?_⟩
  · intro fields statuses t h
    obtain ⟨-, rfl⟩ := CosemDateTime.checked_eq_ok_iff.mp h
    exact ⟨(CosemDateTime.decode_encode _).trans h, ClockStatus.ofByte_toByte statuses⟩
  · intro fields date h
    obtain ⟨-, rfl⟩ := CosemDate.checked_eq_ok_iff.mp h
    exact (CosemDate.decode_encode _).trans h

/-- A date-time without a year or a deviation in the last week of the month in which daylight saving
time begins, the conditions of which were named out of order and twice; and a date of that week. -/
theorem dateForms_exact_of_unspecified :
    (∃ t,
      CosemDateTime.decode [0xFF, 0xFF, 0xFE, 0xFE, 7, 2, 0, 0, 0xFF, 0x80, 0x00, 0x81] = .ok t ∧
      t.encode = [0xFF, 0xFF, 0xFE, 0xFE, 7, 2, 0, 0, 0xFF, 0x80, 0x00, 0x81] ∧
      CosemDateTime.decode t.encode = .ok t ∧
      t.conditions = [.invalidValue, .daylightSavingActive]) ∧
    CosemDate.decode (CosemDate.encode ⟨0xFFFF, 0xFE, 0xFE, 7⟩) = .ok ⟨0xFFFF, 0xFE, 0xFE, 7⟩ := by
  obtain ⟨hbytes, hfields, -, hdates⟩ := dateForms_exact
  refine ⟨?_, hdates ⟨0xFFFF, 0xFE, 0xFE, 7⟩ _ rfl⟩
  obtain ⟨hread, hconditions⟩ := hfields ⟨0xFFFF, 0xFE, 0xFE, 7, 2, 0, 0, 0xFF, -32768, 0⟩
    [.daylightSavingActive, .invalidValue, .daylightSavingActive] _ rfl
  exact ⟨_, rfl, (hbytes _).2 _ rfl, hread, hconditions⟩

end HeadEnd
