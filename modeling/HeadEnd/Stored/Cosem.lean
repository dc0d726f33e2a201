import HeadEnd.AdministrativeStatus
import HeadEnd.Cosem.DateTime
import HeadEnd.Cosem.ObisCode
import HeadEnd.Cosem.ResultCode
import HeadEnd.Register.Scaled
import HeadEnd.Stored.Basic

/-! # Stored values of meters

Identifications, dates, result codes and register values as documents. The fields of a date are
stored as they are, and no other range is asked for than that of their types.
-/

namespace HeadEnd

open Stored

instance : Stored ObisCode where
  write o := .record [("bytes", write o.bytes)]
  read? mode document := do
    match ← document.fields? ["bytes"] with
    | ⟨[bytes], _⟩ =>
      match (← required? mode bytes : List UInt8) with
      | [a, b, c, d, e, f] => return ⟨a, b, c, d, e, f⟩
      | _ => none

instance : Stored CosemDate where
  write d := .record [("year", write d.year), ("month", write d.month),
    ("day_of_month", write d.day), ("day_of_week", write d.weekday)]
  read? mode document := do
    match ← document.fields? ["year", "month", "day_of_month", "day_of_week"] with
    | ⟨[year, month, day, weekday], _⟩ =>
      return {
        year := ← required? mode year
        month := ← required? mode month
        day := ← required? mode day
        weekday := ← required? mode weekday }

instance : Stored CosemDateTime where
  write t := .record [("year", write t.year), ("month", write t.month),
    ("day_of_month", write t.day), ("day_of_week", write t.weekday), ("hour", write t.hour),
    ("minute", write t.minute), ("second", write t.second), ("hundredths", write t.hundredths),
    ("deviation", write t.deviation), ("clock_status", write t.status)]
  read? mode document := do
    match ← document.fields? ["year", "month", "day_of_month", "day_of_week", "hour", "minute",
      "second", "hundredths", "deviation", "clock_status"] with
    | ⟨[year, month, day, weekday, hour, minute, second, hundredths, deviation, status], _⟩ =>
      return {
        year := ← required? mode year
        month := ← required? mode month
        day := ← required? mode day
        weekday := ← required? mode weekday
        hour := ← required? mode hour
        minute := ← required? mode minute
        second := ← required? mode second
        hundredths := ← required? mode hundredths
        deviation := ← required? mode deviation
        status := ← required? mode status }

instance : Stored ClockStatus :=
  named ClockStatus.all ClockStatus.name

instance : Stored AdministrativeStatus :=
  named AdministrativeStatus.all AdministrativeStatus.name

/-! ## Result codes -/

instance : Stored AccessResult where
  write
    | .unknown code => writeVariant "Unknown" code
    | result => .text result.name
  read? mode document :=
    (readName? AccessResult.named AccessResult.name mode document).or
      ((readVariant? "Unknown" mode document).map AccessResult.unknown)

instance : Stored MethodResult where
  write
    | .unknown code => writeVariant "Unknown" code
    | result => .text result.name
  read? mode document :=
    (readName? MethodResult.named MethodResult.name mode document).or
      ((readVariant? "Unknown" mode document).map MethodResult.unknown)

/-! ## Registers -/

instance : Stored MeasureUnit :=
  named MeasureUnit.all MeasureUnit.name

instance : Stored ScaledValue where
  write x := .record [("raw", write x.raw), ("scaler", write x.scaler)]
  read? mode document := do
    match ← document.fields? ["raw", "scaler"] with
    | ⟨[raw, scaler], _⟩ => return ⟨← required? mode raw, ← required? mode scaler⟩

instance : Stored ScalerUnit where
  write x := .record [("scaler", write x.scaler), ("unit", write x.unit)]
  read? mode document := do
    match ← document.fields? ["scaler", "unit"] with
    | ⟨[scaler, unit], _⟩ => return ⟨← required? mode scaler, ← required? mode unit⟩

instance : Stored MeterValue where
  write x := .record [("value", write x.value), ("unit", write x.unit)]
  read? mode document := do
    match ← document.fields? ["value", "unit"] with
    | ⟨[value, unit], _⟩ => return ⟨← required? mode value, ← required? mode unit⟩

end HeadEnd
