import HeadEnd.Cosem.Value.Reading
import HeadEnd.Time.Instant

/-! # Date-times and instants

A date-time shows local time and how far UTC is ahead of it. It denotes an instant only when it is
fully specified and its day exists.
-/

namespace HeadEnd

open Calendar

/-! ## Reading -/

/-- The time of day exists; a leap second may follow the last second of a minute. -/
def isTimeOfDay (hour minute second nanos : Nat) : Bool :=
  hour < 24 && minute < 60 && second < 60 && nanos < 2 * nanosPerSecond &&
    (nanos < nanosPerSecond || second == 59)

/-- The instant that a date-time denotes, in the time zone of its deviation. -/
def CosemDateTime.toZoned? (t : CosemDateTime) : Option ZonedTime :=
  if !t.isFullySpecified then none
  else
    let date : CivilDate := ⟨t.year.toNat, t.month.toNat, t.day.toNat⟩
    let nanos := 10000000 * t.hundredthsOrZero.toNat
    let offset := -60 * t.deviation.toInt
    if date.Valid ∧ isTimeOfDay t.hour.toNat t.minute.toNat t.second.toNat nanos ∧
        offset.natAbs < secondsPerDay then
      some (.ofCivil date t.hour.toNat t.minute.toNat t.second.toNat nanos offset)
    else none

/-- The instant of a value; a date-time that denotes none reads as nothing. -/
def Value.toZoned? (value : Value) (context : String) : Outcome (Option ZonedTime) := do
  return (← value.toDateTime? context).bind CosemDateTime.toZoned?

/-! ## Writing -/

def encodeYear (year : Int) : Except DataFault UInt16 :=
  if 0 ≤ year ∧ year < 65536 then .ok (UInt16.ofNat year.toNat) else .error (.year year)

/-- Hundredths of a second; those of a leap second count as the last one. -/
def hundredthsOf (nanos : Nat) : UInt8 :=
  UInt8.ofNat (min (nanos / 10000000) 99)

def CosemDateTime.ofLocal (shown : LocalTime) (deviation : Int16) (daylightSaving : Bool) :
    Except DataFault CosemDateTime := do
  let t : CosemDateTime :=
    { year := ← encodeYear shown.date.year
      month := UInt8.ofNat shown.date.month
      day := UInt8.ofNat shown.date.day
      weekday := UInt8.ofNat shown.weekday
      hour := UInt8.ofNat shown.hour
      minute := UInt8.ofNat shown.minute
      second := UInt8.ofNat shown.second
      hundredths := hundredthsOf shown.nanos
      deviation := deviation
      status := ClockStatus.toByte (if daylightSaving then [.daylightSavingActive] else []) }
  match t.checked with
  | .ok t => return t
  | .error fault => throw (.dateTime fault)

/-- The date-time of an instant in its own time zone. An offset tells nothing about daylight saving
time, so the status is clear. -/
def CosemDateTime.ofZoned (time : ZonedTime) : Except DataFault CosemDateTime :=
  let minutes := -(time.offset.tdiv 60)
  if -32768 ≤ minutes ∧ minutes ≤ 32767 then
    CosemDateTime.ofLocal time.civil (Int16.ofInt minutes) false
  else .error (.offset (-minutes))

/-- The date-time of an instant as it is shown at a deviation. -/
def CosemDateTime.ofInstant (time : Instant) (deviation : Int16) (daylightSaving : Bool) :
    Except DataFault CosemDateTime :=
  match time.minutesEarlier? deviation.toInt with
  | some shown => CosemDateTime.ofLocal shown.civil deviation daylightSaving
  | none => .error (.deviation deviation)

def CosemDate.ofCivil (date : CivilDate) : Except DataFault CosemDate := do
  let d : CosemDate :=
    { year := ← encodeYear date.year
      month := UInt8.ofNat date.month
      day := UInt8.ofNat date.day
      weekday := UInt8.ofNat (Calendar.weekday date.toDays) }
  match d.checked with
  | .ok d => return d
  | .error fault => throw (.date fault)

/-- A failure of data as a failure of an operation. -/
def Outcome.ofData {α : Type} : Except DataFault α → Outcome α
  | .ok a => .ok a
  | .error fault => .error (.invalidData fault)

def Value.ofZoned (time : ZonedTime) : Outcome Value :=
  Outcome.ofData ((CosemDateTime.ofZoned time).map .dateTime)

def Value.ofInstant (time : Instant) (deviation : Int16) (daylightSaving : Bool) :
    Outcome Value :=
  Outcome.ofData ((CosemDateTime.ofInstant time deviation daylightSaving).map .dateTime)

def Value.ofCivil (date : CivilDate) : Outcome Value :=
  Outcome.ofData ((CosemDate.ofCivil date).map .date)

end HeadEnd
