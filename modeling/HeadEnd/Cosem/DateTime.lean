import HeadEnd.Cosem.Date
import HeadEnd.Text.Hex

/-! # COSEM date-times

The twelve-byte form of a date and time of day with the deviation of local time from UTC and the
state of the clock. Any field may say that it is not specified.
-/

namespace HeadEnd

/-- A condition that a meter reports about its clock. -/
inductive ClockStatus where
  | invalidValue
  | doubtfulValue
  | differentClockBase
  | invalidClockStatus
  | daylightSavingActive
  deriving DecidableEq

namespace ClockStatus

/-- Every condition, from the least significant bit on. -/
def all : List ClockStatus :=
  [invalidValue, doubtfulValue, differentClockBase, invalidClockStatus, daylightSavingActive]

def mask : ClockStatus → UInt8
  | invalidValue => 0x01
  | doubtfulValue => 0x02
  | differentClockBase => 0x04
  | invalidClockStatus => 0x08
  | daylightSavingActive => 0x80

def name : ClockStatus → String
  | invalidValue => "InvalidValue"
  | doubtfulValue => "DoubtfulValue"
  | differentClockBase => "DifferentClockBase"
  | invalidClockStatus => "InvalidClockStatus"
  | daylightSavingActive => "DaylightSavingActive"

/-- Whether the status byte reports the condition. -/
def isIn (status : ClockStatus) (byte : UInt8) : Bool :=
  byte &&& status.mask != 0

/-- The byte that reports exactly the given conditions. -/
def toByte (statuses : List ClockStatus) : UInt8 :=
  statuses.foldl (fun byte status => byte ||| status.mask) 0

def ofByte (byte : UInt8) : List ClockStatus :=
  all.filter fun status => status.isIn byte

end ClockStatus

def unspecifiedDeviation : Int16 := Int16.minValue

/-- A date and time of day as meters write it; the fields are kept as they are. -/
structure CosemDateTime where
  year : UInt16
  month : UInt8
  day : UInt8
  weekday : UInt8
  hour : UInt8
  minute : UInt8
  second : UInt8
  hundredths : UInt8
  /-- Minutes from local time to UTC. -/
  deviation : Int16
  status : UInt8
  deriving DecidableEq

namespace CosemDateTime

/-- Why something is not a date-time. -/
inductive Fault where
  /-- A field other than the deviation lies outside its range. -/
  | outOfRange (value : CosemDateTime)
  /-- The deviation is longer than half a day. -/
  | deviation (minutes : Int16)
  /-- A date-time has twelve bytes. -/
  | length (count : Nat)
  deriving DecidableEq

/-- A field of the time of day: below `bound`, or not specified. -/
def isTimeField (bound : Nat) (field : UInt8) : Bool :=
  field.toNat < bound || field == unspecified

/-- All fields but the deviation lie in their ranges. -/
def fieldsInRange (t : CosemDateTime) : Bool :=
  isMonthField t.month && isDayField t.day && isWeekdayField t.weekday && isTimeField 24 t.hour &&
    isTimeField 60 t.minute && isTimeField 60 t.second && isTimeField 100 t.hundredths

/-- The deviation is at most half a day, or not specified. -/
def deviationInRange (deviation : Int16) : Bool :=
  deviation == unspecifiedDeviation || (-720 ≤ deviation.toInt && deviation.toInt ≤ 720)

/-- The date-time, if its fields lie in their ranges. The deviation is looked at last. -/
def checked (t : CosemDateTime) : Except Fault CosemDateTime :=
  if !t.fieldsInRange then .error (.outOfRange t)
  else if !deviationInRange t.deviation then .error (.deviation t.deviation)
  else .ok t

def encode (t : CosemDateTime) : List UInt8 :=
  bigEndian16 t.year ++
    [t.month, t.day, t.weekday, t.hour, t.minute, t.second, t.hundredths] ++
    bigEndian16 t.deviation.toUInt16 ++ [t.status]

def decode : List UInt8 → Except Fault CosemDateTime
  | [yearHigh, yearLow, month, day, weekday, hour, minute, second, hundredths,
      deviationHigh, deviationLow, status] =>
    checked
      { year := ofBigEndian16 yearHigh yearLow
        month, day, weekday, hour, minute, second, hundredths
        deviation := (ofBigEndian16 deviationHigh deviationLow).toInt16
        status }
  | bytes => .error (.length bytes.length)

/-- The date-time denotes exactly one instant, if its day exists: everything down to the second and
the deviation are specified. Hundredths may be missing. -/
def isFullySpecified (t : CosemDateTime) : Bool :=
  t.year != unspecifiedYear && (1 ≤ t.month.toNat && t.month.toNat ≤ 12) &&
    (1 ≤ t.day.toNat && t.day.toNat ≤ 31) && t.hour != unspecified && t.minute != unspecified &&
    t.second != unspecified && t.deviation != unspecifiedDeviation

/-- Hundredths of a second, zero when they are not specified. -/
def hundredthsOrZero (t : CosemDateTime) : UInt8 :=
  if t.hundredths = unspecified then 0 else t.hundredths

def deviation? (t : CosemDateTime) : Option Int16 :=
  if t.deviation = unspecifiedDeviation then none else some t.deviation

def deviationText (t : CosemDateTime) : String :=
  match t.deviation? with
  | some minutes => toString minutes.toInt
  | none => "unspecified"

def conditions (t : CosemDateTime) : List ClockStatus :=
  ClockStatus.ofByte t.status

def isDaylightSaving (t : CosemDateTime) : Bool :=
  ClockStatus.daylightSavingActive.isIn t.status

/-- The text of a date-time: its fields as they are. -/
def text (t : CosemDateTime) : String :=
  let two (field : UInt8) : String := Decimal.numeral 2 field.toNat
  Decimal.numeral 4 t.year.toNat ++ "-" ++ two t.month ++ "-" ++ two t.day ++ " " ++
    two t.hour ++ ":" ++ two t.minute ++ ":" ++ two t.second ++ "." ++ two t.hundredths ++
    ", deviation=" ++ t.deviationText ++ ", clock_status=0x" ++
    Hex.upperText t.status

def Fault.message : Fault → String
  | .outOfRange t => "COSEM date-time field out of range: " ++ t.text
  | .deviation minutes =>
    "Deviation must be within -720..=720 minutes, got " ++ toString minutes.toInt
  | .length count => "COSEM date-time must be 12 bytes, got " ++ toString count

end CosemDateTime

end HeadEnd
