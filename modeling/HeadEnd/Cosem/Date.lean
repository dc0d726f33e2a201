import HeadEnd.Text.Decimal

/-! # COSEM dates

The five-byte form of a date. Each field may say that it is not specified, and month and day have
further values for the changes of daylight saving time and the last days of a month.
-/

namespace HeadEnd

/-- The value of a one-byte field that is not specified. -/
def unspecified : UInt8 := 0xFF

def unspecifiedYear : UInt16 := 0xFFFF

/-- Two bytes, the more significant one first. -/
def bigEndian16 (n : UInt16) : List UInt8 :=
  [UInt8.ofNat (n.toNat / 256), UInt8.ofNat (n.toNat % 256)]

def ofBigEndian16 (high low : UInt8) : UInt16 :=
  UInt16.ofNat (256 * high.toNat + low.toNat)

/-- A month of the calendar, the month in which daylight saving time ends (0xFD) or begins (0xFE),
or any month. -/
def isMonthField (month : UInt8) : Bool :=
  (1 ≤ month.toNat && month.toNat ≤ 12) || 0xFD ≤ month.toNat

/-- A day of a month, the second last (0xFD) or last (0xFE) day of it, or any day. -/
def isDayField (day : UInt8) : Bool :=
  (1 ≤ day.toNat && day.toNat ≤ 31) || 0xFD ≤ day.toNat

/-- A day of the week from Monday to Sunday, or any. -/
def isWeekdayField (weekday : UInt8) : Bool :=
  (1 ≤ weekday.toNat && weekday.toNat ≤ 7) || weekday == unspecified

/-- A date as meters write it; the fields are kept as they are. -/
structure CosemDate where
  year : UInt16
  month : UInt8
  day : UInt8
  weekday : UInt8
  deriving DecidableEq

namespace CosemDate

/-- Why something is not a date. -/
inductive Fault where
  /-- A field lies outside its range. -/
  | outOfRange (date : CosemDate)
  /-- A date has five bytes. -/
  | length (count : Nat)
  deriving DecidableEq

def Fault.message : Fault → String
  | .outOfRange d =>
    "COSEM date out of range: year=" ++ toString d.year ++ " month=" ++ toString d.month ++
      " day=" ++ toString d.day ++ " weekday=" ++ toString d.weekday
  | .length count => "COSEM date must be 5 bytes, got " ++ toString count

def inRange (d : CosemDate) : Bool :=
  isMonthField d.month && isDayField d.day && isWeekdayField d.weekday

def checked (d : CosemDate) : Except Fault CosemDate :=
  if d.inRange then .ok d else .error (.outOfRange d)

def encode (d : CosemDate) : List UInt8 :=
  bigEndian16 d.year ++ [d.month, d.day, d.weekday]

def decode : List UInt8 → Except Fault CosemDate
  | [high, low, month, day, weekday] => checked ⟨ofBigEndian16 high low, month, day, weekday⟩
  | bytes => .error (.length bytes.length)

/-- The text of a date, with an asterisk for a year that is not specified. -/
def text (d : CosemDate) : String :=
  (if d.year = unspecifiedYear then "*" else Decimal.numeral 4 d.year.toNat) ++ "-" ++
    Decimal.numeral 2 d.month.toNat ++ "-" ++ Decimal.numeral 2 d.day.toNat

end CosemDate

end HeadEnd
