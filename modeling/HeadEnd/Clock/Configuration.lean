import HeadEnd.Clock.Object
import HeadEnd.Session.Reading

/-! # Clock configuration

The time zone and the daylight saving rules of a clock. The attributes are written one after the
other, so that a refusal tells which one it is about. The deviation of daylight saving time cannot
be written on every meter; it is read first and written only if it has to change.
-/

namespace HeadEnd.Clock

structure Configuration where
  /-- Minutes that standard time is ahead of UTC. -/
  timeZoneOffset : Int16
  daylightSavingBegin : CosemDateTime
  daylightSavingEnd : CosemDateTime
  /-- Minutes that clocks are put forward by. -/
  daylightSavingDeviation : Int8
  daylightSavingEnabled : Bool
  deriving DecidableEq

/-- Writes an attribute, which may not be refused. -/
def writeSetting (id : Int8) (value : Value) (name : String) : Operation Unit := do
  Operation.describe
    ("SetClockConfiguration, preparing to write attribute: " ++ (attributeAddress id).text)
  let result ← Operation.writeAttribute (attributeAddress id) value
  result.check ("clock configuration attribute '" ++ name ++ "'")

/-- The deviation that a meter stores for an offset: the same minutes counted the other way. -/
def zoneDeviation (offset : Int16) : Outcome Int16 :=
  if offset = Int16.minValue then .error (.configuration (.timeZoneOffset offset))
  else .ok (-offset)

def configure (c : Configuration) : Operation Unit := do
  let zone ← zoneDeviation c.timeZoneOffset
  writeSetting 3 (.int16 zone) "Timezone"
  writeSetting 5 (.octets c.daylightSavingBegin.encode) "Daylight savings begin"
  writeSetting 6 (.octets c.daylightSavingEnd.encode) "Daylight savings end"
  let value ← Operation.readValue "daylight savings deviation" (attributeAddress 7)
  let current : Int8 ← value.toNarrow "daylight savings deviation"
  if current ≠ c.daylightSavingDeviation then
    writeSetting 7 (.int8 c.daylightSavingDeviation) "Daylight savings deviation"
  writeSetting 8 (.boolean c.daylightSavingEnabled) "Daylight savings enabled"

end HeadEnd.Clock
