import HeadEnd.Clock.Object
import HeadEnd.Cosem.Instant
import HeadEnd.Session.Reading
import HeadEnd.Time.Rfc3339

/-! # Clock synchronization

The clock of a meter is set to the current time as it is shown at a given deviation.
-/

namespace HeadEnd.Clock

/-- How local time is shown. -/
structure LocalSetting where
  /-- Minutes from local time to UTC. -/
  deviation : Int16
  daylightSaving : Bool
  deriving DecidableEq

def synchronize (setting : LocalSetting) : Operation AccessResult := do
  let now ← Operation.now
  let time ← Value.ofInstant now setting.deviation setting.daylightSaving
  Operation.describe
    ("SynchronizeTime to " ++ Rfc3339.shown (.utc now) ++ ", set attribute: " ++
      timeAddress.text)
  Operation.writeAttribute timeAddress time

end HeadEnd.Clock
