import HeadEnd.Profile.Period
import HeadEnd.Register.Scaled
import HeadEnd.Session.Reading
import HeadEnd.Time.Rfc3339

/-! # Gas profiles

What an attached gas meter has counted. Each value comes with the time it was captured at, which
lies before the time of the entry. The interval profile belongs to one channel; the entries of the
other profiles hold all channels, unless the meter answers with the columns that were asked for.
-/

namespace HeadEnd

/-- Which entries of which profile and channel are asked for. -/
structure GasQuery where
  period : Period
  span : Profile.Span
  channel : UInt8

structure GasRead where
  logTime : ZonedTime
  consumption : Option MeterValue
  captureTime : ZonedTime
  /-- Absent from the monthly profile. -/
  flags : Option (List ProfileFlag)

structure GasReads where
  period : Period
  reads : List GasRead

namespace GasQuery

/-! ## What is asked for -/

def logicalName (query : GasQuery) : ObisCode :=
  match query.period with
  | .interval => ⟨0, query.channel, 24, 3, 0, 255⟩
  | period => period.logicalName

/-- The columns that are asked for; none for all. -/
def columns (query : GasQuery) : List Value :=
  let value := Clock.captureReference 4 (Profile.channelRegister query.channel) 2
  let captureTime := Clock.captureReference 4 (Profile.channelRegister query.channel) 5
  match query.period with
  | .interval => []
  | .daily => [Clock.timeReference, Profile.flagsReference, value, captureTime]
  | .monthly => [Clock.timeReference, value, captureTime]

def bufferAddress (query : GasQuery) (selective : Bool) : Outcome AttributeAddress := do
  let address := Profile.bufferAddress query.logicalName
  if selective then
    let selection ← Profile.rangeSelection query.span query.columns
    return { address with selection := some selection }
  else return address

/-! ## What is answered -/

/-- The column of the value; the next one is the capture time. -/
def valueColumn (query : GasQuery) (selective : Bool) : Nat :=
  let channelsBefore := query.channel.toNat - 1
  match query.period, selective with
  | .interval, _ => 2
  | .daily, true => 2
  | .daily, false => 6 + 2 * channelsBefore
  | .monthly, true => 1
  | .monthly, false => 5 + 2 * channelsBefore

def context (query : GasQuery) : String :=
  query.period.name ++ " gas profile buffer"

/-- The columns of an entry that matter. -/
structure Columns where
  clock : Value
  /-- The second column, which holds the flags unless the profile has none. -/
  second : Value
  value : Value
  captureTime : Value

/-- The columns of an entry whose value stands at the given column. -/
def columns? (valueColumn : Nat) (entry : Value) : Option Columns :=
  match entry with
  | .tuple (clock :: second :: rest) =>
    match (clock :: second :: rest).drop valueColumn with
    | value :: captureTime :: _ => some { clock, second, value, captureTime }
    | _ => none
  | _ => none

def readColumns (query : GasQuery) (scalerUnit : Value) (columns : Columns)
    (logTime : ZonedTime) : Outcome GasRead := do
  let consumption ← columns.value.toMeterValue? scalerUnit "gas value"
  let some captureTime ← columns.captureTime.toZoned? "gas capture time"
    | throw (.decode "gas capture time" (.noInstant columns.captureTime))
  let flags ←
    match query.period with
    | .monthly => pure none
    | _ => some <$> columns.second.toProfileFlags
  return { logTime, consumption, captureTime, flags }

def readEntry? (query : GasQuery) (selective : Bool) (scalerUnit entry : Value) :
    Outcome (Option GasRead) :=
  let valueColumn := query.valueColumn selective
  match columns? valueColumn entry with
  | some columns =>
    Profile.ifWithin query.span columns.clock "clock from gas profile entry"
      (query.readColumns scalerUnit columns)
  | none => .error (.unexpected query.context (.structureOfAtLeast (valueColumn + 2)) entry)

def readBuffer (query : GasQuery) (selective : Bool) (buffer scalerUnit : Value) :
    Outcome (List GasRead) :=
  Profile.readEntries buffer query.context (query.readEntry? selective scalerUnit)

def fetch (query : GasQuery) : Operation GasReads := do
  Profile.checkChannel query.channel
  let selective := (← get).supportsSelectiveAccess
  let bufferAddress ← query.bufferAddress selective
  let scalerUnitAddress := Profile.channelScalerUnit query.channel
  Operation.describe
    ("GetPeriodicMeterReadsGas for channel " ++ toString query.channel ++ ", " ++
      query.period.name ++ " from " ++ Rfc3339.shown query.span.start ++ " until " ++
      Rfc3339.shown query.span.finish ++ ", retrieve attribute: " ++ bufferAddress.text)
  let buffer ← Operation.readValue "periodic gas meter reads" bufferAddress
  Operation.describe
    ("GetPeriodicMeterReadsGas scaler and unit, retrieve attribute: " ++ scalerUnitAddress.text)
  let scalerUnit ←
    Operation.readValue "scaler and unit of periodic gas meter reads" scalerUnitAddress
  return ⟨query.period, ← query.readBuffer selective buffer scalerUnit⟩

end GasQuery

end HeadEnd
