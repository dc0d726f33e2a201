import HeadEnd.Profile.Period
import HeadEnd.Register.Scaled
import HeadEnd.Session.Reading
import HeadEnd.Time.Rfc3339

/-! # Electricity profiles

The energy that a meter has counted, entry by entry. An entry starts with its clock:

* interval: clock, flags, import, export;
* daily: clock, flags, import at two rates, export at two rates;
* monthly: clock, import at two rates, export at two rates.

A meter without selective access answers with the whole profile, of which the entries in the span
are taken.
-/

namespace HeadEnd

/-- Which entries of which profile are asked for. -/
structure ElectricityQuery where
  period : Period
  span : Profile.Span
  /-- The channel of an attached meter whose scaler and unit hold, in place of the meter's own. -/
  channel : Option UInt8

/-- An entry of a profile; which values it has depends on the period. -/
structure ElectricityRead where
  logTime : ZonedTime
  energyImport : Option MeterValue := none
  energyExport : Option MeterValue := none
  importRate1 : Option MeterValue := none
  importRate2 : Option MeterValue := none
  exportRate1 : Option MeterValue := none
  exportRate2 : Option MeterValue := none
  /-- Absent from the monthly profile. -/
  flags : Option (List ProfileFlag) := none

structure ElectricityReads where
  period : Period
  reads : List ElectricityRead

namespace ElectricityQuery

/-! ## What is asked for -/

/-- The attribute with the scaler and the unit that hold for the entries. -/
def scalerUnitAddress (query : ElectricityQuery) : Outcome AttributeAddress :=
  match query.channel with
  | none => .ok { classId := 3, name := ⟨1, 0, 1, 8, 0, 255⟩, attributeId := 3 }
  | some channel => do
    Profile.checkChannel channel
    return Profile.channelScalerUnit channel

/-- The references to the registers at the two rates. -/
def rateReferences : List Value :=
  let register (c e : UInt8) : Value := Clock.captureReference 3 ⟨1, 0, c, 8, e, 255⟩ 2
  [register 1 1, register 1 2, register 2 1, register 2 2]

/-- The columns that are asked for; none for all. -/
def columns : Period → List Value
  | .interval => []
  | .daily => Clock.timeReference :: Profile.flagsReference :: rateReferences
  | .monthly => Clock.timeReference :: rateReferences

/-- The attribute with the entries, or with those in the span. -/
def bufferAddress (query : ElectricityQuery) (selective : Bool) : Outcome AttributeAddress := do
  let address := Profile.bufferAddress query.period.logicalName
  if selective then
    let selection ← Profile.rangeSelection query.span (columns query.period)
    return { address with selection := some selection }
  else return address

/-! ## What is answered -/

def width : Period → Nat
  | .interval => 4
  | .daily => 6
  | .monthly => 5

def context (query : ElectricityQuery) : String :=
  query.period.name ++ " profile buffer"

def readInterval (scalerUnit status energyImport energyExport : Value) (logTime : ZonedTime) :
    Outcome ElectricityRead := do
  let flags ← status.toProfileFlags
  let energyImport ← energyImport.toMeterValue? scalerUnit "positive active energy"
  let energyExport ← energyExport.toMeterValue? scalerUnit "negative active energy"
  return { logTime, energyImport, energyExport, flags := some flags }

/-- The entry of the daily or, without flags, of the monthly profile. -/
def readRates (scalerUnit import1 import2 export1 export2 : Value)
    (flags : Option (List ProfileFlag)) (logTime : ZonedTime) : Outcome ElectricityRead := do
  let importRate1 ← import1.toMeterValue? scalerUnit "positive active energy (tariff 1)"
  let importRate2 ← import2.toMeterValue? scalerUnit "positive active energy (tariff 2)"
  let exportRate1 ← export1.toMeterValue? scalerUnit "negative active energy (tariff 1)"
  let exportRate2 ← export2.toMeterValue? scalerUnit "negative active energy (tariff 2)"
  return { logTime, importRate1, importRate2, exportRate1, exportRate2, flags }

/-- An entry of the buffer, if its clock denotes an instant in the span. -/
def readEntry? (query : ElectricityQuery) (scalerUnit entry : Value) :
    Outcome (Option ElectricityRead) :=
  let within (clock : Value) (read : ZonedTime → Outcome ElectricityRead) :
      Outcome (Option ElectricityRead) :=
    Profile.ifWithin query.span clock "clock from profile entry" read
  match query.period, entry with
  | .interval, .tuple (clock :: status :: energyImport :: energyExport :: _) =>
    within clock (readInterval scalerUnit status energyImport energyExport)
  | .daily, .tuple (clock :: status :: import1 :: import2 :: export1 :: export2 :: _) =>
    within clock fun logTime => do
      let flags ← status.toProfileFlags
      readRates scalerUnit import1 import2 export1 export2 (some flags) logTime
  | .monthly, .tuple (clock :: import1 :: import2 :: export1 :: export2 :: _) =>
    within clock (readRates scalerUnit import1 import2 export1 export2 none)
  | period, entry => .error (.unexpected query.context (.structureOfAtLeast (width period)) entry)

/-- The entries of the buffer whose clocks denote instants in the span. -/
def readBuffer (query : ElectricityQuery) (buffer scalerUnit : Value) :
    Outcome (List ElectricityRead) :=
  Profile.readEntries buffer query.context (query.readEntry? scalerUnit)

def fetch (query : ElectricityQuery) : Operation ElectricityReads := do
  let scalerUnitAddress ← query.scalerUnitAddress
  let bufferAddress ← query.bufferAddress (← get).supportsSelectiveAccess
  Operation.describe
    ("GetPeriodicMeterReads " ++ query.period.name ++ " from " ++
      Rfc3339.shown query.span.start ++ " until " ++ Rfc3339.shown query.span.finish ++
      ", retrieve attribute: " ++ bufferAddress.text)
  let buffer ← Operation.readValue "periodic meter reads" bufferAddress
  Operation.describe
    ("GetPeriodicMeterReads scaler and unit, retrieve attribute: " ++ scalerUnitAddress.text)
  let scalerUnit ← Operation.readAttribute scalerUnitAddress
  scalerUnit.result.check "scaler and unit of periodic meter reads"
  return ⟨query.period, ← query.readBuffer buffer scalerUnit.value⟩

end ElectricityQuery

end HeadEnd
