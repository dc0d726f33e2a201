import HeadEnd.Profile.Range

/-! # Periods of profiles

A meter keeps its registers in three profiles: at every interval, every day and every month. Entries
of the first two carry the state of the meter as flags.
-/

namespace HeadEnd

/-- How often a profile is written. -/
inductive Period where
  | interval
  | daily
  | monthly
  deriving DecidableEq

namespace Period

def all : List Period :=
  [interval, daily, monthly]

def name : Period → String
  | interval => "INTERVAL"
  | daily => "DAILY"
  | monthly => "MONTHLY"

def logicalName : Period → ObisCode
  | interval => ⟨1, 0, 99, 1, 0, 255⟩
  | daily => ⟨1, 0, 99, 2, 0, 255⟩
  | monthly => ⟨0, 0, 98, 1, 0, 255⟩

end Period

inductive ProfileFlag where
  | criticalError
  | clockInvalid
  | dataNotValid
  | daylightSaving
  | clockAdjusted
  | powerDown
  deriving DecidableEq

namespace ProfileFlag

/-- Every flag, from the least significant bit on. -/
def all : List ProfileFlag :=
  [criticalError, clockInvalid, dataNotValid, daylightSaving, clockAdjusted, powerDown]

/-- The bit of a flag, counted from the least significant one. -/
def bit : ProfileFlag → Nat
  | criticalError => 0
  | clockInvalid => 1
  | dataNotValid => 2
  | daylightSaving => 3
  | clockAdjusted => 5
  | powerDown => 7

def name : ProfileFlag → String
  | criticalError => "CRITICAL_ERROR"
  | clockInvalid => "CLOCK_INVALID"
  | dataNotValid => "DATA_NOT_VALID"
  | daylightSaving => "DAYLIGHT_SAVING"
  | clockAdjusted => "CLOCK_ADJUSTED"
  | powerDown => "POWER_DOWN"

def ofByte (byte : UInt8) : List ProfileFlag :=
  all.filter fun flag => byte.toNat.testBit flag.bit

end ProfileFlag

def Value.toProfileFlags (value : Value) : Outcome (List ProfileFlag) := do
  let byte : UInt8 ← value.toNarrow "AMR profile status"
  return ProfileFlag.ofByte byte

namespace Profile

def flagsReference : Value :=
  Clock.captureReference 1 ⟨0, 0, 96, 10, 2, 255⟩ 2

/-- A channel by which another meter is attached. -/
def checkChannel (channel : UInt8) : Outcome Unit :=
  if 1 ≤ channel ∧ channel ≤ 4 then .ok () else .error (.configuration (.channel channel))

/-- The logical name of the register of an attached meter. -/
def channelRegister (channel : UInt8) : ObisCode :=
  ⟨0, channel, 24, 2, 1, 255⟩

def channelScalerUnit (channel : UInt8) : AttributeAddress :=
  { classId := 4, name := channelRegister channel, attributeId := 3 }

/-- What is read of an entry, if its clock denotes an instant in the span. -/
def ifWithin {α : Type} (span : Span) (clock : Value) (context : String)
    (read : ZonedTime → Outcome α) : Outcome (Option α) := do
  match ← clock.toZoned? context with
  | none => return none
  | some time => if span.contains time.instant then return some (← read time) else return none

/-- What is read of the entries of a buffer; an entry may be left out. -/
def readEntries {α : Type} (buffer : Value) (context : String)
    (read : Value → Outcome (Option α)) : Outcome (List α) := do
  let entries ← buffer.toElements context
  return (← entries.mapM read).filterMap id

end Profile

end HeadEnd
