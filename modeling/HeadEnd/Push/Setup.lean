import HeadEnd.Push.Destination
import HeadEnd.Push.ObjectDefinition
import HeadEnd.Push.Target
import HeadEnd.Push.Window
import HeadEnd.Session.Reading

/-! # Push setups

What a meter pushes, where to and when. All of a setup is read; of it the destination and the
windows can be written.
-/

namespace HeadEnd

/-- A push setup, or what is known of one. -/
structure PushSetup where
  objects : Option (List ObjectDefinition)
  destination : Option PushDestination
  windows : Option (List PushWindow)
  randomisationStartInterval : Option UInt16
  numberOfRetries : Option UInt8
  repetitionDelay : Option UInt16
  deriving DecidableEq

namespace PushSetup

def address (target : PushTarget) (id : Int8) : AttributeAddress :=
  { classId := 40, name := target.logicalName, attributeId := id }

/-- The name of the command that reads a setup. -/
def fetchName : PushTarget → String
  | .alarm => "GetPushSetupAlarm"
  | .sms => "GetPushSetupSms"

def installName : PushTarget → String
  | .alarm => "SetPushSetupAlarm"
  | .sms => "SetPushSetupSms"

def fetch (target : PushTarget) : Operation PushSetup := do
  let addresses := [2, 3, 4, 5, 6, 7].map (address target)
  Operation.describe
    (fetchName target ++ ", retrieve attributes: " ++ AttributeAddress.textOfList addresses)
  let context := "push setup " ++ target.label
  match ← Operation.readValues context addresses with
  | ⟨[objects, destination, windows, interval, retries, delay], _⟩ =>
    let objects ← objects.toObjectDefinitions ("Push Object List of " ++ context)
    let destination ← destination.toPushDestination ("Send Destination And Method of " ++ context)
    let windows ← windows.toPushWindows ("Communication Window of " ++ context)
    let interval ← interval.toNarrow? ("Randomisation Start Interval of " ++ context)
    let retries ← retries.toNarrow? ("Number of Retries of " ++ context)
    let delay ← delay.toNarrow? ("Repetition Delay of " ++ context)
    return {
      objects := some objects
      destination := some destination
      windows := some windows
      randomisationStartInterval := interval
      numberOfRetries := retries
      repetitionDelay := delay }

def writeSetting (target : PushTarget) (id : Int8) (value : Value) : Operation AccessResult := do
  Operation.describe (installName target ++ ", set attribute: " ++ (address target id).text)
  Operation.writeAttribute (address target id) value

/-- Writes the destination of a setup and, if that was accepted, its windows. -/
def install (target : PushTarget) (setup : PushSetup) : Operation AccessResult := do
  let some destination := setup.destination
    | throw (.protocol (.noPushDestination target))
  let result ← writeSetting target 3 destination.toValue
  if !result.isSuccess then return result
  match setup.windows with
  | some windows => writeSetting target 4 (.array (windows.map PushWindow.toValue))
  | none => return result

end PushSetup

end HeadEnd
