import HeadEnd.AdministrativeStatus
import HeadEnd.Association.ObjectList
import HeadEnd.EventLog
import HeadEnd.Firmware
import HeadEnd.Profile.Electricity
import HeadEnd.Profile.Gas
import HeadEnd.Push.Setup

/-! # Responses

What a bundle is answered with: the data that were read, a confirmation of a change, or a fault.
-/

namespace HeadEnd

/-- A named detail of a fault. -/
structure FaultParameter where
  key : String
  value : String
  deriving DecidableEq

/-- A failure as it is reported to whoever sent the request. -/
structure Fault where
  /-- The result code that the meter refused with. -/
  code : Option Int32
  message : String
  /-- The component that reports the fault. -/
  component : String
  innerException : Option String
  innerMessage : Option String
  parameters : List FaultParameter
  deriving DecidableEq

namespace Fault

/-- A fault that no failure underlies. -/
def plain (message component device : String) : Fault where
  code := none
  message := message
  component := component
  innerException := none
  innerMessage := none
  parameters := [⟨"deviceIdentification", device⟩]

/-- The fault for a failure; `fallback` is its message if the failure has none of its own. -/
def ofFailure (failure : Failure) (fallback component device : String) : Fault :=
  { plain (failure.userMessage?.getD fallback) component device with
    code := failure.code?.map fun code => Int32.ofNat code.toNat
    innerException := some failure.family
    innerMessage := some failure.message }

def parameter? (fault : Fault) (key : String) : Option String :=
  (fault.parameters.find? fun p => p.key == key).map FaultParameter.value

end Fault

inductive Response where
  /-- A change was made. -/
  | ok (message : String)
  | administrativeStatus (status : AdministrativeStatus)
  | events (events : List Event)
  | periodicMeterReads (reads : ElectricityReads)
  | periodicMeterReadsGas (reads : GasReads)
  | pushSetup (setup : PushSetup)
  | associationLnObjects (objects : List Association.ObjectItem)
  | firmwareVersions (versions : List FirmwareVersion)
  | fault (fault : Fault)

def Response.isFault : Response → Bool
  | fault _ => true
  | _ => false

end HeadEnd
