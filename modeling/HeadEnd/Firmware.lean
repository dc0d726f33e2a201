import HeadEnd.Session.Reading

/-! # Firmware

The versions of the firmware modules of a meter.
-/

namespace HeadEnd

inductive FirmwareModule where
  | active
  | module
  | communicationModule
  deriving DecidableEq

namespace FirmwareModule

def all : List FirmwareModule :=
  [active, module, communicationModule]

/-- The name of a module in records. -/
def name : FirmwareModule → String
  | active => "ACTIVE_FIRMWARE"
  | module => "MODULE_ACTIVE_FIRMWARE"
  | communicationModule => "COMMUNICATION_MODULE_ACTIVE_FIRMWARE"

/-- The name of a module in messages. -/
def label : FirmwareModule → String
  | active => "ActiveFirmware"
  | module => "ModuleActiveFirmware"
  | communicationModule => "CommunicationModuleActiveFirmware"

def logicalName : FirmwareModule → ObisCode
  | active => ⟨1, 0, 0, 2, 0, 255⟩
  | module => ⟨1, 1, 0, 2, 0, 255⟩
  | communicationModule => ⟨1, 2, 0, 2, 0, 255⟩

def address (m : FirmwareModule) : AttributeAddress :=
  { classId := 1, name := m.logicalName, attributeId := 2 }

end FirmwareModule

structure FirmwareVersion where
  type : FirmwareModule
  version : String
  deriving DecidableEq

namespace FirmwareVersion

def ofValue (type : FirmwareModule) (value : Value) : Outcome FirmwareVersion := do
  let context := "firmware version of " ++ type.label
  let some version ← value.toText? context
    | throw (.unexpected context .version value)
  return ⟨type, version⟩

def fetchAll : Operation (List FirmwareVersion) := do
  let addresses := FirmwareModule.all.map FirmwareModule.address
  Operation.describe
    ("GetFirmwareVersions, retrieve attributes: " ++ AttributeAddress.textOfList addresses)
  let ⟨values, _⟩ ← Operation.readValues "firmware versions" addresses
  let versions : Outcome (List FirmwareVersion) :=
    (FirmwareModule.all.zip values).mapM fun (type, value) => ofValue type value
  versions

end FirmwareVersion

end HeadEnd
