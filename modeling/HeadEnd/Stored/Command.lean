import HeadEnd.Command.Catalogue
import HeadEnd.Stored.Response

/-! # Commands over documents

Every command with its input read from a document and its output written to one, so that it can be
called by name.
-/

namespace HeadEnd

open Stored

/-- A command with the stored forms of its input and output. -/
structure StoredCommand where
  command : Command
  readInput? : Document → Option command.Input
  writeOutput : command.Output → Document

namespace StoredCommand

/-- The operation that the command is for an input. -/
def operation? (c : StoredCommand) (input : Document) : Option (Operation Document) :=
  (c.readInput? input).map fun input => do return c.writeOutput (← c.command.execute input)

def all : List StoredCommand :=
  [⟨.getAdministrativeStatus, (read? .strict : Document → Option Unit),
      (write : AdministrativeStatus → Document)⟩,
    ⟨.synchronizeTime, (read? .strict : Document → Option Clock.LocalSetting),
      (write : AccessResult → Document)⟩,
    ⟨.setClockConfiguration, (read? .strict : Document → Option Clock.Configuration),
      (write : Unit → Document)⟩,
    ⟨.setSpecialDays, (read? .strict : Document → Option (List SpecialDay)),
      (write : AccessResult → Document)⟩,
    ⟨.setAlarmNotifications,
      (readWrapped? "notifications" .strict : Document → Option (List AlarmNotification)),
      (write : AccessResult → Document)⟩,
    ⟨.getPushSetup .alarm, (read? .strict : Document → Option Unit),
      (write : PushSetup → Document)⟩,
    ⟨.getPushSetup .sms, (read? .strict : Document → Option Unit),
      (write : PushSetup → Document)⟩,
    ⟨.setPushSetup .alarm, (read? .strict : Document → Option PushSetup),
      (write : AccessResult → Document)⟩,
    ⟨.setPushSetup .sms, (read? .strict : Document → Option PushSetup),
      (write : AccessResult → Document)⟩,
    ⟨.findEvents, (read? .strict : Document → Option EventQuery),
      (write : List Event → Document)⟩,
    ⟨.getPeriodicMeterReads, (read? .strict : Document → Option ElectricityQuery),
      (write : ElectricityReads → Document)⟩,
    ⟨.getPeriodicMeterReadsGas, (read? .strict : Document → Option GasQuery),
      (write : GasReads → Document)⟩,
    ⟨.getAssociationLnObjects, (read? .strict : Document → Option Unit),
      (write : List Association.ObjectItem → Document)⟩,
    ⟨.setKeys, (read? .strict : Document → Option KeyPair), (write : String → Document)⟩,
    ⟨.setConfigurationObject, (read? .strict : Document → Option ConfigurationObject),
      (write : AccessResult → Document)⟩,
    ⟨.getFirmwareVersions, (read? .strict : Document → Option Unit),
      (write : List FirmwareVersion → Document)⟩,
    ⟨.activateActivityCalendar, (read? .strict : Document → Option Unit),
      (write : Unit → Document)⟩,
    ⟨.replaceKey, (read? .strict : Document → Option KeyChange), (write : Unit → Document)⟩,
    ⟨.retrieveConfigurationObjects, (read? .strict : Document → Option Unit),
      (write : String → Document)⟩]

def find? (name : String) : Option StoredCommand :=
  all.find? fun c => c.command.name == name

end StoredCommand

end HeadEnd
