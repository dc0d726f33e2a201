/-! # Kinds of requests

The requests that a bundle may hold, without their data. A kind selects the command that answers a
request.
-/

namespace HeadEnd

inductive RequestKind where
  | getAdministrativeStatus
  | synchronizeTime
  | setClockConfiguration
  | setSpecialDays
  | setAlarmNotifications
  | getPushSetupAlarm
  | getPushSetupSms
  | setPushSetupAlarm
  | setPushSetupSms
  | findEvents
  | getPeriodicMeterReads
  | getPeriodicMeterReadsGas
  | getAssociationLnObjects
  | setKeys
  | setConfigurationObject
  | getFirmwareVersions
  deriving DecidableEq

namespace RequestKind

def all : List RequestKind :=
  [getAdministrativeStatus, synchronizeTime, setClockConfiguration, setSpecialDays,
    setAlarmNotifications, getPushSetupAlarm, getPushSetupSms, setPushSetupAlarm, setPushSetupSms,
    findEvents, getPeriodicMeterReads, getPeriodicMeterReadsGas, getAssociationLnObjects, setKeys,
    setConfigurationObject, getFirmwareVersions]

/-- The name of a kind, which is the tag of its requests. -/
def name : RequestKind → String
  | getAdministrativeStatus => "GetAdministrativeStatus"
  | synchronizeTime => "SynchronizeTime"
  | setClockConfiguration => "SetClockConfiguration"
  | setSpecialDays => "SetSpecialDays"
  | setAlarmNotifications => "SetAlarmNotifications"
  | getPushSetupAlarm => "GetPushSetupAlarm"
  | getPushSetupSms => "GetPushSetupSms"
  | setPushSetupAlarm => "SetPushSetupAlarm"
  | setPushSetupSms => "SetPushSetupSms"
  | findEvents => "FindEvents"
  | getPeriodicMeterReads => "GetPeriodicMeterReads"
  | getPeriodicMeterReadsGas => "GetPeriodicMeterReadsGas"
  | getAssociationLnObjects => "GetAssociationLnObjects"
  | setKeys => "SetKeys"
  | setConfigurationObject => "SetConfigurationObject"
  | getFirmwareVersions => "GetFirmwareVersions"

theorem mem_all (kind : RequestKind) : kind ∈ all := by
  cases kind <;> decide

end RequestKind

end HeadEnd
