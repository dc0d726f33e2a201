import HeadEnd.Alarm
import HeadEnd.Clock.Configuration
import HeadEnd.Clock.Synchronization
import HeadEnd.ConfigurationObject
import HeadEnd.EventLog
import HeadEnd.Key.Change
import HeadEnd.Profile.Electricity
import HeadEnd.Profile.Gas
import HeadEnd.Push.Setup
import HeadEnd.Request.Kind
import HeadEnd.Tariff.SpecialDays

/-! # Requests

What a bundle may ask of a meter, with the data of each request.
-/

namespace HeadEnd

inductive Request where
  | getAdministrativeStatus
  | synchronizeTime (setting : Clock.LocalSetting)
  | setClockConfiguration (configuration : Clock.Configuration)
  | setSpecialDays (days : List SpecialDay)
  | setAlarmNotifications (notifications : List AlarmNotification)
  | getPushSetupAlarm
  | getPushSetupSms
  | setPushSetupAlarm (setup : PushSetup)
  | setPushSetupSms (setup : PushSetup)
  | findEvents (query : EventQuery)
  | getPeriodicMeterReads (query : ElectricityQuery)
  | getPeriodicMeterReadsGas (query : GasQuery)
  | getAssociationLnObjects
  | setKeys (keys : KeyPair)
  | setConfigurationObject (configuration : ConfigurationObject)
  | getFirmwareVersions

def Request.kind : Request → RequestKind
  | getAdministrativeStatus => .getAdministrativeStatus
  | synchronizeTime _ => .synchronizeTime
  | setClockConfiguration _ => .setClockConfiguration
  | setSpecialDays _ => .setSpecialDays
  | setAlarmNotifications _ => .setAlarmNotifications
  | getPushSetupAlarm => .getPushSetupAlarm
  | getPushSetupSms => .getPushSetupSms
  | setPushSetupAlarm _ => .setPushSetupAlarm
  | setPushSetupSms _ => .setPushSetupSms
  | findEvents _ => .findEvents
  | getPeriodicMeterReads _ => .getPeriodicMeterReads
  | getPeriodicMeterReadsGas _ => .getPeriodicMeterReadsGas
  | getAssociationLnObjects => .getAssociationLnObjects
  | setKeys _ => .setKeys
  | setConfigurationObject _ => .setConfigurationObject
  | getFirmwareVersions => .getFirmwareVersions

end HeadEnd
