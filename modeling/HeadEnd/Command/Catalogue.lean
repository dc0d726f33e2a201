import HeadEnd.Association.Dump
import HeadEnd.Command.Registry
import HeadEnd.Tariff.ActivityCalendar

/-! # The catalogue of commands

Every command there is. Sixteen of them answer one kind of request each; three stand alone.
-/

namespace HeadEnd.Command

/-! ## Commands that read -/

def getAdministrativeStatus : Command where
  name := "GetAdministrativeStatus"
  Input := Unit
  Output := AdministrativeStatus
  execute _ := AdministrativeStatus.fetch
  handling := some {
    kind := .getAdministrativeStatus
    input? := fun
      | .getAdministrativeStatus => some ()
      | _ => none
    respond := fun status => .ok (.administrativeStatus status) }

def getPushSetup (target : PushTarget) : Command where
  name := PushSetup.fetchName target
  Input := Unit
  Output := PushSetup
  execute _ := PushSetup.fetch target
  handling := some {
    kind := match target with
      | .alarm => .getPushSetupAlarm
      | .sms => .getPushSetupSms
    input? := fun request => match target, request with
      | .alarm, .getPushSetupAlarm => some ()
      | .sms, .getPushSetupSms => some ()
      | _, _ => none
    respond := fun setup => .ok (.pushSetup setup) }

def findEvents : Command where
  name := "FindEvents"
  Input := EventQuery
  Output := List Event
  execute := EventQuery.fetch
  handling := some {
    kind := .findEvents
    input? := fun
      | .findEvents query => some query
      | _ => none
    respond := fun events => .ok (.events events) }

def getPeriodicMeterReads : Command where
  name := "GetPeriodicMeterReads"
  Input := ElectricityQuery
  Output := ElectricityReads
  execute := ElectricityQuery.fetch
  handling := some {
    kind := .getPeriodicMeterReads
    input? := fun
      | .getPeriodicMeterReads query => some query
      | _ => none
    respond := fun reads => .ok (.periodicMeterReads reads) }

def getPeriodicMeterReadsGas : Command where
  name := "GetPeriodicMeterReadsGas"
  Input := GasQuery
  Output := GasReads
  execute := GasQuery.fetch
  handling := some {
    kind := .getPeriodicMeterReadsGas
    input? := fun
      | .getPeriodicMeterReadsGas query => some query
      | _ => none
    respond := fun reads => .ok (.periodicMeterReadsGas reads) }

/-- Reads the objects of the association in use. -/
def getAssociationLnObjects : Command where
  name := "GetAssociationLnObjects"
  Input := Unit
  Output := List Association.ObjectItem
  execute _ := Association.fetchObjects
  handling := some {
    kind := .getAssociationLnObjects
    input? := fun
      | .getAssociationLnObjects => some ()
      | _ => none
    respond := fun objects => .ok (.associationLnObjects objects) }

def getFirmwareVersions : Command where
  name := "GetFirmwareVersions"
  Input := Unit
  Output := List FirmwareVersion
  execute _ := FirmwareVersion.fetchAll
  handling := some {
    kind := .getFirmwareVersions
    input? := fun
      | .getFirmwareVersions => some ()
      | _ => none
    respond := fun versions => .ok (.firmwareVersions versions) }

/-- Reads every attribute of every object of the association in use. -/
def retrieveConfigurationObjects : Command where
  name := "RetrieveConfigurationObjects"
  Input := Unit
  Output := String
  execute _ := Association.dump

/-! ## Commands that write -/

/-- The confirmation of a write, or the refusal of the meter. -/
def confirmWrite (context confirmation : String) (result : AccessResult) : Outcome Response := do
  result.check context
  return .ok confirmation

def synchronizeTime : Command where
  name := "SynchronizeTime"
  Input := Clock.LocalSetting
  Output := AccessResult
  execute := Clock.synchronize
  handling := some {
    kind := .synchronizeTime
    input? := fun
      | .synchronizeTime setting => some setting
      | _ => none
    respond := confirmWrite "synchronize time" "Synchronizing time was successful" }

def setClockConfiguration : Command where
  name := "SetClockConfiguration"
  Input := Clock.Configuration
  Output := Unit
  execute := Clock.configure
  handling := some {
    kind := .setClockConfiguration
    input? := fun
      | .setClockConfiguration configuration => some configuration
      | _ => none
    respond := fun _ => .ok (.ok "Set clock configuration was successful") }

def setSpecialDays : Command where
  name := "SetSpecialDays"
  Input := List SpecialDay
  Output := AccessResult
  execute := SpecialDay.install
  handling := some {
    kind := .setSpecialDays
    input? := fun
      | .setSpecialDays days => some days
      | _ => none
    respond := confirmWrite "set special days" "Set special days was successful" }

def setAlarmNotifications : Command where
  name := "SetAlarmNotifications"
  Input := List AlarmNotification
  Output := AccessResult
  execute := AlarmNotifications.install
  handling := some {
    kind := .setAlarmNotifications
    input? := fun
      | .setAlarmNotifications notifications => some notifications
      | _ => none
    respond := confirmWrite "set alarm notifications" "Set alarm notifications was successful" }

def setPushSetup (target : PushTarget) : Command where
  name := PushSetup.installName target
  Input := PushSetup
  Output := AccessResult
  execute := PushSetup.install target
  handling := some {
    kind := match target with
      | .alarm => .setPushSetupAlarm
      | .sms => .setPushSetupSms
    input? := fun request => match target, request with
      | .alarm, .setPushSetupAlarm setup => some setup
      | .sms, .setPushSetupSms setup => some setup
      | _, _ => none
    respond := confirmWrite ("set push setup " ++ target.label)
      ("Setting push setup " ++ target.label ++ " was successful") }

def setConfigurationObject : Command where
  name := "SetConfigurationObject"
  Input := ConfigurationObject
  Output := AccessResult
  execute := ConfigurationObject.install
  handling := some {
    kind := .setConfigurationObject
    input? := fun
      | .setConfigurationObject configuration => some configuration
      | _ => none
    respond := confirmWrite "set configuration object" "Set configuration object was successful" }

def activateActivityCalendar : Command where
  name := "ActivateActivityCalendar"
  Input := Unit
  Output := Unit
  execute _ := ActivityCalendar.activate

/-! ## Commands that change keys -/

def replaceKey : Command where
  name := "ReplaceKey"
  Input := KeyChange
  Output := Unit
  execute := KeyChange.execute

def setKeys : Command where
  name := "SetKeys"
  Input := KeyPair
  Output := String
  execute := KeyPair.execute
  handling := some {
    kind := .setKeys
    input? := fun
      | .setKeys keys => some keys
      | _ => none
    respond := fun device =>
      .ok (.ok ("Replace keys for device: " ++ device ++ " was successful")) }

/-! ## All commands -/

/-- The commands that answer requests. -/
def handlers : List Command :=
  [getAdministrativeStatus, synchronizeTime, setClockConfiguration, setSpecialDays,
    setAlarmNotifications, getPushSetup .alarm, getPushSetup .sms, setPushSetup .alarm,
    setPushSetup .sms, findEvents, getPeriodicMeterReads, getPeriodicMeterReadsGas,
    getAssociationLnObjects, setKeys, setConfigurationObject, getFirmwareVersions]

/-- The commands that stand alone. -/
def standalone : List Command :=
  [activateActivityCalendar, replaceKey, retrieveConfigurationObjects]

end HeadEnd.Command

namespace HeadEnd.Registry

/-- The registry of all commands that answer requests. -/
def standard : Except ConfigurationFault Registry :=
  empty.registerAll Command.handlers

end HeadEnd.Registry
