import HeadEnd.Session.Reading

/-! # Alarms

Which alarms a meter reports. The meter holds a filter of 32 bits, one for each type of alarm; a
request changes the bits of the types that it names and leaves all others as they are.
-/

namespace HeadEnd

inductive AlarmType where
  | clockInvalid
  | replaceBattery
  | powerUp
  | programMemoryError
  | ramError
  | nvMemoryError
  | measurementSystemError
  | watchdogError
  | fraudAttempt
  | communicationErrorMBusChannel1
  | communicationErrorMBusChannel2
  | communicationErrorMBusChannel3
  | communicationErrorMBusChannel4
  | fraudAttemptMBusChannel1
  | fraudAttemptMBusChannel2
  | fraudAttemptMBusChannel3
  | fraudAttemptMBusChannel4
  | newMBusDeviceDiscoveredChannel1
  | newMBusDeviceDiscoveredChannel2
  | newMBusDeviceDiscoveredChannel3
  | newMBusDeviceDiscoveredChannel4
  deriving DecidableEq

namespace AlarmType

/-- Every type, in the order of the bits. -/
def all : List AlarmType :=
  [clockInvalid, replaceBattery, powerUp, programMemoryError, ramError, nvMemoryError,
    measurementSystemError, watchdogError, fraudAttempt, communicationErrorMBusChannel1,
    communicationErrorMBusChannel2, communicationErrorMBusChannel3, communicationErrorMBusChannel4,
    fraudAttemptMBusChannel1, fraudAttemptMBusChannel2, fraudAttemptMBusChannel3,
    fraudAttemptMBusChannel4, newMBusDeviceDiscoveredChannel1, newMBusDeviceDiscoveredChannel2,
    newMBusDeviceDiscoveredChannel3, newMBusDeviceDiscoveredChannel4]

/-- The bit of a type in the filter, counted from the least significant one. -/
def bit : AlarmType → Nat
  | clockInvalid => 0
  | replaceBattery => 1
  | powerUp => 2
  | programMemoryError => 8
  | ramError => 9
  | nvMemoryError => 10
  | measurementSystemError => 11
  | watchdogError => 12
  | fraudAttempt => 13
  | communicationErrorMBusChannel1 => 16
  | communicationErrorMBusChannel2 => 17
  | communicationErrorMBusChannel3 => 18
  | communicationErrorMBusChannel4 => 19
  | fraudAttemptMBusChannel1 => 20
  | fraudAttemptMBusChannel2 => 21
  | fraudAttemptMBusChannel3 => 22
  | fraudAttemptMBusChannel4 => 23
  | newMBusDeviceDiscoveredChannel1 => 24
  | newMBusDeviceDiscoveredChannel2 => 25
  | newMBusDeviceDiscoveredChannel3 => 26
  | newMBusDeviceDiscoveredChannel4 => 27

/-- The filter that lets through alarms of one type only. -/
def mask (type : AlarmType) : UInt32 :=
  UInt32.ofNat (Nat.pow 2 type.bit)

def name : AlarmType → String
  | clockInvalid => "CLOCK_INVALID"
  | replaceBattery => "REPLACE_BATTERY"
  | powerUp => "POWER_UP"
  | programMemoryError => "PROGRAM_MEMORY_ERROR"
  | ramError => "RAM_ERROR"
  | nvMemoryError => "NV_MEMORY_ERROR"
  | measurementSystemError => "MEASUREMENT_SYSTEM_ERROR"
  | watchdogError => "WATCHDOG_ERROR"
  | fraudAttempt => "FRAUD_ATTEMPT"
  | communicationErrorMBusChannel1 => "COMMUNICATION_ERROR_M_BUS_CHANNEL1"
  | communicationErrorMBusChannel2 => "COMMUNICATION_ERROR_M_BUS_CHANNEL2"
  | communicationErrorMBusChannel3 => "COMMUNICATION_ERROR_M_BUS_CHANNEL3"
  | communicationErrorMBusChannel4 => "COMMUNICATION_ERROR_M_BUS_CHANNEL4"
  | fraudAttemptMBusChannel1 => "FRAUD_ATTEMPT_M_BUS_CHANNEL1"
  | fraudAttemptMBusChannel2 => "FRAUD_ATTEMPT_M_BUS_CHANNEL2"
  | fraudAttemptMBusChannel3 => "FRAUD_ATTEMPT_M_BUS_CHANNEL3"
  | fraudAttemptMBusChannel4 => "FRAUD_ATTEMPT_M_BUS_CHANNEL4"
  | newMBusDeviceDiscoveredChannel1 => "NEW_M_BUS_DEVICE_DISCOVERED_CHANNEL1"
  | newMBusDeviceDiscoveredChannel2 => "NEW_M_BUS_DEVICE_DISCOVERED_CHANNEL2"
  | newMBusDeviceDiscoveredChannel3 => "NEW_M_BUS_DEVICE_DISCOVERED_CHANNEL3"
  | newMBusDeviceDiscoveredChannel4 => "NEW_M_BUS_DEVICE_DISCOVERED_CHANNEL4"

end AlarmType

/-- Whether alarms of a type are reported. -/
structure AlarmNotification where
  type : AlarmType
  enabled : Bool
  deriving DecidableEq

/-- The filter with the bit of the notification set or cleared. -/
def AlarmNotification.applyTo (n : AlarmNotification) (filter : UInt32) : UInt32 :=
  if n.enabled then filter ||| n.type.mask else filter &&& ~~~n.type.mask

namespace AlarmNotifications

/-- Every type with its state in a filter. -/
def ofFilter (filter : UInt32) : List AlarmNotification :=
  AlarmType.all.map fun type => ⟨type, filter &&& type.mask != 0⟩

/-- The filter with the given notifications applied one after the other. -/
def applyTo (notifications : List AlarmNotification) (filter : UInt32) : UInt32 :=
  notifications.foldl (fun filter n => n.applyTo filter) filter

/-- What the first notification of a type says. -/
def isEnabled? (notifications : List AlarmNotification) (type : AlarmType) : Option Bool :=
  (notifications.find? fun n => n.type == type).map AlarmNotification.enabled

def address : AttributeAddress :=
  { classId := 1, name := ⟨0, 0, 97, 98, 10, 255⟩, attributeId := 2 }

/-- Changes the filter of the meter; a filter that stays the same is not written. -/
def install (notifications : List AlarmNotification) : Operation AccessResult := do
  Operation.describe ("SetAlarmNotifications, retrieve attribute: " ++ address.text)
  let value ← Operation.readValue "alarm filter" address
  let current : UInt32 ← value.toNarrow "alarm filter"
  let updated := applyTo notifications current
  if updated = current then return .success
  Operation.describe ("SetAlarmNotifications, set attribute: " ++ address.text)
  Operation.writeAttribute address (.uint32 updated)

end AlarmNotifications

end HeadEnd
