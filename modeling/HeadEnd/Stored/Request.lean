import HeadEnd.Request.Basic
import HeadEnd.Stored.Device
import HeadEnd.Stored.Push

/-! # Stored requests

Requests with their data as documents: a kind and, unless the kind has no data, a payload.
-/

namespace HeadEnd

open Stored

/-! ## Data of requests -/

instance : Stored Clock.LocalSetting where
  write s := .record [("deviation", write s.deviation), ("dst", write s.daylightSaving)]
  read? mode document := do
    match ← document.fields? ["deviation", "dst"] with
    | ⟨[deviation, daylightSaving], _⟩ =>
      return ⟨← required? mode deviation, ← required? mode daylightSaving⟩

instance : Stored Clock.Configuration where
  write c := .record [("time_zone_offset", write c.timeZoneOffset),
    ("daylight_savings_begin", write c.daylightSavingBegin),
    ("daylight_savings_end", write c.daylightSavingEnd),
    ("daylight_savings_deviation", write c.daylightSavingDeviation),
    ("daylight_savings_enabled", write c.daylightSavingEnabled)]
  read? mode document := do
    match ← document.fields? ["time_zone_offset", "daylight_savings_begin",
      "daylight_savings_end", "daylight_savings_deviation", "daylight_savings_enabled"] with
    | ⟨[offset, start, finish, deviation, enabled], _⟩ =>
      return {
        timeZoneOffset := ← required? mode offset
        daylightSavingBegin := ← required? mode start
        daylightSavingEnd := ← required? mode finish
        daylightSavingDeviation := ← required? mode deviation
        daylightSavingEnabled := ← required? mode enabled }

instance : Stored SpecialDay where
  write day := .record [("date", write day.date), ("day_id", write day.dayId)]
  read? mode document := do
    match ← document.fields? ["date", "day_id"] with
    | ⟨[date, dayId], _⟩ => return ⟨← required? mode date, ← required? mode dayId⟩

instance : Stored AlarmType :=
  named AlarmType.all AlarmType.name

instance : Stored AlarmNotification where
  write n := .record [("alarm_type", write n.type), ("enabled", write n.enabled)]
  read? mode document := do
    match ← document.fields? ["alarm_type", "enabled"] with
    | ⟨[type, enabled], _⟩ => return ⟨← required? mode type, ← required? mode enabled⟩

instance : Stored EventLog :=
  named EventLog.all EventLog.name

instance : Stored EventQuery where
  write q := .record [("category", write q.log), ("from", write q.span.start),
    ("until", write q.span.finish)]
  read? mode document := do
    match ← document.fields? ["category", "from", "until"] with
    | ⟨[log, start, finish], _⟩ =>
      return ⟨← required? mode log, ⟨← required? mode start, ← required? mode finish⟩⟩

instance : Stored Period :=
  named Period.all Period.name

instance : Stored ElectricityQuery where
  write q := .record [("period_type", write q.period), ("begin_date", write q.span.start),
    ("end_date", write q.span.finish), ("channel", write q.channel)]
  read? mode document := do
    match ← document.fields? ["period_type", "begin_date", "end_date", "channel"] with
    | ⟨[period, start, finish, channel], _⟩ =>
      return {
        period := ← required? mode period
        span := ⟨← required? mode start, ← required? mode finish⟩
        channel := ← optional? mode channel }

instance : Stored GasQuery where
  write q := .record [("period_type", write q.period), ("begin_date", write q.span.start),
    ("end_date", write q.span.finish), ("channel", write q.channel)]
  read? mode document := do
    match ← document.fields? ["period_type", "begin_date", "end_date", "channel"] with
    | ⟨[period, start, finish, channel], _⟩ =>
      return {
        period := ← required? mode period
        span := ⟨← required? mode start, ← required? mode finish⟩
        channel := ← required? mode channel }

instance : Stored KeyChange where
  write c := .record [("key_type", write c.kind), ("key", write c.material)]
  read? mode document := do
    match ← document.fields? ["key_type", "key"] with
    | ⟨[kind, material], _⟩ => return ⟨← required? mode kind, ← material.bind (readBytes? mode)⟩

instance : Stored KeyPair where
  write p := .record [("authentication_key", write p.authentication),
    ("encryption_key", write p.encryption)]
  read? mode document := do
    match ← document.fields? ["authentication_key", "encryption_key"] with
    | ⟨[authentication, encryption], _⟩ =>
      return ⟨← authentication.bind (readBytes? mode), ← encryption.bind (readBytes? mode)⟩

instance : Stored GprsMode :=
  named GprsMode.all GprsMode.name

instance : Stored ConfigurationFlag :=
  named ConfigurationFlag.all ConfigurationFlag.name

instance : Stored FlagSetting where
  write s := .record [("flag_type", write s.flag), ("enabled", write s.enabled)]
  read? mode document := do
    match ← document.fields? ["flag_type", "enabled"] with
    | ⟨[flag, enabled], _⟩ => return ⟨← required? mode flag, ← required? mode enabled⟩

instance : Stored ConfigurationObject where
  write c := .record [("gprs_operation_mode", write c.mode), ("flags", write c.flags)]
  read? mode document := do
    match ← document.fields? ["gprs_operation_mode", "flags"] with
    | ⟨[gprsMode, flags], _⟩ => return ⟨← optional? mode gprsMode, ← required? mode flags⟩

/-! ## Wrapped lists -/

/-- A list that is stored as the only field of a record. -/
def writeWrapped {α : Type} [Stored α] (name : String) (items : List α) : Document :=
  .record [(name, write items)]

def readWrapped? {α : Type} [Stored α] (name : String) (mode : ReadMode) (document : Document) :
    Option (List α) := do
  match ← document.fields? [name] with
  | ⟨[items], _⟩ => required? mode items

/-! ## Requests -/

instance : Stored RequestKind :=
  named RequestKind.all RequestKind.name

/-- The payload of a request, unless its kind has none. -/
def Request.payload? : Request → Option Document
  | getAdministrativeStatus => none
  | synchronizeTime setting => some (write setting)
  | setClockConfiguration configuration => some (write configuration)
  | setSpecialDays days => some (writeWrapped "special_days" days)
  | setAlarmNotifications notifications => some (writeWrapped "notifications" notifications)
  | getPushSetupAlarm => none
  | getPushSetupSms => none
  | setPushSetupAlarm setup => some (write setup)
  | setPushSetupSms setup => some (write setup)
  | findEvents query => some (write query)
  | getPeriodicMeterReads query => some (write query)
  | getPeriodicMeterReadsGas query => some (write query)
  | getAssociationLnObjects => none
  | setKeys keys => some (write keys)
  | setConfigurationObject configuration => some (write configuration)
  | getFirmwareVersions => none

/-- The request of a kind with a payload, which may be missing or null only if the kind has none. -/
def Request.ofPayload? (kind : RequestKind) (mode : ReadMode) (payload : Option Document) :
    Option Request :=
  match kind with
  | .getAdministrativeStatus => (nothing? payload).map fun _ => getAdministrativeStatus
  | .synchronizeTime => (required? mode payload).map synchronizeTime
  | .setClockConfiguration => (required? mode payload).map setClockConfiguration
  | .setSpecialDays => (payload.bind (readWrapped? "special_days" mode)).map setSpecialDays
  | .setAlarmNotifications =>
    (payload.bind (readWrapped? "notifications" mode)).map setAlarmNotifications
  | .getPushSetupAlarm => (nothing? payload).map fun _ => getPushSetupAlarm
  | .getPushSetupSms => (nothing? payload).map fun _ => getPushSetupSms
  | .setPushSetupAlarm => (required? mode payload).map setPushSetupAlarm
  | .setPushSetupSms => (required? mode payload).map setPushSetupSms
  | .findEvents => (required? mode payload).map findEvents
  | .getPeriodicMeterReads => (required? mode payload).map getPeriodicMeterReads
  | .getPeriodicMeterReadsGas => (required? mode payload).map getPeriodicMeterReadsGas
  | .getAssociationLnObjects => (nothing? payload).map fun _ => getAssociationLnObjects
  | .setKeys => (required? mode payload).map setKeys
  | .setConfigurationObject => (required? mode payload).map setConfigurationObject
  | .getFirmwareVersions => (nothing? payload).map fun _ => getFirmwareVersions

/-- A kind and a payload in stored form, with the mode in which the payload is read. -/
structure Tagged where
  kind : Document
  payload : Option Document
  payloadMode : ReadMode

/-- The kind and the payload that a document holds. A list of two stands for a record with both
fields, but only the payload of a record is read leniently. -/
def tagged? (mode : ReadMode) : Document → Option Tagged
  | .record fields => do
    return ⟨← Document.field? fields "type", Document.field? fields "payload", .lenient⟩
  | .list [kind, payload] => some ⟨kind, some payload, mode⟩
  | _ => none

instance : Stored Request where
  write request := writeTagged request.kind.name request.payload?
  read? mode document := do
    let tagged ← tagged? mode document
    Request.ofPayload? (← read? mode tagged.kind) tagged.payloadMode tagged.payload

end HeadEnd
