import HeadEnd.Bundle.Basic
import HeadEnd.Stored.Request

/-! # Stored responses

Responses, and bundles of requests with their responses, as documents.
-/

namespace HeadEnd

open Stored

/-! ## Data of responses -/

instance : Stored Event where
  write e := .record [("timestamp", write e.time), ("event_code", write e.code),
    ("event_counter", write e.counter), ("category", write e.log)]
  read? mode document := do
    match ← document.fields? ["timestamp", "event_code", "event_counter", "category"] with
    | ⟨[time, code, counter, log], _⟩ =>
      return {
        time := ← required? mode time
        code := ← required? mode code
        counter := ← optional? mode counter
        log := ← required? mode log }

instance : Stored ProfileFlag :=
  named ProfileFlag.all ProfileFlag.name

instance : Stored ElectricityRead where
  write r := .record [("log_time", write r.logTime),
    ("active_energy_import", write r.energyImport),
    ("active_energy_export", write r.energyExport),
    ("active_energy_import_tariff_one", write r.importRate1),
    ("active_energy_import_tariff_two", write r.importRate2),
    ("active_energy_export_tariff_one", write r.exportRate1),
    ("active_energy_export_tariff_two", write r.exportRate2),
    ("amr_profile_status", write r.flags)]
  read? mode document := do
    match ← document.fields? ["log_time", "active_energy_import", "active_energy_export",
      "active_energy_import_tariff_one", "active_energy_import_tariff_two",
      "active_energy_export_tariff_one", "active_energy_export_tariff_two",
      "amr_profile_status"] with
    | ⟨[logTime, energyImport, energyExport, import1, import2, export1, export2, flags], _⟩ =>
      return {
        logTime := ← required? mode logTime
        energyImport := ← optional? mode energyImport
        energyExport := ← optional? mode energyExport
        importRate1 := ← optional? mode import1
        importRate2 := ← optional? mode import2
        exportRate1 := ← optional? mode export1
        exportRate2 := ← optional? mode export2
        flags := ← optional? mode flags }

instance : Stored ElectricityReads where
  write r := .record [("period_type", write r.period), ("reads", write r.reads)]
  read? mode document := do
    match ← document.fields? ["period_type", "reads"] with
    | ⟨[period, reads], _⟩ => return ⟨← required? mode period, ← required? mode reads⟩

instance : Stored GasRead where
  write r := .record [("log_time", write r.logTime), ("consumption", write r.consumption),
    ("capture_time", write r.captureTime), ("amr_profile_status", write r.flags)]
  read? mode document := do
    match ← document.fields? ["log_time", "consumption", "capture_time",
      "amr_profile_status"] with
    | ⟨[logTime, consumption, captureTime, flags], _⟩ =>
      return {
        logTime := ← required? mode logTime
        consumption := ← optional? mode consumption
        captureTime := ← required? mode captureTime
        flags := ← optional? mode flags }

instance : Stored GasReads where
  write r := .record [("period_type", write r.period), ("reads", write r.reads)]
  read? mode document := do
    match ← document.fields? ["period_type", "reads"] with
    | ⟨[period, reads], _⟩ => return ⟨← required? mode period, ← required? mode reads⟩

instance : Stored Association.AttributeAccess :=
  named Association.AttributeAccess.all Association.AttributeAccess.name

instance : Stored Association.MethodAccess :=
  named Association.MethodAccess.all Association.MethodAccess.name

instance : Stored Association.AttributeItem where
  write i := .record [("attribute_id", write i.attributeId), ("access_mode", write i.access),
    ("access_selectors", write i.selectors)]
  read? mode document := do
    match ← document.fields? ["attribute_id", "access_mode", "access_selectors"] with
    | ⟨[id, access, selectors], _⟩ =>
      return ⟨← required? mode id, ← required? mode access, ← required? mode selectors⟩

instance : Stored Association.MethodItem where
  write i := .record [("method_id", write i.methodId), ("access_mode", write i.access)]
  read? mode document := do
    match ← document.fields? ["method_id", "access_mode"] with
    | ⟨[id, access], _⟩ => return ⟨← required? mode id, ← required? mode access⟩

instance : Stored Association.AccessRights where
  write r := .record [("attribute_access", write r.attributes), ("method_access", write r.methods)]
  read? mode document := do
    match ← document.fields? ["attribute_access", "method_access"] with
    | ⟨[attributes, methods], _⟩ => return ⟨← required? mode attributes, ← required? mode methods⟩

instance : Stored Association.ObjectItem where
  write o := .record [("class_id", write o.classId), ("version", write o.version),
    ("logical_name", write o.logicalName), ("access_rights", write o.rights)]
  read? mode document := do
    match ← document.fields? ["class_id", "version", "logical_name", "access_rights"] with
    | ⟨[classId, version, logicalName, rights], _⟩ =>
      return ⟨← required? mode classId, ← required? mode version, ← required? mode logicalName,
        ← optional? mode rights⟩

instance : Stored FirmwareModule :=
  named FirmwareModule.all FirmwareModule.name

instance : Stored FirmwareVersion where
  write v := .record [("module_type", write v.type), ("version", write v.version)]
  read? mode document := do
    match ← document.fields? ["module_type", "version"] with
    | ⟨[type, version], _⟩ => return ⟨← required? mode type, ← required? mode version⟩

/-! ## Faults -/

instance : Stored FaultParameter where
  write p := .record [("key", write p.key), ("value", write p.value)]
  read? mode document := do
    match ← document.fields? ["key", "value"] with
    | ⟨[key, value], _⟩ => return ⟨← required? mode key, ← required? mode value⟩

instance : Stored Fault where
  write f := .record [("code", write f.code), ("message", write f.message),
    ("component", write f.component), ("inner_exception", write f.innerException),
    ("inner_message", write f.innerMessage), ("parameters", write f.parameters)]
  read? mode document := do
    match ← document.fields? ["code", "message", "component", "inner_exception", "inner_message",
      "parameters"] with
    | ⟨[code, message, component, innerException, innerMessage, parameters], _⟩ =>
      return {
        code := ← optional? mode code
        message := ← required? mode message
        component := ← required? mode component
        innerException := ← optional? mode innerException
        innerMessage := ← optional? mode innerMessage
        parameters := ← required? mode parameters }

/-! ## Responses -/

def Response.kindName : Response → String
  | ok _ => "Ok"
  | administrativeStatus _ => "AdministrativeStatus"
  | events _ => "Events"
  | periodicMeterReads _ => "PeriodicMeterReads"
  | periodicMeterReadsGas _ => "PeriodicMeterReadsGas"
  | pushSetup _ => "PushSetup"
  | associationLnObjects _ => "AssociationLnObjects"
  | firmwareVersions _ => "FirmwareVersions"
  | fault _ => "Fault"

def Response.payload : Response → Document
  | ok message => .record [("message", write message)]
  | administrativeStatus status => write status
  | events list => write list
  | periodicMeterReads reads => write reads
  | periodicMeterReadsGas reads => write reads
  | pushSetup setup => write setup
  | associationLnObjects objects => write objects
  | firmwareVersions versions => write versions
  | fault f => write f

/-- The message in a record; a list does not stand for such a record. -/
def Response.readMessage? (mode : ReadMode) : Document → Option String
  | .record fields => required? mode (Document.field? fields "message")
  | _ => none

/-- The kinds of responses by name, with the readers of their payloads. -/
def Response.readers : List (String × (ReadMode → Document → Option Response)) :=
  [("Ok", fun mode document => (readMessage? mode document).map ok),
    ("AdministrativeStatus", fun mode document => (read? mode document).map administrativeStatus),
    ("Events", fun mode document => (read? mode document).map events),
    ("PeriodicMeterReads", fun mode document => (read? mode document).map periodicMeterReads),
    ("PeriodicMeterReadsGas",
      fun mode document => (read? mode document).map periodicMeterReadsGas),
    ("PushSetup", fun mode document => (read? mode document).map pushSetup),
    ("AssociationLnObjects", fun mode document => (read? mode document).map associationLnObjects),
    ("FirmwareVersions", fun mode document => (read? mode document).map firmwareVersions),
    ("Fault", fun mode document => (read? mode document).map fault)]

instance : Stored Response where
  write response := writeTagged response.kindName (some response.payload)
  read? mode document := do
    let tagged ← tagged? mode document
    let (_, reader) ← readName? Response.readers Prod.fst mode tagged.kind
    reader tagged.payloadMode (← tagged.payload)

/-! ## Bundles -/

instance : Stored Action where
  write a := .record [("request", write a.request), ("response", write a.response)]
  read? mode document := do
    match ← document.fields? ["request", "response"] with
    | ⟨[request, response], _⟩ => return ⟨← required? mode request, ← optional? mode response⟩

instance : Stored Bundle where
  write b := .record [("actions", write b.actions)]
  read? mode document := do
    match ← document.fields? ["actions"] with
    | ⟨[actions], _⟩ => return ⟨← required? mode actions⟩

/-- The bundle of a list of requests, none of which has been carried out, or a stored bundle. -/
def Bundle.ofDocument? : Document → Option Bundle
  | .list requests => (requests.mapM (read? .strict)).map Bundle.ofRequests
  | document => read? .strict document

end HeadEnd
