import HeadEnd.Device
import HeadEnd.Settings
import HeadEnd.Stored.Time

/-! # Stored devices

Device records with their keys, and the settings, as documents.
-/

namespace HeadEnd

open Stored

instance : Stored KeyKind :=
  named KeyKind.all KeyKind.name

instance : Stored SecurityKey where
  write key := .record [("key_type", write key.kind), ("key", write key.material),
    ("valid_from", write key.validFrom), ("valid_to", write key.validTo)]
  read? mode document := do
    match ← document.fields? ["key_type", "key", "valid_from", "valid_to"] with
    | ⟨[kind, material, validFrom, validTo], _⟩ =>
      return {
        kind := ← required? mode kind
        material := ← required? mode material
        validFrom := ← optional? mode validFrom
        validTo := ← optional? mode validTo }

instance : Stored Device where
  write device := .record [("device_identification", write device.identification),
    ("hls3_active", write device.hls3Active), ("hls4_active", write device.hls4Active),
    ("hls5_active", write device.hls5Active),
    ("supports_batched_read", write device.supportsBatchedRead),
    ("supports_selective_access", write device.supportsSelectiveAccess),
    ("in_debug_mode", write device.inDebugMode), ("security_keys", write device.keys)]
  read? mode document := do
    match ← document.fields? ["device_identification", "hls3_active", "hls4_active", "hls5_active",
      "supports_batched_read", "supports_selective_access", "in_debug_mode", "security_keys"] with
    | ⟨[identification, hls3, hls4, hls5, batched, selective, debug, keys], _⟩ =>
      return {
        identification := ← required? mode identification
        hls3Active := ← required? mode hls3
        hls4Active := ← required? mode hls4
        hls5Active := ← required? mode hls5
        supportsBatchedRead := ← required? mode batched
        supportsSelectiveAccess := ← required? mode selective
        inDebugMode := ← required? mode debug
        keys := ← required? mode keys }

/-- The device record of which only some fields are given; the others are those of a record that has
just been made. A field that is given replaces the other one even if it is null. -/
def Device.overlay? (identification : String) (document : Document) : Option Device :=
  match document, write ({ identification } : Device) with
  | .record given, .record fresh =>
    read? .strict (.record (given ++ fresh))
  | _, _ => none

/-- The datum of a field, or what stands in for a field that is missing. -/
def Stored.orElse? {α : Type} [Stored α] (mode : ReadMode) (field : Option Document)
    (fallback : α) : Option α :=
  match field with
  | none => some fallback
  | some document => read? mode document

instance : Stored Settings where
  write settings := .record [("component", write settings.component),
    ("default_fault_message", write settings.defaultFaultMessage)]
  read?
    | mode, .record fields => do
      let standard : Settings := {}
      return {
        component := ← orElse? mode (Document.field? fields "component") standard.component
        defaultFaultMessage :=
          ← orElse? mode (Document.field? fields "default_fault_message")
            standard.defaultFaultMessage }
    | _, .list [] => some {}
    | mode, .list [component] => do return { component := ← read? mode component }
    | mode, .list [component, message] => do
      return {
        component := ← read? mode component
        defaultFaultMessage := ← read? mode message }
    | _, _ => none

end HeadEnd
