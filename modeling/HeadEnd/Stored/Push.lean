import HeadEnd.Push.Setup
import HeadEnd.Stored.Cosem

/-! # Stored push setups

Destinations, windows, object definitions and whole setups as documents.
-/

namespace HeadEnd

open Stored

instance : Stored PushTarget :=
  named PushTarget.all PushTarget.name

/-- The services that have a name of their own. -/
def TransportService.namedServices : List (TransportService × String) :=
  [(.tcp, "Tcp"), (.udp, "Udp"), (.ftp, "Ftp"), (.smtp, "Smtp"), (.sms, "Sms"), (.hdlc, "Hdlc"),
    (.mBus, "MBus"), (.zigBee, "ZigBee")]

instance : Stored TransportService where
  write
    | .manufacturerSpecific code => writeVariant "ManufacturerSpecific" code
    | .tcp => .text "Tcp"
    | .udp => .text "Udp"
    | .ftp => .text "Ftp"
    | .smtp => .text "Smtp"
    | .sms => .text "Sms"
    | .hdlc => .text "Hdlc"
    | .mBus => .text "MBus"
    | .zigBee => .text "ZigBee"
  read? mode document :=
    ((readName? TransportService.namedServices Prod.snd mode document).map Prod.fst).or
      ((readVariant? "ManufacturerSpecific" mode document).map
        TransportService.manufacturerSpecific)

def MessageType.namedTypes : List (MessageType × String) :=
  [(.aXdr, "AXdrEncodedXDlmsApdu"), (.xml, "XmlEncodedXDlmsApdu")]

instance : Stored MessageType where
  write
    | .manufacturerSpecific code => writeVariant "ManufacturerSpecific" code
    | .aXdr => .text "AXdrEncodedXDlmsApdu"
    | .xml => .text "XmlEncodedXDlmsApdu"
  read? mode document :=
    ((readName? MessageType.namedTypes Prod.snd mode document).map Prod.fst).or
      ((readVariant? "ManufacturerSpecific" mode document).map MessageType.manufacturerSpecific)

instance : Stored PushDestination where
  write d := .record [("transport_service", write d.service), ("destination", write d.destination),
    ("message", write d.message)]
  read? mode document := do
    match ← document.fields? ["transport_service", "destination", "message"] with
    | ⟨[service, destination, message], _⟩ =>
      return {
        service := ← required? mode service
        destination := ← required? mode destination
        message := ← required? mode message }

instance : Stored PushWindow where
  write w := .record [("start", write w.start), ("end", write w.finish)]
  read? mode document := do
    match ← document.fields? ["start", "end"] with
    | ⟨[start, finish], _⟩ => return ⟨← required? mode start, ← required? mode finish⟩

instance : Stored ObjectDefinition where
  write d := .record [("class_id", write d.classId), ("logical_name", write d.logicalName),
    ("attribute_index", write d.attributeIndex), ("data_index", write d.dataIndex)]
  read? mode document := do
    match ← document.fields? ["class_id", "logical_name", "attribute_index", "data_index"] with
    | ⟨[classId, logicalName, attributeIndex, dataIndex], _⟩ =>
      return {
        classId := ← required? mode classId
        logicalName := ← required? mode logicalName
        attributeIndex := ← required? mode attributeIndex
        dataIndex := ← required? mode dataIndex }

instance : Stored PushSetup where
  write s := .record [("push_object_list", write s.objects),
    ("send_destination_and_method", write s.destination),
    ("communication_windows", write s.windows),
    ("randomisation_start_interval", write s.randomisationStartInterval),
    ("number_of_retries", write s.numberOfRetries),
    ("repetition_delay", write s.repetitionDelay)]
  read? mode document := do
    match ← document.fields? ["push_object_list", "send_destination_and_method",
      "communication_windows", "randomisation_start_interval", "number_of_retries",
      "repetition_delay"] with
    | ⟨[objects, destination, windows, interval, retries, delay], _⟩ =>
      return {
        objects := ← optional? mode objects
        destination := ← optional? mode destination
        windows := ← optional? mode windows
        randomisationStartInterval := ← optional? mode interval
        numberOfRetries := ← optional? mode retries
        repetitionDelay := ← optional? mode delay }

end HeadEnd
