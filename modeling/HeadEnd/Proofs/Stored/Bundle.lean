import HeadEnd.Bundle.Run
import HeadEnd.Proofs.Key.Staging
import HeadEnd.Proofs.Stored.Request
import HeadEnd.Stored.Response

/-! # Bundles and devices read back from documents

A bundle is restored with the responses that it has so far, and so is the record of a device with
its keys. Work on a bundle therefore goes on as if the bundle had never been stored.
-/

namespace HeadEnd

open Stored

/-! ## Data of responses -/

instance : Restorable AdministrativeStatus :=
  ⟨.of_naming ⟨fun status => by cases status <;> decide, by decide⟩⟩

instance : Restorable MeasureUnit :=
  ⟨.of_naming ⟨fun unit => by cases unit <;> decide, by decide +kernel⟩⟩

instance : Restorable ScaledValue :=
  ⟨fun _ => .of_record rfl (by simp [read?])⟩

instance : Restorable MeterValue :=
  ⟨fun _ => .of_record rfl (by simp [read?])⟩

instance : Restorable ProfileFlag :=
  ⟨.of_naming ⟨fun flag => by cases flag <;> decide, by decide⟩⟩

instance : Restorable Association.AttributeAccess :=
  ⟨.of_naming ⟨fun access => by cases access <;> decide, by decide⟩⟩

instance : Restorable Association.MethodAccess :=
  ⟨.of_naming ⟨fun access => by cases access <;> decide, by decide⟩⟩

instance : Restorable Association.AttributeItem :=
  ⟨fun _ => .of_record rfl (by simp [read?])⟩

instance : Restorable Association.MethodItem :=
  ⟨fun _ => .of_record rfl (by simp [read?])⟩

instance : Restorable Association.AccessRights :=
  ⟨fun _ => .of_record rfl (by simp [read?])⟩

instance : Restorable Association.ObjectItem :=
  ⟨fun _ => .of_record rfl (by simp [read?])⟩

instance : Restorable FirmwareModule :=
  ⟨.of_naming ⟨fun type => by cases type <;> decide, by decide⟩⟩

instance : Restorable FirmwareVersion :=
  ⟨fun _ => .of_record rfl (by simp [read?])⟩

instance : Restorable FaultParameter :=
  ⟨fun _ => .of_record rfl (by simp [read?])⟩

instance : Restorable Fault :=
  ⟨fun _ => .of_record rfl (by simp [read?])⟩

/-! ### Data with times -/

theorem Event.isRestored {event : Event} (h : event.time.IsStorable) : IsRestored event := by
  have htime := isRestored_zonedTime h
  exact .of_record rfl (by simp [read?, htime])

theorem ElectricityRead.isRestored {read : ElectricityRead} (h : read.logTime.IsStorable) :
    IsRestored read := by
  have htime := isRestored_zonedTime h
  exact .of_record rfl (by simp [read?, htime])

theorem ElectricityReads.isRestored {reads : ElectricityReads}
    (h : ∀ read ∈ reads.reads, read.logTime.IsStorable) : IsRestored reads := by
  have hreads : IsRestored reads.reads := .list fun read hread =>
    ElectricityRead.isRestored (h read hread)
  exact .of_record rfl (by simp [read?, hreads])

theorem GasRead.isRestored {read : GasRead} (hlog : read.logTime.IsStorable)
    (hcapture : read.captureTime.IsStorable) : IsRestored read := by
  have hlog' := isRestored_zonedTime hlog
  have hcapture' := isRestored_zonedTime hcapture
  exact .of_record rfl (by simp [read?, hlog', hcapture'])

theorem GasReads.isRestored {reads : GasReads}
    (h : ∀ read ∈ reads.reads, read.logTime.IsStorable ∧ read.captureTime.IsStorable) :
    IsRestored reads := by
  have hreads : IsRestored reads.reads :=
    .list fun read hread => GasRead.isRestored (h read hread).1 (h read hread).2
  exact .of_record rfl (by simp [read?, hreads])

/-! ## Responses -/

namespace Response

def times : Response → List ZonedTime
  | events list => list.map Event.time
  | periodicMeterReads reads => reads.reads.map ElectricityRead.logTime
  | periodicMeterReadsGas reads => reads.reads.flatMap fun read => [read.logTime, read.captureTime]
  | _ => []

theorem map_read?_write {α : Type} [Stored α] {a : α} (h : IsRestored a) (make : α → Response)
    (mode : ReadMode) : (read? mode (write a)).map make = some (make a) := by
  rw [h.read?_write, Option.map_some]

/-- The reader that the name of its kind stands for reads the payload of a response. -/
theorem exists_reader {response : Response} (h : ∀ time ∈ response.times, time.IsStorable)
    (mode : ReadMode) : ∃ reader,
      readName? readers Prod.fst mode (.text response.kindName) =
          some (response.kindName, reader) ∧
        reader .lenient response.payload = some response := by
  cases response with
  | ok message => exact ⟨_, rfl, rfl⟩
  | administrativeStatus status =>
      exact ⟨_, rfl, map_read?_write (Stored.isRestored status) administrativeStatus .lenient⟩
  | events list =>
      have hlist : IsRestored list := .list fun event hevent =>
        Event.isRestored (h event.time (List.mem_map_of_mem hevent))
      exact ⟨_, rfl, map_read?_write hlist events .lenient⟩
  | periodicMeterReads reads =>
      have hreads : IsRestored reads := ElectricityReads.isRestored fun read hread =>
        h read.logTime (List.mem_map_of_mem hread)
      exact ⟨_, rfl, map_read?_write hreads periodicMeterReads .lenient⟩
  | periodicMeterReadsGas reads =>
      have hreads : IsRestored reads := GasReads.isRestored fun read hread =>
        ⟨h _ (List.mem_flatMap.mpr ⟨read, hread, by simp⟩),
          h _ (List.mem_flatMap.mpr ⟨read, hread, by simp⟩)⟩
      exact ⟨_, rfl, map_read?_write hreads periodicMeterReadsGas .lenient⟩
  | pushSetup setup =>
      exact ⟨_, rfl, map_read?_write (Stored.isRestored setup) pushSetup .lenient⟩
  | associationLnObjects objects =>
      exact ⟨_, rfl, map_read?_write (Stored.isRestored objects) associationLnObjects .lenient⟩
  | firmwareVersions versions =>
      exact ⟨_, rfl, map_read?_write (Stored.isRestored versions) firmwareVersions .lenient⟩
  | fault fault =>
      exact ⟨_, rfl, map_read?_write (Stored.isRestored fault) Response.fault .lenient⟩

theorem isRestored {response : Response} (h : ∀ time ∈ response.times, time.IsStorable) :
    IsRestored response := by
  refine ⟨fun mode => ?_, ?_⟩
  · obtain ⟨reader, hreader, hread⟩ := exists_reader h mode
    change (tagged? mode (writeTagged _ _)).bind (fun tagged =>
      (readName? readers Prod.fst mode tagged.kind).bind fun found =>
        tagged.payload.bind fun payload => found.2 tagged.payloadMode payload) = _
    rw [tagged?_writeTagged, Option.bind_some, hreader]
    exact hread
  · exact writeTagged_ne_null _ _

end Response

/-! ## Bundles -/

def Action.times (action : Action) : List ZonedTime :=
  action.request.times ++ (action.response.map Response.times).getD []

theorem Action.isRestored {action : Action} (h : ∀ time ∈ action.times, time.IsStorable) :
    IsRestored action := by
  have hrequest : IsRestored action.request :=
    Request.isRestored fun time htime => h time (List.mem_append_left _ htime)
  have hresponse : ∀ response ∈ action.response, IsRestored response := by
    intro response hresponse
    refine Response.isRestored fun time htime => h time (List.mem_append_right _ ?_)
    rw [Option.mem_def.mp hresponse]
    exact htime
  exact .of_record rfl (by simp [read?, hrequest, optional?_write hresponse])

namespace Bundle

def times (bundle : Bundle) : List ZonedTime :=
  bundle.actions.flatMap Action.times

theorem isRestored {bundle : Bundle} (h : ∀ time ∈ bundle.times, time.IsStorable) :
    IsRestored bundle := by
  have hactions : IsRestored bundle.actions := .list fun action haction =>
    Action.isRestored fun time htime => h time (List.mem_flatMap.mpr ⟨action, haction, htime⟩)
  exact .of_record rfl (by simp [read?, hactions])

end Bundle

/-! ## Devices -/

instance : Restorable KeyKind :=
  ⟨.of_naming ⟨fun kind => by cases kind <;> decide, by decide⟩⟩

def SecurityKey.times (key : SecurityKey) : List Instant :=
  key.validFrom.toList ++ key.validTo.toList

theorem SecurityKey.isRestored {key : SecurityKey}
    (h : ∀ t ∈ key.times, (ZonedTime.utc t).IsStorable) : IsRestored key := by
  have hfrom : ∀ t ∈ key.validFrom, IsRestored t := fun t ht =>
    isRestored_instant (h t (List.mem_append_left _ (Option.mem_toList.mpr ht)))
  have hto : ∀ t ∈ key.validTo, IsRestored t := fun t ht =>
    isRestored_instant (h t (List.mem_append_right _ (Option.mem_toList.mpr ht)))
  exact .of_record rfl (by simp [read?, optional?_write hfrom, optional?_write hto])

def Device.times (device : Device) : List Instant :=
  device.keys.flatMap SecurityKey.times

theorem Device.isRestored {device : Device}
    (h : ∀ t ∈ device.times, (ZonedTime.utc t).IsStorable) : IsRestored device := by
  have hkeys : IsRestored device.keys := .list fun key hkey =>
    SecurityKey.isRestored fun t ht => h t (List.mem_flatMap.mpr ⟨key, hkey, ht⟩)
  exact .of_record rfl (by simp [read?, hkeys])

/-! ## Stored and taken up again -/

/-- A bundle that was stored is the same bundle when it is read back, so that a run goes on with it
as it would have gone on with the bundle itself; and a stored device record is read back as it was.
The times have to be those that their texts denote (`Rfc3339.read?_stored_iff`). -/
theorem Bundle.reloads_unchanged :
    (∀ bundle : Bundle, (∀ time ∈ bundle.times, time.IsStorable) →
      ofDocument? (write bundle) = some bundle ∧
      (∀ mode, read? mode (write bundle) = some bundle) ∧
      ∀ mode registry settings, (read? mode (write bundle)).map (Bundle.run registry settings) =
        some (bundle.run registry settings)) ∧
    ∀ device : Device, (∀ t ∈ device.times, (ZonedTime.utc t).IsStorable) →
      ∀ mode, read? mode (write device) = some device := by
  refine ⟨fun bundle htimes => ?_, fun device htimes => ?_⟩
  · have hbundle := (Bundle.isRestored htimes).read?_write
    refine ⟨hbundle .strict, hbundle, fun mode registry settings => ?_⟩
    rw [hbundle, Option.map_some]
  · exact (Device.isRestored htimes).read?_write

/-- A bundle with one request that was answered, one that was refused and one that is left. -/
def interruptedBundle : Bundle where
  actions := [
    { request := .findEvents
        ⟨.mBus, ⟨⟨⟨1483228799, 1500000000⟩, -12600⟩, ⟨⟨253402300800, 5000⟩, 0⟩⟩⟩
      response := some (.events [⟨⟨⟨-62198755200, 250000000⟩, 7200⟩, 47, none, .mBus⟩]) },
    { request := .setPushSetupSms ⟨some [⟨8, ⟨0, 0, 1, 0, 0, 255⟩, -2, 0⟩],
        some ⟨.manufacturerSpecific 200, "+31", .manufacturerSpecific 128⟩, none, some 0, none,
        none⟩
      response := some (.fault ⟨some 3, "denied", "adapter", some "DlmsAccess", none,
        [⟨"deviceIdentification", "meter"⟩]⟩) },
    { request := .setKeys ⟨[0, 127, 255], []⟩ }]

theorem Bundle.reloads_unchanged_of_interrupted :
    (∀ time ∈ interruptedBundle.times, time.IsStorable) ∧
      read? .strict (write interruptedBundle) = some interruptedBundle ∧
      (∀ t ∈ keyedDevice.times, (ZonedTime.utc t).IsStorable) ∧
      read? .strict (write keyedDevice) = some keyedDevice := by
  have htimes : ∀ time ∈ interruptedBundle.times, time.IsStorable := by decide
  have hkeys : ∀ t ∈ keyedDevice.times, (ZonedTime.utc t).IsStorable := by decide
  exact ⟨htimes, (reloads_unchanged.1 interruptedBundle htimes).2.1 .strict, hkeys,
    reloads_unchanged.2 keyedDevice hkeys .strict⟩

end HeadEnd
