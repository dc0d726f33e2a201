import HeadEnd.Proofs.Stored.Basic
import HeadEnd.Stored.Request

/-! # Requests read back from documents

Whatever the data of a request are, the request is restored, as long as the text of each time in it
tells the time.
-/

namespace HeadEnd

open Stored

/-! ## Values of meters -/

instance : Restorable ObisCode :=
  ⟨fun _ => .of_record rfl (by simp [read?, ObisCode.bytes])⟩

instance : Restorable CosemDate :=
  ⟨fun _ => .of_record rfl (by simp [read?])⟩

instance : Restorable CosemDateTime :=
  ⟨fun _ => .of_record rfl (by simp [read?])⟩

/-! ## Data of requests -/

instance : Restorable Clock.LocalSetting :=
  ⟨fun _ => .of_record rfl (by simp [read?])⟩

instance : Restorable Clock.Configuration :=
  ⟨fun _ => .of_record rfl (by simp [read?])⟩

instance : Restorable SpecialDay :=
  ⟨fun _ => .of_record rfl (by simp [read?])⟩

instance : Restorable AlarmType :=
  ⟨.of_naming ⟨fun type => by cases type <;> decide, by decide⟩⟩

instance : Restorable AlarmNotification :=
  ⟨fun _ => .of_record rfl (by simp [read?])⟩

instance : Restorable TransportService := by
  refine ⟨fun service => ?_⟩
  cases service with
  | manufacturerSpecific code =>
      exact .of_variant rfl (fun _ _ => rfl) (fun mode => by cases mode <;> rfl) rfl
  | _ => exact ⟨fun _ => rfl, Document.noConfusion⟩

instance : Restorable MessageType := by
  refine ⟨fun type => ?_⟩
  cases type with
  | manufacturerSpecific code =>
      exact .of_variant rfl (fun _ _ => rfl) (fun mode => by cases mode <;> rfl) rfl
  | _ => exact ⟨fun _ => rfl, Document.noConfusion⟩

instance : Restorable PushDestination :=
  ⟨fun _ => .of_record rfl (by simp [read?])⟩

instance : Restorable PushWindow :=
  ⟨fun _ => .of_record rfl (by simp [read?])⟩

instance : Restorable ObjectDefinition :=
  ⟨fun _ => .of_record rfl (by simp [read?])⟩

instance : Restorable PushSetup :=
  ⟨fun _ => .of_record rfl (by simp [read?])⟩

instance : Restorable EventLog :=
  ⟨.of_naming ⟨fun log => by cases log <;> decide, by decide⟩⟩

instance : Restorable Period :=
  ⟨.of_naming ⟨fun period => by cases period <;> decide, by decide⟩⟩

instance : Restorable KeyPair :=
  ⟨fun _ => .of_record rfl (by simp [read?])⟩

instance : Restorable GprsMode :=
  ⟨.of_naming ⟨fun mode => by cases mode <;> decide, by decide⟩⟩

instance : Restorable ConfigurationFlag :=
  ⟨.of_naming ⟨fun flag => by cases flag <;> decide, by decide⟩⟩

instance : Restorable FlagSetting :=
  ⟨fun _ => .of_record rfl (by simp [read?])⟩

instance : Restorable ConfigurationObject :=
  ⟨fun _ => .of_record rfl (by simp [read?])⟩

/-! ### Queries -/

def Profile.Span.times (span : Profile.Span) : List ZonedTime :=
  [span.start, span.finish]

theorem Profile.Span.isRestored_ends {span : Profile.Span}
    (h : ∀ time ∈ span.times, time.IsStorable) :
    IsRestored span.start ∧ IsRestored span.finish := by
  refine ⟨isRestored_zonedTime (h _ ?_), isRestored_zonedTime (h _ ?_)⟩
  · exact List.mem_cons_self
  · exact List.mem_cons_of_mem _ List.mem_cons_self

theorem EventQuery.isRestored {query : EventQuery}
    (h : ∀ time ∈ query.span.times, time.IsStorable) : IsRestored query := by
  obtain ⟨hstart, hfinish⟩ := Profile.Span.isRestored_ends h
  exact .of_record rfl (by simp [read?, hstart, hfinish])

theorem ElectricityQuery.isRestored {query : ElectricityQuery}
    (h : ∀ time ∈ query.span.times, time.IsStorable) : IsRestored query := by
  obtain ⟨hstart, hfinish⟩ := Profile.Span.isRestored_ends h
  exact .of_record rfl (by simp [read?, hstart, hfinish])

theorem GasQuery.isRestored {query : GasQuery}
    (h : ∀ time ∈ query.span.times, time.IsStorable) : IsRestored query := by
  obtain ⟨hstart, hfinish⟩ := Profile.Span.isRestored_ends h
  exact .of_record rfl (by simp [read?, hstart, hfinish])

/-! ## Requests -/

instance : Restorable RequestKind :=
  ⟨.of_naming ⟨fun kind => by cases kind <;> decide, by decide⟩⟩

theorem readWrapped?_writeWrapped {α : Type} [Stored α] [Restorable α] (name : String)
    (items : List α) (mode : ReadMode) :
    readWrapped? name mode (writeWrapped name items) = some items := by
  simp [readWrapped?, writeWrapped]

theorem writeTagged_ne_null (kind : String) (payload : Option Document) :
    writeTagged kind payload ≠ .null := by
  cases payload <;> exact Document.noConfusion

theorem tagged?_writeTagged (kind : String) (payload : Option Document) (mode : ReadMode) :
    tagged? mode (writeTagged kind payload) = some ⟨.text kind, payload, .lenient⟩ := by
  cases payload <;> rfl

namespace Request

def times : Request → List ZonedTime
  | findEvents query => query.span.times
  | getPeriodicMeterReads query => query.span.times
  | getPeriodicMeterReadsGas query => query.span.times
  | _ => []

theorem ofPayload?_payload? {request : Request} (h : ∀ time ∈ request.times, time.IsStorable)
    (mode : ReadMode) : ofPayload? request.kind mode request.payload? = some request := by
  cases request with
  | findEvents query => simp [kind, payload?, ofPayload?, EventQuery.isRestored h]
  | getPeriodicMeterReads query =>
      simp [kind, payload?, ofPayload?, ElectricityQuery.isRestored h]
  | getPeriodicMeterReadsGas query => simp [kind, payload?, ofPayload?, GasQuery.isRestored h]
  | setSpecialDays days => simp [kind, payload?, ofPayload?, readWrapped?_writeWrapped]
  | setAlarmNotifications notifications =>
      simp [kind, payload?, ofPayload?, readWrapped?_writeWrapped]
  | getAdministrativeStatus | getPushSetupAlarm | getPushSetupSms | getAssociationLnObjects
  | getFirmwareVersions => rfl
  | _ => simp [kind, payload?, ofPayload?]

theorem isRestored {request : Request} (h : ∀ time ∈ request.times, time.IsStorable) :
    IsRestored request := by
  refine ⟨fun mode => ?_, ?_⟩
  · have hkind : read? mode (.text request.kind.name) = some request.kind :=
      (Stored.isRestored request.kind).read?_write mode
    change (tagged? mode (writeTagged _ _)).bind (fun tagged => (read? mode tagged.kind).bind
      fun kind => ofPayload? kind tagged.payloadMode tagged.payload) = _
    -- The payload of a record is read leniently, whatever the mode.
    rw [tagged?_writeTagged, Option.bind_some, hkind, Option.bind_some]
    exact ofPayload?_payload? h .lenient
  · exact writeTagged_ne_null _ _

end Request

end HeadEnd
