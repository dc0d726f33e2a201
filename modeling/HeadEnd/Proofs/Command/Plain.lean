import HeadEnd.Proofs.Dialogue.Task
import HeadEnd.Proofs.Failure.Lossless

/-! # Plain operations

Most commands are put together of a few pieces. What holds of each of the pieces, and goes on to hold
when one follows another, holds of these commands.
-/

namespace HeadEnd

namespace Operation

/-- The operation reads the clock, reads and writes attributes, and says what it does. It fails where
the world fails or what it has read is not as it should be, and keeps the device record as it is.
Whether the meter answers requests for several attributes at once matters to `readAll` only. -/
inductive IsPlain : {α : Type} → Operation α → Prop where
  | pure {α : Type} (a : α) : IsPlain (pure a)
  | throw {α : Type} {failure : Failure} : failure.isConnectionLoss = false →
      IsPlain (throw failure : Operation α)
  | lift {α : Type} {outcome : Outcome α} : Lossless outcome → IsPlain (liftM outcome)
  | now : IsPlain now
  | describe (text : String) : IsPlain (describe text)
  | readAttribute (address : AttributeAddress) : IsPlain (readAttribute address)
  | readAll (addresses : List AttributeAddress) : IsPlain (readAll addresses)
  | writeAttribute (address : AttributeAddress) (value : Value) :
      IsPlain (writeAttribute address value)
  | get {α : Type} {f : Device → Operation α} : (∀ device, IsPlain (f device)) →
      (∀ device batched, f { device with supportsBatchedRead := batched } = f device) →
      IsPlain (get >>= f)
  | bind {α β : Type} {x : Operation α} {f : α → Operation β} : IsPlain x →
      (∀ a, IsPlain (f a)) → IsPlain (x >>= f)

variable {α β : Type}

theorem isPlain_mapM {f : α → Operation β} (hf : ∀ a, IsPlain (f a)) (xs : List α) :
    IsPlain (xs.mapM f) := by
  induction xs with
  | nil => exact .pure []
  | cons a xs ih =>
      rw [List.mapM_cons]
      exact (hf a).bind fun b => ih.bind fun bs => .pure (b :: bs)

theorem isPlain_readChecked (context : String) (addresses : List AttributeAddress) :
    IsPlain (readChecked context addresses) := by
  refine (IsPlain.readAll addresses).bind fun results => ?_
  exact (IsPlain.lift (lossless_checkAll context results.val)).bind fun _ => .pure results

theorem isPlain_readValues (context : String) (addresses : List AttributeAddress) :
    IsPlain (readValues context addresses) :=
  (isPlain_readChecked context addresses).bind fun _ => .pure _

theorem isPlain_readValue (context : String) (address : AttributeAddress) :
    IsPlain (readValue context address) :=
  (isPlain_readValues context [address]).bind fun
    | ⟨[_], _⟩ => .pure _

end Operation

open Operation

/-! ## Reading -/

theorem AdministrativeStatus.isPlain_fetch : IsPlain AdministrativeStatus.fetch := by
  refine (IsPlain.describe _).bind fun _ => ?_
  refine (isPlain_readValue _ _).bind fun value => ?_
  refine (IsPlain.lift (value.lossless_toInteger? _)).bind fun code => ?_
  cases code with
  | none => exact .throw rfl
  | some code => exact .pure _

theorem PushSetup.isPlain_fetch (target : PushTarget) : IsPlain (PushSetup.fetch target) := by
  refine (IsPlain.describe _).bind fun _ => ?_
  refine (isPlain_readValues _ _).bind fun
    | ⟨[objects, destination, windows, interval, retries, delay], _⟩ => ?_
  refine (IsPlain.lift (objects.lossless_toObjectDefinitions _)).bind fun _ => ?_
  refine (IsPlain.lift (destination.lossless_toPushDestination _)).bind fun _ => ?_
  refine (IsPlain.lift (windows.lossless_toPushWindows _)).bind fun _ => ?_
  refine (IsPlain.lift (interval.lossless_toNarrow? _)).bind fun _ => ?_
  refine (IsPlain.lift (retries.lossless_toNarrow? _)).bind fun _ => ?_
  exact (IsPlain.lift (delay.lossless_toNarrow? _)).bind fun _ => .pure _

theorem EventQuery.isPlain_fetch (query : EventQuery) : IsPlain query.fetch := by
  refine (IsPlain.lift (Profile.lossless_rangeSelection _ _)).bind fun selection => ?_
  refine (IsPlain.describe _).bind fun _ => ?_
  exact (isPlain_readValue _ _).bind fun buffer => .lift (query.lossless_readBuffer buffer)

theorem ElectricityQuery.isPlain_fetch (query : ElectricityQuery) : IsPlain query.fetch := by
  refine (IsPlain.lift query.lossless_scalerUnitAddress).bind fun scalerUnitAddress => ?_
  refine IsPlain.get (fun device => ?_) fun _ _ => rfl
  refine (IsPlain.lift (query.lossless_bufferAddress _)).bind fun bufferAddress => ?_
  refine (IsPlain.describe _).bind fun _ => ?_
  refine (isPlain_readValue _ _).bind fun buffer => ?_
  refine (IsPlain.describe _).bind fun _ => ?_
  refine (IsPlain.readAttribute _).bind fun scalerUnit => ?_
  refine (IsPlain.lift (scalerUnit.result.lossless_check _)).bind fun _ => ?_
  exact (IsPlain.lift (query.lossless_readBuffer buffer _)).bind fun _ => .pure _

theorem GasQuery.isPlain_fetch (query : GasQuery) : IsPlain query.fetch := by
  refine (IsPlain.lift (Profile.lossless_checkChannel _)).bind fun _ => ?_
  refine IsPlain.get (fun device => ?_) fun _ _ => rfl
  refine (IsPlain.lift (query.lossless_bufferAddress _)).bind fun bufferAddress => ?_
  refine (IsPlain.describe _).bind fun _ => ?_
  refine (isPlain_readValue _ _).bind fun buffer => ?_
  refine (IsPlain.describe _).bind fun _ => ?_
  refine (isPlain_readValue _ _).bind fun scalerUnit => ?_
  exact (IsPlain.lift (query.lossless_readBuffer _ buffer scalerUnit)).bind fun _ => .pure _

theorem FirmwareVersion.isPlain_fetchAll : IsPlain FirmwareVersion.fetchAll := by
  refine (IsPlain.describe _).bind fun _ => ?_
  refine (isPlain_readValues _ _).bind fun values => .lift ?_
  exact lossless_mapM (fun (type, value) => lossless_ofValue type value) _

namespace Association

theorem isPlain_fetchObjects : IsPlain fetchObjects := by
  refine (IsPlain.describe _).bind fun _ => ?_
  exact (isPlain_readValue _ _).bind fun value => .lift (lossless_readObjects value _)

theorem isPlain_dumpObject (object : ObjectItem) : IsPlain (dumpObject object) := by
  unfold dumpObject
  split
  · exact .pure ""
  · refine (IsPlain.describe _).bind fun _ => ?_
    exact (IsPlain.readAll _).bind fun _ => .pure _

theorem isPlain_dump : IsPlain dump := by
  refine (IsPlain.describe _).bind fun _ => ?_
  refine (isPlain_readValue _ _).bind fun value => ?_
  refine (IsPlain.lift (lossless_readObjects value _)).bind fun objects => ?_
  exact (isPlain_mapM isPlain_dumpObject objects).bind fun _ => .pure _

end Association

/-! ## Writing -/

namespace Clock

theorem isPlain_synchronize (setting : LocalSetting) : IsPlain (synchronize setting) := by
  refine IsPlain.now.bind fun now => ?_
  refine (IsPlain.lift (lossless_ofData _)).bind fun time => ?_
  exact (IsPlain.describe _).bind fun _ => .writeAttribute _ _

theorem isPlain_writeSetting (id : Int8) (value : Value) (name : String) :
    IsPlain (writeSetting id value name) := by
  refine (IsPlain.describe _).bind fun _ => ?_
  exact (IsPlain.writeAttribute _ _).bind fun result => .lift (result.lossless_check _)

theorem isPlain_configure (c : Configuration) : IsPlain (configure c) := by
  refine (IsPlain.lift (lossless_zoneDeviation _)).bind fun zone => ?_
  refine (isPlain_writeSetting _ _ _).bind fun _ => ?_
  refine (isPlain_writeSetting _ _ _).bind fun _ => ?_
  refine (isPlain_writeSetting _ _ _).bind fun _ => ?_
  refine (isPlain_readValue _ _).bind fun value => ?_
  refine (IsPlain.lift (value.lossless_toNarrow _)).bind fun current => ?_
  dsimp only
  split
  · exact (isPlain_writeSetting _ _ _).bind fun _ => isPlain_writeSetting _ _ _
  · exact isPlain_writeSetting _ _ _

end Clock

theorem SpecialDay.isPlain_install (days : List SpecialDay) : IsPlain (SpecialDay.install days) := by
  refine (IsPlain.lift (lossless_table days)).bind fun table => ?_
  exact (IsPlain.describe _).bind fun _ => .writeAttribute _ _

theorem AlarmNotifications.isPlain_install (notifications : List AlarmNotification) :
    IsPlain (AlarmNotifications.install notifications) := by
  refine (IsPlain.describe _).bind fun _ => ?_
  refine (isPlain_readValue _ _).bind fun value => ?_
  refine (IsPlain.lift (value.lossless_toNarrow _)).bind fun current => ?_
  dsimp only
  split
  · exact .pure _
  · exact (IsPlain.describe _).bind fun _ => .writeAttribute _ _

namespace PushSetup

theorem isPlain_writeSetting (target : PushTarget) (id : Int8) (value : Value) :
    IsPlain (writeSetting target id value) :=
  (IsPlain.describe _).bind fun _ => .writeAttribute _ _

theorem isPlain_install (target : PushTarget) (setup : PushSetup) :
    IsPlain (install target setup) := by
  unfold install
  split
  · refine (isPlain_writeSetting _ _ _).bind fun result => ?_
    split
    · exact .pure _
    · split
      · exact isPlain_writeSetting _ _ _
      · exact .pure _
  · exact .throw rfl

end PushSetup

theorem ConfigurationObject.isPlain_install (requested : ConfigurationObject) :
    IsPlain (ConfigurationObject.install requested) := by
  refine (IsPlain.describe _).bind fun _ => ?_
  refine (isPlain_readValue _ _).bind fun value => ?_
  refine (IsPlain.lift (lossless_ofValue value)).bind fun current => ?_
  exact (IsPlain.describe _).bind fun _ => .writeAttribute _ _

/-! ## Commands -/

namespace Command

/-- The operation of the command is plain, and its response may tell of a refusal but not of a loss
of the connection. -/
structure IsPlain (command : Command) : Prop where
  execute : ∀ input, Operation.IsPlain (command.execute input)
  respond : ∀ handling, command.handling = some handling → ∀ output,
    Lossless (handling.respond output)

variable {command : Command}

theorem IsPlain.of_respond {handling : Handling command.Input command.Output}
    (hhandling : command.handling = some handling)
    (hexecute : ∀ input, Operation.IsPlain (command.execute input))
    (hrespond : ∀ output, Lossless (handling.respond output)) : command.IsPlain where
  execute := hexecute
  respond other hother := by
    obtain rfl : handling = other := Option.some.inj (hhandling.symm.trans hother)
    exact hrespond

theorem IsPlain.handle (h : command.IsPlain) (request : Request) :
    Operation.IsPlain (command.handle request) := by
  unfold Command.handle
  split
  · exact .throw rfl
  · rename_i handling hhandling
    split
    · exact .throw rfl
    · exact (h.execute _).bind fun output => .lift (h.respond handling hhandling output)

/-- Only the command that replaces keys is not plain. -/
theorem isPlain_of_mem (hcommand : command ∈ handlers) : command = setKeys ∨ command.IsPlain := by
  simp only [handlers, List.mem_cons, List.not_mem_nil, or_false] at hcommand
  obtain rfl | rfl | rfl | rfl | rfl | rfl | rfl | rfl | rfl | rfl | rfl | rfl | rfl | rfl | rfl |
    rfl := hcommand
  · exact .inr (.of_respond rfl (fun _ => AdministrativeStatus.isPlain_fetch) fun _ => lossless_ok _)
  · exact .inr (.of_respond rfl Clock.isPlain_synchronize (lossless_confirmWrite _ _))
  · exact .inr (.of_respond rfl Clock.isPlain_configure fun _ => lossless_ok _)
  · exact .inr (.of_respond rfl SpecialDay.isPlain_install (lossless_confirmWrite _ _))
  · exact .inr (.of_respond rfl AlarmNotifications.isPlain_install (lossless_confirmWrite _ _))
  · exact .inr (.of_respond rfl (fun _ => PushSetup.isPlain_fetch .alarm) fun _ => lossless_ok _)
  · exact .inr (.of_respond rfl (fun _ => PushSetup.isPlain_fetch .sms) fun _ => lossless_ok _)
  · exact .inr (.of_respond rfl (PushSetup.isPlain_install .alarm) (lossless_confirmWrite _ _))
  · exact .inr (.of_respond rfl (PushSetup.isPlain_install .sms) (lossless_confirmWrite _ _))
  · exact .inr (.of_respond rfl EventQuery.isPlain_fetch fun _ => lossless_ok _)
  · exact .inr (.of_respond rfl ElectricityQuery.isPlain_fetch fun _ => lossless_ok _)
  · exact .inr (.of_respond rfl GasQuery.isPlain_fetch fun _ => lossless_ok _)
  · exact .inr (.of_respond rfl (fun _ => Association.isPlain_fetchObjects) fun _ => lossless_ok _)
  · exact .inl rfl
  · exact .inr (.of_respond rfl ConfigurationObject.isPlain_install (lossless_confirmWrite _ _))
  · exact .inr (.of_respond rfl (fun _ => FirmwareVersion.isPlain_fetchAll) fun _ => lossless_ok _)

end Command

end HeadEnd
