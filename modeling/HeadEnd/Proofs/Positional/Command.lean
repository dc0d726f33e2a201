import HeadEnd.Command.Catalogue
import HeadEnd.Proofs.Positional.Configuration
import HeadEnd.Proofs.Positional.Profile

/-! # Commands by position

Every command, with the results of the meter and all that they hold picked by position. Whatever the
meter answers, none of these programs breaks off if the times of the request have a local time.
-/

namespace HeadEnd.Breakable

variable {α β : Type}

/-! ## Results -/

/-- A reading as a part of an operation. -/
def access (x : Breakable Outcome α) : Breakable Operation α :=
  ExceptT.mk (Operation.ofOutcome x.run)

@[simp] theorem access_pure (a : α) : access (pure a) = pure a := rfl

@[simp] theorem access_intact (outcome : Outcome α) :
    access (intact outcome) = intact (liftM outcome : Operation α) := by
  cases outcome with
  | ok a => rfl
  | error failure => rfl

/-- What goes on with an outcome goes on with the result that there is. -/
theorem intact_lift_bind {outcome : Outcome α} {f g : α → Breakable Operation β}
    (h : ∀ a, outcome = .ok a → f a = g a) :
    intact (liftM outcome : Operation α) >>= f = intact (liftM outcome : Operation α) >>= g := by
  cases outcome with
  | ok a => exact h a rfl
  | error failure => rfl

def readResults (context : String) (addresses : List AttributeAddress) :
    Breakable Operation (List GetResult) :=
  Subtype.val <$> intact (Operation.readChecked context addresses)

def valueAt (results : List GetResult) (position : Nat) : Breakable Operation Value :=
  GetResult.value <$> elementAt results position

@[simp] theorem valueAt_zero (result : GetResult) (results : List GetResult) :
    valueAt (result :: results) 0 = pure result.value := rfl

/-- What goes on with several values may pick their results by position. -/
theorem readResults_bind {context : String} {addresses : List AttributeAddress}
    {byForm : { values : List Value // values.length = addresses.length } → Breakable Operation α}
    {byPosition : List GetResult → Breakable Operation α}
    (h : ∀ (results : List GetResult) (hlength : results.length = addresses.length),
      byPosition results = byForm ⟨results.map GetResult.value, by simpa using hlength⟩) :
    readResults context addresses >>= byPosition =
      intact (Operation.readValues context addresses) >>= byForm := by
  simp only [readResults, Operation.readValues, bind_map_left, bind_assoc, pure_bind, intact_bind,
    intact_pure]
  -- `readAll` has compared the number of results with the number of addresses.
  exact bind_congr fun results => h results.val results.property

/-- What goes on with the value of an attribute may pick its result by position. -/
theorem readResult_bind {context : String} {address : AttributeAddress}
    {byForm : Value → Breakable Operation α} {byPosition : List GetResult → Breakable Operation α}
    (h : ∀ result : GetResult, byPosition [result] = byForm result.value) :
    readResults context [address] >>= byPosition =
      intact (Operation.readValue context address) >>= byForm := by
  rw [Operation.readValue, intact_bind, bind_assoc]
  refine readResults_bind fun results hlength => ?_
  match results, hlength with
  | [result], _ => simp only [h, intact_pure, pure_bind, List.map_cons, List.map_nil]

/-! ## Commands that read -/

def fetchStatus : Breakable Operation AdministrativeStatus := do
  intact (Operation.describe
    ("GetAdministrativeStatus, retrieve attribute: " ++ AdministrativeStatus.address.text))
  let results ← readResults "administrative status" [AdministrativeStatus.address]
  let value ← valueAt results 0
  match ← access (reading (value.toInteger? "administrative status")) with
  | some code => return .ofCode code
  | none => access (fail (.protocol .noAdministrativeStatus))

theorem fetchStatus_eq : fetchStatus = intact AdministrativeStatus.fetch := by
  simp only [fetchStatus, AdministrativeStatus.fetch, intact_bind]
  refine bind_congr fun _ => readResult_bind fun result => ?_
  simp only [valueAt_zero, pure_bind, reading_eq, fail_eq, access_intact]
  refine bind_congr fun code? => ?_
  cases code? with
  | some code => rfl
  | none => rfl

/-- The value of an attribute of a push setup, found by its number. -/
def settingAt (results : List GetResult) (id : Int8) : Breakable Operation Value := do
  valueAt results (← difference id.toInt 2)

theorem settingAt_eq {results : List GetResult} {id : Int8} {result : GetResult}
    (hid : 2 ≤ id.toInt) (h : results[(id.toInt - 2).toNat]? = some result) :
    settingAt results id = pure result.value := by
  rw [settingAt, difference_of_le hid, pure_bind, valueAt, elementAt_of_getElem? h, map_pure]

/-- The attributes from 2 to 7 stand at the positions from 0 to 5. -/
theorem settingAt_attributes (r2 r3 r4 r5 r6 r7 : GetResult) :
    settingAt [r2, r3, r4, r5, r6, r7] 2 = pure r2.value ∧
      settingAt [r2, r3, r4, r5, r6, r7] 3 = pure r3.value ∧
      settingAt [r2, r3, r4, r5, r6, r7] 4 = pure r4.value ∧
      settingAt [r2, r3, r4, r5, r6, r7] 5 = pure r5.value ∧
      settingAt [r2, r3, r4, r5, r6, r7] 6 = pure r6.value ∧
      settingAt [r2, r3, r4, r5, r6, r7] 7 = pure r7.value :=
  ⟨settingAt_eq (by decide) rfl, settingAt_eq (by decide) rfl, settingAt_eq (by decide) rfl,
    settingAt_eq (by decide) rfl, settingAt_eq (by decide) rfl, settingAt_eq (by decide) rfl⟩

def fetchPushSetup (target : PushTarget) : Breakable Operation PushSetup := do
  let addresses := [2, 3, 4, 5, 6, 7].map (PushSetup.address target)
  intact (Operation.describe (PushSetup.fetchName target ++ ", retrieve attributes: " ++
    AttributeAddress.textOfList addresses))
  let context := "push setup " ++ target.label
  let results ← readResults context addresses
  let objects ← access
    (toObjectDefinitions (← settingAt results 2) ("Push Object List of " ++ context))
  let destination ← access
    (toPushDestination (← settingAt results 3) ("Send Destination And Method of " ++ context))
  let windows ← access
    (toPushWindows (← settingAt results 4) ("Communication Window of " ++ context))
  let interval ← access
    (reading ((← settingAt results 5).toNarrow? ("Randomisation Start Interval of " ++ context)))
  let retries ← access
    (reading ((← settingAt results 6).toNarrow? ("Number of Retries of " ++ context)))
  let delay ← access
    (reading ((← settingAt results 7).toNarrow? ("Repetition Delay of " ++ context)))
  return {
    objects := some objects
    destination := some destination
    windows := some windows
    randomisationStartInterval := interval
    numberOfRetries := retries
    repetitionDelay := delay }

theorem fetchPushSetup_eq (target : PushTarget) :
    fetchPushSetup target = intact (PushSetup.fetch target) := by
  simp only [fetchPushSetup, PushSetup.fetch, intact_bind]
  refine bind_congr fun _ => readResults_bind fun results hlength => ?_
  match results, hlength with
  | [objects, destination, windows, interval, retries, delay], _ =>
    obtain ⟨h2, h3, h4, h5, h6, h7⟩ :=
      settingAt_attributes objects destination windows interval retries delay
    simp only [h2, h3, h4, h5, h6, h7, pure_bind, toObjectDefinitions_eq, toPushDestination_eq,
      toPushWindows_eq, reading_eq, access_intact, List.map_cons, List.map_nil, intact_bind,
      intact_pure]

def fetchEvents (query : EventQuery) : Breakable Operation (List Event) := do
  let selection ← access (rangeSelection query.span [])
  let address : AttributeAddress :=
    { Profile.bufferAddress query.log.logicalName with selection := some selection }
  intact (Operation.describe
    ("RetrieveEvents for " ++ query.log.name ++ " from " ++ (← access (shown query.span.start)) ++
      " until " ++ (← access (shown query.span.finish)) ++ ", retrieve attribute: " ++
      address.text))
  let results ← readResults ("events for " ++ query.log.name) [address]
  access (readEvents query (← valueAt results 0))

theorem fetchEvents_eq {query : EventQuery} (h : query.span.HasLocalTimes) :
    fetchEvents query = intact query.fetch := by
  simp only [fetchEvents, EventQuery.fetch, rangeSelection_eq h, shown_eq h.1, shown_eq h.2,
    access_intact, access_pure, pure_bind, intact_bind]
  refine bind_congr fun selection => bind_congr fun _ => readResult_bind fun result => ?_
  simp only [valueAt_zero, pure_bind, readEvents_eq, access_intact]

def bufferAddress (profile : ObisCode) (span : Profile.Span) (columns : List Value)
    (selective : Bool) : Breakable Outcome AttributeAddress := do
  let address := Profile.bufferAddress profile
  if selective then
    let selection ← rangeSelection span columns
    return { address with selection := some selection }
  else return address

theorem bufferAddress_eq {span : Profile.Span} (h : span.HasLocalTimes) (profile : ObisCode)
    (columns : List Value) (selective : Bool) :
    bufferAddress profile span columns selective = intact (do
      let address := Profile.bufferAddress profile
      if selective then
        let selection ← Profile.rangeSelection span columns
        return { address with selection := some selection }
      else return address) := by
  unfold bufferAddress
  cases selective with
  | true => simp only [if_true, rangeSelection_eq h, intact_bind, intact_pure]
  | false => rfl

def fetchElectricity (query : ElectricityQuery) : Breakable Operation ElectricityReads := do
  let scalerUnitAddress ← access (reading query.scalerUnitAddress)
  let device ← intact get
  let address ← access (bufferAddress query.period.logicalName query.span
    (ElectricityQuery.columns query.period) device.supportsSelectiveAccess)
  intact (Operation.describe
    ("GetPeriodicMeterReads " ++ query.period.name ++ " from " ++
      (← access (shown query.span.start)) ++ " until " ++ (← access (shown query.span.finish)) ++
      ", retrieve attribute: " ++ address.text))
  let results ← readResults "periodic meter reads" [address]
  intact (Operation.describe
    ("GetPeriodicMeterReads scaler and unit, retrieve attribute: " ++ scalerUnitAddress.text))
  let scalerUnit ← intact (Operation.readAttribute scalerUnitAddress)
  access (reading (scalerUnit.result.check "scaler and unit of periodic meter reads"))
  let buffer ← valueAt results 0
  return ⟨query.period, ← access (readElectricity query buffer scalerUnit.value)⟩

theorem fetchElectricity_eq {query : ElectricityQuery} (h : query.span.HasLocalTimes) :
    fetchElectricity query = intact query.fetch := by
  simp only [fetchElectricity, ElectricityQuery.fetch, ElectricityQuery.bufferAddress,
    bufferAddress_eq h, shown_eq h.1, shown_eq h.2, reading_eq, access_intact, access_pure,
    pure_bind, intact_bind]
  refine bind_congr fun scalerUnitAddress => bind_congr fun device =>
    bind_congr fun address => bind_congr fun _ => readResult_bind fun buffer => ?_
  simp only [valueAt_zero, pure_bind, readElectricity_eq h, access_intact, intact_pure]

def fetchGas (query : GasQuery) : Breakable Operation GasReads := do
  access (reading (Profile.checkChannel query.channel))
  let device ← intact get
  let selective := device.supportsSelectiveAccess
  let address ← access (bufferAddress query.logicalName query.span query.columns selective)
  let scalerUnitAddress := Profile.channelScalerUnit query.channel
  intact (Operation.describe
    ("GetPeriodicMeterReadsGas for channel " ++ toString query.channel ++ ", " ++
      query.period.name ++ " from " ++ (← access (shown query.span.start)) ++ " until " ++
      (← access (shown query.span.finish)) ++ ", retrieve attribute: " ++ address.text))
  let buffers ← readResults "periodic gas meter reads" [address]
  intact (Operation.describe
    ("GetPeriodicMeterReadsGas scaler and unit, retrieve attribute: " ++ scalerUnitAddress.text))
  let scalerUnits ←
    readResults "scaler and unit of periodic gas meter reads" [scalerUnitAddress]
  let buffer ← valueAt buffers 0
  let scalerUnit ← valueAt scalerUnits 0
  return ⟨query.period, ← access (readGas query selective buffer scalerUnit)⟩

theorem fetchGas_eq {query : GasQuery} (h : query.span.HasLocalTimes) :
    fetchGas query = intact query.fetch := by
  simp only [fetchGas, GasQuery.fetch, GasQuery.bufferAddress, bufferAddress_eq h, shown_eq h.1,
    shown_eq h.2, reading_eq, access_intact, access_pure, pure_bind, intact_bind]
  -- The check of the channel, before anything is read, is what the column is told with at the end.
  refine intact_lift_bind fun _ hchannel => bind_congr fun device => bind_congr fun address =>
    bind_congr fun _ => readResult_bind fun buffer => bind_congr fun _ =>
      readResult_bind fun scalerUnit => ?_
  simp only [valueAt_zero, pure_bind, readGas_eq h hchannel, access_intact, intact_pure]

def fetchObjects : Breakable Operation (List Association.ObjectItem) := do
  intact (Operation.describe
    ("RetrieveAssociationLnObjects, retrieve attribute: " ++ Association.objectListAddress.text))
  let results ← readResults "association LN objects" [Association.objectListAddress]
  access (readObjects (← valueAt results 0) "association LN object list")

theorem fetchObjects_eq : fetchObjects = intact Association.fetchObjects := by
  simp only [fetchObjects, Association.fetchObjects, intact_bind]
  refine bind_congr fun _ => readResult_bind fun result => ?_
  simp only [valueAt_zero, pure_bind, readObjects_eq, access_intact]

def fetchVersions : Breakable Operation (List FirmwareVersion) := do
  let addresses := FirmwareModule.all.map FirmwareModule.address
  intact (Operation.describe
    ("GetFirmwareVersions, retrieve attributes: " ++ AttributeAddress.textOfList addresses))
  let results ← readResults "firmware versions" addresses
  access ((FirmwareModule.all.zip results).mapM fun (type, result) =>
    reading (FirmwareVersion.ofValue type result.value))

theorem fetchVersions_eq : fetchVersions = intact FirmwareVersion.fetchAll := by
  simp only [fetchVersions, FirmwareVersion.fetchAll, intact_bind]
  refine bind_congr fun _ => readResults_bind fun results hlength => ?_
  simp only [reading_eq, List.zip_map_right, List.mapM_map, ← intact_mapM, access_intact]
  rfl

def dumpLine (address : AttributeAddress) (result : GetResult) : Breakable Outcome String := do
  if result.result.isSuccess then
    return address.text ++ " = " ++ (← describe result.value) ++ "\n"
  else return address.text ++ " : " ++ result.result.label ++ "\n"

theorem dumpLine_eq (address : AttributeAddress) (result : GetResult) :
    dumpLine address result = pure (Association.dumpLine address result) := by
  simp only [dumpLine, Association.dumpLine, describe_eq, pure_bind]
  split <;> rfl

def dumpObject (object : Association.ObjectItem) : Breakable Operation String := do
  if object.addresses.isEmpty then return ""
  else
    intact (Operation.describe
      ("RetrieveConfigurationObjects, retrieve attributes: " ++
        AttributeAddress.textOfList object.addresses))
    let results ← intact (Operation.readAll object.addresses)
    let lines ← access ((object.addresses.zip results.val).mapM fun (address, result) =>
      dumpLine address result)
    return String.join lines

theorem dumpObject_eq (object : Association.ObjectItem) :
    dumpObject object = intact (Association.dumpObject object) := by
  unfold dumpObject Association.dumpObject
  split
  · rw [intact_pure]
  · simp only [intact_bind, dumpLine_eq, List.mapM_pure, access_pure, pure_bind, intact_pure,
      List.map_zip_eq_zipWith]
    rfl

def dump : Breakable Operation String := do
  intact (Operation.describe
    ("RetrieveConfigurationObjects, retrieve attribute: " ++ Association.objectListAddress.text))
  let results ← readResults "association object list" [Association.objectListAddress]
  let objects ← access (readObjects (← valueAt results 0) "association object list")
  return String.join (← objects.mapM dumpObject)

theorem dump_eq : dump = intact Association.dump := by
  simp only [dump, Association.dump, intact_bind]
  refine bind_congr fun _ => readResult_bind fun result => ?_
  simp only [valueAt_zero, pure_bind, readObjects_eq, access_intact, funext dumpObject_eq,
    intact_mapM, intact_pure]

/-! ## Commands that write -/

def configureClock (c : Clock.Configuration) : Breakable Operation Unit := do
  let zone ← access (reading (Clock.zoneDeviation c.timeZoneOffset))
  intact (Clock.writeSetting 3 (.int16 zone) "Timezone")
  intact (Clock.writeSetting 5 (.octets c.daylightSavingBegin.encode) "Daylight savings begin")
  intact (Clock.writeSetting 6 (.octets c.daylightSavingEnd.encode) "Daylight savings end")
  let results ← readResults "daylight savings deviation" [Clock.attributeAddress 7]
  let value ← valueAt results 0
  let current : Int8 ← access (reading (value.toNarrow "daylight savings deviation"))
  if current ≠ c.daylightSavingDeviation then
    intact (Clock.writeSetting 7 (.int8 c.daylightSavingDeviation) "Daylight savings deviation")
  intact (Clock.writeSetting 8 (.boolean c.daylightSavingEnabled) "Daylight savings enabled")

theorem configureClock_eq (c : Clock.Configuration) :
    configureClock c = intact (Clock.configure c) := by
  simp only [configureClock, Clock.configure, reading_eq, access_intact, intact_bind]
  refine bind_congr fun zone => bind_congr fun _ => bind_congr fun _ => bind_congr fun _ =>
    readResult_bind fun result => ?_
  simp only [valueAt_zero, pure_bind]
  refine bind_congr fun current => ?_
  split
  · simp only [intact_bind]
  · rfl

def installNotifications (notifications : List AlarmNotification) :
    Breakable Operation AccessResult := do
  let address := AlarmNotifications.address
  intact (Operation.describe ("SetAlarmNotifications, retrieve attribute: " ++ address.text))
  let results ← readResults "alarm filter" [address]
  let value ← valueAt results 0
  let current : UInt32 ← access (reading (value.toNarrow "alarm filter"))
  let updated := AlarmNotifications.applyTo notifications current
  if updated = current then return .success
  else
    intact (Operation.describe ("SetAlarmNotifications, set attribute: " ++ address.text))
    intact (Operation.writeAttribute address (.uint32 updated))

theorem installNotifications_eq (notifications : List AlarmNotification) :
    installNotifications notifications = intact (AlarmNotifications.install notifications) := by
  simp only [installNotifications, AlarmNotifications.install, intact_bind]
  refine bind_congr fun _ => readResult_bind fun result => ?_
  simp only [valueAt_zero, pure_bind, reading_eq, access_intact]
  refine bind_congr fun current => ?_
  split
  · rfl
  · simp only [intact_bind]

def installConfiguration (requested : ConfigurationObject) : Breakable Operation AccessResult := do
  let address := ConfigurationObject.address
  intact (Operation.describe ("SetConfigurationObject, retrieve attribute: " ++ address.text))
  let results ← readResults "current configuration object" [address]
  let current ← access (readConfiguration (← valueAt results 0))
  let value ← access (mergedValue requested current)
  let _ ← access (describe value)
  intact (Operation.describe ("SetConfigurationObject, set attribute: " ++ address.text))
  intact (Operation.writeAttribute address value)

theorem installConfiguration_eq (requested : ConfigurationObject) :
    installConfiguration requested = intact (ConfigurationObject.install requested) := by
  simp only [installConfiguration, ConfigurationObject.install, intact_bind]
  refine bind_congr fun _ => readResult_bind fun result => ?_
  simp only [valueAt_zero, pure_bind, readConfiguration_eq, mergedValue_eq, describe_eq,
    access_intact, access_pure]

/-! ## Commands that change keys -/

def stageKey (change : KeyChange) : Breakable Operation Unit := do
  let now ← intact Operation.now
  let device ← intact get
  let staged ← access (addNewKey device change.kind (Hex.text change.material) now)
  intact (set staged)
  intact Operation.saveDevice

theorem stageKey_eq (change : KeyChange) : stageKey change = intact change.stage := by
  simp only [stageKey, KeyChange.stage, addNewKey_eq, access_pure, pure_bind, intact_bind]
  refine bind_congr fun now => ?_
  rfl

def confirmKey (kind : KeyKind) : Breakable Operation Unit := do
  let now ← intact Operation.now
  let device ← intact get
  let promoted ← access (promoteNewKey device kind now)
  intact (set promoted)
  intact Operation.saveDevice

theorem confirmKey_eq (kind : KeyKind) : confirmKey kind = intact (KeyChange.confirm kind) := by
  simp only [confirmKey, KeyChange.confirm, promoteNewKey_eq, access_intact, intact_bind]
  refine bind_congr fun now => bind_congr fun device => ?_
  cases device.promoteNewKey kind now with
  | ok promoted => rfl
  | error fault => rfl

def replaceKey (change : KeyChange) : Breakable Operation Unit := do
  let role ← access (reading change.kind.transferRole)
  let now ← intact Operation.now
  let master ← access (reading ((← intact get).validKey .master now))
  let _ ← access (reading ((← intact get).validKey change.kind now))
  stageKey change
  let masterKey ← intact (KeyChange.decryptStored master)
  let newKey ← intact (Operation.decrypt change.material)
  let wrapped ← access (reading
    ((Cipher.KeyWrap.wrap Cipher.Aes.cipher masterKey newKey).mapError Failure.security))
  let call := KeyChange.transfer role wrapped
  intact (Operation.describe
    ("ReplaceKey for " ++ change.kind.label ++ " " ++ role.name ++ ", call method: " ++ call.text))
  let result ← intact (Operation.callMethod call)
  access (reading (result.check ("replace " ++ change.kind.label ++ " key")))
  intact (Operation.adoptKey change.kind newKey)
  confirmKey change.kind

theorem replaceKey_eq (change : KeyChange) : replaceKey change = intact change.execute := by
  simp only [replaceKey, KeyChange.execute, reading_eq, access_intact, stageKey_eq, confirmKey_eq,
    intact_bind]

def replaceKeys (keys : KeyPair) : Breakable Operation String := do
  replaceKey ⟨.authentication, keys.authentication⟩
  replaceKey ⟨.encryption, keys.encryption⟩
  let device ← intact get
  return device.identification

theorem replaceKeys_eq (keys : KeyPair) : replaceKeys keys = intact keys.execute := by
  simp only [replaceKeys, KeyPair.execute, replaceKey_eq, intact_bind, intact_pure]

end HeadEnd.Breakable
