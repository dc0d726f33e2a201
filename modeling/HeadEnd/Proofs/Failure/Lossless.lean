import HeadEnd.Command.Catalogue

/-! # Failures that do not end a session

Whatever a meter answers, reading the answer never fails as if the connection were lost.
-/

namespace HeadEnd

/-- Failures of the outcome do not stand for the loss of the connection. -/
def Lossless {α : Type} (outcome : Outcome α) : Prop :=
  ∀ failure, outcome = .error failure → failure.isConnectionLoss = false

section Combinators

variable {α β ε : Type} {outcome : Outcome α}

theorem lossless_ok (a : α) : Lossless (.ok a) :=
  fun _ h => by cases h

theorem lossless_pure (a : α) : Lossless (pure a) :=
  lossless_ok a

theorem lossless_error {failure : Failure} (h : failure.isConnectionLoss = false) :
    Lossless (.error failure : Outcome α) := by
  intro _ heq
  cases heq
  exact h

theorem Lossless.bind {f : α → Outcome β} (h : Lossless outcome) (hf : ∀ a, Lossless (f a)) :
    Lossless (outcome >>= f) := by
  cases outcome with
  | ok a => exact hf a
  | error failure => exact lossless_error (h failure rfl)

theorem Lossless.map {f : α → β} (h : Lossless outcome) : Lossless (f <$> outcome) := by
  cases outcome with
  | ok a => exact lossless_ok (f a)
  | error failure => exact lossless_error (h failure rfl)

theorem lossless_mapM {f : α → Outcome β} (hf : ∀ a, Lossless (f a)) (xs : List α) :
    Lossless (xs.mapM f) := by
  induction xs with
  | nil => exact lossless_pure []
  | cons a xs ih =>
      rw [List.mapM_cons]
      exact (hf a).bind fun b => ih.bind fun bs => lossless_pure (b :: bs)

theorem lossless_mapError {outcome : Except ε α} {toFailure : ε → Failure}
    (h : ∀ e, (toFailure e).isConnectionLoss = false) : Lossless (outcome.mapError toFailure) := by
  cases outcome with
  | ok a => exact lossless_ok a
  | error e => exact lossless_error (h e)

theorem lossless_ofData (data : Except DataFault α) : Lossless (Outcome.ofData data) := by
  cases data with
  | ok a => exact lossless_ok a
  | error fault => exact lossless_error rfl

end Combinators

/-! ## Results -/

theorem AccessResult.lossless_check (result : AccessResult) (context : String) :
    Lossless (result.check context) := by
  unfold check
  split
  · exact lossless_ok ()
  · exact lossless_error rfl

theorem MethodResult.lossless_check (result : MethodResult) (context : String) :
    Lossless (result.check context) := by
  unfold check
  split
  · exact lossless_ok ()
  · exact lossless_error rfl

theorem Operation.lossless_checkAll (context : String) (results : List GetResult) :
    Lossless (checkAll context results) := by
  induction results with
  | nil => exact lossless_pure ()
  | cons result results ih => exact (result.result.lossless_check context).bind fun _ => ih

/-! ## Values -/

section Readers

variable {α : Type} [Narrow α]

theorem lossless_narrowed (number : Int64) (context : String) :
    Lossless (narrowed number context : Outcome α) := by
  unfold narrowed
  split
  · exact lossless_ok _
  · exact lossless_error rfl

theorem lossless_narrowed? (number : Option Int64) (context : String) :
    Lossless (narrowed? number context : Outcome (Option α)) := by
  unfold narrowed?
  split
  · exact (lossless_narrowed _ context).map
  · exact lossless_ok none

namespace Value

variable (value : Value) (context : String)

theorem lossless_toInteger? : Lossless (value.toInteger? context) := by
  unfold toInteger?
  split
  · exact lossless_ok none
  · split
    · exact lossless_ok _
    · exact lossless_error rfl

theorem lossless_toInteger : Lossless (value.toInteger context) := by
  refine (value.lossless_toInteger? context).bind fun number => ?_
  cases number with
  | none => exact lossless_error rfl
  | some n => exact lossless_pure n

theorem lossless_toNarrow : Lossless (value.toNarrow context : Outcome α) :=
  (value.lossless_toInteger context).bind fun n => lossless_narrowed n context

theorem lossless_toNarrow? : Lossless (value.toNarrow? context : Outcome (Option α)) :=
  (value.lossless_toInteger? context).bind fun n => lossless_narrowed? n context

theorem lossless_toBytes? : Lossless (value.toBytes? context) := by
  unfold toBytes?
  split
  · exact lossless_ok none
  · split
    · exact lossless_ok _
    · exact lossless_error rfl

theorem lossless_toText? : Lossless (value.toText? context) := by
  refine (value.lossless_toBytes? context).bind fun bytes? => ?_
  split
  · exact lossless_pure none
  · split
    · exact lossless_pure _
    · exact lossless_error rfl

theorem lossless_toBits : Lossless (value.toBits context) := by
  unfold toBits
  split
  · exact lossless_ok _
  · exact lossless_error rfl

theorem lossless_toLogicalName : Lossless (value.toLogicalName context) := by
  unfold toLogicalName
  split
  · exact lossless_ok _
  · exact lossless_error rfl

theorem lossless_toElements : Lossless (value.toElements context) := by
  unfold toElements
  split
  · exact lossless_ok []
  · split
    · exact lossless_ok _
    · exact lossless_error rfl

theorem lossless_toStructure (count : Nat) : Lossless (value.toStructure context count) := by
  unfold toStructure
  split
  · split
    · exact lossless_ok _
    · exact lossless_error rfl
  · exact lossless_error rfl

theorem lossless_toDateTime? : Lossless (value.toDateTime? context) := by
  unfold toDateTime?
  split
  · exact lossless_ok none
  · exact lossless_ok _
  · split
    · split
      · exact lossless_ok _
      · exact lossless_error rfl
    · exact lossless_error rfl
  · exact lossless_error rfl

theorem lossless_toDateTime : Lossless (value.toDateTime context) := by
  refine (value.lossless_toDateTime? context).bind fun time? => ?_
  cases time? with
  | none => exact lossless_error rfl
  | some t => exact lossless_pure t

theorem lossless_toZoned? : Lossless (value.toZoned? context) :=
  (value.lossless_toDateTime? context).bind fun _ => lossless_pure _

theorem lossless_toScalerUnit : Lossless (value.toScalerUnit context) := by
  unfold toScalerUnit
  split
  · refine (lossless_toNarrow _ context).bind fun _ => ?_
    exact (lossless_toInteger _ context).bind fun _ => lossless_pure _
  · exact lossless_error rfl

theorem lossless_toMeterValue? (scalerUnit : Value) :
    Lossless (value.toMeterValue? scalerUnit context) := by
  refine (value.lossless_toInteger? context).bind fun raw? => ?_
  cases raw? with
  | none => exact lossless_pure none
  | some raw => exact (scalerUnit.lossless_toScalerUnit context).bind fun _ => lossless_pure _

theorem lossless_toProfileFlags : Lossless value.toProfileFlags :=
  (value.lossless_toNarrow _).bind fun _ => lossless_pure _

end Value

end Readers

/-! ## Push setups -/

namespace Value

variable (value : Value) (context : String)

theorem lossless_toObjectDefinition : Lossless (value.toObjectDefinition context) := by
  refine (value.lossless_toStructure context 4).bind fun
    | ⟨[classId, logicalName, attributeIndex, dataIndex], _⟩ => ?_
  refine (classId.lossless_toNarrow _).bind fun _ => ?_
  refine (logicalName.lossless_toLogicalName _).bind fun _ => ?_
  refine (attributeIndex.lossless_toNarrow _).bind fun _ => ?_
  exact (dataIndex.lossless_toNarrow _).bind fun _ => lossless_pure _

theorem lossless_toObjectDefinitions : Lossless (value.toObjectDefinitions context) :=
  (value.lossless_toElements context).bind <|
    lossless_mapM fun element => element.lossless_toObjectDefinition _

theorem lossless_toPushDestination : Lossless (value.toPushDestination context) := by
  refine (value.lossless_toStructure context 3).bind fun
    | ⟨[service, destination, message], _⟩ => ?_
  refine (service.lossless_toInteger _).bind fun code => ?_
  cases TransportService.ofCode? code with
  | none => exact lossless_error rfl
  | some service =>
      refine (destination.lossless_toText? _).bind fun text? => ?_
      cases text? with
      | none => exact lossless_error rfl
      | some text =>
          refine (message.lossless_toInteger _).bind fun code => ?_
          cases MessageType.ofCode? code with
          | none => exact lossless_error rfl
          | some message => exact lossless_pure _

theorem lossless_toPushWindow : Lossless (value.toPushWindow context) := by
  refine (value.lossless_toStructure context 2).bind fun
    | ⟨[start, finish], _⟩ => ?_
  refine (start.lossless_toDateTime _).bind fun _ => ?_
  exact (finish.lossless_toDateTime _).bind fun _ => lossless_pure _

theorem lossless_toPushWindows : Lossless (value.toPushWindows context) :=
  (value.lossless_toElements context).bind <|
    lossless_mapM fun element => element.lossless_toPushWindow _

end Value

/-! ## Profiles and logs -/

namespace Profile

theorem lossless_checkChannel (channel : UInt8) : Lossless (checkChannel channel) := by
  unfold checkChannel
  split
  · exact lossless_ok ()
  · exact lossless_error rfl

theorem lossless_rangeSelection (span : Span) (columns : List Value) :
    Lossless (rangeSelection span columns) := by
  refine (lossless_ofData _).bind fun _ => ?_
  exact (lossless_ofData _).bind fun _ => lossless_pure _

variable {α : Type}

theorem lossless_ifWithin {span : Span} {clock : Value} {context : String}
    {read : ZonedTime → Outcome α} (h : ∀ time, Lossless (read time)) :
    Lossless (ifWithin span clock context read) := by
  refine (clock.lossless_toZoned? context).bind fun time? => ?_
  cases time? with
  | none => exact lossless_pure none
  | some time =>
      dsimp only
      split
      · exact (h time).bind fun _ => lossless_pure _
      · exact lossless_pure none

theorem lossless_readEntries {buffer : Value} {context : String}
    {read : Value → Outcome (Option α)} (h : ∀ entry, Lossless (read entry)) :
    Lossless (readEntries buffer context read) := by
  refine (buffer.lossless_toElements context).bind fun entries => ?_
  exact (lossless_mapM h entries).bind fun _ => lossless_pure _

end Profile

namespace ElectricityQuery

open Profile

variable (query : ElectricityQuery)

theorem lossless_scalerUnitAddress : Lossless query.scalerUnitAddress := by
  unfold scalerUnitAddress
  split
  · exact lossless_ok _
  · exact (lossless_checkChannel _).bind fun _ => lossless_pure _

theorem lossless_bufferAddress (selective : Bool) : Lossless (query.bufferAddress selective) := by
  unfold bufferAddress
  dsimp only
  split
  · exact (lossless_rangeSelection _ _).bind fun _ => lossless_pure _
  · exact lossless_pure _

theorem lossless_readInterval (scalerUnit status energyImport energyExport : Value)
    (logTime : ZonedTime) :
    Lossless (readInterval scalerUnit status energyImport energyExport logTime) := by
  refine status.lossless_toProfileFlags.bind fun _ => ?_
  refine (energyImport.lossless_toMeterValue? _ scalerUnit).bind fun _ => ?_
  exact (energyExport.lossless_toMeterValue? _ scalerUnit).bind fun _ => lossless_pure _

theorem lossless_readRates (scalerUnit import1 import2 export1 export2 : Value)
    (flags : Option (List ProfileFlag)) (logTime : ZonedTime) :
    Lossless (readRates scalerUnit import1 import2 export1 export2 flags logTime) := by
  refine (import1.lossless_toMeterValue? _ scalerUnit).bind fun _ => ?_
  refine (import2.lossless_toMeterValue? _ scalerUnit).bind fun _ => ?_
  refine (export1.lossless_toMeterValue? _ scalerUnit).bind fun _ => ?_
  exact (export2.lossless_toMeterValue? _ scalerUnit).bind fun _ => lossless_pure _

theorem lossless_readEntry? (scalerUnit entry : Value) :
    Lossless (query.readEntry? scalerUnit entry) := by
  unfold readEntry?
  dsimp only
  split
  · exact lossless_ifWithin (lossless_readInterval _ _ _ _)
  · refine lossless_ifWithin fun time => ?_
    exact (Value.lossless_toProfileFlags _).bind fun _ => lossless_readRates _ _ _ _ _ _ time
  · exact lossless_ifWithin (lossless_readRates _ _ _ _ _ _)
  · exact lossless_error rfl

theorem lossless_readBuffer (buffer scalerUnit : Value) :
    Lossless (query.readBuffer buffer scalerUnit) :=
  lossless_readEntries (query.lossless_readEntry? scalerUnit)

end ElectricityQuery

namespace GasQuery

open Profile

variable (query : GasQuery)

theorem lossless_bufferAddress (selective : Bool) : Lossless (query.bufferAddress selective) := by
  unfold bufferAddress
  dsimp only
  split
  · exact (lossless_rangeSelection _ _).bind fun _ => lossless_pure _
  · exact lossless_pure _

theorem lossless_readColumns (scalerUnit : Value) (columns : Columns) (logTime : ZonedTime) :
    Lossless (query.readColumns scalerUnit columns logTime) := by
  refine (columns.value.lossless_toMeterValue? _ scalerUnit).bind fun consumption => ?_
  refine (columns.captureTime.lossless_toZoned? _).bind fun captureTime? => ?_
  cases captureTime? with
  | none => exact lossless_error rfl
  | some captureTime =>
      dsimp only
      split
      · exact (lossless_pure none).bind fun _ => lossless_pure _
      · exact columns.second.lossless_toProfileFlags.map.bind fun _ => lossless_pure _

theorem lossless_readEntry? (selective : Bool) (scalerUnit entry : Value) :
    Lossless (query.readEntry? selective scalerUnit entry) := by
  unfold readEntry?
  dsimp only
  split
  · exact lossless_ifWithin (query.lossless_readColumns scalerUnit _)
  · exact lossless_error rfl

theorem lossless_readBuffer (selective : Bool) (buffer scalerUnit : Value) :
    Lossless (query.readBuffer selective buffer scalerUnit) :=
  lossless_readEntries (query.lossless_readEntry? selective scalerUnit)

end GasQuery

namespace EventQuery

variable (query : EventQuery)

theorem lossless_readCounter? (rest : List Value) : Lossless (query.readCounter? rest) := by
  unfold readCounter?
  split
  · exact Value.lossless_toInteger? _ _
  · exact lossless_ok none

theorem lossless_readEntry? (entry : Value) : Lossless (query.readEntry? entry) := by
  unfold readEntry?
  split
  · refine (Value.lossless_toZoned? _ _).bind fun time? => ?_
    cases time? with
    | none => exact lossless_pure none
    | some time =>
        refine (Value.lossless_toInteger _ _).bind fun _ => ?_
        exact (query.lossless_readCounter? _).bind fun _ => lossless_pure _
  · exact lossless_error rfl

theorem lossless_readBuffer (buffer : Value) : Lossless (query.readBuffer buffer) := by
  refine (buffer.lossless_toElements _).bind fun entries => ?_
  exact (lossless_mapM query.lossless_readEntry? entries).bind fun _ => lossless_pure _

end EventQuery

/-! ## Associations -/

namespace Association

theorem lossless_readAttributeItem (value : Value) : Lossless (readAttributeItem value) := by
  refine (value.lossless_toStructure _ 3).bind fun
    | ⟨[id, mode, selectors], _⟩ => ?_
  refine (id.lossless_toNarrow _).bind fun _ => ?_
  refine (mode.lossless_toInteger _).bind fun code => ?_
  cases AttributeAccess.ofCode? code with
  | none => exact lossless_error rfl
  | some access =>
      refine (selectors.lossless_toElements _).bind fun elements => ?_
      refine (lossless_mapM (fun selector => ?_) elements).bind fun _ => lossless_pure _
      exact selector.lossless_toNarrow _

theorem lossless_readMethodAccess (value : Value) : Lossless (readMethodAccess value) := by
  unfold readMethodAccess
  split
  · exact lossless_ok _
  · exact lossless_ok _
  · refine (Value.lossless_toInteger _ _).bind fun code => ?_
    split
    · exact lossless_pure _
    · exact lossless_error rfl

theorem lossless_readMethodItem (value : Value) : Lossless (readMethodItem value) := by
  refine (value.lossless_toStructure _ 2).bind fun
    | ⟨[id, mode], _⟩ => ?_
  refine (id.lossless_toNarrow _).bind fun _ => ?_
  exact (lossless_readMethodAccess mode).bind fun _ => lossless_pure _

theorem lossless_readRights? (value : Value) : Lossless (readRights? value) := by
  unfold readRights?
  split
  · exact lossless_pure none
  · refine (value.lossless_toStructure _ 2).bind fun
      | ⟨[attributes, methods], _⟩ => ?_
    refine (attributes.lossless_toElements _).bind fun attributes => ?_
    refine (lossless_mapM lossless_readAttributeItem attributes).bind fun _ => ?_
    refine (methods.lossless_toElements _).bind fun methods => ?_
    exact (lossless_mapM lossless_readMethodItem methods).bind fun _ => lossless_pure _

theorem lossless_readObject (value : Value) : Lossless (readObject value) := by
  refine (value.lossless_toStructure _ 4).bind fun
    | ⟨[classId, version, logicalName, rights], _⟩ => ?_
  refine (classId.lossless_toNarrow _).bind fun _ => ?_
  refine (version.lossless_toNarrow _).bind fun _ => ?_
  refine (logicalName.lossless_toLogicalName _).bind fun _ => ?_
  exact (lossless_readRights? rights).bind fun _ => lossless_pure _

theorem lossless_readObjects (value : Value) (context : String) :
    Lossless (readObjects value context) :=
  (value.lossless_toElements context).bind (lossless_mapM lossless_readObject)

end Association

/-! ## Other inputs and answers -/

theorem FirmwareVersion.lossless_ofValue (type : FirmwareModule) (value : Value) :
    Lossless (ofValue type value) := by
  refine (value.lossless_toText? _).bind fun version? => ?_
  cases version? with
  | none => exact lossless_error rfl
  | some version => exact lossless_pure _

theorem ConfigurationObject.lossless_ofValue (value : Value) : Lossless (ofValue value) := by
  refine (value.lossless_toElements _).bind fun elements => ?_
  split
  · refine (Value.lossless_toInteger? _ _).bind fun _ => ?_
    exact (Value.lossless_toBits _ _).bind fun _ => lossless_pure _
  · exact lossless_error rfl

theorem SpecialDay.lossless_entryAt (count place : Nat) (day : SpecialDay) :
    Lossless (entryAt count place day) := by
  unfold entryAt
  split
  · exact lossless_ok _
  · exact lossless_error rfl

theorem SpecialDay.lossless_table (days : List SpecialDay) : Lossless (table days) :=
  (lossless_mapM (fun _ => lossless_entryAt _ _ _) _).bind fun _ => lossless_mapError fun _ => rfl

theorem Clock.lossless_zoneDeviation (offset : Int16) : Lossless (zoneDeviation offset) := by
  unfold zoneDeviation
  split
  · exact lossless_error rfl
  · exact lossless_ok _

theorem KeyKind.lossless_transferRole (kind : KeyKind) : Lossless kind.transferRole := by
  cases kind with
  | authentication => exact lossless_ok _
  | encryption => exact lossless_ok _
  | master => exact lossless_error rfl

theorem Device.lossless_validKey (device : Device) (kind : KeyKind) (now : Instant) :
    Lossless (device.validKey kind now) := by
  unfold validKey
  split
  · exact lossless_ok _
  · exact lossless_error rfl

theorem Command.lossless_confirmWrite (context confirmation : String) (result : AccessResult) :
    Lossless (confirmWrite context confirmation result) :=
  (result.lossless_check context).bind fun _ => lossless_ok _

end HeadEnd
