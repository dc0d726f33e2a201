import HeadEnd.Proofs.Profile.Entries
import HeadEnd.Proofs.Profile.SelectiveAccess

/-! # Buffers of profiles

Of a buffer exactly the entries are read whose clock shows an instant in the span, each as the columns
of its profile tell it. A buffer of which that cannot be read is a failure to decode.
-/

namespace HeadEnd

open Profile

/-! ## Electricity -/

/-- The entry tells the read: its clock the time, the state of the meter the flags, and the columns
of the registers their values. -/
structure ElectricityRead.IsToldBy (columns : List Column) (scalerUnit entry : Value)
    (read : ElectricityRead) : Prop where
  logTime : clockOf? entry = some read.logTime
  flags : ProfileFlag.Told (valueIn columns entry .flags) read.flags
  energyImport : MeterValue.Told scalerUnit (valueIn columns entry (.register 1 0)) read.energyImport
  energyExport : MeterValue.Told scalerUnit (valueIn columns entry (.register 2 0)) read.energyExport
  importRate1 : MeterValue.Told scalerUnit (valueIn columns entry (.register 1 1)) read.importRate1
  importRate2 : MeterValue.Told scalerUnit (valueIn columns entry (.register 1 2)) read.importRate2
  exportRate1 : MeterValue.Told scalerUnit (valueIn columns entry (.register 2 1)) read.exportRate1
  exportRate2 : MeterValue.Told scalerUnit (valueIn columns entry (.register 2 2)) read.exportRate2

namespace ElectricityQuery

/-- The columns of a profile that are read. -/
def layout : Period → List Column
  | .interval => [.clock, .flags, .register 1 0, .register 2 0]
  | .daily => .clock :: .flags :: Column.rates
  | .monthly => .clock :: Column.rates

variable {query : ElectricityQuery} {scalerUnit : Value}

theorem length_layout (period : Period) : (layout period).length = width period := by
  cases period <;> rfl

theorem decodes_readInterval {clock status energyImport energyExport : Value} {rest : List Value}
    {logTime : ZonedTime} (hclock : shown? clock = some logTime) :
    Decodes (readInterval scalerUnit status energyImport energyExport logTime)
      (ElectricityRead.IsToldBy (layout .interval) scalerUnit
        (.tuple (clock :: status :: energyImport :: energyExport :: rest))) := by
  refine (status.decodes_toProfileFlags.bind fun flags _ =>
    (energyImport.decodes_toMeterValue? scalerUnit _).bind fun imported _ =>
      (energyExport.decodes_toMeterValue? scalerUnit _).bind fun exported _ =>
        decodes_pure ({
          logTime, energyImport := imported, energyExport := exported, flags := some flags } :
            ElectricityRead)).of_iff fun read => ?_
  constructor
  · rintro ⟨flags, hflags, imported, himport, exported, hexport, rfl⟩
    exact ⟨hclock, hflags, himport, hexport, .absent, .absent, .absent, .absent⟩
  · rintro ⟨htime, hflags, himport, hexport, h1, h2, h3, h4⟩
    obtain ⟨time, imported, exported, _, _, _, _, flags⟩ := read
    obtain rfl : time = logTime := Option.some.inj (htime.symm.trans hclock)
    obtain rfl := MeterValue.told_none_iff.mp h1
    obtain rfl := MeterValue.told_none_iff.mp h2
    obtain rfl := MeterValue.told_none_iff.mp h3
    obtain rfl := MeterValue.told_none_iff.mp h4
    cases flags with
    | none => cases hflags
    | some flags => exact ⟨flags, hflags, imported, himport, exported, hexport, rfl⟩

/-- What is read of the registers at the two rates. -/
structure IsRatesRead (scalerUnit import1 import2 export1 export2 : Value)
    (flags : Option (List ProfileFlag)) (logTime : ZonedTime) (read : ElectricityRead) : Prop where
  logTime : read.logTime = logTime
  flags : read.flags = flags
  energyImport : read.energyImport = none
  energyExport : read.energyExport = none
  importRate1 : MeterValue.Told scalerUnit (some import1) read.importRate1
  importRate2 : MeterValue.Told scalerUnit (some import2) read.importRate2
  exportRate1 : MeterValue.Told scalerUnit (some export1) read.exportRate1
  exportRate2 : MeterValue.Told scalerUnit (some export2) read.exportRate2

theorem decodes_readRates (import1 import2 export1 export2 : Value)
    (flags : Option (List ProfileFlag)) (logTime : ZonedTime) :
    Decodes (readRates scalerUnit import1 import2 export1 export2 flags logTime)
      (IsRatesRead scalerUnit import1 import2 export1 export2 flags logTime) := by
  refine ((import1.decodes_toMeterValue? scalerUnit _).bind fun a _ =>
    (import2.decodes_toMeterValue? scalerUnit _).bind fun b _ =>
      (export1.decodes_toMeterValue? scalerUnit _).bind fun c _ =>
        (export2.decodes_toMeterValue? scalerUnit _).bind fun d _ =>
          decodes_pure ({
            logTime, importRate1 := a, importRate2 := b, exportRate1 := c, exportRate2 := d, flags } :
              ElectricityRead)).of_iff fun read => ?_
  constructor
  · rintro ⟨a, ha, b, hb, c, hc, d, hd, rfl⟩
    exact ⟨rfl, rfl, rfl, rfl, ha, hb, hc, hd⟩
  · obtain ⟨_, _, _, a, b, c, d, _⟩ := read
    rintro ⟨rfl, rfl, rfl, rfl, ha, hb, hc, hd⟩
    exact ⟨a, ha, b, hb, c, hc, d, hd, rfl⟩

theorem decodes_readDaily {clock status import1 import2 export1 export2 : Value} {rest : List Value}
    {logTime : ZonedTime} (hclock : shown? clock = some logTime) :
    Decodes (do
        let flags ← status.toProfileFlags
        readRates scalerUnit import1 import2 export1 export2 (some flags) logTime)
      (ElectricityRead.IsToldBy (layout .daily) scalerUnit
        (.tuple (clock :: status :: import1 :: import2 :: export1 :: export2 :: rest))) := by
  refine (status.decodes_toProfileFlags.bind fun flags _ =>
    decodes_readRates import1 import2 export1 export2 (some flags) logTime).of_iff fun read => ?_
  constructor
  · rintro ⟨flags, hflags, h⟩
    refine ⟨hclock.trans (congrArg some h.logTime.symm), ?_,
      MeterValue.told_none_iff.mpr h.energyImport, MeterValue.told_none_iff.mpr h.energyExport,
      h.importRate1, h.importRate2, h.exportRate1, h.exportRate2⟩
    rw [h.flags]
    exact hflags
  · intro h
    have hflags : ProfileFlag.Told (some status) read.flags := h.flags
    cases hread : read.flags with
    | none =>
        rw [hread] at hflags
        cases hflags
    | some flags =>
        rw [hread] at hflags
        exact ⟨flags, hflags, Option.some.inj (h.logTime.symm.trans hclock), hread,
          MeterValue.told_none_iff.mp h.energyImport, MeterValue.told_none_iff.mp h.energyExport,
          h.importRate1, h.importRate2, h.exportRate1, h.exportRate2⟩

theorem decodes_readMonthly {clock import1 import2 export1 export2 : Value} {rest : List Value}
    {logTime : ZonedTime} (hclock : shown? clock = some logTime) :
    Decodes (readRates scalerUnit import1 import2 export1 export2 none logTime)
      (ElectricityRead.IsToldBy (layout .monthly) scalerUnit
        (.tuple (clock :: import1 :: import2 :: export1 :: export2 :: rest))) := by
  refine (decodes_readRates import1 import2 export1 export2 none logTime).of_iff fun read => ?_
  constructor
  · intro h
    exact ⟨hclock.trans (congrArg some h.logTime.symm), ProfileFlag.told_none_iff.mpr h.flags,
      MeterValue.told_none_iff.mpr h.energyImport, MeterValue.told_none_iff.mpr h.energyExport,
      h.importRate1, h.importRate2, h.exportRate1, h.exportRate2⟩
  · intro h
    exact ⟨Option.some.inj (h.logTime.symm.trans hclock), ProfileFlag.told_none_iff.mp h.flags,
      MeterValue.told_none_iff.mp h.energyImport, MeterValue.told_none_iff.mp h.energyExport,
      h.importRate1, h.importRate2, h.exportRate1, h.exportRate2⟩

theorem readEntry?_eq_error {entry : Value}
    (h : ¬ ∃ clock values, entry = .tuple (clock :: values) ∧
      width query.period ≤ values.length + 1) :
    query.readEntry? scalerUnit entry =
      .error (.unexpected query.context (.structureOfAtLeast (width query.period)) entry) := by
  unfold readEntry?
  generalize query.period = period at h ⊢
  split
  case h_4 => rfl
  all_goals exact absurd ⟨_, _, rfl, by simp [width]⟩ h

theorem decodes_readEntry? (query : ElectricityQuery) (scalerUnit entry : Value) :
    Decodes (query.readEntry? scalerUnit entry) fun read? =>
      IsEntry (layout query.period).length entry ∧
        EntryTold query.span (ElectricityRead.IsToldBy (layout query.period) scalerUnit) entry
          read? := by
  rw [length_layout]
  -- The width decides before anything is read whether the entry is refused.
  by_cases hwide : ∃ clock values, entry = .tuple (clock :: values) ∧
      width query.period ≤ values.length + 1
  case neg =>
    rw [readEntry?_eq_error hwide]
    refine (decodes_error _ _).of_iff fun read? => ⟨False.elim, ?_⟩
    rintro ⟨⟨clock, values, hentry, hwidth, -⟩, -⟩
    exact hwide ⟨clock, values, hentry, hwidth⟩
  case pos =>
    obtain ⟨clock, values, rfl, hwidth⟩ := hwide
    rw [isEntry_iff hwidth]
    unfold readEntry?
    generalize query.period = period at hwidth ⊢
    cases period with
    | interval =>
        match values, hwidth with
        | _ :: _ :: _ :: _, _ => exact decodes_ifWithin (fun _ => decodes_readInterval) _
    | daily =>
        match values, hwidth with
        | _ :: _ :: _ :: _ :: _ :: _, _ => exact decodes_ifWithin (fun _ => decodes_readDaily) _
    | monthly =>
        match values, hwidth with
        | _ :: _ :: _ :: _ :: _, _ => exact decodes_ifWithin (fun _ => decodes_readMonthly) _

end ElectricityQuery

/-! ## Gas -/

/-- The entry tells the read: its clock the time, the state of the meter the flags, and the two columns
of the channel the value and the time at which it was captured. -/
structure GasRead.IsToldBy (columns : List Column) (channel : UInt8) (scalerUnit entry : Value)
    (read : GasRead) : Prop where
  logTime : clockOf? entry = some read.logTime
  flags : ProfileFlag.Told (valueIn columns entry .flags) read.flags
  consumption :
    MeterValue.Told scalerUnit (valueIn columns entry (.channelValue channel)) read.consumption
  captureTime : (valueIn columns entry (.channelTime channel)).bind shown? = some read.captureTime

namespace GasQuery

/-- The columns of the entries that the meter answers with. -/
def layout (query : GasQuery) (selective : Bool) : List Column :=
  match query.period, selective with
  | .interval, _ => .clock :: channelColumns query.channel
  | _, true => query.requested
  | period, false => .clock :: period.columns []

/-- The number of columns up to the last one that is read. -/
def width (query : GasQuery) (selective : Bool) : Nat :=
  (query.layout selective).idxOf (.channelTime query.channel) + 1

variable {query : GasQuery} {selective : Bool} {scalerUnit : Value}

/-- The column from which the value is read is that of the channel, and the next one is that of the
time. -/
theorem idxOf_layout (hchannel : checkChannel query.channel = .ok ()) (selective : Bool) :
    (query.layout selective).idxOf (.channelValue query.channel) = query.valueColumn selective ∧
      (query.layout selective).idxOf (.channelTime query.channel) =
        query.valueColumn selective + 1 ∧
      query.valueColumn selective + 1 < (query.layout selective).length := by
  obtain ⟨period, span, channel⟩ := query
  obtain rfl | rfl | rfl | rfl := channel_cases hchannel
  all_goals
    cases period <;> cases selective <;> exact ⟨rfl, rfl, Nat.le_of_ble_eq_true rfl⟩

theorem width_eq (hchannel : checkChannel query.channel = .ok ()) (selective : Bool) :
    query.width selective = query.valueColumn selective + 2 := by
  rw [width, (idxOf_layout hchannel selective).2.1]

/-- The second column holds the flags unless the profile has none. -/
theorem valueIn_flags (query : GasQuery) (selective : Bool) (clock second : Value)
    (rest : List Value) :
    valueIn (query.layout selective) (.tuple (clock :: second :: rest)) .flags =
      if query.period = .monthly then none else some second := by
  obtain ⟨period, span, channel⟩ := query
  cases period <;> cases selective <;> rfl

theorem valueIn_channel (hchannel : checkChannel query.channel = .ok ()) (selective : Bool)
    (row : List Value) :
    valueIn (query.layout selective) (.tuple row) (.channelValue query.channel) =
        row[query.valueColumn selective]? ∧
      valueIn (query.layout selective) (.tuple row) (.channelTime query.channel) =
        row[query.valueColumn selective + 1]? := by
  obtain ⟨hvalue, htime, hlength⟩ := idxOf_layout hchannel selective
  have hvalueIn : Column.channelValue query.channel ∈ query.layout selective :=
    List.idxOf_lt_length_iff.mp (by omega)
  have htimeIn : Column.channelTime query.channel ∈ query.layout selective :=
    List.idxOf_lt_length_iff.mp (by omega)
  constructor
  · rw [valueIn, if_pos hvalueIn, hvalue]
  · rw [valueIn, if_pos htimeIn, htime]

/-- What is read of the columns of a channel, if these values stand in them. -/
structure IsColumnsRead (flags : Option Value) (scalerUnit value captureTime : Value)
    (logTime : ZonedTime) (read : GasRead) : Prop where
  logTime : read.logTime = logTime
  flags : ProfileFlag.Told flags read.flags
  consumption : MeterValue.Told scalerUnit (some value) read.consumption
  captureTime : shown? captureTime = some read.captureTime

theorem decodes_captured {value captureTime : Value} {flags : Option Value}
    {flagsRead : Outcome (Option (List ProfileFlag))}
    (hflags : Decodes flagsRead (ProfileFlag.Told flags)) (logTime : ZonedTime) :
    Decodes (do
        let consumption ← value.toMeterValue? scalerUnit "gas value"
        let some captured ← captureTime.toZoned? "gas capture time"
          | throw (.decode "gas capture time" (.noInstant captureTime))
        let flags ← flagsRead
        return { logTime, consumption, captureTime := captured, flags })
      (IsColumnsRead flags scalerUnit value captureTime logTime) := by
  refine ((value.decodes_toMeterValue? scalerUnit _).bind fun consumption _ =>
    (captureTime.decodes_toZoned? _).bind (r := fun captured? (read : GasRead) =>
      read.logTime = logTime ∧ ProfileFlag.Told flags read.flags ∧
        read.consumption = consumption ∧ captured? = some read.captureTime)
      fun captured? _ => ?hcaptured).of_iff fun read => ?_
  case hcaptured =>
    cases captured? with
    | none => exact (decodes_error _ _).of_iff fun read => by simp
    | some captured =>
        refine (hflags.bind fun told _ => decodes_pure
          (⟨logTime, consumption, captured, told⟩ : GasRead)).of_iff fun read => ?_
        constructor
        · rintro ⟨told, htold, rfl⟩
          exact ⟨rfl, htold, rfl, rfl⟩
        · obtain ⟨_, _, _, told⟩ := read
          rintro ⟨rfl, htold, rfl, hcaptured⟩
          cases hcaptured
          exact ⟨told, htold, rfl⟩
  constructor
  · rintro ⟨_, hconsumption, _, ⟨-, rfl⟩, htime, htold, rfl, hcaptured⟩
    exact ⟨htime, htold, hconsumption, hcaptured⟩
  · intro h
    exact ⟨_, h.consumption, _, ⟨Value.isTimestamp_of_shown? h.captureTime, rfl⟩, h.logTime, h.flags,
      rfl, h.captureTime⟩

theorem decodes_readColumns (query : GasQuery) (scalerUnit : Value) (columns : Columns)
    (logTime : ZonedTime) :
    Decodes (query.readColumns scalerUnit columns logTime)
      (IsColumnsRead (if query.period = .monthly then none else some columns.second) scalerUnit
        columns.value columns.captureTime logTime) := by
  have hstatus : Decodes (some <$> columns.second.toProfileFlags)
      (ProfileFlag.Told (some columns.second)) := by
    refine columns.second.decodes_toProfileFlags.map.of_iff fun flags? => ?_
    constructor
    · rintro ⟨flags, htold, rfl⟩
      exact htold
    · intro htold
      cases htold with
      | status hvalue => exact ⟨_, .status hvalue, rfl⟩
  have hnone : Decodes (pure none) (ProfileFlag.Told none) :=
    (decodes_pure none).of_iff fun _ => ProfileFlag.told_none_iff.symm
  obtain ⟨period, span, channel⟩ := query
  cases period with
  | interval => exact decodes_captured hstatus logTime
  | daily => exact decodes_captured hstatus logTime
  | monthly => exact decodes_captured hnone logTime

theorem columns?_eq_none {column : Nat} {entry : Value}
    (h : ¬ ∃ clock values, entry = .tuple (clock :: values) ∧ column + 2 ≤ values.length + 1) :
    columns? column entry = none := by
  unfold columns?
  split
  case h_1 clock second rest =>
    split
    case h_1 value captureTime more hdrop =>
      have hlength := congrArg List.length hdrop
      simp only [List.length_drop, List.length_cons] at hlength
      exact absurd ⟨clock, second :: rest, rfl, by rw [List.length_cons]; omega⟩ h
    case h_2 => rfl
  case h_2 => rfl

/-- What is read of the columns of the channel is what the entry tells. -/
theorem isColumnsRead_iff (hchannel : checkChannel query.channel = .ok ())
    {clock second value captureTime : Value} {rest : List Value} {logTime : ZonedTime}
    {read : GasRead} (hclock : shown? clock = some logTime)
    (hdrop : ((clock :: second :: rest).drop (query.valueColumn selective)).take 2 =
      [value, captureTime]) :
    IsColumnsRead (if query.period = .monthly then none else some second) scalerUnit value captureTime
        logTime read ↔
      read.IsToldBy (query.layout selective) query.channel scalerUnit
        (.tuple (clock :: second :: rest)) := by
  have hat (i : Nat) (hi : i < 2) : [value, captureTime][i]? =
      (clock :: second :: rest)[query.valueColumn selective + i]? := by
    rw [← hdrop, List.getElem?_take_of_lt hi, List.getElem?_drop]
  obtain ⟨hvalueIn, htimeIn⟩ := valueIn_channel hchannel selective (clock :: second :: rest)
  have hvalue : valueIn (query.layout selective) (.tuple (clock :: second :: rest))
      (.channelValue query.channel) = some value := hvalueIn.trans (hat 0 (by decide)).symm
  have htime : (valueIn (query.layout selective) (.tuple (clock :: second :: rest))
      (.channelTime query.channel)).bind shown? = shown? captureTime :=
    congrArg (Option.bind · shown?) (htimeIn.trans (hat 1 (by decide)).symm)
  have hflags := valueIn_flags query selective clock second rest
  constructor
  · intro h
    exact ⟨hclock.trans (congrArg some h.logTime.symm), hflags ▸ h.flags, hvalue ▸ h.consumption,
      htime.trans h.captureTime⟩
  · intro h
    exact ⟨Option.some.inj (h.logTime.symm.trans hclock), hflags ▸ h.flags, hvalue ▸ h.consumption,
      htime.symm.trans h.captureTime⟩

theorem decodes_readEntry? (hchannel : checkChannel query.channel = .ok ()) (selective : Bool)
    (scalerUnit entry : Value) :
    Decodes (query.readEntry? selective scalerUnit entry) fun read? =>
      IsEntry (query.width selective) entry ∧
        EntryTold query.span
          (GasRead.IsToldBy (query.layout selective) query.channel scalerUnit) entry read? := by
  rw [width_eq hchannel]
  by_cases hwide : ∃ clock values, entry = .tuple (clock :: values) ∧
      query.valueColumn selective + 2 ≤ values.length + 1
  case neg =>
    have hread : query.readEntry? selective scalerUnit entry = .error (.unexpected query.context
        (.structureOfAtLeast (query.valueColumn selective + 2)) entry) := by
      unfold readEntry?
      simp only [columns?_eq_none hwide]
    rw [hread]
    refine (decodes_error _ _).of_iff fun read? => ⟨False.elim, ?_⟩
    rintro ⟨⟨clock, values, hentry, hwidth, -⟩, -⟩
    exact hwide ⟨clock, values, hentry, hwidth⟩
  case pos =>
    obtain ⟨clock, values, rfl, hwidth⟩ := hwide
    rw [isEntry_iff hwidth]
    have hlength : query.valueColumn selective + 2 ≤ (clock :: values).length := hwidth
    obtain ⟨second, value, captureTime, hcolumns, hpair, hdrop⟩ := exists_columns?_eq hlength
    rw [eq_ifWithin_of_columns? hcolumns]
    refine decodes_ifWithin (fun logTime hclock => ?_) _
    match values, hpair with
    | _ :: rest, rfl =>
      exact (decodes_readColumns query scalerUnit _ logTime).of_iff fun read =>
        isColumnsRead_iff hchannel hclock hdrop

end GasQuery

/-- The registers that are read, whichever of them the profile has. -/
def ElectricityQuery.registers : List Column :=
  .register 1 0 :: .register 2 0 :: Column.rates

theorem ElectricityRead.exists_isToldBy_iff {columns : List Column} {scalerUnit entry : Value}
    {time : ZonedTime} (hclock : clockOf? entry = some time) :
    (∃ read, ElectricityRead.IsToldBy columns scalerUnit entry read) ↔
      IsReadable columns ElectricityQuery.registers scalerUnit entry := by
  constructor
  · rintro ⟨read, h⟩
    refine ⟨exists_flagsTold_iff.mp ⟨_, h.flags⟩, ?_⟩
    simp only [ElectricityQuery.registers, Column.rates, List.forall_mem_cons]
    exact ⟨exists_meterValueTold_iff.mp ⟨_, h.energyImport⟩,
      exists_meterValueTold_iff.mp ⟨_, h.energyExport⟩,
      exists_meterValueTold_iff.mp ⟨_, h.importRate1⟩,
      exists_meterValueTold_iff.mp ⟨_, h.importRate2⟩,
      exists_meterValueTold_iff.mp ⟨_, h.exportRate1⟩,
      exists_meterValueTold_iff.mp ⟨_, h.exportRate2⟩, fun _ h => absurd h List.not_mem_nil⟩
  · rintro ⟨hflags, hregisters⟩
    simp only [ElectricityQuery.registers, Column.rates, List.forall_mem_cons,
      ← exists_meterValueTold_iff] at hregisters
    obtain ⟨⟨_, h1⟩, ⟨_, h2⟩, ⟨_, h3⟩, ⟨_, h4⟩, ⟨_, h5⟩, ⟨_, h6⟩, -⟩ := hregisters
    obtain ⟨_, hflags⟩ := exists_flagsTold_iff.mpr hflags
    exact ⟨⟨time, _, _, _, _, _, _, _⟩, hclock, hflags, h1, h2, h3, h4, h5, h6⟩

/-- The columns of the channel can be read, and the value was captured at an instant. -/
structure GasQuery.IsReadable (query : GasQuery) (selective : Bool) (scalerUnit entry : Value) :
    Prop where
  columns : Profile.IsReadable (query.layout selective) [.channelValue query.channel] scalerUnit entry
  captured : ∃ time,
    (valueIn (query.layout selective) entry (.channelTime query.channel)).bind shown? = some time

theorem GasRead.exists_isToldBy_iff {query : GasQuery} {selective : Bool} {scalerUnit entry : Value}
    {time : ZonedTime} (hclock : clockOf? entry = some time) :
    (∃ read, GasRead.IsToldBy (query.layout selective) query.channel scalerUnit entry read) ↔
      query.IsReadable selective scalerUnit entry := by
  constructor
  · rintro ⟨read, h⟩
    refine ⟨⟨exists_flagsTold_iff.mp ⟨_, h.flags⟩, ?_⟩, _, h.captureTime⟩
    rw [List.forall_mem_singleton]
    exact exists_meterValueTold_iff.mp ⟨_, h.consumption⟩
  · rintro ⟨⟨hflags, hregisters⟩, captured, hcaptured⟩
    rw [List.forall_mem_singleton, ← exists_meterValueTold_iff] at hregisters
    obtain ⟨_, hconsumption⟩ := hregisters
    obtain ⟨_, hflags⟩ := exists_flagsTold_iff.mpr hflags
    exact ⟨⟨time, _, captured, _⟩, hclock, hflags, hconsumption, hcaptured⟩

/-- Of a buffer of electricity or of gas exactly the entries in the span are read, and any buffer of
which they cannot be read is a failure to decode. -/
theorem Profile.buffers_read_exactly (buffer scalerUnit : Value) :
    (∀ query : ElectricityQuery,
      ReadsExactly (query.readBuffer buffer scalerUnit) buffer
        (ElectricityQuery.layout query.period).length query.span
        (IsReadable (ElectricityQuery.layout query.period) ElectricityQuery.registers scalerUnit)
        (ElectricityRead.IsToldBy (ElectricityQuery.layout query.period) scalerUnit)) ∧
    ∀ query : GasQuery, checkChannel query.channel = .ok () → ∀ selective,
      ReadsExactly (query.readBuffer selective buffer scalerUnit) buffer (query.width selective)
        query.span (query.IsReadable selective scalerUnit)
        (GasRead.IsToldBy (query.layout selective) query.channel scalerUnit) := by
  constructor
  · intro query
    refine readsExactly_readEntries (query.decodes_readEntry? scalerUnit) (fun entry hcovers => ?_)
      buffer query.context
    obtain ⟨time, hclock⟩ := exists_clockOf?_of_covers hcovers
    exact ElectricityRead.exists_isToldBy_iff hclock
  · intro query hchannel selective
    refine readsExactly_readEntries (GasQuery.decodes_readEntry? hchannel selective scalerUnit)
      (fun entry hcovers => ?_) buffer query.context
    obtain ⟨time, hclock⟩ := exists_clockOf?_of_covers hcovers
    exact GasRead.exists_isToldBy_iff hclock

/-- The scaler and the unit of the meter at a channel. -/
def hundredths : Value :=
  .tuple [.int8 (-2), .enumerate 13]

/-- An entry of a channel at the second of January 2024, an hour ahead of UTC. -/
def startEntry : Value :=
  .tuple [.octets [7, 232, 1, 2, 255, 0, 0, 0, 0, 0xFF, 0xC4, 0], .uint8 0x21, .uint32 7, midnight 2]

/-- Entries of a channel: one whose clock shows nothing, one at the start of the span, and a later one
that could not be read. -/
def channelEntries : List Value :=
  [.tuple [.null, .null, .null, .null], startEntry, .tuple [midnight 5, .null, .octets [], .null]]

theorem isReadable_startEntry :
    GasQuery.IsReadable ⟨.daily, januarySpan, 2⟩ true hundredths startEntry := by
  refine ⟨⟨?_, ?_⟩, _, rfl⟩
  · rintro _ ⟨⟩
    exact ⟨0x21, rfl⟩
  · rw [List.forall_mem_singleton]
    rintro _ ⟨⟩
    exact .inr ⟨⟨7, rfl⟩, ⟨-2, MeasureUnit.ofCode 13⟩, _, _, rfl, rfl, 13, rfl, rfl⟩

/-- Of the three entries the one is read that lies at the start of the span. -/
theorem Profile.buffers_read_exactly_of_channelEntries :
    ∃ read, GasQuery.readBuffer ⟨.daily, januarySpan, 2⟩ true (.array channelEntries) hundredths =
        .ok [read] ∧
      read.logTime = januarySpan.start ∧ read.captureTime = ⟨⟨1704153600, 0⟩, 0⟩ := by
  have hexact := (buffers_read_exactly (.array channelEntries) hundredths).2
    ⟨.daily, januarySpan, 2⟩ rfl true
  have htimestamp (bytes : List UInt8) (h : ∃ t, CosemDateTime.decode bytes = .ok t) :
      (Value.octets bytes).IsTimestamp :=
    .octets (CosemDateTime.exists_decode_iff.mp h)
  have hentries : ∀ entry ∈ channelEntries,
      IsEntry (GasQuery.width ⟨.daily, januarySpan, 2⟩ true) entry ∧
        (covers januarySpan entry = true →
          GasQuery.IsReadable ⟨.daily, januarySpan, 2⟩ true hundredths entry) := by
    simp only [channelEntries, List.forall_mem_cons]
    exact ⟨⟨⟨_, _, rfl, by decide, .null⟩, fun h => by cases h⟩,
      ⟨⟨_, _, rfl, by decide, htimestamp _ ⟨_, rfl⟩⟩, fun _ => isReadable_startEntry⟩,
      ⟨⟨_, _, rfl, by decide, htimestamp _ ⟨_, rfl⟩⟩, fun h => by cases h⟩,
      fun _ h => absurd h List.not_mem_nil⟩
  obtain ⟨reads, hreads⟩ := hexact.accepted.mpr ⟨channelEntries, .inr (.inl rfl), hentries⟩
  obtain ⟨entries, hlist, htold⟩ := hexact.reads reads hreads
  obtain rfl : channelEntries = entries := by
    obtain ⟨⟨⟩, _⟩ | heq | ⟨⟨⟩⟩ := hlist
    exact Value.array.inj heq
  obtain ⟨read, rfl, hread⟩ : ∃ read, reads = [read] ∧ GasRead.IsToldBy
      (GasQuery.layout ⟨.daily, januarySpan, 2⟩ true) 2 hundredths startEntry read := by
    obtain _ | ⟨hread, ⟨⟩⟩ := htold
    exact ⟨_, rfl, hread⟩
  have hclock : clockOf? startEntry = some januarySpan.start := by decide
  have hcaptured : shown? (midnight 2) = some ⟨⟨1704153600, 0⟩, 0⟩ := by decide
  exact ⟨read, hreads, Option.some.inj (hread.logTime.symm.trans hclock),
    Option.some.inj (hread.captureTime.symm.trans hcaptured)⟩

end HeadEnd
