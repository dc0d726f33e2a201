import HeadEnd.EventLog
import HeadEnd.Proofs.Positional.Reading
import HeadEnd.Proofs.Profile.Buffer

/-! # Profiles by position

The entries of profiles and event logs, with the columns picked by their position. Which columns an
entry has follows from the period, the channel and whether the meter was asked for a part: the
number of columns that is checked is large enough for every column that is picked. The ends of the
span are shown in local time, and so are the clocks of entries outside it.
-/

namespace HeadEnd

open Calendar

/-- The days of years that sixteen bits hold lie within the covered years. -/
theorem Calendar.CivilDate.toDays_bounds {date : CivilDate}
    (hyear : 0 ≤ date.year ∧ date.year < 65536) (hday : date.day ≤ 31) :
    -720000 ≤ date.toDays ∧ date.toDays ≤ 24000000 := by
  have hmonth : daysBeforeMonth ((date.month + 9) % 12) ≤ 337 := by
    unfold daysBeforeMonth
    omega
  unfold CivilDate.toDays epochOffset
  dsimp only
  split <;> omega

/-- What a date-time denotes has a local time. -/
theorem CosemDateTime.hasLocalTime_of_toZoned? {t : CosemDateTime} {time : ZonedTime}
    (h : t.toZoned? = some time) : time.HasLocalTime := by
  unfold toZoned? at h
  split at h
  · cases h
  · dsimp only at h
    split at h
    case isFalse => cases h
    case isTrue hdate =>
      obtain ⟨hvalid, htime, -⟩ := hdate
      cases h
      have hyear : (0 : Int) ≤ t.year.toNat ∧ (t.year.toNat : Int) < 65536 := by
        have := t.year.toNat_lt
        omega
      have hdays := Calendar.CivilDate.toDays_bounds hyear (day_le_31 hvalid)
      simp only [isTimeOfDay, Bool.and_eq_true, decide_eq_true_eq] at htime
      simp only [ZonedTime.HasLocalTime, ZonedTime.ofCivil, Instant.ofCivil, Instant.Representable,
        Instant.firstSecond, Instant.lastSecond, secondsPerDay, Int.sub_add_cancel]
      omega

def Profile.Span.HasLocalTimes (span : Span) : Prop :=
  span.start.HasLocalTime ∧ span.finish.HasLocalTime

namespace Breakable

/-! ## Spans -/

def shown (time : ZonedTime) : Breakable Outcome String := do
  let civil ← localTime time
  return Rfc3339.civilText civil ++ Rfc3339.offsetText false time.offset

theorem shown_eq {time : ZonedTime} (h : time.HasLocalTime) :
    shown time = pure (Rfc3339.shown time) := by
  rw [shown, localTime_of_hasLocalTime h, pure_bind]
  rfl

def ofZoned (time : ZonedTime) : Breakable Outcome Value :=
  let minutes := -(time.offset.tdiv 60)
  if -32768 ≤ minutes ∧ minutes ≤ 32767 then do
    let civil ← localTime time
    let t := CosemDateTime.ofLocal civil (Int16.ofInt minutes) false
    reading (Outcome.ofData (t.map .dateTime))
  else fail (.invalidData (.offset (-minutes)))

theorem ofZoned_eq {time : ZonedTime} (h : time.HasLocalTime) :
    ofZoned time = intact (Value.ofZoned time) := by
  unfold ofZoned Value.ofZoned CosemDateTime.ofZoned
  dsimp only
  split
  · rw [localTime_of_hasLocalTime h, pure_bind, reading_eq]
  · exact fail_eq _

def rangeSelection (span : Profile.Span) (columns : List Value) :
    Breakable Outcome SelectiveAccess := do
  let start ← ofZoned span.start
  let finish ← ofZoned span.finish
  let range := Value.tuple [Clock.timeReference, start, finish, .array columns]
  return { selector := 1, parameter := range }

variable {span : Profile.Span}

theorem rangeSelection_eq (h : span.HasLocalTimes) (columns : List Value) :
    rangeSelection span columns = intact (Profile.rangeSelection span columns) := by
  simp only [rangeSelection, Profile.rangeSelection, ofZoned_eq h.1, ofZoned_eq h.2, intact_bind,
    intact_pure]

/-! ## Entries -/

variable {α : Type}

theorem exists_cons_of_le {count : Nat} {elements : List α} (h : count + 1 ≤ elements.length) :
    ∃ first rest, elements = first :: rest ∧ count ≤ rest.length := by
  cases elements with
  | nil => cases h
  | cons first rest => exact ⟨first, rest, rfl, Nat.le_of_succ_le_succ h⟩

def toRow (entry : Value) (count : Nat) (failure : Failure) : Breakable Outcome (List Value) :=
  match entry with
  | .tuple elements => if count ≤ elements.length then return elements else fail failure
  | _ => fail failure

theorem toRow_of_le {elements : List Value} {count : Nat} (h : count ≤ elements.length)
    (failure : Failure) : toRow (.tuple elements) count failure = pure elements :=
  if_pos h

theorem toRow_of_not {entry : Value} {count : Nat}
    (h : ¬ ∃ clock values, entry = .tuple (clock :: values) ∧ count + 1 ≤ values.length + 1)
    (failure : Failure) : toRow entry (count + 1) failure = intact (.error failure) := by
  unfold toRow
  split
  case h_1 elements =>
    rw [if_neg, fail_eq]
    intro hcount
    obtain ⟨clock, values, rfl, hrest⟩ := exists_cons_of_le hcount
    exact h ⟨clock, values, rfl, Nat.succ_le_succ hrest⟩
  case h_2 => exact fail_eq failure

def toZoned? (value : Value) (context : String) : Breakable Outcome (Option ZonedTime) := do
  return (← toDateTime? value context).bind CosemDateTime.toZoned?

theorem toZoned?_eq (value : Value) (context : String) :
    toZoned? value context = intact (value.toZoned? context) := by
  simp only [toZoned?, Value.toZoned?, toDateTime?_eq, intact_bind, intact_pure]

/-- What goes on with the instant of a value may show it in local time. -/
theorem toZoned?_bind {value : Value} {context : String} {byForm : Option ZonedTime → Outcome α}
    {byPosition : Option ZonedTime → Breakable Outcome α}
    (hnone : byPosition none = intact (byForm none))
    (hsome : ∀ time : ZonedTime, time.HasLocalTime →
      byPosition (some time) = intact (byForm (some time))) :
    toZoned? value context >>= byPosition = intact (value.toZoned? context >>= byForm) := by
  simp only [toZoned?, Value.toZoned?, toDateTime?_eq, bind_assoc, pure_bind, intact_bind]
  refine bind_congr fun t? => ?_
  cases htime : t?.bind CosemDateTime.toZoned? with
  | none => exact hnone
  | some time =>
      obtain ⟨t, -, ht⟩ := Option.bind_eq_some_iff.mp htime
      exact hsome time (CosemDateTime.hasLocalTime_of_toZoned? ht)

def ifWithin (span : Profile.Span) (clock : Value) (context : String)
    (read : ZonedTime → Breakable Outcome α) : Breakable Outcome (Option α) := do
  match ← toZoned? clock context with
  | none =>
    let _ ← describe clock
    return none
  | some time =>
    if span.contains time.instant then return some (← read time)
    else
      let _ ← shown time
      let _ ← shown span.start
      let _ ← shown span.finish
      return none

theorem ifWithin_eq (h : span.HasLocalTimes) {byForm : ZonedTime → Outcome α}
    {byPosition : ZonedTime → Breakable Outcome α}
    (hread : ∀ time, byPosition time = intact (byForm time)) (clock : Value) (context : String) :
    ifWithin span clock context byPosition =
      intact (Profile.ifWithin span clock context byForm) := by
  refine toZoned?_bind ?_ fun time htime => ?_
  · simp only [describe_eq, pure_bind, intact_pure]
  · dsimp only
    split
    · simp only [hread, intact_bind, intact_pure]
    · simp only [shown_eq htime, shown_eq h.1, shown_eq h.2, pure_bind, intact_pure]

def readEntries (buffer : Value) (context : String)
    (read : Value → Breakable Outcome (Option α)) : Breakable Outcome (List α) := do
  return (← readElements buffer context read).filterMap id

theorem readEntries_eq {byForm : Value → Outcome (Option α)}
    {byPosition : Value → Breakable Outcome (Option α)}
    (h : ∀ entry, byPosition entry = intact (byForm entry)) (buffer : Value) (context : String) :
    readEntries buffer context byPosition =
      intact (Profile.readEntries buffer context byForm) := by
  simp only [readEntries, readElements_eq h, Profile.readEntries, bind_assoc, intact_bind,
    intact_pure]

/-! ## Registers -/

def toScalerUnit (value : Value) (context : String) : Breakable Outcome ScalerUnit :=
  match value with
  | .tuple elements =>
    if elements.length = 2 then do
      let scaler ← reading ((← elementAt elements 0).toNarrow context)
      let code ← reading ((← elementAt elements 1).toInteger context)
      return ⟨scaler, MeasureUnit.ofCode code⟩
    else fail (.unexpected context .scalerAndUnit value)
  | value => fail (.unexpected context .scalerAndUnit value)

theorem toScalerUnit_eq (value : Value) (context : String) :
    toScalerUnit value context = intact (value.toScalerUnit context) := by
  unfold Value.toScalerUnit
  split
  · simp only [toScalerUnit, List.length_cons, List.length_nil, if_true, elementAt,
      List.getElem?_cons_zero, List.getElem?_cons_succ, pure_bind, reading_eq, intact_bind,
      intact_pure]
  · rename_i hpair
    unfold toScalerUnit
    split
    · rename_i elements
      rw [if_neg, fail_eq]
      intro hlength
      obtain ⟨scaler, unit, rfl⟩ := List.length_eq_two.mp hlength
      exact hpair scaler unit rfl
    · exact fail_eq _

def toMeterValue? (value scalerUnit : Value) (context : String) :
    Breakable Outcome (Option MeterValue) := do
  let _ ← describe value
  match ← reading (value.toInteger? context) with
  | none => return none
  | some raw =>
    let scalerUnit ← toScalerUnit scalerUnit context
    return some ⟨⟨raw, scalerUnit.scaler⟩, scalerUnit.unit⟩

theorem toMeterValue?_eq (value scalerUnit : Value) (context : String) :
    toMeterValue? value scalerUnit context = intact (value.toMeterValue? scalerUnit context) := by
  rw [toMeterValue?, Value.toMeterValue?, describe_eq, pure_bind, reading_eq, intact_bind]
  refine bind_congr fun raw? => ?_
  cases raw? with
  | none => rfl
  | some raw => simp only [toScalerUnit_eq, intact_bind, intact_pure]

/-! ## Electricity -/

/-- What the columns of an electricity profile tell. -/
def readElectricityRow (period : Period) (elements : List Value) (scalerUnit : Value)
    (logTime : ZonedTime) : Breakable Outcome ElectricityRead :=
  let value (position : Nat) (context : String) : Breakable Outcome (Option MeterValue) := do
    toMeterValue? (← elementAt elements position) scalerUnit context
  let flags : Breakable Outcome (List ProfileFlag) := do
    reading (← elementAt elements 1).toProfileFlags
  match period with
  | .interval => do
    let flags ← flags
    let energyImport ← value 2 "positive active energy"
    let energyExport ← value 3 "negative active energy"
    return { logTime, energyImport, energyExport, flags := some flags }
  | .daily => do
    let flags ← flags
    let importRate1 ← value 2 "positive active energy (tariff 1)"
    let importRate2 ← value 3 "positive active energy (tariff 2)"
    let exportRate1 ← value 4 "negative active energy (tariff 1)"
    let exportRate2 ← value 5 "negative active energy (tariff 2)"
    return { logTime, importRate1, importRate2, exportRate1, exportRate2, flags := some flags }
  | .monthly => do
    let importRate1 ← value 1 "positive active energy (tariff 1)"
    let importRate2 ← value 2 "positive active energy (tariff 2)"
    let exportRate1 ← value 3 "negative active energy (tariff 1)"
    let exportRate2 ← value 4 "negative active energy (tariff 2)"
    return { logTime, importRate1, importRate2, exportRate1, exportRate2 }

def readElectricity? (query : ElectricityQuery) (scalerUnit entry : Value) :
    Breakable Outcome (Option ElectricityRead) := do
  let width := ElectricityQuery.width query.period
  let elements ← toRow entry width (.unexpected query.context (.structureOfAtLeast width) entry)
  ifWithin query.span (← elementAt elements 0) "clock from profile entry"
    (readElectricityRow query.period elements scalerUnit)

theorem readElectricity?_eq {query : ElectricityQuery} (h : query.span.HasLocalTimes)
    (scalerUnit entry : Value) :
    readElectricity? query scalerUnit entry = intact (query.readEntry? scalerUnit entry) := by
  unfold readElectricity?
  by_cases hwide : ∃ clock values, entry = .tuple (clock :: values) ∧
      ElectricityQuery.width query.period ≤ values.length + 1
  case neg =>
    rw [ElectricityQuery.readEntry?_eq_error hwide]
    obtain ⟨width, hwidth⟩ : ∃ width, ElectricityQuery.width query.period = width + 1 := by
      cases query.period <;> exact ⟨_, rfl⟩
    rw [hwidth] at hwide ⊢
    dsimp only
    rw [toRow_of_not hwide]
    rfl
  case pos =>
    obtain ⟨clock, values, rfl, hwidth⟩ := hwide
    dsimp only
    rw [toRow_of_le (show _ ≤ (clock :: values).length from hwidth), pure_bind]
    obtain ⟨period, span, channel⟩ := query
    simp only [elementAt, List.getElem?_cons_zero, pure_bind]
    cases period with
    | interval =>
        obtain ⟨status, rest, rfl, h2⟩ := exists_cons_of_le (Nat.le_of_succ_le_succ hwidth)
        obtain ⟨energyImport, rest, rfl, h1⟩ := exists_cons_of_le h2
        obtain ⟨energyExport, rest, rfl, -⟩ := exists_cons_of_le h1
        refine ifWithin_eq h (fun logTime => ?_) clock _
        simp only [readElectricityRow, elementAt, List.getElem?_cons_zero,
          List.getElem?_cons_succ, pure_bind, reading_eq, toMeterValue?_eq,
          ElectricityQuery.readInterval, intact_bind, intact_pure]
    | daily =>
        obtain ⟨status, rest, rfl, h4⟩ := exists_cons_of_le (Nat.le_of_succ_le_succ hwidth)
        obtain ⟨import1, rest, rfl, h3⟩ := exists_cons_of_le h4
        obtain ⟨import2, rest, rfl, h2⟩ := exists_cons_of_le h3
        obtain ⟨export1, rest, rfl, h1⟩ := exists_cons_of_le h2
        obtain ⟨export2, rest, rfl, -⟩ := exists_cons_of_le h1
        refine ifWithin_eq h (fun logTime => ?_) clock _
        simp only [readElectricityRow, elementAt, List.getElem?_cons_zero,
          List.getElem?_cons_succ, pure_bind, reading_eq, toMeterValue?_eq,
          ElectricityQuery.readRates, intact_bind, intact_pure]
    | monthly =>
        obtain ⟨import1, rest, rfl, h3⟩ := exists_cons_of_le (Nat.le_of_succ_le_succ hwidth)
        obtain ⟨import2, rest, rfl, h2⟩ := exists_cons_of_le h3
        obtain ⟨export1, rest, rfl, h1⟩ := exists_cons_of_le h2
        obtain ⟨export2, rest, rfl, -⟩ := exists_cons_of_le h1
        refine ifWithin_eq h (fun logTime => ?_) clock _
        simp only [readElectricityRow, elementAt, List.getElem?_cons_zero,
          List.getElem?_cons_succ, pure_bind, toMeterValue?_eq, ElectricityQuery.readRates,
          intact_bind, intact_pure]

def readElectricity (query : ElectricityQuery) (buffer scalerUnit : Value) :
    Breakable Outcome (List ElectricityRead) :=
  readEntries buffer query.context (readElectricity? query scalerUnit)

theorem readElectricity_eq {query : ElectricityQuery} (h : query.span.HasLocalTimes)
    (buffer scalerUnit : Value) :
    readElectricity query buffer scalerUnit = intact (query.readBuffer buffer scalerUnit) :=
  readEntries_eq (readElectricity?_eq h scalerUnit) buffer query.context

/-! ## Gas -/

def gasColumn (query : GasQuery) (selective : Bool) : Breakable Outcome Nat := do
  let offset := 2 * (← difference query.channel.toNat 1)
  match query.period, selective with
  | .interval, _ => return 2
  | .daily, true => return 2
  | .daily, false => return 6 + offset
  | .monthly, true => return 1
  | .monthly, false => return 5 + offset

theorem gasColumn_eq {query : GasQuery} (h : Profile.checkChannel query.channel = .ok ())
    (selective : Bool) : gasColumn query selective = pure (query.valueColumn selective) := by
  have hchannel := GasQuery.channel_bounds h
  have hle : (1 : Int) ≤ query.channel.toNat := by omega
  have hoffset : ((query.channel.toNat : Int) - 1).toNat = query.channel.toNat - 1 := by omega
  rw [gasColumn, difference_of_le hle, pure_bind, hoffset]
  unfold GasQuery.valueColumn
  cases query.period <;> cases selective <;> rfl

/-- Without the check of the channel no column could be told. -/
example (span : Profile.Span) :
    gasColumn ⟨.daily, span, 0⟩ false = throw (.underflow 0 1) := rfl

/-- What the columns of a gas profile tell. -/
def readGasRow (period : Period) (elements : List Value) (column : Nat) (scalerUnit : Value)
    (logTime : ZonedTime) : Breakable Outcome GasRead := do
  let consumption ← toMeterValue? (← elementAt elements column) scalerUnit "gas value"
  match ← toZoned? (← elementAt elements (column + 1)) "gas capture time" with
  | none => fail (.decode "gas capture time" (.noInstant (← elementAt elements (column + 1))))
  | some captureTime =>
    let flags ←
      match period with
      | .monthly => pure none
      | _ => some <$> reading (← elementAt elements 1).toProfileFlags
    return { logTime, consumption, captureTime, flags }

theorem readGasRow_eq {query : GasQuery} {elements : List Value} {column : Nat}
    {c : GasQuery.Columns} (hsecond : elements[1]? = some c.second)
    (hvalue : elements[column]? = some c.value)
    (htime : elements[column + 1]? = some c.captureTime) (scalerUnit : Value)
    (logTime : ZonedTime) :
    readGasRow query.period elements column scalerUnit logTime =
      intact (query.readColumns scalerUnit c logTime) := by
  simp only [readGasRow, GasQuery.readColumns, elementAt_of_getElem? hsecond,
    elementAt_of_getElem? hvalue, elementAt_of_getElem? htime, pure_bind, toMeterValue?_eq,
    toZoned?_eq, reading_eq, intact_bind]
  refine bind_congr fun consumption => bind_congr fun time? => ?_
  cases time? with
  | none => exact fail_eq _
  | some captureTime =>
      dsimp only
      cases query.period with
      | monthly => rfl
      | _ => simp only [intact_bind, intact_map, intact_pure]

def readGas? (query : GasQuery) (column : Nat) (scalerUnit entry : Value) :
    Breakable Outcome (Option GasRead) := do
  let elements ← toRow entry (column + 2)
    (.unexpected query.context (.structureOfAtLeast (column + 2)) entry)
  ifWithin query.span (← elementAt elements 0) "clock from gas profile entry"
    (readGasRow query.period elements column scalerUnit)

theorem readGas?_eq {query : GasQuery} (h : query.span.HasLocalTimes) (selective : Bool)
    (scalerUnit entry : Value) :
    readGas? query (query.valueColumn selective) scalerUnit entry =
      intact (query.readEntry? selective scalerUnit entry) := by
  unfold readGas?
  by_cases hwide : ∃ clock values, entry = .tuple (clock :: values) ∧
      query.valueColumn selective + 2 ≤ values.length + 1
  case neg =>
    have hread : query.readEntry? selective scalerUnit entry = .error (.unexpected query.context
        (.structureOfAtLeast (query.valueColumn selective + 2)) entry) := by
      unfold GasQuery.readEntry?
      simp only [GasQuery.columns?_eq_none hwide]
    rw [hread, toRow_of_not hwide]
    rfl
  case pos =>
    obtain ⟨clock, values, rfl, hwidth⟩ := hwide
    have hlength : query.valueColumn selective + 2 ≤ (clock :: values).length := hwidth
    obtain ⟨second, value, captureTime, hcolumns, hpair, hdrop⟩ :=
      GasQuery.exists_columns?_eq hlength
    rw [toRow_of_le hlength, pure_bind, GasQuery.eq_ifWithin_of_columns? hcolumns]
    simp only [elementAt, List.getElem?_cons_zero, pure_bind]
    have hat (i : Nat) (hi : i < 2) : (clock :: values)[query.valueColumn selective + i]? =
        [value, captureTime][i]? := by
      rw [← hdrop, List.getElem?_take_of_lt hi, List.getElem?_drop]
    have hsecond : (clock :: values)[1]? = some second := by
      rw [← List.getElem?_take_of_lt (show 1 < 2 by decide), hpair]
      rfl
    exact ifWithin_eq h (readGasRow_eq hsecond (hat 0 (by decide)) (hat 1 (by decide)) scalerUnit)
      clock _

def readGas (query : GasQuery) (selective : Bool) (buffer scalerUnit : Value) :
    Breakable Outcome (List GasRead) := do
  let column ← gasColumn query selective
  readEntries buffer query.context (readGas? query column scalerUnit)

theorem readGas_eq {query : GasQuery} (h : query.span.HasLocalTimes)
    (hchannel : Profile.checkChannel query.channel = .ok ()) (selective : Bool)
    (buffer scalerUnit : Value) :
    readGas query selective buffer scalerUnit =
      intact (query.readBuffer selective buffer scalerUnit) := by
  rw [readGas, gasColumn_eq hchannel, pure_bind]
  exact readEntries_eq (readGas?_eq h selective scalerUnit) buffer query.context

/-! ## Event logs -/

def readEvent? (query : EventQuery) (entry : Value) : Breakable Outcome (Option Event) := do
  let elements ← toRow entry 2 (.unexpected query.context .event entry)
  match ← toZoned? (← elementAt elements 0) ("Clock from " ++ query.context) with
  | none =>
    let _ ← describe (← elementAt elements 0)
    return none
  | some time =>
    let code ← reading ((← elementAt elements 1).toInteger ("Event code from " ++ query.context))
    let counter ← reading (query.readCounter? (elements.drop 2))
    return some { time, code, counter, log := query.log }

theorem readEvent?_eq (query : EventQuery) (entry : Value) :
    readEvent? query entry = intact (query.readEntry? entry) := by
  unfold readEvent? EventQuery.readEntry?
  split
  case h_1 clock code rest =>
    have hcount : 2 ≤ (clock :: code :: rest).length := by simp
    rw [toRow_of_le hcount, pure_bind]
    simp only [elementAt, List.getElem?_cons_zero, List.getElem?_cons_succ, pure_bind, toZoned?_eq,
      describe_eq, reading_eq, intact_bind]
    refine bind_congr fun time? => ?_
    cases time? with
    | none => rfl
    | some time => simp only [intact_bind, intact_pure]; rfl
  case h_2 hshort =>
    rw [toRow_of_not]
    · rfl
    · rintro ⟨clock, values, rfl, hcount⟩
      obtain ⟨code, rest, rfl, -⟩ := exists_cons_of_le (Nat.le_of_succ_le_succ hcount)
      exact hshort _ _ _ rfl

def readEvents (query : EventQuery) (buffer : Value) : Breakable Outcome (List Event) :=
  readEntries buffer query.context (readEvent? query)

theorem readEvents_eq (query : EventQuery) (buffer : Value) :
    readEvents query buffer = intact (query.readBuffer buffer) :=
  readEntries_eq (readEvent?_eq query) buffer query.context

end Breakable

end HeadEnd
