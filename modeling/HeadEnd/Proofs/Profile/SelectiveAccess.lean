import HeadEnd.Command.Catalogue
import HeadEnd.Proofs.Cosem.Instant
import HeadEnd.Proofs.Key.Staging
import HeadEnd.Proofs.Profile.Meter
import HeadEnd.Proofs.Session.Result

/-! # Selective access

Whether a meter selects the entries of a span itself or answers with a whole profile, the same
entries are read, or reading them fails in the same way.
-/

namespace HeadEnd

namespace Profile

/-! ## Clocks -/

namespace IsClock

variable {clock : Value} {time : ZonedTime}

theorem toZoned?_eq (h : IsClock clock) (context : String) :
    clock.toZoned? context = .ok (shown? clock) := by
  cases h with
  | null => rfl
  | octets hdecode =>
      have hlength := (CosemDateTime.checked_of_decode hdecode).1
      simp only [Value.toZoned?, Value.toDateTime?, if_pos hlength, shown?, hdecode]
      rfl
  | dateTime _ => rfl

theorem nanos_shown? (h : IsClock clock) (htime : shown? clock = some time) :
    ∃ hundredths ≤ 99, time.instant.nanos = 10000000 * hundredths := by
  cases h with
  | null => cases htime
  | octets hdecode =>
      simp only [shown?, hdecode] at htime
      exact CosemDateTime.nanos_toZoned? (CosemDateTime.checked_of_decode hdecode).2 htime
  | dateTime hchecked => exact CosemDateTime.nanos_toZoned? hchecked htime

end IsClock

/-! ## Ranges -/

/-- Both ends of the span can be told by a date-time. -/
structure Span.IsTellable (span : Span) : Prop where
  start : span.start.IsTellable
  finish : span.finish.IsTellable

/-- The range that the meter is sent for a span. -/
def Span.range (span : Span) (columns : List Column) : Range :=
  ⟨span.start.instant.toHundredths, span.finish.instant.toHundredths, columns⟩

theorem mapM_ofReference? (columns : List Column) :
    (columns.map Column.reference).mapM Column.ofReference? = some columns := by
  induction columns with
  | nil => rfl
  | cons column columns ih =>
      rw [List.map_cons, List.mapM_cons, ih, Column.ofReference?_reference]
      rfl

/-- The meter takes from the selection the range that it was made of. -/
theorem Span.IsTellable.exists_rangeSelection {span : Span} (h : span.IsTellable)
    (columns : List Column) :
    ∃ selection, rangeSelection span (columns.map Column.reference) = .ok selection ∧
      Range.ofSelection? selection = some (span.range columns) := by
  obtain ⟨start, hstart, hstartShown⟩ := h.start.exists_ofZoned
  obtain ⟨finish, hfinish, hfinishShown⟩ := h.finish.exists_ofZoned
  refine ⟨⟨1, .tuple [Clock.timeReference, .dateTime start, .dateTime finish,
    .array (columns.map Column.reference)]⟩, ?_, ?_⟩
  · unfold rangeSelection Value.ofZoned
    rw [hstart, hfinish]
    rfl
  · change (do
      let first ← start.toZoned?
      let last ← finish.toZoned?
      let columns ← (columns.map Column.reference).mapM Column.ofReference?
      return Range.mk first.instant last.instant columns) = _
    rw [hstartShown, hfinishShown, mapM_ofReference?]
    rfl

/-! ## Entries -/

variable {columns : List Column} {entry : Entry columns} {span : Span} {requested : List Column}
  {α : Type}

/-- An entry outside the range is outside the span: its clock tells whole hundredths of a second, so
that the ends lose nothing when they are told in hundredths as well. -/
theorem ifWithin_of_not_liesIn (h : entry.liesIn (span.range requested) = false) (context : String)
    (read : ZonedTime → Outcome α) : ifWithin span entry.clock context read = .ok none := by
  unfold ifWithin
  rw [entry.isClock.toZoned?_eq]
  cases hshown : shown? entry.clock with
  | none => rfl
  | some time =>
      obtain ⟨hundredths, hlt, hnanos⟩ := entry.isClock.nanos_shown? hshown
      have hout : span.contains time.instant = false := by
        rw [← Bool.not_eq_true]
        intro hin
        simp only [Span.contains, Bool.and_eq_true, decide_eq_true_eq] at hin
        have hfirst := Instant.toHundredths_le hin.1
        have hlast := Instant.le_toHundredths hnanos hlt hin.2
        simp [Entry.liesIn, hshown, Span.range, hfirst, hlast] at h
      change (if span.contains time.instant then _ else _) = _
      rw [hout]
      rfl

/-! ## Reading entries -/

theorem readEntries_cons (value : Value) (values : List Value) (context : String)
    (read : Value → Outcome (Option α)) :
    readEntries (.array (value :: values)) context read = do
      let first? ← read value
      let rest ← readEntries (.array values) context read
      return first?.toList ++ rest := by
  change (value :: values).mapM read >>= (fun reads => pure (reads.filterMap id)) =
    read value >>= fun first? => (values.mapM read >>= fun reads => pure (reads.filterMap id)) >>=
      fun rest => pure (first?.toList ++ rest)
  rw [List.mapM_cons]
  cases read value with
  | error failure => rfl
  | ok first? =>
      cases values.mapM read with
      | error failure => rfl
      | ok rest => cases first? <;> rfl

/-- What is read of some of the elements is read of all, if nothing is read of the others. -/
theorem readEntries_filter {β : Type} {elements : List β} {keep : β → Bool} {whole part : β → Value}
    {read readPart : Value → Outcome (Option α)}
    (hkeep : ∀ b, readPart (part b) = read (whole b))
    (hdrop : ∀ b, keep b = false → read (whole b) = .ok none) (context : String) :
    readEntries (.array ((elements.filter keep).map part)) context readPart =
      readEntries (.array (elements.map whole)) context read := by
  induction elements with
  | nil => rfl
  | cons b elements ih =>
      rw [List.map_cons, readEntries_cons, ← ih]
      cases hb : keep b with
      | true => rw [List.filter_cons_of_pos hb, List.map_cons, readEntries_cons, hkeep]
      | false =>
          rw [List.filter_cons_of_neg (by simp [hb]), hdrop b hb]
          change _ = readEntries _ _ _ >>= fun rest => pure rest
          rw [bind_pure]

/-! ## Columns of entries -/

section Columns

variable (hnodup : (Column.clock :: columns).Nodup)

include hnodup

theorem map_value? (entry : Entry columns) :
    (Column.clock :: columns).map entry.value? = entry.row.map some := by
  have hlength : entry.row.length = (Column.clock :: columns).length :=
    congrArg (· + 1) entry.complete
  refine List.ext_getElem (by simp [hlength]) fun i hcolumn hvalue => ?_
  rw [List.length_map] at hcolumn hvalue
  rw [List.getElem_map, List.getElem_map, Entry.value?, hnodup.idxOf_getElem i hcolumn,
    List.getElem?_eq_getElem hvalue]

/-- Neighbouring columns hold neighbouring values. -/
theorem filterMap_value?_slice (entry : Entry columns) (start count : Nat) :
    (((Column.clock :: columns).drop start).take count).filterMap entry.value? =
      (entry.row.drop start).take count := by
  have hslice := congrArg (fun values => ((values.drop start).take count).filterMap id)
    (map_value? hnodup entry)
  simpa only [← List.map_drop, ← List.map_take, List.filterMap_map, Function.id_comp,
    List.filterMap_some] using hslice

end Columns

end Profile

/-! ## Electricity profiles -/

namespace ElectricityQuery

open Profile

/-- The columns that are asked for; none for all. -/
def requested (others : List Column) : Period → List Column
  | .interval => []
  | period => (Column.clock :: period.columns others).take (width period)

variable {query : ElectricityQuery} {others : List Column} {scalerUnit : Value}

theorem columns_eq (period : Period) :
    columns period = (requested others period).map Column.reference := by
  cases period <;> rfl

theorem width_le (entry : Entry (query.period.columns others)) :
    width query.period ≤ entry.row.length := by
  have hcomplete := entry.complete
  change _ ≤ entry.values.length + 1
  rw [hcomplete]
  cases query.period with
  | interval => exact Nat.le_add_left 4 others.length
  | daily => exact (by decide : 6 ≤ 14)
  | monthly => exact (by decide : 5 ≤ 13)

/-- An entry with enough columns is read if its clock lies in the span. -/
theorem exists_readEntry?_eq {clock : Value} {values : List Value}
    (h : width query.period ≤ (clock :: values).length) :
    ∃ read, query.readEntry? scalerUnit (.tuple (clock :: values)) =
      ifWithin query.span clock "clock from profile entry" read := by
  unfold readEntry?
  generalize query.period = period at h ⊢
  cases period with
  | interval =>
      match values, h with
      | _ :: _ :: _ :: _, _ => exact ⟨_, rfl⟩
  | daily =>
      match values, h with
      | _ :: _ :: _ :: _ :: _ :: _, _ => exact ⟨_, rfl⟩
  | monthly =>
      match values, h with
      | _ :: _ :: _ :: _ :: _, _ => exact ⟨_, rfl⟩

/-- Columns beyond those of the table are not looked at. -/
theorem readEntry?_take {row : List Value} (h : width query.period ≤ row.length) :
    query.readEntry? scalerUnit (.tuple (row.take (width query.period))) =
      query.readEntry? scalerUnit (.tuple row) := by
  unfold readEntry?
  generalize query.period = period at h ⊢
  cases period with
  | interval =>
      match row, h with
      | _ :: _ :: _ :: _ :: _, _ => rfl
  | daily =>
      match row, h with
      | _ :: _ :: _ :: _ :: _ :: _ :: _, _ => rfl
  | monthly =>
      match row, h with
      | _ :: _ :: _ :: _ :: _ :: _, _ => rfl

theorem project_requested {period : Period} (h : period ≠ .interval)
    (entry : Entry (period.columns others)) :
    entry.project (requested others period) = entry.row.take (width period) := by
  have hrequested : requested others period =
      ((Column.clock :: period.columns others).drop 0).take (width period) := by
    cases period with
    | interval => exact absurd rfl h
    | daily => rfl
    | monthly => rfl
  have hne : requested others period ≠ [] := by
    cases period with
    | interval => exact absurd rfl h
    | daily => exact List.cons_ne_nil _ _
    | monthly => exact List.cons_ne_nil _ _
  rw [Entry.project, if_neg hne, hrequested,
    filterMap_value?_slice (Period.nodup_columns h others), List.drop_zero]

theorem readEntry?_project (entry : Entry (query.period.columns others)) :
    query.readEntry? scalerUnit (.tuple (entry.project (requested others query.period))) =
      query.readEntry? scalerUnit (.tuple entry.row) := by
  by_cases h : query.period = .interval
  -- The entries of the interval profile are asked for as they are.
  · have hnone : requested others query.period = [] := by
      rw [h]
      rfl
    rw [hnone, Entry.project_nil]
  · rw [project_requested h, readEntry?_take (width_le entry)]

/-- The part of a profile that the meter is asked for reads as the whole. -/
theorem readBuffer_part (entries : List (Entry (query.period.columns others))) :
    query.readBuffer (part entries (query.span.range (requested others query.period))) scalerUnit =
      query.readBuffer (whole entries) scalerUnit := by
  refine readEntries_filter readEntry?_project (fun entry hout => ?_) query.context
  obtain ⟨read, hread⟩ := exists_readEntry?_eq (width_le entry)
  exact hread.trans (ifWithin_of_not_liesIn hout _ read)

/-- What is read when the buffer holds a value. -/
theorem result_fetch {meter : Meter} {device : Device} {address : AttributeAddress}
    {buffer : Value} (haddress : query.bufferAddress device.supportsSelectiveAccess = .ok address)
    (hbuffer : meter.read address = .ok (.success buffer)) :
    query.fetch.result meter.answers device = do
      let scalerUnit : GetResult ← meter.read (← query.scalerUnitAddress)
      scalerUnit.result.check "scaler and unit of periodic meter reads"
      return ⟨query.period, ← query.readBuffer buffer scalerUnit.value⟩ := by
  unfold fetch
  rw [Operation.result_bind (Operation.ending_lift _)]
  refine congrArg _ (funext fun scalerUnitAddress => ?_)
  rw [Operation.result_bind_ok Operation.ending_get, haddress,
    Operation.result_bind_ok (Operation.ending_lift _),
    Operation.result_bind_ok (Operation.ending_describe _),
    Operation.result_bind (Operation.ending_readValue Meter.answers_readBatch_singleton _ _),
    Operation.valueAt_of_success hbuffer]
  change Operation.result _ _ _ = _
  rw [Operation.result_bind_ok (Operation.ending_describe _),
    Operation.result_bind (Operation.ending_readAttribute _)]
  refine congrArg _ (funext fun scalerUnit => ?_)
  rw [Operation.result_bind (Operation.ending_lift _)]
  refine congrArg _ (funext fun _ => ?_)
  rw [Operation.result_bind (Operation.ending_lift _)]
  rfl

theorem result_fetch_selective {meter : Meter} (h : query.span.IsTellable) (device : Device) :
    query.fetch.result meter.answers { device with supportsSelectiveAccess := true } =
      query.fetch.result meter.answers { device with supportsSelectiveAccess := false } := by
  obtain ⟨selection, hselection, hrange⟩ :=
    h.exists_rangeSelection (requested meter.others query.period)
  have haddress : query.bufferAddress true = .ok
      { Profile.bufferAddress query.period.logicalName with selection := some selection } := by
    unfold bufferAddress
    rw [columns_eq, hselection]
    rfl
  have hread := meter.read_period query.period (some selection)
  rw [answer_some hrange] at hread
  rw [result_fetch haddress hread, result_fetch rfl (meter.read_period query.period none)]
  simp only [readBuffer_part]

end ElectricityQuery

/-! ## Gas profiles -/

namespace GasQuery

open Profile

def requested (query : GasQuery) : List Column :=
  let channel := [.channelValue query.channel, .channelTime query.channel]
  match query.period with
  | .interval => []
  | .daily => .clock :: .flags :: channel
  | .monthly => .clock :: channel

variable {query : GasQuery} {columns : List Column} {scalerUnit : Value}

theorem columns_eq (query : GasQuery) : query.columns = query.requested.map Column.reference := by
  unfold GasQuery.columns requested
  cases query.period <;> rfl

/-- An entry with enough columns is read with its second value and with two neighbouring ones. -/
theorem exists_columns?_eq {column : Nat} {clock : Value} {values : List Value}
    (h : column + 2 ≤ (clock :: values).length) :
    ∃ second value captureTime,
      columns? column (.tuple (clock :: values)) = some ⟨clock, second, value, captureTime⟩ ∧
      (clock :: values).take 2 = [clock, second] ∧
      ((clock :: values).drop column).take 2 = [value, captureTime] := by
  match values, h with
  | second :: rest, h =>
    obtain ⟨value, captureTime, more, hdrop⟩ : ∃ value captureTime more,
        (clock :: second :: rest).drop column = value :: captureTime :: more := by
      rw [List.drop_eq_getElem_cons (show column < (clock :: second :: rest).length by omega),
        List.drop_eq_getElem_cons (show column + 1 < (clock :: second :: rest).length by omega)]
      exact ⟨_, _, _, rfl⟩
    refine ⟨second, value, captureTime, ?_, rfl, ?_⟩
    · simp only [columns?, hdrop]
    · rw [hdrop]
      rfl

theorem eq_ifWithin_of_columns? {selective : Bool} {entry : Value} {c : Columns}
    (h : columns? (query.valueColumn selective) entry = some c) :
    query.readEntry? selective scalerUnit entry =
      ifWithin query.span c.clock "clock from gas profile entry" (query.readColumns scalerUnit c) := by
  unfold readEntry?
  simp only [h]

/-- The profile has the columns of the query, and the values that are asked for read as the whole of
an entry. -/
structure IsKeptIn (query : GasQuery) (columns : List Column) : Prop where
  width : query.valueColumn false + 2 ≤ columns.length + 1
  project : ∀ (entry : Entry columns) (scalerUnit : Value),
    query.readEntry? true scalerUnit (.tuple (entry.project query.requested)) =
      query.readEntry? false scalerUnit (.tuple entry.row)

/-- The part of a profile that the meter is asked for reads as the whole. -/
theorem IsKeptIn.readBuffer_part (h : query.IsKeptIn columns) (entries : List (Entry columns)) :
    query.readBuffer true (part entries (query.span.range query.requested)) scalerUnit =
      query.readBuffer false (whole entries) scalerUnit := by
  refine readEntries_filter (h.project · scalerUnit) (fun entry hout => ?_) query.context
  have hwidth : query.valueColumn false + 2 ≤ entry.row.length := by
    have hcomplete : entry.row.length = columns.length + 1 := congrArg (· + 1) entry.complete
    rw [hcomplete]
    exact h.width
  obtain ⟨second, value, captureTime, hcolumns, _⟩ := exists_columns?_eq hwidth
  exact (eq_ifWithin_of_columns? hcolumns).trans (ifWithin_of_not_liesIn hout _ _)

/-- The channel is found in a profile if the columns that are asked for are the first ones and the
two of the channel, and if nothing is read but these. -/
theorem isKeptIn_of_slices {first : Nat} (hfirst : first ≤ 2)
    (hnodup : (Column.clock :: columns).Nodup)
    (hwidth : query.valueColumn false + 2 ≤ columns.length + 1) (hne : query.requested ≠ [])
    (hrequested : query.requested = (Column.clock :: columns).take first ++
      ((Column.clock :: columns).drop (query.valueColumn false)).take 2)
    (hread : ∀ scalerUnit clock second value captureTime,
      query.readEntry? true scalerUnit
          (.tuple ([clock, second].take first ++ [value, captureTime])) =
        ifWithin query.span clock "clock from gas profile entry"
          (query.readColumns scalerUnit ⟨clock, second, value, captureTime⟩)) :
    query.IsKeptIn columns := by
  refine ⟨hwidth, fun entry scalerUnit => ?_⟩
  have hlength : entry.row.length = columns.length + 1 := congrArg (· + 1) entry.complete
  rw [← hlength] at hwidth
  obtain ⟨second, value, captureTime, hcolumns, hpair, hchannel⟩ := exists_columns?_eq hwidth
  have hproject : entry.project query.requested =
      [entry.clock, second].take first ++ [value, captureTime] := by
    have hslice := filterMap_value?_slice hnodup entry 0 first
    rw [List.drop_zero, List.drop_zero] at hslice
    calc entry.project query.requested
        = query.requested.filterMap entry.value? := if_neg hne
      _ = entry.row.take first ++ (entry.row.drop (query.valueColumn false)).take 2 := by
          rw [hrequested, List.filterMap_append, hslice, filterMap_value?_slice hnodup]
      _ = (entry.row.take 2).take first ++ (entry.row.drop (query.valueColumn false)).take 2 := by
          rw [List.take_take, Nat.min_eq_left hfirst]
      _ = [entry.clock, second].take first ++ [value, captureTime] :=
          congr (congrArg _ (congrArg _ hpair)) hchannel
  rw [hproject, hread]
  exact (eq_ifWithin_of_columns? hcolumns).symm

theorem channel_bounds {channel : UInt8} (h : checkChannel channel = .ok ()) :
    1 ≤ channel.toNat ∧ channel.toNat ≤ 4 := by
  unfold checkChannel at h
  split at h
  case isTrue hbounds =>
    exact ⟨UInt8.le_iff_toNat_le.mp hbounds.1, UInt8.le_iff_toNat_le.mp hbounds.2⟩
  case isFalse => cases h

theorem channel_cases {channel : UInt8} (h : checkChannel channel = .ok ()) :
    channel = 1 ∨ channel = 2 ∨ channel = 3 ∨ channel = 4 := by
  have hbounds := channel_bounds h
  simp only [← UInt8.toNat_inj, UInt8.reduceToNat]
  omega

theorem isKeptIn_interval (span : Span) (channel : UInt8) :
    IsKeptIn ⟨.interval, span, channel⟩ (channelColumns channel) where
  width := (by decide : 4 ≤ 4)
  project _ _ := rfl

variable {channel : UInt8} (hchannel : checkChannel channel = .ok ()) (others : List Column)
  (span : Span)

include hchannel

theorem isKeptIn_daily : IsKeptIn ⟨.daily, span, channel⟩ (Period.daily.columns others) := by
  have hbounds := channel_bounds hchannel
  have hwidth : 6 + 2 * (channel.toNat - 1) + 2 ≤ 14 := by omega
  refine isKeptIn_of_slices (Nat.le_refl 2) (Period.nodup_columns (by decide) others) hwidth
    (List.cons_ne_nil _ _) ?_ fun _ _ _ _ _ => rfl
  obtain rfl | rfl | rfl | rfl := channel_cases hchannel <;> rfl

theorem isKeptIn_monthly : IsKeptIn ⟨.monthly, span, channel⟩ (Period.monthly.columns others) := by
  have hbounds := channel_bounds hchannel
  have hwidth : 5 + 2 * (channel.toNat - 1) + 2 ≤ 13 := by omega
  -- Without flags the second value is not looked at, so that it may be another one.
  refine isKeptIn_of_slices (Nat.le_succ 1) (Period.nodup_columns (by decide) others) hwidth
    (List.cons_ne_nil _ _) ?_ fun _ _ _ _ _ => rfl
  obtain rfl | rfl | rfl | rfl := channel_cases hchannel <;> rfl

omit hchannel

/-- What is read of a channel that there is, when the buffer holds a value. -/
theorem result_fetch {meter : Meter} {device : Device} {address : AttributeAddress} {buffer : Value}
    (hchannel : checkChannel query.channel = .ok ())
    (haddress : query.bufferAddress device.supportsSelectiveAccess = .ok address)
    (hbuffer : meter.read address = .ok (.success buffer)) :
    query.fetch.result meter.answers device = do
      let scalerUnit ← Operation.valueAt meter.answers
        "scaler and unit of periodic gas meter reads" (channelScalerUnit query.channel)
      return ⟨query.period,
        ← query.readBuffer device.supportsSelectiveAccess buffer scalerUnit⟩ := by
  unfold fetch
  rw [hchannel, Operation.result_bind_ok (Operation.ending_lift _),
    Operation.result_bind_ok Operation.ending_get]
  dsimp only
  rw [haddress, Operation.result_bind_ok (Operation.ending_lift _),
    Operation.result_bind_ok (Operation.ending_describe _),
    Operation.result_bind (Operation.ending_readValue Meter.answers_readBatch_singleton _ _),
    Operation.valueAt_of_success hbuffer]
  change Operation.result _ _ _ = _
  rw [Operation.result_bind_ok (Operation.ending_describe _),
    Operation.result_bind (Operation.ending_readValue Meter.answers_readBatch_singleton _ _)]
  refine congrArg _ (funext fun scalerUnit => ?_)
  rw [Operation.result_bind (Operation.ending_lift _)]
  rfl

/-- The meter keeps a profile with the channel of the query. -/
theorem exists_isKeptIn (meter : Meter) (hchannel : checkChannel query.channel = .ok ()) :
    ∃ (columns : List Column) (entries : List (Entry columns)), query.IsKeptIn columns ∧
      ∀ selection, meter.read { Profile.bufferAddress query.logicalName with selection := selection } =
        .ok (answer entries selection) := by
  obtain ⟨period, span, channel⟩ := query
  cases period with
  | interval =>
      exact ⟨_, meter.channelEntries channel, isKeptIn_interval span channel,
        meter.read_channel channel⟩
  | daily =>
      exact ⟨_, meter.entries .daily, isKeptIn_daily hchannel meter.others span,
        meter.read_period .daily⟩
  | monthly =>
      exact ⟨_, meter.entries .monthly, isKeptIn_monthly hchannel meter.others span,
        meter.read_period .monthly⟩

theorem bufferAddress_true {selection : SelectiveAccess}
    (h : rangeSelection query.span (query.requested.map Column.reference) = .ok selection) :
    query.bufferAddress true = .ok
      { Profile.bufferAddress query.logicalName with selection := some selection } := by
  unfold bufferAddress
  rw [columns_eq, h]
  rfl

theorem bufferAddress_false :
    query.bufferAddress false = .ok
      { Profile.bufferAddress query.logicalName with selection := none } :=
  rfl

theorem result_fetch_of_channel {meter : Meter} {device : Device} {failure : Failure}
    (h : checkChannel query.channel = .error failure) :
    query.fetch.result meter.answers device = .error failure := by
  unfold fetch
  rw [h, Operation.result_bind (Operation.ending_lift _)]
  rfl

theorem result_fetch_selective {meter : Meter} (h : query.span.IsTellable) (device : Device) :
    query.fetch.result meter.answers { device with supportsSelectiveAccess := true } =
      query.fetch.result meter.answers { device with supportsSelectiveAccess := false } := by
  cases hchannel : checkChannel query.channel with
  | error failure => rw [result_fetch_of_channel hchannel, result_fetch_of_channel hchannel]
  | ok _ =>
      obtain ⟨selection, hselection, hrange⟩ := h.exists_rangeSelection query.requested
      obtain ⟨columns, entries, hkept, hread⟩ := exists_isKeptIn meter hchannel
      have hpart := hread (some selection)
      rw [answer_some hrange] at hpart
      rw [result_fetch hchannel (bufferAddress_true hselection) hpart,
        result_fetch hchannel bufferAddress_false (hread none)]
      simp only [hkept.readBuffer_part]

end GasQuery

/-- Whether the meter selects the entries itself or answers with the whole profile, a command that
reads a profile ends in the same way. -/
theorem Meter.periodicReads_agree (meter : Meter) (device : Device) (period : Period)
    {span : Profile.Span} (h : span.IsTellable) :
    (∀ channel : Option UInt8,
      (Command.getPeriodicMeterReads.execute
          (⟨period, span, channel⟩ : ElectricityQuery)).result meter.answers
          { device with supportsSelectiveAccess := true } =
        (Command.getPeriodicMeterReads.execute
          (⟨period, span, channel⟩ : ElectricityQuery)).result meter.answers
          { device with supportsSelectiveAccess := false }) ∧
    ∀ channel : UInt8,
      (Command.getPeriodicMeterReadsGas.execute
          (⟨period, span, channel⟩ : GasQuery)).result meter.answers
          { device with supportsSelectiveAccess := true } =
        (Command.getPeriodicMeterReadsGas.execute
          (⟨period, span, channel⟩ : GasQuery)).result meter.answers
          { device with supportsSelectiveAccess := false } :=
  ⟨fun _ => ElectricityQuery.result_fetch_selective h device,
    fun _ => GasQuery.result_fetch_selective h device⟩

/-- Midnight of a day of January 2024, as a clock of a profile. -/
def midnight (day : UInt8) : Value :=
  .octets [7, 232, 1, day, 255, 0, 0, 0, 0, 0, 0, 0]

/-- A meter whose daily profile has an entry for the second of January and one for the fifth. -/
def dailyMeter : Meter where
  others := []
  entries
    | .daily =>
      let values (day : UInt8) : List Value :=
        .uint8 0 :: List.replicate 4 (.uint32 100) ++
          (List.replicate 4 [.uint32 7, midnight day]).flatten
      [⟨midnight 2, .octets rfl, values 2, rfl⟩, ⟨midnight 5, .octets rfl, values 5, rfl⟩]
    | _ => []
  channelEntries _ := []
  otherwise
    | .read _ => .ok (.success (.tuple [.int8 (-3), .enumerate 30]))
    | question => obligingAnswer question

/-- From the second to the third of January 2024, an hour ahead of UTC. -/
def januarySpan : Profile.Span :=
  ⟨⟨⟨1704150000, 0⟩, 3600⟩, ⟨⟨1704236400, 0⟩, 3600⟩⟩

theorem isTellable_januarySpan : januarySpan.IsTellable where
  start := ⟨by decide, by decide, by decide⟩
  finish := ⟨by decide, by decide, by decide⟩

theorem Meter.periodicReads_agree_of_dailyMeter :
    (∃ reads, reads.reads.length = 1 ∧
      (ElectricityQuery.fetch ⟨.daily, januarySpan, none⟩).result dailyMeter.answers
        { identification := "meter", supportsSelectiveAccess := true } = .ok reads ∧
      (ElectricityQuery.fetch ⟨.daily, januarySpan, none⟩).result dailyMeter.answers
        { identification := "meter", supportsSelectiveAccess := false } = .ok reads) ∧
    ∃ reads, reads.reads.length = 1 ∧
      (GasQuery.fetch ⟨.daily, januarySpan, 2⟩).result dailyMeter.answers
        { identification := "meter", supportsSelectiveAccess := true } = .ok reads ∧
      (GasQuery.fetch ⟨.daily, januarySpan, 2⟩).result dailyMeter.answers
        { identification := "meter", supportsSelectiveAccess := false } = .ok reads := by
  obtain ⟨helectricity, hgas⟩ := periodicReads_agree dailyMeter { identification := "meter" } .daily
    isTellable_januarySpan
  constructor
  · obtain ⟨reads, hlength, hreads⟩ : ∃ reads, reads.reads.length = 1 ∧
        (ElectricityQuery.fetch ⟨.daily, januarySpan, none⟩).result dailyMeter.answers
          { identification := "meter", supportsSelectiveAccess := false } = .ok reads :=
      ⟨_, rfl, rfl⟩
    exact ⟨reads, hlength, (helectricity none).trans hreads, hreads⟩
  · obtain ⟨reads, hlength, hreads⟩ : ∃ reads, reads.reads.length = 1 ∧
        (GasQuery.fetch ⟨.daily, januarySpan, 2⟩).result dailyMeter.answers
          { identification := "meter", supportsSelectiveAccess := false } = .ok reads :=
      ⟨_, rfl, rfl⟩
    exact ⟨reads, hlength, (hgas 2).trans hreads, hreads⟩

end HeadEnd
