import HeadEnd.Command.Catalogue
import HeadEnd.Proofs.Cosem.Offset
import HeadEnd.Proofs.Key.Staging

/-! # Bounds of selections

The ends of a span are told in their own zones, each as a date-time. A selection therefore begins and
ends at the instants that were asked for exactly if their offsets are whole minutes and their years
can be told.
-/

namespace HeadEnd

namespace Profile

/-! ## Selections -/

/-- The selection is that of a range of clocks, the ends of which tell the ends of the span. -/
def Span.IsBoundedBy (span : Span) (selection : SelectiveAccess) : Prop :=
  ∃ start finish columns,
    selection = ⟨1, .tuple [Clock.timeReference, start, finish, .array columns]⟩ ∧
      (∀ context, start.toZoned? context = .ok span.start.told?) ∧
      ∀ context, finish.toZoned? context = .ok span.finish.told?

/-- The address selects nothing, or what lies in the span. -/
def Span.IsKeptBy (span : Span) (address : AttributeAddress) : Prop :=
  ∀ selection, address.selection = some selection → span.IsBoundedBy selection

end Profile

/-- The question says what is done or reads attributes, of their entries only those in the span. -/
def Question.KeepsTo (span : Profile.Span) : Question → Prop
  | .describe _ => True
  | .read address => span.IsKeptBy address
  | .readBatch addresses => ∀ address ∈ addresses, span.IsKeptBy address
  | _ => False

namespace Profile

/-- Both ends are outside leap seconds and less than a day from UTC. -/
structure Span.IsRegular (span : Span) : Prop where
  start : span.start.IsRegular
  finish : span.finish.IsRegular

/-- Whatever happens, the operation asks for attributes only, of their entries only for those in the
span. -/
def Span.IsKeptIn {α : Type} (span : Span) (operation : Operation α) : Prop :=
  ∀ (device d : Device) (r : Outcome α) (history : List (Turn Answer)),
    Dialogue.Runs (recording fun _ => True) (operation.run.run device) [] (r, d) history →
    ∀ turn ∈ history, turn.question.KeepsTo span

variable {span : Span} {address : AttributeAddress}

theorem Span.IsRegular.isBoundedBy (h : span.IsRegular) {columns : List Value}
    {selection : SelectiveAccess} (hselection : rangeSelection span columns = .ok selection) :
    span.IsBoundedBy selection := by
  unfold rangeSelection at hselection
  cases hstart : Value.ofZoned span.start with
  | error failure =>
      rw [hstart] at hselection
      cases hselection
  | ok start =>
      cases hfinish : Value.ofZoned span.finish with
      | error failure =>
          rw [hstart, hfinish] at hselection
          cases hselection
      | ok finish =>
          rw [hstart, hfinish] at hselection
          cases hselection
          exact ⟨start, finish, columns, rfl, h.start.toZoned?_of_ofZoned hstart,
            h.finish.toZoned?_of_ofZoned hfinish⟩

theorem Span.isKeptBy_of_none (h : address.selection = none) : span.IsKeptBy address := by
  intro selection hselection
  rw [h] at hselection
  cases hselection

/-- What is selected from a buffer on request is what lies in the span. -/
theorem Span.IsRegular.isKeptBy (h : span.IsRegular) {name : ObisCode} {columns : List Value}
    {selective : Bool}
    (haddress : (if selective then do
        let selection ← rangeSelection span columns
        return { bufferAddress name with selection := some selection }
      else return bufferAddress name) = Except.ok (ε := Failure) address) :
    span.IsKeptBy address := by
  cases selective with
  | false =>
      cases haddress
      exact isKeptBy_of_none rfl
  | true =>
      cases hselection : rangeSelection span columns with
      | error failure =>
          rw [hselection] at haddress
          cases haddress
      | ok selection =>
          rw [hselection] at haddress
          cases haddress
          rintro _ ⟨⟩
          exact h.isBoundedBy hselection

theorem keeps_readValue (h : span.IsKeptBy address) (context : String) :
    Task.Keeps (Question.KeepsTo span) (Operation.readValue context address) :=
  Operation.keeps_readValue context (fun _ hother => List.mem_singleton.mp hother ▸ h) h

end Profile

/-! ## Reads -/

open Profile

theorem EventQuery.keeps_fetch {query : EventQuery} (h : query.span.IsRegular) :
    Task.Keeps (Question.KeepsTo query.span) query.fetch := by
  refine Operation.keeps_lift_bind fun selection hselection => ?_
  refine (Operation.keeps_ask trivial).bind fun _ => ?_
  refine (keeps_readValue ?_ _).bind fun buffer => Operation.keeps_lift _
  rintro _ ⟨⟩
  exact h.isBoundedBy hselection

theorem ElectricityQuery.selection_scalerUnitAddress {query : ElectricityQuery}
    {address : AttributeAddress} (h : query.scalerUnitAddress = .ok address) :
    address.selection = none := by
  unfold scalerUnitAddress at h
  split at h
  · cases h
    rfl
  · rename_i channel _
    cases hchannel : checkChannel channel with
    | error failure =>
        rw [hchannel] at h
        cases h
    | ok _ =>
        rw [hchannel] at h
        cases h
        rfl

theorem ElectricityQuery.keeps_fetch {query : ElectricityQuery} (h : query.span.IsRegular) :
    Task.Keeps (Question.KeepsTo query.span) query.fetch := by
  refine Operation.keeps_lift_bind fun scalerUnitAddress hscalerUnit => ?_
  refine Task.keeps_get.bind fun device => ?_
  refine Operation.keeps_lift_bind fun bufferAddress hbuffer => ?_
  refine (Operation.keeps_ask trivial).bind fun _ => ?_
  refine (keeps_readValue (h.isKeptBy hbuffer) _).bind fun buffer => ?_
  refine (Operation.keeps_ask trivial).bind fun _ => ?_
  have hread : query.span.IsKeptBy _ :=
    Span.isKeptBy_of_none (selection_scalerUnitAddress hscalerUnit)
  refine (Operation.keeps_readAttribute hread).bind fun scalerUnit => ?_
  refine (Operation.keeps_lift _).bind fun _ => ?_
  exact (Operation.keeps_lift _).bind fun reads => Task.keeps_pure _

theorem GasQuery.keeps_fetch {query : GasQuery} (h : query.span.IsRegular) :
    Task.Keeps (Question.KeepsTo query.span) query.fetch := by
  refine (Operation.keeps_lift _).bind fun _ => ?_
  refine Task.keeps_get.bind fun device => ?_
  refine Operation.keeps_lift_bind fun bufferAddress hbuffer => ?_
  refine (Operation.keeps_ask trivial).bind fun _ => ?_
  refine (keeps_readValue (h.isKeptBy hbuffer) _).bind fun buffer => ?_
  refine (Operation.keeps_ask trivial).bind fun _ => ?_
  have hread : query.span.IsKeptBy (channelScalerUnit query.channel) := Span.isKeptBy_of_none rfl
  refine (keeps_readValue hread _).bind fun scalerUnit => ?_
  exact (Operation.keeps_lift _).bind fun reads => Task.keeps_pure _

theorem Profile.Span.isKeptIn_of_keeps {α : Type} {span : Span} {operation : Operation α}
    (h : Task.Keeps (Question.KeepsTo span) operation) : span.IsKeptIn operation :=
  fun _ _ _ _ hruns => (h.forall_turns hruns).2

/-- A time outside leap seconds is written exactly if its offset in minutes is at most half a day and
its local year has sixteen bits. It is read again as the same instant, down to hundredths of a second,
exactly if the offset is a whole number of minutes and the year is not the one that stands for none.
The reads of events and of profiles select what lies between the two ends as they are read again. -/
theorem Profile.selections_denote_spans {time : ZonedTime} (htime : time.IsRegular) :
    (((∃ value, Value.ofZoned time = .ok value) ↔ time.IsWritable) ∧
      (∀ value, Value.ofZoned time = .ok value → ∀ context,
        value.toZoned? context = .ok time.told?) ∧
      (time.told?.map ZonedTime.instant = some time.truncated.instant ↔ time.IsExact) ∧
      (time.IsExact → time.told? = some time.truncated)) ∧
    (∀ query : EventQuery, query.span.IsRegular →
      query.span.IsKeptIn (Command.findEvents.execute query)) ∧
    (∀ query : ElectricityQuery, query.span.IsRegular →
      query.span.IsKeptIn (Command.getPeriodicMeterReads.execute query)) ∧
    ∀ query : GasQuery, query.span.IsRegular →
      query.span.IsKeptIn (Command.getPeriodicMeterReadsGas.execute query) := by
  refine ⟨⟨?_, ?_, ZonedTime.map_instant_told?_iff, ZonedTime.IsExact.told?_eq⟩, ?_, ?_, ?_⟩
  · simp only [htime.ofZoned_eq_ok_iff]
    exact ⟨fun ⟨_, hwritable, _⟩ => hwritable, fun hwritable => ⟨_, hwritable, rfl⟩⟩
  · intro value hvalue
    exact htime.toZoned?_of_ofZoned hvalue
  · intro query hspan
    exact Span.isKeptIn_of_keeps (EventQuery.keeps_fetch hspan)
  · intro query hspan
    exact Span.isKeptIn_of_keeps (ElectricityQuery.keeps_fetch hspan)
  · intro query hspan
    exact Span.isKeptIn_of_keeps (GasQuery.keeps_fetch hspan)

/-- A day in June that begins two hours ahead of UTC and ends three and a half hours behind it. -/
def juneSpan : Profile.Span :=
  ⟨⟨⟨1717243200, 129999999⟩, 7200⟩, ⟨⟨1717329600, 0⟩, -12600⟩⟩

theorem isRegular_juneSpan : juneSpan.IsRegular where
  start := ⟨by decide, by decide⟩
  finish := ⟨by decide, by decide⟩

theorem isExact_juneSpan : juneSpan.start.IsExact ∧ juneSpan.finish.IsExact :=
  ⟨⟨by decide, by decide⟩, ⟨by decide, by decide⟩⟩

/-- The events of the day are selected by its ends. -/
theorem Profile.selections_denote_spans_of_june :
    ∃ history address answer start finish columns,
      Dialogue.Runs (recording fun _ => True)
        ((Command.findEvents.execute ⟨.standard, juneSpan⟩).run.run keyedDevice) []
        (.ok [], keyedDevice) history ∧
      ⟨.read address, answer⟩ ∈ history ∧
      address.selection = some ⟨1, .tuple [Clock.timeReference, start, finish, .array columns]⟩ ∧
      start.toZoned? "start" = .ok (some ⟨⟨1717243200, 120000000⟩, 7200⟩) ∧
      finish.toZoned? "finish" = .ok (some ⟨⟨1717329600, 0⟩, -12600⟩) := by
  obtain ⟨⟨_, _, _, hstart⟩, hevents, _, _⟩ := selections_denote_spans isRegular_juneSpan.start
  obtain ⟨⟨_, _, _, hfinish⟩, _⟩ := selections_denote_spans isRegular_juneSpan.finish
  obtain ⟨text, address, answer, selection, hruns, hselection⟩ :
      ∃ text address answer selection, Dialogue.Runs (recording fun _ => True)
        ((Command.findEvents.execute ⟨.standard, juneSpan⟩).run.run keyedDevice) []
        (.ok [], keyedDevice) [⟨.describe text, ()⟩, ⟨.read address, answer⟩] ∧
        address.selection = some selection :=
    ⟨_, _, _, _, @Dialogue.runs_recorded _ _ _ _ obligingAnswer (fun _ => trivial) _ [], rfl⟩
  have hkept := hevents _ isRegular_juneSpan _ _ _ _ hruns ⟨.read address, answer⟩ (by simp)
  obtain ⟨start, finish, columns, rfl, hstartRead, hfinishRead⟩ := hkept _ hselection
  refine ⟨_, address, answer, start, finish, columns, hruns, by simp, hselection, ?_, ?_⟩
  · rw [hstartRead, hstart isExact_juneSpan.1]
    rfl
  · rw [hfinishRead, hfinish isExact_juneSpan.2]
    rfl

/-- Half a minute ahead of UTC a time is written as if it were half a minute later. -/
theorem Profile.not_selections_denote_of_seconds :
    ¬ ∀ time : ZonedTime, time.IsRegular → ∀ value, Value.ofZoned time = .ok value →
      ∀ context, ∃ read, value.toZoned? context = .ok (some read) ∧
        read.instant = time.truncated.instant := by
  intro h
  obtain ⟨read, hread, hinstant⟩ := h ⟨⟨1717243200, 0⟩, 30⟩ ⟨by decide, by decide⟩ _ rfl "time"
  cases hread
  revert hinstant
  decide

end HeadEnd
