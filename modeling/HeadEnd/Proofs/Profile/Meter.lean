import HeadEnd.Profile.Electricity
import HeadEnd.Profile.Gas

/-! # Meters with profiles

What a meter holds in its profiles, and how it answers when they are read. A meter that is sent a
range selects by the clock, then takes the columns that are asked for.
-/

namespace HeadEnd.Profile

/-! ## Columns -/

/-- What a profile captures in a column: an attribute of an object. -/
structure Column where
  classId : UInt16
  name : ObisCode
  attributeId : Int8
  deriving DecidableEq

namespace Column

def reference (column : Column) : Value :=
  Clock.captureReference column.classId column.name column.attributeId

def ofReference? : Value → Option Column
  | .tuple [.uint16 classId, .octets [a, b, c, d, e, f], .int8 attributeId, .uint16 0] =>
    some ⟨classId, ⟨a, b, c, d, e, f⟩, attributeId⟩
  | _ => none

theorem ofReference?_reference (column : Column) : ofReference? column.reference = some column :=
  rfl

/-- The time of the clock. -/
def clock : Column := ⟨8, ⟨0, 0, 1, 0, 0, 255⟩, 2⟩

/-- The state of the meter. -/
def flags : Column := ⟨1, ⟨0, 0, 96, 10, 2, 255⟩, 2⟩

/-- An electricity register: import or export, in total or at a rate. -/
def register (quantity rate : UInt8) : Column := ⟨3, ⟨1, 0, quantity, 8, rate, 255⟩, 2⟩

/-- The electricity registers at the two rates. -/
def rates : List Column := [register 1 1, register 1 2, register 2 1, register 2 2]

/-- The value of an attached meter. -/
def channelValue (channel : UInt8) : Column := ⟨4, ⟨0, channel, 24, 2, 1, 255⟩, 2⟩

/-- The time at which the value of an attached meter was captured. -/
def channelTime (channel : UInt8) : Column := ⟨4, ⟨0, channel, 24, 2, 1, 255⟩, 5⟩

/-- The values of all attached meters, each with its time. -/
def channels : List Column :=
  [1, 2, 3, 4].flatMap fun channel => [channelValue channel, channelTime channel]

end Column

/-! ## Entries -/

/-- The instant that a clock shows, if it shows one. -/
def shown? : Value → Option ZonedTime
  | .octets bytes =>
    match CosemDateTime.decode bytes with
    | .ok t => t.toZoned?
    | .error _ => none
  | .dateTime t => t.toZoned?
  | _ => none

/-- A clock holds a date-time, or nothing. -/
inductive IsClock : Value → Prop where
  | null : IsClock .null
  | octets {bytes t} : CosemDateTime.decode bytes = .ok t → IsClock (.octets bytes)
  | dateTime {t : CosemDateTime} : t.checked = .ok t → IsClock (.dateTime t)

/-- An entry of a profile that captures the clock and the given columns. -/
structure Entry (columns : List Column) where
  clock : Value
  isClock : IsClock clock
  values : List Value
  complete : values.length = columns.length

/-- The part of a profile that is asked for; no columns stand for all of them. -/
structure Range where
  first : Instant
  last : Instant
  columns : List Column

/-- The part of a profile that a selection asks for: selector 1 with the clock, two times that it
shows and the columns. -/
def Range.ofSelection? (selection : SelectiveAccess) : Option Range :=
  match selection.selector, selection.parameter with
  | 1, .tuple [restricted, first, last, .array columns] => do
    guard (Column.ofReference? restricted = some .clock)
    let first ← shown? first
    let last ← shown? last
    return ⟨first.instant, last.instant, ← columns.mapM Column.ofReference?⟩
  | _, _ => none

namespace Entry

variable {columns : List Column} (entry : Entry columns)

def row : List Value :=
  entry.clock :: entry.values

def value? (column : Column) : Option Value :=
  entry.row[(Column.clock :: columns).idxOf column]?

/-- The values in the columns that are asked for, in their order. -/
def project (requested : List Column) : List Value :=
  if requested = [] then entry.row else requested.filterMap entry.value?

theorem project_nil : entry.project [] = entry.row :=
  if_pos rfl

/-- The clock of the entry shows an instant of the range. -/
def liesIn (range : Range) : Bool :=
  match shown? entry.clock with
  | some time => decide (range.first ≤ time.instant) && decide (time.instant ≤ range.last)
  | none => false

end Entry

section Answers

variable {columns : List Column} (entries : List (Entry columns))

def whole : Value :=
  .array (entries.map fun entry => .tuple entry.row)

def part (range : Range) : Value :=
  .array ((entries.filter fun entry => entry.liesIn range).map fun entry =>
    .tuple (entry.project range.columns))

/-- The answer of a meter that is asked for a profile or for a part of it. -/
def answer : Option SelectiveAccess → GetResult
  | none => .success (whole entries)
  | some selection =>
    match Range.ofSelection? selection with
    | some range => .success (part entries range)
    | none => .refusal .otherReason

variable {entries}

theorem answer_some {selection : SelectiveAccess} {range : Range}
    (h : Range.ofSelection? selection = some range) :
    answer entries (some selection) = .success (part entries range) := by
  rw [answer, h]

end Answers

end HeadEnd.Profile

namespace HeadEnd

open Profile

/-! ## Meters -/

/-- The columns of a profile after the clock. Which other columns the interval profile has is up to
the meter. -/
def Period.columns (others : List Column) : Period → List Column
  | .interval => .flags :: .register 1 0 :: .register 2 0 :: others
  | .daily => .flags :: Column.rates ++ Column.channels
  | .monthly => Column.rates ++ Column.channels

theorem Period.nodup_columns {period : Period} (h : period ≠ .interval) (others : List Column) :
    (Column.clock :: period.columns others).Nodup := by
  cases period with
  | interval => exact absurd rfl h
  | daily =>
      exact (by decide : (Column.clock :: .flags :: Column.rates ++ Column.channels).Nodup)
  | monthly => exact (by decide : (Column.clock :: Column.rates ++ Column.channels).Nodup)

/-- The columns of the interval profile of an attached meter after the clock. -/
def Profile.channelColumns (channel : UInt8) : List Column :=
  [.flags, .channelValue channel, .channelTime channel]

/-- A meter: the entries of its profiles, and how everything else is answered. -/
structure Meter where
  /-- The columns of the interval profile after those that are known. -/
  others : List Column
  entries : (period : Period) → List (Entry (period.columns others))
  /-- The interval profile of each attached meter. -/
  channelEntries : (channel : UInt8) → List (Entry (channelColumns channel))
  otherwise : (question : Question) → Answer question

namespace Meter

/-- The answer to a read of the profile of a name, if there is one. -/
def profile? (meter : Meter) (name : ObisCode) (selection : Option SelectiveAccess) :
    Option GetResult :=
  match Period.all.find? fun period => period.logicalName = name with
  | some period => some (answer (meter.entries period) selection)
  | none =>
    if name = ⟨0, name.b, 24, 3, 0, 255⟩ then
      some (answer (meter.channelEntries name.b) selection)
    else none

def read (meter : Meter) (address : AttributeAddress) : Outcome GetResult :=
  if address.classId = 7 ∧ address.attributeId = 2 then
    match meter.profile? address.name address.selection with
    | some result => .ok result
    | none => meter.otherwise (.read address)
  else meter.otherwise (.read address)

/-- The answer to a question; several reads are answered one after the other. -/
def answers (meter : Meter) : (question : Question) → Answer question
  | .read address => meter.read address
  | .readBatch addresses => addresses.mapM meter.read
  | question => meter.otherwise question

variable {meter : Meter}

theorem answers_readBatch_singleton (address : AttributeAddress) :
    meter.answers (.readBatch [address]) =
      (meter.answers (.read address) : Outcome GetResult).map fun result => [result] := by
  change [address].mapM meter.read = (meter.read address).map fun result => [result]
  rw [List.mapM_cons]
  cases meter.read address with
  | ok result => rfl
  | error failure => rfl

theorem read_period (period : Period) (selection : Option SelectiveAccess) :
    meter.read { bufferAddress period.logicalName with selection := selection } =
      .ok (answer (meter.entries period) selection) := by
  cases period <;> rfl

theorem profile?_channel (channel : UInt8) (selection : Option SelectiveAccess) :
    meter.profile? ⟨0, channel, 24, 3, 0, 255⟩ selection =
      some (answer (meter.channelEntries channel) selection) := by
  unfold profile?
  split
  case h_1 period hperiod =>
    have hname := List.find?_some hperiod
    cases period <;> simp [Period.logicalName] at hname
  case h_2 => exact if_pos rfl

theorem read_channel (channel : UInt8) (selection : Option SelectiveAccess) :
    meter.read { bufferAddress ⟨0, channel, 24, 3, 0, 255⟩ with selection := selection } =
      .ok (answer (meter.channelEntries channel) selection) := by
  change (match meter.profile? ⟨0, channel, 24, 3, 0, 255⟩ selection with
    | some result => Except.ok result
    | none => _) = _
  rw [profile?_channel]

end Meter

end HeadEnd
