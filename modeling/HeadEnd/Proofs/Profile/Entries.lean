import HeadEnd.Proofs.Cosem.Instant
import HeadEnd.Proofs.Cosem.Reading
import HeadEnd.Proofs.Profile.Meter
import HeadEnd.Register.Scaled

/-! # Entries of profiles

What the columns of an entry tell, which of them can be read, and what reading a list of entries comes
to: those whose clock shows an instant in the span are told, in their order.
-/

namespace HeadEnd

open Profile

/-! ## Values of columns -/

/-- The structure holds the scaler and the unit. -/
def ScalerUnit.IsToldBy (s : ScalerUnit) (value : Value) : Prop :=
  ∃ scaler unit, value = .tuple [scaler, unit] ∧ scaler.number? = some s.scaler.toInt ∧
    ∃ code : Int64, unit.number? = some code.toInt ∧ s.unit = MeasureUnit.ofCode code

/-- What the value of a register tells: nothing if there is none or if it is null, and otherwise its
number with the scaler and the unit. -/
inductive MeterValue.Told (scalerUnit : Value) : Option Value → Option MeterValue → Prop
  | absent : Told scalerUnit none none
  | null : Told scalerUnit (some .null) none
  | scaled {value : Value} {raw : Int64} {s : ScalerUnit} : value.number? = some raw.toInt →
      s.IsToldBy scalerUnit → Told scalerUnit (some value) (some ⟨⟨raw, s.scaler⟩, s.unit⟩)

/-- The flags that the state of a meter tells: those of which the bit is set in the byte. -/
inductive ProfileFlag.Told : Option Value → Option (List ProfileFlag) → Prop
  | absent : Told none none
  | status {value : Value} {byte : UInt8} : value.number? = some byte.toNat →
      Told (some value) (some (all.filter fun flag => byte.toNat.testBit flag.bit))

theorem MeterValue.told_none_iff {scalerUnit : Value} {told : Option MeterValue} :
    Told scalerUnit none told ↔ told = none := by
  constructor
  · rintro ⟨⟩
    rfl
  · rintro rfl
    exact .absent

theorem ProfileFlag.told_none_iff {told : Option (List ProfileFlag)} :
    Told none told ↔ told = none := by
  constructor
  · rintro ⟨⟩
    rfl
  · rintro rfl
    exact .absent

namespace Value

theorem decodes_toScalerUnit (value : Value) (context : String) :
    Decodes (value.toScalerUnit context) fun s => s.IsToldBy value := by
  unfold toScalerUnit
  split
  case h_1 scaler unit =>
    refine ((decodes_toInt8 scaler context).bind fun n _ =>
      (decodes_toInteger unit context).bind fun code _ =>
        decodes_pure (⟨n, MeasureUnit.ofCode code⟩ : ScalerUnit)).of_iff fun s => ?_
    constructor
    · rintro ⟨n, hscaler, code, hunit, rfl⟩
      exact ⟨scaler, unit, rfl, hscaler, code, hunit, rfl⟩
    · rintro ⟨_, _, heq, hscaler, code, hunit, hs⟩
      cases heq
      exact ⟨s.scaler, hscaler, code, hunit, by rw [← hs]⟩
  case h_2 hother =>
    refine (decodes_error context _).of_iff fun s => ⟨False.elim, ?_⟩
    rintro ⟨scaler, unit, rfl, _⟩
    exact hother scaler unit rfl

theorem decodes_toMeterValue? (value scalerUnit : Value) (context : String) :
    Decodes (value.toMeterValue? scalerUnit context) (MeterValue.Told scalerUnit (some value)) := by
  refine ((value.decodes_toInteger? context).bind (r := fun number told =>
    (number = none ∧ told = none) ∨ ∃ raw s, number = some raw ∧
      ScalerUnit.IsToldBy s scalerUnit ∧ told = some ⟨⟨raw, s.scaler⟩, s.unit⟩)
    fun number _ => ?hscaled).of_iff fun told => ?_
  case hscaled =>
    cases number with
    | none => exact (decodes_pure none).of_iff fun told => by simp
    | some raw =>
        refine ((scalerUnit.decodes_toScalerUnit context).bind fun s _ => decodes_pure
          (some (⟨⟨raw, s.scaler⟩, s.unit⟩ : MeterValue))).of_iff fun told => ?_
        simp
  constructor
  · rintro ⟨number, ⟨rfl, rfl⟩ | ⟨n, hvalue, rfl⟩, ⟨hnone, rfl⟩ | ⟨raw, s, hraw, hs, rfl⟩⟩
    · exact .null
    · cases hraw
    · cases hnone
    · cases hraw
      exact .scaled hvalue hs
  · rintro (_ | _ | ⟨hvalue, hs⟩)
    · exact ⟨none, .inl ⟨rfl, rfl⟩, .inl ⟨rfl, rfl⟩⟩
    · exact ⟨_, .inr ⟨_, hvalue, rfl⟩, .inr ⟨_, _, rfl, hs, rfl⟩⟩

theorem decodes_toProfileFlags (value : Value) :
    Decodes value.toProfileFlags fun flags => ProfileFlag.Told (some value) (some flags) := by
  refine ((decodes_toUInt8 value _).bind fun byte _ =>
    decodes_pure (ProfileFlag.ofByte byte)).of_iff fun flags => ?_
  constructor
  · rintro ⟨byte, hvalue, rfl⟩
    exact .status hvalue
  · rintro (_ | hvalue)
    exact ⟨_, hvalue, rfl⟩

/-- A value is read as the instant that it shows, if it shows one. -/
theorem decodes_toZoned? (value : Value) (context : String) :
    Decodes (value.toZoned? context) fun time => value.IsTimestamp ∧ time = shown? value := by
  cases value with
  | null => exact (decodes_pure none).of_iff fun time => by simp [IsTimestamp.null, shown?]
  | dateTime t =>
      exact (decodes_pure t.toZoned?).of_iff fun time => by simp [IsTimestamp.dateTime, shown?]
  | octets bytes =>
      cases hdecode : CosemDateTime.decode bytes with
      | ok t =>
          have hlength := (CosemDateTime.checked_of_decode hdecode).1
          have hform := CosemDateTime.exists_decode_iff.mp ⟨t, hdecode⟩
          have hread : (octets bytes).toZoned? context = .ok t.toZoned? := by
            simp only [toZoned?, toDateTime?, if_pos hlength, hdecode]
            rfl
          rw [hread]
          exact (decodes_pure t.toZoned?).of_iff fun time => by
            simp [IsTimestamp.octets hform, shown?, hdecode]
      | error fault =>
          have hread : ∃ misreading, (octets bytes).toZoned? context =
              .error (.decode context misreading) := by
            simp only [toZoned?, toDateTime?, hdecode]
            split <;> exact ⟨_, rfl⟩
          obtain ⟨misreading, hread⟩ := hread
          rw [hread]
          refine (decodes_error context misreading).of_iff fun time => ⟨False.elim, ?_⟩
          rintro ⟨_ | hform, _⟩
          obtain ⟨t, ht⟩ := CosemDateTime.exists_decode_iff.mpr hform
          rw [hdecode] at ht
          cases ht
  | _ => exact (decodes_error context _).of_iff fun time => ⟨False.elim, by rintro ⟨⟨⟩, _⟩⟩

theorem isTimestamp_of_shown? {value : Value} {time : ZonedTime} (h : shown? value = some time) :
    value.IsTimestamp := by
  unfold shown? at h
  split at h
  case h_1 bytes =>
    cases hdecode : CosemDateTime.decode bytes with
    | ok t => exact .octets (CosemDateTime.exists_decode_iff.mp ⟨t, hdecode⟩)
    | error fault =>
        rw [hdecode] at h
        cases h
  case h_2 t => exact .dateTime t
  case h_3 => cases h

end Value

/-! ## Entries -/

namespace Profile

/-- An entry of a profile with the given number of columns: a structure with at least as many
elements, the first of which holds a date-time or is null. -/
def IsEntry (width : Nat) (entry : Value) : Prop :=
  ∃ clock values, entry = .tuple (clock :: values) ∧ width ≤ values.length + 1 ∧ clock.IsTimestamp

/-- The instant that the clock of an entry shows, if it shows one. -/
def clockOf? : Value → Option ZonedTime
  | .tuple (clock :: _) => shown? clock
  | _ => none

/-- The clock of the entry shows an instant in the span, ends included. -/
def covers (span : Span) (entry : Value) : Bool :=
  match clockOf? entry with
  | some time => span.contains time.instant
  | none => false

/-- The value of an entry in a column, if the profile has the column. -/
def valueIn (columns : List Column) (entry : Value) (column : Column) : Option Value :=
  match entry with
  | .tuple values => if column ∈ columns then values[columns.idxOf column]? else none
  | _ => none

theorem isEntry_iff {width : Nat} {clock : Value} {values : List Value}
    (hwidth : width ≤ values.length + 1) :
    IsEntry width (.tuple (clock :: values)) ↔ clock.IsTimestamp := by
  constructor
  · rintro ⟨_, _, heq, -, hclock⟩
    cases heq
    exact hclock
  · intro hclock
    exact ⟨clock, values, rfl, hwidth, hclock⟩

/-- What is read of an entry: nothing outside the span, and otherwise what is told. -/
inductive EntryTold {α : Type} (span : Span) (told : Value → α → Prop) (entry : Value) :
    Option α → Prop
  | outside : covers span entry = false → EntryTold span told entry none
  | within {read : α} : covers span entry = true → told entry read →
      EntryTold span told entry (some read)

variable {α : Type} {span : Span} {told : Value → α → Prop} {entry : Value} {read? : Option α}

theorem entryTold_iff_of_outside (h : covers span entry = false) :
    EntryTold span told entry read? ↔ read? = none := by
  constructor
  · rintro (_ | ⟨hcovers, _⟩)
    · rfl
    · rw [h] at hcovers
      cases hcovers
  · rintro rfl
    exact .outside h

theorem entryTold_iff_of_within (h : covers span entry = true) :
    EntryTold span told entry read? ↔ ∃ read, told entry read ∧ read? = some read := by
  constructor
  · rintro (hcovers | ⟨_, hread⟩)
    · rw [h] at hcovers
      cases hcovers
    · exact ⟨_, hread, rfl⟩
  · rintro ⟨read, hread, rfl⟩
    exact .within h hread

theorem decodes_ifWithin {clock : Value} {values : List Value} {read : ZonedTime → Outcome α}
    (hread : ∀ time, shown? clock = some time →
      Decodes (read time) (told (.tuple (clock :: values)))) (context : String) :
    Decodes (ifWithin span clock context read) fun read? =>
      clock.IsTimestamp ∧ EntryTold span told (.tuple (clock :: values)) read? := by
  refine ((clock.decodes_toZoned? context).bind
    (r := fun _ => EntryTold span told (.tuple (clock :: values)))
    fun time? h => ?hshown).of_iff fun read? => ?_
  case hshown =>
    obtain ⟨-, htime⟩ := h
    cases time? with
    | none =>
        have hcovers : covers span (.tuple (clock :: values)) = false := by
          simp [covers, clockOf?, ← htime]
        exact (decodes_pure none).of_iff fun read? => (entryTold_iff_of_outside hcovers).symm
    | some time =>
        have hcovers : covers span (.tuple (clock :: values)) = span.contains time.instant := by
          simp [covers, clockOf?, ← htime]
        dsimp only
        cases hin : span.contains time.instant with
        | false =>
            exact (decodes_pure none).of_iff fun read? =>
              (entryTold_iff_of_outside (hcovers.trans hin)).symm
        | true =>
            exact (hread time htime.symm).map.of_iff fun read? =>
              (entryTold_iff_of_within (hcovers.trans hin)).symm
  constructor
  · rintro ⟨time?, ⟨hclock, -⟩, htold⟩
    exact ⟨hclock, htold⟩
  · rintro ⟨hclock, htold⟩
    exact ⟨_, ⟨hclock, rfl⟩, htold⟩

/-! ## Buffers -/

section Buffers

variable {kept : Value → Bool} {accepted : Value → Prop} {reads : Value → Option α → Prop}
  (hdropped : ∀ entry, kept entry = false → ∀ read?, reads entry read? ↔ read? = none)
  (hkept : ∀ entry, kept entry = true → ∀ read?,
    reads entry read? ↔ ∃ read, told entry read ∧ read? = some read)

include hdropped hkept

/-- If nothing is read of an entry that is not kept, and of any other what is told, then what is read
of all entries is what is told of those that are kept. -/
theorem exists_forall₂_filterMap {entries : List Value} {all : List α} :
    (∃ reads?, List.Forall₂ (fun entry read? => accepted entry ∧ reads entry read?) entries reads? ∧
        all = reads?.filterMap id) ↔
      (∀ entry ∈ entries, accepted entry) ∧ List.Forall₂ told (entries.filter kept) all := by
  induction entries generalizing all with
  | nil =>
      constructor
      · rintro ⟨_, ⟨⟩, rfl⟩
        simp
      · rintro ⟨-, ⟨⟩⟩
        exact ⟨[], .nil, rfl⟩
  | cons entry entries ih =>
      rw [List.forall_mem_cons]
      -- An entry that is not kept is dropped on both sides, and any other comes first on both sides.
      cases hentry : kept entry with
      | false =>
          rw [List.filter_cons_of_neg (by simp [hentry]), and_assoc, ← ih]
          constructor
          · rintro ⟨_, _ | ⟨⟨haccepted, hread⟩, hrest⟩, rfl⟩
            rw [hdropped entry hentry] at hread
            subst hread
            exact ⟨haccepted, _, hrest, rfl⟩
          · rintro ⟨haccepted, reads?, hrest, rfl⟩
            have hread : reads entry none := (hdropped entry hentry none).mpr rfl
            exact ⟨none :: reads?, .cons ⟨haccepted, hread⟩ hrest, rfl⟩
      | true =>
          rw [List.filter_cons_of_pos hentry]
          constructor
          · rintro ⟨_, _ | ⟨⟨haccepted, hread⟩, hrest⟩, rfl⟩
            obtain ⟨read, htold, rfl⟩ := (hkept entry hentry _).mp hread
            obtain ⟨hentries, hreads⟩ := ih.mp ⟨_, hrest, rfl⟩
            exact ⟨⟨haccepted, hentries⟩, .cons htold hreads⟩
          · rintro ⟨⟨haccepted, hentries⟩, _ | ⟨htold, hreads⟩⟩
            obtain ⟨reads?, hrest, rfl⟩ := ih.mpr ⟨hentries, hreads⟩
            have hread : reads entry (some _) := (hkept entry hentry _).mpr ⟨_, htold, rfl⟩
            exact ⟨some _ :: reads?, .cons ⟨haccepted, hread⟩ hrest, rfl⟩

theorem decodes_readEntries {read : Value → Outcome (Option α)}
    (hread : ∀ entry, Decodes (read entry) fun read? => accepted entry ∧ reads entry read?)
    (buffer : Value) (context : String) :
    Decodes (readEntries buffer context read) fun all => ∃ entries, buffer.IsListOf entries ∧
      (∀ entry ∈ entries, accepted entry) ∧ List.Forall₂ told (entries.filter kept) all := by
  refine ((buffer.decodes_toElements context).bind fun entries _ =>
    (decodes_mapM hread entries).bind fun reads? _ => decodes_pure (reads?.filterMap id)).of_iff
      fun all => exists_congr fun entries => and_congr_right fun _ => ?_
  exact exists_forall₂_filterMap hdropped hkept

end Buffers

/-! ## What can be read -/

/-- The register can be read: it is null, or it is an integer of 64 bits with a sign and the scaler and
the unit are told. -/
def IsRegister (scalerUnit value : Value) : Prop :=
  value = .null ∨
    (∃ raw : Int64, value.number? = some raw.toInt) ∧ ∃ s : ScalerUnit, s.IsToldBy scalerUnit

/-- The columns of an entry can be read: the flags are a byte, and the registers can be read. -/
structure IsReadable (columns registers : List Column) (scalerUnit entry : Value) : Prop where
  flags : ∀ value, valueIn columns entry .flags = some value →
    ∃ byte : UInt8, value.number? = some byte.toNat
  registers : ∀ column ∈ registers, ∀ value, valueIn columns entry column = some value →
    IsRegister scalerUnit value

variable {scalerUnit : Value} {value? : Option Value}

theorem exists_meterValueTold_iff :
    (∃ told, MeterValue.Told scalerUnit value? told) ↔
      ∀ value, value? = some value → IsRegister scalerUnit value := by
  constructor
  · rintro ⟨_, _ | _ | ⟨hvalue, hs⟩⟩ value heq
    · cases heq
    · cases heq
      exact .inl rfl
    · cases heq
      exact .inr ⟨⟨_, hvalue⟩, _, hs⟩
  · intro h
    cases value? with
    | none => exact ⟨none, .absent⟩
    | some value =>
        obtain rfl | ⟨⟨raw, hvalue⟩, s, hs⟩ := h value rfl
        · exact ⟨none, .null⟩
        · exact ⟨_, .scaled hvalue hs⟩

theorem exists_flagsTold_iff :
    (∃ told, ProfileFlag.Told value? told) ↔
      ∀ value, value? = some value → ∃ byte : UInt8, value.number? = some byte.toNat := by
  constructor
  · rintro ⟨_, _ | hvalue⟩ value heq
    · cases heq
    · cases heq
      exact ⟨_, hvalue⟩
  · intro h
    cases value? with
    | none => exact ⟨none, .absent⟩
    | some value =>
        obtain ⟨byte, hvalue⟩ := h value rfl
        exact ⟨_, .status hvalue⟩

/-- The clock of an entry in the span shows an instant. -/
theorem exists_clockOf?_of_covers {span : Span} {entry : Value} (h : covers span entry = true) :
    ∃ time, clockOf? entry = some time := by
  unfold covers at h
  cases hclock : clockOf? entry with
  | none =>
      rw [hclock] at h
      cases h
  | some time => exact ⟨time, rfl⟩

theorem exists_forall₂_iff {α β : Type} {told : α → β → Prop} {xs : List α} :
    (∃ ys, List.Forall₂ told xs ys) ↔ ∀ x ∈ xs, ∃ y, told x y := by
  induction xs with
  | nil => exact ⟨fun _ _ h => absurd h List.not_mem_nil, fun _ => ⟨[], .nil⟩⟩
  | cons x xs ih =>
      rw [List.forall_mem_cons, ← ih]
      constructor
      · rintro ⟨_, _ | ⟨hy, hys⟩⟩
        exact ⟨⟨_, hy⟩, _, hys⟩
      · rintro ⟨⟨y, hy⟩, ys, hys⟩
        exact ⟨y :: ys, .cons hy hys⟩

/-- Reading a buffer comes to exactly the entries that are kept. The buffer is accepted if it is null
or a list of entries that can be read as far as they are kept; then these are told, in their order.
Any other buffer is a failure to decode. -/
structure ReadsKept {α : Type} (outcome : Outcome (List α)) (buffer : Value)
    (isEntry : Value → Prop) (kept : Value → Bool) (readable : Value → Prop)
    (told : Value → α → Prop) : Prop where
  accepted : (∃ reads, outcome = .ok reads) ↔ ∃ entries, buffer.IsListOf entries ∧
    ∀ entry ∈ entries, isEntry entry ∧ (kept entry = true → readable entry)
  reads : ∀ reads, outcome = .ok reads → ∃ entries, buffer.IsListOf entries ∧
    List.Forall₂ told (entries.filter kept) reads
  failure : ∀ failure, outcome = .error failure → ∃ context fault, failure = .decode context fault

theorem readsKept_of_decodes {α : Type} {outcome : Outcome (List α)} {buffer : Value}
    {isEntry readable : Value → Prop} {kept : Value → Bool} {told : Value → α → Prop}
    (h : Decodes outcome fun all => ∃ entries, buffer.IsListOf entries ∧
      (∀ entry ∈ entries, isEntry entry) ∧ List.Forall₂ told (entries.filter kept) all)
    (hreadable : ∀ entry, kept entry = true → ((∃ read, told entry read) ↔ readable entry)) :
    ReadsKept outcome buffer isEntry kept readable told := by
  have htold (entries : List Value) : (∃ all, List.Forall₂ told (entries.filter kept) all) ↔
      ∀ entry ∈ entries, kept entry = true → readable entry := by
    rw [exists_forall₂_iff]
    constructor
    · intro hall entry hentry hkept
      exact (hreadable entry hkept).mp (hall entry (List.mem_filter.mpr ⟨hentry, hkept⟩))
    · intro hall entry hentry
      obtain ⟨hentry, hkept⟩ := List.mem_filter.mp hentry
      exact (hreadable entry hkept).mpr (hall entry hentry hkept)
  refine ⟨?_, fun reads hreads => ?_, h.failure⟩
  · simp only [h.ok_iff, forall₂_and]
    constructor
    · rintro ⟨all, entries, hlist, hentries, hall⟩
      exact ⟨entries, hlist, hentries, (htold entries).mp ⟨all, hall⟩⟩
    · rintro ⟨entries, hlist, hentries, hall⟩
      obtain ⟨all, hall⟩ := (htold entries).mpr hall
      exact ⟨all, entries, hlist, hentries, hall⟩
  · obtain ⟨entries, hlist, -, hall⟩ := (h.ok_iff reads).mp hreads
    exact ⟨entries, hlist, hall⟩

/-- Reading a buffer comes to exactly the entries in the span. The buffer is accepted if it is null or
a list of entries that can be read as far as they lie in the span; then these are told, in their order.
Any other buffer is a failure to decode. -/
structure ReadsExactly {α : Type} (outcome : Outcome (List α)) (buffer : Value) (width : Nat)
    (span : Span) (readable : Value → Prop) (told : Value → α → Prop) : Prop where
  accepted : (∃ reads, outcome = .ok reads) ↔ ∃ entries, buffer.IsListOf entries ∧
    ∀ entry ∈ entries, IsEntry width entry ∧ (covers span entry = true → readable entry)
  reads : ∀ reads, outcome = .ok reads → ∃ entries, buffer.IsListOf entries ∧
    List.Forall₂ told (entries.filter (covers span)) reads
  failure : ∀ failure, outcome = .error failure → ∃ context fault, failure = .decode context fault

theorem readsExactly_readEntries {α : Type} {span : Span} {told : Value → α → Prop} {width : Nat}
    {read : Value → Outcome (Option α)} {readable : Value → Prop}
    (hread : ∀ entry, Decodes (read entry) fun read? =>
      IsEntry width entry ∧ EntryTold span told entry read?)
    (hreadable : ∀ entry, covers span entry = true → ((∃ r, told entry r) ↔ readable entry))
    (buffer : Value) (context : String) :
    ReadsExactly (readEntries buffer context read) buffer width span readable told := by
  have hdropped (entry : Value) (h : covers span entry = false) (read? : Option α) :
      EntryTold span told entry read? ↔ read? = none := entryTold_iff_of_outside h
  have hkept (entry : Value) (h : covers span entry = true) (read? : Option α) :
      EntryTold span told entry read? ↔ ∃ read, told entry read ∧ read? = some read :=
    entryTold_iff_of_within h
  have hdecodes := decodes_readEntries hdropped hkept hread buffer context
  have hreads := readsKept_of_decodes hdecodes hreadable
  exact ⟨hreads.accepted, hreads.reads, hreads.failure⟩

end Profile

end HeadEnd
