import HeadEnd.Command.Catalogue
import HeadEnd.Proofs.Profile.Entries
import HeadEnd.Proofs.Profile.Range
import HeadEnd.Proofs.Session.Reading

/-! # Events of a meter

What the entries of a log tell, and what reading a log comes to: the entries whose clock shows an
instant are told, in their order. Several logs are read one after the other, up to the first that
cannot be read.
-/

namespace HeadEnd

open Profile

/-- The question only reads attributes, or says what for. -/
def Question.IsRead : Question → Prop
  | .read _ | .readBatch _ | .describe _ => True
  | _ => False

/-! ## Entries -/

/-- The element of a structure at the index, if it has one there. -/
def Value.element? (value : Value) (index : Nat) : Option Value :=
  match value with
  | .tuple elements => elements[index]?
  | _ => none

/-- What an element that may be left out tells of a counter: nothing if it is left out or null, and
otherwise its number. -/
def CounterTold (counter? : Option Value) (counter : Option Int64) : Prop :=
  match counter? with
  | none => counter = none
  | some value => value.TellsNumber? Int64.toInt counter

/-- The entry of the log tells the event: the instant that its clock shows, the code and the
counter. -/
structure Event.IsToldBy (log : EventLog) (entry : Value) (event : Event) : Prop where
  time : clockOf? entry = some event.time
  code : ∃ value, entry.element? 1 = some value ∧ value.number? = some event.code.toInt
  counter : CounterTold (entry.element? 2) event.counter
  log : event.log = log

/-- The second element is an integer of 64 bits with a sign, and so is the third, unless it is null
or left out. -/
structure Event.IsReadable (entry : Value) : Prop where
  code : ∃ value, entry.element? 1 = some value ∧ ∃ code : Int64, value.number? = some code.toInt
  counter : ∀ value, entry.element? 2 = some value →
    value = .null ∨ ∃ counter : Int64, value.number? = some counter.toInt

def Profile.showsInstant (entry : Value) : Bool :=
  (clockOf? entry).isSome

theorem exists_counterTold_iff {counter? : Option Value} :
    (∃ counter, CounterTold counter? counter) ↔ ∀ value, counter? = some value →
      value = .null ∨ ∃ counter : Int64, value.number? = some counter.toInt := by
  cases counter? with
  | none => simp [CounterTold]
  | some value =>
      constructor
      · rintro ⟨_, ⟨rfl, rfl⟩ | ⟨counter, hvalue, rfl⟩⟩ _ ⟨⟩
        · exact .inl rfl
        · exact .inr ⟨counter, hvalue⟩
      · intro h
        obtain rfl | ⟨counter, hvalue⟩ := h value rfl
        · exact ⟨none, .inl ⟨rfl, rfl⟩⟩
        · exact ⟨some counter, .inr ⟨counter, hvalue, rfl⟩⟩

/-- Where the clock shows an instant, the rest of the entry decides whether there is an event. -/
theorem Event.exists_isToldBy_iff {log : EventLog} {entry : Value}
    (hclock : showsInstant entry = true) :
    (∃ event, IsToldBy log entry event) ↔ IsReadable entry := by
  constructor
  · rintro ⟨event, htold⟩
    obtain ⟨value, helement, hcode⟩ := htold.code
    exact ⟨⟨value, helement, _, hcode⟩, exists_counterTold_iff.mp ⟨_, htold.counter⟩⟩
  · rintro ⟨⟨value, helement, code, hcode⟩, hcounter⟩
    obtain ⟨time, htime⟩ := Option.isSome_iff_exists.mp hclock
    obtain ⟨counter, hcounter⟩ := exists_counterTold_iff.mpr hcounter
    exact ⟨⟨time, code, counter, log⟩, htime, ⟨value, helement, hcode⟩, hcounter, rfl⟩

namespace EventQuery

/-- What is read of an entry: nothing if its clock shows no instant, and otherwise what is told. -/
def EntryTold (log : EventLog) (entry : Value) (event? : Option Event) : Prop :=
  if showsInstant entry then ∃ event, event.IsToldBy log entry ∧ event? = some event
  else event? = none

variable {log : EventLog} {entry : Value}

theorem entryTold_iff_of_hidden (h : showsInstant entry = false) (event? : Option Event) :
    EntryTold log entry event? ↔ event? = none := by
  simp [EntryTold, h]

theorem entryTold_iff_of_shown (h : showsInstant entry = true) (event? : Option Event) :
    EntryTold log entry event? ↔ ∃ event, event.IsToldBy log entry ∧ event? = some event := by
  simp [EntryTold, h]

theorem decodes_readCounter? (query : EventQuery) (rest : List Value) :
    Decodes (query.readCounter? rest) (CounterTold rest.head?) := by
  cases rest with
  | nil => exact (decodes_pure none).of_iff fun counter => by rfl
  | cons counter rest => exact counter.decodes_toInteger? _

theorem decodes_readEntry? (query : EventQuery) (entry : Value) :
    Decodes (query.readEntry? entry) fun event? =>
      IsEntry 2 entry ∧ EntryTold query.log entry event? := by
  unfold readEntry?
  split
  case h_1 clock code rest =>
    rw [isEntry_iff (by simp)]
    refine ((clock.decodes_toZoned? _).bind
      (r := fun _ => EntryTold query.log (.tuple (clock :: code :: rest)))
      fun time? h => ?hshown).of_iff fun event? => ?_
    case hshown =>
      obtain ⟨-, htime⟩ := h
      cases time? with
      | none =>
          have hhidden : showsInstant (.tuple (clock :: code :: rest)) = false := by
            simp [showsInstant, clockOf?, ← htime]
          exact (decodes_pure none).of_iff fun event? => (entryTold_iff_of_hidden hhidden _).symm
      | some time =>
          have hshown : showsInstant (.tuple (clock :: code :: rest)) = true := by
            simp [showsInstant, clockOf?, ← htime]
          refine ((code.decodes_toInteger _).bind fun n _ =>
            (query.decodes_readCounter? rest).bind fun counter _ =>
              decodes_pure (some (⟨time, n, counter, query.log⟩ : Event))).of_iff fun event? => ?_
          rw [entryTold_iff_of_shown hshown]
          constructor
          · rintro ⟨n, hcode, counter, hcounter, rfl⟩
            rw [List.head?_eq_getElem?] at hcounter
            exact ⟨⟨time, n, counter, query.log⟩,
              ⟨htime.symm, ⟨code, rfl, hcode⟩, hcounter, rfl⟩, rfl⟩
          · rintro ⟨event, ⟨hclock, ⟨_, ⟨⟩, hcode⟩, hcounter, hlog⟩, rfl⟩
            obtain rfl : time = event.time := Option.some.inj (htime.trans hclock)
            refine ⟨event.code, hcode, event.counter, ?_, by rw [← hlog]⟩
            rw [List.head?_eq_getElem?]
            exact hcounter
    constructor
    · rintro ⟨_, ⟨hclock, -⟩, htold⟩
      exact ⟨hclock, htold⟩
    · rintro ⟨hclock, htold⟩
      exact ⟨_, ⟨hclock, rfl⟩, htold⟩
  case h_2 hother =>
    refine (decodes_error _ _).of_iff fun event? => ⟨False.elim, ?_⟩
    rintro ⟨⟨clock, values, rfl, hwidth, -⟩, -⟩
    obtain ⟨code, rest, rfl⟩ := List.exists_cons_of_length_pos (l := values) (by omega)
    exact hother clock code rest rfl

theorem readsKept_readBuffer (query : EventQuery) (buffer : Value) :
    ReadsKept (query.readBuffer buffer) buffer (IsEntry 2) showsInstant Event.IsReadable
      fun entry event => event.IsToldBy query.log entry :=
  readsKept_of_decodes
    (decodes_readEntries (fun _ => entryTold_iff_of_hidden) (fun _ => entryTold_iff_of_shown)
      query.decodes_readEntry? buffer query.context)
    fun _ => Event.exists_isToldBy_iff

/-! ## Reading a log -/

/-- The entries of the log between two bounds, with all that they hold. -/
def address (query : EventQuery) (start finish : Value) : AttributeAddress :=
  { Profile.bufferAddress query.log.logicalName with
    selection := some ⟨1, .tuple [Clock.timeReference, start, finish, .array []]⟩ }

/-- Where the log between the bounds reads as the buffer, the outcome is what is read of it. -/
theorem ensures_fetch {query : EventQuery} {start finish : Value}
    (hstart : Value.ofZoned query.span.start = .ok start)
    (hfinish : Value.ofZoned query.span.finish = .ok finish) (buffer : Value) (device : Device) :
    Task.Ensures (recording (Turn.ReadsAs (query.address start finish) buffer)) query.fetch device []
      fun outcome d _ => outcome = query.readBuffer buffer ∧ d = device := by
  have hselection : rangeSelection query.span [] =
      .ok ⟨1, .tuple [Clock.timeReference, start, finish, .array []]⟩ := by
    unfold rangeSelection
    rw [hstart, hfinish]
    rfl
  unfold fetch
  rw [hselection, Task.ensures_bind, Operation.ensures_lift]
  dsimp only
  rw [Task.ensures_bind, Operation.ensures_describe]
  rintro _ ⟨-, rfl⟩
  dsimp only
  rw [Task.ensures_bind]
  refine Operation.ensures_readValue buffer _ ?_ ?_
  · rintro answer t ⟨hanswer, -⟩
    exact ⟨hanswer rfl, Operation.ensures_lift.mpr ⟨rfl, rfl⟩⟩
  · rintro answer t ⟨hanswer, -⟩
    exact ⟨hanswer rfl, Operation.ensures_lift.mpr ⟨rfl, rfl⟩⟩

/-! ## Reading several logs -/

section Several

variable {σ : Type} {rules : Rules Answer σ} {device : Device}

variable (rules device) in
/-- What the queries come to, one after the other, and the state that the world is left in. Each goes
on from where the one before it ended. The first that fails is the last. -/
inductive FetchesEach : List EventQuery → σ → Outcome (List Event) → σ → Prop where
  | none {s} : FetchesEach [] s (.ok []) s
  | failed {query rest s failure t} :
      Dialogue.Runs rules (query.fetch.run.run device) s (.error failure, device) t →
      FetchesEach (query :: rest) s (.error failure) t
  | next {query rest s events s' outcome t} :
      Dialogue.Runs rules (query.fetch.run.run device) s (.ok events, device) s' →
      FetchesEach rest s' outcome t →
      FetchesEach (query :: rest) s (outcome.map (events ++ ·)) t

variable {d : Device} {s t : σ} {outcome : Outcome (List Event)}

theorem keeps_isRead_fetch (query : EventQuery) : Task.Keeps Question.IsRead query.fetch := by
  apply (Operation.keeps_lift _).bind
  intro selection
  apply (Operation.keeps_ask trivial).bind
  intro _
  apply (Operation.keeps_readValue _ trivial trivial).bind
  intro buffer
  exact Operation.keeps_lift _

theorem fetchAll_cons (query : EventQuery) (queries : List EventQuery) :
    fetchAll (query :: queries) = query.fetch >>= fun events =>
      (events ++ ·) <$> fetchAll queries := by
  simp [fetchAll, List.mapM_cons]

theorem eq_of_runs_fetch {query : EventQuery}
    (h : Dialogue.Runs rules (query.fetch.run.run device) s (outcome, d) t) : d = device := by
  have hkept : Task.Ensures rules query.fetch device s fun _ d _ => d = device ∧ True :=
    (keeps_isRead_fetch query).ensures (fun _ _ _ _ _ _ _ => trivial) trivial
  exact (hkept _ _ h).1

/-- Reading several logs is reading each of them, up to the first that fails. -/
theorem runs_fetchAll_iff {queries : List EventQuery} :
    Dialogue.Runs rules ((fetchAll queries).run.run device) s (outcome, d) t ↔
      d = device ∧ FetchesEach rules device queries s outcome t := by
  induction queries generalizing s outcome d t with
  | nil =>
      have hnone : (fetchAll []).run.run device = .done (.ok [], device) := rfl
      rw [hnone, Dialogue.runs_done_iff, Prod.mk.injEq]
      constructor
      · rintro ⟨⟨rfl, rfl⟩, rfl⟩
        exact ⟨rfl, .none⟩
      · rintro ⟨rfl, ⟨⟩⟩
        exact ⟨⟨rfl, rfl⟩, rfl⟩
  | cons query queries ih =>
      rw [fetchAll_cons, Task.runs_bind_iff]
      constructor
      · rintro ⟨first, d₁, s₁, hfirst, hrest⟩
        obtain rfl := eq_of_runs_fetch hfirst
        cases first with
        | error failure =>
            obtain ⟨heq, rfl⟩ := hrest
            cases heq
            exact ⟨rfl, .failed hfirst⟩
        | ok events =>
            obtain ⟨rest, hqueries, rfl⟩ := Task.runs_map_iff.mp hrest
            obtain ⟨rfl, heach⟩ := ih.mp hqueries
            exact ⟨rfl, .next hfirst heach⟩
      · rintro ⟨rfl, heach⟩
        cases heach with
        | failed hfailed => exact ⟨_, _, t, hfailed, rfl, rfl⟩
        | @next _ _ _ events s₁ rest _ hfirst heach =>
            have hqueries := ih.mpr ⟨rfl, heach⟩
            exact ⟨_, _, s₁, hfirst, Task.runs_map_iff.mpr ⟨rest, hqueries, rfl⟩⟩

theorem fetchesEach_nil_iff :
    FetchesEach rules device [] s outcome t ↔ outcome = .ok [] ∧ t = s := by
  constructor
  · intro h
    cases h
    exact ⟨rfl, rfl⟩
  · rintro ⟨rfl, rfl⟩
    exact .none

theorem map_append_map_append (events others : List Event) (after : Outcome (List Event)) :
    (after.map (others ++ ·)).map (events ++ ·) = after.map (events ++ others ++ ·) := by
  cases after with
  | error failure => rfl
  | ok last => exact congrArg Except.ok (List.append_assoc events others last).symm

/-- To read the logs of two lists is to read those of the first and, if none of them fails, to go on
with those of the second. -/
theorem fetchesEach_append_iff {first second : List EventQuery} :
    FetchesEach rules device (first ++ second) s outcome t ↔
      ∃ before s', FetchesEach rules device first s before s' ∧
        match before with
        | .ok events => ∃ after, FetchesEach rules device second s' after t ∧
            outcome = after.map (events ++ ·)
        | .error failure => outcome = .error failure ∧ t = s' := by
  induction first generalizing s outcome with
  | nil =>
      have hmap (after : Outcome (List Event)) : after.map ([] ++ ·) = after := by
        cases after <;> rfl
      constructor
      · intro h
        exact ⟨.ok [], s, .none, outcome, h, (hmap outcome).symm⟩
      · rintro ⟨before, s', hnone, h⟩
        obtain ⟨rfl, rfl⟩ := fetchesEach_nil_iff.mp hnone
        obtain ⟨after, h, rfl⟩ := h
        rw [hmap]
        exact h
  | cons query first ih =>
      rw [List.cons_append]
      constructor
      · intro h
        cases h with
        | failed hfailed => exact ⟨.error _, t, .failed hfailed, rfl, rfl⟩
        | @next _ _ _ events _ _ _ hquery hrest =>
            obtain ⟨before, s', hfirst, hsecond⟩ := ih.mp hrest
            refine ⟨_, s', .next hquery hfirst, ?_⟩
            cases before with
            | error failure =>
                obtain ⟨rfl, rfl⟩ := hsecond
                exact ⟨rfl, rfl⟩
            | ok others =>
                obtain ⟨after, hsecond, rfl⟩ := hsecond
                exact ⟨after, hsecond, map_append_map_append events others after⟩
      · rintro ⟨_, s', hfirst, hsecond⟩
        cases hfirst with
        | failed hfailed =>
            obtain ⟨rfl, rfl⟩ := hsecond
            exact .failed hfailed
        | @next _ _ _ events _ before _ hquery hfirst =>
            cases before with
            | error failure =>
                obtain ⟨rfl, rfl⟩ := hsecond
                exact .next hquery (ih.mpr ⟨_, t, hfirst, rfl, rfl⟩)
            | ok others =>
                obtain ⟨after, hsecond, rfl⟩ := hsecond
                have hrest := ih.mpr ⟨.ok others, s', hfirst, after, hsecond, rfl⟩
                rw [← map_append_map_append events others after]
                exact .next hquery hrest

variable (rules) in
/-- What only reads leaves the world as it was. -/
def IsUnchangedByReads : Prop :=
  ∀ question s answer t, question.IsRead → rules question s answer t → t = s

theorem IsUnchangedByReads.eq_of_fetchesEach (h : IsUnchangedByReads rules)
    {queries : List EventQuery} (heach : FetchesEach rules device queries s outcome t) : t = s := by
  have hfetch {query : EventQuery} {s t : σ} {r : Outcome (List Event)}
      (hruns : Dialogue.Runs rules (query.fetch.run.run device) s (r, device) t) : t = s := by
    have step (question : Question) (s' : σ) (answer : Answer question) (t' : σ)
        (hread : question.IsRead) (hrules : rules question s' answer t') (hs : s' = s) : t' = s :=
      (h question s' answer t' hread hrules).trans hs
    exact ((keeps_isRead_fetch query).ensures step rfl _ _ hruns).2
  induction heach with
  | none => rfl
  | failed hfailed => exact hfetch hfailed
  | next hquery _ ih => exact ih.trans (hfetch hquery)

/-- With a meter that reads leave as it is, the logs of two lists come to what those of the first come
to and, if none of them fails, what those of the second come to after it. -/
theorem IsUnchangedByReads.runs_fetchAll_append_iff (h : IsUnchangedByReads rules)
    {first second : List EventQuery} :
    Dialogue.Runs rules ((fetchAll (first ++ second)).run.run device) s (outcome, d) t ↔
      t = s ∧ ∃ before, Dialogue.Runs rules ((fetchAll first).run.run device) s (before, d) s ∧
        match before with
        | .ok events => ∃ after,
            Dialogue.Runs rules ((fetchAll second).run.run device) s (after, d) s ∧
              outcome = after.map (events ++ ·)
        | .error failure => outcome = .error failure := by
  simp only [runs_fetchAll_iff]
  constructor
  · rintro ⟨rfl, heach⟩
    obtain rfl := h.eq_of_fetchesEach heach
    obtain ⟨before, s', hfirst, hrest⟩ := fetchesEach_append_iff.mp heach
    obtain rfl := h.eq_of_fetchesEach hfirst
    refine ⟨rfl, before, ⟨rfl, hfirst⟩, ?_⟩
    cases before with
    | error failure => exact hrest.1
    | ok events =>
        obtain ⟨after, hsecond, rfl⟩ := hrest
        exact ⟨after, ⟨rfl, hsecond⟩, rfl⟩
  · rintro ⟨rfl, before, ⟨rfl, hfirst⟩, hrest⟩
    refine ⟨rfl, fetchesEach_append_iff.mpr ⟨before, _, hfirst, ?_⟩⟩
    cases before with
    | error failure => exact ⟨hrest, rfl⟩
    | ok events =>
        obtain ⟨after, ⟨-, hsecond⟩, rfl⟩ := hrest
        exact ⟨after, hsecond, rfl⟩

end Several

/-- Of a log that reads as a buffer exactly those entries are told whose clock shows an instant, in
their order. This fails, as a failure to decode, exactly if the buffer is neither null nor a list of
structures with a clock and a code, or if the code or the counter of an entry whose clock shows an
instant cannot be read. Several logs are read one after the other, up to the first that fails, and
fail as it does. With a meter that reads leave as it is, two lists of queries put together come to
what the first comes to and, if it does not fail, what the second comes to after it. -/
theorem events_read_in_order :
    (∀ (query : EventQuery) (start finish : Value), Value.ofZoned query.span.start = .ok start →
      Value.ofZoned query.span.finish = .ok finish → ∀ buffer device outcome d history,
      Dialogue.Runs (recording (Turn.ReadsAs (query.address start finish) buffer))
        ((Command.findEvents.execute query).run.run device) [] (outcome, d) history →
      d = device ∧ ReadsKept outcome buffer (IsEntry 2) showsInstant Event.IsReadable
        fun entry event => event.IsToldBy query.log entry) ∧
    ∀ (σ : Type) (rules : Rules Answer σ) device s outcome d t,
      (∀ queries, Dialogue.Runs rules ((fetchAll queries).run.run device) s (outcome, d) t ↔
        d = device ∧ FetchesEach rules device queries s outcome t) ∧
      (IsUnchangedByReads rules → ∀ first second,
        Dialogue.Runs rules ((fetchAll (first ++ second)).run.run device) s (outcome, d) t ↔
          t = s ∧ ∃ before, Dialogue.Runs rules ((fetchAll first).run.run device) s (before, d) s ∧
            match before with
            | .ok events => ∃ after,
                Dialogue.Runs rules ((fetchAll second).run.run device) s (after, d) s ∧
                  outcome = after.map (events ++ ·)
            | .error failure => outcome = .error failure) := by
  constructor
  · intro query start finish hstart hfinish buffer device outcome d history hruns
    obtain ⟨rfl, rfl⟩ := ensures_fetch hstart hfinish buffer device _ _ hruns
    exact ⟨rfl, query.readsKept_readBuffer buffer⟩
  · intro σ rules device s outcome d t
    exact ⟨fun _ => runs_fetchAll_iff, fun h _ _ => h.runs_fetchAll_append_iff⟩

/-- The first of June 2024 at half past two, two hours ahead of UTC. -/
def juneClock : Value :=
  .octets [7, 232, 6, 1, 6, 14, 30, 0, 0, 0xFF, 0x88, 0x80]

/-- What a meter holds as its logs: in that of fraud an entry with a counter, and in any other one
without, after one whose clock shows nothing and whose code is no number. -/
def heldLog (name : ObisCode) : Value :=
  if name = EventLog.fraudDetection.logicalName then .array [.tuple [juneClock, .uint8 40, .uint32 7]]
  else .array [.tuple [.null, .octets []], .tuple [juneClock, .uint16 25]]

/-- A world with that meter in which nothing goes wrong. -/
def logAnswer : (question : Question) → Answer question
  | .read address => .ok (.success (heldLog address.name))
  | .readBatch addresses => .ok (addresses.map fun address => .success (heldLog address.name))
  | question => obligingAnswer question

/-- The rules of that world, which has no state. -/
def logRules : Rules Answer Unit :=
  fun question s answer t => (logAnswer question, s) = (answer, t)

theorem exists_runs_logRules {α : Type} (d : Session α) : ∃ a, Dialogue.Runs logRules d () a () :=
  ⟨_, (Dialogue.runs_iff_run_eq fun question s => (logAnswer question, s)).mpr rfl⟩

theorem readsAs_logAnswer (address : AttributeAddress) (question : Question) :
    Turn.ReadsAs address (heldLog address.name) ⟨question, logAnswer question⟩ := by
  cases question with
  | read other =>
      rintro rfl
      rfl
  | readBatch others =>
      rintro rfl
      rfl
  | _ => trivial

theorem exists_history_of_logRules {α : Type} {d : Session α} {a : α}
    (h : Dialogue.Runs logRules d () a ()) (address : AttributeAddress) :
    ∃ history, Dialogue.Runs (recording (Turn.ReadsAs address (heldLog address.name))) d [] a
      history := by
  refine h.exists_history (fun question s answer t hrules => ?_) []
  obtain ⟨rfl, -⟩ := Prod.mk.inj hrules
  exact readsAs_logAnswer address question

theorem isEntry_juneClock (code : Value) (rest : List Value) :
    IsEntry 2 (.tuple (juneClock :: code :: rest)) :=
  (isEntry_iff (by simp)).mpr (.octets (CosemDateTime.exists_decode_iff.mp ⟨_, rfl⟩))

/-- Of the standard log the one entry is told whose clock shows an instant, and the entry of the log of
fraud comes after it. -/
theorem events_read_in_order_of_skipped_entry :
    ∃ first second,
      Dialogue.Runs logRules
        ((Command.findEvents.execute ⟨.standard, juneSpan⟩).run.run keyedDevice) ()
        (.ok [first], keyedDevice) () ∧
      first.code = 25 ∧ first.counter = none ∧ first.time = ⟨⟨1717245000, 0⟩, 7200⟩ ∧
      Dialogue.Runs logRules
        ((fetchAll ([⟨.standard, juneSpan⟩] ++ [⟨.fraudDetection, juneSpan⟩])).run.run keyedDevice) ()
        (.ok ([first] ++ [second]), keyedDevice) () := by
  obtain ⟨hreads, hseveral⟩ := events_read_in_order
  obtain ⟨start, hstart⟩ : ∃ start, Value.ofZoned juneSpan.start = .ok start := ⟨_, rfl⟩
  obtain ⟨finish, hfinish⟩ : ∃ finish, Value.ofZoned juneSpan.finish = .ok finish := ⟨_, rfl⟩
  have hfetch (log : EventLog) (entries : List Value) (hlog : heldLog log.logicalName = .array entries)
      (hentries : ∀ entry ∈ entries, IsEntry 2 entry ∧
        (showsInstant entry = true → Event.IsReadable entry)) :
      ∃ events, Dialogue.Runs logRules
        ((Command.findEvents.execute ⟨log, juneSpan⟩).run.run keyedDevice) ()
          (.ok events, keyedDevice) () ∧
        List.Forall₂ (fun entry event => event.IsToldBy log entry) (entries.filter showsInstant)
          events := by
    obtain ⟨⟨outcome, d⟩, hruns⟩ :=
      exists_runs_logRules ((Command.findEvents.execute ⟨log, juneSpan⟩).run.run keyedDevice)
    obtain ⟨history, hrecorded⟩ :=
      exists_history_of_logRules hruns (address ⟨log, juneSpan⟩ start finish)
    obtain ⟨rfl, hkept⟩ := hreads ⟨log, juneSpan⟩ start finish hstart hfinish _ _ _ _ _ hrecorded
    obtain ⟨events, rfl⟩ := hkept.accepted.mpr ⟨entries, .inr (.inl hlog), hentries⟩
    obtain ⟨others, hlist, htold⟩ := hkept.reads events rfl
    change (heldLog log.logicalName).IsListOf others at hlist
    rw [hlog, Value.isListOf_array] at hlist
    subst hlist
    exact ⟨events, hruns, htold⟩
  obtain ⟨standard, hstandard, htold⟩ := hfetch .standard _ rfl (by
    simp only [List.forall_mem_cons]
    exact ⟨⟨⟨_, _, rfl, by decide, .null⟩, fun h => by cases h⟩,
      ⟨isEntry_juneClock _ _, fun _ => ⟨⟨_, rfl, 25, rfl⟩, nofun⟩⟩,
      fun _ h => absurd h List.not_mem_nil⟩)
  obtain ⟨fraud, hfraud, htold'⟩ := hfetch .fraudDetection _ rfl (by
    rw [List.forall_mem_singleton]
    refine ⟨isEntry_juneClock _ _, fun _ => ⟨⟨_, rfl, 40, rfl⟩, ?_⟩⟩
    rintro _ ⟨⟩
    exact .inr ⟨7, rfl⟩)
  change List.Forall₂ _ [Value.tuple [juneClock, .uint16 25]] standard at htold
  change List.Forall₂ _ [Value.tuple [juneClock, .uint8 40, .uint32 7]] fraud at htold'
  obtain _ | ⟨hfirst, ⟨⟩⟩ := htold
  obtain _ | ⟨hsecond, ⟨⟩⟩ := htold'
  rename_i first second
  obtain ⟨_, ⟨⟩, hcode⟩ := hfirst.code
  have htime : clockOf? (.tuple [juneClock, .uint16 25]) = some ⟨⟨1717245000, 0⟩, 7200⟩ := by decide
  have hboth := (hseveral Unit logRules keyedDevice () (.ok ([first] ++ [second])) keyedDevice ()).2
    (fun _ _ _ _ _ _ => rfl) [⟨.standard, juneSpan⟩] [⟨.fraudDetection, juneSpan⟩]
  refine ⟨first, second, hstandard, ?_, hfirst.counter, Option.some.inj (hfirst.time.symm.trans htime),
    hboth.mpr ⟨rfl, .ok [first], ?_, .ok [second], ?_, rfl⟩⟩
  · exact Int64.toInt_inj.mp (Option.some.inj hcode).symm
  · exact ((hseveral _ _ _ _ _ _ _).1 _).mpr ⟨rfl, .next hstandard .none⟩
  · exact ((hseveral _ _ _ _ _ _ _).1 _).mpr ⟨rfl, .next hfraud .none⟩

end EventQuery

end HeadEnd
